/-
# BreezLiquid.Send.LockupGuard — concurrent lockups of a send swap.

`try_lockup` checks a snapshot for a lockup id, which may be stale by the time the transaction is built.
What excludes a second lockup is the guarded write of the id: it is set before the broadcast, where none
is set, and unset again if the broadcast fails. The id column is a slot in the sense of
`BreezLiquid.Lib.Slot`.
-/
import BreezLiquid.Model.Slots
import BreezLiquid.Send.Handler

namespace BreezLiquid

/-- The id of a lockup that was broadcast for the swap. -/
def Event.lockupOf (id : SwapId) : Event → Option TxId
  | .lockupBroadcast swapId txId => if swapId = id then some txId else none
  | _ => none

end BreezLiquid

namespace BreezLiquid.Send

open Interleaving Tables

/-- The lockup id of a send swap, and the lockups broadcast for it. -/
def lockupSlot (id : SwapId) : Slot World TxId where
  value w := (w.db.sendSwaps.get? id).bind SendSwap.lockupTxId
  published w := w.trace.filterMap (Event.lockupOf id)

/-- What is asked of the state is kept by whatever leaves the send swaps alone, and by updates of rows
that keep their invoices. -/
structure StableRows (inv : World → Prop) : Prop where
  same : ∀ w w' : World, w'.db.sendSwaps = w.db.sendSwaps → inv w → inv w'
  update : ∀ (w w' : World) now q g hg, (∀ s, (g s).invoice = s.invoice) →
    w'.db.sendSwaps = (w.db.updateSendSwaps now q g hg).sendSwaps → inv w → inv w'

section Idle

variable {sdk : Sdk} {id : SwapId} {inv : World → Prop} {p : Phase TxId}

theorem idle_same (hinv : StableRows inv) {w w' : World} (htrace : w'.trace = w.trace)
    (hrows : w'.db.sendSwaps = w.db.sendSwaps) : Idle (lockupSlot id) inv p w w' := by
  refine fun hi _ => ⟨hinv.same w w' hrows hi, ?_, ?_⟩
  · show (w'.db.sendSwaps.get? id).bind _ = _
    rw [hrows]
    rfl
  · show w'.trace.filterMap _ = _
    rw [htrace]
    rfl

/-- An update that keeps the lockup id of the row, as far as the task knows it. -/
theorem idle_update (hinv : StableRows inv) {w w' : World} (htrace : w'.trace = w.trace) {now : Nat}
    {q : SendSwap → Bool} {g : SendSwap → SendSwap} {hg : ∀ s, (g s).id = s.id}
    (hrows : w'.db.sendSwaps = (w.db.updateSendSwaps now q g hg).sendSwaps)
    (hinvoice : ∀ s, (g s).invoice = s.invoice)
    (hlockup : ∀ s, s.id = id → q s = true → (∀ v, p = .spent v → s.lockupTxId = some v) →
      (g s).lockupTxId = s.lockupTxId) : Idle (lockupSlot id) inv p w w' := by
  refine fun hi hknows => ⟨hinv.update w w' now q g hg hinvoice hrows hi, ?_, ?_⟩
  · show Option.bind (w'.db.sendSwaps.get? id) _ = Option.bind (w.db.sendSwaps.get? id) _
    rw [hrows, Db.get?_updateSendSwaps]
    rcases hrow : w.db.sendSwaps.get? id with _ | row
    · rfl
    · show (if q row then _ else row : SendSwap).lockupTxId = row.lockupTxId
      split
      · rename_i hq
        refine hlockup row (Table.get?_some_key hrow) hq ?_
        rintro v rfl
        have hvalue : (w.db.sendSwaps.get? id).bind SendSwap.lockupTxId = some v := hknows
        rw [hrow] at hvalue
        exact hvalue
      · rfl
  · show w'.trace.filterMap _ = _
    rw [htrace]
    rfl

/-- A part of a task that has nothing to do with the lockup of the swap. -/
abbrev Elsewhere (sdk : Sdk) (id : SwapId) (inv : World → Prop) (p : Phase TxId) {α : Type}
    (t : Async α) : Prop :=
  t.Within (fun f => ∀ w, Idle (lockupSlot id) inv p w (f w))
    (fun q => ∀ a w, Idle (lockupSlot id) inv p w (World.effect sdk q a w))

theorem elsewhere_fetch {α : Type} (g : Db → α) : Elsewhere sdk id inv p (fetch g) :=
  within_fetch idle_refl g

theorem elsewhere_done {α : Type} (x : Except Err α) :
    Elsewhere sdk id inv p (Task.done x : Async α) := Task.within_done x

theorem idle_quiet {q : Call} (h : q.Quiet) (a : q.Answer) (w : World) :
    Idle (lockupSlot id) inv p w (World.effect sdk q a w) := by
  rw [effect_of_quiet sdk h]
  exact idle_refl w

theorem elsewhere_askOk {α : Type} {q : Call} (h : q.Quiet) (hq : q.Answer = Except Err α) :
    Elsewhere sdk id inv p (Task.askOk q hq) := Task.within_askOk (idle_quiet h) hq

theorem idle_details (hinv : StableRows inv) (details : PaymentTxDetails) (w : World) :
    Idle (lockupSlot id) inv p w
      (w.write fun now db => db.insertOrUpdatePaymentDetails sdk.persister now details) :=
  idle_same hinv rfl (Db.commitOutgoing_sendSwaps ..)

/-- An update of another swap, or one that records no lockup, or one after the swap's own broadcast. -/
theorem elsewhere_updateSwapInfo (hinv : StableRows inv) (swapId : SwapId) (toState : PaymentState)
    {preimage lockupTxId refundTxId : Option String}
    (h : swapId = id → lockupTxId = none ∨ ∃ v, p = .spent v) :
    Elsewhere sdk id inv p (updateSwapInfo sdk swapId toState preimage lockupTxId refundTxId) := by
  refine within_updateSwapInfo idle_refl (fun w => ?_) (idle_details hinv)
  refine idle_update hinv rfl (Db.commitOutgoing_sendSwaps ..) (fun _ => rfl) ?_
  intro s hid hq hknown
  show s.lockupTxId.or lockupTxId = s.lockupTxId
  have hsame : swapId = id := (of_decide_eq_true hq).symm.trans hid
  rcases h hsame with rfl | ⟨v, hv⟩
  · exact Option.or_none
  · rw [hknown v hv]
    rfl

end Idle

/-! ## The slot of a lockup -/

section Lockup

variable {sdk : Sdk} {id : SwapId} {inv : World → Prop}

/-- `set_send_swap_lockup_tx_id` takes the slot. -/
theorem takes_setSendSwapLockupTxId (hinv : StableRows inv) {txId : TxId} (w : World) (db : Db)
    (h : w.db.setSendSwapLockupTxId w.now id txId = .ok db) (hi : inv w) :
    inv { w with db } ∧ (lockupSlot id).Takes txId w { w with db } := by
  unfold Db.setSendSwapLockupTxId at h
  dsimp only at h
  split at h
  · rename_i hany
    cases h
    exact ⟨hinv.update w _ _ _ _ _ (by intro s; rfl) rfl hi, Table.column_eq_none hany, Table.column_set hany, rfl⟩
  · cases h

/-- `unset_send_swap_lockup_tx_id` frees the slot that has its id. -/
theorem releases_unsetSendSwapLockupTxId (hinv : StableRows inv) {txId : TxId} (w : World) (hi : inv w)
    (h : (lockupSlot id).value w = some txId) :
    inv (w.write fun now db => db.unsetSendSwapLockupTxId now id txId) ∧
      (lockupSlot id).Releases w (w.write fun now db => db.unsetSendSwapLockupTxId now id txId) :=
  ⟨hinv.update w _ _ _ _ _ (by intro s; rfl) rfl hi, Table.column_unset h, rfl⟩

/-- The broadcast of a lockup publishes its id. -/
theorem publishes_lockup (hinv : StableRows inv) : Publishing (lockupSlot id) inv (.lockup id) :=
  publishing_of_event (fun w _ => hinv.same w _ rfl) (fun _ _ => rfl) (fun _ => rfl) (fun _ _ _ => if_pos rfl)
    fun _ => rfl

/-- A lockup of another swap has nothing to do with the slot. -/
theorem elsewhere_tryLockup (hinv : StableRows inv) {swap : SendSwap} (hid : swap.id ≠ id)
    (createResponse : InternalCreateSubmarineResponse) :
    Elsewhere sdk id inv .free (tryLockup sdk swap createResponse) := by
  have hother : ∀ s : SendSwap, s.id = id → s.id ≠ swap.id := fun s hs h => hid (h.symm.trans hs)
  refine within_tryLockup (idle_quiet trivial) (fun txId w => ?_) (fun tx a w => ?_) (fun txId w => ?_)
    (fun ptx w => idle_same hinv rfl rfl) fun txId => elsewhere_updateSwapInfo hinv swap.id .pending fun h => absurd h hid
  · rcases World.tryWrite_cases _ w with ⟨db, hdb, h⟩ | h
    · rw [h]
      unfold Db.setSendSwapLockupTxId at hdb
      dsimp only at hdb
      split at hdb
      · cases hdb
        refine idle_update hinv rfl rfl ?_ ?_
        · exact fun _ => rfl
        · intro s hs hq _
          exact absurd (of_decide_eq_true (Bool.and_eq_true_iff.mp hq).1) (hother s hs)
      · cases hdb
    · rw [h]
      exact idle_refl w
  · -- its broadcast is another swap's
    show Idle (lockupSlot id) inv _ w (w.broadcastEffect (.lockup swap.id) tx.txid a)
    rcases World.broadcastEffect_cases (.lockup swap.id) tx.txid a w with h | ⟨answered, h⟩ | h
    · rw [h]
      exact idle_refl w
    · rw [h]
      refine fun hi _ => ⟨hinv.same w _ rfl hi, rfl, ?_⟩
      show List.filterMap _ (_ :: w.trace) = _
      exact List.filterMap_cons_none (if_neg hid)
    · rw [h]
      exact fun hi _ => ⟨hinv.same w _ rfl hi, rfl, rfl⟩
  · refine idle_update hinv rfl rfl ?_ ?_
    · exact fun _ => rfl
    · intro s hs hq _
      exact absurd (of_decide_eq_true (Bool.and_eq_true_iff.mp hq).1) (hother s hs)

variable {ρ : Type} {S : System World Call Call.Answer Err ρ} (hS : S.effect = World.effect sdk)
  (hanswers : ∀ q a w, S.answers q a w)

include hS

theorem Elsewhere.idle {α : Type} {p : Phase TxId} {t : Async α} (h : Elsewhere sdk id inv p t) :
    t.Within (fun f => ∀ w, Idle (lockupSlot id) inv p w (f w))
      (fun q => ∀ a w, Idle (lockupSlot id) inv p w (S.effect q a w)) := by
  rw [hS]
  exact h

include hanswers

/-- A lockup of the swap keeps to the slot, whatever snapshot it starts from. -/
theorem follows_tryLockup (hinv : StableRows inv) {swap : SendSwap} (hid : swap.id = id)
    (createResponse : InternalCreateSubmarineResponse) :
    Follows S (lockupSlot id) inv .free (tryLockup sdk swap createResponse) Returned := by
  subst hid
  unfold tryLockup
  split
  · rfl
  · refine follows_idle_bind rfl (Elsewhere.idle hS (elsewhere_askOk
      (q := .buildTxOrDrainTx createResponse.address createResponse.expectedAmount) trivial rfl))
      (fun _ => rfl) fun lockupTx => ?_
    -- the id is set ...
    refine Follows.bind ((follows_take (takes_setSendSwapLockupTxId hinv)).mono fun x p hx => ?_)
    rcases x with err | _
    · cases hx
      rfl
    · cases hx
      -- ... before the broadcast, and unset if that fails
      refine Follows.bind (Follows.attempt ((follows_liquidBroadcast hS hanswers
        (publishes_lockup hinv) rfl).mono fun x p hx => ?_))
      rcases x with err | answered
      · cases hx
        refine Follows.bind ((follows_release (releases_unsetSendSwapLockupTxId hinv)).mono
          fun x p hx => ?_)
        cases hx
        rcases x with err | _
        · rfl
        · rfl
      · cases hx
        refine follows_idle rfl (Elsewhere.idle hS ?_) fun _ => rfl
        refine Task.Within.bind (within_write fun w => idle_same hinv rfl rfl) fun _ => ?_
        refine Task.Within.bind (elsewhere_updateSwapInfo hinv swap.id .pending fun _ => ?_) fun _ =>
          elsewhere_done _
        exact .inr ⟨_, rfl⟩

/-- A lockup of any swap keeps to the slot. -/
theorem follows_anyLockup (hinv : StableRows inv) (swap : SendSwap)
    (createResponse : InternalCreateSubmarineResponse) :
    Follows S (lockupSlot id) inv .free (tryLockup sdk swap createResponse) Returned := by
  by_cases hid : swap.id = id
  · exact follows_tryLockup hS hanswers hinv hid createResponse
  · exact follows_idle rfl (Elsewhere.idle hS (elsewhere_tryLockup hinv hid createResponse)) fun _ => rfl

end Lockup

end BreezLiquid.Send
