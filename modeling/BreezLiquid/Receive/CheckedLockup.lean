/-
# BreezLiquid.Receive.CheckedLockup — what is claimed and recorded was checked.

Before it is claimed, a receive swap's lockup goes through the amount check, in every handler. A status
update also records an id, which the rescans on blocks look up later; that id comes from the payload, next
to the transaction in hex. `verify_tx` compares the two. The mempool handler does not when its own
broadcast succeeds. If every reported transaction that is broadcast has the id it is reported under, all
recorded ids are those of checked transactions.
-/
import BreezLiquid.Chain.Footprint
import BreezLiquid.Receive.Handler

namespace BreezLiquid.Receive

open Interleaving Recover Chain Tables

/-! ## The system of receive swap tasks -/

/-- The handler, or a task that writes recovered swaps. -/
inductive Role where
  | handler
  | recovery
  deriving DecidableEq

/-- The tasks of each role. Any number of them may run at a time. -/
inductive Spawned (sdk : Sdk) : Role → Async Unit → Prop where
  | status (update : SwapStatus) : Spawned sdk .handler (onNewStatus sdk update)
  | liquidBlock : Spawned sdk .handler (onLiquidBlock sdk)
  | syncRecoverable (swaps : List Swap) (tips : Option ChainTips) :
      Spawned sdk .recovery (syncRecoverableSwaps sdk swaps tips)

/-- The rest of the SDK may change anything but the history. -/
def receiveSystem (sdk : Sdk) : System World Call Call.Answer Err Role where
  effect := World.effect sdk
  spawns _ _ r t := Spawned sdk r t
  env w w' := w'.trace = w.trace

/-! ## Checked lockups -/

/-- The first output to the script of the swap pays at least the receiver amount and the claim fees. -/
def PaysSwap (sdk : Sdk) (swap : ReceiveSwap) (tx : LBtcTransaction) : Prop :=
  ∃ address amount, swapAddress sdk swap = .ok address ∧ lockupAmount address tx = .ok amount ∧
    expectedLockupAmountSat swap ≤ amount

/-- The amount check succeeded for the transaction and the swap. -/
def Checked (sdk : Sdk) (trace : List Event) (id : SwapId) (tx : LBtcTransaction) : Prop :=
  ∃ swap : ReceiveSwap, swap.id = id ∧ .receiveAmountChecked swap tx ∈ trace ∧ PaysSwap sdk swap tx

/-- Every claim was reached after a check. -/
def ClaimsChecked (sdk : Sdk) (trace : List Event) : Prop :=
  ∀ new old id, trace = new ++ .receiveClaimReached id :: old → ∃ tx, Checked sdk old id tx

/-- A step that changes a recorded lockup id changes it to that of a checked transaction. -/
def RecordsChecked (sdk : Sdk) (w w' : World) : Prop :=
  ∀ id row row', w.db.receiveSwaps.get? id = some row → w'.db.receiveSwaps.get? id = some row' →
    row'.lockupTxId = row.lockupTxId ∨
      ∃ tx, row'.lockupTxId = some tx.txid ∧ Checked sdk w.trace id tx

/-- A reported lockup that is broadcast has the id it is reported under. -/
def ReportsMatch : Cond World Role
  | .own .handler, w, w' => ∀ id txId actual,
      w'.trace = .reportedBroadcast id txId actual :: w.trace → txId = actual
  | _, _, _ => True

/-- Nothing of the history is lost. -/
def Grows (w w' : World) : Prop := ∀ e ∈ w.trace, e ∈ w'.trace

section Checked

variable {sdk : Sdk}

theorem Checked.grows {w w' : World} {id : SwapId} {tx : LBtcTransaction} (hg : Grows w w')
    (h : Checked sdk w.trace id tx) : Checked sdk w'.trace id tx := by
  rcases h with ⟨swap, hid, hmem, hpays⟩
  exact ⟨swap, hid, hg _ hmem, hpays⟩

theorem claimsChecked_cons {trace : List Event} (h : ClaimsChecked sdk trace) {e : Event}
    (he : ∀ id, e = .receiveClaimReached id → ∃ tx, Checked sdk trace id tx) :
    ClaimsChecked sdk (e :: trace) := by
  intro new old id hsplit
  rcases new with _ | ⟨e', new⟩
  · obtain ⟨rfl, rfl⟩ := List.cons.inj hsplit
    exact he id rfl
  · obtain ⟨rfl, hrest⟩ := List.cons.inj hsplit
    exact h new old id hrest

/-- What the amount check says when it succeeds. -/
theorem paysSwap_of_checkLockupAmount {swap : ReceiveSwap} {tx : LBtcTransaction}
    (h : checkLockupAmount sdk swap tx = .ok ()) : PaysSwap sdk swap tx := by
  unfold checkLockupAmount at h
  obtain ⟨address, haddress, h⟩ := except_bind_eq_ok.mp h
  obtain ⟨createResponse, -, h⟩ := except_bind_eq_ok.mp h
  obtain ⟨key, -, h⟩ := except_bind_eq_ok.mp h
  obtain ⟨amount, hamount, h⟩ := except_bind_eq_ok.mp h
  refine ⟨address, amount, haddress, hamount, ?_⟩
  dsimp only at h
  split at h
  · cases h
  · omega

end Checked

/-! ## The protocol -/

/-- All tasks let the history grow; the handler records checked lockups only. -/
def lockupProtocol (sdk : Sdk) : Protocol World Role where
  inv w := ClaimsChecked sdk w.trace
  rely _ := Grows
  guar r w w' := Grows w w' ∧ (r = .handler → RecordsChecked sdk w w')
  idle _ _ := True
  rely_refl _ _ _ h := h
  rely_trans _ _ _ _ h h' := fun e he => h' e (h e he)
  idle_stable _ _ _ _ _ _ := trivial

section Handler

variable {sdk : Sdk}

/-- A part of the handler keeps the protocol, and what it returns satisfies `φ`. -/
abbrev Guarded (sdk : Sdk) {α : Type} (t : Async α) (φ : α → World → Prop) (w : World) : Prop :=
  Safe (receiveSystem sdk) ReportsMatch (lockupProtocol sdk) .handler t (OnOk φ) w

theorem guarded_self (w w' : World) (h : (lockupProtocol sdk).guar .handler w w') :
    (lockupProtocol sdk).rely .handler w w' := h.1

/-- A write that leaves the history and the recorded lockups alone. -/
def Calm (w w' : World) : Prop :=
  w'.trace = w.trace ∧ ∀ id row row', w.db.receiveSwaps.get? id = some row →
    w'.db.receiveSwaps.get? id = some row' → row'.lockupTxId = row.lockupTxId

theorem calm_of_rows {w w' : World} (htrace : w'.trace = w.trace)
    (hrows : w'.db.receiveSwaps = w.db.receiveSwaps) : Calm w w' := by
  refine ⟨htrace, fun id row row' hrow hrow' => ?_⟩
  rw [hrows, hrow] at hrow'
  cases hrow'
  rfl

/-- An update of rows that keeps their lockups. -/
theorem calm_update {w : World} {p : ReceiveSwap → Bool} {g : ReceiveSwap → ReceiveSwap}
    {hg : ∀ s, (g s).id = s.id} (h : ∀ s, (g s).lockupTxId = s.lockupTxId) :
    Calm w (w.write fun now db => db.updateReceiveSwaps now p g hg) := by
  refine ⟨rfl, fun id row row' hrow hrow' => ?_⟩
  rw [World.write, Db.get?_updateReceiveSwaps, hrow, Option.map_some] at hrow'
  cases hrow'
  split
  · exact h row
  · rfl

/-- Where no lockup changes and nothing happens, nothing has to be checked. -/
theorem keeps_calm {w w' : World} (h : Calm w w') (hi : ClaimsChecked sdk w.trace) :
    ClaimsChecked sdk w'.trace ∧ Grows w w' ∧ RecordsChecked sdk w w' := by
  refine ⟨h.1 ▸ hi, ?_, fun id row row' hrow hrow' => .inl (h.2 id row row' hrow hrow')⟩
  intro e he
  rw [h.1]
  exact he

/-- An event that is no claim, or a claim after a check. -/
theorem keeps_note {w : World} (hi : ClaimsChecked sdk w.trace) (e : Event)
    (he : ∀ id, e = .receiveClaimReached id → ∃ tx, Checked sdk w.trace id tx) :
    ClaimsChecked sdk (w.note e).trace ∧ Grows w (w.note e) ∧ RecordsChecked sdk w (w.note e) := by
  refine ⟨claimsChecked_cons hi he, fun e' he' => List.mem_cons_of_mem e he', ?_⟩
  intro id row row' hrow hrow'
  have hsame : some row = some row' := hrow.symm.trans hrow'
  cases hsame
  exact .inl rfl

/-- What an answered call does: nothing the protocol is about, or a broadcast. -/
theorem keeps_effect {w : World} (hi : ClaimsChecked sdk w.trace) (q : Call) (a : q.Answer) :
    ClaimsChecked sdk (World.effect sdk q a w).trace ∧ Grows w (World.effect sdk q a w) ∧
      RecordsChecked sdk w (World.effect sdk q a w) := by
  by_cases hq : NoPush q
  · rcases effect_note sdk hq a w with h | ⟨e, he, h⟩
    · rw [h]
      exact keeps_calm (calm_of_rows rfl rfl) hi
    · rw [h]
      refine keeps_note hi e fun id heq => ?_
      subst heq
      exact he.elim
  · unfold NoPush at hq
    push Not at hq
    obtain ⟨record, rfl⟩ := hq
    refine keeps_calm (calm_of_rows ?_ ?_) hi
    · rcases a with err | reply
      · rfl
      · show (if _ then _ else w : World).trace = w.trace
        split
        · rfl
        · rfl
    · rcases a with err | reply
      · rfl
      · show (if _ then _ else w : World).db.receiveSwaps = w.db.receiveSwaps
        split
        · rfl
        · rfl

/-- A task whose transactions are calm. -/
abbrev CalmTask {α : Type} (t : Async α) : Prop :=
  t.Within (fun f => ∀ w, Calm w (f w)) fun _ => True

theorem benign_calm {α : Type} {t : Async α} (h : CalmTask t) :
    Benign (receiveSystem sdk) ReportsMatch (lockupProtocol sdk) .handler t := by
  refine h.mono (fun f hf w hi _ => ?_) fun q _ a w _ hi _ => ?_
  · obtain ⟨hi', hg, hr⟩ := keeps_calm (hf w) hi
    exact ⟨hi', hg, fun _ => hr⟩
  · obtain ⟨hi', hg, hr⟩ := keeps_effect hi q a
    exact ⟨hi', hg, fun _ => hr⟩

/-- A calm part is guarded, whatever is known before it. -/
theorem guarded_calm {α : Type} {t : Async α} (h : CalmTask t) {φ : α → World → Prop} {w : World}
    (hφ : ∀ a w₁, Grows w w₁ → φ a w₁) : Guarded sdk t φ w := by
  refine (benign_calm h).safe_of guarded_self fun x w₁ h₁ _ => ?_
  rcases x with err | a
  · trivial
  · exact hφ a w₁ h₁

/-- A calm part, then the rest. -/
theorem guarded_calm_bind {α β : Type} {t : Async α} {g : α → Async β} (h : CalmTask t)
    {ψ : β → World → Prop} {w : World} (hg : ∀ a w₁, Grows w w₁ → Guarded sdk (g a) ψ w₁) :
    Guarded sdk (t.bind g) ψ w :=
  (benign_calm h).safe_bind guarded_self (fun _ _ _ _ => trivial) fun a w₁ h₁ _ => hg a w₁ h₁

/-! ## Calm parts of the handler -/

theorem calm_refl (w : World) : Calm w w := calm_of_rows rfl rfl

/-- The calm parts of the handler: reading ... -/
theorem calmTask_fetch {α : Type} (g : Db → α) : CalmTask (fetch g) := within_fetch calm_refl g

theorem calmTask_fetchReceiveSwapById (swapId : SwapId) : CalmTask (fetchReceiveSwapById swapId) :=
  Task.Within.bind (calmTask_fetch _) fun _ => Task.within_done _

theorem calmTask_ask {q : Call} {α : Type} (h : q.Answer = Except Err α) :
    CalmTask (Task.askOk q h) := Task.within_askOk trivial h

/-- A transition that records no lockup. -/
theorem calmTask_updateSwapInfo (swapId : SwapId) (toState : PaymentState) :
    CalmTask (updateSwapInfo swapId toState none none none none) := by
  refine Task.Within.bind (calmTask_fetchReceiveSwapById swapId) fun swap => ?_
  refine Task.Within.bind (Task.within_done _) fun _ => ?_
  refine Task.Within.bind (within_write fun w => calm_update fun s => ?_) fun _ => ?_
  · exact Option.or_none
  · exact Task.Within.bind (calmTask_fetchReceiveSwapById swapId) fun _ => trivial

/-- ... asking for a history, several times ... -/
theorem calmTask_getScriptHistoryWithRetry (script : Script) (attempts : Nat) :
    CalmTask (getScriptHistoryWithRetry script attempts) := by
  induction attempts with
  | zero => trivial
  | succ attempts ih =>
      refine Task.Within.bind (calmTask_ask rfl) fun history => ?_
      split
      · exact Task.Within.bind (Task.within_ask trivial) fun _ => ih
      · trivial

/-- ... verifying that the lockup is known ... -/
theorem calmTask_verifyLockupTxStatus (swap : ReceiveSwap) (txId : TxId) (txHex : String)
    (conf : Bool) : CalmTask (verifyLockupTxStatus sdk swap txId txHex conf) := by
  refine Task.Within.bind (Task.within_done _) fun address => ?_
  refine Task.Within.bind (calmTask_getScriptHistoryWithRetry address 31) fun history => ?_
  exact Task.Within.bind (Task.within_done _) fun h => Task.within_done _

/-- ... setting the claim ... -/
theorem calm_setReceiveSwapClaimTxId (swapId : SwapId) (txId : TxId) (w : World) :
    Calm w (w.tryWrite fun now db => db.setReceiveSwapClaimTxId now swapId txId) := by
  rcases World.tryWrite_cases (fun now db => db.setReceiveSwapClaimTxId now swapId txId) w with
    ⟨db, hdb, h⟩ | h
  · rw [h]
    unfold Db.setReceiveSwapClaimTxId at hdb
    dsimp only at hdb
    split at hdb
    · cases hdb
      exact calm_update fun _ => rfl
    · cases hdb
  · rw [h]
    exact calm_refl w

/-- ... and claiming, once the claim is entered. -/
theorem calmTask_claimInner (swapId : SwapId) : CalmTask (claimInner swapId) :=
  within_claimInner calm_refl trivial (fun _ _ => trivial) (fun _ _ _ => calm_update fun _ => rfl)
    (calm_setReceiveSwapClaimTxId swapId) (fun _ _ => calm_update fun _ => rfl)
    (fun _ _ => calm_of_rows rfl rfl)
    fun tx => within_broadcastClaim (fun _ => trivial) (fun _ => trivial) (fun _ => trivial) (.liquid tx)

/-! ## The checks -/

/-- `verify_tx` returns the transaction in hex, and its id is the one asked for. -/
theorem yields_verifyLockupTxStatus (swap : ReceiveSwap) (txId : TxId) (txHex : String) (conf : Bool) :
    (verifyLockupTxStatus sdk swap txId txHex conf).Yields fun x =>
      ∀ tx, x = .ok tx → sdk.deserializeTxHex txHex = some tx ∧ tx.txid = txId := by
  refine Task.Yields.bind_any nofun fun address => Task.Yields.bind_any nofun fun scriptHistory => ?_
  refine Task.Yields.ofExcept_bind nofun fun history hfound => ?_
  have hid : history.txid = txId := by
    have hsome := List.find?_some (okOr_eq_ok.mp hfound)
    exact of_decide_eq_true hsome
  intro tx htx
  unfold checkTx at htx
  obtain ⟨tx', hhex, htx⟩ := except_bind_eq_ok.mp htx
  split at htx
  · cases htx
  · rename_i hsame
    split at htx
    · cases htx
    · cases htx
      exact ⟨okOr_eq_ok.mp hhex, (not_not.mp hsame).trans hid⟩

/-- The amount check notes the transaction that it checked ... -/
theorem guarded_verifyLockupTxAmount (swap : ReceiveSwap) (tx : LBtcTransaction) (w : World) :
    Guarded sdk (verifyLockupTxAmount sdk swap tx) (fun _ w => Checked sdk w.trace swap.id tx) w := by
  refine Safe.ofExcept_bind fun _ hcheck => ?_
  intro w₁ h₁ hi _
  obtain ⟨hi', hg, hr⟩ := keeps_note hi (.receiveAmountChecked swap tx) nofun
  refine ⟨hi', ⟨hg, fun _ => hr⟩, safe_ok fun w₂ h₂ _ => ?_⟩
  refine Checked.grows h₂ ⟨swap, rfl, List.mem_cons_self, ?_⟩
  exact paysSwap_of_checkLockupAmount hcheck

/-- ... and returns only if it pays the swap. -/
theorem guarded_requireLockupAmount (swap : ReceiveSwap) (swapId : SwapId)
    (transaction : TransactionInfo) (tx : LBtcTransaction) (w : World) :
    Guarded sdk (requireLockupAmount sdk swap swapId transaction tx)
      (fun _ w => Checked sdk w.trace swap.id tx) w := by
  refine (guarded_verifyLockupTxAmount swap tx w).attempt_ok.bind_ok guarded_self
    fun res w₁ _ _ hres => ?_
  rcases res with err | a
  · refine guarded_calm_bind (calmTask_updateSwapInfo _ _) fun _ _ _ => ?_
    exact safe_error
  · exact safe_ok fun w₂ h₂ _ => (hres a rfl).grows h₂

/-- A reported lockup has the id it is reported under, whether it was broadcast or found. -/
theorem guarded_broadcastReported {swap : ReceiveSwap} {transaction : TransactionInfo} {txHex : String}
    {tx : LBtcTransaction} (hhex : sdk.deserializeTxHex txHex = some tx) (w : World) :
    Guarded sdk (broadcastReported sdk swap transaction txHex tx)
      (fun _ _ => transaction.id = tx.txid) w := by
  intro w₁ _ hi answer _ hc
  obtain ⟨hi', hg, hr⟩ := keeps_effect hi (.liquidBroadcast (.reported swap.id transaction.id) tx) answer
  refine ⟨hi', ⟨hg, fun _ => hr⟩, ?_⟩
  rcases answer with err | answered
  · -- the broadcast failed: `verify_tx` compares the ids
    generalize (receiveSystem sdk).effect (.liquidBroadcast (.reported swap.id transaction.id) tx) (.error err) w₁ = w₂
    have hyields : (verifyLockupTxStatus sdk swap transaction.id txHex false).Yields fun x =>
        ∀ tx, x = .ok tx → sdk.deserializeTxHex txHex = some tx ∧ tx.txid = transaction.id :=
      yields_verifyLockupTxStatus swap transaction.id txHex false
    have hverified : Guarded sdk (verifyLockupTxStatus sdk swap transaction.id txHex false)
        (fun _ _ => transaction.id = tx.txid) w₂ := by
      have hcalm : Guarded sdk (verifyLockupTxStatus sdk swap transaction.id txHex false)
          (fun _ _ => True) w₂ :=
        guarded_calm (calmTask_verifyLockupTxStatus swap _ _ _) fun _ _ _ => trivial
      refine (hcalm.yields hyields).mono fun x _ _ hx => ?_
      rcases x with err | tx'
      · trivial
      · obtain ⟨hhex', hid⟩ := hx.1 tx' rfl
        rw [hhex] at hhex'
        cases hhex'
        exact hid.symm
    show Guarded sdk ((mapErr _ (verifyLockupTxStatus sdk swap transaction.id txHex false)).bind
      fun _ => Task.done (.ok ())) _ w₂
    refine (safe_mapErr hverified).bind_ok guarded_self fun _ _ _ _ hid => ?_
    exact safe_ok fun _ _ _ => hid
  · -- the broadcast succeeded: the ids match by the condition
    exact safe_ok fun _ _ _ => hc swap.id transaction.id tx.txid rfl

/-! ## Recording and claiming -/

/-- A transition to `Pending` records the id of a checked transaction. -/
theorem guarded_recordLockup {swapId : SwapId} {txId : TxId} {tx : LBtcTransaction} {w : World}
    (hid : txId = tx.txid) (hchecked : Checked sdk w.trace swapId tx) :
    Guarded sdk (updateSwapInfo swapId .pending none (some txId) none none) (fun _ _ => True) w := by
  refine guarded_calm_bind (calmTask_fetchReceiveSwapById swapId) fun swap w₁ h₁ => ?_
  refine Safe.ofExcept_bind fun _ _ => ?_
  intro w₂ h₂ hi _
  refine ⟨hi, ⟨fun e he => he, fun _ => ?_⟩, ?_⟩
  · intro id row row' hrow hrow'
    rw [World.write, Db.tryHandleReceiveSwapUpdate, Db.get?_updateReceiveSwaps, hrow,
      Option.map_some] at hrow'
    cases hrow'
    split
    · rename_i hsame
      have hswap : row.id = swapId := of_decide_eq_true hsame
      have hrowId : row.id = id := Table.get?_some_key hrow
      show row.lockupTxId.or (some txId) = row.lockupTxId ∨
        ∃ tx, row.lockupTxId.or (some txId) = some tx.txid ∧ Checked sdk w₂.trace id tx
      rcases row.lockupTxId with _ | recorded
      · refine .inr ⟨tx, ?_, ?_⟩
        · rw [Option.none_or, hid]
        · rw [← hrowId, hswap]
          exact (hchecked.grows h₁).grows h₂
      · exact .inl rfl
    · exact .inl rfl
  · refine guarded_calm_bind (calmTask_fetchReceiveSwapById swapId) fun _ _ _ => ?_
    exact safe_ok fun _ _ _ => trivial

/-- A claim of a swap whose lockup was checked. -/
theorem guarded_claim {swapId : SwapId} {tx : LBtcTransaction} {w : World}
    (hchecked : Checked sdk w.trace swapId tx) : Guarded sdk (claim swapId) (fun _ _ => True) w := by
  intro w₁ h₁ hi _
  obtain ⟨hi', hg, hr⟩ := keeps_note hi (.receiveClaimReached swapId) fun id heq => by
    cases heq
    exact ⟨tx, hchecked.grows h₁⟩
  refine ⟨hi', ⟨hg, fun _ => hr⟩, ?_⟩
  dsimp only
  split
  · exact safe_ok fun _ _ _ => trivial
  · refine guarded_calm ?_ fun _ _ _ => trivial
    refine Task.Within.bind (calmTask_claimInner swapId).attempt fun result => ?_
    exact Task.Within.bind (Task.within_modify fun w => calm_of_rows rfl rfl) fun _ =>
      Task.within_done _

/-- A claim is reached with the check in the trace. -/
theorem guarded_tryClaim {swapId : SwapId} {tx : LBtcTransaction} {w : World}
    (hchecked : Checked sdk w.trace swapId tx) :
    Guarded sdk (tryClaim swapId) (fun _ _ => True) w := by
  refine (guarded_claim hchecked).attempt_ok.bind_ok guarded_self fun _ _ _ _ _ => ?_
  exact safe_ok fun _ _ _ => trivial

/-! ## Status updates -/

theorem calmTask_refuseMrh (swap : ReceiveSwap) (swapId : SwapId) :
    CalmTask (refuseMrh swap swapId) := by
  unfold refuseMrh
  split <;> trivial

/-- A lockup in the mempool is checked before its id is recorded ... -/
theorem guarded_onTransactionMempool {swap : ReceiveSwap} {update : SwapStatus} (w : World)
    (hid : swap.id = update.id) :
    Guarded sdk (onTransactionMempool sdk swap update) (fun _ _ => True) w := by
  refine guarded_calm_bind (Task.within_done _) fun transaction w₁ _ => ?_
  split
  · exact safe_error
  · refine guarded_calm_bind (calmTask_refuseMrh swap update.id) fun _ w₂ _ => ?_
    refine Safe.ofExcept_bind fun txHex _ => ?_
    refine Safe.ofExcept_bind fun lockupTx hhex => ?_
    -- the reported id is that of the transaction in hex ...
    refine (guarded_broadcastReported (okOr_eq_ok.mp hhex) w₂).bind_ok guarded_self
      fun _ w₃ _ _ hmatch => ?_
    -- ... which is then checked
    refine (guarded_requireLockupAmount swap update.id transaction lockupTx w₃).bind_ok guarded_self
      fun _ w₄ _ _ hchecked => ?_
    rw [hid] at hchecked
    refine (guarded_recordLockup hmatch hchecked).bind_ok guarded_self fun _ w₅ h₅ _ _ => ?_
    unfold claimZeroConf
    split
    · exact safe_ok fun _ _ _ => trivial
    · split
      · exact safe_ok fun _ _ _ => trivial
      · exact guarded_tryClaim (hchecked.grows h₅)

/-- ... and a confirmed one before the claim. -/
theorem guarded_onTransactionConfirmed {swap : ReceiveSwap} {update : SwapStatus} (w : World)
    (hid : swap.id = update.id) :
    Guarded sdk (onTransactionConfirmed sdk swap update) (fun _ _ => True) w := by
  refine guarded_calm_bind (Task.within_done _) fun transaction w₁ _ => ?_
  refine guarded_calm_bind (calmTask_refuseMrh swap update.id) fun _ w₂ _ => ?_
  refine Safe.ofExcept_bind fun txHex _ => ?_
  refine guarded_calm_bind (within_mapErr (calmTask_verifyLockupTxStatus swap _ _ _))
    fun lockupTx w₃ _ => ?_
  refine (guarded_requireLockupAmount swap update.id transaction lockupTx w₃).bind_ok guarded_self
    fun _ w₄ _ _ hchecked => ?_
  rw [hid] at hchecked
  split
  · exact safe_ok fun _ _ _ => trivial
  · refine guarded_calm_bind (calmTask_updateSwapInfo swap.id .pending) fun _ w₅ h₅ => ?_
    exact guarded_tryClaim (hchecked.grows h₅)

/-- The row that is read has the id. -/
theorem guarded_fetchReceiveSwapById (swapId : SwapId) (w : World) :
    Guarded sdk (fetchReceiveSwapById swapId) (fun swap _ => swap.id = swapId) w := by
  intro w₁ _ hi _
  refine ⟨hi, ⟨fun e he => he, fun _ => ?_⟩, fun w₂ _ _ => ?_⟩
  · exact (keeps_calm (calm_refl w₁) hi).2.2
  · show OnOk _ (okOr (w₁.db.fetchReceiveSwapById swapId) _) w₂
    rcases hget : w₁.db.fetchReceiveSwapById swapId with _ | swap
    · trivial
    · obtain ⟨row, hrow, rfl⟩ := Db.fetchReceiveSwapById_eq_some hget
      have hid : row.id = swapId := Table.get?_some_key hrow
      exact hid

/-- The two statuses that tell of a lockup check it; the others claim nothing. -/
theorem guarded_onNewStatus (update : SwapStatus) (w : World) :
    Guarded sdk (onNewStatus sdk update) (fun _ _ => True) w := by
  refine Safe.ofExcept_bind fun state _ => ?_
  refine (guarded_fetchReceiveSwapById update.id w).bind_ok guarded_self fun swap w₁ _ _ hid => ?_
  have hfailed : Guarded sdk (onUnrecoverable swap update.id) (fun _ _ => True) w₁ := by
    unfold onUnrecoverable
    split
    · exact safe_ok fun _ _ _ => trivial
    · exact guarded_calm (calmTask_updateSwapInfo _ _) fun _ _ _ => trivial
  cases state with
  | swapExpired => exact hfailed
  | invoiceExpired => exact hfailed
  | transactionFailed => exact hfailed
  | transactionRefunded => exact hfailed
  | transactionMempool => exact guarded_onTransactionMempool w₁ hid
  | transactionConfirmed => exact guarded_onTransactionConfirmed w₁ hid
  | unhandled => exact safe_ok fun _ _ _ => trivial

/-! ## Rescans on blocks -/

/-- The rescan checks the lockup it finds. -/
theorem guarded_claimConfirmedLockup (swap : ReceiveSwap) (w : World) :
    Guarded sdk (claimConfirmedLockup sdk swap) (fun _ _ => True) w := by
  unfold claimConfirmedLockup
  split
  · exact safe_ok fun _ _ _ => trivial
  · refine guarded_calm_bind (calmTask_ask rfl) fun found w₁ _ => ?_
    refine Safe.ofExcept_bind fun tx _ => ?_
    refine guarded_calm_bind (calmTask_verifyLockupTxStatus swap _ _ _) fun lockupTx w₂ _ => ?_
    refine (guarded_verifyLockupTxAmount swap lockupTx w₂).attempt_ok.bind_ok guarded_self
      fun res w₃ _ _ hres => ?_
    rcases res with err | a
    · refine guarded_calm_bind (calmTask_updateSwapInfo _ _) fun _ _ _ => ?_
      exact safe_error
    · exact safe_mapErr (guarded_claim (hres a rfl))

/-- A block rescans every swap. -/
theorem guarded_onLiquidBlock (w : World) :
    Guarded sdk (onLiquidBlock sdk) (fun _ _ => True) w := by
  have hrounds : Guarded sdk (claimConfirmedLockups sdk) (fun _ _ => True) w := by
    refine guarded_calm_bind (calmTask_fetch _) fun swaps w₁ _ => ?_
    refine Safe.forEach guarded_self fun swap _ w₂ _ _ => ?_
    refine (guarded_claimConfirmedLockup swap w₂).attempt_ok.bind_ok guarded_self
      fun _ _ _ _ _ => ?_
    exact safe_ok fun _ _ _ => trivial
  refine hrounds.attempt_ok.bind_ok guarded_self fun _ _ _ _ _ => ?_
  exact safe_ok fun _ _ _ => trivial

end Handler

/-! ## Whole runs -/

section Runs

variable (sdk : Sdk)

/-- Writing recovered swaps leaves the history alone. -/
theorem silent_syncRecoverableSwaps (swaps : List Swap) (tips : Option ChainTips) :
    (syncRecoverableSwaps sdk swaps tips).Within Silent Call.Quiet := by
  refine Task.Within.bind ((readOnly_recoverFromOnchain sdk swaps tips).mono
    (fun f hf => hf ▸ silent_id) fun _ h => h.quiet) fun results => ?_
  refine Task.Within.forEach fun result _ => ?_
  split
  · refine Task.Within.bind (Task.Within.attempt ?_) fun _ => trivial
    refine Task.Within.bind ?_ fun swap => ?_
    · exact Task.Within.bind (within_fetch silent_id _) fun _ => Task.within_done _
    · split
      · refine Task.Within.bind (within_fetch silent_id _) fun maybeSwap => ?_
        exact within_tryWrite (silent_tryWrite _)
      · trivial
  · trivial

theorem grows_of_trace {w w' : World} (h : w'.trace = w.trace) : Grows w w' := by
  intro e he
  rw [h]
  exact he

/-- Checks are never taken back, so the tasks do not disturb each other. -/
theorem lockup_sound :
    Sound (receiveSystem sdk) ReportsMatch (lockupProtocol sdk) (fun _ _ => True) where
  compat _ _ _ _ _ h := h.1
  spawn roles w r t hspawn _ _ _ := by
    refine ⟨fun _ _ => ⟨trivial, trivial⟩, ?_⟩
    rcases hspawn with update | _ | ⟨swaps, tips⟩
    · exact (guarded_onNewStatus update w).mono fun _ _ _ _ => trivial
    · exact (guarded_onLiquidBlock w).mono fun _ _ _ _ => trivial
    · have hbenign : Benign (receiveSystem sdk) ReportsMatch (lockupProtocol sdk) .recovery
          (syncRecoverableSwaps sdk swaps tips) := by
        refine (silent_syncRecoverableSwaps sdk swaps tips).mono (fun f hf w hi _ => ?_)
          fun q hq a w _ hi _ => ?_
        · refine ⟨?_, grows_of_trace (hf w), nofun⟩
          show ClaimsChecked sdk (f w).trace
          rw [hf w]
          exact hi
        · show ClaimsChecked sdk (World.effect sdk q a w).trace ∧
            Grows w (World.effect sdk q a w) ∧ _
          rw [effect_of_quiet sdk hq]
          exact ⟨hi, fun e he => he, nofun⟩
      exact hbenign.safe_of (fun _ _ h => h.1) fun _ _ _ _ => trivial
  abort _ _ _ _ := trivial
  env w w' henv hi _ := by
    refine ⟨?_, fun _ => grows_of_trace henv⟩
    show ClaimsChecked sdk w'.trace
    rw [henv]
    exact hi

/-- **Claims and records are checked.** In every run in which a broadcast reported lockup has the id it is
reported under, a claim is reached only after the amount check of a transaction that pays the swap, and a
step of the handler that changes a recorded lockup id changes it to that of a checked transaction. -/
theorem lockups_checked {w : World} {c : Pool World Call Call.Answer Err Role} (hw : w.trace = [])
    (hrun : Runs (receiveSystem sdk) ReportsMatch ⟨w, []⟩ c) :
    ClaimsChecked sdk c.state.trace ∧
      ∀ c', Step (receiveSystem sdk) c (.own .handler) c' →
        ReportsMatch (.own .handler) c.state c'.state → RecordsChecked sdk c.state c'.state := by
  have hinv : ClaimsChecked sdk w.trace := by
    intro new old id hsplit
    rw [hw] at hsplit
    exact absurd hsplit (by simp)
  have hinit : Kept (receiveSystem sdk) ReportsMatch (lockupProtocol sdk) (fun _ _ => True) ⟨w, []⟩ :=
    { inv := hinv, roles := .nil, safe := nofun, idle := fun _ _ => trivial }
  have hkept := Runs.keep (lockup_sound sdk) hinit hrun
  refine ⟨hkept.inv, fun c' hstep hc => ?_⟩
  cases hstep with
  | @own r t t' s s' pre post h =>
      obtain ⟨-, hguar, -⟩ := (hkept.safe (.handler, t) (by simp)).step hkept.inv h hc
      exact hguar.2 rfl

end Runs

/-! ## A claim in the mempool, and a report under a foreign id -/

/-- A swap of 900 sat with 100 sat of claim fees. -/
def receivingSwap : ReceiveSwap where
  id := "s"
  createResponseJson := "script"
  receiverAmountSat := 900
  claimFeesSat := 100
  state := .created

/-- The lockup that pays it. -/
def payingLockup : LBtcTransaction where
  txid := "lockup"
  output := [⟨"script", some ("lbtc", 1000)⟩]

def receiveSdk : Sdk where
  bz := .byAddress 0
  persister := { codec := .table fun _ => none }
  deserializeTxHex _ := some payingLockup

def receiveWorld : World :=
  { db := { receiveSwaps := (∅ : Table ReceiveSwap.id).insertNew receivingSwap } }

/-- The swapper reports the lockup in the mempool under an id. -/
def mempoolUpdate (txId : TxId) : SwapStatus :=
  { id := "s", status := "transaction.mempool", transaction := some { id := txId, hex := some "hex" } }

/-- Services that accept what is broadcast. -/
def acceptingAnswers : Nat → (q : Call) → q.Answer
  | _, .nextUnusedAddress => .ok "address"
  | _, .createReceiveClaimTx .. => .ok (.liquid { txid := "claim" })
  | _, .liquidBroadcast _ tx => .ok tx.txid
  | _, q => q.offline

/-- The world after the report. -/
def afterReport (txId : TxId) : World :=
  ((onNewStatus receiveSdk (mempoolUpdate txId)).run (World.effect receiveSdk) acceptingAnswers
    (0, receiveWorld)).2.2

/-- The newest event is not a report under a foreign id. -/
def notForeign : List Event → Bool
  | .reportedBroadcast _ txId actual :: _ => txId = actual
  | _ => true

def isReceiveClaim : Event → Bool
  | .receiveClaimReached _ => true
  | _ => false

/-- A lockup that is reported in the mempool is claimed after it was checked. -/
theorem lockups_checked_mempool :
    ∃ new old id, (afterReport "lockup").trace = new ++ .receiveClaimReached id :: old ∧
      ∃ tx, Checked receiveSdk old id tx := by
  have hclean : Task.Steps (World.effect receiveSdk) acceptingAnswers
      (fun _ w' => notForeign w'.trace = true)
      (onNewStatus receiveSdk (mempoolUpdate "lockup")) (0, receiveWorld) := by decide +kernel
  have hrun : Runs (receiveSystem receiveSdk) ReportsMatch ⟨receiveWorld, []⟩
      ⟨afterReport "lockup", []⟩ := by
    refine runs_spawn (fun _ _ _ => trivial) _ (.status _) (fun _ => ⟨trivial, trivial⟩) ?_
    apply hclean.mono
    intro w w' h id txId actual hmark
    rw [hmark] at h
    exact of_decide_eq_true h
  have hclaim : (afterReport "lockup").trace.any isReceiveClaim = true := by decide +kernel
  obtain ⟨e, hmem, he⟩ := List.any_eq_true.mp hclaim
  obtain ⟨new, old, hsplit⟩ := List.append_of_mem hmem
  cases e with
  | receiveClaimReached id =>
      exact ⟨new, old, id, hsplit, (lockups_checked receiveSdk rfl hrun).1 new old id hsplit⟩
  | _ => cases he

/-- Only the paying lockup was checked. -/
def checksPaying : Event → Bool
  | .receiveAmountChecked _ tx => tx = payingLockup
  | _ => true

/-- The handler records the foreign id. -/
theorem foreign_lockup_recorded :
    Runs (receiveSystem receiveSdk) .any ⟨receiveWorld, []⟩ ⟨afterReport "foreign", []⟩ ∧
      (receiveWorld.db.receiveSwaps.get? "s").map ReceiveSwap.lockupTxId = some none ∧
      ((afterReport "foreign").db.receiveSwaps.get? "s").map ReceiveSwap.lockupTxId =
        some (some "foreign") ∧
      ∀ tx, Checked receiveSdk (afterReport "foreign").trace "s" tx → tx.txid ≠ "foreign" := by
  refine ⟨runs_spawn_any (fun _ _ _ => trivial) _ (.status _), by decide, by decide +kernel, ?_⟩
  rintro tx ⟨swap, -, hmem, -⟩ hid
  have hchecks : (afterReport "foreign").trace.all checksPaying = true := by decide +kernel
  have htx : tx = payingLockup := of_decide_eq_true (List.all_eq_true.mp hchecks _ hmem)
  rw [htx] at hid
  exact absurd hid (by decide)

end BreezLiquid.Receive
