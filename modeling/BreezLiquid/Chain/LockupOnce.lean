/-
# BreezLiquid.Chain.LockupOnce — how often the user lockup of a chain swap is broadcast.

`on_new_outgoing_status` locks funds up on a `swap.created` status when the row it read names no user
lockup, and the id is written after the broadcast. Between the two, and on another device that pulled the
same swap, the row says nothing. The model follows any number of devices, each with its own database; what
one device learns from another is a step of its environment. A lockup that was taken while the reply was lost counts as
broadcast, although the handler was told of an error.

A run is well-behaved when only one device reaches the lockup, nothing else takes the id out of the row or
the row out of a state that may become `Pending`, no reply to a lockup is lost, and the handler is not stopped halfway.
Then the lockup is broadcast at most once, and its id is in the row but for the moment in which the handler has only to
write it.
-/
import BreezLiquid.Chain.ClaimSafety
import BreezLiquid.Lib.Commit

namespace BreezLiquid.Chain

open Interleaving Recover Tables

/-! ## Lockups in the history and in the row -/

/-- The user lockup of a swap that an event is the broadcast of, whether the reply arrived or not. -/
def lockupOf (id : SwapId) : Event → Option TxId
  | .lockupBroadcast swapId txId => if swapId = id then some txId else none
  | .replyLost (.lockup swapId) txId => if swapId = id then some txId else none
  | _ => none

/-- The user lockups of a swap that were broadcast, newest first. -/
def lockups (id : SwapId) (trace : List Event) : List TxId := trace.filterMap (lockupOf id)

/-- A broadcast lockup is one more. -/
theorem lockups_broadcast (id : SwapId) (txId : TxId) (trace : List Event) :
    lockups id (.lockupBroadcast id txId :: trace) = txId :: lockups id trace := by
  simp [lockups, lockupOf]

/-- The handler went to lock funds up for a swap. -/
def Attempted (id : SwapId) (trace : List Event) : Prop := .lockupAttempted id ∈ trace

/-- The row of the swap names a user lockup. -/
def Names (w : World) (id : SwapId) (txId : TxId) : Prop :=
  ∃ row, w.db.chainSwaps.get? id = some row ∧ row.userLockupTxId = some txId

/-- The row names none, and a transition to `Pending` may add one. -/
def Awaits (w : World) (id : SwapId) : Prop :=
  ∃ row, w.db.chainSwaps.get? id = some row ∧ row.userLockupTxId = none ∧
    validateStateTransition row.state .pending = .ok ()

/-- All broadcast lockups are in the row. -/
def Settled (id : SwapId) (w : World) : Prop := ∀ txId ∈ lockups id w.trace, Names w id txId

/-- A step that broadcasts no lockup of the swap. -/
structure SameLockups (id : SwapId) (w w' : World) : Prop where
  lockups : lockups id w'.trace = lockups id w.trace
  attempted : Attempted id w.trace → Attempted id w'.trace

/-- A step that broadcasts no lockup of the swap, and leaves a named one in the row. -/
structure Spares (id : SwapId) (w w' : World) : Prop extends SameLockups id w w' where
  names : ∀ {txId}, Names w id txId → Names w' id txId

section Spares

variable {id : SwapId} {w w' : World}

theorem Spares.refl (id : SwapId) (w : World) : Spares id w w := ⟨⟨rfl, fun h => h⟩, fun h => h⟩

theorem Spares.trans {w'' : World} (h : Spares id w w') (h' : Spares id w' w'') : Spares id w w'' :=
  ⟨⟨h'.lockups.trans h.lockups, fun ha => h'.attempted (h.attempted ha)⟩, fun hn => h'.names (h.names hn)⟩

/-- What is settled stays so where the lockups are spared. -/
theorem Spares.settled (h : Spares id w w') (hs : Settled id w) : Settled id w' := by
  intro txId hmem
  rw [h.lockups] at hmem
  exact h.names (hs txId hmem)

/-- A write that keeps recorded user lockups spares them ... -/
theorem spares_of_rows
    (h : RowsRel (fun s s' => s.userLockupTxId.isSome → s'.userLockupTxId = s.userLockupTxId) w w') :
    Spares id w w' := by
  refine ⟨⟨by rw [h.1], fun ha => h.1 ▸ ha⟩, ?_⟩
  rintro txId ⟨row, hrow, hname⟩
  obtain ⟨row', hrow', hsame⟩ := h.row hrow
  exact ⟨row', hrow', (hsame (hname ▸ rfl)).trans hname⟩

/-- ... and so does an event that is no lockup ... -/
theorem spares_note {e : Event} (he : Chain.lockups id [e] = []) (w : World) :
    Spares id w (w.note e) := by
  refine ⟨⟨?_, fun ha => List.mem_cons_of_mem e ha⟩, fun h => h⟩
  show Chain.lockups id ([e] ++ w.trace) = _
  rw [Chain.lockups, List.filterMap_append]
  exact (congrArg (· ++ _) he).trans (List.nil_append _)

/-- Transitions to another state may set a user lockup, and never replace one. -/
theorem spares_tryHandleChainSwapUpdate (swapUpdate : ChainSwapUpdate) (w : World) :
    Spares id w (w.write fun now db => db.tryHandleChainSwapUpdate now swapUpdate) := by
  refine spares_of_rows ⟨rfl, rel_updateChainSwaps (fun _ _ => rfl) fun s _ => ?_⟩
  intro hsome
  exact Option.or_of_isSome hsome

/-- ... so every write of the handler does ... -/
theorem ChainWrite.spares {p : Persister} {f : World → World} (h : ChainWrite p f) (w : World) :
    Spares id w (f w) := by
  cases h with
  | plain h => exact spares_of_rows ((h.rows w).mono fun _ _ hrow => hrow.userLockupTxId)
  | accepted swapId amount =>
      refine spares_of_rows ?_
      exact (rows_updateAcceptedReceiverAmount p swapId amount w).mono fun _ _ hrow _ => hrow.2

end Spares

/-- Calls that do not lock funds up for the swap. -/
def NoLockupOf (id : SwapId) : Call → Prop
  | .liquidBroadcast (.lockup swapId) _ | .bitcoinBroadcast (.lockup swapId) _
  | .broadcastTx (.lockup swapId) _ => swapId ≠ id
  | _ => True

theorem lockups_broadcastEvent {id : SwapId} {purpose : Purpose} (h : purpose ≠ .lockup id)
    (w : World) (txId answered : TxId) :
    lockups id [w.broadcastEvent txId answered purpose] = [] := by
  cases purpose with
  | lockup swapId =>
      have hne : swapId ≠ id := fun heq => h (heq ▸ rfl)
      simp [lockups, lockupOf, World.broadcastEvent, hne]
  | claim swapId => rfl
  | refund swapId => rfl
  | payment address => rfl
  | reported swapId txId => rfl

theorem lockups_replyLost {id : SwapId} {purpose : Purpose} (h : purpose ≠ .lockup id) (txId : TxId) :
    lockups id [.replyLost purpose txId] = [] := by
  cases purpose with
  | lockup swapId =>
      have hne : swapId ≠ id := fun heq => h (heq ▸ rfl)
      simp [lockups, lockupOf, hne]
  | _ => rfl

/-- ... and every answer but that to the broadcast of a lockup. -/
theorem NoLockupOf.spares {id : SwapId} (sdk : Sdk) {q : Call} (hq : NoLockupOf id q) (a : q.Answer)
    (w : World) : Spares id w (World.effect sdk q a w) := by
  have hbroadcast : ∀ purpose txId answer, purpose ≠ .lockup id →
      Spares id w (w.broadcastEffect purpose txId answer) := by
    intro purpose txId answer hpurpose
    rcases World.broadcastEffect_cases purpose txId answer w with h | ⟨answered, h⟩ | h
    · rw [h]
      exact .refl id w
    · rw [h]
      exact spares_note (lockups_broadcastEvent hpurpose w txId answered) w
    · rw [h]
      exact spares_note (lockups_replyLost hpurpose txId) w
  cases q with
  | push record =>
      cases a with
      | error err => exact .refl id w
      | ok reply =>
          show Spares id w (if _ then _ else w)
          split
          · exact ⟨⟨rfl, fun h => h⟩, fun h => h⟩
          · exact .refl id w
  | liquidBroadcast purpose tx => exact hbroadcast purpose _ a (by rintro rfl; exact hq rfl)
  | bitcoinBroadcast purpose tx => exact hbroadcast purpose _ a (by rintro rfl; exact hq rfl)
  | broadcastTx purpose tx => exact hbroadcast purpose _ a (by rintro rfl; exact hq rfl)
  | _ => exact .refl id w

/-! ## The parts of the handler that lock nothing up -/

section Leaves

variable {sdk : Sdk} {id : SwapId}

/-- The task broadcasts no lockup of the swap and leaves a named one in the row. -/
abbrev Leaves (sdk : Sdk) (id : SwapId) {α : Type} (t : Async α) : Prop :=
  t.Within (fun f => ∀ w, Spares id w (f w)) fun q => ∀ a w, Spares id w (World.effect sdk q a w)

theorem NoLockup.noLockupOf {q : Call} (h : NoLockup q) (id : SwapId) : NoLockupOf id q := by
  unfold NoLockupOf
  split
  · exact h.elim
  · exact h.elim
  · exact h.elim
  · trivial

/-- A steady part leaves the lockups alone ... -/
theorem Steady.leaves {α : Type} {t : Async α} (h : Steady sdk t) : Leaves sdk id t :=
  h.mono (fun _ hf => hf.spares) fun _ hq => (hq.noLockupOf id).spares sdk

theorem leaves_ask {q : Call} (hq : NoLockup q) {α : Type} (h : q.Answer = Except Err α) :
    Leaves sdk id (Task.askOk q h) :=
  Task.within_askOk ((hq.noLockupOf id).spares sdk) h

/-- An update of the row asks nobody anything. -/
theorem local_updateSwapInfo (swapUpdate : ChainSwapUpdate) : (updateSwapInfo swapUpdate).Local (Spares id) := by
  have hfetch : ∀ swapId, (fetchChainSwapById swapId).Local (Spares id) := fun swapId =>
    Task.Within.bind (within_fetch (fun w => .refl id w) _) fun _ => Task.within_done _
  refine Task.Within.bind (hfetch _) fun swap => ?_
  refine Task.Within.bind (Task.within_done _) fun _ => ?_
  refine Task.Within.bind (within_write (spares_tryHandleChainSwapUpdate swapUpdate)) fun _ => ?_
  exact Task.Within.bind (hfetch _) fun _ => trivial

/-- ... as does a transition, which replaces no recorded id ... -/
theorem leaves_updateSwapInfo (swapUpdate : ChainSwapUpdate) :
    Leaves sdk id (updateSwapInfo swapUpdate) :=
  (local_updateSwapInfo swapUpdate).mono (fun _ hf => hf) fun _ hq => hq.elim

/-- ... the verification of a server lockup ... -/
theorem leaves_requireServerLockup (swap : ChainSwap) (tx : TransactionInfo) (conf : Bool) :
    Leaves sdk id (requireServerLockup sdk swap tx conf) :=
  within_mapErr (within_verifyServerLockupTx (fun _ => spares_note rfl)
    (fun address txId txHex conf =>
      (NoLockup.noLockupOf (q := .liquidVerifyTx address txId txHex conf) trivial id).spares sdk)
    (fun address txId txHex conf =>
      (NoLockup.noLockupOf (q := .bitcoinVerifyTx address txId txHex conf) trivial id).spares sdk) tx conf)

/-- ... and a claim. -/
theorem leaves_claim (swapId : SwapId) : Leaves sdk id (claim swapId) := by
  refine within_claim (fun w => ?_) (ChainWrite.plain (p := sdk.persister) (.leaveClaim swapId)).spares
    (plain_claimInner swapId).steady.leaves
  have hnote : Spares id w (w.note (.claimReached swapId (w.db.fetchChainSwapById swapId))) :=
    spares_note rfl w
  exact ⟨⟨hnote.lockups, hnote.attempted⟩, hnote.names⟩

theorem leaves_delayedClaim (swap : ChainSwap) (swapId : SwapId) :
    Leaves sdk id (delayedClaim swap swapId) := by
  refine Task.Within.bind ?_ fun _ => within_mapErr (leaves_claim swapId)
  unfold maybeDelayBeforeClaim
  split
  · trivial
  · exact Task.within_ask ((NoLockup.noLockupOf (q := .sleep 5) trivial id).spares sdk)

/-- So do the statuses that tell of a server lockup ... -/
theorem leaves_onTransactionServerMempool (swap : ChainSwap) (update : SwapStatus) :
    Leaves sdk id (onTransactionServerMempool sdk swap update) := by
  unfold onTransactionServerMempool
  split
  · trivial
  · refine Task.Within.bind (Task.within_done _) fun transaction => ?_
    refine Task.Within.bind (plain_requireUserLockup swap).steady.leaves fun _ => ?_
    refine Task.Within.bind (leaves_requireServerLockup swap transaction false) fun _ => ?_
    refine Task.Within.bind (leaves_updateSwapInfo _) fun _ => ?_
    split
    · exact leaves_delayedClaim swap _
    · trivial

theorem leaves_onOutgoingServerConfirmed (swap : ChainSwap) (update : SwapStatus) :
    Leaves sdk id (onOutgoingServerConfirmed sdk swap update) := by
  unfold onOutgoingServerConfirmed
  split
  · trivial
  · refine Task.Within.bind (Task.within_done _) fun transaction => ?_
    refine Task.Within.bind (plain_requireUserLockup swap).steady.leaves fun _ => ?_
    refine Task.Within.bind (leaves_requireServerLockup swap transaction true) fun _ => ?_
    exact Task.Within.bind (leaves_updateSwapInfo _) fun _ => leaves_delayedClaim swap _

theorem leaves_onIncomingServerConfirmed (swap : ChainSwap) (update : SwapStatus) :
    Leaves sdk id (onIncomingServerConfirmed sdk swap update) := by
  unfold onIncomingServerConfirmed
  split
  · trivial
  · refine Task.Within.bind (Task.within_done _) fun transaction => ?_
    refine Task.Within.bind (plain_requireUserLockup swap).steady.leaves fun _ => ?_
    refine Task.Within.bind (leaves_requireServerLockup swap transaction true).attempt fun res => ?_
    refine Task.Within.bind ?_ fun _ => Task.Within.bind (leaves_updateSwapInfo _) fun _ => ?_
    · cases res with
      | ok _ => trivial
      | error err => exact within_note (spares_note rfl)
    · cases res with
      | ok _ => exact leaves_delayedClaim swap _
      | error err => trivial

/-- ... all statuses of an incoming swap ... -/
theorem leaves_onNewIncomingStatus (swap : ChainSwap) (update : SwapStatus) :
    Leaves sdk id (onNewIncomingStatus sdk swap update) := by
  refine Task.Within.bind (Task.within_done _) fun state => ?_
  cases state with
  | transactionMempool => exact (plain_onIncomingUserLockup swap update).steady.leaves
  | transactionConfirmed => exact (plain_onIncomingUserLockup swap update).steady.leaves
  | transactionServerMempool => exact leaves_onTransactionServerMempool swap update
  | transactionServerConfirmed => exact leaves_onIncomingServerConfirmed swap update
  | transactionLockupFailed => exact (steady_onIncomingLockupFailed swap _).leaves
  | transactionFailed => exact (plain_onIncomingUnrecoverable swap _).steady.leaves
  | transactionRefunded => exact (plain_onIncomingUnrecoverable swap _).steady.leaves
  | swapExpired => exact (plain_onIncomingUnrecoverable swap _).steady.leaves
  | created => trivial
  | unhandled => trivial

/-- ... and the rescans on a block. -/
theorem leaves_claimAll (direction : Direction) : Leaves sdk id (claimAll sdk direction) := by
  refine Task.Within.bind (plain_fetch _).steady.leaves fun swaps => Task.Within.forEach fun swap _ => ?_
  refine within_ignore ?_
  unfold claimConfirmedServerLockup
  split
  · trivial
  · refine Task.Within.bind (Task.within_done _) fun swapScript => ?_
    refine Task.Within.bind (plain_fetchScriptHistory swapScript).steady.leaves fun history => ?_
    refine Task.Within.bind (Task.within_done _) fun h => ?_
    split
    · exact within_mapErr (leaves_claim _)
    · trivial

/-- The handler's other tasks. -/
theorem leaves_besides {t : Async Unit} (h : Besides sdk .handler t) : Leaves sdk id t := by
  cases h with
  | bitcoinBlock => exact within_ignore (leaves_claimAll .outgoing)
  | liquidBlock height =>
      refine Task.Within.bind (plain_refundOutgoing height).steady.leaves.attempt fun _ => ?_
      exact within_ignore (leaves_claimAll .incoming)
  | acceptFees swapId feesSat payerAmountSat =>
      exact (steady_acceptPaymentProposedFees _ _ _).leaves
  | refund lockupAddress refundAddress isCooperative =>
      exact Task.Within.bind (plain_refundIncomingSwap _ _ _).steady.leaves fun _ => trivial
  | timeout swapId => exact leaves_updateSwapInfo _

end Leaves

/-! ## One device -/

/-- Status updates are handled one at a time, next to anything else. -/
inductive LockupRole where
  | status
  | other
  deriving DecidableEq

def lockupSystem (sdk : Sdk) : System World Call Call.Answer Err LockupRole where
  effect := World.effect sdk
  spawns roles _ r t :=
    match r with
    | .status => .status ∉ roles ∧ ∃ update, t = onNewStatus sdk update
    | .other => ∃ role, Besides sdk role t
  env := Elsewhere

/-- A broadcast lockup that is named stays so, and a row that awaits it goes on to do so or names it. -/
structure Preserves (id : SwapId) (w w' : World) : Prop where
  names : ∀ txId ∈ lockups id w.trace, Names w id txId → Names w' id txId
  awaits : ∀ txId ∈ lockups id w.trace, Awaits w id → Awaits w' id ∨ Names w' id txId

/-- When a lockup is broadcast its row still awaits one, and the reply arrives; other tasks and devices preserve it, and
the handler is stopped only when it has written it. -/
def KeepsLockup (id : SwapId) : Cond World LockupRole
  | .own .status, w, w' => ∀ txId, (w'.trace = .lockupBroadcast id txId :: w.trace → Awaits w id) ∧
      w'.trace ≠ .replyLost (.lockup id) txId :: w.trace
  | .own .other, w, w' => Preserves id w w'
  | .env, w, w' => Preserves id w w'
  | .abort .status, w, _ => Settled id w
  | _, _, _ => True

/-- One lockup at most, made by a handler that attempted it, in the row or awaited there. -/
def LockupInv (id : SwapId) (w : World) : Prop :=
  lockups id w.trace = [] ∨ ∃ txId, lockups id w.trace = [txId] ∧ Attempted id w.trace ∧
    (Names w id txId ∨ Awaits w id)

/-- What the handler of a status update relies on. -/
structure LockupRely (id : SwapId) (w w' : World) : Prop extends SameLockups id w w' where
  settled : Settled id w → Settled id w'

theorem LockupRely.refl (id : SwapId) (w : World) : LockupRely id w w :=
  ⟨⟨rfl, fun h => h⟩, fun h => h⟩

theorem LockupRely.trans {id : SwapId} {w w' w'' : World} (h : LockupRely id w w')
    (h' : LockupRely id w' w'') : LockupRely id w w'' :=
  ⟨⟨h'.lockups.trans h.lockups, fun ha => h'.attempted (h.attempted ha)⟩,
    fun hs => h'.settled (h.settled hs)⟩

def lockupProtocol (id : SwapId) : Protocol World LockupRole where
  inv := LockupInv id
  rely r w w' :=
    match r with
    | .status => LockupRely id w w'
    | .other => True
  guar r w w' :=
    match r with
    | .status => True
    | .other => LockupRely id w w'
  idle r w :=
    match r with
    | .status => Settled id w
    | .other => True
  rely_refl r w := by
    cases r with
    | status => exact .refl id w
    | other => trivial
  rely_trans r {_ _ _} h h' := by
    cases r with
    | status => exact LockupRely.trans h h'
    | other => trivial
  idle_stable r {_ _} h _ hs := by
    cases r with
    | status => exact LockupRely.settled h hs
    | other => trivial

section OneDevice

variable {sdk : Sdk} {id : SwapId}

/-- Without a lockup nothing is open ... -/
theorem settled_of_nil {w : World} (h : lockups id w.trace = []) : Settled id w := by
  intro txId hmem
  rw [h] at hmem
  cases hmem

/-- ... nor with one that the row names. -/
theorem settled_of_names {w : World} {txId : TxId} (h : lockups id w.trace = [txId])
    (hn : Names w id txId) : Settled id w := by
  intro txId' hmem
  rw [h] at hmem
  exact List.mem_singleton.mp hmem ▸ hn

/-- A settled swap stays so ... -/
theorem inv_of_settled {w w' : World} (hi : LockupInv id w) (hs : Settled id w)
    (h : Spares id w w') : LockupInv id w' := by
  rcases hi with hnil | ⟨txId, hone, ha, -⟩
  · exact .inl (h.lockups.trans hnil)
  · refine .inr ⟨txId, h.lockups.trans hone, h.attempted ha, .inl (h.names (hs txId ?_))⟩
    rw [hone]
    exact List.mem_singleton_self txId

/-- ... and the invariant is kept by whatever preserves the lockups. -/
theorem inv_of_preserves {w w' : World} (hi : LockupInv id w) (hsame : SameLockups id w w')
    (h : Preserves id w w') : LockupInv id w' ∧ LockupRely id w w' := by
  refine ⟨?_, hsame, fun hs txId hmem => ?_⟩
  · rcases hi with hnil | ⟨txId, hone, ha, hor⟩
    · exact .inl (hsame.lockups.trans hnil)
    · have hmem : txId ∈ lockups id w.trace := by
        rw [hone]
        exact List.mem_singleton_self txId
      refine .inr ⟨txId, hsame.lockups.trans hone, hsame.attempted ha, ?_⟩
      rcases hor with hn | hawaits
      · exact .inl (h.names txId hmem hn)
      · exact (h.awaits txId hmem hawaits).symm
  · rw [hsame.lockups] at hmem
    exact h.names txId hmem (hs txId hmem)

/-! ### The handler of a status update -/

/-- A part of the handler is safe, and all lockups are in the row when it is done. -/
abbrev Settles (sdk : Sdk) (id : SwapId) {α : Type} (t : Async α) (w : World) : Prop :=
  Safe (lockupSystem sdk) (KeepsLockup id) (lockupProtocol id) .status t
    (fun _ w => Settled id w) w

/-- A task that leaves the lockups alone ends as settled as it began ... -/
theorem settles_leaves {α : Type} {t : Async α} (h : Leaves sdk id t) {w : World}
    (hs : Settled id w) : Settles sdk id t w := by
  refine safe_of_within (fun w w' h _ hs => LockupRely.settled h hs) (fun f hf w hi hs _ => ?_)
    (fun q hq a w hi hs _ => ?_) h hs
  · exact ⟨inv_of_settled hi hs (hf w), trivial, (hf w).settled hs⟩
  · exact ⟨inv_of_settled hi hs (hq a w), trivial, (hq a w).settled hs⟩

/-- Reading a row, then the rest. -/
theorem settles_fetch_bind {α : Type} {swapId : SwapId} {g : ChainSwap → Async α} {w : World}
    (h : ∀ w₁, LockupRely id w w₁ → LockupInv id w₁ → Settles sdk id
      ((Task.ofExcept (okOr (w₁.db.fetchChainSwapById swapId) ("Chain Swap not found " ++ swapId))).bind
        g) w₁) : Settles sdk id ((fetchChainSwapById swapId).bind g) w := by
  intro w₁ h₁ hi _
  exact ⟨hi, trivial, h w₁ h₁ hi⟩

/-- The id is written if the row still awaits it. -/
theorem names_recordUserLockup {w : World} {txId : TxId} (toState : PaymentState)
    (h : Names w id txId ∨ Awaits w id) :
    Names (w.write fun now db => db.tryHandleChainSwapUpdate now
      { swapId := id, toState, userLockupTxId := some txId }) id txId := by
  rcases h with hn | ⟨row, hrow, hnone, -⟩
  · exact (spares_tryHandleChainSwapUpdate _ w).names hn
  · have hid : row.id = id := Table.get?_some_key hrow
    refine ⟨_, (Db.get?_updateChainSwaps _ _ _ _ _ id).trans (congrArg _ hrow), ?_⟩
    simp [hid, hnone]

/-- After the broadcast, the update of the row gets the id there. -/
theorem settles_recordUserLockup {w : World} {txId : TxId} (hone : lockups id w.trace = [txId]) :
    Settles sdk id
      (updateSwapInfo { swapId := id, toState := .pending, userLockupTxId := some txId }) w := by
  refine settles_fetch_bind fun w₁ h₁ hi => ?_
  have hone₁ : lockups id w₁.trace = [txId] := h₁.lockups.trans hone
  have hrest : Leaves sdk id (do
      write fun now db => db.tryHandleChainSwapUpdate now
        { swapId := id, toState := .pending, userLockupTxId := some txId }
      let _ ← fetchChainSwapById id
      return () : Async Unit) := by
    refine Task.Within.bind (within_write (spares_tryHandleChainSwapUpdate _)) fun _ => ?_
    exact Task.Within.bind (plain_fetchChainSwapById id).steady.leaves fun _ => trivial
  by_cases hs : Settled id w₁
  · refine settles_leaves (Task.Within.bind (Task.within_done _) fun swap => ?_) hs
    exact Task.Within.bind (Task.within_done _) fun _ => hrest
  · -- the row awaits the lockup, so the transition is allowed and sets it
    rcases hi with hnil | ⟨txId', hone', -, hn | ⟨row, hrow, hnone, hvalid⟩⟩
    · rw [hnil] at hone₁
      cases hone₁
    · exact absurd (settled_of_names hone' hn) hs
    · have hget : w₁.db.fetchChainSwapById id = some (row.withIsLocal (w₁.db.isLocal row.id)) := by
        rw [Db.fetchChainSwapById, hrow, Option.map_some]
      rw [hget]
      show Settles sdk id ((Task.ofExcept (validateStateTransition row.state .pending)).bind _) w₁
      rw [hvalid]
      intro w₂ h₂ hi₂ _
      have hrely : LockupRely id w₁ w₂ := h₂
      have hone₂ : lockups id w₂.trace = [txId] := hrely.lockups.trans hone₁
      have hname : Names w₂ id txId ∨ Awaits w₂ id := by
        rcases hi₂ with hnil | ⟨txId', hone', -, hn | haw⟩
        · rw [hnil] at hone₂
          cases hone₂
        · rw [hone'] at hone₂
          obtain ⟨rfl, -⟩ := List.cons.inj hone₂
          exact .inl hn
        · exact .inr haw
      have hwritten := names_recordUserLockup .pending hname
      have hs₂ : Settled id (w₂.write _) := settled_of_names hone₂ hwritten
      refine ⟨?_, trivial, settles_leaves ?_ hs₂⟩
      · rcases hi₂ with hnil | ⟨txId', hone', ha, -⟩
        · exact .inl hnil
        · exact .inr ⟨txId, hone₂, ha, .inl hwritten⟩
      · refine Task.Within.bind (Task.within_done (.ok ())) fun _ => ?_
        exact Task.Within.bind (plain_fetchChainSwapById id).steady.leaves fun _ => trivial

/-- Locking funds up for a swap without a lockup so far. -/
theorem settles_onCreated {swap : ChainSwap} {swapId : SwapId} {w : World} (hs : Settled id w)
    (hnone : swapId = id → swap.userLockupTxId = none → lockups id w.trace = []) :
    Settles sdk id (onCreated sdk swap swapId) w := by
  have hdone : ∀ {α : Type} (x : Except Err α) {w : World}, Settled id w →
      Settles sdk id (.done x) w := fun x w hs => settles_leaves (Task.within_done x) hs
  unfold onCreated
  split
  · exact hdone _ hs
  · rename_i hlockup _
    by_cases hid : swapId = id
    · subst hid
      have hnil := hnone rfl hlockup
      intro w₁ h₁ hi _
      have hrely₁ : LockupRely swapId w w₁ := h₁
      have hspares : Spares swapId w₁ (w₁.note (.lockupAttempted swapId)) := spares_note rfl w₁
      have hnil₁ : lockups swapId (w₁.note (.lockupAttempted swapId)).trace = [] :=
        hspares.lockups.trans (hrely₁.lockups.trans hnil)
      refine ⟨.inl hnil₁, trivial, ?_⟩
      cases swap.getBoltzCreateResponse sdk.bz with
      | error err => exact hdone _ (settled_of_nil hnil₁)
      | ok createResponse =>
          intro w₂ h₂ hi₂ built _ _
          have hrely₂ : LockupRely swapId _ w₂ := h₂
          have hnil₂ : lockups swapId w₂.trace = [] := hrely₂.lockups.trans hnil₁
          refine ⟨hi₂, trivial, ?_⟩
          cases built with
          | error err => exact hdone _ (settled_of_nil hnil₂)
          | ok lockupTx =>
              intro w₃ h₃ hi₃ answer _ hc
              have hrely₃ : LockupRely swapId w₂ w₃ := h₃
              have hnil₃ : lockups swapId w₃.trace = [] := hrely₃.lockups.trans hnil₂
              have hattempted : Attempted swapId w₃.trace :=
                hrely₃.attempted (hrely₂.attempted List.mem_cons_self)
              cases answer with
              | error err =>
                  have hsame : World.effect sdk (.liquidBroadcast (.lockup swapId) lockupTx) (.error err) w₃ = w₃ := by
                    cases err with
                    | replyLost text => exact absurd rfl (hc lockupTx.txid).2
                    | _ => rfl
                  have hdone₃ : Settles sdk swapId (.done (.error err) : Async Unit) w₃ :=
                    hdone _ (settled_of_nil hnil₃)
                  rw [← hsame] at hi₃ hdone₃
                  exact ⟨hi₃, trivial, hdone₃⟩
              | ok answered =>
                  -- the broadcast: the first one, and the condition says what the row is like
                  have hone : lockups swapId
                      (.lockupBroadcast swapId lockupTx.txid :: w₃.trace) = [lockupTx.txid] := by
                    rw [lockups_broadcast, hnil₃]
                  refine ⟨.inr ⟨_, hone, List.mem_cons_of_mem _ hattempted, .inr ((hc _).1 rfl)⟩, trivial, ?_⟩
                  intro w₄ h₄ hi₄ _
                  have hrely₄ : LockupRely swapId _ w₄ := h₄
                  exact ⟨hi₄, trivial, settles_recordUserLockup (hrely₄.lockups.trans hone)⟩
    · refine settles_leaves ?_ hs
      have hcall : ∀ tx, NoLockupOf id (.liquidBroadcast (.lockup swapId) tx) := fun _ => hid
      refine Task.Within.bind (within_note (spares_note rfl)) fun _ => ?_
      refine Task.Within.bind (Task.within_done _) fun createResponse => ?_
      refine Task.Within.bind (Task.Within.bind (leaves_ask (by trivial) rfl) fun lockupTx => ?_)
        fun userLockupTx => ?_
      · refine Task.Within.bind (Task.within_askOk ((hcall lockupTx).spares sdk) rfl) fun _ => ?_
        exact trivial
      · have hpayment : ∀ (ptx : Nat → PaymentTxData) w, Spares id w (w.write fun now db =>
            db.insertOrUpdatePayment now (ptx now)) := fun ptx w =>
          (ChainWrite.plain (p := sdk.persister) (.payment ptx)).spares w
        exact Task.Within.bind (within_write (hpayment _)) fun _ => leaves_updateSwapInfo _
  · exact hdone _ hs

/-- ... and so does a status, by which one lockup may be sent and recorded. -/
theorem settles_onNewStatus (update : SwapStatus) {w : World} (hs : Settled id w) :
    Settles sdk id (onNewStatus sdk update) w := by
  refine settles_fetch_bind fun w₁ h₁ hi => ?_
  have hs₁ : Settled id w₁ := h₁.settled hs
  cases hget : w₁.db.fetchChainSwapById update.id with
  | none => exact settles_leaves (Task.within_done _) hs₁
  | some swap =>
      rw [okOr, Task.ofExcept_ok_bind]
      cases swap.direction with
      | incoming => exact settles_leaves (leaves_onNewIncomingStatus swap update) hs₁
      | outgoing =>
          have hcreated : update.id = id → swap.userLockupTxId = none → lockups id w₁.trace = [] := by
            -- a broadcast lockup would be in the row that was read
            rintro rfl hnone
            refine List.eq_nil_iff_forall_not_mem.mpr fun txId hmem => ?_
            obtain ⟨row, hrow, hname⟩ := hs₁ txId hmem
            obtain ⟨row', hrow', rfl⟩ := Db.fetchChainSwapById_eq_some hget
            rw [hrow] at hrow'
            cases hrow'
            exact absurd (hname.symm.trans hnone) (Option.some_ne_none _)
          have hrest : ∀ {t : Async Unit}, Leaves sdk id t → Settles sdk id t w₁ :=
            fun h => settles_leaves h hs₁
          show Settles sdk id ((chainSwapState sdk update).bind _) w₁
          unfold chainSwapState
          cases okOr (sdk.bz.chainSwapStates update.status)
              ("Invalid ChainSwapState for Chain Swap " ++ update.id ++ ": " ++ update.status) with
          | error err => exact hrest (Task.within_done _)
          | ok state =>
              cases state with
              | created => exact settles_onCreated hs₁ hcreated
              | transactionMempool => exact hrest (plain_onOutgoingUserLockup update).steady.leaves
              | transactionConfirmed => exact hrest (plain_onOutgoingUserLockup update).steady.leaves
              | transactionServerMempool => exact hrest (leaves_onTransactionServerMempool swap update)
              | transactionServerConfirmed => exact hrest (leaves_onOutgoingServerConfirmed swap update)
              | transactionFailed =>
                  exact hrest (plain_onOutgoingUnrecoverable swap _).steady.leaves
              | transactionLockupFailed =>
                  exact hrest (plain_onOutgoingUnrecoverable swap _).steady.leaves
              | transactionRefunded =>
                  exact hrest (plain_onOutgoingUnrecoverable swap _).steady.leaves
              | swapExpired => exact hrest (plain_onOutgoingUnrecoverable swap _).steady.leaves
              | unhandled => exact hrest (Task.within_done _)

/-! ### Everything next to it -/

/-- No task but the handler of a status update broadcasts a lockup. -/
theorem sameLockups_besides {role : Role} {t : Async Unit} (h : Besides sdk role t) :
    t.Within (fun f => ∀ w, SameLockups id w (f w))
      fun q => ∀ a w, SameLockups id w (World.effect sdk q a w) := by
  cases role with
  | handler =>
      have hleaves : Leaves sdk id t := leaves_besides h
      refine hleaves.mono (fun f hf w => ?_) fun q hq a w => ?_
      · exact (hf w).toSameLockups
      · exact (hq a w).toSameLockups
  | recovery =>
      refine (writesRows_besides h).mono (fun f hf w => ?_) fun q hq a w => ?_
      · have htrace := (hf w).1
        exact ⟨by rw [htrace], fun ha => htrace ▸ ha⟩
      · rw [effect_of_quiet sdk hq]
        exact ⟨rfl, fun ha => ha⟩

/-- Which roles may run next to each other. -/
def LockupRole.coexist (r r' : LockupRole) : Prop := ¬ (r = .status ∧ r' = .status)

/-- The other tasks leave alone what a status task relies on. -/
theorem lockup_sound :
    Sound (lockupSystem sdk) (KeepsLockup id) (lockupProtocol id)
      LockupRole.coexist where
  compat r r' hne w w' h := by
    cases r' with
    | other => trivial
    | status =>
        cases r with
        | other => exact h
        | status => exact absurd ⟨rfl, rfl⟩ (hne.resolve_left fun h => h rfl)
  spawn roles w r t hspawn _ _ hidle := by
    cases r with
    | status =>
        obtain ⟨hfree, update, rfl⟩ := hspawn
        refine ⟨fun r' hr' => ?_, settles_onNewStatus update (hidle hfree)⟩
        have hne : r' ≠ .status := fun heq => hfree (heq ▸ hr')
        exact ⟨fun h => hne h.1, fun h => hne h.2⟩
    | other =>
        obtain ⟨role, hbesides⟩ := hspawn
        refine ⟨fun r' _ => ⟨fun h => LockupRole.noConfusion h.2, fun h => LockupRole.noConfusion h.1⟩, ?_⟩
        have hbenign : Benign (lockupSystem sdk) (KeepsLockup id) (lockupProtocol id)
            .other t :=
          (sameLockups_besides hbesides).mono
            (fun f hf w hi hc => inv_of_preserves hi (hf w) hc)
            fun q hq a w _ hi hc => inv_of_preserves hi (hq a w) hc
        exact hbenign.safe_of (fun _ _ _ => trivial) fun _ _ _ _ => trivial
  abort r w _ hc := by
    cases r with
    | status => exact hc
    | other => trivial
  env w w' henv hi hc := by
    have hsame : SameLockups id w w' := ⟨by rw [henv.1], fun ha => henv.1 ▸ ha⟩
    obtain ⟨hi', hrely⟩ := inv_of_preserves hi hsame hc
    refine ⟨hi', fun r => ?_⟩
    cases r with
    | status => exact hrely
    | other => trivial

/-! ### The moment between the broadcast and the write -/

/-- The lockup is sent and recorded at the end of the one status that sends it. -/
theorem commitsLast_onCreated (swap : ChainSwap) (swapId : SwapId) :
    (onCreated sdk swap swapId).CommitsLast (Spares id) (World.effect sdk) := by
  unfold onCreated
  split
  · trivial
  · refine .bind_right (within_note (spares_note rfl)) fun _ => ?_
    refine .bind_right (Task.within_done _) fun createResponse => ?_
    refine .bind_left ?_ fun userLockupTx => ?_
    · refine .bind_right (leaves_ask (by trivial) rfl) fun lockupTx => ?_
      exact .bind_left (Task.commitsLast_askOk _ _) fun _ => trivial
    · have hpayment : ∀ (ptx : Nat → PaymentTxData) w, Spares id w (w.write fun now db =>
          db.insertOrUpdatePayment now (ptx now)) := fun ptx w =>
        (ChainWrite.plain (p := sdk.persister) (.payment ptx)).spares w
      exact Task.Within.bind (within_write (hpayment _)) fun _ => local_updateSwapInfo _
  · trivial

/-- Once a lockup is broadcast, the handler asks nobody anything any more. -/
theorem commitsLast_onNewStatus (update : SwapStatus) :
    (onNewStatus sdk update).CommitsLast (Spares id) (World.effect sdk) := by
  refine .bind_right (plain_fetchChainSwapById _).steady.leaves fun swap => ?_
  have hrest : ∀ {t : Async Unit}, Leaves sdk id t → t.CommitsLast (Spares id) (World.effect sdk) :=
    fun h => h.commitsLast
  cases swap.direction with
  | incoming => exact hrest (leaves_onNewIncomingStatus swap update)
  | outgoing =>
      refine .bind_right (Task.within_done _) fun state => ?_
      cases state with
      | created => exact commitsLast_onCreated swap update.id
      | transactionMempool => exact hrest (plain_onOutgoingUserLockup update).steady.leaves
      | transactionConfirmed => exact hrest (plain_onOutgoingUserLockup update).steady.leaves
      | transactionServerMempool => exact hrest (leaves_onTransactionServerMempool swap update)
      | transactionServerConfirmed => exact hrest (leaves_onOutgoingServerConfirmed swap update)
      | transactionFailed => exact hrest (plain_onOutgoingUnrecoverable swap _).steady.leaves
      | transactionLockupFailed => exact hrest (plain_onOutgoingUnrecoverable swap _).steady.leaves
      | transactionRefunded => exact hrest (plain_onOutgoingUnrecoverable swap _).steady.leaves
      | swapExpired => exact hrest (plain_onOutgoingUnrecoverable swap _).steady.leaves
      | unhandled => exact hrest (Task.within_done _)

/-- The task asks nobody anything any more, and left alone it comes to name the lockup in the row. -/
structure AboutToName (sdk : Sdk) (id : SwapId) (txId : TxId) (t : Async Unit) (w : World) : Prop where
  asksNobody : t.Within (fun _ => True) fun _ => False
  names : ∀ ans n, Names (t.run (World.effect sdk) ans (n, w)).2.2 id txId

/-- The condition asks nothing of steps that broadcast no lockup. -/
theorem keepsLockup_of_spares {w w' : World} (h : Spares id w w') : KeepsLockup id (.own .status) w w' := by
  have hnew : ∀ e txId, Chain.lockups id (e :: w.trace) = txId :: Chain.lockups id w.trace → w'.trace ≠ e :: w.trace := by
    intro e txId hcons htrace
    have hsame := h.lockups
    rw [htrace, hcons] at hsame
    exact List.cons_ne_self _ _ hsame
  intro txId
  exact ⟨fun htrace => absurd htrace (hnew _ txId (lockups_broadcast id txId _)),
    hnew _ txId (by simp [Chain.lockups, lockupOf])⟩

/-- Whatever has happened on a device, its pool is kept, as it was at first. -/
theorem lockup_kept {w : World} {c : Pool World Call Call.Answer Err LockupRole}
    (hw : w.trace = []) (hrun : Runs (lockupSystem sdk) (KeepsLockup id) ⟨w, []⟩ c) :
    Kept (lockupSystem sdk) (KeepsLockup id) (lockupProtocol id) LockupRole.coexist ⟨w, []⟩ ∧
      Kept (lockupSystem sdk) (KeepsLockup id) (lockupProtocol id) LockupRole.coexist c := by
  have hnil : lockups id w.trace = [] := by rw [hw]; rfl
  have hidle : ∀ r, (lockupProtocol id).idle r w := by
    intro r
    cases r with
    | status => exact settled_of_nil hnil
    | other => trivial
  have hkept : Kept (lockupSystem sdk) (KeepsLockup id) (lockupProtocol id)
      LockupRole.coexist ⟨w, []⟩ :=
    { inv := .inl hnil, roles := .nil, safe := nofun, idle := fun r _ => hidle r }
  exact ⟨hkept, Runs.keep lockup_sound hkept hrun⟩

/-- A broadcast lockup is in the row, or the handler that broadcast it has only to write it. -/
theorem named_or_aboutToName {w : World} {c : Pool World Call Call.Answer Err LockupRole} (hw : w.trace = [])
    (hrun : Runs (lockupSystem sdk) (KeepsLockup id) ⟨w, []⟩ c) {txId : TxId} (hmem : txId ∈ lockups id c.state.trace) :
    Names c.state id txId ∨ ∃ t, (.status, t) ∈ c.tasks ∧ AboutToName sdk id txId t c.state := by
  obtain ⟨hkept₀, hkept⟩ := lockup_kept hw hrun
  by_cases hs : Settled id c.state
  · exact .inl (hs txId hmem)
  · have hrunning : LockupRole.status ∈ c.tasks.map Prod.fst := by
      by_contra hidle
      exact hs (hkept.idle .status hidle)
    obtain ⟨⟨role, t⟩, ht, rfl⟩ := List.mem_map.mp hrunning
    have hspawn : ∀ roles w t, (lockupSystem sdk).spawns roles w .status t →
        t.CommitsLast (Spares id) (World.effect sdk) := by
      rintro roles w t ⟨-, update, rfl⟩
      exact commitsLast_onNewStatus update
    obtain ⟨-, hor⟩ := Runs.committed (R := Spares id) (J := Settled id) lockup_sound (fun h => h ⟨rfl, rfl⟩)
      (fun _ _ => Spares.settled) (fun _ _ (h : LockupRely id _ _) => h.settled) (fun _ h => h) hspawn hkept₀ hrun t ht
    have hlocal : t.Local (Spares id) := hor.resolve_left hs
    refine .inr ⟨t, ht, hlocal.mono (fun _ _ => trivial) fun _ hq => hq, fun ans n => ?_⟩
    -- what is left of the handler is safe, so at its end all lockups are in the row
    have hend : Settled id (t.run (World.effect sdk) ans (n, c.state)).2.2 :=
      (hkept.safe _ ht).run_local (fun _ _ => keepsLockup_of_spares) hkept.inv hlocal ans n
    have hspares := Task.run_local (.refl id) (fun h h' => h.trans h') hlocal (World.effect sdk) ans n c.state
    exact hend txId (hspares.lockups ▸ hmem)

/-- There is such a moment whenever a lockup is broadcast. -/
theorem not_names_of_awaits {w : World} (h : Awaits w id) (txId : TxId) :
    ¬ Names (w.note (.lockupBroadcast id txId)) id txId := by
  obtain ⟨row, hrow, hnone, -⟩ := h
  rintro ⟨row', hrow', hname⟩
  have hsame : w.db.chainSwaps.get? id = some row' := hrow'
  rw [hrow] at hsame
  cases hsame
  exact Option.some_ne_none _ (hname.symm.trans hnone)

end OneDevice

/-! ## Any number of devices -/

section Devices

variable {ι : Type} [DecidableEq ι] (sdk : ι → Sdk) (id : SwapId)

/-- Each device keeps the lockup, and only one device ever goes to make it. -/
def KeepsLockups : FleetCond ι World LockupRole := fun d l worlds w' =>
  KeepsLockup id l (worlds d) w' ∧
    (Attempted id w'.trace → ¬ Attempted id (worlds d).trace →
      ∀ d', d' ≠ d → ¬ Attempted id (worlds d').trace)

end Devices

/-! ## One lockup and two -/

/-- An outgoing swap without a user lockup. -/
def createdOutgoing : ChainSwap where
  id := "s"
  direction := .outgoing
  createResponseJson := "s"
  payerAmountSat := 1000

/-- A wallet that builds a transaction with this id, and a node that takes it. -/
def lockupAnswers (txId : TxId) : Nat → (q : Call) → q.Answer
  | _, .buildTxOrDrainTx .. => .ok { txid := txId }
  | _, .liquidBroadcast _ tx => .ok tx.txid
  | _, q => q.offline

def createdUpdate : SwapStatus := { id := "s", status := "swap.created" }

/-- A device that got the status of a created swap. -/
def afterCreated (txId : TxId) (swap : ChainSwap) : World :=
  runIn chainSdk (lockupAnswers txId) (onNewStatus chainSdk createdUpdate) (chainWorld swap)

/-- If the step broadcasts a lockup, the row awaits it; and the reply was not lost. -/
def broadcastsAwaited (w w' : World) : Bool :=
  match w'.trace with
  | .lockupBroadcast id _ :: _ => w'.trace.length ≤ w.trace.length ||
      (w.db.chainSwaps.get? id).any fun row => row.userLockupTxId.isNone &&
        decide (validateStateTransition row.state .pending = .ok ())
  | .replyLost .. :: _ => false
  | _ => true

theorem awaits_of_broadcastsAwaited {w w' : World} {id : SwapId} {txId : TxId}
    (h : broadcastsAwaited w w' = true) (htrace : w'.trace = .lockupBroadcast id txId :: w.trace) :
    Awaits w id := by
  rw [broadcastsAwaited, htrace] at h
  have hlength : ¬ (Event.lockupBroadcast id txId :: w.trace).length ≤ w.trace.length := by
    rw [List.length_cons]
    omega
  simp only [hlength, decide_false, Bool.false_or] at h
  cases hrow : w.db.chainSwaps.get? id with
  | none =>
      rw [hrow] at h
      cases h
  | some row =>
      rw [hrow, Option.any_some, Bool.and_eq_true, Option.isNone_iff_eq_none] at h
      exact ⟨row, hrow, h.1, of_decide_eq_true h.2⟩

theorem spawns_created : (lockupSystem chainSdk).spawns [] (chainWorld createdOutgoing) .status
    (onNewStatus chainSdk createdUpdate) := ⟨List.not_mem_nil, _, rfl⟩

/-- A phone and a tablet with the same swap. -/
def bothCreated : Bool → Pool World Call Call.Answer Err LockupRole :=
  fun _ => ⟨chainWorld createdOutgoing, []⟩

/-- A wallet that builds a transaction with this id, and a node that takes it, but whose reply is lost. -/
def lostLockupAnswers (txId : TxId) : Nat → (q : Call) → q.Answer
  | _, .buildTxOrDrainTx .. => .ok { txid := txId }
  | _, .liquidBroadcast .. => .error (.replyLost "Connection reset")
  | _, q => q.offline

/-- The phone after the status of a created swap, when the reply to its lockup was lost. -/
def afterLost : World :=
  runIn chainSdk (lostLockupAnswers "phone") (onNewStatus chainSdk createdUpdate) (chainWorld createdOutgoing)

/-- The phone after the status came again. -/
def afterAgain : World := runIn chainSdk (lockupAnswers "again") (onNewStatus chainSdk createdUpdate) afterLost

end BreezLiquid.Chain
