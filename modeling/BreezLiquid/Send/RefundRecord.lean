/-
# BreezLiquid.Send.RefundRecord — when the id of a broadcast refund reaches the swap row.

A refund is broadcast for a swap in `Pending` or `RefundPending`, but recording it goes through
`updateSwapInfo`, whose transition table has no step from `RefundPending` to itself. So the id is
recorded exactly when the row is still `Pending` at the broadcast, for status updates and for the refund
loop, whatever others do to the database while a task waits for an answer.
-/
import BreezLiquid.Send.Handler

namespace BreezLiquid.Send

open Interleaving Recover Tables

section Run

variable (sdk : Sdk) (others : World → Nat × Db) (ans : Nat → (q : Call) → q.Answer)

/-- The row says that the refund was broadcast. -/
def RefundRecorded (w : World) (swapId : SwapId) (txId : TxId) : Prop :=
  ∃ row, w.db.sendSwaps.get? swapId = some row ∧ row.refundTxId = some txId ∧
    row.state = .refundPending

/-- Of the refunds broadcast between two worlds, for rows without a refund id, exactly the ones broadcast
from `Pending` are recorded. -/
def RecordsFromPending (w w' : World) : Prop :=
  ∀ new, w'.trace = new ++ w.trace → ∀ swapId txId row,
    .refundBroadcast swapId txId (some row) ∈ new → row.refundTxId = none →
      (RefundRecorded w' swapId txId ↔ row.state = .pending)

/-! ## What the parts of a refund do -/

theorem ensureRefundAddress_silent (swap : SendSwap) :
    (ensureRefundAddress swap).Within Silent Call.Quiet := by
  unfold ensureRefundAddress
  split
  · trivial
  · exact ⟨trivial, fun a => by
      cases a with
      | error err => trivial
      | ok address => exact ⟨silent_write _, fun _ => trivial⟩⟩

/-- Everything before the broadcast of a refund adds no event. -/
theorem createRefund_silent (swap : SendSwap) (isCooperative : Bool) :
    (createRefund sdk swap isCooperative).Within Silent Call.Quiet := by
  refine Task.Within.bind (Task.within_done _) fun swapScript => ?_
  refine Task.Within.bind (ensureRefundAddress_silent swap) fun refundAddress => ?_
  refine Task.Within.bind (Task.within_done _) fun scriptPk => ?_
  refine Task.Within.bind (Task.within_askOk trivial rfl) fun utxos => ?_
  refine Task.Within.bind (Task.within_askOk trivial rfl) fun refundTx => ?_
  cases refundTx with
  | liquid tx => trivial
  | bitcoin tx => trivial

theorem checkSwapExpiry_silent (swap : SendSwap) :
    (checkSwapExpiry sdk swap).Within Silent Call.Quiet := by
  refine Task.Within.bind (Task.within_reads silent_id _) fun now => ?_
  split
  · trivial
  · split
    · trivial
    · refine Task.Within.bind (Task.within_done _) fun swapScript => ?_
      refine Task.Within.bind (Task.within_ask trivial) fun height => ?_
      exact Task.Within.bind (Task.within_done _) fun _ => trivial

/-- What others do while a call is answered is not in the trace. -/
theorem effectAmid_trace {q : Call} (h : q.Quiet) (a : q.Answer) (w : World) :
    (World.effectAmid sdk others q a w).trace = w.trace := by
  rw [World.effectAmid, effect_of_quiet sdk h]

/-- A silent task alone leaves the trace as it is. -/
theorem run_silent {α : Type} {t : Async α} (h : t.Within Silent Call.Quiet) (w : Nat × World) :
    (t.run (World.effectAmid sdk others) ans w).2.2.trace = w.2.trace :=
  Task.run_preserves _ ans World.trace (fun _ hf => hf)
    (fun _ hq a s => effectAmid_trace sdk others hq a s) h w

/-- The reply to a broadcast was lost. -/
def IsLost : Event → Prop
  | .replyLost .. => True
  | _ => False

/-- What an attempted refund leaves: on success its event is the newest one, with the row as it is. Before it, replies may
have been lost. -/
def RefundOutcome (swapId : SwapId) (w w' : World) : Except Err TxId → Prop
  | .ok txId => ∃ lost, (∀ e ∈ lost, IsLost e) ∧
      w'.trace = .refundBroadcast swapId txId (w'.db.sendSwaps.get? swapId) :: (lost ++ w.trace)
  | .error _ => ∃ lost, (∀ e ∈ lost, IsLost e) ∧ w'.trace = lost ++ w.trace

theorem isLost_nil : ∀ e ∈ ([] : List Event), IsLost e := fun _ h => absurd h List.not_mem_nil

/-- A refund is broadcast with the state of the swap at that moment, or not at all ... -/
theorem refund_run (swap : SendSwap) (isCooperative : Bool) (w : Nat × World) :
    RefundOutcome swap.id w.2
      ((refund sdk swap isCooperative).run (World.effectAmid sdk others) ans w).2.2
      ((refund sdk swap isCooperative).run (World.effectAmid sdk others) ans w).1 := by
  have hsilent := run_silent sdk others ans (createRefund_silent sdk swap isCooperative) w
  rw [refund, Task.bind_eq, Task.run_bind]
  generalize (createRefund sdk swap isCooperative).run (World.effectAmid sdk others) ans w = res
    at hsilent
  obtain ⟨res, n, w₁⟩ := res
  cases res with
  | error err => exact ⟨[], isLost_nil, hsilent⟩
  | ok tx =>
      -- the broadcast is the last action: its event is made of the row the task leaves behind
      show RefundOutcome swap.id w.2
        (World.effectAmid sdk others _ (ans n (.liquidBroadcast (.refund swap.id) tx)) w₁)
        (ans n (.liquidBroadcast (.refund swap.id) tx))
      cases ans n (.liquidBroadcast (.refund swap.id) tx) with
      | error err =>
          cases err with
          | replyLost text =>
              refine ⟨[.replyLost (.refund swap.id) tx.txid], fun e he => ?_, ?_⟩
              · cases List.mem_singleton.mp he
                trivial
              · exact congrArg (_ :: ·) hsilent
          | _ => exact ⟨[], isLost_nil, hsilent⟩
      | ok txId =>
          refine ⟨[], isLost_nil, ?_⟩
          show _ :: w₁.trace = _ :: w.2.trace
          rw [hsilent]
          rfl

/-- ... and the choice between the two kinds of refunds does not matter. -/
theorem refundPendingSwap_run (swap : SendSwap) (hasSwapExpired : Bool) (w : Nat × World) :
    RefundOutcome swap.id w.2
      ((refundPendingSwap sdk swap hasSwapExpired).run (World.effectAmid sdk others) ans w).2.2
      ((refundPendingSwap sdk swap hasSwapExpired).run (World.effectAmid sdk others) ans w).1 := by
  unfold refundPendingSwap
  split
  · have hfirst := refund_run sdk others ans swap true w
    rw [Task.bind_eq, Task.run_bind, Task.run_attempt]
    generalize (refund sdk swap true).run (World.effectAmid sdk others) ans w = res at hfirst
    obtain ⟨res, n, w₁⟩ := res
    cases res with
    | ok txId => exact hfirst
    | error err =>
        obtain ⟨lost, hlost, hfirst⟩ := hfirst
        have hsecond := refund_run sdk others ans swap false (n, w₁)
        dsimp only at hfirst ⊢
        revert hsecond
        have hboth : ∀ {lost' : List Event}, (∀ e ∈ lost', IsLost e) → ∀ e ∈ lost' ++ lost, IsLost e := by
          intro lost' hlost' e he
          rcases List.mem_append.mp he with he | he
          · exact hlost' e he
          · exact hlost e he
        cases ((refund sdk swap false).run (World.effectAmid sdk others) ans (n, w₁)).1 with
        | ok txId =>
            rintro ⟨lost', hlost', h⟩
            refine ⟨lost' ++ lost, hboth hlost', h.trans ?_⟩
            rw [hfirst, List.append_assoc]
        | error err =>
            rintro ⟨lost', hlost', h⟩
            refine ⟨lost' ++ lost, hboth hlost', h.trans ?_⟩
            rw [hfirst, List.append_assoc]
  · exact refund_run sdk others ans swap true w

/-! ## Recording a refund -/

theorem updateSwapLnurlInfo_within (swap updatedSwap : SendSwap) :
    (updateSwapLnurlInfo sdk swap updatedSwap).Within
      (fun f => ∀ w, (f w).trace = w.trace ∧ (f w).db.sendSwaps = w.db.sendSwaps)
      (fun _ => False) := by
  have hwrite : ∀ details w,
      (World.write (fun now db => db.insertOrUpdatePaymentDetails sdk.persister now details) w).trace =
          w.trace ∧
        (World.write (fun now db => db.insertOrUpdatePaymentDetails sdk.persister now details)
          w).db.sendSwaps = w.db.sendSwaps := by
    intro details w
    refine ⟨rfl, ?_⟩
    simp [World.write, Db.insertOrUpdatePaymentDetails, Db.insertOrUpdatePaymentDetailsInner]
  unfold updateSwapLnurlInfo
  split
  · refine Task.Within.bind ⟨fun _ => ⟨rfl, rfl⟩, fun _ => trivial⟩ fun details => ?_
    split
    · refine Task.Within.bind (Task.within_done _) fun lnurlInfo => ?_
      split
      · exact ⟨hwrite _, fun _ => trivial⟩
      · trivial
    · trivial
  · trivial

/-- Only a pending swap becomes refund-pending. -/
theorem validateStateTransition_refundPending (state : PaymentState) :
    validateStateTransition state .refundPending =
      if state = .pending then .ok () else state.refuse .refundPending := by
  cases state <;> rfl

/-- The row of a swap after an update to `RefundPending`. -/
def refundPendingRow (now : Nat) (refundTxId : Option TxId) (row : SendSwap) : SendSwap :=
  { row with
    refundTxId := row.refundTxId.or refundTxId
    state := .refundPending
    metadata := row.metadata.touch now }

/-- The row once the refund is recorded. -/
theorem get?_tryHandleSendSwapUpdate (p : Persister) (now : Nat) (swapId : SwapId)
    (refundTxId : Option TxId) {db : Db} {row : SendSwap} (h : db.sendSwaps.get? swapId = some row) :
    (db.tryHandleSendSwapUpdate p now swapId .refundPending none none refundTxId).sendSwaps.get?
      swapId = some (refundPendingRow now refundTxId row) := by
  have hid : row.id = swapId := Table.get?_some_key h
  simp [Db.tryHandleSendSwapUpdate, h, hid, refundPendingRow]

/-- `update_swap_info` to `RefundPending` fills the row in if it is pending, and leaves it otherwise. -/
theorem updateSwapInfo_run (swapId : SwapId) (refundTxId : Option TxId) (w : Nat × World) :
    ((updateSwapInfo sdk swapId .refundPending none none refundTxId).run
        (World.effectAmid sdk others) ans w).2.2.trace = w.2.trace ∧
      ∀ row, w.2.db.sendSwaps.get? swapId = some row →
        ((updateSwapInfo sdk swapId .refundPending none none refundTxId).run
            (World.effectAmid sdk others) ans w).2.2.db.sendSwaps.get? swapId =
          some (if row.state = .pending then refundPendingRow w.2.now refundTxId row else row) := by
  have hfetch : ∀ w : Nat × World, (fetchSendSwapById swapId).run (World.effectAmid sdk others) ans w =
      (okOr (w.2.db.fetchSendSwapById swapId) ("Send Swap not found " ++ swapId), w) := fun _ => rfl
  rw [updateSwapInfo, Task.bind_eq, Task.run_bind, hfetch, Db.fetchSendSwapById]
  cases hrow : w.2.db.sendSwaps.get? swapId with
  | none => exact ⟨rfl, fun row h => by cases h⟩
  | some row =>
      have hvalidate := validateStateTransition_refundPending row.state
      show (Task.run _ ans ((Task.ofExcept (validateStateTransition row.state .refundPending)).bind
          _) w).2.2.trace = _ ∧ ∀ row', some row = some row' →
        (Task.run _ ans ((Task.ofExcept (validateStateTransition row.state .refundPending)).bind
          _) w).2.2.db.sendSwaps.get? swapId = _
      by_cases hpending : row.state = .pending
      · -- the update is written; what follows touches neither the send swaps nor the trace
        have hwritten := get?_tryHandleSendSwapUpdate sdk.persister w.2.now swapId refundTxId hrow
        have hkeep := fun swap updatedSwap w' => Prod.mk.inj <|
          Task.run_preserves (World.effectAmid sdk others) ans
            (fun w : World => (w.trace, w.db.sendSwaps))
            (fun f hf s => Prod.ext (hf s).1 (hf s).2) (fun _ h => h.elim)
            ((updateSwapLnurlInfo_within sdk swap updatedSwap).bind fun _ =>
              Task.within_done (.ok ())) w'
        rw [hvalidate, if_pos hpending]
        simp only [Task.ofExcept_ok_bind, Task.bind_eq, Task.run_bind, run_write, hfetch,
          Db.fetchSendSwapById, World.write, hwritten, Option.map_some, okOr]
        simp only [Task.run_bind] at hkeep
        refine ⟨(hkeep _ _ (w.1, _)).1, fun row' h => ?_⟩
        cases h
        rw [if_pos hpending, ← hwritten]
        exact congrArg (Table.get? · swapId) (hkeep _ _ (w.1, _)).2
      · rw [hvalidate, if_neg hpending]
        refine ⟨rfl, fun row' h => ?_⟩
        cases h
        rw [if_neg hpending]
        exact hrow

/-! ## Every refund of the handler -/

/-- Where at most replies were lost, no refund was broadcast. -/
theorem RecordsFromPending.of_lost {w w' : World} {lost : List Event} (hlost : ∀ e ∈ lost, IsLost e)
    (h : w'.trace = lost ++ w.trace) : RecordsFromPending w w' := by
  intro new hnew
  obtain rfl : new = lost := List.append_cancel_right (hnew.symm.trans h)
  intro swapId txId row hmem
  exact (hlost _ hmem).elim

/-- Without an event there is nothing to record. -/
theorem RecordsFromPending.of_silent {w w' : World} (h : w'.trace = w.trace) :
    RecordsFromPending w w' := .of_lost isLost_nil h

/-- Events before the refund do not matter, only that there were no refunds among them. -/
theorem RecordsFromPending.after_silent {w w₁ w' : World} (h : w₁.trace = w.trace)
    (hrec : RecordsFromPending w₁ w') : RecordsFromPending w w' := by
  unfold RecordsFromPending at *
  rwa [← h]

/-- After a refund attempt, `update_swap_info` records the refund exactly if the row is pending. -/
theorem updateSwapInfo_records {swapId : SwapId} {w : World} {w₁ : Nat × World}
    {res : Except Err TxId} (h : RefundOutcome swapId w w₁.2 res) :
    RecordsFromPending w ((updateSwapInfo sdk swapId .refundPending none none res.toOption).run
      (World.effectAmid sdk others) ans w₁).2.2 := by
  obtain ⟨htrace, hrow⟩ := updateSwapInfo_run sdk others ans swapId res.toOption w₁
  cases res with
  | error err =>
      obtain ⟨lost, hlost, h⟩ := h
      exact .of_lost hlost (htrace.trans h)
  | ok txId =>
      obtain ⟨lost, hlost, h⟩ := h
      intro new hnew swapId' txId' row hmem hnone
      have hnew' : new = .refundBroadcast swapId txId (w₁.2.db.sendSwaps.get? swapId) :: lost :=
        List.append_cancel_right (hnew.symm.trans (htrace.trans h))
      rw [hnew', List.mem_cons] at hmem
      replace hmem := hmem.resolve_right fun hmem => hlost _ hmem
      injection hmem with hid htx hget
      subst hid htx
      have hafter := hrow row hget.symm
      by_cases hpending : row.state = .pending
      · rw [if_pos hpending] at hafter
        refine ⟨fun _ => hpending, fun _ => ⟨_, hafter, ?_, rfl⟩⟩
        simp [refundPendingRow, hnone, Except.toOption]
      · rw [if_neg hpending] at hafter
        refine ⟨fun ⟨row', hget', hrefund, _⟩ => ?_, fun h => absurd h hpending⟩
        rw [hafter] at hget'
        cases hget'
        rw [hnone] at hrefund
        cases hrefund

/-- The refund is recorded exactly if the swap was pending at the broadcast ... -/
theorem recordRefund_records {swapId : SwapId} {w : World} {w₁ : Nat × World}
    {res : Except Err TxId} (h : RefundOutcome swapId w w₁.2 res) :
    RecordsFromPending w
      ((recordRefund sdk swapId res).run (World.effectAmid sdk others) ans w₁).2.2 := by
  cases res with
  | error err =>
      obtain ⟨lost, hlost, h⟩ := h
      exact .of_lost hlost h
  | ok txId =>
      have hrec := updateSwapInfo_records sdk others ans h
      simp only [recordRefund, Task.bind_eq, Task.run_bind, Task.run_attempt]
      exact hrec

/-- ... in one try ... -/
theorem tryRefund_records (swap : SendSwap) (w : Nat × World) :
    RecordsFromPending w.2
      ((tryRefund sdk swap).run (World.effectAmid sdk others) ans w).2.2 := by
  have hexpiry := run_silent sdk others ans (checkSwapExpiry_silent sdk swap) w
  unfold tryRefund
  split
  · exact .of_silent rfl
  · simp only [Task.bind_eq, Task.run_bind, Task.run_attempt]
    generalize (checkSwapExpiry sdk swap).run (World.effectAmid sdk others) ans w = res at hexpiry
    obtain ⟨expiry, w₁⟩ := res
    refine .after_silent hexpiry ?_
    dsimp only
    split
    · exact .of_silent rfl
    · split
      · have hrefund := refund_run sdk others ans swap false w₁
        simp only [Task.run_bind, Task.run_attempt]
        exact recordRefund_records sdk others ans hrefund
      · have hrefund :=
          refundPendingSwap_run sdk others ans swap (expiry.toOption.getD false) w₁
        simp only [Task.run_bind, Task.run_attempt]
        exact recordRefund_records sdk others ans hrefund
      · exact .of_silent rfl

/-- A round of the refund loop returns; errors are logged. -/
theorem tryRefund_returns (swap : SendSwap) : (tryRefund sdk swap).Yields fun x => x = .ok () := by
  have hskip : ∀ {α : Type} {t : Async α} {g : Except Err α → Async Unit},
      (∀ x, (g x).Yields fun x => x = .ok ()) → (t.attempt.bind g).Yields fun x => x = .ok () :=
    fun hg => (Task.Yields.attempt ((Task.yields_true _).mono fun x _ => hg x)).bind
  have hrecord : ∀ res, (recordRefund sdk swap.id res).Yields fun x => x = .ok () := by
    intro res
    cases res with
    | ok txId => exact hskip fun _ => rfl
    | error err => rfl
  unfold tryRefund
  split
  · rfl
  · refine hskip fun expiry => ?_
    dsimp only
    split
    · rfl
    · split
      · exact hskip hrecord
      · exact hskip hrecord
      · rfl

/-! ## The branches without a refund -/

theorem fetchSendSwapById_silent (swapId : SwapId) :
    (fetchSendSwapById swapId).Within Silent Call.Quiet :=
  Task.Within.bind (within_fetch silent_id _) fun _ => Task.within_done _

theorem updateSwapLnurlInfo_silent (swap updatedSwap : SendSwap) :
    (updateSwapLnurlInfo sdk swap updatedSwap).Within Silent Call.Quiet :=
  (updateSwapLnurlInfo_within sdk swap updatedSwap).mono (fun _ hf w => (hf w).1) fun _ h => h.elim

theorem updateSwapInfo_silent (swapId : SwapId) (toState : PaymentState)
    (preimage lockupTxId refundTxId : Option String) :
    (updateSwapInfo sdk swapId toState preimage lockupTxId refundTxId).Within Silent Call.Quiet := by
  refine Task.Within.bind (fetchSendSwapById_silent swapId) fun swap => ?_
  refine Task.Within.bind (Task.within_done _) fun _ => ?_
  refine Task.Within.bind (within_write (silent_write _)) fun _ => ?_
  refine Task.Within.bind (fetchSendSwapById_silent swapId) fun updatedSwap => ?_
  exact Task.Within.bind (updateSwapLnurlInfo_silent sdk swap updatedSwap) fun _ => trivial

/-- The other parts of the handler add no event. -/
theorem updateSwap_silent (updatedSwap : SendSwap) :
    (updateSwap sdk updatedSwap).Within Silent Call.Quiet := by
  refine Task.Within.bind (fetchSendSwapById_silent _) fun swap => ?_
  refine Task.Within.bind (updateSwapLnurlInfo_silent sdk swap updatedSwap) fun lnurlInfoUpdated => ?_
  split
  · refine Task.Within.bind (within_fetch silent_id _) fun maybeSwap => ?_
    exact within_tryWrite (silent_tryWrite _)
  · trivial

theorem claimPendingPreimage_silent (swap : SendSwap) :
    (claimPendingPreimage sdk swap).Within Silent Call.Quiet := by
  have hcooperate : (cooperateClaim swap).Within Silent Call.Quiet :=
    Task.Within.bind (ensureRefundAddress_silent swap) fun _ => Task.within_askOk trivial rfl
  refine Task.Within.bind (Task.Within.attempt ?_) fun cooperative => ?_
  · refine Task.Within.bind (Task.within_askOk trivial rfl) fun preimage => ?_
    exact Task.Within.bind hcooperate fun _ => trivial
  · cases cooperative with
    | ok preimage => trivial
    | error err =>
        refine Task.Within.bind (Task.within_askOk trivial rfl) fun preimage => ?_
        split <;> trivial

/-- ... after an unrecoverable status ... -/
theorem onUnrecoverable_records (swap : SendSwap) (w : Nat × World) :
    RecordsFromPending w.2
      ((onUnrecoverable sdk swap).run (World.effectAmid sdk others) ans w).2.2 := by
  unfold onUnrecoverable
  split
  · exact .of_silent (run_silent sdk others ans (updateSwapInfo_silent sdk _ _ _ _ _) w)
  · split
    · exact .of_silent rfl
    · have hrefund := refund_run sdk others ans swap true w
      simp only [Task.bind_eq, Task.run_bind, Task.run_attempt]
      exact updateSwapInfo_records sdk others ans hrefund

/-- ... and after any status. -/
theorem onNewStatus_records (update : SwapStatus) (w : Nat × World) :
    RecordsFromPending w.2
      ((onNewStatus sdk update).run (World.effectAmid sdk others) ans w).2.2 := by
  -- only the states of a failed swap get to a refund
  have hsilent : ∀ {t : Async Unit}, t.Within Silent Call.Quiet → ∀ w : Nat × World,
      RecordsFromPending w.2 (t.run (World.effectAmid sdk others) ans w).2.2 :=
    fun h w => .of_silent (run_silent sdk others ans h w)
  unfold onNewStatus
  cases hstate : okOr (sdk.bz.subSwapStates update.status)
      ("Invalid SubSwapState for Send Swap " ++ update.id ++ ": " ++ update.status) with
  | error err => exact .of_silent rfl
  | ok swapState =>
      have hfetch := run_silent sdk others ans (fetchSendSwapById_silent update.id) w
      simp only [Task.bind_eq, Task.ofExcept_ok_bind, Task.run_bind]
      generalize (fetchSendSwapById update.id).run (World.effectAmid sdk others) ans w = res at hfetch
      obtain ⟨swap, w₁⟩ := res
      refine .after_silent hfetch ?_
      cases swap with
      | error err => exact .of_silent rfl
      | ok swap =>
          dsimp only
          cases swapState with
          | transactionClaimPending =>
              refine hsilent ?_ w₁
              dsimp only
              split
              · refine Task.Within.bind (claimPendingPreimage_silent sdk swap) fun preimage => ?_
                exact updateSwapInfo_silent sdk _ _ _ _ _
              · trivial
          | transactionClaimed =>
              refine hsilent ?_ w₁
              dsimp only
              split
              · trivial
              · refine Task.Within.bind ((Recover.readOnly_recoverFromOnchain sdk _ _).mono
                  (fun f hf => hf ▸ silent_id) fun _ h => h.quiet) fun results => ?_
                split
                · exact updateSwap_silent sdk _
                · trivial
          | transactionLockupFailed => exact onUnrecoverable_records sdk others ans swap w₁
          | invoiceFailedToPay => exact onUnrecoverable_records sdk others ans swap w₁
          | swapExpired => exact onUnrecoverable_records sdk others ans swap w₁
          | invoiceSet => exact .of_silent rfl
          | unhandled => exact .of_silent rfl

theorem tryRefundAll_singleton (swap : SendSwap) (w : Nat × World) :
    (tryRefundAll sdk [swap]).run (World.effectAmid sdk others) ans w =
      (tryRefund sdk swap).run (World.effectAmid sdk others) ans w := by
  have hreturns := (tryRefund_returns sdk swap).run (World.effectAmid sdk others) ans w
  rw [tryRefundAll, Task.forEach, Task.forEach, Task.run_bind]
  generalize (tryRefund sdk swap).run (World.effectAmid sdk others) ans w = res at hreturns
  obtain ⟨x, w'⟩ := res
  subst hreturns
  rfl

/-- Whatever others do to the clock and the database during its calls, the handler records a refund it
broadcasts exactly if the row is pending at the broadcast: for every status update, and for every round
of the refund loop. Between the answer to the broadcast and `updateSwapInfo` the handler does not wait, and what
other threads do in that time is not modelled. -/
theorem refund_recorded_iff_pending :
    (∀ update w, RecordsFromPending w.2
      ((onNewStatus sdk update).run (World.effectAmid sdk others) ans w).2.2) ∧
    ∀ pre swap post w,
      let before := ((tryRefundAll sdk pre).run (World.effectAmid sdk others) ans w).2
      let after := ((tryRefundAll sdk [swap]).run (World.effectAmid sdk others) ans before).2
      RecordsFromPending before.2 after.2 ∧
        (tryRefundAll sdk (pre ++ swap :: post)).run (World.effectAmid sdk others) ans w =
          (tryRefundAll sdk post).run (World.effectAmid sdk others) ans after := by
  refine ⟨onNewStatus_records sdk others ans, fun pre swap post w => ⟨?_, ?_⟩⟩
  · rw [tryRefundAll_singleton]
    exact tryRefund_records sdk others ans swap _
  · have hreturns := tryRefund_returns sdk
    rw [tryRefundAll, Task.run_forEach_append _ _ hreturns, ← List.singleton_append,
      Task.run_forEach_append _ _ hreturns]
    rfl

end Run

/-! ## A refund that is dropped -/

/-- A swap whose first refund attempt failed: it is in `RefundPending` and has no refund id. -/
def refundPendingSend : SendSwap where
  id := "s"
  createResponseJson := "lockup-address"
  lockupTxId := some "lockup"
  refundAddress := some "address"
  state := .refundPending

def sendWorld : World := { db := { sendSwaps := (∅ : Table SendSwap.id).insertNew refundPendingSend } }

def sendSdk : Sdk where
  bz := .byAddress 0
  persister := { codec := .table fun _ => none }

/-- Services that build and broadcast the refund. -/
def refundAnswers : Nat → (q : Call) → q.Answer
  | _, .liquidScriptUtxos _ => .ok ["lockup"]
  | _, .createRefundTx .. => .ok (.liquid { txid := "refund" })
  | _, .liquidBroadcast _ tx => .ok tx.txid
  | _, q => q.offline

/-- The world after a status that makes the swap unrecoverable, and after a block. -/
def afterStatus : World :=
  ((onNewStatus sendSdk { id := "s", status := "invoice.failedToPay" }).run (World.effect sendSdk)
    refundAnswers (0, sendWorld)).2.2

def afterBlock : World :=
  ((checkRefunds sendSdk).run (World.effect sendSdk) refundAnswers (0, sendWorld)).2.2

/-- The refund is broadcast, and its id recorded nowhere. -/
theorem refund_not_recorded :
    (afterStatus.trace = [.refundBroadcast "s" "refund" (some refundPendingSend)] ∧
      ¬ RefundRecorded afterStatus "s" "refund") ∧
    afterBlock.trace = [.refundBroadcast "s" "refund" (some refundPendingSend)] ∧
      ¬ RefundRecorded afterBlock "s" "refund" := by
  have hstatus : afterStatus.db.sendSwaps.get? "s" = some refundPendingSend := by decide +kernel
  have hblock : afterBlock.db.sendSwaps.get? "s" = some refundPendingSend := by decide +kernel
  refine ⟨⟨by rfl, ?_⟩, by rfl, ?_⟩
  · rintro ⟨row, hrow, hrefund, -⟩
    rw [hstatus] at hrow
    cases hrow
    cases hrefund
  · rintro ⟨row, hrow, hrefund, -⟩
    rw [hblock] at hrow
    cases hrow
    cases hrefund

end BreezLiquid.Send
