/-
# BreezLiquid.Chain.Unrecoverable — when a swap that cannot succeed ends up refundable.

A status that says that an incoming swap failed makes it `Refundable` if its user lockup is on chain, and
`Failed` otherwise. Whether the lockup is there is asked of the script history under the recorded id, which
may be missing, or be that of a transaction replaced in the meantime. A missing id is recorded first, by a
transition to `Pending`. The outcome depends on the state, the recorded id and the history; it is said here
for all of them.
-/
import BreezLiquid.Chain.Runs

namespace BreezLiquid.Chain

open Interleaving Recover Tables

/-- The statuses after which an incoming swap cannot succeed. A failed lockup of a zero-amount swap may
still be accepted. -/
def Unrecoverable (swap : ChainSwap) (status : ChainSwapStates) : Prop :=
  status = .transactionFailed ∨ status = .transactionRefunded ∨ status = .swapExpired ∨
    (status = .transactionLockupFailed ∧ swap.payerAmountSat ≠ 0)

/-- The handling returned, the swap is refundable and its user lockup is in the history. -/
def EndsRefundable (result : Except Err Unit × (Nat × World)) (id : SwapId)
    (history : List BtcHistory) : Prop :=
  result.1 = .ok () ∧ ∃ row, RowIs result.2.2 id row ∧ row.state = .refundable ∧
    ∃ h ∈ history, row.userLockupTxId = some h.txid

/-- The recorded user lockup is in the history. -/
def LockupKnown (row : ChainSwap) (history : List BtcHistory) : Prop :=
  ∃ h ∈ history, row.userLockupTxId = some h.txid

/-- No user lockup is recorded, and one may be. -/
def LockupRecordable (row : ChainSwap) : Prop :=
  row.userLockupTxId = none ∧ validateStateTransition row.state .pending = .ok ()

theorem validateStateTransition_pending_refundable :
    validateStateTransition .pending .refundable = .ok () := rfl

section Run

variable (sdk : Sdk) (ans : Nat → (q : Call) → q.Answer)

/-- The user lockup of an incoming swap is looked for on Bitcoin. -/
theorem run_userLockupTxExists {w : Nat × World} {swap row : ChainSwap} {swapScript : SwapScript}
    {script : Script} {history : List BtcHistory}
    (hlockup : swap.getLockupSwapScript sdk.bz = .ok (.bitcoin swapScript))
    (hscript : swapScript.toAddress = some script)
    (hhistory : ans w.1 (.bitcoinScriptHistory script) = .ok history)
    (hrow : RowIs w.2 swap.id row) :
    (userLockupTxExists sdk swap).run (World.effect sdk) ans w =
      match swap.userLockupTxId, history.head? with
      | some txId, _ => (.ok (history.any fun h => h.txid = txId), (w.1 + 1, w.2))
      | none, none => (.ok false, (w.1 + 1, w.2))
      | none, some h =>
          match validateStateTransition row.state .pending with
          | .ok _ => (.ok true, (w.1 + 1, w.2.write fun now db => db.tryHandleChainSwapUpdate now
              { swapId := swap.id, toState := .pending, userLockupTxId := some h.txid }))
          | .error err => (.error err, (w.1 + 1, w.2)) := by
  have hfetch : (fetchScriptHistory (.bitcoin swapScript)).run (World.effect sdk) ans w =
      (.ok history, (w.1 + 1, w.2)) := by
    unfold fetchScriptHistory
    rw [run_fetchBitcoinScriptHistory sdk ans hscript, hhistory]
  rw [run_userLockupTxExists_of_history sdk ans hlockup hfetch]
  rcases swap.userLockupTxId with _ | txId
  · rcases history with _ | ⟨h, rest⟩
    · rfl
    · dsimp only [List.head?_cons]
      rw [run_updateSwapInfo _ ans hrow]
      dsimp only
      cases validateStateTransition row.state .pending with
      | ok _ => rfl
      | error err => rfl
  · rfl

/-- An unrecoverable status of an incoming swap. -/
theorem run_onNewStatus {w : Nat × World} {update : SwapStatus} {row : ChainSwap}
    {status : ChainSwapStates} (hrow : RowIs w.2 update.id row) (hincoming : row.direction = .incoming)
    (hstatus : sdk.bz.chainSwapStates update.status = some status)
    (hunrecoverable : Unrecoverable row status) :
    (onNewStatus sdk update).run (World.effect sdk) ans w =
      (onIncomingUnrecoverable sdk (row.withIsLocal (w.2.db.isLocal row.id)) update.id).run
        (World.effect sdk) ans w := by
  have hdirection : (row.withIsLocal (w.2.db.isLocal row.id)).direction = .incoming := hincoming
  have hpayer : (row.withIsLocal (w.2.db.isLocal row.id)).payerAmountSat = row.payerAmountSat := rfl
  unfold onNewStatus
  rw [Task.bind_eq, Task.run_bind, run_fetchChainSwapById _ ans hrow]
  dsimp only
  rw [hdirection]
  dsimp only
  unfold onNewIncomingStatus chainSwapState
  rw [Task.bind_eq, Task.run_bind, Task.run_ofExcept, hstatus]
  dsimp only [okOr]
  rcases hunrecoverable with rfl | rfl | rfl | ⟨rfl, hamount⟩
  · rfl
  · rfl
  · rfl
  · dsimp only
    unfold onIncomingLockupFailed
    rw [if_neg (hpayer ▸ hamount)]

theorem run_onIncomingUnrecoverable {w : Nat × World} {swap : ChainSwap} (swapId : SwapId)
    (hrefund : swap.refundTxId = none) :
    (onIncomingUnrecoverable sdk swap swapId).run (World.effect sdk) ans w =
      match (userLockupTxExists sdk swap).run (World.effect sdk) ans w with
      | (.ok lockupExists, w') =>
          (updateSwapInfo { swapId, toState := if lockupExists then .refundable else .failed }).run
            (World.effect sdk) ans w'
      | (.error _, w') => (.error (.generic "Failed to check if user lockup tx exists"), w') := by
  unfold onIncomingUnrecoverable
  rw [hrefund]
  dsimp only
  rw [Task.bind_eq, Task.run_bind, run_mapErr]
  rcases (userLockupTxExists sdk swap).run (World.effect sdk) ans w with ⟨err | lockupExists, w'⟩
  · rfl
  · cases lockupExists
    · rfl
    · rfl

/-- A transition to `Failed` does not end refundable. -/
theorem not_endsRefundable_failed {w : Nat × World} {id : SwapId} {row : ChainSwap}
    (hrow : RowIs w.2 id row) (history : List BtcHistory) :
    ¬ EndsRefundable ((updateSwapInfo { swapId := id, toState := .failed }).run (World.effect sdk)
      ans w) id history := by
  rintro ⟨hok, row', hrow', hstate, -⟩
  have hafter := rowIs_update (u := { swapId := id, toState := .failed }) hrow
  rw [run_updateSwapInfo _ ans hrow] at hok hrow'
  dsimp only at hok hrow'
  cases hvalid : validateStateTransition row.state .failed with
  | error err =>
      rw [hvalid] at hok
      cases hok
  | ok _ =>
      rw [hvalid] at hrow'
      have hsame : some row' = some _ := hrow'.symm.trans hafter
      cases hsame
      cases hstate

/-- A transition to `Refundable` that the table allows ends so, if the row has a lockup of the history. -/
theorem endsRefundable_refundable {w : Nat × World} {id : SwapId} {row : ChainSwap}
    (hrow : RowIs w.2 id row) (hvalid : validateStateTransition row.state .refundable = .ok ())
    {history : List BtcHistory} (hknown : LockupKnown row history) :
    EndsRefundable ((updateSwapInfo { swapId := id, toState := .refundable }).run (World.effect sdk)
      ans w) id history := by
  have hafter := rowIs_update (u := { swapId := id, toState := .refundable }) hrow
  obtain ⟨h, hmem, hlockup⟩ := hknown
  rw [run_updateSwapInfo _ ans hrow]
  dsimp only
  rw [hvalid]
  refine ⟨rfl, _, hafter, rfl, h, hmem, ?_⟩
  show row.userLockupTxId.or none = some h.txid
  rw [hlockup]
  rfl

/-- **When an unrecoverable status makes an incoming swap refundable.** For a swap that may become
refundable, has no refund, and has a transaction in the history of its lockup script, handling the status
returns with the swap refundable and its user lockup in the history exactly if the recorded lockup is in
the history, or none is recorded and the transition to `Pending` that records one is allowed. -/
theorem unrecoverable_refundable_iff {w : Nat × World} {update : SwapStatus} {row : ChainSwap}
    {status : ChainSwapStates} {swapScript : SwapScript} {script : Script}
    {history : List BtcHistory} (hrow : RowIs w.2 update.id row)
    (hincoming : row.direction = .incoming)
    (hstate : validateStateTransition row.state .refundable = .ok ())
    (hrefund : row.refundTxId = none)
    (hstatus : sdk.bz.chainSwapStates update.status = some status)
    (hunrecoverable : Unrecoverable row status)
    (hlockup : row.getLockupSwapScript sdk.bz = .ok (.bitcoin swapScript))
    (hscript : swapScript.toAddress = some script)
    (hhistory : ans w.1 (.bitcoinScriptHistory script) = .ok history) (hne : history ≠ []) :
    EndsRefundable ((onNewStatus sdk update).run (World.effect sdk) ans w) update.id history ↔
      LockupKnown row history ∨ LockupRecordable row := by
  have hid : row.id = update.id := rowIs_id hrow
  have hlockup' : (row.withIsLocal (w.2.db.isLocal row.id)).getLockupSwapScript sdk.bz =
      .ok (.bitcoin swapScript) := hlockup
  have hexists := run_userLockupTxExists sdk ans hlockup' hscript hhistory (hid ▸ hrow)
  have hrefund' : (row.withIsLocal (w.2.db.isLocal row.id)).refundTxId = none := hrefund
  have hsame : (row.withIsLocal (w.2.db.isLocal row.id)).userLockupTxId = row.userLockupTxId := rfl
  have hid' : (row.withIsLocal (w.2.db.isLocal row.id)).id = update.id := hid
  rw [run_onNewStatus sdk ans hrow hincoming hstatus hunrecoverable,
    run_onIncomingUnrecoverable sdk ans update.id hrefund', hexists, hsame, hid']
  rcases hrecorded : row.userLockupTxId with _ | txId
  · -- no lockup is recorded: the first one of the history is, if the table allows it
    obtain ⟨h, rest, rfl⟩ := List.exists_cons_of_ne_nil hne
    have hunknown : ¬ LockupKnown row (h :: rest) := by
      rintro ⟨h', -, heq⟩
      rw [hrecorded] at heq
      cases heq
    rw [List.head?_cons]
    dsimp only
    cases hpending : validateStateTransition row.state .pending with
    | error err =>
        have hnot : ¬ LockupRecordable row := by
          rintro ⟨-, hok⟩
          rw [hpending] at hok
          cases hok
        exact iff_of_false (fun hends => by cases hends.1) (not_or.mpr ⟨hunknown, hnot⟩)
    | ok _ =>
        have hafter := rowIs_update (w := w.2)
          (u := { swapId := update.id, toState := .pending, userLockupTxId := some h.txid }) hrow
        refine iff_of_true ?_ (.inr ⟨hrecorded, hpending⟩)
        refine endsRefundable_refundable sdk ans (w := (w.1 + 1, _)) hafter
          validateStateTransition_pending_refundable ⟨h, List.mem_cons_self, ?_⟩
        show row.userLockupTxId.or (some h.txid) = some h.txid
        rw [hrecorded]
        rfl
  · -- a lockup is recorded: it is looked for in the history
    have hnot : ¬ LockupRecordable row := by
      rintro ⟨hnone, -⟩
      rw [hrecorded] at hnone
      cases hnone
    dsimp only
    cases hany : history.any fun h => h.txid = txId with
    | true =>
        obtain ⟨h, hmem, htxid⟩ := List.any_eq_true.mp hany
        have hknown : LockupKnown row history := by
          refine ⟨h, hmem, ?_⟩
          rw [hrecorded, of_decide_eq_true htxid]
        have hends := endsRefundable_refundable sdk ans (w := (w.1 + 1, w.2)) hrow hstate hknown
        exact iff_of_true hends (.inl hknown)
    | false =>
        have hunknown : ¬ LockupKnown row history := by
          rintro ⟨h, hmem, heq⟩
          rw [hrecorded] at heq
          have hmiss := List.any_eq_false.mp hany h hmem
          exact hmiss (decide_eq_true (Option.some.inj heq).symm)
        have hends := not_endsRefundable_failed sdk ans (w := (w.1 + 1, w.2)) hrow history
        exact iff_of_false hends (not_or.mpr ⟨hunknown, hnot⟩)

end Run

/-- A client that knows the status of an expired swap. -/
def expiredSdk : Sdk where
  bz := { BoltzClient.byAddress 900 with
    chainSwapStates := fun status => if status = "swap.expired" then some .swapExpired else none }
  persister := { codec := .table fun _ => none }

def expiredUpdate : SwapStatus := { id := "s", status := "swap.expired" }

/-- An incoming swap and its lockup. -/
def expiredSwap (state : PaymentState) (userLockupTxId : Option TxId) : ChainSwap where
  id := "s"
  direction := .incoming
  createResponseJson := "s"
  payerAmountSat := 1000
  userLockupTxId
  state

/-- The swap expires while its script history has the lockup `"new"`. -/
def runExpired (swap : ChainSwap) : Except Err Unit × (Nat × World) :=
  (onNewStatus expiredSdk expiredUpdate).run (World.effect expiredSdk)
    (fun _ q => match q with
      | .bitcoinScriptHistory _ => .ok [⟨"new", 10⟩]
      | q => q.offline)
    (0, { db := { chainSwaps := (∅ : Table ChainSwap.id).insertNew swap } })

/-- A lockup that was not recorded yet. -/
theorem unrecoverable_refundable_created :
    EndsRefundable (runExpired (expiredSwap .created none)) "s" [⟨"new", 10⟩] := by
  have hlockup : (expiredSwap .created none).getLockupSwapScript expiredSdk.bz =
      .ok (.bitcoin ⟨some "s-lockup", some "s-lockup", .blocks 0⟩) := rfl
  have hrow : RowIs { db := { chainSwaps :=
      (∅ : Table ChainSwap.id).insertNew (expiredSwap .created none) } } "s"
      (expiredSwap .created none) := rfl
  refine (unrecoverable_refundable_iff expiredSdk _ hrow rfl rfl rfl rfl (.inr (.inr (.inl rfl))) hlockup
    rfl rfl (List.cons_ne_nil _ _)).mpr ?_
  exact .inr ⟨rfl, rfl⟩

/-- A lockup that was replaced by fee, and one that was never recorded for a failed swap. -/
theorem unrecoverable_not_refundable :
    ¬ EndsRefundable (runExpired (expiredSwap .pending (some "old"))) "s" [⟨"new", 10⟩] ∧
      ¬ EndsRefundable (runExpired (expiredSwap .failed none)) "s" [⟨"new", 10⟩] := by
  refine ⟨?_, ?_⟩
  · rintro ⟨-, row, hrow, hstate, -⟩
    have hfailed : ((runExpired (expiredSwap .pending (some "old"))).2.2.db.chainSwaps.get? "s").map
        ChainSwap.state = some .failed := by decide
    rw [hrow, Option.map_some, hstate] at hfailed
    cases hfailed
  · rintro ⟨hok, -⟩
    have herror : (runExpired (expiredSwap .failed none)).1 ≠ .ok () := by decide
    exact herror hok

end BreezLiquid.Chain
