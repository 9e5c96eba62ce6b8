/-
# BreezLiquid.Send.Footprint — what the tasks of send swaps write.

All transactions of the payment and the handler on send swaps are listed in `SendWrite`, with a parameter for
the transitions they make. Every part of the handler gets its footprint once (`footprint_…`). Recovery, which
writes whole rows, and the start of the SDK are not among them.
-/
import BreezLiquid.Chain.Footprint
import BreezLiquid.Send.Handler

namespace BreezLiquid.Send

open Interleaving Recover Tables
open Chain (NoPush quiet_noPush NoLockup within_mapErr within_ignore)

/-- The row of a swap. -/
abbrev RowIs (w : World) (id : SwapId) (row : SendSwap) : Prop := w.db.sendSwaps.get? id = some row

/-- The states of the swaps that are listed for recovery. -/
def IsOngoing (state : PaymentState) : Prop :=
  state = .created ∨ state = .pending ∨ state = .refundPending

/-- Transitions without a preimage to a listed state or to `target`. -/
def Leads (target toState : PaymentState) (preimage : Option String) : Prop :=
  preimage = none ∧ (IsOngoing toState ∨ toState = target)

/-- The transactions on send swaps, with transitions of a kind. A row is created in `Created`. -/
inductive SendWrite (sdk : Sdk) (T : PaymentState → Option String → Prop) : (World → World) → Prop where
  | id : SendWrite sdk T id
  | transition (swapId : SwapId) (toState : PaymentState) (preimage lockupTxId refundTxId : Option String)
      (h : T toState preimage) :
      SendWrite sdk T (World.write fun now db =>
        db.tryHandleSendSwapUpdate sdk.persister now swapId toState preimage lockupTxId refundTxId)
  | details (details : PaymentTxDetails) :
      SendWrite sdk T (World.write fun now db => db.insertOrUpdatePaymentDetails sdk.persister now details)
  | refundAddress (swapId : SwapId) (address : Address) :
      SendWrite sdk T (World.write fun now db => db.setSendSwapRefundAddress now swapId address)
  | setLockup (swapId : SwapId) (txId : TxId) :
      SendWrite sdk T (World.tryWrite fun now db => db.setSendSwapLockupTxId now swapId txId)
  | unsetLockup (swapId : SwapId) (txId : TxId) :
      SendWrite sdk T (World.write fun now db => db.unsetSendSwapLockupTxId now swapId txId)
  | payment (ptx : Nat → PaymentTxData) :
      SendWrite sdk T (World.write fun now db => db.insertOrUpdatePayment now (ptx now))
  | create (maybeSwap : Option SendSwap) (swap : SendSwap) (h : swap.state = .created ∧ swap.preimage = none) :
      SendWrite sdk T (World.tryWrite fun now db => db.insertOrUpdateSendSwap sdk.persister now maybeSwap swap)

/-- Fewer transitions, fewer writes. -/
theorem SendWrite.mono {sdk : Sdk} {T T' : PaymentState → Option String → Prop} {f : World → World}
    (h : SendWrite sdk T f) (hT : ∀ toState preimage, T toState preimage → T' toState preimage) :
    SendWrite sdk T' f := by
  cases h with
  | id => exact .id
  | transition swapId toState preimage lockupTxId refundTxId h => exact .transition _ _ _ _ _ (hT _ _ h)
  | details details => exact .details details
  | refundAddress swapId address => exact .refundAddress swapId address
  | setLockup swapId txId => exact .setLockup swapId txId
  | unsetLockup swapId txId => exact .unsetLockup swapId txId
  | payment ptx => exact .payment ptx
  | create maybeSwap swap h => exact .create maybeSwap swap h

/-! ## The handler -/

section Handler

variable {sdk : Sdk} {T : PaymentState → Option String → Prop} {G : Call → Prop} {target : PaymentState}

/-- The transactions of a task are among those of send swaps, its calls among `G`. -/
abbrev Footprint (sdk : Sdk) (T : PaymentState → Option String → Prop) (G : Call → Prop) {α : Type}
    (t : Async α) : Prop := t.Within (SendWrite sdk T) G

/-- What the handlers of send swaps are made of: reads ... -/
theorem footprint_fetch {α : Type} (g : Db → α) : Footprint sdk T G (fetch g) := within_fetch .id g

theorem footprint_fetchSendSwapById (swapId : SwapId) : Footprint sdk T G (fetchSendSwapById swapId) :=
  within_fetchSendSwapById .id swapId

/-- ... transitions of the given kinds ... -/
theorem footprint_updateSwapInfo (swapId : SwapId) {toState : PaymentState} {preimage : Option String}
    (lockupTxId refundTxId : Option String) (h : T toState preimage) :
    Footprint sdk T G (updateSwapInfo sdk swapId toState preimage lockupTxId refundTxId) :=
  within_updateSwapInfo .id (.transition _ _ _ _ _ h) .details

/-- The calls of a refund. -/
def RefundCall : Call → Prop
  | .nextUnusedAddress | .liquidScriptUtxos _ | .createRefundTx .. | .liquidBroadcast (.refund _) _ => True
  | _ => False

/-- ... and calls, none of which locks funds up for a refund ... -/
theorem RefundCall.noLockup {q : Call} (h : RefundCall q) : NoLockup q := by
  cases q with
  | liquidBroadcast purpose tx => cases purpose <;> first | exact h | trivial
  | _ => first | exact h | trivial

/-- The calls of a cooperative claim of the swap, and of getting its preimage from the swapper. -/
def ClaimCall (swap : SendSwap) : Call → Prop
  | .claimSendSwapCooperative claimed _ => claimed = swap
  | .nextUnusedAddress | .getSendClaimTxDetails _ | .getSubmarinePreimage _ => True
  | _ => False

/-- ... or for a claim. -/
theorem ClaimCall.noLockup {swap : SendSwap} {q : Call} (h : ClaimCall swap q) : NoLockup q := by
  cases q with
  | liquidBroadcast purpose tx => exact h.elim
  | _ => first | exact h | trivial

theorem footprint_ensureRefundAddress (hG : G .nextUnusedAddress) (swap : SendSwap) :
    Footprint sdk T G (ensureRefundAddress swap) := by
  unfold ensureRefundAddress
  split
  · exact Task.within_done _
  · refine Task.Within.bind (Task.within_askOk (q := Call.nextUnusedAddress) hG rfl) fun address => ?_
    exact Task.Within.bind (within_write (.refundAddress swap.id address)) fun _ => Task.within_done _

/-- A refund calls only what a refund calls. -/
theorem calls_refund (swap : SendSwap) (isCooperative : Bool) :
    Footprint sdk T RefundCall (refund sdk swap isCooperative) := by
  refine Task.Within.bind ?_ fun refundTx =>
    Task.within_askOk (q := Call.liquidBroadcast (.refund swap.id) refundTx) trivial rfl
  refine Task.Within.bind (Task.within_done _) fun swapScript => ?_
  refine Task.Within.bind (footprint_ensureRefundAddress trivial swap) fun refundAddress => ?_
  refine Task.Within.bind (Task.within_done _) fun scriptPk => ?_
  refine Task.Within.bind (Task.within_askOk (q := Call.liquidScriptUtxos scriptPk) trivial rfl)
    fun utxos => ?_
  refine Task.Within.bind (Task.within_askOk
    (q := Call.createRefundTx (.send swap) refundAddress utxos isCooperative) trivial rfl) fun tx => ?_
  split
  · exact Task.within_done _
  · exact Task.within_done _

theorem footprint_refund (swap : SendSwap) (isCooperative : Bool) :
    Footprint sdk T NoLockup (refund sdk swap isCooperative) :=
  (calls_refund swap isCooperative).mono (fun _ h => h) fun _ h => h.noLockup

theorem footprint_checkSwapExpiry (swap : SendSwap) :
    Footprint sdk T NoLockup (checkSwapExpiry sdk swap) := by
  refine Task.Within.bind (Task.within_reads .id _) fun now => ?_
  split
  · exact Task.within_done _
  · split
    · exact Task.within_done _
    · refine Task.Within.bind (Task.within_done _) fun swapScript => ?_
      refine Task.Within.bind (Task.within_ask (q := Call.walletTip) trivial) fun height => ?_
      exact Task.Within.bind (Task.within_done _) fun _ => Task.within_done _

/-- What is recorded of a refund leads to its target ... -/
theorem footprint_recordRefund (swapId : SwapId) (res : Except Err TxId) :
    Footprint sdk (Leads target) NoLockup (recordRefund sdk swapId res) := by
  unfold recordRefund
  split
  · exact within_ignore (footprint_updateSwapInfo swapId _ _ ⟨rfl, .inl (.inr (.inr rfl))⟩)
  · exact Task.within_done _

/-- ... and so does the whole try ... -/
theorem footprint_tryRefund (swap : SendSwap) :
    Footprint sdk (Leads target) NoLockup (tryRefund sdk swap) := by
  unfold tryRefund
  split
  · exact Task.within_done _
  · refine Task.Within.bind (footprint_checkSwapExpiry swap).attempt fun expiry => ?_
    dsimp only
    split
    · exact Task.within_done _
    · split
      · exact Task.Within.bind (footprint_refund swap false).attempt
          fun res => footprint_recordRefund swap.id res
      · refine Task.Within.bind (Task.Within.attempt ?_) fun res => footprint_recordRefund swap.id res
        unfold refundPendingSwap
        split
        · refine Task.Within.bind (footprint_refund swap true).attempt fun res => ?_
          split
          · exact Task.within_done _
          · exact footprint_refund swap false
        · exact footprint_refund swap true
      · exact Task.within_done _

/-- ... and a block, which tries every pending swap. -/
theorem footprint_onLiquidBlock : Footprint sdk (Leads target) NoLockup (onLiquidBlock sdk) := by
  refine within_ignore ?_
  refine Task.Within.bind (footprint_fetch _) fun swaps => ?_
  exact Task.Within.forEach fun swap _ => footprint_tryRefund swap

/-- Cooperating in a claim calls only for this swap. -/
theorem calls_claimPendingPreimage (swap : SendSwap) :
    Footprint sdk T (ClaimCall swap) (claimPendingPreimage sdk swap) := by
  refine Task.Within.bind (Task.Within.attempt ?_) fun res => ?_
  · refine Task.Within.bind (Task.within_askOk (q := Call.getSendClaimTxDetails swap) trivial rfl)
      fun preimage => ?_
    refine Task.Within.bind ?_ fun _ => Task.within_done _
    refine Task.Within.bind (footprint_ensureRefundAddress trivial swap) fun refundAddress => ?_
    exact Task.within_askOk (show ClaimCall swap (.claimSendSwapCooperative swap refundAddress) from rfl) rfl
  · split
    · exact Task.within_done _
    · refine Task.Within.bind (Task.within_askOk (q := Call.getSubmarinePreimage swap.id) trivial rfl)
        fun preimage => ?_
      split
      · exact Task.within_done _
      · exact Task.within_done _

theorem footprint_claimPendingPreimage (swap : SendSwap) :
    Footprint sdk T NoLockup (claimPendingPreimage sdk swap) :=
  (calls_claimPendingPreimage swap).mono (fun _ h => h) fun _ h => h.noLockup

/-- A swap that cannot succeed becomes `RefundPending`, or fails. -/
theorem calls_onUnrecoverable (swap : SendSwap) :
    Footprint sdk (Leads .failed) RefundCall (onUnrecoverable sdk swap) := by
  unfold onUnrecoverable
  split
  · exact footprint_updateSwapInfo swap.id _ _ ⟨rfl, .inr rfl⟩
  · split
    · exact Task.within_done _
    · refine Task.Within.bind (calls_refund swap true).attempt fun refundTxId => ?_
      exact footprint_updateSwapInfo swap.id _ _ ⟨rfl, .inl (.inr (.inr rfl))⟩

/-- An unrecoverable swap can only fail. -/
theorem footprint_onUnrecoverable (swap : SendSwap) :
    Footprint sdk (Leads .failed) NoLockup (onUnrecoverable sdk swap) :=
  (calls_onUnrecoverable swap).mono (fun _ h => h) fun _ h => h.noLockup

/-- The lockup of a payment makes its swap `Pending`. -/
theorem footprint_tryLockup (swap : SendSwap) (createResponse : InternalCreateSubmarineResponse) :
    Footprint sdk (Leads target) NoPush (tryLockup sdk swap createResponse) := by
  refine within_tryLockup (quiet_noPush trivial) (.setLockup swap.id) (fun tx _ h => by cases h) (.unsetLockup swap.id)
    .payment fun txId => ?_
  exact footprint_updateSwapInfo swap.id _ _ ⟨rfl, .inl (.inr (.inl rfl))⟩

end Handler

end BreezLiquid.Send
