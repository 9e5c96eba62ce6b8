/-
# BreezLiquid.Pay.Footprint — what the payment of an invoice writes.

Besides the lockup, a payment creates its swap, creates one again that timed out, and times it out.

There is one lemma for each part of a payment. Properties of the lockup are then proved for the footprint, and hold of
every part.
-/
import BreezLiquid.Pay.Payment
import BreezLiquid.Send.Footprint

namespace BreezLiquid.Pay

open Interleaving Send
open Chain (NoPush quiet_noPush within_mapErr)

variable {sdk : Sdk} {T : PaymentState → Option String → Prop} {target : PaymentState}

/-- The parts of a payment push nothing: the pairs and the estimate are read ... -/
theorem footprint_validateSubmarinePairs (amountSat : Nat) :
    Footprint sdk T NoPush (validateSubmarinePairs amountSat) :=
  within_validateSubmarinePairs (quiet_noPush trivial) amountSat

theorem footprint_estimate (amountSat : Nat) :
    Footprint sdk T NoPush (estimateLockupTxOrDrainTxFee amountSat) :=
  within_estimateLockupTxOrDrainTxFee (quiet_noPush trivial) (quiet_noPush trivial)

/-- ... a swap of the invoice is used again ... -/
theorem footprint_reuseSwap (swap : SendSwap) :
    Footprint sdk (Leads target) NoPush (reuseSwap sdk swap) :=
  within_reuseSwap (footprint_updateSwapInfo swap.id _ _ ⟨rfl, .inl (.inl rfl)⟩)

/-- ... or a new one is created ... -/
theorem footprint_createSwap (req : SendPaymentViaSwapRequest) (lbtcPair : SubmarinePair) :
    Footprint sdk T NoPush (createSwap sdk req lbtcPair) :=
  within_createSwap .id (quiet_noPush trivial) (fun _ => quiet_noPush trivial)
    fun maybeSwap _ _ _ _ => .create maybeSwap _ ⟨rfl, rfl⟩

/-- The wait of a payment times the swap out at most. -/
theorem footprint_wait (swap : SendSwap) (acceptZeroConf : Bool) :
    Footprint sdk (Leads .timedOut) NoPush (waitForPaymentWithTimeout sdk (.send swap) acceptZeroConf) :=
  within_waitForPaymentWithTimeout .id (quiet_noPush trivial)
    (footprint_updateSwapInfo swap.id _ _ ⟨rfl, .inr rfl⟩) acceptZeroConf

/-- ... and locked up, which may time out. -/
theorem footprint_lockupAndWait (swap : SendSwap) :
    Footprint sdk (Leads .timedOut) NoPush (lockupAndWait sdk swap) := by
  refine Task.Within.bind (Task.within_done _) fun createResponse => ?_
  exact Task.Within.bind (footprint_tryLockup swap createResponse) fun _ => footprint_wait swap _

/-- So a payment leads to no state but a timeout, besides those of the handler. -/
theorem footprint_sendPaymentViaSwap (req : SendPaymentViaSwapRequest) :
    Footprint sdk (Leads .timedOut) NoPush (sendPaymentViaSwap sdk req) := by
  refine Task.Within.bind (footprint_validateSubmarinePairs _) fun lbtcPair => ?_
  refine Task.Within.bind (footprint_estimate _) fun lockupTxFeesSat => ?_
  split
  · refine Task.Within.bind (footprint_fetch _) fun swap => ?_
    split
    · exact Task.Within.bind (footprint_reuseSwap _) footprint_lockupAndWait
    · exact Task.Within.bind (footprint_createSwap req lbtcPair) footprint_lockupAndWait
  · exact Task.within_done _

end BreezLiquid.Pay
