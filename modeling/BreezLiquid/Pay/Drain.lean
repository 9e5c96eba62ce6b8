/-
# BreezLiquid.Pay.Drain — draining the wallet through a submarine swap.

A drain has to find the receiver amount that, together with the fees of the swap, is what the wallet holds after the fee
of its transaction. It starts from a dummy amount and climbs one satoshi at a time. The fees are monotone in the amount,
so what an amount and its fees come to is strictly monotone, and the climb ends at the largest amount that fits: if any
amount fits exactly, then this one. All of it stands on the differences on the way being differences of numbers.
-/
import Mathlib.Order.Bounds.Basic
import BreezLiquid.Lib.Checked
import BreezLiquid.Lib.Task
import BreezLiquid.Model.Types

namespace BreezLiquid.Pay

open Checked Interleaving

/-! ## The computation -/

/-- The totals of the wallet that a drain looks at. -/
structure WalletTotals where
  balanceSat : Nat
  pendingSendSat : Nat := 0
  pendingReceiveSat : Nat := 0
  deriving DecidableEq, Repr

def incrementReceiverAmountUpToDrainAmount (receiverAmountSat : Nat) (lbtcPair : SubmarinePair)
    (drainAmountSat : Nat) : Except Fault Nat :=
  match _hnext : add receiverAmountSat 1 with
  | .error fault => .error fault
  | .ok incrementedAmountSat =>
      match _htotal : add incrementedAmountSat (lbtcPair.feesTotal incrementedAmountSat) with
      | .error fault => .error fault
      | .ok totalSat =>
          if totalSat ≤ drainAmountSat then
            incrementReceiverAmountUpToDrainAmount incrementedAmountSat lbtcPair drainAmountSat
          else .ok receiverAmountSat
termination_by drainAmountSat - receiverAmountSat
decreasing_by
  -- the next amount is still at most the drain amount
  obtain ⟨-, rfl⟩ := add_eq_ok.mp _hnext
  obtain ⟨-, rfl⟩ := add_eq_ok.mp _htotal
  omega

section Drain

variable (wallet : WalletTotals) (drainFeesSat : Nat) (lbtcPair : SubmarinePair)

/-- The receiver amount of a drain, before it is checked. -/
def drainCandidate : Except Fault Nat := do
  let drainAmountSat ← sub wallet.balanceSat drainFeesSat
  let dummyFeesSat := lbtcPair.feesTotal drainAmountSat
  let dummyAmountSat ← sub drainAmountSat dummyFeesSat
  incrementReceiverAmountUpToDrainAmount dummyAmountSat lbtcPair drainAmountSat

/-- The check that a drain with this receiver amount leaves nothing. -/
def leavesNothing (receiverAmountSat : Nat) : Prop :=
  receiverAmountSat + lbtcPair.feesTotal receiverAmountSat = wallet.balanceSat - drainFeesSat

instance (receiverAmountSat : Nat) : Decidable (leavesNothing wallet drainFeesSat lbtcPair receiverAmountSat) :=
  inferInstanceAs (Decidable (_ = _))

/-- What the two drains have in common. -/
def drainReceiverAmount : Except (Failure Err) Nat :=
  if wallet.pendingReceiveSat = 0 ∧ wallet.pendingSendSat = 0 then do
    let receiverAmountSat ← liftFault (drainCandidate wallet drainFeesSat lbtcPair)
    liftErr (lbtcPair.limits.within receiverAmountSat)
    let _ ← liftFault (add receiverAmountSat (lbtcPair.feesTotal receiverAmountSat))
    if leavesNothing wallet drainFeesSat lbtcPair receiverAmountSat then return receiverAmountSat
    else throw (.err (.generic "Cannot drain without leaving a remainder"))
  else throw (.err (.generic "Cannot drain while there are pending payments"))

/-- The drain of `prepare_send_payment`, to an offer: the receiver amount and the fees. -/
def prepareSendDrain : Except (Failure Err) (Nat × Nat) := do
  let receiverAmountSat ← drainReceiverAmount wallet drainFeesSat lbtcPair
  let feesSat ← liftFault (add (lbtcPair.feesTotal receiverAmountSat) drainFeesSat)
  return (receiverAmountSat, feesSat)

/-- The drain of `prepare_lnurl_pay`: the amount to ask an invoice for, in millisatoshi. -/
def prepareLnurlDrain : Except (Failure Err) Nat := do
  let receiverAmountSat ← drainReceiverAmount wallet drainFeesSat lbtcPair
  liftFault (mul receiverAmountSat 1000)

end Drain

/-! ## The fees -/

/-- A larger amount has no smaller service fee, whatever the percentage: below zero there is none. -/
theorem percentageFee_mono (percentage : ℚ) : Monotone (percentageFee percentage) := by
  intro a b h
  unfold percentageFee
  have hcast : (a : ℚ) ≤ b := by exact_mod_cast h
  rcases le_total 0 (percentage / 100) with hpercentage | hpercentage
  · apply Nat.ceil_mono
    exact mul_le_mul_of_nonneg_left hcast hpercentage
  · have hzero : ∀ n : Nat, ⌈percentage / 100 * n⌉₊ = 0 := by
      intro n
      rw [Nat.ceil_eq_zero]
      exact mul_nonpos_of_nonpos_of_nonneg hpercentage (Nat.cast_nonneg n)
    rw [hzero a, hzero b]

theorem feesTotal_exact_mono (limits : PairLimits) (percentage : ℚ) (minerFees : Nat) :
    Monotone (SubmarinePair.exact limits percentage minerFees).feesTotal := by
  intro a b h
  exact Nat.add_le_add_right (percentageFee_mono percentage h) minerFees

/-- What the payer spends on an amount, before the fee of the transaction. -/
def spent (lbtcPair : SubmarinePair) (receiverAmountSat : Nat) : Nat :=
  receiverAmountSat + lbtcPair.feesTotal receiverAmountSat

theorem spent_strictMono {lbtcPair : SubmarinePair} (hmono : Monotone lbtcPair.feesTotal) :
    StrictMono (spent lbtcPair) := by
  intro a b h
  have hfees := hmono h.le
  unfold spent
  omega

/-! ## The climb -/

section Climb

variable {lbtcPair : SubmarinePair} {drainAmountSat receiverAmountSat result : Nat}

/-- The climb stops below the first amount that is too large. -/
theorem increment_eq_ok
    (h : incrementReceiverAmountUpToDrainAmount receiverAmountSat lbtcPair drainAmountSat = .ok result) :
    drainAmountSat < spent lbtcPair (result + 1) ∧ spent lbtcPair (result + 1) ≤ u64Max ∧
      (spent lbtcPair receiverAmountSat ≤ drainAmountSat → spent lbtcPair result ≤ drainAmountSat) := by
  fun_induction incrementReceiverAmountUpToDrainAmount receiverAmountSat lbtcPair drainAmountSat with
  | case1 receiverAmountSat fault hnext => cases h
  | case2 receiverAmountSat incrementedAmountSat hnext fault htotal => cases h
  | case3 receiverAmountSat incrementedAmountSat hnext totalSat htotal hle ih =>
      obtain ⟨-, rfl⟩ := add_eq_ok.mp hnext
      obtain ⟨-, rfl⟩ := add_eq_ok.mp htotal
      obtain ⟨hlt, hfits, hfrom⟩ := ih h
      exact ⟨hlt, hfits, fun _ => hfrom hle⟩
  | case4 receiverAmountSat incrementedAmountSat hnext totalSat htotal hgt =>
      obtain ⟨-, rfl⟩ := add_eq_ok.mp hnext
      obtain ⟨hfits, rfl⟩ := add_eq_ok.mp htotal
      cases h
      exact ⟨Nat.lt_of_not_le hgt, hfits, id⟩

section Monotone

variable (hmono : Monotone lbtcPair.feesTotal)
include hmono

/-- The climb overflows nowhere if some amount is too large without an overflow. -/
theorem exists_increment {n : Nat} (hlt : drainAmountSat < spent lbtcPair n) (hfits : spent lbtcPair n ≤ u64Max)
    (hle : spent lbtcPair receiverAmountSat ≤ drainAmountSat) :
    ∃ r, incrementReceiverAmountUpToDrainAmount receiverAmountSat lbtcPair drainAmountSat = .ok r := by
  -- the next amount is at most the one that is too large
  have next_le : ∀ r, spent lbtcPair r ≤ drainAmountSat → spent lbtcPair (r + 1) ≤ u64Max := by
    intro r hr
    have hrn : r < n := (spent_strictMono hmono).lt_iff_lt.mp (by omega)
    have hnext := (spent_strictMono hmono).monotone (Nat.succ_le_of_lt hrn)
    exact Nat.le_trans hnext hfits
  fun_induction incrementReceiverAmountUpToDrainAmount receiverAmountSat lbtcPair drainAmountSat with
  | case1 receiverAmountSat fault hnext =>
      have hspent := next_le receiverAmountSat hle
      unfold spent at hspent
      rw [add_of_le (by omega)] at hnext
      cases hnext
  | case2 receiverAmountSat incrementedAmountSat hnext fault htotal =>
      obtain ⟨-, rfl⟩ := add_eq_ok.mp hnext
      rw [add_of_le (next_le receiverAmountSat hle)] at htotal
      cases htotal
  | case3 receiverAmountSat incrementedAmountSat hnext totalSat htotal hnextLe ih =>
      obtain ⟨-, rfl⟩ := add_eq_ok.mp hnext
      obtain ⟨-, rfl⟩ := add_eq_ok.mp htotal
      exact ih hnextLe
  | case4 receiverAmountSat incrementedAmountSat hnext totalSat htotal hgt => exact ⟨_, rfl⟩

/-- Where the next amount is too large, this one is the largest. -/
theorem isGreatest_of_next (hle : spent lbtcPair result ≤ drainAmountSat)
    (hlt : drainAmountSat < spent lbtcPair (result + 1)) :
    IsGreatest {r | spent lbtcPair r ≤ drainAmountSat} result := by
  refine ⟨hle, ?_⟩
  intro r hr
  have hr : spent lbtcPair r < spent lbtcPair (result + 1) := Nat.lt_of_le_of_lt hr hlt
  exact Nat.le_of_lt_succ ((spent_strictMono hmono).lt_iff_lt.mp hr)

/-- If any amount fits exactly, then the largest one that fits. -/
theorem exact_iff_of_isGreatest (h : IsGreatest {r | spent lbtcPair r ≤ drainAmountSat} result) :
    spent lbtcPair result = drainAmountSat ↔ ∃ r, spent lbtcPair r = drainAmountSat := by
  constructor
  · intro heq
    exact ⟨result, heq⟩
  · rintro ⟨r, rfl⟩
    have hr : r ≤ result := h.2 (Nat.le_refl _)
    exact Nat.le_antisymm h.1 ((spent_strictMono hmono).monotone hr)

/-- The dummy amount fits: its fees are at most those of the whole. -/
theorem spent_dummy_le (h : lbtcPair.feesTotal drainAmountSat ≤ drainAmountSat) :
    spent lbtcPair (drainAmountSat - lbtcPair.feesTotal drainAmountSat) ≤ drainAmountSat := by
  have hfees := hmono (Nat.sub_le drainAmountSat (lbtcPair.feesTotal drainAmountSat))
  unfold spent
  omega

end Monotone

end Climb

/-! ## The drain -/

section Drain

variable {wallet : WalletTotals} {drainFeesSat : Nat} {lbtcPair : SubmarinePair} {result : Nat}

/-- When the drain is computed without a fault. -/
structure Drainable (wallet : WalletTotals) (drainFeesSat : Nat) (lbtcPair : SubmarinePair) : Prop where
  fees_le : drainFeesSat ≤ wallet.balanceSat
  swapFees_le :
    lbtcPair.feesTotal (wallet.balanceSat - drainFeesSat) ≤ wallet.balanceSat - drainFeesSat
  fits : ∃ n, wallet.balanceSat - drainFeesSat < spent lbtcPair n ∧ spent lbtcPair n ≤ u64Max

theorem drainCandidate_eq_ok (hmono : Monotone lbtcPair.feesTotal)
    (h : drainCandidate wallet drainFeesSat lbtcPair = .ok result) :
    Drainable wallet drainFeesSat lbtcPair ∧
      IsGreatest {r | spent lbtcPair r ≤ wallet.balanceSat - drainFeesSat} result := by
  obtain ⟨drainAmountSat, hdrain, h⟩ := except_bind_eq_ok.mp h
  obtain ⟨hfees, rfl⟩ := sub_eq_ok.mp hdrain
  obtain ⟨dummyAmountSat, hdummy, h⟩ := except_bind_eq_ok.mp h
  obtain ⟨hswapFees, rfl⟩ := sub_eq_ok.mp hdummy
  obtain ⟨hlt, hfits, hfrom⟩ := increment_eq_ok h
  refine ⟨⟨hfees, hswapFees, result + 1, hlt, hfits⟩, ?_⟩
  exact isGreatest_of_next hmono (hfrom (spent_dummy_le hmono hswapFees)) hlt

theorem exists_drainCandidate (hmono : Monotone lbtcPair.feesTotal) (h : Drainable wallet drainFeesSat lbtcPair) :
    ∃ r, drainCandidate wallet drainFeesSat lbtcPair = .ok r := by
  obtain ⟨n, hlt, hfits⟩ := h.fits
  unfold drainCandidate
  rw [sub_of_le h.fees_le]
  dsimp only [bind, Except.bind]
  rw [sub_of_le h.swapFees_le]
  exact exists_increment hmono hlt hfits (spent_dummy_le hmono h.swapFees_le)

/-- A drain that passes its checks spends the balance. -/
theorem prepareSendDrain_spends (hmono : Monotone lbtcPair.feesTotal) {feesSat : Nat}
    (h : prepareSendDrain wallet drainFeesSat lbtcPair = .ok (result, feesSat)) :
    result + feesSat = wallet.balanceSat := by
  obtain ⟨receiverAmountSat, hreceiver, h⟩ := except_bind_eq_ok.mp h
  obtain ⟨fees, hfees, h⟩ := except_bind_eq_ok.mp h
  cases h
  obtain ⟨-, rfl⟩ := add_eq_ok.mp (liftFault_eq_ok.mp hfees)
  unfold drainReceiverAmount at hreceiver
  split at hreceiver
  · obtain ⟨candidate, hcandidate, hreceiver⟩ := except_bind_eq_ok.mp hreceiver
    obtain ⟨hdrainable, -⟩ := drainCandidate_eq_ok hmono (liftFault_eq_ok.mp hcandidate)
    obtain ⟨⟨⟩, -, hreceiver⟩ := except_bind_eq_ok.mp hreceiver
    obtain ⟨total, -, hreceiver⟩ := except_bind_eq_ok.mp hreceiver
    split at hreceiver
    · rename_i hnothing
      cases hreceiver
      have hle := hdrainable.fees_le
      unfold leavesNothing at hnothing
      omega
    · cases hreceiver
  · cases hreceiver

/-- The drain finds the largest amount that fits, hence one that leaves nothing if there is any, and spends the balance
then, exactly where the balance covers the fee of the transaction, the rest of it covers the fees of a swap of that
size, and the first amount that is too large can be computed. The service fee is the exact percentage, rounded up. -/
theorem drain_exact_iff (wallet : WalletTotals) (drainFeesSat : Nat) (limits : PairLimits) (percentage : ℚ)
    (minerFees : Nat) :
    let lbtcPair := SubmarinePair.exact limits percentage minerFees
    (∃ r, drainCandidate wallet drainFeesSat lbtcPair = .ok r ∧
      IsGreatest {r | r + lbtcPair.feesTotal r ≤ wallet.balanceSat - drainFeesSat} r ∧
      (leavesNothing wallet drainFeesSat lbtcPair r ↔
        ∃ r, r + lbtcPair.feesTotal r = wallet.balanceSat - drainFeesSat) ∧
      ∀ receiverAmountSat feesSat,
        prepareSendDrain wallet drainFeesSat lbtcPair = .ok (receiverAmountSat, feesSat) →
          receiverAmountSat + feesSat = wallet.balanceSat) ↔
    drainFeesSat ≤ wallet.balanceSat ∧
      lbtcPair.feesTotal (wallet.balanceSat - drainFeesSat) ≤ wallet.balanceSat - drainFeesSat ∧
      ∃ r, wallet.balanceSat - drainFeesSat < r + lbtcPair.feesTotal r ∧ r + lbtcPair.feesTotal r ≤ u64Max := by
  intro lbtcPair
  have hmono : Monotone lbtcPair.feesTotal := feesTotal_exact_mono limits percentage minerFees
  constructor
  · rintro ⟨r, hcandidate, -⟩
    obtain ⟨hdrainable, -⟩ := drainCandidate_eq_ok hmono hcandidate
    exact ⟨hdrainable.fees_le, hdrainable.swapFees_le, hdrainable.fits⟩
  · rintro ⟨hfees, hswapFees, hfits⟩
    obtain ⟨r, hcandidate⟩ := exists_drainCandidate hmono ⟨hfees, hswapFees, hfits⟩
    obtain ⟨-, hgreatest⟩ := drainCandidate_eq_ok hmono hcandidate
    refine ⟨r, hcandidate, hgreatest, exact_iff_of_isGreatest hmono hgreatest, ?_⟩
    intro receiverAmountSat feesSat h
    exact prepareSendDrain_spends hmono h

/-- A wallet of 100 sat: after the fee of the transaction, the fees of the swap are more than what is left. -/
theorem drain_underflows :
    drainCandidate { balanceSat := 100 } 60 (.exact (.between 1 25000000) (1 / 10) 41) = .error .underflow := by
  decide +kernel

end Drain

end BreezLiquid.Pay
