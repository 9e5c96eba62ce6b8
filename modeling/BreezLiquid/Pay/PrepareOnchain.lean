/-
# BreezLiquid.Pay.PrepareOnchain — `prepare_pay_onchain`, and the fee checks of `pay_onchain`.

A payment to a Bitcoin address is computed in two directions. From an amount to be received, the lockup is what leaves
it after all fees, and what is paid follows; a drain starts from the balance and subtracts. `pay_onchain` then computes
the lockup again from the amount to be received. For a drain this comes to the lockup it started from only where one
satoshi less would have had the same service fee, if decimal numbers are computed with exactly. With the rounding of
double precision there is no such closed form, and the two lockups are compared themselves.

Sums and differences are checked: where one does not fit, the computation stops with a fault.
-/
import BreezLiquid.Pay.Drain
import BreezLiquid.Pay.SendPayment

namespace BreezLiquid.Pay

open Checked Interleaving
open Wrapping

/-! ## The computation -/

def ESTIMATED_BTC_CLAIM_TX_VSIZE : Nat := 111

structure PreparePayOnchainRequest where
  amount : PayAmount
  feeRateSatPerVbyte : Option UInt32 := none
  deriving DecidableEq

/-- The estimates of the wallet: for a lockup of an amount, and for draining it. -/
structure OnchainFees where
  lockupTxFee : Nat → Except Err Nat
  drainTxFee : Except Err Nat

/-- What the match on the requested amount comes to, and the lockup it went through. -/
structure OnchainAmounts where
  userLockupAmountSat : Nat
  payerAmountSat : Nat
  receiverAmountSat : Nat
  totalFeesSat : Nat
  deriving DecidableEq, Repr

def claimFees (pair : ChainPair) (feeRateSatPerVbyte : Option UInt32) : Except Fault Nat :=
  match feeRateSatPerVbyte with
  | some satPerVbyte => mul ESTIMATED_BTC_CLAIM_TX_VSIZE satPerVbyte.toNat
  | none => .ok pair.userClaimFee

/-- `boltz_fees_sat + lockup_fees_sat + claim_fees_sat + server_fees_sat`. -/
def onchainTotalFees (boltzFeesSat lockupFeesSat claimFeesSat serverFeesSat : Nat) : Except Fault Nat :=
  sum [boltzFeesSat, lockupFeesSat, claimFeesSat, serverFeesSat]

section Prepare

variable (round : ℚ → ℚ) (wallet : WalletTotals) (pair : ChainPair) (fees : OnchainFees)

def bitcoinAmounts (claimFeesSat receiverAmountSat : Nat) : Except (Failure Err) OnchainAmounts := do
  let withClaimFee ← liftFault (add receiverAmountSat claimFeesSat)
  let withoutServiceFee ← liftFault (add withClaimFee pair.serverFee)
  let userLockupAmountSat := userLockupAmount round withoutServiceFee pair
  liftErr (pair.limits.within userLockupAmountSat)
  let lockupFeesSat ← liftErr (fees.lockupTxFee userLockupAmountSat)
  let boltzFeesSat ← liftFault (sub userLockupAmountSat withoutServiceFee)
  let totalFeesSat ← liftFault (onchainTotalFees boltzFeesSat lockupFeesSat claimFeesSat pair.serverFee)
  let payerAmountSat ← liftFault (add receiverAmountSat totalFeesSat)
  return { userLockupAmountSat, payerAmountSat, receiverAmountSat, totalFeesSat }

def drainAmounts (claimFeesSat : Nat) : Except (Failure Err) OnchainAmounts :=
  if wallet.pendingReceiveSat = 0 ∧ wallet.pendingSendSat = 0 then do
    let payerAmountSat := wallet.balanceSat
    let lockupFeesSat ← liftErr fees.drainTxFee
    let userLockupAmountSat ← liftFault (sub payerAmountSat lockupFeesSat)
    liftErr (pair.limits.within userLockupAmountSat)
    let boltzFeesSat := pair.boltzFee userLockupAmountSat
    let totalFeesSat ← liftFault (onchainTotalFees boltzFeesSat lockupFeesSat claimFeesSat pair.serverFee)
    let receiverAmountSat ← liftFault (sub payerAmountSat totalFeesSat)
    return { userLockupAmountSat, payerAmountSat, receiverAmountSat, totalFeesSat }
  else throw (.err (.generic "Cannot drain while there are pending payments"))

def onchainAmounts (claimFeesSat : Nat) (amount : PayAmount) : Except (Failure Err) OnchainAmounts :=
  match amount with
  | .bitcoin receiverAmountSat => bitcoinAmounts round pair fees claimFeesSat receiverAmountSat
  | .drain => drainAmounts wallet pair fees claimFeesSat
  | .asset _ => throw (.err (.assetError "Cannot send an asset to a Bitcoin address"))

/-- `prepare_pay_onchain`, once the wallet and the pair are known. The lockup of an amount is computed with decimal
numbers, which are rounded. -/
def preparePayOnchain (req : PreparePayOnchainRequest) : Except (Failure Err) PreparePayOnchainResponse := do
  let claimFeesSat ← liftFault (claimFees pair req.feeRateSatPerVbyte)
  let amounts ← onchainAmounts round wallet pair fees claimFeesSat req.amount
  if amounts.payerAmountSat ≤ wallet.balanceSat then
    return {
      receiverAmountSat := amounts.receiverAmountSat
      claimFeesSat
      totalFeesSat := amounts.totalFeesSat }
  else throw (.err .insufficientFunds)

end Prepare

/-! ## Inverting the service fee -/

/-- The service fee of a lockup is that of a lockup with one satoshi less, when decimal numbers are computed with
exactly. -/
def SameFeeBelow (percentage : ℚ) (userLockupAmountSat : Nat) : Prop :=
  (percentageFee percentage userLockupAmountSat : ℤ) = ⌈percentage / 100 * ((userLockupAmountSat : ℚ) - 1)⌉

section Invert

variable {pair : ChainPair} {userLockupAmountSat boltzFeesSat : Nat}

theorem le_percentageFee (percentage : ℚ) (amountSat : Nat) :
    percentage / 100 * amountSat ≤ percentageFee percentage amountSat := Nat.le_ceil _

/-- From a percentage of 100 on, the service fee leaves nothing of a lockup. -/
theorem percentageFee_ge {percentage : ℚ} (h : 100 ≤ percentage) (amountSat : Nat) :
    amountSat ≤ percentageFee percentage amountSat := by
  have hle := le_percentageFee percentage amountSat
  have hone : 1 ≤ percentage / 100 := by linarith
  have hamount : (amountSat : ℚ) ≤ percentage / 100 * amountSat :=
    le_mul_of_one_le_left (Nat.cast_nonneg _) hone
  exact_mod_cast hamount.trans hle

/-- Below a percentage of 100, the lockup that is computed is the least that covers what is left of it. -/
theorem userLockupAmount_eq_iff (hfees : boltzFeesSat = percentageFee pair.percentage userLockupAmountSat)
    (hproper : pair.percentage < 100) (hpositive : 0 < userLockupAmountSat)
    (hle : boltzFeesSat ≤ userLockupAmountSat) (hfits : userLockupAmountSat ≤ u64Max) :
    userLockupAmount id (userLockupAmountSat - boltzFeesSat) pair = userLockupAmountSat ↔
      SameFeeBelow pair.percentage userLockupAmountSat := by
  have hfee : pair.percentage / 100 * userLockupAmountSat ≤ boltzFeesSat :=
    hfees ▸ le_percentageFee pair.percentage userLockupAmountSat
  have hrate : 0 < 100 - pair.percentage := by linarith
  have hleft : ((userLockupAmountSat - boltzFeesSat : ℕ) : ℚ) = userLockupAmountSat - boltzFeesSat :=
    Nat.cast_sub hle
  -- the quotient is between zero and the lockup, so neither cast changes it
  have hquotient : (userLockupAmountSat - boltzFeesSat : ℕ) * 100 / (100 - pair.percentage) ≤
      (userLockupAmountSat : ℚ) := by
    rw [div_le_iff₀ hrate, hleft]
    linarith
  have hnonneg : (0 : ℚ) ≤ (userLockupAmountSat - boltzFeesSat : ℕ) * 100 / (100 - pair.percentage) :=
    div_nonneg (mul_nonneg (Nat.cast_nonneg _) (by norm_num)) hrate.le
  have hceil : ⌈((userLockupAmountSat - boltzFeesSat : ℕ) : ℚ) * 100 / (100 - pair.percentage)⌉ ≤
      (userLockupAmountSat : ℤ) := Int.ceil_le.mpr (by exact_mod_cast hquotient)
  have hceil' : 0 ≤ ⌈((userLockupAmountSat - boltzFeesSat : ℕ) : ℚ) * 100 / (100 - pair.percentage)⌉ :=
    Int.ceil_nonneg hnonneg
  have hlower : pair.percentage / 100 * ((userLockupAmountSat : ℚ) - 1) ≤ boltzFeesSat := by
    have hone : (1 : ℚ) ≤ userLockupAmountSat := by exact_mod_cast hpositive
    rcases le_total 0 (pair.percentage / 100) with hpercentage | hpercentage
    · linarith
    · have hnonpos := mul_nonpos_of_nonpos_of_nonneg hpercentage (sub_nonneg.mpr hone)
      exact hnonpos.trans (Nat.cast_nonneg _)
  unfold userLockupAmount SameFeeBelow
  dsimp only [id]
  rw [if_neg (by linarith), ← hfees, eq_comm (a := (boltzFeesSat : ℤ)), Int.ceil_eq_iff, Int.cast_natCast,
    and_iff_left hlower]
  calc min ⌈((userLockupAmountSat - boltzFeesSat : ℕ) : ℚ) * 100 / (100 - pair.percentage)⌉.toNat u64Max =
        userLockupAmountSat
      ↔ ⌈((userLockupAmountSat - boltzFeesSat : ℕ) : ℚ) * 100 / (100 - pair.percentage)⌉ =
          (userLockupAmountSat : ℤ) := by omega
    _ ↔ (userLockupAmountSat : ℚ) - 1 <
          ((userLockupAmountSat - boltzFeesSat : ℕ) : ℚ) * 100 / (100 - pair.percentage) := by
        rw [Int.ceil_eq_iff, Int.cast_natCast, and_iff_left hquotient]
    _ ↔ (boltzFeesSat : ℚ) - 1 < pair.percentage / 100 * ((userLockupAmountSat : ℚ) - 1) := by
        rw [lt_div_iff₀ hrate, hleft]
        constructor
        · intro h
          linarith
        · intro h
          linarith

/-- A lockup is recovered from what is left of it after its service fee, if one satoshi less has the same fee. -/
theorem userLockupAmount_sub_percentageFee (hfees : boltzFeesSat = percentageFee pair.percentage userLockupAmountSat)
    (hle : boltzFeesSat ≤ userLockupAmountSat) (hfits : userLockupAmountSat ≤ u64Max) :
    userLockupAmount id (userLockupAmountSat - boltzFeesSat) pair = userLockupAmountSat ↔
      userLockupAmountSat = 0 ∨ SameFeeBelow pair.percentage userLockupAmountSat := by
  rcases Nat.eq_zero_or_pos userLockupAmountSat with hzero | hpositive
  · subst hzero
    rw [Nat.zero_sub]
    refine iff_of_true ?_ (.inl rfl)
    unfold userLockupAmount
    dsimp only [id]
    split
    · rfl
    · rw [Nat.cast_zero, zero_mul, zero_div]
      rfl
  · rw [or_iff_right (by omega)]
    rcases lt_or_ge pair.percentage 100 with hproper | hall
    · exact userLockupAmount_eq_iff hfees hproper hpositive hle hfits
    · -- nothing is left, so the lockup is computed from nothing
      have hge : userLockupAmountSat ≤ boltzFeesSat := hfees ▸ percentageFee_ge hall userLockupAmountSat
      have heq : boltzFeesSat = userLockupAmountSat := Nat.le_antisymm hle hge
      refine iff_of_false ?_ ?_
      · rw [heq, Nat.sub_self]
        unfold userLockupAmount
        dsimp only [id]
        split
        · rw [if_pos rfl]
          omega
        · rw [Nat.cast_zero, zero_mul, zero_div]
          intro h
          have hzero : (0 : Nat) = userLockupAmountSat := h
          omega
      · intro hsame
        have hle' := le_percentageFee pair.percentage userLockupAmountSat
        rw [← hfees, heq] at hle'
        have hle_one : pair.percentage / 100 ≤ 1 := by
          by_contra hgt
          have hlt := lt_mul_of_one_lt_left (Nat.cast_pos.mpr hpositive) (not_le.mp hgt)
          exact absurd hle' (not_le.mpr hlt)
        have hone : pair.percentage / 100 = 1 := le_antisymm hle_one (by linarith)
        unfold SameFeeBelow at hsame
        rw [← hfees, heq, hone, one_mul, eq_comm, Int.ceil_eq_iff] at hsame
        have hlast := hsame.2
        rw [Int.cast_natCast] at hlast
        have hfirst := hsame.1
        rw [Int.cast_natCast] at hfirst
        linarith

end Invert

/-! ## What the amounts are -/

section Amounts

variable {round : ℚ → ℚ} {wallet : WalletTotals} {pair : ChainPair} {fees : OnchainFees}
  {claimFeesSat receiverAmountSat : Nat} {amounts : OnchainAmounts}

theorem sum_fees (boltzFeesSat lockupFeesSat claimFeesSat serverFeesSat : Nat) :
    [boltzFeesSat, lockupFeesSat, claimFeesSat, serverFeesSat].sum =
      boltzFeesSat + lockupFeesSat + claimFeesSat + serverFeesSat := by
  rw [List.sum_cons, List.sum_cons, List.sum_cons, List.sum_singleton]
  omega

theorem onchainTotalFees_eq_ok {boltzFeesSat lockupFeesSat serverFeesSat totalFeesSat : Nat} :
    onchainTotalFees boltzFeesSat lockupFeesSat claimFeesSat serverFeesSat = .ok totalFeesSat ↔
      boltzFeesSat + lockupFeesSat + claimFeesSat + serverFeesSat ≤ u64Max ∧
        totalFeesSat = boltzFeesSat + lockupFeesSat + claimFeesSat + serverFeesSat := by
  unfold onchainTotalFees
  rw [sum_eq_ok, sum_fees]

/-- What a drain goes through, with the fee of its transaction. -/
structure Drained (wallet : WalletTotals) (pair : ChainPair) (claimFeesSat drainFeesSat : Nat)
    (amounts : OnchainAmounts) : Prop where
  fees_le : drainFeesSat ≤ wallet.balanceSat
  lockup : amounts.userLockupAmountSat = wallet.balanceSat - drainFeesSat
  within : pair.limits.within amounts.userLockupAmountSat = .ok ()
  payer : amounts.payerAmountSat = wallet.balanceSat
  total : amounts.totalFeesSat =
    pair.boltzFee amounts.userLockupAmountSat + drainFeesSat + claimFeesSat + pair.serverFee
  total_le : amounts.totalFeesSat ≤ wallet.balanceSat
  receiver : amounts.receiverAmountSat = wallet.balanceSat - amounts.totalFeesSat

theorem drainAmounts_eq_ok (h : drainAmounts wallet pair fees claimFeesSat = .ok amounts) :
    ∃ drainFeesSat, fees.drainTxFee = .ok drainFeesSat ∧ Drained wallet pair claimFeesSat drainFeesSat amounts := by
  unfold drainAmounts at h
  split at h
  · dsimp only at h
    obtain ⟨drainFeesSat, hdrain, h⟩ := except_bind_eq_ok.mp h
    obtain ⟨userLockupAmountSat, hlockup, h⟩ := except_bind_eq_ok.mp h
    obtain ⟨hfees, rfl⟩ := sub_eq_ok.mp (liftFault_eq_ok.mp hlockup)
    obtain ⟨⟨⟩, hwithin, h⟩ := except_bind_eq_ok.mp h
    obtain ⟨totalFeesSat, htotal, h⟩ := except_bind_eq_ok.mp h
    obtain ⟨-, htotal⟩ := onchainTotalFees_eq_ok.mp (liftFault_eq_ok.mp htotal)
    obtain ⟨receiverAmountSat, hreceiver, h⟩ := except_bind_eq_ok.mp h
    obtain ⟨hle, rfl⟩ := sub_eq_ok.mp (liftFault_eq_ok.mp hreceiver)
    cases h
    exact ⟨drainFeesSat, liftErr_eq_ok.mp hdrain, hfees, rfl, liftErr_eq_ok.mp hwithin, rfl, htotal, hle, rfl⟩
  · cases h

theorem preparePayOnchain_eq_ok {req : PreparePayOnchainRequest} {res : PreparePayOnchainResponse}
    (h : preparePayOnchain round wallet pair fees req = .ok res) :
    ∃ amounts, claimFees pair req.feeRateSatPerVbyte = .ok res.claimFeesSat ∧
      onchainAmounts round wallet pair fees res.claimFeesSat req.amount = .ok amounts ∧
      amounts.payerAmountSat ≤ wallet.balanceSat ∧ res.receiverAmountSat = amounts.receiverAmountSat ∧
      res.totalFeesSat = amounts.totalFeesSat := by
  obtain ⟨claimFeesSat, hclaim, h⟩ := except_bind_eq_ok.mp h
  obtain ⟨amounts, hamounts, h⟩ := except_bind_eq_ok.mp h
  split at h
  · rename_i hle
    cases h
    exact ⟨amounts, liftFault_eq_ok.mp hclaim, hamounts, hle, rfl, rfl⟩
  · cases h

end Amounts

/-! ## A drain that is prepared and then paid -/

section Agreement

variable {round : ℚ → ℚ} {wallet : WalletTotals} {pair : ChainPair} {fees : OnchainFees}
  {res : PreparePayOnchainResponse}

/-- The checks of `pay_onchain`, where the fee of draining the wallet is still the same. -/
theorem run_validateOnchainFees_drain {effect : (q : Call) → q.Answer → World → World}
    {ans : Nat → (q : Call) → q.Answer} {w : Nat × World} {tx : LBtcTransaction} {balanceSat : Nat}
    (hans : ∀ n, ans n (.buildDrainTx none) = .ok tx)
    (hpayer : u64Add res.totalFeesSat res.receiverAmountSat = balanceSat) :
    (Task.run effect ans (validateOnchainFees round res balanceSat pair) w).1 = .ok () ↔
      pair.limits.within (userLockupAmount round
        (u64Add (u64Add res.receiverAmountSat res.claimFeesSat) pair.serverFee) pair) = .ok () ∧
      res.totalFeesSat = u64Add (u64Add (u64Add (u64Sub
        (userLockupAmount round (u64Add (u64Add res.receiverAmountSat res.claimFeesSat) pair.serverFee) pair)
        (u64Add (u64Add res.receiverAmountSat res.claimFeesSat) pair.serverFee)) tx.feesSat) res.claimFeesSat)
        pair.serverFee := by
  unfold validateOnchainFees
  dsimp only
  rw [if_pos hpayer]
  simp only [Task.bind_eq]
  generalize pair.limits.within (userLockupAmount round
    (u64Add (u64Add res.receiverAmountSat res.claimFeesSat) pair.serverFee) pair) = within
  cases within with
  | error err =>
      refine iff_of_false ?_ ?_
      · intro h
        cases h
      · rintro ⟨h, -⟩
        cases h
  | ok _ =>
      have hdrain : Task.run effect ans (estimateDrainTxFee none) w =
          (.ok tx.feesSat, (w.1 + 1, effect (.buildDrainTx none) (.ok tx) w.2)) := by
        unfold estimateDrainTxFee
        simp only [Task.askOk, Task.bind_eq, Task.call_bind, Task.run_call, hans, cast_eq, Task.done_ok_bind,
          Task.pure_eq, Task.run_done]
      rw [Task.ofExcept_ok_bind, Task.run_bind, hdrain]
      dsimp only
      rw [and_iff_right rfl]
      split
      · rename_i hne
        refine iff_of_false ?_ hne
        intro h
        cases h
      · rename_i heq
        rw [if_neg (by omega)]
        exact iff_of_true rfl (not_not.mp heq)

theorem userLockupAmount_le (round : ℚ → ℚ) (withoutServiceFee : Nat) (pair : ChainPair) :
    userLockupAmount round withoutServiceFee pair ≤ u64Max := by
  unfold userLockupAmount
  dsimp only
  split
  · split
    · exact Nat.zero_le _
    · exact Nat.le_refl _
  · exact Nat.min_le_right _ _

/-- The drain that was prepared is accepted if the lockup is recovered from what is left of it. -/
theorem drained_accepted_iff {amounts : OnchainAmounts} {drainFeesSat : Nat}
    (hbalance : wallet.balanceSat ≤ u64Max) (hdrained : Drained wallet pair res.claimFeesSat drainFeesSat amounts)
    (hreceiver : res.receiverAmountSat = amounts.receiverAmountSat) (htotal : res.totalFeesSat = amounts.totalFeesSat)
    {effect : (q : Call) → q.Answer → World → World} {ans : Nat → (q : Call) → q.Answer} {w : Nat × World}
    {tx : LBtcTransaction} (hans : ∀ n, ans n (.buildDrainTx none) = .ok tx) (htx : tx.feesSat = drainFeesSat) :
    (Task.run effect ans (validateOnchainFees round res wallet.balanceSat pair) w).1 = .ok () ↔
      userLockupAmount round (amounts.userLockupAmountSat - pair.boltzFee amounts.userLockupAmountSat) pair =
        amounts.userLockupAmountSat := by
  obtain ⟨hfees, hlockup, hwithin, -, hsum, hle, hrest⟩ := hdrained
  have hmax : u64Max = 2 ^ 64 - 1 := rfl
  have hpayer : u64Add res.totalFeesSat res.receiverAmountSat = wallet.balanceSat := by
    unfold u64Add
    omega
  have hleft : u64Add (u64Add res.receiverAmountSat res.claimFeesSat) pair.serverFee =
      amounts.userLockupAmountSat - pair.boltzFee amounts.userLockupAmountSat := by
    unfold u64Add
    omega
  rw [run_validateOnchainFees_drain hans hpayer, hleft, htx]
  have hagain := userLockupAmount_le round
    (amounts.userLockupAmountSat - pair.boltzFee amounts.userLockupAmountSat) pair
  generalize userLockupAmount round (amounts.userLockupAmountSat - pair.boltzFee amounts.userLockupAmountSat) pair =
    again at hagain ⊢
  unfold u64Add u64Sub
  constructor
  · rintro ⟨-, heq⟩
    omega
  · rintro rfl
    refine ⟨hwithin, ?_⟩
    omega

/-- Paying a drain that was prepared, with nothing changed in between, gets past the checks exactly where one satoshi
less to lock up would have had the same service fee; decimal numbers are computed with exactly. -/
theorem payOnchain_accepts_drain_iff (wallet : WalletTotals) (limits : PairLimits) (percentage : ℚ)
    (serverFee userClaimFee : Nat) (fees : OnchainFees) (feeRateSatPerVbyte : Option UInt32)
    (res : PreparePayOnchainResponse) (drainFeesSat : Nat) (hbalance : wallet.balanceSat ≤ u64Max)
    (hfee : fees.drainTxFee = .ok drainFeesSat)
    (h : preparePayOnchain id wallet (.exact limits percentage serverFee userClaimFee) fees
      { amount := .drain, feeRateSatPerVbyte } = .ok res)
    (effect : (q : Call) → q.Answer → World → World) (ans : Nat → (q : Call) → q.Answer) (w : Nat × World)
    (tx : LBtcTransaction) (hans : ∀ n, ans n (.buildDrainTx none) = .ok tx) (htx : tx.feesSat = drainFeesSat) :
    (Task.run effect ans
      (validateOnchainFees id res wallet.balanceSat (.exact limits percentage serverFee userClaimFee)) w).1 = .ok () ↔
      wallet.balanceSat - drainFeesSat = 0 ∨ SameFeeBelow percentage (wallet.balanceSat - drainFeesSat) := by
  obtain ⟨amounts, -, hamounts, -, hreceiver, htotal⟩ := preparePayOnchain_eq_ok h
  obtain ⟨drainFeesSat', hdrain, hdrained⟩ := drainAmounts_eq_ok hamounts
  cases hfee.symm.trans hdrain
  rw [drained_accepted_iff hbalance hdrained hreceiver htotal hans htx, ← hdrained.lockup]
  have hlockup := hdrained.lockup
  have hsum := hdrained.total
  have hle := hdrained.total_le
  refine userLockupAmount_sub_percentageFee rfl ?_ ?_
  · omega
  · omega

/-- A pair with a service fee of 0.1 %. -/
def tenthPercent : ChainPair := .exact (.between 25000 25000000) (1 / 10) 200 100

/-- Draining the wallet costs 30 sat. -/
def drainFor30 : OnchainFees where
  lockupTxFee _ := .ok 30
  drainTxFee := .ok 30

/-- The services, to a wallet that is drained for 30 sat. -/
def drainedFor30 : (q : Call) → q.Answer
  | .buildDrainTx _ => .ok { txid := "drain", feesSat := 30 }
  | q => q.offline

/-- The lockup of 25002 sat has the service fee of one with 25001 sat, which is 26 sat. -/
theorem payOnchain_accepts_drain_25032 :
    (Task.run (fun _ _ w => w) (fun _ => drainedFor30)
      (validateOnchainFees id { receiverAmountSat := 24676, claimFeesSat := 100, totalFeesSat := 356 } 25032
        tenthPercent) (0, {})).1 = .ok () := by
  refine (payOnchain_accepts_drain_iff { balanceSat := 25032 } (.between 25000 25000000) (1 / 10) 200 100 drainFor30
    none _ 30 (by decide) rfl (by decide +kernel) _ _ _ { txid := "drain", feesSat := 30 } (fun _ => rfl) rfl).mpr
    (.inr ?_)
  unfold SameFeeBelow
  decide +kernel

/-- A satoshi less, and the drain that was prepared is refused: 25001 sat cannot be recovered from what is left of them,
because 25000 sat have a lower service fee. -/
theorem payOnchain_refuses_drain_25031 :
    preparePayOnchain id { balanceSat := 25031 } tenthPercent drainFor30 { amount := .drain } =
      .ok { receiverAmountSat := 24675, claimFeesSat := 100, totalFeesSat := 356 } ∧
    (Task.run (fun _ _ w => w) (fun _ => drainedFor30)
      (validateOnchainFees id { receiverAmountSat := 24675, claimFeesSat := 100, totalFeesSat := 356 } 25031
        tenthPercent) (0, {})).1 = .error .invalidOrExpiredFees := by
  constructor
  · decide +kernel
  · decide +kernel

end Agreement

/-! ## When the computation is sound -/

section Sound

variable {round : ℚ → ℚ} {wallet : WalletTotals} {pair : ChainPair} {fees : OnchainFees}
  {claimFeesSat receiverAmountSat : Nat} {req : PreparePayOnchainRequest}

/-- For an amount to be received, the computation stops at a fault where the sum before the service fee is too large, or
the lockup is within the limits and less than this sum, or too large with its fee. -/
theorem faults_bitcoinAmounts_iff :
    Faults (bitcoinAmounts round pair fees claimFeesSat receiverAmountSat) ↔
      (receiverAmountSat + claimFeesSat + pair.serverFee ≤ u64Max →
        ∃ lockupFeesSat,
          pair.limits.within (userLockupAmount round (receiverAmountSat + claimFeesSat + pair.serverFee) pair) =
            .ok () ∧
          fees.lockupTxFee (userLockupAmount round (receiverAmountSat + claimFeesSat + pair.serverFee) pair) =
            .ok lockupFeesSat ∧
          (receiverAmountSat + claimFeesSat + pair.serverFee ≤
              userLockupAmount round (receiverAmountSat + claimFeesSat + pair.serverFee) pair →
            u64Max <
              userLockupAmount round (receiverAmountSat + claimFeesSat + pair.serverFee) pair + lockupFeesSat)) := by
  unfold bitcoinAmounts
  dsimp only
  rw [faults_add_bind]
  constructor
  · intro h hfits
    have h := faults_add_bind.mp (h (by omega)) hfits
    obtain ⟨⟨⟩, hwithin, h⟩ := faults_liftErr_bind.mp h
    obtain ⟨lockupFeesSat, hlockup, h⟩ := faults_liftErr_bind.mp h
    refine ⟨lockupFeesSat, hwithin, hlockup, ?_⟩
    intro hle
    have h := faults_sub_bind.mp h hle
    unfold onchainTotalFees at h
    rw [faults_sum_bind, sum_fees] at h
    by_contra hmore
    have h := faults_add_bind.mp (h (by omega)) (by omega)
    exact not_faults_ok _ h
  · intro h hfirst
    rw [faults_add_bind]
    intro hfits
    obtain ⟨lockupFeesSat, hwithin, hlockup, hmore⟩ := h hfits
    refine faults_liftErr_bind.mpr ⟨_, hwithin, faults_liftErr_bind.mpr ⟨_, hlockup, ?_⟩⟩
    rw [faults_sub_bind]
    intro hle
    have hmore := hmore hle
    unfold onchainTotalFees
    rw [faults_sum_bind, sum_fees]
    intro htotal
    rw [faults_add_bind]
    intro hpayer
    omega

/-- What an amount to be received comes to. -/
theorem bitcoinAmounts_eq_ok {amounts : OnchainAmounts}
    (h : bitcoinAmounts round pair fees claimFeesSat receiverAmountSat = .ok amounts) :
    ∃ lockupFeesSat,
      pair.limits.within (userLockupAmount round (receiverAmountSat + claimFeesSat + pair.serverFee) pair) = .ok () ∧
      fees.lockupTxFee (userLockupAmount round (receiverAmountSat + claimFeesSat + pair.serverFee) pair) =
        .ok lockupFeesSat ∧
      amounts.userLockupAmountSat = userLockupAmount round (receiverAmountSat + claimFeesSat + pair.serverFee) pair ∧
      amounts.payerAmountSat = amounts.userLockupAmountSat + lockupFeesSat ∧
      amounts.receiverAmountSat = receiverAmountSat ∧
      amounts.receiverAmountSat + amounts.totalFeesSat = amounts.payerAmountSat := by
  obtain ⟨withClaimFee, hwithClaimFee, h⟩ := except_bind_eq_ok.mp h
  obtain ⟨-, rfl⟩ := add_eq_ok.mp (liftFault_eq_ok.mp hwithClaimFee)
  obtain ⟨withoutServiceFee, hwithoutServiceFee, h⟩ := except_bind_eq_ok.mp h
  obtain ⟨-, rfl⟩ := add_eq_ok.mp (liftFault_eq_ok.mp hwithoutServiceFee)
  dsimp only at h
  obtain ⟨⟨⟩, hwithin, h⟩ := except_bind_eq_ok.mp h
  obtain ⟨lockupFeesSat, hlockup, h⟩ := except_bind_eq_ok.mp h
  obtain ⟨boltzFeesSat, hboltz, h⟩ := except_bind_eq_ok.mp h
  obtain ⟨hle, rfl⟩ := sub_eq_ok.mp (liftFault_eq_ok.mp hboltz)
  obtain ⟨totalFeesSat, htotal, h⟩ := except_bind_eq_ok.mp h
  obtain ⟨-, htotal⟩ := onchainTotalFees_eq_ok.mp (liftFault_eq_ok.mp htotal)
  obtain ⟨payerAmountSat, hpayer, h⟩ := except_bind_eq_ok.mp h
  obtain ⟨-, rfl⟩ := add_eq_ok.mp (liftFault_eq_ok.mp hpayer)
  cases h
  refine ⟨lockupFeesSat, liftErr_eq_ok.mp hwithin, liftErr_eq_ok.mp hlockup, rfl, ?_, rfl, rfl⟩
  dsimp only
  omega

/-- A drain stops at a fault where the fee of its transaction is more than the balance, or the lockup is within the
limits and all fees together are more. -/
theorem faults_drainAmounts_iff (hbalance : wallet.balanceSat ≤ u64Max) :
    Faults (drainAmounts wallet pair fees claimFeesSat) ↔
      (wallet.pendingReceiveSat = 0 ∧ wallet.pendingSendSat = 0) ∧
      ∃ drainFeesSat, fees.drainTxFee = .ok drainFeesSat ∧
        (drainFeesSat ≤ wallet.balanceSat → pair.limits.within (wallet.balanceSat - drainFeesSat) = .ok () ∧
          wallet.balanceSat <
            pair.boltzFee (wallet.balanceSat - drainFeesSat) + drainFeesSat + claimFeesSat + pair.serverFee) := by
  unfold drainAmounts
  split
  · rename_i hpending
    rw [and_iff_right hpending]
    dsimp only
    rw [faults_liftErr_bind]
    refine exists_congr fun drainFeesSat => and_congr_right fun _ => ?_
    rw [faults_sub_bind]
    refine imp_congr_right fun _ => ?_
    rw [faults_liftErr_bind]
    unfold onchainTotalFees
    constructor
    · rintro ⟨⟨⟩, hwithin, h⟩
      refine ⟨hwithin, ?_⟩
      rw [faults_sum_bind, sum_fees] at h
      by_contra hle
      have h := faults_sub_bind.mp (h (by omega)) (by omega)
      exact not_faults_ok _ h
    · rintro ⟨hwithin, hmore⟩
      refine ⟨(), hwithin, ?_⟩
      rw [faults_sum_bind, sum_fees]
      intro _
      rw [faults_sub_bind]
      intro hle
      omega
  · rename_i hpending
    exact iff_of_false (not_faults_err _) fun h => hpending h.1

/-- The fee of the claim transaction always fits: the rate is a number of 32 bits. -/
def claimFeesOf (pair : ChainPair) (feeRateSatPerVbyte : Option UInt32) : Nat :=
  match feeRateSatPerVbyte with
  | some satPerVbyte => ESTIMATED_BTC_CLAIM_TX_VSIZE * satPerVbyte.toNat
  | none => pair.userClaimFee

theorem claimFees_eq (pair : ChainPair) (feeRateSatPerVbyte : Option UInt32) :
    claimFees pair feeRateSatPerVbyte = .ok (claimFeesOf pair feeRateSatPerVbyte) := by
  cases feeRateSatPerVbyte with
  | none => rfl
  | some satPerVbyte =>
      have hlt := satPerVbyte.toNat_lt
      apply mul_of_le
      unfold ESTIMATED_BTC_CLAIM_TX_VSIZE u64Max
      omega

theorem faults_preparePayOnchain_iff :
    Faults (preparePayOnchain round wallet pair fees req) ↔
      Faults (onchainAmounts round wallet pair fees (claimFeesOf pair req.feeRateSatPerVbyte) req.amount) := by
  unfold preparePayOnchain
  rw [claimFees_eq]
  show Faults (onchainAmounts round wallet pair fees (claimFeesOf pair req.feeRateSatPerVbyte) req.amount >>= _) ↔ _
  cases hamounts : onchainAmounts round wallet pair fees (claimFeesOf pair req.feeRateSatPerVbyte) req.amount with
  | error failure =>
      constructor
      · rintro ⟨fault, h⟩
        cases h
        exact ⟨fault, rfl⟩
      · rintro ⟨fault, h⟩
        cases h
        exact ⟨fault, rfl⟩
  | ok amounts =>
      refine iff_of_false ?_ (not_faults_ok _)
      show ¬ Faults (if _ then _ else _)
      split
      · exact not_faults_ok _
      · exact not_faults_err _

/-- The requests that are prepared soundly. -/
def Payable (round : ℚ → ℚ) (wallet : WalletTotals) (pair : ChainPair) (fees : OnchainFees)
    (req : PreparePayOnchainRequest) : Prop :=
  match req.amount with
  | .bitcoin receiverAmountSat =>
      let withoutServiceFee := receiverAmountSat + claimFeesOf pair req.feeRateSatPerVbyte + pair.serverFee
      withoutServiceFee ≤ u64Max ∧
      ∀ lockupFeesSat, pair.limits.within (userLockupAmount round withoutServiceFee pair) = .ok () →
        fees.lockupTxFee (userLockupAmount round withoutServiceFee pair) = .ok lockupFeesSat →
        withoutServiceFee ≤ userLockupAmount round withoutServiceFee pair ∧
        userLockupAmount round withoutServiceFee pair + lockupFeesSat ≤ u64Max ∧
        (userLockupAmount round withoutServiceFee pair + lockupFeesSat ≤ wallet.balanceSat → 0 < receiverAmountSat)
  | .drain =>
      wallet.pendingReceiveSat = 0 ∧ wallet.pendingSendSat = 0 →
      ∀ drainFeesSat, fees.drainTxFee = .ok drainFeesSat →
        drainFeesSat ≤ wallet.balanceSat ∧
        (pair.limits.within (wallet.balanceSat - drainFeesSat) = .ok () →
          pair.boltzFee (wallet.balanceSat - drainFeesSat) + claimFeesOf pair req.feeRateSatPerVbyte +
              pair.serverFee < wallet.balanceSat - drainFeesSat ∧
            userLockupAmount round
              (wallet.balanceSat - drainFeesSat - pair.boltzFee (wallet.balanceSat - drainFeesSat)) pair =
              wallet.balanceSat - drainFeesSat)
  | .asset _ => True

/-- A response, and the amounts it was made from, are sound: the payer pays what is received and the fees, has it, and
something is received; the lockup that was checked is the one that paying asks for. -/
structure SoundResponse (round : ℚ → ℚ) (wallet : WalletTotals) (pair : ChainPair) (amounts : OnchainAmounts)
    (res : PreparePayOnchainResponse) : Prop where
  balanced : res.receiverAmountSat + res.totalFeesSat = amounts.payerAmountSat
  payer_le : amounts.payerAmountSat ≤ wallet.balanceSat
  receiver_pos : 0 < res.receiverAmountSat
  lockup : amounts.userLockupAmountSat =
    userLockupAmount round (res.receiverAmountSat + res.claimFeesSat + pair.serverFee) pair

/-- From its amounts, a response is made if the balance covers them. -/
theorem preparePayOnchain_of_amounts (round : ℚ → ℚ) (wallet : WalletTotals) (req : PreparePayOnchainRequest)
    {amounts : OnchainAmounts}
    (h : onchainAmounts round wallet pair fees (claimFeesOf pair req.feeRateSatPerVbyte) req.amount = .ok amounts)
    (hle : amounts.payerAmountSat ≤ wallet.balanceSat) :
    preparePayOnchain round wallet pair fees req =
      .ok ⟨amounts.receiverAmountSat, claimFeesOf pair req.feeRateSatPerVbyte, amounts.totalFeesSat⟩ := by
  unfold preparePayOnchain
  rw [claimFees_eq]
  show (onchainAmounts round wallet pair fees (claimFeesOf pair req.feeRateSatPerVbyte) req.amount >>= _) = _
  rw [h]
  exact if_pos hle

theorem bitcoinAmounts_of {lockupFeesSat : Nat}
    (hfits : receiverAmountSat + claimFeesSat + pair.serverFee ≤ u64Max)
    (hwithin : pair.limits.within
      (userLockupAmount round (receiverAmountSat + claimFeesSat + pair.serverFee) pair) = .ok ())
    (hlockup : fees.lockupTxFee (userLockupAmount round (receiverAmountSat + claimFeesSat + pair.serverFee) pair) =
      .ok lockupFeesSat)
    (hle : receiverAmountSat + claimFeesSat + pair.serverFee ≤
      userLockupAmount round (receiverAmountSat + claimFeesSat + pair.serverFee) pair)
    (hpayer : userLockupAmount round (receiverAmountSat + claimFeesSat + pair.serverFee) pair + lockupFeesSat ≤
      u64Max) :
    ∃ amounts, bitcoinAmounts round pair fees claimFeesSat receiverAmountSat = .ok amounts := by
  cases hamounts : bitcoinAmounts round pair fees claimFeesSat receiverAmountSat with
  | ok amounts => exact ⟨amounts, rfl⟩
  | error failure =>
      exfalso
      unfold bitcoinAmounts at hamounts
      rw [add_of_le (by omega)] at hamounts
      simp only [liftFault, liftErr, Except.mapError, bind, Except.bind] at hamounts
      rw [add_of_le hfits] at hamounts
      dsimp only at hamounts
      rw [hwithin, hlockup, sub_of_le hle] at hamounts
      dsimp only at hamounts
      unfold onchainTotalFees at hamounts
      rw [sum_of_le (by rw [sum_fees]; omega), sum_fees] at hamounts
      dsimp only at hamounts
      rw [add_of_le (by omega)] at hamounts
      cases hamounts

theorem drainAmounts_of {drainFeesSat : Nat} (hpending : wallet.pendingReceiveSat = 0 ∧ wallet.pendingSendSat = 0)
    (hdrain : fees.drainTxFee = .ok drainFeesSat) (hfees : drainFeesSat ≤ wallet.balanceSat)
    (hwithin : pair.limits.within (wallet.balanceSat - drainFeesSat) = .ok ())
    (hle : pair.boltzFee (wallet.balanceSat - drainFeesSat) + drainFeesSat + claimFeesSat + pair.serverFee ≤
      wallet.balanceSat) (hbalance : wallet.balanceSat ≤ u64Max) :
    ∃ amounts, drainAmounts wallet pair fees claimFeesSat = .ok amounts := by
  unfold drainAmounts
  rw [if_pos hpending, hdrain]
  simp only [liftFault, liftErr, Except.mapError, bind, Except.bind]
  rw [sub_of_le hfees]
  dsimp only
  rw [hwithin]
  dsimp only
  unfold onchainTotalFees
  rw [sum_of_le (by rw [sum_fees]; omega), sum_fees]
  dsimp only
  rw [sub_of_le hle]
  exact ⟨_, rfl⟩

theorem sound_bitcoin_iff (feeRateSatPerVbyte : Option UInt32) (receiverAmountSat : Nat) :
    (¬ Faults (bitcoinAmounts round pair fees (claimFeesOf pair feeRateSatPerVbyte) receiverAmountSat) ∧
      ∀ amounts res,
        bitcoinAmounts round pair fees (claimFeesOf pair feeRateSatPerVbyte) receiverAmountSat = .ok amounts →
        preparePayOnchain round wallet pair fees ⟨.bitcoin receiverAmountSat, feeRateSatPerVbyte⟩ = .ok res →
          SoundResponse round wallet pair amounts res) ↔
    Payable round wallet pair fees ⟨.bitcoin receiverAmountSat, feeRateSatPerVbyte⟩ := by
  rw [faults_bitcoinAmounts_iff]
  constructor
  · rintro ⟨hfault, hsound⟩
    have hfits : receiverAmountSat + claimFeesOf pair feeRateSatPerVbyte + pair.serverFee ≤ u64Max := by
      by_contra hlarge
      exact hfault fun hfits => absurd hfits hlarge
    refine ⟨hfits, ?_⟩
    intro lockupFeesSat hwithin hlockup
    by_cases hbounds : receiverAmountSat + claimFeesOf pair feeRateSatPerVbyte + pair.serverFee ≤
          userLockupAmount round (receiverAmountSat + claimFeesOf pair feeRateSatPerVbyte + pair.serverFee) pair ∧
        userLockupAmount round (receiverAmountSat + claimFeesOf pair feeRateSatPerVbyte + pair.serverFee) pair +
          lockupFeesSat ≤ u64Max
    · -- the amounts exist, and for a balance that covers them so does the response
      obtain ⟨hle, hpayer⟩ := hbounds
      refine ⟨hle, hpayer, ?_⟩
      intro hcovered
      dsimp only at hcovered
      obtain ⟨amounts, hamounts⟩ := bitcoinAmounts_of hfits hwithin hlockup hle hpayer
      obtain ⟨lockupFeesSat', -, hlockup', huser, hpayer', hreceiver, -⟩ := bitcoinAmounts_eq_ok hamounts
      cases hlockup.symm.trans hlockup'
      have hres := preparePayOnchain_of_amounts round wallet ⟨.bitcoin receiverAmountSat, feeRateSatPerVbyte⟩ hamounts
        (by omega)
      have hpositive := (hsound amounts _ hamounts hres).receiver_pos
      dsimp only at hpositive
      omega
    · -- out of the bounds a sum or a difference of the computation faults
      exfalso
      apply hfault
      intro _
      refine ⟨lockupFeesSat, hwithin, hlockup, ?_⟩
      intro hle
      by_contra hpayer
      exact hbounds ⟨hle, Nat.le_of_not_lt hpayer⟩
  · rintro ⟨hfits, hbounds⟩
    constructor
    · intro hfault
      obtain ⟨lockupFeesSat, hwithin, hlockup, hmore⟩ := hfault hfits
      obtain ⟨hle, hpayer, -⟩ := hbounds lockupFeesSat hwithin hlockup
      exact absurd (hmore hle) (Nat.not_lt.mpr hpayer)
    · intro amounts res hamounts hres
      obtain ⟨lockupFeesSat, hwithin, hlockup, huser, hpayer, hreceiver, hbalanced⟩ := bitcoinAmounts_eq_ok hamounts
      obtain ⟨-, -, hpositive⟩ := hbounds lockupFeesSat hwithin hlockup
      dsimp only at hpositive
      -- the response has the amounts that were computed
      obtain ⟨amounts', hclaim, hamounts', hle, hreceiver', htotal'⟩ := preparePayOnchain_eq_ok hres
      have hclaim : claimFeesOf pair feeRateSatPerVbyte = res.claimFeesSat :=
        Except.ok.inj ((claimFees_eq pair feeRateSatPerVbyte).symm.trans hclaim)
      rw [← hclaim] at hamounts'
      cases hamounts.symm.trans hamounts'
      refine ⟨?_, hle, ?_, ?_⟩
      · rw [hreceiver', htotal']
        exact hbalanced
      · have hcovered := hpositive (by omega)
        omega
      · rw [hreceiver', hreceiver, ← hclaim]
        exact huser

theorem sound_drain_iff (feeRateSatPerVbyte : Option UInt32) (hbalance : wallet.balanceSat ≤ u64Max) :
    (¬ Faults (drainAmounts wallet pair fees (claimFeesOf pair feeRateSatPerVbyte)) ∧
      ∀ amounts res, drainAmounts wallet pair fees (claimFeesOf pair feeRateSatPerVbyte) = .ok amounts →
        preparePayOnchain round wallet pair fees ⟨.drain, feeRateSatPerVbyte⟩ = .ok res →
          SoundResponse round wallet pair amounts res) ↔
    Payable round wallet pair fees ⟨.drain, feeRateSatPerVbyte⟩ := by
  rw [faults_drainAmounts_iff hbalance]
  constructor
  · rintro ⟨hfault, hsound⟩ hpending drainFeesSat hdrain
    -- else one of the differences faults
    have hbounds : drainFeesSat ≤ wallet.balanceSat ∧
        (pair.limits.within (wallet.balanceSat - drainFeesSat) = .ok () →
          pair.boltzFee (wallet.balanceSat - drainFeesSat) + drainFeesSat +
            claimFeesOf pair feeRateSatPerVbyte + pair.serverFee ≤ wallet.balanceSat) := by
      constructor
      · by_contra hmore
        exact hfault ⟨hpending, drainFeesSat, hdrain, fun hle => absurd hle hmore⟩
      · intro hwithin
        by_contra hmore
        exact hfault ⟨hpending, drainFeesSat, hdrain, fun _ => ⟨hwithin, Nat.lt_of_not_le hmore⟩⟩
    obtain ⟨hfees, htotal⟩ := hbounds
    refine ⟨hfees, ?_⟩
    intro hwithin
    obtain ⟨amounts, hamounts⟩ := drainAmounts_of hpending hdrain hfees hwithin (htotal hwithin) hbalance
    obtain ⟨drainFeesSat', hdrain', hdrained⟩ := drainAmounts_eq_ok hamounts
    cases hdrain.symm.trans hdrain'
    -- a drain always pays what the wallet has, so its response exists
    have hres := preparePayOnchain_of_amounts round wallet ⟨.drain, feeRateSatPerVbyte⟩ hamounts hdrained.payer.le
    obtain ⟨-, -, hpositive, hlockup⟩ := hsound amounts _ hamounts hres
    dsimp only at hpositive hlockup
    have huser := hdrained.lockup
    have hsum := hdrained.total
    have hreceiver := hdrained.receiver
    have htotal := htotal hwithin
    rw [huser] at hsum hlockup
    refine ⟨by dsimp only; omega, ?_⟩
    rw [show amounts.receiverAmountSat + claimFeesOf pair feeRateSatPerVbyte + pair.serverFee =
        wallet.balanceSat - drainFeesSat - pair.boltzFee (wallet.balanceSat - drainFeesSat) by omega] at hlockup
    exact hlockup.symm
  · intro hpayable
    constructor
    · rintro ⟨hpending, drainFeesSat, hdrain, hmore⟩
      obtain ⟨hfees, hbounds⟩ := hpayable hpending drainFeesSat hdrain
      obtain ⟨hwithin, hmore⟩ := hmore hfees
      obtain ⟨hless, -⟩ := hbounds hwithin
      dsimp only at hless
      omega
    · intro amounts res hamounts hres
      obtain ⟨drainFeesSat, hdrain, hdrained⟩ := drainAmounts_eq_ok hamounts
      have hpending : wallet.pendingReceiveSat = 0 ∧ wallet.pendingSendSat = 0 := by
        by_contra hnot
        unfold drainAmounts at hamounts
        rw [if_neg hnot] at hamounts
        cases hamounts
      obtain ⟨hfees, hbounds⟩ := hpayable hpending drainFeesSat hdrain
      have huser := hdrained.lockup
      have hsum := hdrained.total
      have hreceiver := hdrained.receiver
      have htotal := hdrained.total_le
      obtain ⟨hless, hsame⟩ := hbounds (huser ▸ hdrained.within)
      dsimp only at hless
      obtain ⟨amounts', hclaim, hamounts', hle, hreceiver', htotal'⟩ := preparePayOnchain_eq_ok hres
      have hclaim : claimFeesOf pair feeRateSatPerVbyte = res.claimFeesSat :=
        Except.ok.inj ((claimFees_eq pair feeRateSatPerVbyte).symm.trans hclaim)
      rw [← hclaim] at hamounts'
      cases hamounts.symm.trans hamounts'
      have hpayer := hdrained.payer
      rw [huser] at hsum
      refine ⟨by omega, hle, by omega, ?_⟩
      -- what `pay_onchain` computes the lockup from is the drained amount without the fee of the swapper
      rw [huser, ← hclaim, show res.receiverAmountSat + claimFeesOf pair feeRateSatPerVbyte + pair.serverFee =
        wallet.balanceSat - drainFeesSat - pair.boltzFee (wallet.balanceSat - drainFeesSat) by omega]
      exact hsame.symm

/-- The pair with its percentage as a number of double precision. -/
def tenthPercentRounded : ChainPair := { tenthPercent with percentage := Double.nearest (1 / 10) }

end Sound

end BreezLiquid.Pay
