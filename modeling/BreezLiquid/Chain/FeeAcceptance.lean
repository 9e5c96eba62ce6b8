/-
# BreezLiquid.Chain.FeeAcceptance — the amounts of a zero-amount swap.

Three functions compute with the lockup of the user, the quote of the swapper and the claim fees of the swap: the one that
accepts a quote by itself, the one that proposes fees to the user, and the one that accepts what the user agreed to.
The first is written with checked arithmetic here, since it is not to underflow anywhere; where it does not, the handler
comes to the same. The other two wrap around, as they do in `sdk.rs`. The three come to one receiver amount, and the fees
are what it leaves of the lockup, unless the quote is above the lockup and the claim fees together.
-/
import BreezLiquid.Chain.Handler
import BreezLiquid.Lib.Checked

namespace BreezLiquid.Chain

open Checked Interleaving Wrapping

/-! ## The computations -/

structure FetchPaymentProposedFeesResponse where
  swapId : SwapId
  feesSat : Nat
  payerAmountSat : Nat
  receiverAmountSat : Nat
  deriving DecidableEq, Repr

/-- The server lockup that is expected of a user lockup. -/
def serverLockupAmountEstimate (pair : ChainPair) (userLockupAmountSat : Nat) : Except Fault Nat := do
  let withoutServerFees ← sub userLockupAmountSat pair.serverFee
  sub withoutServerFees (pair.boltzFee userLockupAmountSat)

/-- `validate_amountless_swap`, once the balance of the lockup script and the pair are known. -/
def validateAmountless (swap : ChainSwap) (pair : ChainPair) (onchainFeeRateLeewaySat : Option Nat)
    (scriptBalance : BtcScriptBalance) (quoteServerLockupAmountSat : Nat) :
    Except (Failure Err) ValidateAmountlessSwapResult :=
  if swap.direction ≠ .incoming then
    throw (.err (.generic ("Only an incoming chain swap can be a zero-amount swap. Swap ID: " ++ swap.id)))
  else do
    let userLockupAmountSat := userLockupAmount scriptBalance
    if userLockupAmountSat = 0 then
      throw (.err (.generic "Lockup address has no confirmed or unconfirmed balance"))
    else do
      let estimate ← liftFault (serverLockupAmountEstimate pair userLockupAmountSat)
      let leeway := onchainFeeRateLeewaySat.getD DEFAULT_ONCHAIN_FEE_RATE_LEEWAY_SAT
      if quoteServerLockupAmountSat < estimate - leeway then return .requiresUserAction userLockupAmountSat
      else do
        let receiverAmountSat ← liftFault (sub quoteServerLockupAmountSat swap.claimFeesSat)
        return .readyForAccepting userLockupAmountSat receiverAmountSat

/-- The fees that a quote comes to: what the payer sent less the quote, and the claim fees. -/
def proposedFees (payerAmountSat serverLockupQuote claimFeesSat : Nat) : Nat :=
  u64Add (u64Sub payerAmountSat serverLockupQuote) claimFeesSat

/-- `fetch_payment_proposed_fees`, with the row of the swap and the quote. -/
def fetchPaymentProposedFees (swap : ChainSwap) (serverLockupQuote : Nat) :
    Except Err FetchPaymentProposedFeesResponse :=
  if swap.state = .waitingFeeAcceptance then do
    let actualPayerAmountSat ← okOr swap.actualPayerAmountSat
      "No actual payer amount found when state is WaitingFeeAcceptance"
    let feesSat := proposedFees actualPayerAmountSat serverLockupQuote swap.claimFeesSat
    return {
      swapId := swap.id
      feesSat
      payerAmountSat := actualPayerAmountSat
      receiverAmountSat := u64Sub actualPayerAmountSat feesSat
    }
  else throw (.generic "Payment is not WaitingFeeAcceptance")

/-- The receiver amount that `accept_payment_proposed_fees` stores, with the row of the swap and the quote. -/
def acceptedReceiverAmount (swap : ChainSwap) (response : FetchPaymentProposedFeesResponse)
    (serverLockupQuote : Nat) : Except Err Nat :=
  if swap.state = .waitingFeeAcceptance then
    if response.feesSat = proposedFees response.payerAmountSat serverLockupQuote swap.claimFeesSat then
      return u64Sub response.payerAmountSat response.feesSat
    else throw .invalidOrExpiredFees
  else throw (.generic "Payment is not WaitingFeeAcceptance")

/-! ## The handler computes the same -/

section Handler

variable {sdk : Sdk} {swap : ChainSwap} {pair : ChainPair} {scriptBalance : BtcScriptBalance} {quote : Nat}

theorem serverLockupAmountEstimate_eq_ok {userLockupAmountSat estimate : Nat} :
    serverLockupAmountEstimate pair userLockupAmountSat = .ok estimate ↔
      pair.serverFee + pair.boltzFee userLockupAmountSat ≤ userLockupAmountSat ∧
        estimate = userLockupAmountSat - pair.serverFee - pair.boltzFee userLockupAmountSat := by
  unfold serverLockupAmountEstimate
  constructor
  · intro h
    obtain ⟨withoutServerFees, hwithout, h⟩ := except_bind_eq_ok.mp h
    obtain ⟨hserver, rfl⟩ := sub_eq_ok.mp hwithout
    obtain ⟨hservice, rfl⟩ := sub_eq_ok.mp h
    exact ⟨by omega, rfl⟩
  · rintro ⟨hle, rfl⟩
    rw [sub_of_le (by omega)]
    exact sub_of_le (by omega)

/-- What the checked computation comes to, the task of the handler returns. -/
theorem run_validateAmountlessSwap {effect : (q : Call) → q.Answer → World → World}
    {ans : Nat → (q : Call) → q.Answer} {w : Nat × World} {lockupScript : SwapScriptV2} {bitcoinScript : SwapScript}
    {script : Script} {result : ValidateAmountlessSwapResult}
    (hlockup : swap.getLockupSwapScript sdk.bz = .ok lockupScript)
    (hbitcoin : lockupScript.asBitcoinScript = .ok bitcoinScript) (hscript : bitcoinScript.toAddress = some script)
    (hans : ∀ n, ans n (.bitcoinScriptBalance script) = .ok scriptBalance)
    (hpair : swap.getBoltzPair sdk.bz = .ok pair) (hfits : userLockupAmount scriptBalance ≤ u64Max)
    (hquote : quote ≤ u64Max)
    (h : validateAmountless swap pair sdk.onchainFeeRateLeewaySat scriptBalance quote = .ok result) :
    (Task.run effect ans (validateAmountlessSwap sdk swap quote) w).1 = .ok result := by
  have hmax : u64Max = 2 ^ 64 - 1 := rfl
  unfold validateAmountless at h
  unfold validateAmountlessSwap
  split at h
  · cases h
  · rename_i hdirection
    rw [if_neg hdirection, hlockup]
    simp only [Task.bind_eq, Task.ofExcept_ok_bind, hbitcoin, hscript, okOr, Task.askOk, Task.call_bind, Task.run_call,
      hans, cast_eq, Task.done_ok_bind]
    dsimp only at h
    split at h
    · cases h
    · rename_i hpositive
      rw [if_neg hpositive, hpair]
      simp only [Task.ofExcept_ok_bind]
      obtain ⟨estimate, hestimate, h⟩ := except_bind_eq_ok.mp h
      obtain ⟨hle, rfl⟩ := serverLockupAmountEstimate_eq_ok.mp (liftFault_eq_ok.mp hestimate)
      have hmin : minAutoAcceptServerLockupAmountSat sdk pair (userLockupAmount scriptBalance) =
          userLockupAmount scriptBalance - pair.serverFee - pair.boltzFee (userLockupAmount scriptBalance) -
            sdk.onchainFeeRateLeewaySat.getD DEFAULT_ONCHAIN_FEE_RATE_LEEWAY_SAT := by
        have hserver : u64Sub (userLockupAmount scriptBalance) pair.serverFee =
            userLockupAmount scriptBalance - pair.serverFee := u64Sub_of_le (by omega) (by omega)
        unfold minAutoAcceptServerLockupAmountSat
        rw [hserver, u64Sub_of_le (by omega) (by omega)]
      rw [hmin]
      split at h
      · rename_i hlow
        rw [if_pos hlow]
        cases h
        rfl
      · rename_i hlow
        rw [if_neg hlow]
        obtain ⟨receiverAmountSat, hreceiver, h⟩ := except_bind_eq_ok.mp h
        obtain ⟨hclaim, rfl⟩ := sub_eq_ok.mp (liftFault_eq_ok.mp hreceiver)
        cases h
        rw [u64Sub_of_le hclaim (by omega)]
        rfl

/-- What an acceptance stores, the task of `sdk.rs` stores. -/
theorem acceptedReceiverAmount_eq_ok {response : FetchPaymentProposedFeesResponse} {receiverAmountSat : Nat} :
    acceptedReceiverAmount swap response quote = .ok receiverAmountSat ↔
      swap.state = .waitingFeeAcceptance ∧
      response.feesSat = u64Add (u64Sub response.payerAmountSat quote) swap.claimFeesSat ∧
      receiverAmountSat = u64Sub response.payerAmountSat response.feesSat := by
  unfold acceptedReceiverAmount
  constructor
  · intro h
    split at h
    · rename_i hstate
      split at h
      · rename_i hfees
        cases h
        exact ⟨hstate, hfees, rfl⟩
      · cases h
    · cases h
  · rintro ⟨hstate, hfees, rfl⟩
    rw [if_pos hstate]
    exact if_pos hfees

end Handler

/-! ## When the three agree -/

section Agree

variable {swap : ChainSwap} {pair : ChainPair} {leeway : Option Nat} {scriptBalance : BtcScriptBalance}
  {quote : Nat}

/-- The quote is one that is accepted without asking the user. -/
def AutoAccepted (pair : ChainPair) (leeway : Option Nat) (userLockupAmountSat quote : Nat) : Prop :=
  userLockupAmountSat ≤ quote + pair.serverFee + pair.boltzFee userLockupAmountSat +
    leeway.getD DEFAULT_ONCHAIN_FEE_RATE_LEEWAY_SAT

theorem validateAmountless_of_le (leeway : Option Nat) (quote : Nat) (hdirection : swap.direction = .incoming)
    (hpositive : userLockupAmount scriptBalance ≠ 0)
    (hle : pair.serverFee + pair.boltzFee (userLockupAmount scriptBalance) ≤ userLockupAmount scriptBalance) :
    (AutoAccepted pair leeway (userLockupAmount scriptBalance) quote →
      validateAmountless swap pair leeway scriptBalance quote = liftFault (sub quote swap.claimFeesSat) >>=
        fun receiverAmountSat => .ok (.readyForAccepting (userLockupAmount scriptBalance) receiverAmountSat)) ∧
    (¬ AutoAccepted pair leeway (userLockupAmount scriptBalance) quote →
      validateAmountless swap pair leeway scriptBalance quote =
        .ok (.requiresUserAction (userLockupAmount scriptBalance))) := by
  unfold AutoAccepted validateAmountless
  rw [if_neg (not_not.mpr hdirection)]
  dsimp only
  rw [if_neg hpositive, serverLockupAmountEstimate_eq_ok.mpr ⟨hle, rfl⟩]
  constructor
  · intro haccepted
    exact if_neg (by omega)
  · intro haccepted
    exact if_pos (by omega)

/-- A lockup that does not cover the fees of the server is a fault. -/
theorem validateAmountless_of_lt (hdirection : swap.direction = .incoming)
    (hpositive : userLockupAmount scriptBalance ≠ 0)
    (hlt : userLockupAmount scriptBalance < pair.serverFee + pair.boltzFee (userLockupAmount scriptBalance)) :
    Faults (validateAmountless swap pair leeway scriptBalance quote) := by
  unfold validateAmountless
  rw [if_neg (not_not.mpr hdirection)]
  dsimp only
  rw [if_neg hpositive]
  cases hestimate : serverLockupAmountEstimate pair (userLockupAmount scriptBalance) with
  | error fault => exact ⟨fault, rfl⟩
  | ok estimate => exact absurd (serverLockupAmountEstimate_eq_ok.mp hestimate).1 (Nat.not_le.mpr hlt)

/-- The swap while its proposed fees wait for the user. -/
def awaitingUser (swap : ChainSwap) (userLockupAmountSat : Nat) : ChainSwap :=
  { swap with state := .waitingFeeAcceptance, actualPayerAmountSat := some userLockupAmountSat }

/-- A receiver amount that the user gets by the fees that are proposed and accepted. -/
def UserAccepts (swap : ChainSwap) (quote userLockupAmountSat receiverAmountSat : Nat) : Prop :=
  ∃ response, fetchPaymentProposedFees (awaitingUser swap userLockupAmountSat) quote = .ok response ∧
    response.receiverAmountSat = receiverAmountSat ∧ response.feesSat + receiverAmountSat = userLockupAmountSat ∧
    acceptedReceiverAmount (awaitingUser swap userLockupAmountSat) response quote = .ok receiverAmountSat

/-- The fees are a difference of the amounts, where the quote is at most what was locked up and the claim fees. -/
theorem proposedFees_eq_iff {payerAmountSat claimFeesSat : Nat} (hpayer : payerAmountSat ≤ u64Max)
    (hquote : quote ≤ u64Max) (hclaim : claimFeesSat ≤ quote) :
    proposedFees payerAmountSat quote claimFeesSat + (quote - claimFeesSat) = payerAmountSat ↔
      quote ≤ payerAmountSat + claimFeesSat := by
  have hmax : u64Max = 2 ^ 64 - 1 := rfl
  unfold proposedFees u64Add u64Sub
  omega

/-- Whatever the fees wrap to, what they leave of the amount is the quote without the claim fees. -/
theorem u64Sub_proposedFees {payerAmountSat claimFeesSat : Nat} (hquote : quote ≤ u64Max)
    (hclaim : claimFeesSat ≤ quote) :
    u64Sub payerAmountSat (proposedFees payerAmountSat quote claimFeesSat) = quote - claimFeesSat := by
  have hmax : u64Max = 2 ^ 64 - 1 := rfl
  unfold proposedFees u64Add u64Sub
  omega

/-- The user gets what is left of the quote after the claim fees, where the fees are no less than none. -/
theorem userAccepts_iff {userLockupAmountSat : Nat} (hclaim : swap.claimFeesSat ≤ quote) (hquote : quote ≤ u64Max)
    (hfits : userLockupAmountSat ≤ u64Max) :
    UserAccepts swap quote userLockupAmountSat (quote - swap.claimFeesSat) ↔
      quote ≤ userLockupAmountSat + swap.claimFeesSat := by
  have hleft : u64Sub userLockupAmountSat (proposedFees userLockupAmountSat quote swap.claimFeesSat) =
      quote - swap.claimFeesSat := u64Sub_proposedFees hquote hclaim
  rw [← proposedFees_eq_iff hfits hquote hclaim]
  unfold UserAccepts fetchPaymentProposedFees awaitingUser
  rw [if_pos rfl]
  constructor
  · rintro ⟨response, h, -, hsum, -⟩
    obtain ⟨payer, hpayer, h⟩ := except_bind_eq_ok.mp h
    cases hpayer
    cases h
    exact hsum
  · intro hsum
    refine ⟨_, rfl, hleft, hsum, acceptedReceiverAmount_eq_ok.mpr ⟨rfl, rfl, hleft.symm⟩⟩

/-- A quote is validated without a fault, accepted only for the amount and within the fees it should be, and the user would
get the same amount, exactly where the lockup covers the fees of the server, and a quote that is accepted covers the
claim fees and is at most the lockup and the claim fees. -/
theorem validateAmountless_agrees_iff (swap : ChainSwap) (pair : ChainPair) (leeway : Option Nat)
    (scriptBalance : BtcScriptBalance) (quote : Nat) (hfits : userLockupAmount scriptBalance ≤ u64Max)
    (hquote : quote ≤ u64Max) :
    (¬ Faults (validateAmountless swap pair leeway scriptBalance quote) ∧
      ∀ userLockupAmountSat receiverAmountSat,
        validateAmountless swap pair leeway scriptBalance quote =
            .ok (.readyForAccepting userLockupAmountSat receiverAmountSat) →
          receiverAmountSat + swap.claimFeesSat = quote ∧
          userLockupAmountSat ≤ quote + pair.serverFee + pair.boltzFee userLockupAmountSat +
            leeway.getD DEFAULT_ONCHAIN_FEE_RATE_LEEWAY_SAT ∧
          UserAccepts swap quote userLockupAmountSat receiverAmountSat) ↔
    (swap.direction = .incoming → userLockupAmount scriptBalance ≠ 0 →
      pair.serverFee + pair.boltzFee (userLockupAmount scriptBalance) ≤ userLockupAmount scriptBalance ∧
      (AutoAccepted pair leeway (userLockupAmount scriptBalance) quote →
        swap.claimFeesSat ≤ quote ∧ quote ≤ userLockupAmount scriptBalance + swap.claimFeesSat)) := by
  by_cases hdirection : swap.direction = .incoming
  · by_cases hpositive : userLockupAmount scriptBalance = 0
    · refine iff_of_true ?_ fun _ h => absurd hpositive h
      unfold validateAmountless
      rw [if_neg (not_not.mpr hdirection)]
      dsimp only
      rw [if_pos hpositive]
      refine ⟨not_faults_err _, ?_⟩
      intro userLockupAmountSat receiverAmountSat h
      cases h
    · rw [imp_iff_right hdirection, imp_iff_right hpositive]
      -- the fees of the server are subtracted first; they fault where the lockup does not cover them
      by_cases hle : pair.serverFee + pair.boltzFee (userLockupAmount scriptBalance) ≤ userLockupAmount scriptBalance
      · rw [and_iff_right hle]
        obtain ⟨haccepts, hasks⟩ := validateAmountless_of_le leeway quote hdirection hpositive hle
        -- a quote below the bound is left to the user, so nothing is demanded of it
        by_cases haccepted : AutoAccepted pair leeway (userLockupAmount scriptBalance) quote
        · rw [haccepts haccepted, imp_iff_right haccepted]
          by_cases hclaim : swap.claimFeesSat ≤ quote
          · rw [sub_of_le hclaim, and_iff_right hclaim, ← userAccepts_iff hclaim hquote hfits]
            constructor
            · rintro ⟨-, hready⟩
              exact (hready _ _ rfl).2.2
            · intro huser
              refine ⟨not_faults_ok _, ?_⟩
              intro userLockupAmountSat receiverAmountSat h
              cases h
              exact ⟨Nat.sub_add_cancel hclaim, haccepted, huser⟩
          · refine iff_of_false ?_ fun h => hclaim h.1
            rintro ⟨hfault, -⟩
            exact hfault (faults_sub_bind.mpr fun h => absurd h hclaim)
        · rw [hasks haccepted]
          refine iff_of_true ⟨not_faults_ok _, ?_⟩ fun h => absurd h haccepted
          intro userLockupAmountSat receiverAmountSat h
          cases h
      · refine iff_of_false ?_ fun h => hle h.1
        rintro ⟨hfault, -⟩
        exact hfault (validateAmountless_of_lt hdirection hpositive (Nat.lt_of_not_le hle))
  · refine iff_of_true ?_ fun h => absurd h hdirection
    unfold validateAmountless
    rw [if_pos hdirection]
    refine ⟨not_faults_err _, ?_⟩
    intro userLockupAmountSat receiverAmountSat h
    cases h

/-- An incoming zero-amount swap whose claim costs 20 sat. -/
def amountlessSwap : ChainSwap := { (default : ChainSwap) with direction := .incoming, claimFeesSat := 20 }

/-- The server takes 200 sat and 0.1 %. -/
def amountlessPair : ChainPair := .exact (.between 25000 25000000) (1 / 10) 200 0

/-- A lockup of 30000 sat at a quote of 29700. -/
theorem validateAmountless_agrees_30000 :
    ¬ Faults (validateAmountless amountlessSwap amountlessPair none { confirmed := 30000 } 29700) := by
  have hagrees := validateAmountless_agrees_iff amountlessSwap amountlessPair none { confirmed := 30000 } 29700
    (by decide) (by decide)
  exact (hagrees.mpr fun _ _ => ⟨by decide +kernel, fun _ => ⟨by decide, by decide⟩⟩).1

/-- A lockup of 100 sat does not cover the fees of the server; and a quote above the lockup and the claim fees is accepted,
while the fees that are proposed for it wrap around. -/
theorem validateAmountless_underflows :
    validateAmountless amountlessSwap amountlessPair none { confirmed := 100 } 50 = .error (.fault .underflow) ∧
      validateAmountless amountlessSwap amountlessPair none { confirmed := 30000 } 30030 =
        .ok (.readyForAccepting 30000 30010) ∧
      (fetchPaymentProposedFees (awaitingUser amountlessSwap 30000) 30030).map
        FetchPaymentProposedFeesResponse.feesSat = .ok (2 ^ 64 - 10) := by
  refine ⟨?_, ?_, ?_⟩
  · decide +kernel
  · decide +kernel
  · decide +kernel

end Agree

end BreezLiquid.Chain
