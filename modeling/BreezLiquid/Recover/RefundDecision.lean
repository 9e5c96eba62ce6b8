/-
# BreezLiquid.Recover.RefundDecision — when a recovery keeps the decision to refund.

A failure status of the swapper makes a swap `Refundable` or `RefundPending`, and the transition tables of
the handlers let none of them go back to `Pending`. `update_swap` of the recovery handlers does not ask
these tables: it derives the state from what is on chain and from the expiry. Before the expiry an unspent
lockup looks like a swap that is still under way, and the decision is lost. For each of the three handlers
it is said here exactly when it is kept.
-/
import BreezLiquid.Recover.Handlers

namespace BreezLiquid.Recover

/-- The states in which a refund is offered, tried or done. -/
def KeepsRefund (state : PaymentState) : Prop :=
  state = .refundable ∨ state = .refundPending ∨ state = .failed

instance : DecidablePred KeepsRefund := fun state =>
  inferInstanceAs (Decidable (state = .refundable ∨ state = .refundPending ∨ state = .failed))

/-- The states that leave the funds to be refunded or show them refunded ... -/
theorem keepsRefund_refundable : KeepsRefund .refundable := .inl rfl

theorem keepsRefund_refundPending : KeepsRefund .refundPending := .inr (.inl rfl)

theorem keepsRefund_failed : KeepsRefund .failed := .inr (.inr rfl)

/-- ... and two that do not. -/
theorem not_keepsRefund_pending : ¬ KeepsRefund .pending := by decide

theorem not_keepsRefund_waitingFeeAcceptance : ¬ KeepsRefund .waitingFeeAcceptance := by decide

/-- What takes an unspent lockup out of the pending ones: the handler leaves the swap alone, there is no
lockup or a refund of it, or the swap is expired. -/
def SeenRefunding (skipped : Bool) (lockup refund : Option LBtcHistory) (isExpired : Bool) : Prop :=
  skipped = true ∨ lockup = none ∨ refund.isSome ∨ isExpired = true

namespace SendSwapHandler

/-- Without a claim, a send swap goes back to pending only with a lockup, no refund and time left. -/
theorem derivePartialState_keepsRefund (r : RecoveredOnchainDataSend) (isExpired : Bool) :
    KeepsRefund ((derivePartialState r none isExpired).getD .refundPending) ↔
      r.lockupTxId = none ∨ r.refundTxId.isSome ∨ isExpired = true := by
  unfold derivePartialState
  rcases r.lockupTxId with _ | lockup
  · cases isExpired
    · simp [keepsRefund_refundPending]
    · simp [keepsRefund_failed]
  · rcases r.refundTxId with _ | refund
    · cases isExpired
      · simp [not_keepsRefund_pending]
      · simp [keepsRefund_refundPending]
    · simp only [Option.isSome_some, true_or, or_true, iff_true]
      split
      · exact keepsRefund_failed
      · exact keepsRefund_refundPending

/-- Without a preimage, a swap in `RefundPending` gets the derived state or keeps its own. -/
theorem updateSwap_state {verifyPaymentHash : String → String → Bool} {s : SendSwap}
    {r : RecoveredOnchainDataSend} {height : Nat} {grace : Bool} (hstate : s.state = .refundPending)
    (hstored : s.preimage = none) (hrecovered : r.preimage = none) :
    (updateSwap verifyPaymentHash s r height grace).state =
      if shouldSkipRecovery s r grace then .refundPending
      else (derivePartialState r none (s.timeoutBlockHeight % 2 ^ 32 ≤ height)).getD
        .refundPending := by
  unfold updateSwap
  rw [hrecovered]
  split
  · exact hstate
  · dsimp only
    rw [hstored]
    split
    · rename_i newState hnew
      rw [hnew, Option.getD_some]
    · rename_i hnone
      rw [hnone, Option.getD_none]
      exact hstate

/-- So a pending refund of a send swap is kept exactly if it is seen to be refunding. -/
theorem updateSwap_keepsRefund {verifyPaymentHash : String → String → Bool} {s : SendSwap}
    {r : RecoveredOnchainDataSend} {height : Nat} {grace : Bool} (hstate : s.state = .refundPending)
    (hstored : s.preimage = none) (hrecovered : r.preimage = none) :
    KeepsRefund (updateSwap verifyPaymentHash s r height grace).state ↔
      SeenRefunding (shouldSkipRecovery s r grace) r.lockupTxId r.refundTxId
        (s.timeoutBlockHeight % 2 ^ 32 ≤ height) := by
  rw [updateSwap_state hstate hstored hrecovered, SeenRefunding]
  cases shouldSkipRecovery s r grace with
  | true => simp [keepsRefund_refundPending]
  | false =>
      rw [if_neg Bool.false_ne_true, derivePartialState_keepsRefund]
      simp

end SendSwapHandler

namespace ChainSendSwapHandler

/-- The same of an outgoing chain swap ... -/
theorem derivePartialState_keepsRefund {r : RecoveredOnchainDataChainSend}
    (hclaim : r.btcClaimTxId = none) (isExpired : Bool) :
    KeepsRefund ((derivePartialState r isExpired).getD .refundPending) ↔
      r.lbtcUserLockupTxId = none ∨ r.lbtcRefundTxId.isSome ∨ isExpired = true := by
  unfold derivePartialState
  rw [hclaim]
  rcases r.lbtcUserLockupTxId with _ | lockup
  · cases isExpired
    · simp [keepsRefund_refundPending]
    · simp [keepsRefund_failed]
  · rcases r.lbtcRefundTxId with _ | refund
    · cases isExpired
      · simp [not_keepsRefund_pending]
      · simp [keepsRefund_refundPending]
    · simp only [Option.isSome_some, true_or, or_true, iff_true]
      split
      · exact keepsRefund_failed
      · exact keepsRefund_refundPending

/-- Liquid or Bitcoin is past the swap's timeout there. -/
def isExpired (s : ChainSwap) (liquidHeight bitcoinHeight : Nat) : Bool :=
  s.timeoutBlockHeight ≤ liquidHeight || s.claimTimeoutBlockHeight ≤ bitcoinHeight

/-- ... whose state is the derived one where there is one ... -/
theorem updateSwap_state {s : ChainSwap} {r : RecoveredOnchainDataChainSend}
    {liquidHeight bitcoinHeight : Nat} {grace : Bool} :
    (updateSwap s r liquidHeight bitcoinHeight grace).state =
      if shouldSkipRecovery s r grace then s.state
      else (derivePartialState r (isExpired s liquidHeight bitcoinHeight)).getD s.state := by
  unfold updateSwap
  split
  · rfl
  · dsimp only
    unfold isExpired
    rcases derivePartialState r _ with _ | newState
    · rfl
    · rfl

/-- ... and which may expire on either chain. -/
theorem updateSwap_keepsRefund {s : ChainSwap} {r : RecoveredOnchainDataChainSend}
    {liquidHeight bitcoinHeight : Nat} {grace : Bool} (hstate : s.state = .refundPending)
    (hclaim : r.btcClaimTxId = none) :
    KeepsRefund (updateSwap s r liquidHeight bitcoinHeight grace).state ↔
      SeenRefunding (shouldSkipRecovery s r grace) r.lbtcUserLockupTxId r.lbtcRefundTxId
        (isExpired s liquidHeight bitcoinHeight) := by
  rw [updateSwap_state, hstate, SeenRefunding]
  cases shouldSkipRecovery s r grace with
  | true => simp [keepsRefund_refundPending]
  | false =>
      rw [if_neg Bool.false_ne_true, derivePartialState_keepsRefund hclaim]
      simp

end ChainSendSwapHandler

namespace ChainReceiveSwapHandler

/-- Liquid or Bitcoin is past the swap's timeout there. -/
def isExpired (s : ChainSwap) (liquidHeight bitcoinHeight : Nat) : Bool :=
  s.claimTimeoutBlockHeight ≤ liquidHeight || s.timeoutBlockHeight ≤ bitcoinHeight

/-- The swapper does not take the amount: it differs from the agreed one, or for a zero-amount swap it is
outside the limits of the pair. -/
def AmountRefused (bz : BoltzClient) (s : ChainSwap) (amount : Nat) : Prop :=
  (s.payerAmountSat ≠ 0 ∧ s.payerAmountSat ≠ amount) ∨
    (s.payerAmountSat = 0 ∧ ∃ pair, s.getBoltzPair bz = .ok pair ∧
      (amount < pair.limits.minimal ∨ pair.limits.maximal < amount))

/-- The pair of a zero-amount swap cannot be read, and the recovery ends there. -/
def PairUnreadable (bz : BoltzClient) (s : ChainSwap) : Prop :=
  s.payerAmountSat = 0 ∧ ∀ pair, s.getBoltzPair bz ≠ .ok pair

/-- With a lockup in the confirmed balance and no claim. -/
theorem derivePartialState_keepsRefund {r : RecoveredOnchainDataChainReceive}
    {lockup : BtcHistory} (hlockup : r.btcUserLockupTxId = some lockup)
    (hbalance : 0 < r.btcUserLockupAddressBalanceSat) (hclaim : r.lbtcClaimTxId = none)
    (expected : Option Nat) (limits : Option PairLimits) (expired waiting : Bool) :
    KeepsRefund ((derivePartialState r expected limits expired waiting).getD .refundable) ↔
      r.btcRefundTxId.isSome ∨ expired = true ∨
        (expected.any fun amount => amount != r.btcUserLockupAmountSat) = true ∨
        (limits.any fun limits => r.btcUserLockupAmountSat < limits.minimal ||
          limits.maximal < r.btcUserLockupAmountSat) = true := by
  unfold derivePartialState
  rw [hlockup, hclaim]
  rcases r.btcRefundTxId with _ | refund
  · simp only [hbalance, decide_true, Bool.and_true, Option.isSome_none, Bool.false_eq_true, false_or]
    split
    · rename_i hrefundable
      simp only [Bool.or_eq_true, or_assoc] at hrefundable
      simp only [Option.getD_some, keepsRefund_refundable, true_iff]
      simpa using hrefundable
    · rename_i hrefundable
      simp only [Bool.or_eq_true, or_assoc] at hrefundable
      have hleft : ∀ state, state = .waitingFeeAcceptance ∨ state = .pending →
          ¬ KeepsRefund state := by
        rintro state (rfl | rfl)
        · exact not_keepsRefund_waitingFeeAcceptance
        · exact not_keepsRefund_pending
      refine iff_of_false (hleft _ ?_) (by simpa using hrefundable)
      cases waiting
      · exact .inr rfl
      · exact .inl rfl
  · simp only [Option.isSome_some, true_or, iff_true]
    split
    · split
      · exact keepsRefund_refundable
      · exact keepsRefund_failed
    · exact keepsRefund_refundPending

/-- The agreed amount, or for a zero-amount swap the limits of its pair. -/
def expectedAmounts (bz : BoltzClient) (s : ChainSwap) :
    Except Err (Option Nat × Option PairLimits) :=
  if s.payerAmountSat = 0 then (s.getBoltzPair bz).map fun pair => (none, some pair.limits)
  else .ok (some s.payerAmountSat, none)

/-- The state of an incoming chain swap: the derived one, unless its pair cannot be read. -/
theorem updateSwap_state {bz : BoltzClient} {s : ChainSwap} {r : RecoveredOnchainDataChainReceive}
    {liquidHeight bitcoinHeight : Nat} {grace : Bool} :
    (updateSwap bz s r liquidHeight bitcoinHeight grace).1.state =
      if shouldSkipRecovery s r grace then s.state
      else
        match expectedAmounts bz s with
        | .error _ => s.state
        | .ok (expected, limits) =>
            (derivePartialState r expected limits (isExpired s liquidHeight bitcoinHeight)
              s.isWaitingFeeAcceptance).getD s.state := by
  -- the actual payer amount that is written first is not looked at again
  have hpaid : ∀ s', s' = s ∨ s' = { s with actualPayerAmountSat := some r.btcUserLockupAmountSat } →
      s'.state = s.state ∧ s'.isWaitingFeeAcceptance = s.isWaitingFeeAcceptance ∧
        expectedAmounts bz s' = expectedAmounts bz s ∧
        isExpired s' liquidHeight bitcoinHeight = isExpired s liquidHeight bitcoinHeight := by
    rintro s' (rfl | rfl)
    · exact ⟨rfl, rfl, rfl, rfl⟩
    · exact ⟨rfl, rfl, rfl, rfl⟩
  unfold updateSwap
  split
  · rfl
  · have hcases : ∀ s', s' = (if 0 < r.btcUserLockupAmountSat
        then { s with actualPayerAmountSat := some r.btcUserLockupAmountSat } else s) →
        s' = s ∨ s' = { s with actualPayerAmountSat := some r.btcUserLockupAmountSat } := by
      rintro s' rfl
      split
      · exact .inr rfl
      · exact .inl rfl
    generalize hs' : (if 0 < r.btcUserLockupAmountSat
      then { s with actualPayerAmountSat := some r.btcUserLockupAmountSat } else s) = s'
    obtain ⟨hstate, hwaiting, hexpected, hexpired⟩ := hpaid s' (hcases s' hs'.symm)
    rw [← hstate, ← hwaiting, ← hexpected, ← hexpired]
    unfold expectedAmounts isExpired
    dsimp only
    generalize (if s'.payerAmountSat = 0 then _ else _ : Except Err (Option Nat × Option PairLimits)) = amounts
    rcases amounts with err | ⟨expected, limits⟩
    · rfl
    · dsimp only
      rcases derivePartialState r expected limits _ _ with _ | newState
      · rfl
      · rfl

/-- With funds at the lockup address, it is kept refundable by an expiry or by an amount that is refused. -/
theorem updateSwap_keepsRefund {bz : BoltzClient} {s : ChainSwap}
    {r : RecoveredOnchainDataChainReceive} {liquidHeight bitcoinHeight : Nat} {grace : Bool}
    {lockup : BtcHistory} (hstate : s.state = .refundable)
    (hlockup : r.btcUserLockupTxId = some lockup)
    (hbalance : 0 < r.btcUserLockupAddressBalanceSat) (hclaim : r.lbtcClaimTxId = none) :
    KeepsRefund (updateSwap bz s r liquidHeight bitcoinHeight grace).1.state ↔
      shouldSkipRecovery s r grace = true ∨ PairUnreadable bz s ∨ r.btcRefundTxId.isSome ∨
        isExpired s liquidHeight bitcoinHeight = true ∨ AmountRefused bz s r.btcUserLockupAmountSat := by
  have hkept := derivePartialState_keepsRefund hlockup hbalance hclaim
  rw [updateSwap_state, hstate]
  cases shouldSkipRecovery s r grace with
  | true => simp [keepsRefund_refundable]
  | false =>
      rw [if_neg Bool.false_ne_true, expectedAmounts]
      simp only [Bool.false_eq_true, false_or]
      by_cases hzero : s.payerAmountSat = 0
      · rw [if_pos hzero]
        -- the limits of the pair decide
        cases hpair : s.getBoltzPair bz with
        | error err =>
            have hunreadable : PairUnreadable bz s := by
              refine ⟨hzero, fun pair h => ?_⟩
              rw [hpair] at h
              cases h
            exact iff_of_true keepsRefund_refundable (.inl hunreadable)
        | ok pair =>
            have hunreadable : ¬ PairUnreadable bz s := fun h => h.2 pair hpair
            have hrefused : AmountRefused bz s r.btcUserLockupAmountSat ↔
                r.btcUserLockupAmountSat < pair.limits.minimal ∨
                  pair.limits.maximal < r.btcUserLockupAmountSat := by
              simp [AmountRefused, hzero, hpair]
            refine (hkept none (some pair.limits) _ _).trans ?_
            simp [hunreadable, hrefused]
      · rw [if_neg hzero]
        have hunreadable : ¬ PairUnreadable bz s := fun h => hzero h.1
        have hrefused : AmountRefused bz s r.btcUserLockupAmountSat ↔
            s.payerAmountSat ≠ r.btcUserLockupAmountSat := by
          simp [AmountRefused, hzero]
        refine (hkept (some s.payerAmountSat) none _ _).trans ?_
        simp [hunreadable, hrefused]

end ChainReceiveSwapHandler

/-! ## The three handlers together -/

/-- **When a refund decision is kept.** An incoming chain swap in `Refundable`, with a confirmed lockup
that is still in the balance of its address and without a claim, keeps the decision exactly if the handler
leaves it alone, the lockup was refunded, the swap is expired or its amount is refused. A send swap or an
outgoing chain swap in `RefundPending`, without a claim and a preimage, keeps it exactly if the handler
leaves it alone, sees no lockup or a refund, or the swap is expired. -/
theorem refund_kept_iff (bz : BoltzClient) (verifyPaymentHash : String → String → Bool) :
    (∀ (s : ChainSwap) (r : RecoveredOnchainDataChainReceive) liquidHeight bitcoinHeight grace lockup,
        s.direction = .incoming → s.state = .refundable → r.btcUserLockupTxId = some lockup →
        lockup.confirmed = true → 0 < r.btcUserLockupAddressBalanceSat → r.lbtcClaimTxId = none →
        (KeepsRefund (ChainReceiveSwapHandler.updateSwap bz s r liquidHeight bitcoinHeight
            grace).1.state ↔
          ChainReceiveSwapHandler.shouldSkipRecovery s r grace = true ∨
            ChainReceiveSwapHandler.PairUnreadable bz s ∨ r.btcRefundTxId.isSome ∨
            ChainReceiveSwapHandler.isExpired s liquidHeight bitcoinHeight = true ∨
            ChainReceiveSwapHandler.AmountRefused bz s r.btcUserLockupAmountSat)) ∧
      (∀ (s : SendSwap) (r : RecoveredOnchainDataSend) height grace,
        s.state = .refundPending → r.claimTxId = none → s.preimage = none → r.preimage = none →
        (KeepsRefund (SendSwapHandler.updateSwap verifyPaymentHash s r height grace).state ↔
          SeenRefunding (SendSwapHandler.shouldSkipRecovery s r grace) r.lockupTxId r.refundTxId
            (s.timeoutBlockHeight % 2 ^ 32 ≤ height))) ∧
      ∀ (s : ChainSwap) (r : RecoveredOnchainDataChainSend) liquidHeight bitcoinHeight grace,
        s.direction = .outgoing → s.state = .refundPending → r.btcClaimTxId = none →
        (KeepsRefund (ChainSendSwapHandler.updateSwap s r liquidHeight bitcoinHeight grace).state ↔
          SeenRefunding (ChainSendSwapHandler.shouldSkipRecovery s r grace) r.lbtcUserLockupTxId
            r.lbtcRefundTxId (ChainSendSwapHandler.isExpired s liquidHeight bitcoinHeight)) := by
  refine ⟨?_, ?_, ?_⟩
  · intro s r liquidHeight bitcoinHeight grace lockup _ hstate hlockup _ hbalance hclaim
    exact ChainReceiveSwapHandler.updateSwap_keepsRefund hstate hlockup hbalance hclaim
  · intro s r height grace hstate _ hstored hrecovered
    exact SendSwapHandler.updateSwap_keepsRefund hstate hstored hrecovered
  · intro s r liquidHeight bitcoinHeight grace _ hstate hclaim
    exact ChainSendSwapHandler.updateSwap_keepsRefund hstate hclaim

/-- A swap of 50000 sat that is refunded until height 100. -/
def refundableIncoming : ChainSwap where
  id := "s"
  direction := .incoming
  payerAmountSat := 50000
  timeoutBlockHeight := 100
  claimTimeoutBlockHeight := 100
  userLockupTxId := some "lockup"
  state := .refundable

/-- Its lockup, confirmed and unspent. -/
def unspentLockup : RecoveredOnchainDataChainReceive where
  lbtcServerLockupTxId := none
  lbtcClaimTxId := none
  lbtcClaimAddress := none
  btcUserLockupTxId := some ⟨"lockup", 50⟩
  btcUserLockupAddressBalanceSat := 50000
  btcUserLockupAmountSat := 50000
  btcRefundTxId := none

def refundPendingSend : SendSwap where
  id := "s"
  timeoutBlockHeight := 100
  lockupTxId := some "lockup"
  state := .refundPending

def refundPendingOutgoing : ChainSwap where
  id := "s"
  direction := .outgoing
  timeoutBlockHeight := 100
  claimTimeoutBlockHeight := 100
  userLockupTxId := some "lockup"
  state := .refundPending

/-- After the expiry the decisions stand. -/
theorem refund_kept_expired :
    KeepsRefund (ChainReceiveSwapHandler.updateSwap (.byAddress 0) refundableIncoming unspentLockup 100
        100 false).1.state ∧
      KeepsRefund (SendSwapHandler.updateSwap (fun _ _ => true) refundPendingSend
        ⟨some ⟨"lockup", 50⟩, none, none, none⟩ 100 false).state ∧
      KeepsRefund (ChainSendSwapHandler.updateSwap refundPendingOutgoing
        ⟨some ⟨"lockup", 50⟩, none, none, none⟩ 100 100 false).state := by
  obtain ⟨hincoming, hsend, houtgoing⟩ := refund_kept_iff (.byAddress 0) fun _ _ => true
  refine ⟨?_, ?_, ?_⟩
  · refine (hincoming refundableIncoming unspentLockup 100 100 false ⟨"lockup", 50⟩ rfl rfl rfl ?_ ?_
      rfl).mpr ?_
    · decide
    · decide
    · exact .inr (.inr (.inr (.inl (by decide))))
  · exact (hsend refundPendingSend _ 100 false rfl rfl rfl rfl).mpr (.inr (.inr (.inr (by decide))))
  · exact (houtgoing refundPendingOutgoing _ 100 100 false rfl rfl rfl).mpr
      (.inr (.inr (.inr (by decide))))

/-- Before the expiry all three are lost. -/
theorem refund_lost :
    (ChainReceiveSwapHandler.updateSwap (.byAddress 0) refundableIncoming unspentLockup 60 60
        false).1.state = .pending ∧
      (SendSwapHandler.updateSwap (fun _ _ => true) refundPendingSend
        ⟨some ⟨"lockup", 50⟩, none, none, none⟩ 60 false).state = .pending ∧
      (ChainSendSwapHandler.updateSwap refundPendingOutgoing
        ⟨some ⟨"lockup", 50⟩, none, none, none⟩ 60 60 false).state = .pending := by decide

end BreezLiquid.Recover
