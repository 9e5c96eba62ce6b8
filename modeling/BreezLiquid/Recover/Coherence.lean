/-
# BreezLiquid.Recover.Coherence — the ids that go with a state, after a recovery.

Each `update_swap` overwrites the ids with the recovered ones, also where none was recovered, and keeps the
state where none is derived. The state derived is one the recovered ids go with; the state that is kept may have
lost its ids. For the four handlers it is said here exactly when it has not.
-/
import BreezLiquid.Recover.LockedFunds

namespace BreezLiquid.Recover

/-- What goes with a state: what completes a swap, the user's lockup of a swap that waits for its refund, and for
an outgoing payment also of a pending one. -/
structure Supported (outgoing : Bool) (state : PaymentState) (completed lockup : Prop) : Prop where
  complete : state = .complete → completed
  refundPending : state = .refundPending → lockup
  pending : outgoing = true → state = .pending → lockup

/-- The states that go with nothing. -/
theorem Supported.failed {outgoing : Bool} {completed lockup : Prop} :
    Supported outgoing .failed completed lockup where
  complete h := by cases h
  refundPending h := by cases h
  pending _ h := by cases h

/-- With the lockup every state goes, but the complete one. -/
theorem Supported.of_lockup {outgoing : Bool} {state : PaymentState} {completed lockup : Prop} (h : lockup)
    (hcomplete : state = .complete → completed) : Supported outgoing state completed lockup where
  complete := hcomplete
  refundPending _ := h
  pending _ _ := h

/-- A derived state that goes with the new ids: then only a kept state can lack them. -/
theorem supported_getD_iff {outgoing : Bool} {derived : Option PaymentState} {kept : PaymentState}
    {completed lockup : Prop} (hderived : ∀ state, derived = some state → Supported outgoing state completed lockup) :
    Supported outgoing (derived.getD kept) completed lockup ↔
      derived.isSome ∨ Supported outgoing kept completed lockup := by
  cases derived with
  | none =>
      rw [Option.getD_none]
      simp
  | some state =>
      rw [Option.getD_some]
      constructor
      · intro _
        exact .inl rfl
      · intro _
        exact hderived state rfl

/-- Without the lockup, a state that needs none. -/
theorem supported_of_no_lockup {outgoing : Bool} {state : PaymentState} {completed lockup : Prop} (h : ¬ lockup) :
    Supported outgoing state completed lockup ↔
      (state = .complete → completed) ∧ state ≠ .refundPending ∧ ¬ (outgoing = true ∧ state = .pending) := by
  constructor
  · intro hsupported
    refine ⟨hsupported.complete, ?_, ?_⟩
    · intro hstate
      exact h (hsupported.refundPending hstate)
    · rintro ⟨houtgoing, hstate⟩
      exact h (hsupported.pending houtgoing hstate)
  · rintro ⟨hcomplete, hrefund, hpending⟩
    refine ⟨hcomplete, ?_, ?_⟩
    · intro hstate
      exact absurd hstate hrefund
    · intro houtgoing hstate
      exact absurd ⟨houtgoing, hstate⟩ hpending

/-! ## Send swaps -/

namespace SendSwapHandler

/-- A complete swap has its preimage, or the swapper has claimed it; a pending one and one that waits for its refund
have their lockup. -/
def Coherent (s : SendSwap) (swapperClaimed : Prop) : Prop :=
  Supported true s.state (s.preimage.isSome ∨ swapperClaimed) s.lockupTxId.isSome

/-- The swap is left alone, or its lockup was recovered, or it is expired, or it needs no lockup. -/
def IdsKept (s : SendSwap) (r : RecoveredOnchainDataSend) (height : Nat) (grace : Bool) : Prop :=
  shouldSkipRecovery s r grace = true ∨ r.lockupTxId.isSome ∨ s.timeoutBlockHeight % 2 ^ 32 ≤ height ∨
    (s.state ≠ .pending ∧ s.state ≠ .refundPending)

/-- What is derived is supported by what was found, in all four handlers ... -/
theorem derivePartialState_supported {r : RecoveredOnchainDataSend} {preimage : Option String} {expired : Bool}
    {state : PaymentState} {swapperClaimed : Prop} (h : derivePartialState r preimage expired = some state) :
    Supported true state (preimage.isSome ∨ swapperClaimed) r.lockupTxId.isSome := by
  unfold derivePartialState at h
  cases hlockup : r.lockupTxId with
  | none =>
      rw [hlockup] at h
      cases expired with
      | true =>
          cases h
          exact .failed
      | false => cases h
  | some lockup =>
      refine .of_lockup rfl ?_
      rintro rfl
      rw [hlockup] at h
      cases preimage with
      | some p => exact .inl rfl
      | none =>
          dsimp only at h
          split at h
          · split at h <;> cases h
          · split at h <;> cases h

/-- ... and something is derived from a lockup or an expiry. -/
theorem derivePartialState_isSome {r : RecoveredOnchainDataSend} {preimage : Option String} {expired : Bool} :
    (derivePartialState r preimage expired).isSome ↔ r.lockupTxId.isSome ∨ expired = true := by
  unfold derivePartialState
  cases r.lockupTxId with
  | none => cases expired <;> simp
  | some lockup =>
      simp only [Option.isSome_some, true_or, iff_true]
      split
      · rfl
      · split
        · split <;> rfl
        · split <;> rfl

theorem knownPreimage_isSome {verifyPaymentHash : String → String → Bool} {s : SendSwap} {recovered : Option String}
    (h : s.preimage.isSome) : (knownPreimage verifyPaymentHash s recovered).isSome := by
  unfold knownPreimage
  split
  · split
    · rfl
    · exact h
  · exact h

/-- The preimage is the one that was known or is recovered. -/
theorem updateSwap_preimage {verifyPaymentHash : String → String → Bool} {s : SendSwap}
    {r : RecoveredOnchainDataSend} {height : Nat} {grace : Bool} (h : ¬ shouldSkipRecovery s r grace = true) :
    (updateSwap verifyPaymentHash s r height grace).preimage = knownPreimage verifyPaymentHash s r.preimage := by
  rw [updateSwap_eq, if_neg h]
  split <;> rfl

/-- So an update keeps a send swap coherent exactly if it keeps the ids the state rests on. -/
theorem updateSwap_coherent_iff {verifyPaymentHash : String → String → Bool} {s : SendSwap}
    {r : RecoveredOnchainDataSend} {height : Nat} {grace : Bool} {swapperClaimed : Prop}
    (h : Coherent s swapperClaimed) :
    Coherent (updateSwap verifyPaymentHash s r height grace) swapperClaimed ↔ IdsKept s r height grace := by
  by_cases hskip : shouldSkipRecovery s r grace = true
  · rw [updateSwap_eq, if_pos hskip]
    exact iff_of_true h (.inl hskip)
  · have hfunds := updateSwap_funds verifyPaymentHash s r height grace
    rw [if_neg hskip, Prod.mk.injEq] at hfunds
    obtain ⟨hstate, hlockup⟩ := hfunds
    unfold Coherent IdsKept
    rw [hstate, hlockup, updateSwap_preimage hskip, Option.isSome_map, or_iff_right hskip]
    rw [supported_getD_iff fun state hderived => derivePartialState_supported hderived, derivePartialState_isSome,
      decide_eq_true_iff, or_assoc]
    by_cases hfound : r.lockupTxId.isSome = true
    · exact iff_of_true (.inl hfound) (.inl hfound)
    · -- the preimage of a complete swap stays
      have hcomplete : s.state = .complete →
          (knownPreimage verifyPaymentHash s r.preimage).isSome ∨ swapperClaimed := by
        intro hstate
        rcases h.complete hstate with hpreimage | hclaimed
        · exact .inl (knownPreimage_isSome hpreimage)
        · exact .inr hclaimed
      rw [supported_of_no_lockup hfound]
      constructor
      · rintro (hlockup | hexpired | ⟨-, hrefund, hpending⟩)
        · exact .inl hlockup
        · exact .inr (.inl hexpired)
        · exact .inr (.inr ⟨fun hstate => hpending ⟨rfl, hstate⟩, hrefund⟩)
      · rintro (hlockup | hexpired | ⟨hpending, hrefund⟩)
        · exact .inl hlockup
        · exact .inr (.inl hexpired)
        · exact .inr (.inr ⟨hcomplete, hrefund, fun hstate => hpending hstate.2⟩)

end SendSwapHandler

/-! ## Receive swaps -/

namespace ReceiveSwapHandler

/-- A complete swap has its claim, or the payment to the routing-hint address. The lockup is the swapper's. -/
def Coherent (s : ReceiveSwap) : Prop :=
  s.state = .complete → s.claimTxId.isSome ∨ s.mrhTxId.isSome

/-- The swap is left alone, or something was recovered for it, or it is expired, or it is not complete. -/
def IdsKept (s : ReceiveSwap) (r : RecoveredOnchainDataReceive) (height : Nat) (grace : Bool) : Prop :=
  shouldSkipRecovery s r grace = true ∨ r.lockupTxId.isSome ∨ r.mrhTxId.isSome ∨ r.claimTxId.isSome ∨
    s.timeoutBlockHeight ≤ height ∨ s.state ≠ .complete

/-- A complete receive swap has a claim or an MRH payment. -/
theorem derivePartialState_complete {r : RecoveredOnchainDataReceive} {expired : Bool}
    (h : derivePartialState r expired = some .complete) : r.claimTxId.isSome ∨ r.mrhTxId.isSome := by
  unfold derivePartialState at h
  cases hclaim : r.claimTxId with
  | some claim => exact .inl rfl
  | none =>
      cases hmrh : r.mrhTxId with
      | some mrh => exact .inr rfl
      | none =>
          rw [hclaim, hmrh] at h
          cases hlockup : r.lockupTxId <;> rw [hlockup] at h <;> cases expired <;> cases h

theorem derivePartialState_isSome {r : RecoveredOnchainDataReceive} {expired : Bool} :
    (derivePartialState r expired).isSome ↔ r.lockupTxId.isSome ∨ r.mrhTxId.isSome ∨ expired = true := by
  unfold derivePartialState
  cases r.lockupTxId with
  | some lockup =>
      simp only [Option.isSome_some, true_or, iff_true]
      split
      · split <;> rfl
      · split <;> rfl
  | none =>
      cases r.mrhTxId with
      | some mrh =>
          simp only [Option.isSome_some, true_or, or_true, iff_true]
          split <;> rfl
      | none => cases expired <;> simp

theorem updateSwap_fields {s : ReceiveSwap} {r : RecoveredOnchainDataReceive} {height : Nat} {grace : Bool}
    (h : ¬ shouldSkipRecovery s r grace = true) :
    (updateSwap s r height grace).state = (derivePartialState r (s.timeoutBlockHeight ≤ height)).getD s.state ∧
      (updateSwap s r height grace).claimTxId = r.claimTxId.map History.txid ∧
      (updateSwap s r height grace).mrhTxId = r.mrhTxId.map History.txid := by
  unfold updateSwap
  rw [if_neg h]
  dsimp only
  cases r.mrhAmountSat with
  | none =>
      cases derivePartialState r (s.timeoutBlockHeight ≤ height) with
      | none => exact ⟨rfl, rfl, rfl⟩
      | some state => exact ⟨rfl, rfl, rfl⟩
  | some amount =>
      cases derivePartialState r (s.timeoutBlockHeight ≤ height) with
      | none => exact ⟨rfl, rfl, rfl⟩
      | some state => exact ⟨rfl, rfl, rfl⟩

/-- Likewise for receive swaps ... -/
theorem updateSwap_coherent_iff {s : ReceiveSwap} {r : RecoveredOnchainDataReceive} {height : Nat} {grace : Bool}
    (h : Coherent s) : Coherent (updateSwap s r height grace) ↔ IdsKept s r height grace := by
  by_cases hskip : shouldSkipRecovery s r grace = true
  · have hsame : updateSwap s r height grace = s := by
      unfold updateSwap
      rw [if_pos hskip]
    rw [hsame]
    exact iff_of_true h (.inl hskip)
  · obtain ⟨hstate, hclaim, hmrh⟩ := @updateSwap_fields s r height grace hskip
    unfold Coherent IdsKept
    rw [hstate, hclaim, hmrh, Option.isSome_map, Option.isSome_map, or_iff_right hskip]
    cases hderived : derivePartialState r (s.timeoutBlockHeight ≤ height) with
    | some state =>
        have hsome := derivePartialState_isSome.mp (Option.isSome_of_eq_some hderived)
        rw [decide_eq_true_iff] at hsome
        refine iff_of_true ?_ ?_
        · rintro rfl
          exact derivePartialState_complete hderived
        · rcases hsome with hlockup | hmrh | hexpired
          · exact .inl hlockup
          · exact .inr (.inl hmrh)
          · exact .inr (.inr (.inr (.inl hexpired)))
    | none =>
        have hnone : ¬ (r.lockupTxId.isSome ∨ r.mrhTxId.isSome ∨ s.timeoutBlockHeight ≤ height) := by
          intro hsome
          have hexpired : decide (s.timeoutBlockHeight ≤ height) = true ↔ s.timeoutBlockHeight ≤ height :=
            decide_eq_true_iff
          rw [← hexpired, ← derivePartialState_isSome, hderived] at hsome
          cases hsome
        rw [Option.getD_none]
        by_cases hstate : s.state = .complete
        · simp only [hstate]
          tauto
        · refine iff_of_true (fun hcomplete => absurd hcomplete hstate) ?_
          exact .inr (.inr (.inr (.inr hstate)))

end ReceiveSwapHandler

/-! ## Outgoing chain swaps -/

namespace ChainSendSwapHandler

/-- A complete swap has its claim; a pending one and one that waits for its refund have the user's lockup. -/
def Coherent (s : ChainSwap) : Prop :=
  Supported true s.state s.claimTxId.isSome s.userLockupTxId.isSome

/-- The swap is left alone, or its lockup was recovered, or it is expired, or it needs no lockup, and if it is
complete the claim was recovered. -/
def IdsKept (s : ChainSwap) (r : RecoveredOnchainDataChainSend) (liquidHeight bitcoinHeight : Nat)
    (grace : Bool) : Prop :=
  shouldSkipRecovery s r grace = true ∨ r.lbtcUserLockupTxId.isSome ∨
    isExpired s liquidHeight bitcoinHeight = true ∨
    ((s.state = .complete → r.btcClaimTxId.isSome) ∧ s.state ≠ .refundPending ∧ s.state ≠ .pending)

theorem derivePartialState_supported {r : RecoveredOnchainDataChainSend} {expired : Bool} {state : PaymentState}
    (h : derivePartialState r expired = some state) :
    Supported true state r.btcClaimTxId.isSome r.lbtcUserLockupTxId.isSome := by
  unfold derivePartialState at h
  cases hlockup : r.lbtcUserLockupTxId with
  | none =>
      rw [hlockup] at h
      cases expired with
      | true =>
          cases h
          exact .failed
      | false => cases h
  | some lockup =>
      refine .of_lockup rfl ?_
      rintro rfl
      rw [hlockup] at h
      cases hclaim : r.btcClaimTxId with
      | some claim => rfl
      | none =>
          rw [hclaim] at h
          cases hrefund : r.lbtcRefundTxId with
          | none =>
              rw [hrefund] at h
              cases expired <;> cases h
          | some refund =>
              rw [hrefund] at h
              dsimp only at h
              split at h <;> cases h

theorem derivePartialState_isSome {r : RecoveredOnchainDataChainSend} {expired : Bool} :
    (derivePartialState r expired).isSome ↔ r.lbtcUserLockupTxId.isSome ∨ expired = true := by
  unfold derivePartialState
  cases r.lbtcUserLockupTxId with
  | none => cases expired <;> simp
  | some lockup =>
      simp only [Option.isSome_some, true_or, iff_true]
      split
      · split <;> rfl
      · split <;> rfl
      · split
        · split <;> rfl
        · rfl
      · split <;> rfl

theorem updateSwap_claimTxId {s : ChainSwap} {r : RecoveredOnchainDataChainSend} {liquidHeight bitcoinHeight : Nat}
    {grace : Bool} (h : ¬ shouldSkipRecovery s r grace = true) :
    (updateSwap s r liquidHeight bitcoinHeight grace).claimTxId = r.btcClaimTxId.map History.txid := by
  unfold updateSwap
  rw [if_neg h]

/-- ... for outgoing chain swaps ... -/
theorem updateSwap_coherent_iff {s : ChainSwap} {r : RecoveredOnchainDataChainSend}
    {liquidHeight bitcoinHeight : Nat} {grace : Bool} (h : Coherent s) :
    Coherent (updateSwap s r liquidHeight bitcoinHeight grace) ↔
      IdsKept s r liquidHeight bitcoinHeight grace := by
  by_cases hskip : shouldSkipRecovery s r grace = true
  · have hsame : updateSwap s r liquidHeight bitcoinHeight grace = s := by
      unfold updateSwap
      rw [if_pos hskip]
    rw [hsame]
    exact iff_of_true h (.inl hskip)
  · have hfunds := updateSwap_funds s r liquidHeight bitcoinHeight grace
    rw [if_neg hskip, Prod.mk.injEq] at hfunds
    obtain ⟨hstate, hlockup⟩ := hfunds
    unfold Coherent IdsKept
    rw [hstate, hlockup, updateSwap_claimTxId hskip, Option.isSome_map, Option.isSome_map, or_iff_right hskip]
    rw [supported_getD_iff fun state hderived => derivePartialState_supported hderived, derivePartialState_isSome,
      or_assoc]
    by_cases hfound : r.lbtcUserLockupTxId.isSome = true
    · exact iff_of_true (.inl hfound) (.inl hfound)
    · rw [supported_of_no_lockup hfound]
      simp only [true_and]

end ChainSendSwapHandler

/-! ## Incoming chain swaps -/

namespace ChainReceiveSwapHandler

/-- A complete swap has its claim; one that waits for its refund has the user's lockup. -/
def Coherent (s : ChainSwap) : Prop :=
  Supported false s.state s.claimTxId.isSome s.userLockupTxId.isSome

/-- The swap is left alone, or its pair cannot be read, or its lockup was recovered, or it is expired, or it does
not wait for its refund, and if it is complete the claim was recovered. -/
def IdsKept (bz : BoltzClient) (s : ChainSwap) (r : RecoveredOnchainDataChainReceive)
    (liquidHeight bitcoinHeight : Nat) (grace : Bool) : Prop :=
  shouldSkipRecovery s r grace = true ∨ PairUnreadable bz s ∨ r.btcUserLockupTxId.isSome ∨
    isExpired s liquidHeight bitcoinHeight = true ∨
    ((s.state = .complete → r.lbtcClaimTxId.isSome) ∧ s.state ≠ .refundPending)

theorem derivePartialState_supported {r : RecoveredOnchainDataChainReceive} {expected : Option Nat}
    {limits : Option PairLimits} {expired waiting : Bool} {state : PaymentState}
    (h : derivePartialState r expected limits expired waiting = some state) :
    Supported false state r.lbtcClaimTxId.isSome r.btcUserLockupTxId.isSome := by
  unfold derivePartialState at h
  cases hlockup : r.btcUserLockupTxId with
  | none =>
      rw [hlockup] at h
      cases expired with
      | true =>
          cases h
          exact .failed
      | false => cases h
  | some lockup =>
      refine .of_lockup rfl ?_
      rintro rfl
      rw [hlockup] at h
      cases hclaim : r.lbtcClaimTxId with
      | some claim => rfl
      | none =>
          rw [hclaim] at h
          cases hrefund : r.btcRefundTxId with
          | none =>
              rw [hrefund] at h
              dsimp only at h
              split at h
              · cases h
              · split at h <;> cases h
          | some refund =>
              rw [hrefund] at h
              dsimp only at h
              split at h
              · split at h <;> cases h
              · cases h

theorem derivePartialState_isSome {r : RecoveredOnchainDataChainReceive} {expected : Option Nat}
    {limits : Option PairLimits} {expired waiting : Bool} :
    (derivePartialState r expected limits expired waiting).isSome ↔
      r.btcUserLockupTxId.isSome ∨ expired = true := by
  unfold derivePartialState
  cases r.btcUserLockupTxId with
  | none => cases expired <;> simp
  | some lockup =>
      simp only [Option.isSome_some, true_or, iff_true]
      split
      · split
        · split <;> rfl
        · rfl
      · split
        · split <;> rfl
        · rfl
      · split
        · split
          · split <;> rfl
          · rfl
        · rfl
      · split
        · rfl
        · split <;> rfl

theorem expectedAmounts_error {bz : BoltzClient} {s : ChainSwap} :
    (∃ err, expectedAmounts bz s = .error err) ↔ PairUnreadable bz s := by
  unfold expectedAmounts PairUnreadable
  by_cases hzero : s.payerAmountSat = 0
  · rw [if_pos hzero]
    cases s.getBoltzPair bz with
    | error err =>
        refine iff_of_true ⟨err, rfl⟩ ⟨hzero, ?_⟩
        intro pair h
        cases h
    | ok pair =>
        refine iff_of_false ?_ ?_
        · rintro ⟨err, h⟩
          cases h
        · rintro ⟨-, h⟩
          exact h pair rfl
  · rw [if_neg hzero]
    refine iff_of_false ?_ fun h => hzero h.1
    rintro ⟨err, h⟩
    cases h

/-- The ids are overwritten unless the pair cannot be read. -/
theorem updateSwap_ids {bz : BoltzClient} {s : ChainSwap} {r : RecoveredOnchainDataChainReceive}
    {liquidHeight bitcoinHeight : Nat} {grace : Bool} (h : ¬ shouldSkipRecovery s r grace = true) :
    ((updateSwap bz s r liquidHeight bitcoinHeight grace).1.claimTxId,
        (updateSwap bz s r liquidHeight bitcoinHeight grace).1.userLockupTxId) =
      match expectedAmounts bz s with
      | .error _ => (s.claimTxId, s.userLockupTxId)
      | .ok _ => (r.lbtcClaimTxId.map History.txid, r.btcUserLockupTxId.map History.txid) := by
  -- the actual payer amount is no part of what decides
  have hpaid : ∀ s', s' = s ∨ s' = { s with actualPayerAmountSat := some r.btcUserLockupAmountSat } →
      expectedAmounts bz s' = expectedAmounts bz s ∧ s'.claimTxId = s.claimTxId ∧
        s'.userLockupTxId = s.userLockupTxId := by
    rintro s' (rfl | rfl)
    · exact ⟨rfl, rfl, rfl⟩
    · exact ⟨rfl, rfl, rfl⟩
  unfold updateSwap
  rw [if_neg h]
  generalize hs' : (if 0 < r.btcUserLockupAmountSat
    then { s with actualPayerAmountSat := some r.btcUserLockupAmountSat } else s) = s'
  have hcases : s' = s ∨ s' = { s with actualPayerAmountSat := some r.btcUserLockupAmountSat } := by
    rw [← hs']
    split
    · exact .inr rfl
    · exact .inl rfl
  obtain ⟨hexpected, hclaim, hlockup⟩ := hpaid s' hcases
  rw [← hexpected, ← hclaim, ← hlockup]
  unfold expectedAmounts
  dsimp only
  cases (if s'.payerAmountSat = 0 then (s'.getBoltzPair bz).map fun pair => (none, some pair.limits)
    else .ok (some s'.payerAmountSat, none) : Except Err (Option Nat × Option PairLimits)) with
  | error err => rfl
  | ok amounts => rfl

/-- ... and for incoming ones, unless their pair cannot be read. -/
theorem updateSwap_coherent_iff {bz : BoltzClient} {s : ChainSwap} {r : RecoveredOnchainDataChainReceive}
    {liquidHeight bitcoinHeight : Nat} {grace : Bool} (h : Coherent s) :
    Coherent (updateSwap bz s r liquidHeight bitcoinHeight grace).1 ↔
      IdsKept bz s r liquidHeight bitcoinHeight grace := by
  have hstate := @updateSwap_state bz s r liquidHeight bitcoinHeight grace
  by_cases hskip : shouldSkipRecovery s r grace = true
  · have hsame : updateSwap bz s r liquidHeight bitcoinHeight grace = (s, .ok ()) := by
      unfold updateSwap
      rw [if_pos hskip]
    rw [hsame]
    exact iff_of_true h (.inl hskip)
  · have hids := @updateSwap_ids bz s r liquidHeight bitcoinHeight grace hskip
    rw [if_neg hskip] at hstate
    unfold Coherent IdsKept
    rw [or_iff_right hskip, ← expectedAmounts_error]
    cases hamounts : expectedAmounts bz s with
    | error err =>
        rw [hamounts] at hstate hids
        obtain ⟨hclaim, hlockup⟩ := Prod.mk.inj hids
        rw [hstate, hclaim, hlockup]
        exact iff_of_true h (.inl ⟨err, rfl⟩)
    | ok amounts =>
        rw [hamounts] at hstate hids
        obtain ⟨hclaim, hlockup⟩ := Prod.mk.inj hids
        have hread : ¬ ∃ err, (.ok amounts : Except Err (Option Nat × Option PairLimits)) = .error err := by
          rintro ⟨err, herror⟩
          cases herror
        rw [hstate, hclaim, hlockup, Option.isSome_map, Option.isSome_map, or_iff_right hread]
        rw [supported_getD_iff fun state hderived => derivePartialState_supported hderived,
          derivePartialState_isSome, or_assoc]
        by_cases hfound : r.btcUserLockupTxId.isSome = true
        · exact iff_of_true (.inl hfound) (.inl hfound)
        · rw [supported_of_no_lockup hfound]
          simp only [Bool.false_eq_true, false_and, not_false_eq_true, and_true]

end ChainReceiveSwapHandler

/-! ## The four handlers together -/

/-- For every row that has the ids its state goes with, all recovered data and all heights: it has them after the
recovery exactly if the handler did not keep a state whose ids it cleared. -/
theorem coherent_iff_idsKept (bz : BoltzClient) (verifyPaymentHash : String → String → Bool) :
    (∀ (s : SendSwap) (r : RecoveredOnchainDataSend) height grace (swapperClaimed : Prop),
        SendSwapHandler.Coherent s swapperClaimed →
        (SendSwapHandler.Coherent (SendSwapHandler.updateSwap verifyPaymentHash s r height grace) swapperClaimed ↔
          SendSwapHandler.IdsKept s r height grace)) ∧
      (∀ (s : ReceiveSwap) (r : RecoveredOnchainDataReceive) height grace, ReceiveSwapHandler.Coherent s →
        (ReceiveSwapHandler.Coherent (ReceiveSwapHandler.updateSwap s r height grace) ↔
          ReceiveSwapHandler.IdsKept s r height grace)) ∧
      (∀ (s : ChainSwap) (r : RecoveredOnchainDataChainSend) liquidHeight bitcoinHeight grace,
        ChainSendSwapHandler.Coherent s →
        (ChainSendSwapHandler.Coherent (ChainSendSwapHandler.updateSwap s r liquidHeight bitcoinHeight grace) ↔
          ChainSendSwapHandler.IdsKept s r liquidHeight bitcoinHeight grace)) ∧
      ∀ (s : ChainSwap) (r : RecoveredOnchainDataChainReceive) liquidHeight bitcoinHeight grace,
        ChainReceiveSwapHandler.Coherent s →
        (ChainReceiveSwapHandler.Coherent
            (ChainReceiveSwapHandler.updateSwap bz s r liquidHeight bitcoinHeight grace).1 ↔
          ChainReceiveSwapHandler.IdsKept bz s r liquidHeight bitcoinHeight grace) := by
  refine ⟨?_, ?_, ?_, ?_⟩
  · intro s r height grace swapperClaimed h
    exact SendSwapHandler.updateSwap_coherent_iff h
  · intro s r height grace h
    exact ReceiveSwapHandler.updateSwap_coherent_iff h
  · intro s r liquidHeight bitcoinHeight grace h
    exact ChainSendSwapHandler.updateSwap_coherent_iff h
  · intro s r liquidHeight bitcoinHeight grace h
    exact ChainReceiveSwapHandler.updateSwap_coherent_iff h

/-- A complete routing-hint payment, and the user's side of an incoming chain swap that waits for its refund. -/
def paidReceive : ReceiveSwap where
  id := "r"
  mrhTxId := some "payment"
  timeoutBlockHeight := 300
  state := .complete

def refundingIncoming : ChainSwap where
  id := "s"
  direction := .incoming
  userLockupTxId := some "lockup"
  refundTxId := some "refund"
  payerAmountSat := 1000
  timeoutBlockHeight := 300
  claimTimeoutBlockHeight := 300
  state := .refundPending

/-- Nothing is recovered of any of them. -/
def nothingSend : RecoveredOnchainDataSend := ⟨none, none, none, none⟩
def nothingReceive : RecoveredOnchainDataReceive := ⟨none, none, none, none⟩
def nothingChainSend : RecoveredOnchainDataChainSend := ⟨none, none, none, none⟩
def nothingChainReceive : RecoveredOnchainDataChainReceive := ⟨none, none, none, none, 0, 0, none⟩

/-- With the lockup expired, or soon after their last update, the four are left with what they need. -/
theorem coherent_kept :
    SendSwapHandler.Coherent (SendSwapHandler.updateSwap (fun _ _ => true) lockedSend nothingSend 200 false) False ∧
      ReceiveSwapHandler.Coherent (ReceiveSwapHandler.updateSwap paidReceive nothingReceive 300 false) ∧
      ChainSendSwapHandler.Coherent (ChainSendSwapHandler.updateSwap lockedOutgoing nothingChainSend 50 50 true) ∧
      ChainReceiveSwapHandler.Coherent
        (ChainReceiveSwapHandler.updateSwap (.byAddress 0) refundingIncoming nothingChainReceive 200 200 true).1 := by
  obtain ⟨hsend, hreceive, houtgoing, hincoming⟩ := coherent_iff_idsKept (.byAddress 0) fun _ _ => true
  refine ⟨(hsend _ _ _ _ _ ?_).mpr ?_, (hreceive _ _ _ _ ?_).mpr ?_, (houtgoing _ _ _ _ _ ?_).mpr ?_,
    (hincoming _ _ _ _ _ ?_).mpr ?_⟩
  · exact .of_lockup rfl fun h => by cases h
  · exact .inr (.inr (.inl (by decide)))
  · exact fun _ => .inr rfl
  · exact .inr (.inr (.inr (.inr (.inl (by decide)))))
  · exact .of_lockup rfl fun h => by cases h
  · exact .inl rfl
  · exact .of_lockup rfl fun h => by cases h
  · exact .inl rfl

/-- Before the expiry, and with an older row, all four keep their state and lose the ids it goes with. -/
theorem coherent_lost :
    (SendSwapHandler.Coherent lockedSend False ∧
      SendSwapHandler.updateSwap (fun _ _ => true) lockedSend nothingSend 50 false =
        { lockedSend with lockupTxId := none }) ∧
      (ReceiveSwapHandler.Coherent paidReceive ∧
        ReceiveSwapHandler.updateSwap paidReceive nothingReceive 50 false = { paidReceive with mrhTxId := none }) ∧
      (ChainSendSwapHandler.Coherent lockedOutgoing ∧
        ChainSendSwapHandler.updateSwap lockedOutgoing nothingChainSend 50 50 false =
          { lockedOutgoing with userLockupTxId := none }) ∧
      (ChainReceiveSwapHandler.Coherent refundingIncoming ∧
        (ChainReceiveSwapHandler.updateSwap (.byAddress 0) refundingIncoming nothingChainReceive 50 50 false).1 =
          { refundingIncoming with userLockupTxId := none, refundTxId := none }) ∧
      ¬ SendSwapHandler.Coherent { lockedSend with lockupTxId := none } False ∧
      ¬ ReceiveSwapHandler.Coherent { paidReceive with mrhTxId := none } ∧
      ¬ ChainSendSwapHandler.Coherent { lockedOutgoing with userLockupTxId := none } ∧
      ¬ ChainReceiveSwapHandler.Coherent
        { refundingIncoming with userLockupTxId := none, refundTxId := none } := by
  refine ⟨⟨?_, rfl⟩, ⟨?_, rfl⟩, ⟨?_, rfl⟩, ⟨?_, rfl⟩, ?_, ?_, ?_, ?_⟩
  · exact .of_lockup rfl fun h => by cases h
  · exact fun _ => .inr rfl
  · exact .of_lockup rfl fun h => by cases h
  · exact .of_lockup rfl fun h => by cases h
  · intro h
    exact absurd (h.pending rfl rfl) Bool.false_ne_true
  · intro h
    exact absurd (h rfl) (by decide)
  · intro h
    exact absurd (h.pending rfl rfl) Bool.false_ne_true
  · intro h
    exact absurd (h.refundPending rfl) Bool.false_ne_true

end BreezLiquid.Recover
