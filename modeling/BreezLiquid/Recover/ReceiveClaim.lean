/-
# BreezLiquid.Recover.ReceiveClaim — when recovery sees the claim of a receive swap.

The claim is told from the lockup by its place in the history of the claim script, after what was confirmed from
the timeout on is dropped. So a late claim is not seen, and neither is one among more than two transactions.

`EndsClaimed` is the outcome, read off from the recovered swap. `ClaimSeen` is the condition, read off from the history
and the stored swap. `endsClaimed_iff` says that they agree for every context. Its two instances are one swap whose
claim confirmed before the timeout, and the same with a later claim.
-/
import BreezLiquid.Recover.Recoverer
import BreezLiquid.Recover.Monotone

namespace BreezLiquid.Recover

open Collections

/-! ## The claim of an incoming swap -/

/-- The entry that is taken for the claim: the first of two that the wallet has received. -/
def TakenForClaim (txMap : TxMap) (history : List LBtcHistory) (entry : LBtcHistory) : Prop :=
  txMap.isIncoming entry.txid = true ∧ ∃ other, history = [entry, other] ∨
    (history = [other, entry] ∧ txMap.isIncoming other.txid = false)

theorem determineIncoming_claim {history : List LBtcHistory} {txMap : TxMap} {entry : LBtcHistory} :
    (determineIncomingLockupAndClaimTxs history txMap).2 = some entry ↔ TakenForClaim txMap history entry := by
  unfold TakenForClaim
  match history with
  | [] => simp [determineIncomingLockupAndClaimTxs]
  | [only] => simp [determineIncomingLockupAndClaimTxs]
  | _ :: _ :: _ :: _ => simp [determineIncomingLockupAndClaimTxs]
  | [first, second] =>
      rw [determineIncoming_pair]
      by_cases hfirst : txMap.isIncoming first.txid = true
      · rw [if_pos hfirst]
        constructor
        · intro h
          cases h
          exact ⟨hfirst, second, .inl rfl⟩
        · rintro ⟨-, other, heq | ⟨heq, hother⟩⟩
          · cases heq
            rfl
          · cases heq
            rw [hfirst] at hother
            cases hother
      · rw [if_neg hfirst]
        by_cases hsecond : txMap.isIncoming second.txid = true
        · rw [if_pos hsecond]
          constructor
          · intro h
            cases h
            exact ⟨hsecond, first, .inr ⟨rfl, Bool.not_eq_true _ ▸ hfirst⟩⟩
          · rintro ⟨hentry, other, heq | ⟨heq, -⟩⟩
            · cases heq
              exact absurd hentry hfirst
            · cases heq
              rfl
        · rw [if_neg hsecond]
          constructor
          · intro h
            split at h
            · cases h
            · split at h <;> cases h
          · rintro ⟨hentry, other, heq | ⟨heq, -⟩⟩
            · cases heq
              exact absurd hentry hfirst
            · cases heq
              exact absurd hentry hsecond

namespace ReceiveSwapHandler

variable {bz : BoltzClient} {context : ReceiveOrSendSwapRecoveryContext} {swap : ReceiveSwap}

/-- The timeout height as it is compared with heights. -/
def timeoutHeight (swap : ReceiveSwap) : Int := (swap.timeoutBlockHeight : Int).bmod (2 ^ 32)

/-- What is left of the history of the claim script. -/
def seenHistory (context : ReceiveOrSendSwapRecoveryContext) (swap : ReceiveSwap) (script : Script) :
    List LBtcHistory :=
  ((context.lbtcScriptToHistoryMap.lookup script).getD []).filter fun h => h.height < timeoutHeight swap

/-- The swap is left with the claim, and complete. -/
def EndsClaimed (bz : BoltzClient) (context : ReceiveOrSendSwapRecoveryContext) (swap : ReceiveSwap)
    (isWithinGracePeriod : Bool) (claim : LBtcHistory) : Prop :=
  (recoverSwap bz context swap isWithinGracePeriod).1.claimTxId = some claim.txid ∧
    (recoverSwap bz context swap isWithinGracePeriod).1.state = .complete

/-- Below the timeout there are two entries, and the confirmed claim is the first of them that the wallet has
received; or there is no claim to be seen, but the swap has it and is left alone. -/
def ClaimSeen (context : ReceiveOrSendSwapRecoveryContext) (swap : ReceiveSwap) (script : Script)
    (isWithinGracePeriod : Bool) (claim : LBtcHistory) : Prop :=
  (∃ entry, TakenForClaim context.txMap (seenHistory context swap script) entry ∧ entry.txid = claim.txid ∧
    entry.confirmed = true) ∨
  ((∀ entry, ¬ TakenForClaim context.txMap (seenHistory context swap script) entry) ∧
    isWithinGracePeriod = true ∧ swap.claimTxId = some claim.txid ∧ swap.state = .complete)

/-- The recovered claim is the one that is taken for it in the history. -/
theorem recoverOnchainData_claim {history : ReceiveSwapHistory} {swapTimestamp receiverAmountSat : Nat}
    {lbtcAssetId : AssetId} {txMap : TxMap} :
    (recoverOnchainData txMap history swapTimestamp receiverAmountSat lbtcAssetId).claimTxId =
      (determineIncomingLockupAndClaimTxs history.lbtcClaimScriptHistory txMap).2 := by
  unfold recoverOnchainData
  dsimp only
  cases hlockup : (determineIncomingLockupAndClaimTxs history.lbtcClaimScriptHistory txMap).1 with
  | some lockup => rfl
  | none => exact (determineIncoming_snd_of_fst txMap _ hlockup).symm

theorem recoverOnchainData_lockup {history : ReceiveSwapHistory} {swapTimestamp receiverAmountSat : Nat}
    {lbtcAssetId : AssetId} {txMap : TxMap} :
    (recoverOnchainData txMap history swapTimestamp receiverAmountSat lbtcAssetId).lockupTxId =
      (determineIncomingLockupAndClaimTxs history.lbtcClaimScriptHistory txMap).1 := by
  unfold recoverOnchainData
  dsimp only
  cases (determineIncomingLockupAndClaimTxs history.lbtcClaimScriptHistory txMap).1 <;> rfl

/-- A swap with a recovered claim is complete when it is confirmed, and pending before. -/
theorem updateSwap_claimed {r : RecoveredOnchainDataReceive} {entry lockup : LBtcHistory} {height : Nat} {grace : Bool}
    (hclaim : r.claimTxId = some entry) (hlockup : r.lockupTxId = some lockup) :
    (updateSwap swap r height grace).claimTxId = some entry.txid ∧
      (updateSwap swap r height grace).state = if entry.confirmed then .complete else .pending := by
  have hskip : shouldSkipRecovery swap r grace = false := by
    unfold shouldSkipRecovery
    rw [hclaim]
    simp
  have hstate : ∀ expired, derivePartialState r expired = some (if entry.confirmed then .complete else .pending) := by
    intro expired
    unfold derivePartialState
    rw [hlockup, hclaim]
    dsimp only
    split <;> rfl
  unfold updateSwap
  rw [hskip, if_neg (by decide)]
  dsimp only
  rw [hstate, hclaim]
  cases r.mrhAmountSat with
  | none => exact ⟨rfl, rfl⟩
  | some amount => exact ⟨rfl, rfl⟩

/-- Without a recovered claim the swap has none, unless it is left alone. -/
theorem updateSwap_unclaimed {r : RecoveredOnchainDataReceive} {height : Nat} {grace : Bool} {claimTxId : TxId}
    (hclaim : r.claimTxId = none) (h : (updateSwap swap r height grace).claimTxId = some claimTxId) :
    grace = true ∧ updateSwap swap r height grace = swap := by
  by_cases hskip : shouldSkipRecovery swap r grace = true
  · have hgrace : grace = true := by
      unfold shouldSkipRecovery at hskip
      exact (Bool.and_eq_true_iff.mp hskip).1
    refine ⟨hgrace, ?_⟩
    unfold updateSwap
    rw [if_pos hskip]
  · exfalso
    unfold updateSwap at h
    rw [if_neg hskip, hclaim] at h
    dsimp only at h
    split at h <;> cases h

/-- For every history of the claim script, every transaction map and all heights: the recovery leaves the swap
complete, with the transaction for its claim, exactly if that claim is seen. -/
theorem endsClaimed_iff {script : Script} {claim : LBtcHistory} {isWithinGracePeriod : Bool}
    (hscript : swap.claimScript bz = .ok script) :
    EndsClaimed bz context swap isWithinGracePeriod claim ↔
      ClaimSeen context swap script isWithinGracePeriod claim := by
  -- a swap with a claim script has a history, so the swap is updated from what is recovered of it
  obtain ⟨history, hhistory, hseen⟩ : ∃ h, history bz context swap = .ok h ∧
      h.lbtcClaimScriptHistory = seenHistory context swap script := by
    unfold history
    rw [hscript]
    exact ⟨_, rfl, rfl⟩
  let r := recoverOnchainData context.txMap history swap.createdAt swap.receiverAmountSat context.lbtcAssetId
  have hrecover : (recoverSwap bz context swap isWithinGracePeriod).1 =
      updateSwap swap r context.liquidTipHeight isWithinGracePeriod := by
    unfold recoverSwap
    rw [hhistory]
  have hrclaim : ∀ entry, r.claimTxId = some entry ↔
      TakenForClaim context.txMap (seenHistory context swap script) entry := by
    intro entry
    rw [← hseen, ← determineIncoming_claim, ← recoverOnchainData_claim]
  have hrlockup : r.lockupTxId = none → r.claimTxId = none := by
    intro hnone
    rw [recoverOnchainData_lockup] at hnone
    rw [recoverOnchainData_claim]
    exact determineIncoming_snd_of_fst _ _ hnone
  unfold EndsClaimed ClaimSeen
  rw [hrecover]
  cases hclaim : r.claimTxId with
  | none =>
      have hnone : ∀ entry, ¬ TakenForClaim context.txMap (seenHistory context swap script) entry := by
        intro entry htaken
        rw [(hrclaim entry).mpr htaken] at hclaim
        cases hclaim
      constructor
      · -- nothing is recovered: the swap has the claim only if it had it before
        rintro ⟨hid, hstate⟩
        obtain ⟨hgrace, hsame⟩ := updateSwap_unclaimed hclaim hid
        rw [hsame] at hid hstate
        exact .inr ⟨hnone, hgrace, hid, hstate⟩
      · rintro (⟨entry, htaken, -⟩ | ⟨-, hgrace, hid, hstate⟩)
        · exact absurd htaken (hnone entry)
        · have hskip : shouldSkipRecovery swap r isWithinGracePeriod = true := by
            unfold shouldSkipRecovery
            rw [hclaim, hid, hgrace]
            rfl
          unfold updateSwap
          rw [if_pos hskip]
          exact ⟨hid, hstate⟩
  | some entry =>
      obtain ⟨lockup, hlockup⟩ : ∃ lockup, r.lockupTxId = some lockup := by
        cases hlockup : r.lockupTxId with
        | some lockup => exact ⟨lockup, rfl⟩
        | none =>
            rw [hrlockup hlockup] at hclaim
            cases hclaim
      -- the recovered claim is recorded, and the state goes by whether it is confirmed
      obtain ⟨hid, hstate⟩ : (updateSwap swap r context.liquidTipHeight isWithinGracePeriod).claimTxId =
            some entry.txid ∧
          (updateSwap swap r context.liquidTipHeight isWithinGracePeriod).state =
            if entry.confirmed then .complete else .pending := updateSwap_claimed hclaim hlockup
      have htaken := (hrclaim entry).mp hclaim
      rw [hid, hstate]
      constructor
      · rintro ⟨hsame, hcomplete⟩
        refine .inl ⟨entry, htaken, Option.some.inj hsame, ?_⟩
        by_contra hunconfirmed
        rw [if_neg hunconfirmed] at hcomplete
        cases hcomplete
      · rintro (⟨entry', htaken', hsame, hentry⟩ | ⟨hnone, -⟩)
        · have heq := (hrclaim entry').mpr htaken'
          rw [hclaim] at heq
          cases heq
          rw [hsame, if_pos hentry]
          exact ⟨rfl, rfl⟩
        · exact absurd htaken (hnone entry)

/-- A pending swap with timeout height 100, whose claim is broadcast and not recorded. -/
def claimedSwap : ReceiveSwap where
  id := "r"
  createResponseJson := "script"
  timeoutBlockHeight := 100
  state := .pending

/-- The lockup confirmed at height 90, and the claim at the given one. -/
def claimedContext (claimHeight : Int) : ReceiveOrSendSwapRecoveryContext where
  lbtcScriptToHistoryMap := .ofList [("script", [⟨"lockup", 90⟩, ⟨"claim", claimHeight⟩])]
  txMap := .fromRawTxMap (transactionsByTxId [{ txid := "claim", balance := .ofList [("lbtc", 1000)] }])
  liquidTipHeight := 105
  lbtcAssetId := "lbtc"

/-- A claim confirmed below the timeout height is seen. -/
theorem endsClaimed_before :
    EndsClaimed (.byAddress 0) (claimedContext 95) claimedSwap false ⟨"claim", 95⟩ := by
  refine (@endsClaimed_iff (.byAddress 0) (claimedContext 95) claimedSwap "script" ⟨"claim", 95⟩ false rfl).mpr ?_
  exact .inl ⟨⟨"claim", 95⟩, ⟨by decide, ⟨"lockup", 90⟩, .inr ⟨by decide, by decide⟩⟩, rfl, by decide⟩

/-- Confirmed at the timeout height it is not: the lockup is all there is, and the swap fails. -/
theorem endsClaimed_late :
    ⟨"claim", 100⟩ ∈ ((claimedContext 100).lbtcScriptToHistoryMap.lookup "script").getD [] ∧
      (claimedContext 100).txMap.isIncoming "claim" = true ∧ (⟨"claim", 100⟩ : LBtcHistory).confirmed = true ∧
      ¬ EndsClaimed (.byAddress 0) (claimedContext 100) claimedSwap false ⟨"claim", 100⟩ ∧
      (recoverSwap (.byAddress 0) (claimedContext 100) claimedSwap false).1 =
        { claimedSwap with state := .failed, lockupTxId := some "lockup" } := by
  have hfailed : (recoverSwap (.byAddress 0) (claimedContext 100) claimedSwap false).1 =
      { claimedSwap with state := .failed, lockupTxId := some "lockup" } := by rfl
  refine ⟨by decide, by decide, by decide, ?_, hfailed⟩
  rintro ⟨-, hstate⟩
  rw [hfailed] at hstate
  cases hstate

end ReceiveSwapHandler

end BreezLiquid.Recover
