/-
# BreezLiquid.Recover.LockedFunds — when a recovery gives up on a lockup.

The recovery of a send swap and of an outgoing chain swap finds the lockup in the script history by asking
the wallet which entries are its own outgoing transactions. A wallet that has not caught up knows none, and
then an expired swap becomes `Failed` and a stored lockup id is cleared, although the history has an unspent
lockup. The module says exactly when this does not happen.
-/
import BreezLiquid.Recover.RefundDecision
import BreezLiquid.Recover.Task

namespace BreezLiquid.Recover

open Interleaving

/-! ## The lockup in the history -/

/-- What the transactions of a chain do: which of them fund a script, which spend another one there. -/
structure Ledger where
  funds : Script → TxId → Prop
  spends : Script → TxId → TxId → Prop

/-- The history has a transaction that funds the script and that no other one of it spends. -/
def Ledger.Unspent (ledger : Ledger) (script : Script) (history : List LBtcHistory) : Prop :=
  ∃ h ∈ history, ledger.funds script h.txid ∧
    ∀ h' ∈ history, h'.txid ≠ h.txid → ¬ ledger.spends script h'.txid h.txid

/-- The wallet knows an entry of the history as an outgoing transaction. -/
def LockupSeen (txMap : TxMap) (history : List LBtcHistory) : Prop :=
  ∃ h ∈ history, txMap.isOutgoing h.txid = true

/-- The first incoming transaction of the wallet in the history is confirmed. -/
def RefundConfirmed (txMap : TxMap) (history : List LBtcHistory) : Prop :=
  ∃ h, history.find? (fun h => txMap.isIncoming h.txid) = some h ∧ h.confirmed = true

/-- The wallet knows an entry of the history as an incoming transaction. -/
def RefundSeen (txMap : TxMap) (history : List LBtcHistory) : Prop :=
  ∃ h ∈ history, txMap.isIncoming h.txid = true

/-- Not failed, and a stored lockup id is still there. -/
def KeepsFunds (stored : Option TxId) (state : PaymentState) (lockup : Option TxId) : Prop :=
  state ≠ .failed ∧ (stored.isSome → lockup.isSome)

/-- The lockup is found if one of the transactions is known to be ours ... -/
theorem find?_isSome_iff_lockupSeen (txMap : TxMap) (history : List LBtcHistory) :
    (history.find? fun tx => txMap.isOutgoing tx.txid).isSome ↔ LockupSeen txMap history := by
  rw [List.find?_isSome]
  rfl

/-- ... and the refund if one of them came back. -/
theorem find?_isSome_iff_refundSeen (txMap : TxMap) (history : List LBtcHistory) :
    (history.find? fun tx => txMap.isIncoming tx.txid).isSome ↔ RefundSeen txMap history := by
  rw [List.find?_isSome]
  rfl

/-- What happens to the funds, by whether the lockup was found; `gaveUp` and `expired` say what the derived
state is then. -/
theorem keepsFunds_iff {stored : Option TxId} {found : Option LBtcHistory} {old derived : PaymentState}
    {gaveUp expired : Prop} (hfound : found.isSome → (derived = .failed ↔ gaveUp))
    (hmissing : found = none → (derived = .failed ↔ expired ∨ old = .failed)) :
    KeepsFunds stored derived (found.map History.txid) ↔
      (found.isSome ∧ ¬ gaveUp) ∨ (found = none ∧ stored = none ∧ ¬ expired ∧ old ≠ .failed) := by
  unfold KeepsFunds
  rcases found with _ | lockup
  · have hfailed := hmissing rfl
    rw [Ne, hfailed]
    rcases stored with _ | txId
    · simp
    · simp
  · have hfailed := hfound rfl
    rw [Ne, hfailed]
    simp

/-- An id is stored that the recovery does not see. -/
def Unseen (stored : Option TxId) (seen : Prop) : Prop := stored.isSome ∧ ¬ seen

/-- When a recovery does not give up on a lockup: the handler leaves the swap alone and it is not failed;
or the wallet knows the lockup, and nothing speaks for a refund; or it does not, but there is no id to
clear and the swap is neither expired nor failed. -/
def HoldsOn (leftAlone seen gaveUp expired : Prop) (stored : Option TxId) (old : PaymentState) : Prop :=
  (leftAlone ∧ old ≠ .failed) ∨
    (¬ leftAlone ∧ ((seen ∧ ¬ gaveUp) ∨ (¬ seen ∧ stored = none ∧ ¬ expired ∧ old ≠ .failed)))

/-- The argument both handlers share: what the update comes to, from what it derives and what it skips. -/
theorem keepsFunds_iff_holdsOn {leftAlone gaveUp expired : Prop} {skip : Bool} {txMap : TxMap}
    {history : List LBtcHistory} {stored : Option TxId} {found : Option LBtcHistory}
    {old derived state : PaymentState} {lockup : Option TxId}
    (hskip : skip = true ↔ leftAlone)
    (hfound : found = history.find? fun tx => txMap.isOutgoing tx.txid)
    (hsome : found.isSome → (derived = .failed ↔ gaveUp))
    (hnone : found = none → (derived = .failed ↔ expired ∨ old = .failed))
    (hafter : (state, lockup) =
      if skip then (old, stored) else (derived, found.map History.txid)) :
    KeepsFunds stored state lockup ↔
      HoldsOn leftAlone (LockupSeen txMap history) gaveUp expired stored old := by
  have hseen : found.isSome ↔ LockupSeen txMap history := by
    rw [hfound]
    exact find?_isSome_iff_lockupSeen txMap history
  unfold HoldsOn
  rw [← hskip, ← hseen]
  cases skip with
  | true =>
      rw [if_pos rfl] at hafter
      obtain ⟨rfl, rfl⟩ := Prod.mk.inj hafter
      simp [KeepsFunds]
  | false =>
      rw [if_neg Bool.false_ne_true] at hafter
      obtain ⟨rfl, rfl⟩ := Prod.mk.inj hafter
      rw [keepsFunds_iff hsome hnone]
      simp

/-! ## Send swaps -/

namespace SendSwapHandler

/-- The preimage of the swap after the recovery: a recovered one, if it pays the invoice. -/
def knownPreimage (verifyPaymentHash : String → String → Bool) (s : SendSwap)
    (recovered : Option String) : Option String :=
  match recovered with
  | some preimage => if verifyPaymentHash preimage s.invoice then some preimage else s.preimage
  | none => s.preimage

/-- The swap in the first half of `update_swap`: with the recovered ids and the preimage. -/
def withRecovered (verifyPaymentHash : String → String → Bool) (s : SendSwap)
    (r : RecoveredOnchainDataSend) : SendSwap :=
  { s with
    lockupTxId := r.lockupTxId.map History.txid
    refundTxId := r.refundTxId.map History.txid
    preimage := knownPreimage verifyPaymentHash s r.preimage }

theorem updateSwap_eq (verifyPaymentHash : String → String → Bool) (s : SendSwap)
    (r : RecoveredOnchainDataSend) (height : Nat) (grace : Bool) :
    updateSwap verifyPaymentHash s r height grace =
      if shouldSkipRecovery s r grace then s
      else
        match derivePartialState r (knownPreimage verifyPaymentHash s r.preimage)
          (s.timeoutBlockHeight % 2 ^ 32 ≤ height) with
        | some newState => { withRecovered verifyPaymentHash s r with state := newState }
        | none => withRecovered verifyPaymentHash s r := by
  unfold updateSwap withRecovered knownPreimage
  rcases r.preimage with _ | preimage
  · rfl
  · dsimp only
    generalize verifyPaymentHash preimage s.invoice = verified
    cases verified
    · rfl
    · rfl

/-- A send swap after its update: its state and its lockup. -/
theorem updateSwap_funds (verifyPaymentHash : String → String → Bool) (s : SendSwap)
    (r : RecoveredOnchainDataSend) (height : Nat) (grace : Bool) :
    ((updateSwap verifyPaymentHash s r height grace).state,
        (updateSwap verifyPaymentHash s r height grace).lockupTxId) =
      if shouldSkipRecovery s r grace then (s.state, s.lockupTxId)
      else ((derivePartialState r (knownPreimage verifyPaymentHash s r.preimage)
        (s.timeoutBlockHeight % 2 ^ 32 ≤ height)).getD s.state, r.lockupTxId.map History.txid) := by
  rw [updateSwap_eq]
  split
  · rfl
  · rcases derivePartialState r (knownPreimage verifyPaymentHash s r.preimage)
      (s.timeoutBlockHeight % 2 ^ 32 ≤ height) with _ | newState
    · rfl
    · rfl

/-- With a lockup, it fails if the refund is confirmed and no preimage is known ... -/
theorem derivePartialState_failed {r : RecoveredOnchainDataSend} (hfound : r.lockupTxId.isSome)
    (preimage : Option String) (isExpired : Bool) (old : PaymentState) :
    (derivePartialState r preimage isExpired).getD old = .failed ↔
      preimage = none ∧ ∃ h, r.refundTxId = some h ∧ h.confirmed = true := by
  obtain ⟨lockup, hlockup⟩ := Option.isSome_iff_exists.mp hfound
  unfold derivePartialState
  rw [hlockup]
  rcases preimage with _ | preimage
  · rcases r.refundTxId with _ | refund
    · cases isExpired <;> simp
    · cases hconfirmed : refund.confirmed <;> simp [hconfirmed]
  · simp

/-- ... and without one, if it has expired or had failed before. -/
theorem derivePartialState_missing {r : RecoveredOnchainDataSend} (hmissing : r.lockupTxId = none)
    (preimage : Option String) (isExpired : Bool) (old : PaymentState) :
    (derivePartialState r preimage isExpired).getD old = .failed ↔
      isExpired = true ∨ old = .failed := by
  unfold derivePartialState
  rw [hmissing]
  cases isExpired <;> simp

/-- The preimage `recover_preimage` ends with, or none. -/
def fetchedPreimage (sdk : Sdk) (ans : Nat → (q : Call) → q.Answer) (claimTxId : Option LBtcHistory)
    (s : SendSwap) (w : Nat × World) : Option String :=
  match ((recoverPreimage sdk claimTxId s.id).run (World.effect sdk) ans w).1 with
  | .ok preimage => preimage
  | .error _ => none

/-- The preimage is looked for where the swap has none. -/
theorem withPreimage_run (sdk : Sdk) (ans : Nat → (q : Call) → q.Answer) (s : SendSwap)
    (r : RecoveredOnchainDataSend) (w : Nat × World) :
    ∃ r' w', (withPreimage sdk s r).run (World.effect sdk) ans w = (.ok r', w') ∧
      r'.lockupTxId = r.lockupTxId ∧ r'.refundTxId = r.refundTxId ∧
      r'.preimage = if r.lockupTxId.isSome && s.preimage.isNone
        then (fetchedPreimage sdk ans r.claimTxId s w).or r.preimage else r.preimage := by
  unfold withPreimage fetchedPreimage
  split
  · rw [Task.bind_eq, Task.run_bind, Task.run_attempt]
    dsimp only
    rcases (Task.run (World.effect sdk) ans (recoverPreimage sdk r.claimTxId s.id) w).1 with
      err | preimage
    · exact ⟨_, _, rfl, rfl, rfl, rfl⟩
    · rcases preimage with _ | preimage
      · exact ⟨_, _, rfl, rfl, rfl, rfl⟩
      · exact ⟨_, _, rfl, rfl, rfl, rfl⟩
  · exact ⟨r, w, rfl, rfl, rfl, rfl⟩

/-- A preimage that pays the invoice is stored, or is found by the recovery. -/
def PreimageKnown (sdk : Sdk) (ans : Nat → (q : Call) → q.Answer) (claimTxId : Option LBtcHistory)
    (s : SendSwap) (w : Nat × World) : Prop :=
  s.preimage.isSome ∨ ∃ preimage, fetchedPreimage sdk ans claimTxId s w = some preimage ∧
    sdk.verifyPaymentHash preimage s.invoice = true

/-- With the lockup found, the preimage after the recovery is the known one. -/
theorem knownPreimage_eq_none {sdk : Sdk} {ans : Nat → (q : Call) → q.Answer}
    {claimTxId : Option LBtcHistory} {s : SendSwap} {w : Nat × World} :
    knownPreimage sdk.verifyPaymentHash s (if s.preimage.isNone
        then (fetchedPreimage sdk ans claimTxId s w).or none else none) = none ↔
      ¬ PreimageKnown sdk ans claimTxId s w := by
  unfold knownPreimage PreimageKnown
  rcases hstored : s.preimage with _ | stored
  · rcases fetchedPreimage sdk ans claimTxId s w with _ | preimage
    · simp
    · cases hverified : sdk.verifyPaymentHash preimage s.invoice
      · simp [hverified]
      · simp [hverified]
  · simp

/-- What the handler goes by when it leaves a recently updated swap alone. -/
def LeftAlone (txMap : TxMap) (history : List LBtcHistory) (s : SendSwap) (grace : Bool) : Prop :=
  grace = true ∧ (Unseen s.lockupTxId (LockupSeen txMap history) ∨
    Unseen s.refundTxId (RefundSeen txMap history))

theorem shouldSkipRecovery_iff {txMap : TxMap} {history : List LBtcHistory} {s : SendSwap}
    {r : RecoveredOnchainDataSend} (grace : Bool)
    (hlockup : r.lockupTxId = history.find? fun tx => txMap.isOutgoing tx.txid)
    (hrefund : r.refundTxId = history.find? fun tx => txMap.isIncoming tx.txid) :
    shouldSkipRecovery s r grace = true ↔ LeftAlone txMap history s grace := by
  have hseen := find?_isSome_iff_lockupSeen txMap history
  have hrefunded := find?_isSome_iff_refundSeen txMap history
  rw [← hlockup] at hseen
  rw [← hrefund] at hrefunded
  unfold shouldSkipRecovery LeftAlone Unseen
  rw [← hseen, ← hrefunded]
  simp

/-- **Recovery of a send swap.** -/
theorem recoverSwap_keepsFunds (sdk : Sdk) (ans : Nat → (q : Call) → q.Answer)
    {context : ReceiveOrSendSwapRecoveryContext} {s : SendSwap} {lbtcHistory : List LBtcHistory}
    (hhistory : history sdk.bz context s = .ok lbtcHistory) (grace : Bool) (w : Nat × World) :
    ∃ s' w', (recoverSwap sdk context s grace).run (World.effect sdk) ans w = (.ok (s', .ok ()), w') ∧
      (KeepsFunds s.lockupTxId s'.state s'.lockupTxId ↔
        HoldsOn (LeftAlone context.txMap lbtcHistory s grace) (LockupSeen context.txMap lbtcHistory)
          (RefundConfirmed context.txMap lbtcHistory ∧ ¬ PreimageKnown sdk ans
            (recoverOnchainData context.txMap lbtcHistory).claimTxId s w)
          (s.timeoutBlockHeight % 2 ^ 32 ≤ context.liquidTipHeight) s.lockupTxId s.state) := by
  obtain ⟨r, w', hrun, hlockup, hrefund, hpreimage⟩ :=
    withPreimage_run sdk ans s (recoverOnchainData context.txMap lbtcHistory) w
  refine ⟨updateSwap sdk.verifyPaymentHash s r context.liquidTipHeight grace, w', ?_, ?_⟩
  · unfold recoverSwap
    rw [hhistory]
    dsimp only
    rw [Task.bind_eq, Task.run_bind, hrun]
    rfl
  · refine keepsFunds_iff_holdsOn (shouldSkipRecovery_iff grace hlockup hrefund) hlockup ?_ ?_
      (updateSwap_funds sdk.verifyPaymentHash s r context.liquidTipHeight grace)
    · intro hfound
      rw [derivePartialState_failed hfound, hrefund, and_comm]
      rw [hlockup] at hfound
      rw [hfound, Bool.true_and] at hpreimage
      refine and_congr Iff.rfl ?_
      rw [hpreimage]
      exact knownPreimage_eq_none
    · intro hmissing
      rw [derivePartialState_missing hmissing, decide_eq_true_iff]

end SendSwapHandler

/-! ## Outgoing chain swaps -/

namespace ChainSendSwapHandler

/-- The Bitcoin script has a lockup and a claim. -/
def ClaimSeen (btcHistory : List BtcHistory) (btcTxs : List BtcTransaction) : Prop :=
  btcHistory.length = 2 ∧ btcTxs ≠ []

/-- The claim of an outgoing swap, as the history shows it. -/
theorem btcClaimTxId_isSome (txMap : TxMap) (history : SendChainSwapHistory) (claimScript : Script) :
    (recoverOnchainData txMap history claimScript).btcClaimTxId.isSome ↔
      ClaimSeen history.btcClaimScriptHistory history.btcClaimScriptTxs := by
  unfold recoverOnchainData ClaimSeen
  rcases history.btcClaimScriptHistory with _ | ⟨first, _ | ⟨second, _ | ⟨third, rest⟩⟩⟩
  · simp
  · simp
  · rcases history.btcClaimScriptTxs with _ | ⟨tx, txs⟩
    · simp
    · cases hpays : pays claimScript tx
      · simp [hpays]
      · simp [hpays]
  · simp

/-- It fails if the refund is confirmed and nothing was claimed ... -/
theorem derivePartialState_failed {r : RecoveredOnchainDataChainSend}
    (hfound : r.lbtcUserLockupTxId.isSome) (isExpired : Bool) (old : PaymentState) :
    (derivePartialState r isExpired).getD old = .failed ↔
      (∃ h, r.lbtcRefundTxId = some h ∧ h.confirmed = true) ∧ ¬ r.btcClaimTxId.isSome := by
  obtain ⟨lockup, hlockup⟩ := Option.isSome_iff_exists.mp hfound
  unfold derivePartialState
  rw [hlockup]
  rcases r.btcClaimTxId with _ | claim
  · rcases r.lbtcRefundTxId with _ | refund
    · cases isExpired <;> simp
    · cases hconfirmed : refund.confirmed <;> simp [hconfirmed]
  · rcases r.lbtcRefundTxId with _ | refund
    · cases hconfirmed : claim.confirmed <;> simp [hconfirmed]
    · cases hconfirmed : claim.confirmed
      · simp [hconfirmed]
      · cases hrefunded : refund.confirmed <;> simp [hconfirmed, hrefunded]

/-- ... or, without a lockup, as a send swap does. -/
theorem derivePartialState_missing {r : RecoveredOnchainDataChainSend}
    (hmissing : r.lbtcUserLockupTxId = none) (isExpired : Bool) (old : PaymentState) :
    (derivePartialState r isExpired).getD old = .failed ↔ isExpired = true ∨ old = .failed := by
  unfold derivePartialState
  rw [hmissing]
  cases isExpired <;> simp

/-- An outgoing swap after its update. -/
theorem updateSwap_funds (s : ChainSwap) (r : RecoveredOnchainDataChainSend)
    (liquidHeight bitcoinHeight : Nat) (grace : Bool) :
    ((updateSwap s r liquidHeight bitcoinHeight grace).state,
        (updateSwap s r liquidHeight bitcoinHeight grace).userLockupTxId) =
      if shouldSkipRecovery s r grace then (s.state, s.userLockupTxId)
      else ((derivePartialState r (isExpired s liquidHeight bitcoinHeight)).getD s.state,
        r.lbtcUserLockupTxId.map History.txid) := by
  have hstate : (updateSwap s r liquidHeight bitcoinHeight grace).state =
      if shouldSkipRecovery s r grace then s.state
      else (derivePartialState r (isExpired s liquidHeight bitcoinHeight)).getD s.state :=
    updateSwap_state
  have hlockup : (updateSwap s r liquidHeight bitcoinHeight grace).userLockupTxId =
      if shouldSkipRecovery s r grace then s.userLockupTxId
      else r.lbtcUserLockupTxId.map History.txid := by
    unfold updateSwap
    split
    · rfl
    · rfl
  rw [hstate, hlockup]
  split
  · rfl
  · rfl

/-- The histories of the swap's scripts. -/
def scriptHistory (bz : BoltzClient) (context : ChainSwapRecoveryContext) (s : ChainSwap)
    (lockupScript : Script) : SendChainSwapHistory where
  lbtcLockupScriptHistory := (context.lbtcScriptToHistoryMap.lookup lockupScript).getD []
  btcClaimScriptHistory :=
    ((claimScript bz s).toOption.bind fun script => context.btcScriptToHistoryMap.lookup script).getD []
  btcClaimScriptTxs :=
    ((claimScript bz s).toOption.bind fun script => context.btcScriptToTxsMap.lookup script).getD []

/-- What the handler goes by when it leaves a swap alone: it cannot read the claim script, or the swap was
updated recently and an id would be cleared. -/
def LeftAlone (bz : BoltzClient) (txMap : TxMap) (history : SendChainSwapHistory) (s : ChainSwap)
    (grace : Bool) : Prop :=
  (∃ err, claimScript bz s = .error err) ∨
    grace = true ∧ (Unseen s.userLockupTxId (LockupSeen txMap history.lbtcLockupScriptHistory) ∨
      Unseen s.refundTxId (RefundSeen txMap history.lbtcLockupScriptHistory) ∨
      Unseen s.claimTxId (ClaimSeen history.btcClaimScriptHistory history.btcClaimScriptTxs))

theorem shouldSkipRecovery_iff {bz : BoltzClient} (txMap : TxMap) (history : SendChainSwapHistory)
    {script : Script} {s : ChainSwap} (hreadable : claimScript bz s = .ok script) (grace : Bool) :
    shouldSkipRecovery s (recoverOnchainData txMap history script) grace = true ↔
      LeftAlone bz txMap history s grace := by
  have hseen := find?_isSome_iff_lockupSeen txMap history.lbtcLockupScriptHistory
  have hrefunded := find?_isSome_iff_refundSeen txMap history.lbtcLockupScriptHistory
  have hclaimed := btcClaimTxId_isSome txMap history script
  unfold shouldSkipRecovery LeftAlone Unseen
  rw [← hseen, ← hrefunded, ← hclaimed, hreadable]
  simp [recoverOnchainData, or_assoc]

/-- **Recovery of an outgoing chain swap.** -/
theorem recoverSwap_keepsFunds (bz : BoltzClient) {context : ChainSwapRecoveryContext} {s : ChainSwap}
    {script : Script} (hscript : lockupScript bz s = .ok script) (grace : Bool) :
    KeepsFunds s.userLockupTxId (recoverSwap bz context s grace).1.state
        (recoverSwap bz context s grace).1.userLockupTxId ↔
      HoldsOn (LeftAlone bz context.txMap (scriptHistory bz context s script) s grace)
        (LockupSeen context.txMap (scriptHistory bz context s script).lbtcLockupScriptHistory)
        (RefundConfirmed context.txMap (scriptHistory bz context s script).lbtcLockupScriptHistory ∧
          ¬ ClaimSeen (scriptHistory bz context s script).btcClaimScriptHistory
            (scriptHistory bz context s script).btcClaimScriptTxs)
        (isExpired s context.liquidTipHeight context.bitcoinTipHeight = true) s.userLockupTxId
        s.state := by
  rcases hclaim : claimScript bz s with err | claim
  · -- the recovery fails, and the swap is as it was
    have hleft : LeftAlone bz context.txMap (scriptHistory bz context s script) s grace :=
      .inl ⟨err, hclaim⟩
    have hrun : recoverSwap bz context s grace = (s, .error err) := by
      unfold recoverSwap recoveredData
      rw [hclaim]
      rfl
    rw [hrun]
    simp [KeepsFunds, HoldsOn, hleft]
  · generalize hr : recoverOnchainData context.txMap (scriptHistory bz context s script) claim = r
    have hdata : recoveredData bz context s = .ok r := by
      unfold recoveredData
      rw [hclaim, hscript, ← hr]
      unfold scriptHistory
      rw [hclaim]
      rfl
    have hrun : recoverSwap bz context s grace =
        (updateSwap s r context.liquidTipHeight context.bitcoinTipHeight grace, .ok ()) := by
      unfold recoverSwap
      rw [hdata]
    have hskip := shouldSkipRecovery_iff context.txMap (scriptHistory bz context s script) hclaim grace
    have hclaimed := btcClaimTxId_isSome context.txMap (scriptHistory bz context s script) claim
    rw [hr] at hskip hclaimed
    rw [hrun]
    refine keepsFunds_iff_holdsOn hskip (hr ▸ rfl) ?_ ?_ (updateSwap_funds s r _ _ grace)
    · intro hfound
      rw [derivePartialState_failed hfound, hclaimed, ← hr]
      rfl
    · intro hmissing
      exact derivePartialState_missing hmissing _ _

end ChainSendSwapHandler

/-! ## Both handlers together -/

/-- **When a recovery does not give up on locked funds.** For a send swap or an outgoing chain swap whose
script history has an unspent lockup, the recovery leaves the swap not failed, with a stored lockup id in
place, exactly if `HoldsOn`: the handler leaves the swap alone, or the wallet knows the lockup and there
is no confirmed refund that nothing outweighs, or there is no id to clear and the swap is not expired. -/
theorem lockedFunds_kept_iff (sdk : Sdk) (ledger : Ledger) :
    (∀ (ans : Nat → (q : Call) → q.Answer) (w : Nat × World)
        (context : ReceiveOrSendSwapRecoveryContext) (s : SendSwap) (grace : Bool)
        (swapScript : SwapScript) (script : Script) (history : List LBtcHistory),
        s.getSwapScript sdk.bz = .ok swapScript → swapScript.fundingAddrs = some script →
        history = (context.lbtcScriptToHistoryMap.lookup script).getD [] →
        ledger.Unspent script history →
        ∃ s' w', (SendSwapHandler.recoverSwap sdk context s grace).run (World.effect sdk) ans w =
            (.ok (s', .ok ()), w') ∧
          (KeepsFunds s.lockupTxId s'.state s'.lockupTxId ↔
            HoldsOn (SendSwapHandler.LeftAlone context.txMap history s grace)
              (LockupSeen context.txMap history)
              (RefundConfirmed context.txMap history ∧ ¬ SendSwapHandler.PreimageKnown sdk ans
                (SendSwapHandler.recoverOnchainData context.txMap history).claimTxId s w)
              (s.timeoutBlockHeight % 2 ^ 32 ≤ context.liquidTipHeight) s.lockupTxId s.state)) ∧
      ∀ (context : ChainSwapRecoveryContext) (s : ChainSwap) (grace : Bool) (script : Script)
        (history : SendChainSwapHistory), s.direction = .outgoing →
        ChainSendSwapHandler.lockupScript sdk.bz s = .ok script →
        history = ChainSendSwapHandler.scriptHistory sdk.bz context s script →
        ledger.Unspent script history.lbtcLockupScriptHistory →
        (KeepsFunds s.userLockupTxId (ChainSendSwapHandler.recoverSwap sdk.bz context s grace).1.state
            (ChainSendSwapHandler.recoverSwap sdk.bz context s grace).1.userLockupTxId ↔
          HoldsOn (ChainSendSwapHandler.LeftAlone sdk.bz context.txMap history s grace)
            (LockupSeen context.txMap history.lbtcLockupScriptHistory)
            (RefundConfirmed context.txMap history.lbtcLockupScriptHistory ∧
              ¬ ChainSendSwapHandler.ClaimSeen history.btcClaimScriptHistory
                history.btcClaimScriptTxs)
            (ChainSendSwapHandler.isExpired s context.liquidTipHeight
              context.bitcoinTipHeight = true) s.userLockupTxId s.state) := by
  refine ⟨?_, ?_⟩
  · intro ans w context s grace swapScript script history hswap hscript hhistory _
    have hread : SendSwapHandler.history sdk.bz context s = .ok history := by
      unfold SendSwapHandler.history
      rw [hswap, hhistory]
      show (okOr swapScript.fundingAddrs _ >>= _ : Except Err (List LBtcHistory)) = _
      rw [hscript]
      rfl
    exact SendSwapHandler.recoverSwap_keepsFunds sdk ans hread grace w
  · intro context s grace script history _ hscript hhistory _
    rw [hhistory]
    exact ChainSendSwapHandler.recoverSwap_keepsFunds sdk.bz hscript grace

/-- Swaps with a lockup that expired at height 100. -/
def lockedSend : SendSwap where
  id := "s"
  createResponseJson := "script"
  lockupTxId := some "lockup"
  timeoutBlockHeight := 100
  state := .pending

def lockedOutgoing : ChainSwap where
  id := "s"
  direction := .outgoing
  createResponseJson := "script"
  userLockupTxId := some "lockup"
  timeoutBlockHeight := 100
  claimTimeoutBlockHeight := 100
  state := .pending

def recoverySdk : Sdk where
  bz := .byAddress 0
  persister := { codec := .table fun _ => none }

/-- The lockup funds both scripts, and nothing spends it. -/
def unspentLedger : Ledger where
  funds script txId := (script = "script" ∨ script = "script-lockup") ∧ txId = "lockup"
  spends _ _ _ := False

/-- A wallet that has seen the lockup, and one that has not. -/
def lockupWallet (seen : Bool) : TxMap :=
  .fromRawTxMap <| transactionsByTxId <|
    if seen then [{ txid := "lockup", balance := .ofList [("lbtc", -1000)] }] else []

/-- Recovery at height 200. -/
def expiredSendContext (seen : Bool) : ReceiveOrSendSwapRecoveryContext where
  lbtcScriptToHistoryMap := .ofList [("script", [⟨"lockup", 10⟩])]
  txMap := lockupWallet seen
  liquidTipHeight := 200
  lbtcAssetId := "lbtc"

def expiredChainContext (seen : Bool) : ChainSwapRecoveryContext where
  lbtcScriptToHistoryMap := .ofList [("script-lockup", [⟨"lockup", 10⟩])]
  btcScriptToHistoryMap := ∅
  btcScriptToTxsMap := ∅
  btcScriptToBalanceMap := ∅
  txMap := lockupWallet seen
  addressFromScript _ := none
  liquidTipHeight := 200
  bitcoinTipHeight := 200

theorem unspentLedger_unspent {script : Script} (h : script = "script" ∨ script = "script-lockup") :
    unspentLedger.Unspent script [⟨"lockup", 10⟩] :=
  ⟨⟨"lockup", 10⟩, List.mem_cons_self, ⟨h, rfl⟩, fun _ _ _ hspends => hspends⟩

/-- With the lockup in the wallet, both swaps are kept for a refund. -/
theorem lockedFunds_kept_seen :
    (∃ s' w', (SendSwapHandler.recoverSwap recoverySdk (expiredSendContext true) lockedSend false).run
        (World.effect recoverySdk) (fun _ q => q.offline) (0, {}) = (.ok (s', .ok ()), w') ∧
      KeepsFunds (some "lockup") s'.state s'.lockupTxId) ∧
    KeepsFunds (some "lockup")
      (ChainSendSwapHandler.recoverSwap (.byAddress 0) (expiredChainContext true) lockedOutgoing
        false).1.state
      (ChainSendSwapHandler.recoverSwap (.byAddress 0) (expiredChainContext true) lockedOutgoing
        false).1.userLockupTxId := by
  obtain ⟨hsend, hchain⟩ := lockedFunds_kept_iff recoverySdk unspentLedger
  have hseen : LockupSeen (lockupWallet true) [⟨"lockup", 10⟩] :=
    ⟨⟨"lockup", 10⟩, List.mem_cons_self, by decide⟩
  have hrefund : ¬ RefundConfirmed (lockupWallet true) [⟨"lockup", 10⟩] := by
    rintro ⟨h, hfind, -⟩
    have hnone : [(⟨"lockup", 10⟩ : LBtcHistory)].find?
        (fun h => (lockupWallet true).isIncoming h.txid) = none := by decide
    rw [hnone] at hfind
    cases hfind
  refine ⟨?_, ?_⟩
  · obtain ⟨s', w', hrun, hiff⟩ := hsend (fun _ q => q.offline) (0, {}) (expiredSendContext true)
      lockedSend false ⟨some "script", some "script", .blocks 0⟩ "script" [⟨"lockup", 10⟩] rfl rfl rfl
      (unspentLedger_unspent (.inl rfl))
    exact ⟨s', w', hrun, hiff.mpr (.inr ⟨fun h => Bool.false_ne_true h.1,
      .inl ⟨hseen, fun h => hrefund h.1⟩⟩)⟩
  · refine (hchain (expiredChainContext true) lockedOutgoing false "script-lockup" _ rfl rfl rfl
      (unspentLedger_unspent (.inr rfl))).mpr (.inr ⟨?_, .inl ⟨hseen, fun h => hrefund h.1⟩⟩)
    rintro (⟨err, herr⟩ | hgrace)
    · cases herr
    · exact Bool.false_ne_true hgrace.1

/-- With a wallet that has not caught up, both fail and lose their lockup ids. -/
theorem lockedFunds_lost :
    (unspentLedger.Unspent "script" [⟨"lockup", 10⟩] ∧
      ((SendSwapHandler.recoverSwap recoverySdk (expiredSendContext false) lockedSend false).run
        (World.effect recoverySdk) (fun _ q => q.offline) (0, {})).1 =
          .ok ({ lockedSend with state := .failed, lockupTxId := none }, .ok ())) ∧
    unspentLedger.Unspent "script-lockup" [⟨"lockup", 10⟩] ∧
      (ChainSendSwapHandler.recoverSwap (.byAddress 0) (expiredChainContext false) lockedOutgoing
        false).1 = { lockedOutgoing with state := .failed, userLockupTxId := none } := by
  refine ⟨⟨unspentLedger_unspent (.inl rfl), ?_⟩, unspentLedger_unspent (.inr rfl), ?_⟩
  · rfl
  · rfl

end BreezLiquid.Recover
