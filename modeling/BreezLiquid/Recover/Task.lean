/-
# BreezLiquid.Recover.Task — `recover_from_onchain` with its calls.

The services are asked for the tips, the wallet's transactions and the script histories; what they answer
goes through the maps of `BreezLiquid.Recover.Recoverer`. An error of one swap's recovery is only logged,
and chain swaps are skipped when there is no Bitcoin tip, so the result pairs every swap with the outcome
of its own recovery (`Outcome`). What a recovery can change in a swap is said once, in `Recovers`.
-/
import BreezLiquid.Model.World

namespace BreezLiquid.Recover

open Interleaving

/-- How the recovery of one swap of a batch ended. -/
abbrev Outcome := Except Err Unit

section Tasks

variable (sdk : Sdk)

namespace SendSwapHandler

/-- `recover_preimage`: cooperatively, or else from the claim transaction. -/
def recoverPreimage (claimTxId : Option LBtcHistory) (swapId : SwapId) : Async (Option String) := do
  match ← (Task.askOk (.getSubmarinePreimage swapId) rfl).attempt with
  | .ok preimage => return some preimage
  | .error _ =>
      match claimTxId with
      | some claimTxId => do
          let claimTxs ← Task.askOk (.liquidTransactions [claimTxId.txid]) rfl
          match claimTxs with
          | claimTx :: _ =>
              let preimage ← Task.ofExcept (extractPreimageFromClaimTx sdk.hashFromSlice claimTx)
              return some preimage
          | [] => return none
      | none => return none

/-- The recovered data with its preimage, when there is one to recover. -/
def withPreimage (sendSwap : SendSwap) (r : RecoveredOnchainDataSend) :
    Async RecoveredOnchainDataSend :=
  if r.lockupTxId.isSome && sendSwap.preimage.isNone then do
    match ← (recoverPreimage sdk r.claimTxId sendSwap.id).attempt with
    | .ok (some preimage) => return { r with preimage := some preimage }
    | .ok none => return { r with claimTxId := none }
    | .error _ => return { r with claimTxId := none }
  else return r

/-- `recover_swap`: the swap afterwards, and the error if it ended with one. -/
def recoverSwap (context : ReceiveOrSendSwapRecoveryContext) (sendSwap : SendSwap)
    (isWithinGracePeriod : Bool) : Async (SendSwap × Outcome) :=
  match history sdk.bz context sendSwap with
  | .error err => return (sendSwap, .error err)
  | .ok history => do
      let r ← withPreimage sdk sendSwap (recoverOnchainData context.txMap history)
      return (updateSwap sdk.verifyPaymentHash sendSwap r context.liquidTipHeight
        isWithinGracePeriod, .ok ())

end SendSwapHandler

namespace Recoverer

def LIQUID_TIP_LEEWAY : Nat := 3

def NETWORK_PROPAGATION_GRACE_PERIOD : Nat := 120

def syncWalletIfNeeded (liquidTip : Nat) : Async Unit := do
  let walletTip ← Task.ask .walletTip
  -- `abs_diff`
  let tipDifference := max (walletTip - liquidTip) (liquidTip - walletTip)
  let lastUsed ← fetch (·.lastDerivationIndex.getD 0)
  let lastScanned ← fetch (·.lastScannedDerivationIndex.getD 0)
  if LIQUID_TIP_LEEWAY < tipDifference || lastScanned < lastUsed then
    Task.askOk .fullScan rfl
  else return ()

def fetchLbtcHistoryMap (swapLbtcScripts : List Script) :
    Async (Collections.HashMap Script (List LBtcHistory)) := do
  let lbtcScriptHistories ← Task.askOk (.liquidScriptsHistory swapLbtcScripts) rfl
  Task.ofExcept (lbtcHistoryMap swapLbtcScripts lbtcScriptHistories)

def fetchBtcScriptMaps (swapBtcScripts : List Script) : Async BtcScriptMaps := do
  let btcScriptHistories ← Task.askOk (.bitcoinScriptsHistory swapBtcScripts) rfl
  let btcScriptTxs ← Task.askOk (.bitcoinTransactions (btcScriptTxIds btcScriptHistories)) rfl
  let btcScriptBalances ← Task.askOk (.bitcoinScriptsBalance swapBtcScripts) rfl
  Task.ofExcept (btcScriptMaps swapBtcScripts btcScriptHistories btcScriptTxs btcScriptBalances)

/-- The chain-swap context, given the Liquid histories and a Bitcoin tip. -/
def createChainSwapRecoveryContext (swapsList : SwapsList)
    (lbtcScriptToHistoryMap : Collections.HashMap Script (List LBtcHistory)) (txMap : TxMap)
    (liquidTipHeight bitcoinTipHeight : Nat) : Async ChainSwapRecoveryContext := do
  let maps ← fetchBtcScriptMaps (swapsList.getSwapBtcScripts sdk.bz sdk.order)
  return {
    lbtcScriptToHistoryMap
    btcScriptToHistoryMap := maps.btcScriptToHistoryMap
    btcScriptToTxsMap := maps.btcScriptToTxsMap
    btcScriptToBalanceMap := maps.btcScriptToBalanceMap
    txMap
    addressFromScript := sdk.addressFromScript
    liquidTipHeight, bitcoinTipHeight }

/-- `create_recovery_contexts`; without a Bitcoin tip there is no chain-swap context. -/
def createRecoveryContexts (swapsList : SwapsList) (txMap : TxMap) (tips : ChainTips) :
    Async (ReceiveOrSendSwapRecoveryContext × Option ChainSwapRecoveryContext) := do
  let lbtcScriptToHistoryMap ←
    fetchLbtcHistoryMap (swapsList.getSwapLbtcScripts sdk.bz sdk.order)
  let swapContext : ReceiveOrSendSwapRecoveryContext :=
    { lbtcScriptToHistoryMap, txMap, liquidTipHeight := tips.liquidTip
      lbtcAssetId := sdk.lbtcAssetId }
  match tips.bitcoinTip with
  | none => return (swapContext, none)
  | some bitcoinTipHeight => do
      let chainContext ← createChainSwapRecoveryContext sdk swapsList lbtcScriptToHistoryMap txMap
        tips.liquidTip bitcoinTipHeight
      return (swapContext, some chainContext)

/-- The recovery of one swap of the batch. -/
def recoverSwap (swapContext : ReceiveOrSendSwapRecoveryContext)
    (chainContext : Option ChainSwapRecoveryContext) (recoveryStartedAt : Nat) (swap : Swap) :
    Async (Swap × Outcome) :=
  let isWithinGracePeriod : Bool :=
    recoveryStartedAt - swap.lastUpdatedAt < NETWORK_PROPAGATION_GRACE_PERIOD
  match swap with
  | .send s => do
      let (s, outcome) ← SendSwapHandler.recoverSwap sdk swapContext s isWithinGracePeriod
      return (.send s, outcome)
  | .receive s =>
      let (s, outcome) := ReceiveSwapHandler.recoverSwap sdk.bz swapContext s isWithinGracePeriod
      return (.receive s, outcome)
  | .chain s =>
      match chainContext with
      | none => return (.chain s, .error (.generic ("Skipping recovery for chain swap " ++ s.id)))
      | some context =>
          match s.direction with
          | .outgoing =>
              let (s, outcome) :=
                ChainSendSwapHandler.recoverSwap sdk.bz context s isWithinGracePeriod
              return (.chain s, outcome)
          | .incoming =>
              let (s, outcome) :=
                ChainReceiveSwapHandler.recoverSwap sdk.bz context s isWithinGracePeriod
              return (.chain s, outcome)

/-- `for swap in swaps.iter_mut()`. -/
def recoverSwaps (swapContext : ReceiveOrSendSwapRecoveryContext)
    (chainContext : Option ChainSwapRecoveryContext) (recoveryStartedAt : Nat) :
    List Swap → Async (List (Swap × Outcome))
  | [] => return []
  | swap :: swaps => do
      let result ← recoverSwap sdk swapContext chainContext recoveryStartedAt swap
      let results ← recoverSwaps swapContext chainContext recoveryStartedAt swaps
      return result :: results

/-- The tips to recover at: the given ones, or else the current ones. -/
def chainTips (swaps : List Swap) : Option ChainTips → Async ChainTips
  | some tips => return tips
  | none => do
      let liquidTip ← Task.askOk .liquidTip rfl
      if swaps.any Swap.isChain then do
        let bitcoinTip ← (Task.askOk .bitcoinTip rfl).attempt
        return { liquidTip, bitcoinTip := bitcoinTip.toOption }
      else return { liquidTip, bitcoinTip := none }

/-- `recover_from_onchain`: every swap with the outcome of its recovery, and the wallet's
transactions. -/
def recoverFromOnchain (swaps : List Swap) (maybeChainTips : Option ChainTips) :
    Async (List (Swap × Outcome) × RawTxMap) := do
  let tips ← chainTips swaps maybeChainTips
  syncWalletIfNeeded tips.liquidTip
  let recoveryStartedAt ← Task.reads World.now
  let rawTxs ← Task.askOk .transactionsByTxId rfl
  let rawTxMap := transactionsByTxId rawTxs
  let (swapContext, chainContext) ←
    createRecoveryContexts sdk (.ofSwaps swaps) (.fromRawTxMap rawTxMap) tips
  let results ← recoverSwaps sdk swapContext chainContext recoveryStartedAt swaps
  return (results, rawTxMap)

end Recoverer

end Tasks

/-! ## The contexts computed from a chain state -/

/-- Services that know a chain state. -/
def ChainState.Answers (chain : ChainState) (ans : Nat → (q : Call) → q.Answer) : Prop :=
  (∀ n scripts, ans n (.liquidScriptsHistory scripts) = .ok (scripts.map chain.lbtcHistory)) ∧
  (∀ n scripts, ans n (.bitcoinScriptsHistory scripts) = .ok (scripts.map chain.btcHistory)) ∧
  (∀ n ids, ans n (.bitcoinTransactions ids) = .ok (ids.map chain.btcTx)) ∧
  ∀ n scripts, ans n (.bitcoinScriptsBalance scripts) = .ok (scripts.map chain.btcBalance)

/-- Against services that know a chain state, the chain-swap context is the one computed from it. -/
theorem createRecoveryContexts_run (sdk : Sdk) {chain : ChainState}
    {ans : Nat → (q : Call) → q.Answer} (hans : chain.Answers ans) (swaps : List Swap)
    (txMap : TxMap) (liquidTip bitcoinTip : Nat) (w : Nat × World) :
    ((Recoverer.createRecoveryContexts sdk (.ofSwaps swaps) txMap ⟨liquidTip, some bitcoinTip⟩).run
        (World.effect sdk) ans w).1.map Prod.snd =
      (chainSwapRecoveryContext sdk.bz chain sdk.order swaps txMap sdk.addressFromScript liquidTip
        bitcoinTip).map some := by
  obtain ⟨hliquid, hbitcoin, htxs, hbalance⟩ := hans
  have hlbtc : lbtcHistoryMap ((SwapsList.ofSwaps swaps).getSwapLbtcScripts sdk.bz sdk.order)
      (((SwapsList.ofSwaps swaps).getSwapLbtcScripts sdk.bz sdk.order).map chain.lbtcHistory) =
      .ok (Collections.HashMap.ofList (((SwapsList.ofSwaps swaps).getSwapLbtcScripts sdk.bz
        sdk.order).zip (((SwapsList.ofSwaps swaps).getSwapLbtcScripts sdk.bz sdk.order).map
          chain.lbtcHistory))) := by
    simp [lbtcHistoryMap]
  simp only [Recoverer.createRecoveryContexts, Recoverer.fetchLbtcHistoryMap,
    Recoverer.createChainSwapRecoveryContext, Recoverer.fetchBtcScriptMaps, Task.askOk, Task.bind_eq,
    Task.call_bind, Task.done_ok_bind, Task.pure_eq, Task.run_call, cast_eq, hliquid, hbitcoin, htxs,
    hbalance, hlbtc, Task.ofExcept, chainSwapRecoveryContext]
  cases btcScriptMaps ((SwapsList.ofSwaps swaps).getSwapBtcScripts sdk.bz sdk.order)
    (((SwapsList.ofSwaps swaps).getSwapBtcScripts sdk.bz sdk.order).map chain.btcHistory)
    ((btcScriptTxIds (((SwapsList.ofSwaps swaps).getSwapBtcScripts sdk.bz sdk.order).map
      chain.btcHistory)).map chain.btcTx)
    (((SwapsList.ofSwaps swaps).getSwapBtcScripts sdk.bz sdk.order).map chain.btcBalance) with
  | ok maps => rfl
  | error err => rfl

/-! ## A recovery only reads -/

section Reads

variable (sdk : Sdk)

/-- A task that reads, as its calls do. -/
abbrev ReadOnly {α : Type} (t : Async α) : Prop := t.Within (· = id) Call.Reads

/-- Recovery writes nothing and broadcasts nothing; it only asks ... -/
theorem readOnly_recoverPreimage (claimTxId : Option LBtcHistory) (swapId : SwapId) :
    ReadOnly (SendSwapHandler.recoverPreimage sdk claimTxId swapId) := by
  refine Task.Within.bind (Task.Within.attempt (Task.within_askOk trivial rfl)) fun preimage => ?_
  split
  · trivial
  · split
    · refine Task.Within.bind (Task.within_askOk trivial rfl) fun claimTxs => ?_
      split
      · exact Task.Within.bind (Task.within_done _) fun _ => trivial
      · trivial
    · trivial

theorem readOnly_recoverSwap (swapContext : ReceiveOrSendSwapRecoveryContext)
    (chainContext : Option ChainSwapRecoveryContext) (startedAt : Nat) (swap : Swap) :
    ReadOnly (Recoverer.recoverSwap sdk swapContext chainContext startedAt swap) := by
  cases swap with
  | send s =>
      refine Task.Within.bind ?_ fun _ => trivial
      unfold SendSwapHandler.recoverSwap
      split
      · trivial
      · refine Task.Within.bind ?_ fun _ => trivial
        unfold SendSwapHandler.withPreimage
        split
        · refine Task.Within.bind (readOnly_recoverPreimage sdk _ _).attempt fun preimage => ?_
          split <;> trivial
        · trivial
  | receive s => trivial
  | chain s =>
      simp only [Recoverer.recoverSwap]
      cases chainContext with
      | none => trivial
      | some context => cases s.direction <;> trivial

/-- ... swap by swap ... -/
theorem readOnly_recoverSwaps (swapContext : ReceiveOrSendSwapRecoveryContext)
    (chainContext : Option ChainSwapRecoveryContext) (startedAt : Nat) (swaps : List Swap) :
    ReadOnly (Recoverer.recoverSwaps sdk swapContext chainContext startedAt swaps) := by
  induction swaps with
  | nil => trivial
  | cons swap swaps ih =>
      refine Task.Within.bind (readOnly_recoverSwap sdk _ _ _ swap) fun result => ?_
      exact Task.Within.bind ih fun results => trivial

/-- ... and for the histories before that. -/
theorem readOnly_createRecoveryContexts (swapsList : SwapsList) (txMap : TxMap) (tips : ChainTips) :
    ReadOnly (Recoverer.createRecoveryContexts sdk swapsList txMap tips) := by
  refine Task.Within.bind ?_ fun histories => ?_
  · exact Task.Within.bind (Task.within_askOk trivial rfl) fun _ => Task.within_done _
  · dsimp only
    split
    · trivial
    · refine Task.Within.bind (Task.Within.bind ?_ fun _ => trivial) fun _ => trivial
      refine Task.Within.bind (Task.within_askOk trivial rfl) fun histories => ?_
      refine Task.Within.bind (Task.within_askOk trivial rfl) fun txs => ?_
      exact Task.Within.bind (Task.within_askOk trivial rfl) fun balances => Task.within_done _

/-- So a whole recovery is read-only. -/
theorem readOnly_recoverFromOnchain (swaps : List Swap) (tips : Option ChainTips) :
    ReadOnly (Recoverer.recoverFromOnchain sdk swaps tips) := by
  refine Task.Within.bind ?_ fun tips => ?_
  · unfold Recoverer.chainTips
    split
    · trivial
    · refine Task.Within.bind (Task.within_askOk trivial rfl) fun liquidTip => ?_
      split
      · refine Task.Within.bind (Task.Within.attempt (Task.within_askOk trivial rfl)) fun _ => trivial
      · trivial
  · refine Task.Within.bind ?_ fun _ => ?_
    · refine Task.Within.bind (Task.within_ask trivial) fun walletTip => ?_
      refine Task.Within.bind ⟨rfl, fun _ => trivial⟩ fun lastUsed => ?_
      refine Task.Within.bind ⟨rfl, fun _ => trivial⟩ fun lastScanned => ?_
      split
      · exact Task.within_askOk trivial rfl
      · trivial
    · refine Task.Within.bind ⟨rfl, fun _ => trivial⟩ fun startedAt => ?_
      refine Task.Within.bind (Task.within_askOk trivial rfl) fun rawTxs => ?_
      refine Task.Within.bind (readOnly_createRecoveryContexts sdk _ _ tips) fun contexts => ?_
      exact Task.Within.bind (readOnly_recoverSwaps sdk _ _ _ swaps) fun results => trivial

end Reads

/-! ## What a recovery leaves alone -/

/-- Same table, same row, same version. -/
def SameRow (s s' : Swap) : Prop :=
  s'.id = s.id ∧ s'.version = s.version ∧ s'.recordType = s.recordType

theorem SameRow.refl (s : Swap) : SameRow s s := ⟨rfl, rfl, rfl⟩

/-- What a failed recovery leaves behind: the swap as it was, up to the actual payer amount that an
incoming chain swap has written before it fails. -/
def Unrecovered : Swap → Swap → Prop
  | .chain s, .chain s' => s' = { s with actualPayerAmountSat := s'.actualPayerAmountSat }
  | s, s' => s' = s

theorem Unrecovered.refl (s : Swap) : Unrecovered s s := by
  cases s <;> rfl

/-- The recovery of `s` gave `result`. -/
def Recovers (s : Swap) (result : Swap × Outcome) : Prop :=
  SameRow s result.1 ∧ (result.2 ≠ .ok () → Unrecovered s result.1)

/-- The update of a swap keeps its id and its version, in all four handlers. -/
theorem SendSwapHandler.updateSwap_sameRow (verifyPaymentHash : String → String → Bool)
    (s : SendSwap) (r : RecoveredOnchainDataSend) (height : Nat) (grace : Bool) :
    (updateSwap verifyPaymentHash s r height grace).id = s.id ∧
      (updateSwap verifyPaymentHash s r height grace).metadata = s.metadata := by
  unfold updateSwap
  dsimp only
  repeat' split
  all_goals exact ⟨rfl, rfl⟩

theorem ReceiveSwapHandler.updateSwap_sameRow (s : ReceiveSwap) (r : RecoveredOnchainDataReceive)
    (height : Nat) (grace : Bool) :
    (updateSwap s r height grace).id = s.id ∧
      (updateSwap s r height grace).metadata = s.metadata := by
  unfold updateSwap
  dsimp only
  repeat' split
  all_goals exact ⟨rfl, rfl⟩

theorem ChainSendSwapHandler.updateSwap_sameRow (s : ChainSwap)
    (r : RecoveredOnchainDataChainSend) (liquidHeight bitcoinHeight : Nat) (grace : Bool) :
    (updateSwap s r liquidHeight bitcoinHeight grace).id = s.id ∧
      (updateSwap s r liquidHeight bitcoinHeight grace).metadata = s.metadata := by
  unfold updateSwap
  dsimp only
  repeat' split
  all_goals exact ⟨rfl, rfl⟩

theorem ChainReceiveSwapHandler.updateSwap_sameRow (bz : BoltzClient) (s : ChainSwap)
    (r : RecoveredOnchainDataChainReceive) (liquidHeight bitcoinHeight : Nat) (grace : Bool) :
    (updateSwap bz s r liquidHeight bitcoinHeight grace).1.id = s.id ∧
      (updateSwap bz s r liquidHeight bitcoinHeight grace).1.metadata = s.metadata := by
  unfold updateSwap
  dsimp only
  repeat' split
  all_goals exact ⟨rfl, rfl⟩

/-- Where the update fails, only the actual payer amount may have been set. -/
theorem ChainReceiveSwapHandler.updateSwap_error {bz : BoltzClient} {s : ChainSwap}
    {r : RecoveredOnchainDataChainReceive} {liquidHeight bitcoinHeight : Nat} {grace : Bool}
    (h : (updateSwap bz s r liquidHeight bitcoinHeight grace).2 ≠ .ok ()) :
    Unrecovered (.chain s) (.chain (updateSwap bz s r liquidHeight bitcoinHeight grace).1) := by
  revert h
  unfold updateSwap
  split
  · exact fun h => absurd rfl h
  · dsimp only
    generalize hs₁ : (if 0 < r.btcUserLockupAmountSat
      then { s with actualPayerAmountSat := some r.btcUserLockupAmountSat } else s) = s₁
    have hpayer : s₁ = { s with actualPayerAmountSat := s₁.actualPayerAmountSat } := by
      rw [← hs₁]
      split <;> rfl
    split
    · exact fun _ => hpayer
    · exact fun h => absurd rfl h

section Recovers

variable (sdk : Sdk)

/-- Each handler returns its own swap, recovered or as it was. -/
theorem sendRecoverSwap_recovers (context : ReceiveOrSendSwapRecoveryContext) (s : SendSwap)
    (grace : Bool) :
    (SendSwapHandler.recoverSwap sdk context s grace).Yields fun x =>
      ∀ r, x = .ok r → Recovers (.send s) (.send r.1, r.2) := by
  unfold SendSwapHandler.recoverSwap
  split
  · rintro r ⟨⟩
    exact ⟨.refl _, fun _ => .refl _⟩
  · refine Task.Yields.bind (Task.Yields.mono (Task.yields_true _) fun x _ => ?_)
    cases x with
    | error err => rintro r ⟨⟩
    | ok data =>
        rintro r ⟨⟩
        obtain ⟨hid, hmeta⟩ := SendSwapHandler.updateSwap_sameRow sdk.verifyPaymentHash s data
          context.liquidTipHeight grace
        exact ⟨⟨hid, congrArg SwapMetadata.version hmeta, rfl⟩, fun h => absurd rfl h⟩

theorem receiveRecoverSwap_recovers (context : ReceiveOrSendSwapRecoveryContext) (s : ReceiveSwap)
    (grace : Bool) :
    Recovers (.receive s) (.receive (ReceiveSwapHandler.recoverSwap sdk.bz context s grace).1,
      (ReceiveSwapHandler.recoverSwap sdk.bz context s grace).2) := by
  unfold ReceiveSwapHandler.recoverSwap
  split
  · exact ⟨.refl _, fun _ => .refl _⟩
  · obtain ⟨hid, hmeta⟩ := ReceiveSwapHandler.updateSwap_sameRow s _ context.liquidTipHeight grace
    exact ⟨⟨hid, congrArg SwapMetadata.version hmeta, rfl⟩, fun h => absurd rfl h⟩

theorem chainSendRecoverSwap_recovers (context : ChainSwapRecoveryContext) (s : ChainSwap)
    (grace : Bool) :
    Recovers (.chain s) (.chain (ChainSendSwapHandler.recoverSwap sdk.bz context s grace).1,
      (ChainSendSwapHandler.recoverSwap sdk.bz context s grace).2) := by
  unfold ChainSendSwapHandler.recoverSwap
  split
  · exact ⟨.refl _, fun _ => .refl _⟩
  · obtain ⟨hid, hmeta⟩ := ChainSendSwapHandler.updateSwap_sameRow s _ context.liquidTipHeight
      context.bitcoinTipHeight grace
    exact ⟨⟨hid, congrArg SwapMetadata.version hmeta, rfl⟩, fun h => absurd rfl h⟩

theorem chainReceiveRecoverSwap_recovers (context : ChainSwapRecoveryContext) (s : ChainSwap)
    (grace : Bool) :
    Recovers (.chain s) (.chain (ChainReceiveSwapHandler.recoverSwap sdk.bz context s grace).1,
      (ChainReceiveSwapHandler.recoverSwap sdk.bz context s grace).2) := by
  unfold ChainReceiveSwapHandler.recoverSwap
  split
  · exact ⟨.refl _, fun _ => .refl _⟩
  · obtain ⟨hid, hmeta⟩ := ChainReceiveSwapHandler.updateSwap_sameRow sdk.bz s _
      context.liquidTipHeight context.bitcoinTipHeight grace
    exact ⟨⟨hid, congrArg SwapMetadata.version hmeta, rfl⟩,
      ChainReceiveSwapHandler.updateSwap_error⟩

/-- So does the recoverer, for whatever kind of swap. -/
theorem recoverSwap_recovers (swapContext : ReceiveOrSendSwapRecoveryContext)
    (chainContext : Option ChainSwapRecoveryContext) (startedAt : Nat) (swap : Swap) :
    (Recoverer.recoverSwap sdk swapContext chainContext startedAt swap).Yields fun x =>
      ∀ r, x = .ok r → Recovers swap r := by
  cases swap with
  | send s =>
      refine Task.Yields.bind (Task.Yields.mono (sendRecoverSwap_recovers sdk _ s _) fun x h => ?_)
      cases x with
      | error err => rintro r ⟨⟩
      | ok data =>
          rintro r ⟨⟩
          exact h data rfl
  | receive s =>
      rintro r ⟨⟩
      exact receiveRecoverSwap_recovers sdk _ s _
  | chain s =>
      simp only [Recoverer.recoverSwap]
      cases chainContext with
      | none =>
          rintro r ⟨⟩
          exact ⟨.refl _, fun _ => .refl _⟩
      | some context =>
          cases s.direction with
          | outgoing =>
              rintro r ⟨⟩
              exact chainSendRecoverSwap_recovers sdk context s _
          | incoming =>
              rintro r ⟨⟩
              exact chainReceiveRecoverSwap_recovers sdk context s _

/-- Every swap of the batch comes back in its place, with whatever holds of a recovered swap. -/
theorem recoverSwaps_forall₂ {R : Swap → Swap × Outcome → Prop}
    (h : ∀ swapContext chainContext startedAt swap,
      (Recoverer.recoverSwap sdk swapContext chainContext startedAt swap).Yields fun x =>
        ∀ r, x = .ok r → R swap r)
    (swapContext : ReceiveOrSendSwapRecoveryContext) (chainContext : Option ChainSwapRecoveryContext)
    (startedAt : Nat) (swaps : List Swap) :
    (Recoverer.recoverSwaps sdk swapContext chainContext startedAt swaps).Yields fun x =>
      ∀ rs, x = .ok rs → List.Forall₂ R swaps rs := by
  induction swaps with
  | nil =>
      rintro rs ⟨⟩
      exact .nil
  | cons swap swaps ih =>
      refine Task.Yields.bind
        (Task.Yields.mono (h _ chainContext _ swap) fun x hx => ?_)
      cases x with
      | error err => rintro rs ⟨⟩
      | ok r =>
          refine Task.Yields.bind (Task.Yields.mono ih fun y hy => ?_)
          cases y with
          | error err => rintro rs ⟨⟩
          | ok rs =>
              rintro rs' ⟨⟩
              exact .cons (hx r rfl) (hy rs rfl)

/-- What holds of each swap and its outcome holds along the list: the outcomes are in the order of the
swaps. -/
theorem recoverFromOnchain_forall₂ {R : Swap → Swap × Outcome → Prop}
    (h : ∀ swapContext chainContext startedAt swap,
      (Recoverer.recoverSwap sdk swapContext chainContext startedAt swap).Yields fun x =>
        ∀ r, x = .ok r → R swap r)
    (swaps : List Swap) (tips : Option ChainTips) :
    (Recoverer.recoverFromOnchain sdk swaps tips).Yields fun x =>
      ∀ rs txs, x = .ok (rs, txs) → List.Forall₂ R swaps rs := by
  refine Task.Yields.bind_any nofun fun tips => Task.Yields.bind_any nofun fun _ => ?_
  refine Task.Yields.bind_any nofun fun startedAt => Task.Yields.bind_any nofun fun rawTxs => ?_
  refine Task.Yields.bind_any nofun fun contexts => ?_
  refine Task.Yields.bind
    (Task.Yields.mono (recoverSwaps_forall₂ sdk h contexts.1 contexts.2 startedAt swaps) fun x hx => ?_)
  cases x with
  | error err => rintro rs txs ⟨⟩
  | ok rs =>
      rintro rs' txs ⟨⟩
      exact hx rs rfl

/-- **Recovery.** Every swap comes back, in its place, and either recovered or, up to the actual payer
amount, as it was. -/
theorem recoverFromOnchain_recovers (swaps : List Swap) (tips : Option ChainTips) :
    (Recoverer.recoverFromOnchain sdk swaps tips).Yields fun x =>
      ∀ rs txs, x = .ok (rs, txs) → List.Forall₂ Recovers swaps rs :=
  recoverFromOnchain_forall₂ sdk (recoverSwap_recovers sdk) swaps tips

end Recovers

end BreezLiquid.Recover
