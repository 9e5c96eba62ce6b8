/-
# BreezLiquid.Recover.Recoverer — from a batch of swaps to the recovery contexts.

`recover_from_onchain` collects the scripts of all swaps of a batch, fetches their histories at once,
and redistributes what it fetched by script. This module has the part of it that computes: the scripts
of a swap list, the maps built from the services' answers, and what each handler takes out of them.
The calls themselves are in `BreezLiquid.Recover.Task`.
-/
import BreezLiquid.Recover.Handlers

namespace BreezLiquid.Recover

open Collections

/-! ## The swap list and its scripts -/

/-- The order in which a `HashMap` yields its values: some permutation of them. -/
structure HashOrder where
  values : HashMap SwapId Swap → List Swap
  perm : ∀ m, (values m).Perm (m.entries.map Sigma.snd)

/-- The order of insertion is one possible order. -/
def HashOrder.insertion : HashOrder := ⟨fun m => m.entries.map Sigma.snd, fun _ => .refl _⟩

/-- `SwapsList`, the swaps that are recovered together, by id. -/
structure SwapsList where
  swapsById : HashMap SwapId Swap

namespace SwapsList

/-- `SwapsList::try_from`. -/
def ofSwaps (swaps : List Swap) : SwapsList := ⟨HashMap.ofList (swaps.map fun s => (s.id, s))⟩

end SwapsList

section Scripts

variable (bz : BoltzClient)

/-- The funding script of a fallible swap script, if there is one. -/
def fundingScripts (script : Except Err SwapScript) : List Script :=
  match script with
  | .ok script => script.fundingAddrs.toList
  | .error _ => []

/-- The Liquid scripts of one swap. -/
def swapLbtcScripts : Swap → List Script
  | .send s => fundingScripts (s.getSwapScript bz)
  | .receive s => fundingScripts (s.getSwapScript bz) ++ (bz.elementsAddress s.mrhAddress).toList
  | .chain s =>
      match s.direction with
      | .outgoing => fundingScripts (s.getLockupSwapScript bz >>= SwapScriptV2.asLiquidScript)
      | .incoming => fundingScripts (s.getClaimSwapScript bz >>= SwapScriptV2.asLiquidScript)

/-- The Bitcoin scripts of one swap: the claim script of an outgoing chain swap, the lockup script of
an incoming one. -/
def swapBtcScripts : Swap → List Script
  | .chain s =>
      match s.direction with
      | .outgoing => fundingScripts (s.getClaimSwapScript bz >>= SwapScriptV2.asBitcoinScript)
      | .incoming => fundingScripts (s.getLockupSwapScript bz >>= SwapScriptV2.asBitcoinScript)
  | _ => []

/-- The Liquid scripts of all the swaps, in the order of the map ... -/
def SwapsList.getSwapLbtcScripts (order : HashOrder) (l : SwapsList) : List Script :=
  (order.values l.swapsById).flatMap (swapLbtcScripts bz)

/-- ... and the Bitcoin scripts. -/
def SwapsList.getSwapBtcScripts (order : HashOrder) (l : SwapsList) : List Script :=
  (order.values l.swapsById).flatMap (swapBtcScripts bz)

end Scripts

/-! ## The maps by script -/

/-- `fetch_lbtc_history_map`, after the histories of the scripts came in. -/
def lbtcHistoryMap (scripts : List Script) (histories : List (List LBtcHistory)) :
    Except Err (HashMap Script (List LBtcHistory)) :=
  if scripts.length = histories.length then .ok (HashMap.ofList (scripts.zip histories))
  else .error (.generic "Got a wrong number of L-BTC script histories")

/-- The transactions fetched for the whole batch that occur in one script's history. -/
def relevantTxs (history : List BtcHistory) (txs : List BtcTransaction) : List BtcTransaction :=
  txs.filter fun tx => (history.map History.txid).contains tx.txid

/-- The transaction ids asked for: all histories, flattened. -/
def btcScriptTxIds (histories : List (List BtcHistory)) : List TxId :=
  histories.flatten.map History.txid

/-- What the Bitcoin service answered, by script. -/
structure BtcScriptMaps where
  btcScriptToHistoryMap : HashMap Script (List BtcHistory)
  btcScriptToTxsMap : HashMap Script (List BtcTransaction)
  btcScriptToBalanceMap : HashMap Script BtcScriptBalance

/-- `fetch_btc_script_maps`, after the histories, the transactions and the balances came in. -/
def btcScriptMaps (scripts : List Script) (histories : List (List BtcHistory))
    (txs : List BtcTransaction) (balances : List BtcScriptBalance) : Except Err BtcScriptMaps :=
  if scripts.length = histories.length then
    .ok
      { btcScriptToHistoryMap := HashMap.ofList (scripts.zip histories)
        btcScriptToTxsMap := HashMap.ofList <|
          (scripts.zip histories).map fun e => (e.1, relevantTxs e.2 txs)
        btcScriptToBalanceMap := HashMap.ofList (scripts.zip balances) }
  else .error (.generic "Got a wrong number of BTC script histories")

/-! ## Contexts -/

/-- What the recovery of a send or a receive swap reads. -/
structure ReceiveOrSendSwapRecoveryContext where
  lbtcScriptToHistoryMap : HashMap Script (List LBtcHistory)
  txMap : TxMap
  liquidTipHeight : Nat
  lbtcAssetId : AssetId

/-- What the recovery of a chain swap reads. -/
structure ChainSwapRecoveryContext where
  lbtcScriptToHistoryMap : HashMap Script (List LBtcHistory)
  btcScriptToHistoryMap : HashMap Script (List BtcHistory)
  btcScriptToTxsMap : HashMap Script (List BtcTransaction)
  btcScriptToBalanceMap : HashMap Script BtcScriptBalance
  txMap : TxMap
  addressFromScript : Script → Option Address
  liquidTipHeight : Nat
  bitcoinTipHeight : Nat

section Recover

variable (bz : BoltzClient)

namespace SendSwapHandler

/-- The history of the swap's lockup script. -/
def history (context : ReceiveOrSendSwapRecoveryContext) (swap : SendSwap) :
    Except Err (List LBtcHistory) := do
  let swapScript ← swap.getSwapScript bz
  let lockupScript ← okOr swapScript.fundingAddrs "no funding address found"
  return (context.lbtcScriptToHistoryMap.lookup lockupScript).getD []

end SendSwapHandler

namespace ReceiveSwapHandler

/-- The histories of the routing-hint script and the claim script, up to the swap's timeout. -/
def history (context : ReceiveOrSendSwapRecoveryContext) (swap : ReceiveSwap) :
    Except Err ReceiveSwapHistory := do
  let mrhScript := if swap.mrhAddress.isEmpty then none else bz.elementsAddress swap.mrhAddress
  let claimScript ← swap.claimScript bz
  -- `timeout_block_height as i32`
  let timeout := (swap.timeoutBlockHeight : Int).bmod (2 ^ 32)
  let beforeTimeout := fun (h : LBtcHistory) => decide (h.height < timeout)
  return {
    lbtcMrhScriptHistory :=
      ((mrhScript.bind fun s => context.lbtcScriptToHistoryMap.lookup s).getD []).filter beforeTimeout
    lbtcClaimScriptHistory :=
      ((context.lbtcScriptToHistoryMap.lookup claimScript).getD []).filter beforeTimeout }

/-- `recover_swap`: the swap afterwards, and the error if it ended with one. -/
def recoverSwap (context : ReceiveOrSendSwapRecoveryContext) (swap : ReceiveSwap)
    (isWithinGracePeriod : Bool) : ReceiveSwap × Except Err Unit :=
  match history bz context swap with
  | .error err => (swap, .error err)
  | .ok history =>
      let recoveredData := recoverOnchainData context.txMap history swap.createdAt
        swap.receiverAmountSat context.lbtcAssetId
      (updateSwap swap recoveredData context.liquidTipHeight isWithinGracePeriod, .ok ())

end ReceiveSwapHandler

namespace ChainSendSwapHandler

/-- The script of an outgoing swap's claim ... -/
def claimScript (swap : ChainSwap) : Except Err Script :=
  match swap.getClaimSwapScript bz >>= SwapScriptV2.asBitcoinScript with
  | .ok script => okOr script.fundingAddrs
      ("BTC claim script not found for Onchain Send Swap " ++ swap.id)
  | .error _ => .error (.generic ("BTC claim script not found for Onchain Send Swap " ++ swap.id))

/-- ... and of its lockup. Whatever goes wrong, the error has the text of the caller. -/
def lockupScript (swap : ChainSwap) : Except Err Script :=
  match swap.getLockupSwapScript bz >>= SwapScriptV2.asLiquidScript with
  | .ok script => okOr script.fundingAddrs
      ("LBTC lockup script not found for Onchain Send Swap " ++ swap.id)
  | .error _ =>
      .error (.generic ("LBTC lockup script not found for Onchain Send Swap " ++ swap.id))

/-- The onchain data recovered for a swap out of a context. -/
def recoveredData (context : ChainSwapRecoveryContext) (swap : ChainSwap) :
    Except Err RecoveredOnchainDataChainSend := do
  let claimScript ← claimScript bz swap
  let lockupScript ← lockupScript bz swap
  let history : SendChainSwapHistory :=
    { lbtcLockupScriptHistory := (context.lbtcScriptToHistoryMap.lookup lockupScript).getD []
      btcClaimScriptHistory := (context.btcScriptToHistoryMap.lookup claimScript).getD []
      btcClaimScriptTxs := (context.btcScriptToTxsMap.lookup claimScript).getD [] }
  return recoverOnchainData context.txMap history claimScript

/-- `recover_swap`: the swap afterwards, and the error if it ended with one. -/
def recoverSwap (context : ChainSwapRecoveryContext) (swap : ChainSwap)
    (isWithinGracePeriod : Bool) : ChainSwap × Except Err Unit :=
  match recoveredData bz context swap with
  | .error err => (swap, .error err)
  | .ok recoveredData =>
      (updateSwap swap recoveredData context.liquidTipHeight context.bitcoinTipHeight
        isWithinGracePeriod, .ok ())

end ChainSendSwapHandler

namespace ChainReceiveSwapHandler

/-- The scripts of an incoming swap ... -/
def lockupScript (swap : ChainSwap) : Except Err Script :=
  match swap.getLockupSwapScript bz >>= SwapScriptV2.asBitcoinScript with
  | .ok script => okOr script.fundingAddrs
      ("BTC lockup script not found for Onchain Receive Swap " ++ swap.id)
  | .error _ =>
      .error (.generic ("BTC lockup script not found for Onchain Receive Swap " ++ swap.id))

/-- ... of which the second has the text of the outgoing one, as in the source. -/
def claimScript (swap : ChainSwap) : Except Err Script :=
  match swap.getClaimSwapScript bz >>= SwapScriptV2.asLiquidScript with
  | .ok script => okOr script.fundingAddrs
      ("BTC claim script not found for Onchain Send Swap " ++ swap.id)
  | .error _ => .error (.generic ("BTC claim script not found for Onchain Send Swap " ++ swap.id))

/-- The onchain data recovered for a swap out of a context. -/
def recoveredData (context : ChainSwapRecoveryContext) (swap : ChainSwap) :
    Except Err RecoveredOnchainDataChainReceive := do
  let lockupScript ← lockupScript bz swap
  let claimScript ← claimScript bz swap
  let history : ReceiveChainSwapHistory :=
    { lbtcClaimScriptHistory := (context.lbtcScriptToHistoryMap.lookup claimScript).getD []
      btcLockupScriptHistory := (context.btcScriptToHistoryMap.lookup lockupScript).getD []
      btcLockupScriptTxs := (context.btcScriptToTxsMap.lookup lockupScript).getD []
      btcLockupScriptBalance := context.btcScriptToBalanceMap.lookup lockupScript }
  return recoverOnchainData context.addressFromScript context.txMap history lockupScript

/-- `recover_swap`: the swap afterwards, and the error if it ended with one. -/
def recoverSwap (context : ChainSwapRecoveryContext) (swap : ChainSwap)
    (isWithinGracePeriod : Bool) : ChainSwap × Except Err Unit :=
  match recoveredData bz context swap with
  | .error err => (swap, .error err)
  | .ok recoveredData =>
      updateSwap bz swap recoveredData context.liquidTipHeight context.bitcoinTipHeight
        isWithinGracePeriod

end ChainReceiveSwapHandler

end Recover

/-! ## A chain state that answers the calls -/

/-- What the chain services know: the history of each script, the transaction of each id, and the
balance of each Bitcoin script. -/
structure ChainState where
  lbtcHistory : Script → List LBtcHistory
  btcHistory : Script → List BtcHistory
  btcTx : TxId → BtcTransaction
  btcTx_txid : ∀ id, (btcTx id).txid = id
  btcBalance : Script → BtcScriptBalance

/-- `create_recovery_contexts` against a chain state: one history per script and one transaction per
requested id, in request order. -/
def chainSwapRecoveryContext (bz : BoltzClient) (chain : ChainState) (order : HashOrder)
    (swaps : List Swap) (txMap : TxMap) (addressFromScript : Script → Option Address)
    (liquidTipHeight bitcoinTipHeight : Nat) : Except Err ChainSwapRecoveryContext := do
  let swapsList := SwapsList.ofSwaps swaps
  let lbtcScripts := swapsList.getSwapLbtcScripts bz order
  let lbtcScriptToHistoryMap ← lbtcHistoryMap lbtcScripts (lbtcScripts.map chain.lbtcHistory)
  let btcScripts := swapsList.getSwapBtcScripts bz order
  let histories := btcScripts.map chain.btcHistory
  let maps ← btcScriptMaps btcScripts histories ((btcScriptTxIds histories).map chain.btcTx)
    (btcScripts.map chain.btcBalance)
  return {
    lbtcScriptToHistoryMap
    btcScriptToHistoryMap := maps.btcScriptToHistoryMap
    btcScriptToTxsMap := maps.btcScriptToTxsMap
    btcScriptToBalanceMap := maps.btcScriptToBalanceMap
    txMap, addressFromScript, liquidTipHeight, bitcoinTipHeight }

end BreezLiquid.Recover
