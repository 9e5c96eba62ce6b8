/-
# BreezLiquid.Recover.Handlers — what the four recovery handlers compute.

Each handler turns a script history and the wallet's transactions into recovered data
(`recoverOnchainData`), derives a state from it (`derivePartialState`) and writes both into the swap
(`updateSwap`). `recover_onchain_data` never fails in the source, so here it returns its value plainly.
Out of a recovery context `recoverSwap` picks the histories of the swap's own scripts.
-/
import BreezLiquid.Model.Types

namespace BreezLiquid.Recover

open Collections

/-! ## The wallet's transactions -/

/-- All transactions of the wallet by id. The wallet keys each of them by its own id. -/
structure RawTxMap where
  txs : HashMap TxId WalletTx
  keyed : ∀ id tx, txs.lookup id = some tx → tx.txid = id

/-- `transactions_by_tx_id`. -/
def transactionsByTxId (txs : List WalletTx) : RawTxMap where
  txs := HashMap.ofList (txs.map fun tx => (tx.txid, tx))
  keyed id tx h := by
    obtain ⟨tx', -, h'⟩ := List.mem_map.mp (HashMap.mem_of_lookup_ofList h)
    simp only [Prod.mk.injEq] at h'
    exact h'.2 ▸ h'.1

/-- The older map is contained in the newer one. -/
instance : LE RawTxMap where
  le m m' := ∀ id tx, m.txs.lookup id = some tx → m'.txs.lookup id = some tx

/-- The wallet's transactions, split by the sign of their balance. -/
structure TxMap where
  outgoingTxMap : HashMap TxId WalletTx
  incomingTxMap : HashMap TxId WalletTx

namespace TxMap

/-- `TxMap::from_raw_tx_map`: a transaction with a negative balance is outgoing. -/
def fromRawTxMap (raw : RawTxMap) : TxMap where
  outgoingTxMap := raw.txs.filter fun _ tx => tx.balanceSum < 0
  incomingTxMap := raw.txs.filter fun _ tx => !decide (tx.balanceSum < 0)

/-- `outgoing_tx_map.contains_key`. -/
def isOutgoing (m : TxMap) (id : TxId) : Bool := (m.outgoingTxMap.lookup id).isSome

/-- `incoming_tx_map.contains_key`. -/
def isIncoming (m : TxMap) (id : TxId) : Bool := (m.incomingTxMap.lookup id).isSome

end TxMap

/-- `determine_incoming_lockup_and_claim_txs`: the lockup and the claim of an incoming swap, told apart
by the wallet map and, when it knows neither, by the confirmation heights. -/
def determineIncomingLockupAndClaimTxs (history : List LBtcHistory) (txMap : TxMap) :
    Option LBtcHistory × Option LBtcHistory :=
  match history with
  | [only] => (some only, none)
  | [first, second] =>
      if txMap.isIncoming first.txid then (some second, some first)
      else if txMap.isIncoming second.txid then (some first, some second)
      else
        -- neither is our claim: a lockup and a swapper refund, expected at different heights
        match first.confirmed, second.confirmed with
        | true, true => if first.height < second.height then (some first, none) else (some second, none)
        | true, false => (some first, none)
        | false, true => (some second, none)
        | false, false => (none, none)
  | _ => (none, none)

/-! ## Send swaps -/

/-- What the chain tells of a send swap. -/
structure RecoveredOnchainDataSend where
  lockupTxId : Option LBtcHistory
  claimTxId : Option LBtcHistory
  refundTxId : Option LBtcHistory
  preimage : Option String := none
  deriving DecidableEq, Repr

namespace SendSwapHandler

/-- `recover_onchain_data` for send swaps: our lockup and our refund are known to the map, the claim is not.
-/
def recoverOnchainData (txMap : TxMap) (walletHistory : List LBtcHistory) :
    RecoveredOnchainDataSend :=
  let lockupTxId := walletHistory.find? fun tx => txMap.isOutgoing tx.txid
  let claimTxId :=
    -- without the lockup, the first unknown transaction could be the lockup itself
    if lockupTxId.isSome then
      (walletHistory.filter fun tx => !txMap.isIncoming tx.txid).find? fun tx =>
        !txMap.isOutgoing tx.txid
    else none
  let refundTxId := walletHistory.find? fun tx => txMap.isIncoming tx.txid
  { lockupTxId, claimTxId, refundTxId }

/-- `derive_partial_state`; no state where the chain does not decide it. -/
def derivePartialState (r : RecoveredOnchainDataSend) (preimage : Option String)
    (isExpired : Bool) : Option PaymentState :=
  match r.lockupTxId with
  | some _ =>
      match preimage with
      | some _ => some .complete
      | none =>
          match r.refundTxId with
          | some refundTxId => if refundTxId.confirmed then some .failed else some .refundPending
          | none => if isExpired then some .refundPending else some .pending
  | none => if isExpired then some .failed else none

/-- Within the grace period a recorded lockup or refund that is not found is kept: nothing is recovered then. -/
def shouldSkipRecovery (sendSwap : SendSwap) (r : RecoveredOnchainDataSend)
    (isWithinGracePeriod : Bool) : Bool :=
  let lockupIsCleared := sendSwap.lockupTxId.isSome && r.lockupTxId.isNone
  let refundIsCleared := sendSwap.refundTxId.isSome && r.refundTxId.isNone
  isWithinGracePeriod && (lockupIsCleared || refundIsCleared)

/-- `update_swap`. `verifyPaymentHash` tells whether a preimage pays the swap's invoice. -/
def updateSwap (verifyPaymentHash : String → String → Bool) (sendSwap : SendSwap)
    (r : RecoveredOnchainDataSend) (currentBlockHeight : Nat) (isWithinGracePeriod : Bool) :
    SendSwap :=
  if shouldSkipRecovery sendSwap r isWithinGracePeriod then sendSwap
  else
    let sendSwap := { sendSwap with
      lockupTxId := r.lockupTxId.map History.txid
      refundTxId := r.refundTxId.map History.txid }
    let sendSwap :=
      match r.preimage with
      | some preimage =>
          if verifyPaymentHash preimage sendSwap.invoice
          then { sendSwap with preimage := some preimage } else sendSwap
      | none => sendSwap
    -- `timeout_block_height as u32`
    let isExpired : Bool := sendSwap.timeoutBlockHeight % 2 ^ 32 ≤ currentBlockHeight
    match derivePartialState r sendSwap.preimage isExpired with
    | some newState => { sendSwap with state := newState }
    | none => sendSwap

/-- `extract_preimage_from_claim_tx`: the second element of the first input's witness, when it has the
length of a hash. -/
def extractPreimageFromClaimTx (hashFromSlice : String → Option String)
    (claimTx : LBtcTransaction) : Except Err String := do
  let input ← okOr claimTx.input.head? "Found no input for claim tx"
  let preimageBytes ← okOr input.scriptWitness[1]? "Claim tx witness has no preimage"
  okOr (hashFromSlice preimageBytes) "Claim tx witness has invalid preimage"

end SendSwapHandler

/-! ## Receive swaps -/

/-- The histories of the two scripts a receive swap may be paid at. -/
structure ReceiveSwapHistory where
  lbtcClaimScriptHistory : List LBtcHistory
  lbtcMrhScriptHistory : List LBtcHistory
  deriving DecidableEq, Repr

/-- What the chain tells of a receive swap. -/
structure RecoveredOnchainDataReceive where
  lockupTxId : Option LBtcHistory
  claimTxId : Option LBtcHistory
  mrhTxId : Option LBtcHistory
  mrhAmountSat : Option Nat
  deriving DecidableEq, Repr

namespace ReceiveSwapHandler

/-- Only transactions after the swap's creation that bring at least the receiver amount in L-BTC can
be payments to the routing-hint address. -/
def isMrhTx (swapTimestamp receiverAmountSat : Nat) (lbtcAssetId : AssetId) (tx : WalletTx) : Bool :=
  (match tx.timestamp with | some t => decide (swapTimestamp < t) | none => true) &&
    (match tx.balance.lookup lbtcAssetId with
      | some amount => decide (receiverAmountSat ≤ amount.natAbs)
      | none => false)

/-- `recover_onchain_data` for receive swaps. -/
def recoverOnchainData (txMap : TxMap) (history : ReceiveSwapHistory)
    (swapTimestamp receiverAmountSat : Nat) (lbtcAssetId : AssetId) :
    RecoveredOnchainDataReceive :=
  let mrhTxs : HashMap TxId WalletTx := HashMap.ofList <|
    ((history.lbtcMrhScriptHistory.filterMap fun h => txMap.incomingTxMap.lookup h.txid).filter
      (isMrhTx swapTimestamp receiverAmountSat lbtcAssetId)).map fun tx => (tx.txid, tx)
  let mrhTxId := history.lbtcMrhScriptHistory.find? fun tx => (mrhTxs.lookup tx.txid).isSome
  let mrhAmountSat := do
    let tx ← mrhTxs.lookup (← mrhTxId).txid
    return (← tx.balance.lookup lbtcAssetId).natAbs
  let (lockupTxId, claimTxId) :=
    determineIncomingLockupAndClaimTxs history.lbtcClaimScriptHistory txMap
  match lockupTxId with
  | some _ => { lockupTxId, claimTxId, mrhTxId := none, mrhAmountSat := none }
  | none => { lockupTxId := none, claimTxId := none, mrhTxId, mrhAmountSat }

/-- A claim decides before an expiry does. -/
def derivePartialState (r : RecoveredOnchainDataReceive) (isExpired : Bool) : Option PaymentState :=
  match r.lockupTxId with
  | some _ =>
      match r.claimTxId with
      | some claimTxId => if claimTxId.confirmed then some .complete else some .pending
      | none => if isExpired then some .failed else some .pending
  | none =>
      match r.mrhTxId with
      | some mrhTxId => if mrhTxId.confirmed then some .complete else some .pending
      | none => if isExpired then some .failed else none

/-- Likewise a claim that is not found. -/
def shouldSkipRecovery (receiveSwap : ReceiveSwap) (r : RecoveredOnchainDataReceive)
    (isWithinGracePeriod : Bool) : Bool :=
  isWithinGracePeriod && (receiveSwap.claimTxId.isSome && r.claimTxId.isNone)

/-- `update_swap` for receive swaps. -/
def updateSwap (receiveSwap : ReceiveSwap) (r : RecoveredOnchainDataReceive)
    (currentBlockHeight : Nat) (isWithinGracePeriod : Bool) : ReceiveSwap :=
  if shouldSkipRecovery receiveSwap r isWithinGracePeriod then receiveSwap
  else
    let isExpired : Bool := receiveSwap.timeoutBlockHeight ≤ currentBlockHeight
    let receiveSwap :=
      match derivePartialState r isExpired with
      | some newState => { receiveSwap with state := newState }
      | none => receiveSwap
    let receiveSwap := { receiveSwap with
      claimTxId := r.claimTxId.map History.txid
      mrhTxId := r.mrhTxId.map History.txid
      lockupTxId := r.lockupTxId.map History.txid }
    match r.mrhAmountSat with
    | some mrhAmountSat =>
        { receiveSwap with payerAmountSat := mrhAmountSat, receiverAmountSat := mrhAmountSat }
    | none => receiveSwap

end ReceiveSwapHandler

/-! ## Outgoing chain swaps -/

/-- The histories of the two scripts of an outgoing chain swap. -/
structure SendChainSwapHistory where
  lbtcLockupScriptHistory : List LBtcHistory
  btcClaimScriptHistory : List BtcHistory
  btcClaimScriptTxs : List BtcTransaction
  deriving DecidableEq, Repr

/-- What the two chains tell of an outgoing chain swap. -/
structure RecoveredOnchainDataChainSend where
  lbtcUserLockupTxId : Option LBtcHistory
  lbtcRefundTxId : Option LBtcHistory
  btcServerLockupTxId : Option BtcHistory
  btcClaimTxId : Option BtcHistory
  deriving DecidableEq, Repr

/-- Some output of the transaction pays the script. -/
def pays (script : Script) (tx : BtcTransaction) : Bool :=
  tx.output.any fun out => out.scriptPubkey == script

namespace ChainSendSwapHandler

/-- `recover_onchain_data` for outgoing chain swaps. -/
def recoverOnchainData (txMap : TxMap) (history : SendChainSwapHistory) (claimScript : Script) :
    RecoveredOnchainDataChainSend :=
  let lbtcUserLockupTxId :=
    history.lbtcLockupScriptHistory.find? fun tx => txMap.isOutgoing tx.txid
  let lbtcRefundTxId :=
    history.lbtcLockupScriptHistory.find? fun tx => txMap.isIncoming tx.txid
  let (btcServerLockupTxId, btcClaimTxId) :=
    match history.btcClaimScriptHistory with
    | [only] => (some only, none)
    | [firstTxId, secondTxId] =>
        -- `btc_claim_script_txs[0]`: the transactions of a history are fetched along with it
        match history.btcClaimScriptTxs with
        | firstTx :: _ =>
            if pays claimScript firstTx then (some firstTxId, some secondTxId)
            else (some secondTxId, some firstTxId)
        | [] => (none, none)
    | _ => (none, none)
  { lbtcUserLockupTxId, lbtcRefundTxId, btcServerLockupTxId, btcClaimTxId }

def derivePartialState (r : RecoveredOnchainDataChainSend) (isExpired : Bool) :
    Option PaymentState :=
  match r.lbtcUserLockupTxId with
  | some _ =>
      match r.btcClaimTxId, r.lbtcRefundTxId with
      | some btcClaimTxId, none => if btcClaimTxId.confirmed then some .complete else some .pending
      | none, some lbtcRefundTxId =>
          if lbtcRefundTxId.confirmed then some .failed else some .refundPending
      | some btcClaimTxId, some lbtcRefundTxId =>
          if btcClaimTxId.confirmed then
            if lbtcRefundTxId.confirmed then some .complete else some .refundPending
          else some .pending
      | none, none => if isExpired then some .refundPending else some .pending
  | none => if isExpired then some .failed else none

/-- Likewise the lockup, the refund or the claim. -/
def shouldSkipRecovery (chainSwap : ChainSwap) (r : RecoveredOnchainDataChainSend)
    (isWithinGracePeriod : Bool) : Bool :=
  let lockupIsCleared := chainSwap.userLockupTxId.isSome && r.lbtcUserLockupTxId.isNone
  let refundIsCleared := chainSwap.refundTxId.isSome && r.lbtcRefundTxId.isNone
  let claimIsCleared := chainSwap.claimTxId.isSome && r.btcClaimTxId.isNone
  isWithinGracePeriod && (lockupIsCleared || refundIsCleared || claimIsCleared)

/-- `update_swap` for outgoing chain swaps. -/
def updateSwap (chainSwap : ChainSwap) (r : RecoveredOnchainDataChainSend)
    (currentLiquidBlockHeight currentBitcoinBlockHeight : Nat) (isWithinGracePeriod : Bool) :
    ChainSwap :=
  if shouldSkipRecovery chainSwap r isWithinGracePeriod then chainSwap
  else
    let isExpired : Bool := chainSwap.timeoutBlockHeight ≤ currentLiquidBlockHeight ||
      chainSwap.claimTimeoutBlockHeight ≤ currentBitcoinBlockHeight
    let chainSwap :=
      match derivePartialState r isExpired with
      | some newState => { chainSwap with state := newState }
      | none => chainSwap
    { chainSwap with
      userLockupTxId := r.lbtcUserLockupTxId.map History.txid
      refundTxId := r.lbtcRefundTxId.map History.txid
      serverLockupTxId := r.btcServerLockupTxId.map History.txid
      claimTxId := r.btcClaimTxId.map History.txid }

end ChainSendSwapHandler

/-! ## Incoming chain swaps -/

/-- The histories of the two scripts of an incoming chain swap. -/
structure ReceiveChainSwapHistory where
  lbtcClaimScriptHistory : List LBtcHistory
  btcLockupScriptHistory : List BtcHistory
  btcLockupScriptTxs : List BtcTransaction
  btcLockupScriptBalance : Option BtcScriptBalance
  deriving DecidableEq, Repr

/-- What the two chains tell of an incoming chain swap. -/
@[ext]
structure RecoveredOnchainDataChainReceive where
  lbtcServerLockupTxId : Option LBtcHistory
  lbtcClaimTxId : Option LBtcHistory
  lbtcClaimAddress : Option Address
  btcUserLockupTxId : Option BtcHistory
  btcUserLockupAddressBalanceSat : Nat
  btcUserLockupAmountSat : Nat
  btcRefundTxId : Option BtcHistory
  deriving DecidableEq, Repr

namespace ChainReceiveSwapHandler

/-- The history entry of a fetched transaction. -/
def historyOf (history : List BtcHistory) (tx : BtcTransaction) : Option BtcHistory :=
  history.find? fun h => h.txid == tx.txid

/-- The last entry at height zero, or else the last entry. -/
def lastOutgoing (ids : List BtcHistory) : Option BtcHistory :=
  (ids.reverse.find? fun h => h.height == 0).or ids.getLast?

/-- A refund is found wherever there are candidates. -/
theorem lastOutgoing_eq_none {ids : List BtcHistory} : lastOutgoing ids = none ↔ ids = [] := by
  simp only [lastOutgoing, Option.or_eq_none_iff, List.getLast?_eq_none_iff]
  exact ⟨And.right, fun h => ⟨by simp [h], h⟩⟩

/-- `recover_onchain_data`. `addressFromScript` is the wallet address of a script, blinded with the
master blinding key. -/
def recoverOnchainData (addressFromScript : Script → Option Address) (txMap : TxMap)
    (history : ReceiveChainSwapHistory) (lockupScript : Script) :
    RecoveredOnchainDataChainReceive :=
  let (lbtcServerLockupTxId, lbtcClaimTxId) :=
    determineIncomingLockupAndClaimTxs history.lbtcClaimScriptHistory txMap
  let lbtcClaimAddress := do
    let tx ← txMap.incomingTxMap.lookup (← lbtcClaimTxId).txid
    addressFromScript (← (← tx.outputs.find? Option.isSome))
  let btcUserLockupAddressBalanceSat :=
    (history.btcLockupScriptBalance.map BtcScriptBalance.confirmed).getD 0
  let btcLockupIncomingTxs := history.btcLockupScriptTxs.filter (pays lockupScript)
  let btcLockupOutgoingTxs := history.btcLockupScriptTxs.filter fun tx => !pays lockupScript tx
  let btcUserLockupTxId :=
    btcLockupIncomingTxs.head?.bind (historyOf history.btcLockupScriptHistory)
  let btcUserLockupAmountSat := ((do
    let out ← (← btcLockupIncomingTxs.head?).output.find? fun out => out.scriptPubkey == lockupScript
    return out.value) : Option Nat).getD 0
  let btcOutgoingTxIds := btcLockupOutgoingTxs.filterMap (historyOf history.btcLockupScriptHistory)
  let btcLastOutgoingTxId := lastOutgoing btcOutgoingTxIds
  let btcRefundTxId :=
    -- with a claim, one outgoing transaction is the swapper's claim of the user lockup
    if lbtcClaimTxId.isSome then
      if 1 < btcLockupOutgoingTxs.length then btcLastOutgoingTxId else none
    else btcLastOutgoingTxId
  { lbtcServerLockupTxId, lbtcClaimTxId, lbtcClaimAddress, btcUserLockupTxId,
    btcUserLockupAddressBalanceSat, btcUserLockupAmountSat, btcRefundTxId }

/-- The amount of the lockup decides whether the swap can go on: it is the expected one, or else within the
limits. -/
def derivePartialState (r : RecoveredOnchainDataChainReceive)
    (expectedUserLockupAmountSat : Option Nat) (swapLimits : Option PairLimits)
    (isExpired isWaitingFeeAcceptance : Bool) : Option PaymentState :=
  let unexpectedAmount := expectedUserLockupAmountSat.any (· != r.btcUserLockupAmountSat)
  let amountOutOfBounds := swapLimits.any fun limits =>
    r.btcUserLockupAmountSat < limits.minimal || limits.maximal < r.btcUserLockupAmountSat
  let isExpiredRefundable := isExpired && 0 < r.btcUserLockupAddressBalanceSat
  let isRefundable := isExpiredRefundable || unexpectedAmount || amountOutOfBounds
  match r.btcUserLockupTxId with
  | some _ =>
      match r.lbtcClaimTxId, r.btcRefundTxId with
      | some lbtcClaimTxId, none =>
          if lbtcClaimTxId.confirmed then
            if isExpiredRefundable then some .refundable else some .complete
          else some .pending
      | none, some btcRefundTxId =>
          if btcRefundTxId.confirmed then
            if isExpiredRefundable then some .refundable else some .failed
          else some .refundPending
      | some lbtcClaimTxId, some btcRefundTxId =>
          if lbtcClaimTxId.confirmed then
            if btcRefundTxId.confirmed then
              if isExpiredRefundable then some .refundable else some .complete
            else some .refundPending
          else some .pending
      | none, none =>
          if isRefundable then some .refundable
          else if isWaitingFeeAcceptance then some .waitingFeeAcceptance else some .pending
  | none => if isExpired then some .failed else none

/-- Likewise the claim or the refund. -/
def shouldSkipRecovery (chainSwap : ChainSwap) (r : RecoveredOnchainDataChainReceive)
    (isWithinGracePeriod : Bool) : Bool :=
  let claimIsCleared := chainSwap.claimTxId.isSome && r.lbtcClaimTxId.isNone
  let refundIsCleared := chainSwap.refundTxId.isSome && r.btcRefundTxId.isNone
  isWithinGracePeriod && (claimIsCleared || refundIsCleared)

/-- `update_swap`: the swap afterwards, and the error if it ended with one. The actual payer amount is
already written when reading the pair of a zero-amount swap fails. -/
def updateSwap (bz : BoltzClient) (chainSwap : ChainSwap) (r : RecoveredOnchainDataChainReceive)
    (currentLiquidBlockHeight currentBitcoinBlockHeight : Nat) (isWithinGracePeriod : Bool) :
    ChainSwap × Except Err Unit :=
  if shouldSkipRecovery chainSwap r isWithinGracePeriod then (chainSwap, .ok ())
  else
    let chainSwap :=
      if 0 < r.btcUserLockupAmountSat
      then { chainSwap with actualPayerAmountSat := some r.btcUserLockupAmountSat } else chainSwap
    let isExpired : Bool := chainSwap.claimTimeoutBlockHeight ≤ currentLiquidBlockHeight ||
      chainSwap.timeoutBlockHeight ≤ currentBitcoinBlockHeight
    let limits : Except Err (Option Nat × Option PairLimits) :=
      if chainSwap.payerAmountSat = 0 then
        (chainSwap.getBoltzPair bz).map fun pair => (none, some pair.limits)
      else .ok (some chainSwap.payerAmountSat, none)
    match limits with
    | .error err => (chainSwap, .error err)
    | .ok (expectedUserLockupAmountSat, swapLimits) =>
        let chainSwap :=
          match derivePartialState r expectedUserLockupAmountSat swapLimits isExpired
            chainSwap.isWaitingFeeAcceptance with
          | some newState => { chainSwap with state := newState }
          | none => chainSwap
        ({ chainSwap with
          serverLockupTxId := r.lbtcServerLockupTxId.map History.txid
          claimAddress := r.lbtcClaimAddress
          userLockupTxId := r.btcUserLockupTxId.map History.txid
          claimTxId := r.lbtcClaimTxId.map History.txid
          refundTxId := r.btcRefundTxId.map History.txid }, .ok ())

end ChainReceiveSwapHandler

end BreezLiquid.Recover
