/-
# BreezLiquid.Receive.Handler — the handler of receive swaps.

The swapper reports its lockup by a status update that carries an id and, next to it, the transaction in
hex. In the mempool the handler broadcasts the reported transaction itself; otherwise it looks the id up in
the history of the swap script (`verifyTx`). The amount is checked in both cases before the swap is
claimed, and a rescan on every block repeats both checks for the id that was recorded.
-/
import BreezLiquid.Chain.Handler

namespace BreezLiquid.Receive

open Interleaving Recover Chain Wrapping

/-- `validate_state_transition`. -/
def validateStateTransition (fromState toState : PaymentState) : Except Err Unit :=
  match fromState, toState with
  | _, .created => .error (.generic "Cannot transition to Created state")
  | .created, .pending | .pending, .pending => .ok ()
  | .created, .complete | .pending, .complete => .ok ()
  | .created, .timedOut | .timedOut, .timedOut => .ok ()
  | .complete, .failed => fromState.refuse toState
  | _, .failed => .ok ()
  | _, _ => fromState.refuse toState

/-- The maximum acceptable amount when claiming using zero-conf. -/
def DEFAULT_ZERO_CONF_MAX_SAT : Nat := 1000000

section Tasks

variable (sdk : Sdk)

def fetchReceiveSwapById (swapId : SwapId) : Async ReceiveSwap := do
  let swap ← fetch (·.fetchReceiveSwapById swapId)
  Task.ofExcept (okOr swap ("Receive Swap not found " ++ swapId))

/-- `insert_or_update_receive_swap`: the row is read first, outside the transaction. -/
def insertOrUpdateReceiveSwap (swap : ReceiveSwap) : Async Unit := do
  let maybeSwap ← fetch (·.fetchReceiveSwapById swap.id)
  tryWrite fun now db => db.insertOrUpdateReceiveSwap sdk.persister now maybeSwap swap

/-- `update_swap`, without state transition validation. -/
def updateSwap (updatedSwap : ReceiveSwap) : Async Unit := do
  let swap ← fetchReceiveSwapById updatedSwap.id
  if !updatedSwap.sameAs swap then insertOrUpdateReceiveSwap sdk updatedSwap else return ()

/-- `update_swap_info`, with state transition validation. -/
def updateSwapInfo (swapId : SwapId) (toState : PaymentState)
    (claimTxId lockupTxId mrhTxId : Option TxId) (mrhAmountSat : Option Nat) : Async Unit := do
  let swap ← fetchReceiveSwapById swapId
  Task.ofExcept (validateStateTransition swap.state toState)
  write fun now db => db.tryHandleReceiveSwapUpdate now swapId toState claimTxId lockupTxId mrhTxId
    mrhAmountSat
  let _ ← fetchReceiveSwapById swapId
  if mrhTxId.isSome then write fun _ db => db.deleteReservedAddress swap.mrhAddress else return ()

/-! ## The lockup -/

/-- `get_script_history_with_retry`, with the number of requests it makes at most. -/
def getScriptHistoryWithRetry (script : Script) : Nat → Async (List LBtcHistory)
  | 0 => return []
  | attempts + 1 => do
      let scriptHistory ← Task.askOk (.liquidScriptHistory script) rfl
      if scriptHistory.isEmpty then do
        Task.ask (Call.sleep 1)
        getScriptHistoryWithRetry script attempts
      else return scriptHistory

/-- The end of `verify_tx`: the transaction in hex has the id that was found in the history. -/
def checkTx (history : LBtcHistory) (txId : TxId) (txHex : String) (verifyConfirmation : Bool) :
    Except Err LBtcTransaction := do
  let tx ← okOr (sdk.deserializeTxHex txHex) "Could not deserialize transaction"
  if tx.txid ≠ history.txid then
    .error (.generic ("Liquid transaction id and hex do not match: " ++ txId ++ " vs " ++ tx.txid))
  else if verifyConfirmation ∧ history.height ≤ 0 then
    .error (.generic ("Liquid transaction was not confirmed, txid=" ++ txId ++
      " waiting for confirmation"))
  else .ok tx

/-- `verify_tx` of the Liquid chain service. -/
def verifyTx (address : Script) (txId : TxId) (txHex : String) (verifyConfirmation : Bool) :
    Async LBtcTransaction := do
  let scriptHistory ← getScriptHistoryWithRetry address 31
  let history ← Task.ofExcept (okOr (scriptHistory.find? fun h => h.txid = txId)
    ("Liquid transaction was not found, txid=" ++ txId ++ " waiting for broadcast"))
  Task.ofExcept (checkTx sdk history txId txHex verifyConfirmation)

/-- The script pubkey of the swap's address. -/
def swapAddress (receiveSwap : ReceiveSwap) : Except Err Script := do
  let script ← receiveSwap.getSwapScript sdk.bz
  okOr script.toAddress "Failed to get swap script address"

def verifyLockupTxStatus (receiveSwap : ReceiveSwap) (txId : TxId) (txHex : String)
    (verifyConfirmation : Bool) : Async LBtcTransaction := do
  let address ← Task.ofExcept (swapAddress sdk receiveSwap)
  verifyTx sdk address txId txHex verifyConfirmation

/-- What the first output to the script pays. -/
def lockupAmount (address : Script) (tx : LBtcTransaction) : Except Err Nat := do
  let txOut ← okOr (tx.output.find? fun out => out.scriptPubkey = address) "Failed to get tx output"
  okOr (txOut.unblinded.map Prod.snd) "Failed to unblind the output"

def expectedLockupAmountSat (receiveSwap : ReceiveSwap) : Nat :=
  u64Add receiveSwap.receiverAmountSat receiveSwap.claimFeesSat

/-- `verify_lockup_tx_amount`, before it is noted that it succeeded. -/
def checkLockupAmount (receiveSwap : ReceiveSwap) (lockupTx : LBtcTransaction) : Except Err Unit := do
  let address ← swapAddress sdk receiveSwap
  let createResponse ← receiveSwap.getBoltzCreateResponse sdk.bz
  let _ ← okOr createResponse.blindingKey "Missing blinding key"
  let lockupAmountSat ← lockupAmount address lockupTx
  let expected := expectedLockupAmountSat receiveSwap
  if lockupAmountSat < expected then
    .error (.generic ("Failed to verify lockup amount for Receive Swap " ++ receiveSwap.id ++ ": " ++
      toString expected ++ " sat vs " ++ toString lockupAmountSat ++ " sat"))
  else .ok ()

def verifyLockupTxAmount (receiveSwap : ReceiveSwap) (lockupTx : LBtcTransaction) : Async Unit := do
  Task.ofExcept (checkLockupAmount sdk receiveSwap lockupTx)
  note (.receiveAmountChecked receiveSwap lockupTx)

/-! ## Claiming -/

/-- Broadcast via the chain service, then via the swapper. -/
def broadcastClaim (swapId : SwapId) (tx : LBtcTransaction) : Async TxId := do
  match ← (Task.askOk (.liquidBroadcast (.claim swapId) tx) (Call.answer_broadcastClaim swapId tx)).attempt with
  | .ok txId => return txId
  | .error err =>
      if isTxnMempoolConflictError err then Task.throw .alreadyClaimed
      else Task.askOk (.broadcastTx (.claim swapId) tx) (Call.answer_broadcastTx swapId tx)

/-- The claim address of the swap, or else an unused one, which is then set. -/
def ensureClaimAddress (swap : ReceiveSwap) : Async Address :=
  match swap.claimAddress with
  | some claimAddress => return claimAddress
  | none => do
      let address ← Task.askOk .nextUnusedAddress Call.answer_nextUnusedAddress
      write fun now db => db.setReceiveSwapClaimAddress now swap.id address
      return address

/-- The claim transaction, which has to be a Liquid one. -/
def createClaimTx (swap : ReceiveSwap) (claimAddress : Address) : Async LBtcTransaction := do
  match ← Task.askOk (.createReceiveClaimTx swap claimAddress) rfl with
  | .liquid claimTx => return claimTx
  | .bitcoin _ =>
      Task.throw (.generic ("Constructed invalid transaction for Receive swap " ++ swap.id))

/-- Set the claim, broadcast it, and unset it if that fails. -/
def postClaim (swapId : SwapId) (claimTx : LBtcTransaction) : Async Unit := do
  -- if another claim has been set in the meantime, this one is not broadcast
  tryWrite fun now db => db.setReceiveSwapClaimTxId now swapId claimTx.txid
  match ← (broadcastClaim swapId claimTx).attempt with
  | .ok claimTxId =>
      write fun now db => db.insertOrUpdatePayment now { txId := claimTxId, timestamp := some now }
  | .error err => do
      write fun now db => db.unsetReceiveSwapClaimTxId now swapId claimTx.txid
      Task.throw err

def claimInner (swapId : SwapId) : Async Unit := do
  let swap ← fetchReceiveSwapById swapId
  if swap.claimTxId.isSome then Task.throw .alreadyClaimed
  else do
    let claimAddress ← ensureClaimAddress swap
    let claimTx ← createClaimTx swap claimAddress
    postClaim swapId claimTx

/-- `claim` is reached; a swap whose claim is in progress is left alone. -/
def enterClaim (swapId : SwapId) (w : World) : World :=
  ({ w with
      claimingReceiveSwaps :=
        if swapId ∈ w.claimingReceiveSwaps then w.claimingReceiveSwaps
        else swapId :: w.claimingReceiveSwaps } : World).note (.receiveClaimReached swapId)

def leaveClaim (swapId : SwapId) (w : World) : World :=
  { w with claimingReceiveSwaps := w.claimingReceiveSwaps.filter (· ≠ swapId) }

def claim (swapId : SwapId) : Async Unit :=
  .atomic (enterClaim swapId) fun w =>
    if swapId ∈ w.claimingReceiveSwaps then return ()
    else do
      let result ← (claimInner swapId).attempt
      Task.modify (leaveClaim swapId)
      Task.ofExcept result

section Within

variable {F : (World → World) → Prop} {G : Call → Prop} {swapId : SwapId}

/-- What a claim does, beside its broadcast. -/
theorem within_claimInner (hid : F id) (haddress : G .nextUnusedAddress)
    (hcreate : ∀ swap claimAddress, G (.createReceiveClaimTx swap claimAddress))
    (hsetAddress : ∀ id address, F (World.write fun now db => db.setReceiveSwapClaimAddress now id address))
    (hset : ∀ txId, F (World.tryWrite fun now db => db.setReceiveSwapClaimTxId now swapId txId))
    (hunset : ∀ txId, F (World.write fun now db => db.unsetReceiveSwapClaimTxId now swapId txId))
    (hpayment : ∀ txId, F (World.write fun now db =>
      db.insertOrUpdatePayment now { txId, timestamp := some now }))
    (hbroadcast : ∀ tx, (broadcastClaim swapId tx).Within F G) : (claimInner swapId).Within F G := by
  refine Task.Within.bind (Task.Within.bind (within_fetch hid _) fun _ => Task.within_done _) fun swap => ?_
  split
  · exact Task.within_done _
  · refine Task.Within.bind ?_ fun claimAddress => Task.Within.bind ?_ fun claimTx => ?_
    · unfold ensureClaimAddress
      split
      · exact Task.within_done _
      · refine Task.Within.bind (Task.within_askOk haddress _) fun address => ?_
        exact Task.Within.bind (within_write (hsetAddress swap.id address)) fun _ => Task.within_done _
    · refine Task.Within.bind (Task.within_askOk (hcreate swap claimAddress) rfl) fun tx => ?_
      split
      · exact Task.within_done _
      · exact Task.within_done _
    · refine Task.Within.bind (within_tryWrite (hset _)) fun _ => ?_
      refine Task.Within.bind (hbroadcast claimTx).attempt fun res => ?_
      cases res with
      | ok claimTxId => exact within_write (hpayment claimTxId)
      | error err => exact Task.Within.bind (within_write (hunset _)) fun _ => Task.within_done _

theorem within_claim (henter : F (enterClaim swapId)) (hleave : F (leaveClaim swapId))
    (hinner : (claimInner swapId).Within F G) : (claim swapId).Within F G := by
  refine ⟨henter, fun w => ?_⟩
  dsimp only
  split
  · exact Task.within_done _
  · refine Task.Within.bind hinner.attempt fun result => ?_
    exact Task.Within.bind (Task.within_modify hleave) fun _ => Task.within_done _

end Within

/-- A claim whose error is only logged. -/
def tryClaim (swapId : SwapId) : Async Unit := do
  let _ ← (claim swapId).attempt
  return ()

/-! ## Rescans on blocks -/

def claimConfirmedLockup (receiveSwap : ReceiveSwap) : Async Unit :=
  match receiveSwap.lockupTxId with
  | none => return ()
  | some txId => do
      let found ← Task.askOk (.liquidTransactionHex txId) rfl
      let tx ← Task.ofExcept (okOr found
        ("Lockup tx not found for Receive swap " ++ receiveSwap.id))
      let lockupTx ← verifyLockupTxStatus sdk receiveSwap txId (sdk.serializeTx tx) true
      match ← (verifyLockupTxAmount sdk receiveSwap lockupTx).attempt with
      | .error err => do
          updateSwapInfo receiveSwap.id .failed none none none none
          Task.throw err
      | .ok _ =>
          mapErr (Err.after ("Could not claim Receive Swap " ++ receiveSwap.id ++ ": "))
            (claim receiveSwap.id)

/-- The swaps whose lockups are rescanned on a block. -/
def rescannable (db : Db) : List ReceiveSwap :=
  db.listOngoingReceiveSwaps.filter fun s => s.lockupTxId.isSome && s.claimTxId.isNone

def claimConfirmedLockups : Async Unit := do
  let receiveSwaps ← fetch rescannable
  Task.forEach receiveSwaps fun swap => do
    let _ ← (claimConfirmedLockup sdk swap).attempt
    return ()

def onLiquidBlock : Async Unit := do
  let _ ← (claimConfirmedLockups sdk).attempt
  return ()

/-! ## Status updates -/

/-- A swap that cannot succeed any more, unless it was paid directly. -/
def onUnrecoverable (receiveSwap : ReceiveSwap) (swapId : SwapId) : Async Unit :=
  match receiveSwap.mrhTxId with
  | some _ => return ()
  | none => updateSwapInfo swapId .failed none none none none

/-- A swap that was paid directly is not to be claimed. -/
def refuseMrh (receiveSwap : ReceiveSwap) (swapId : SwapId) : Async Unit :=
  match receiveSwap.mrhTxId with
  | some mrhTxId => Task.throw (.generic ("MRH tx for Receive Swap " ++ swapId ++
      " was already broadcast, ignoring swap: txid " ++ mrhTxId))
  | none => return ()

/-- Broadcast a reported lockup; if that fails, look for it in the mempool. -/
def broadcastReported (receiveSwap : ReceiveSwap) (transaction : TransactionInfo) (txHex : String)
    (lockupTx : LBtcTransaction) : Async Unit := do
  match ← (Task.askOk (.liquidBroadcast (.reported receiveSwap.id transaction.id) lockupTx)
    rfl).attempt with
  | .ok _ => return ()
  | .error _ => do
      let _ ← mapErr (Err.after ("Swapper mempool reported lockup could not be verified. txid: " ++
          transaction.id ++ ", err: "))
        (verifyLockupTxStatus sdk receiveSwap transaction.id txHex false)
      return ()

/-- The amount check of a reported lockup; an underpaid swap fails. -/
def requireLockupAmount (receiveSwap : ReceiveSwap) (swapId : SwapId)
    (transaction : TransactionInfo) (lockupTx : LBtcTransaction) : Async Unit := do
  match ← (verifyLockupTxAmount sdk receiveSwap lockupTx).attempt with
  | .ok _ => return ()
  | .error err => do
      updateSwapInfo swapId .failed none none none none
      Task.throw (Err.after ("Swapper underpaid lockup amount. txid: " ++ transaction.id ++
        ", err: ") err)

/-- The zero-conf claim: small amounts, and no explicit RBF. -/
def claimZeroConf (receiveSwap : ReceiveSwap) (swapId : SwapId) (lockupTx : LBtcTransaction) :
    Async Unit :=
  if sdk.zeroConfMaxAmountSat.getD DEFAULT_ZERO_CONF_MAX_SAT < receiveSwap.receiverAmountSat then
    return ()
  else if lockupTx.input.any TxIn.isRbf then return ()
  else tryClaim swapId

/-- The lockup is in the mempool: broadcast and check it, record its id, and claim if zero-conf. -/
def onTransactionMempool (receiveSwap : ReceiveSwap) (update : SwapStatus) : Async Unit := do
  let transaction ← serverTransaction update
  match receiveSwap.claimTxId with
  | some claimTxId => Task.throw (.generic ("Claim tx for Receive Swap " ++ update.id ++
      " was already broadcast: txid " ++ claimTxId))
  | none => do
      refuseMrh receiveSwap update.id
      let txHex ← Task.ofExcept (okOr transaction.hex
        "Missing lockup transaction hex in swap status update")
      let lockupTx ← Task.ofExcept (okOr (sdk.deserializeTxHex txHex)
        "Failed to deserialize tx hex in swap status update")
      broadcastReported sdk receiveSwap transaction txHex lockupTx
      requireLockupAmount sdk receiveSwap update.id transaction lockupTx
      updateSwapInfo update.id .pending none (some transaction.id) none none
      claimZeroConf sdk receiveSwap update.id lockupTx

/-- The lockup is confirmed: check it and claim. -/
def onTransactionConfirmed (receiveSwap : ReceiveSwap) (update : SwapStatus) : Async Unit := do
  let transaction ← serverTransaction update
  refuseMrh receiveSwap update.id
  let txHex ← Task.ofExcept (okOr transaction.hex
    "Missing lockup transaction hex in swap status update")
  let lockupTx ← mapErr (Err.after ("Swapper reported lockup could not be verified. txid: " ++
      transaction.id ++ ", err: "))
    (verifyLockupTxStatus sdk receiveSwap transaction.id txHex true)
  requireLockupAmount sdk receiveSwap update.id transaction lockupTx
  match receiveSwap.claimTxId with
  | some _ => return ()
  | none => do
      updateSwapInfo receiveSwap.id .pending none none none none
      tryClaim update.id

def onNewStatus (update : SwapStatus) : Async Unit := do
  let swapState ← Task.ofExcept (okOr (sdk.bz.revSwapStates update.status)
    ("Invalid RevSwapState for Receive Swap " ++ update.id ++ ": " ++ update.status))
  let receiveSwap ← fetchReceiveSwapById update.id
  match swapState with
  | .swapExpired | .invoiceExpired | .transactionFailed | .transactionRefunded =>
      onUnrecoverable receiveSwap update.id
  | .transactionMempool => onTransactionMempool sdk receiveSwap update
  | .transactionConfirmed => onTransactionConfirmed sdk receiveSwap update
  | .unhandled => return ()

/-! ## Recovered swaps -/

/-- The receive swaps at the end of `sync_payments_with_chain_data`: every recovered swap is written,
recovered or not; an error is only logged. -/
def persistRecovered (results : List (Swap × Outcome)) : Async Unit :=
  Task.forEach results fun result =>
    match result.1 with
    | .receive receiveSwap => do
        let _ ← (updateSwap sdk receiveSwap).attempt
        return ()
    | _ => return ()

/-- Recover swaps that were read before, and write the receive swaps among them. -/
def syncRecoverableSwaps (recoverableSwaps : List Swap) (chainTips : Option ChainTips) :
    Async Unit := do
  let (results, _) ← Recoverer.recoverFromOnchain sdk recoverableSwaps chainTips
  persistRecovered sdk results

end Tasks

end BreezLiquid.Receive
