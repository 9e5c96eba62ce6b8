/-
# BreezLiquid.Send.Handler — the handler of send swaps.

Status updates of the swapper (`onNewStatus`), the refunds tried on every block (`tryRefundAll`), the
lockup (`tryLockup`), and the two ways a swap row is updated: `updateSwapInfo` checks the state
transition and only fills in what is missing, `updateSwap` writes a recovered swap as it is.
-/
import BreezLiquid.Recover.Task

namespace BreezLiquid.Send

open Interleaving Recover

/-- `validate_state_transition`. -/
def validateStateTransition (fromState toState : PaymentState) : Except Err Unit :=
  match toState, fromState with
  | .created, .timedOut => .ok ()
  | .pending, .created | .pending, .pending => .ok ()
  | .complete, .created | .complete, .pending => .ok ()
  | .timedOut, .created | .timedOut, .timedOut => .ok ()
  | .refundPending, .pending => .ok ()
  | .failed, .complete => fromState.refuse toState
  | .failed, _ => .ok ()
  | _, _ => fromState.refuse toState

section Tasks

variable (sdk : Sdk)

def fetchSendSwapById (swapId : SwapId) : Async SendSwap := do
  let swap ← fetch (·.fetchSendSwapById swapId)
  Task.ofExcept (okOr swap ("Send Swap not found " ++ swapId))

/-- `update_swap_lnurl_info`: once the preimage is known, decrypt the AES success action. -/
def updateSwapLnurlInfo (swap updatedSwap : SendSwap) : Async Bool :=
  match swap.preimage, updatedSwap.lockupTxId, updatedSwap.preimage with
  | none, some txId, some preimage => do
      let details ← fetch (·.getPaymentDetails txId)
      match details with
      | some { destination, description, lnurlInfo := some lnurlInfo, bip353Address, .. } => do
          match ← Task.ofExcept (sdk.decryptAes lnurlInfo preimage) with
          | some lnurlInfo => do
              write fun now db => db.insertOrUpdatePaymentDetails sdk.persister now
                { txId, destination, description, lnurlInfo := some lnurlInfo, bip353Address }
              return true
          | none => return false
      | _ => return false
  | _, _, _ => return false

/-- `update_swap_info`, with state transition validation. -/
def updateSwapInfo (swapId : SwapId) (toState : PaymentState)
    (preimage lockupTxId refundTxId : Option String) : Async Unit := do
  let swap ← fetchSendSwapById swapId
  Task.ofExcept (validateStateTransition swap.state toState)
  write fun now db => db.tryHandleSendSwapUpdate sdk.persister now swapId toState preimage lockupTxId
    refundTxId
  let updatedSwap ← fetchSendSwapById swapId
  let _ ← updateSwapLnurlInfo sdk swap updatedSwap
  return ()

/-- `insert_or_update_send_swap`: the row is read first, outside the transaction. -/
def insertOrUpdateSendSwap (swap : SendSwap) : Async Unit := do
  let maybeSwap ← fetch (·.fetchSendSwapById swap.id)
  tryWrite fun now db => db.insertOrUpdateSendSwap sdk.persister now maybeSwap swap

/-- `update_swap`, without state transition validation. -/
def updateSwap (updatedSwap : SendSwap) : Async Unit := do
  let swap ← fetchSendSwapById updatedSwap.id
  let lnurlInfoUpdated ← updateSwapLnurlInfo sdk swap updatedSwap
  if !updatedSwap.sameAs swap ∨ lnurlInfoUpdated then insertOrUpdateSendSwap sdk updatedSwap
  else return ()

/-- The refund address of the swap, or else an unused one, which is then set. -/
def ensureRefundAddress (swap : SendSwap) : Async Address :=
  match swap.refundAddress with
  | some refundAddress => return refundAddress
  | none => do
      let address ← Task.askOk .nextUnusedAddress Call.answer_nextUnusedAddress
      write fun now db => db.setSendSwapRefundAddress now swap.id address
      return address

def cooperateClaim (swap : SendSwap) : Async Unit := do
  let refundAddress ← ensureRefundAddress swap
  Task.askOk (.claimSendSwapCooperative swap refundAddress) rfl

/-- The refund transaction of `refund`, up to its broadcast. -/
def createRefund (swap : SendSwap) (isCooperative : Bool) : Async LBtcTransaction := do
  let swapScript ← Task.ofExcept (swap.getSwapScript sdk.bz)
  let refundAddress ← ensureRefundAddress swap
  let scriptPk ← Task.ofExcept
    (okOr swapScript.toAddress "Could not retrieve address from swap script")
  let utxos ← Task.askOk (.liquidScriptUtxos scriptPk) (Call.answer_liquidScriptUtxos scriptPk)
  match ← Task.askOk (.createRefundTx (.send swap) refundAddress utxos isCooperative) rfl with
  | .liquid refundTx => return refundTx
  | .bitcoin _ =>
      Task.throw (.generic ("Unexpected refund tx type returned for Send swap " ++ swap.id))

def refund (swap : SendSwap) (isCooperative : Bool) : Async TxId := do
  let refundTx ← createRefund sdk swap isCooperative
  Task.askOk (.liquidBroadcast (.refund swap.id) refundTx) rfl

def checkSwapExpiry (swap : SendSwap) : Async Bool := do
  let now ← Task.reads World.now
  if now < swap.createdAt then Task.throw (.generic "second time provided was later than self")
  else if now - swap.createdAt < 60 * 10 then return false
  else do
    let swapScript ← Task.ofExcept (swap.getSwapScript sdk.bz)
    let currentHeight ← Task.ask .walletTip
    let locktimeFromHeight ← Task.ofExcept (LockTime.fromHeight currentHeight)
    return isLocktimeExpired locktimeFromHeight swapScript.locktime

/-- The refund attempts for a swap in `RefundPending`. -/
def refundPendingSwap (swap : SendSwap) (hasSwapExpired : Bool) : Async TxId :=
  if hasSwapExpired then do
    match ← (refund sdk swap true).attempt with
    | .ok refundTxId => return refundTxId
    | .error _ => refund sdk swap false
  else refund sdk swap true

/-- Record a refund; an error is only logged. -/
def recordRefund (swapId : SwapId) (refund : Except Err TxId) : Async Unit :=
  match refund with
  | .ok refundTxId => do
      let _ ← (updateSwapInfo sdk swapId .refundPending none none (some refundTxId)).attempt
      return ()
  | .error _ => return ()

/-- One round of the loop of `try_refund_all`. -/
def tryRefund (swap : SendSwap) : Async Unit :=
  if swap.refundTxId.isSome then return ()
  else do
    let expiry ← (checkSwapExpiry sdk swap).attempt
    let hasSwapExpired := expiry.toOption.getD false
    if hasSwapExpired = false ∧ swap.state = .pending then return ()
    else
      match swap.state with
      | .pending => do
          let refundTxIdResult ← (refund sdk swap false).attempt
          recordRefund sdk swap.id refundTxIdResult
      | .refundPending => do
          let refundTxIdResult ← (refundPendingSwap sdk swap hasSwapExpired).attempt
          recordRefund sdk swap.id refundTxIdResult
      | _ => return ()

def tryRefundAll (swaps : List SendSwap) : Async Unit := Task.forEach swaps (tryRefund sdk)

def checkRefunds : Async Unit := do
  let pendingSwaps ← fetch (·.listPendingSendSwaps)
  tryRefundAll sdk pendingSwaps

def onLiquidBlock : Async Unit := do
  let _ ← (checkRefunds sdk).attempt
  return ()

/-- The preimage of a pending claim: by cooperating, or else from the swapper. -/
def claimPendingPreimage (swap : SendSwap) : Async String := do
  let cooperative ← (do
    let preimage ← Task.askOk (.getSendClaimTxDetails swap) rfl
    cooperateClaim swap
    return preimage : Async String).attempt
  match cooperative with
  | .ok preimage => return preimage
  | .error _ => do
      let preimage ← Task.askOk (.getSubmarinePreimage swap.id) rfl
      if sdk.verifyPaymentHash preimage swap.invoice then return preimage
      else Task.throw .invalidPreimage

/-- A swap that cannot succeed any more: refund it if its lockup was broadcast. -/
def onUnrecoverable (swap : SendSwap) : Async Unit :=
  match swap.lockupTxId with
  | none => updateSwapInfo sdk swap.id .failed none none none
  | some _ =>
      match swap.refundTxId with
      | some _ => return ()
      | none => do
          let refundTxId ← (refund sdk swap true).attempt
          updateSwapInfo sdk swap.id .refundPending none none refundTxId.toOption

def onNewStatus (update : SwapStatus) : Async Unit := do
  let swapState ← Task.ofExcept (okOr (sdk.bz.subSwapStates update.status)
    ("Invalid SubSwapState for Send Swap " ++ update.id ++ ": " ++ update.status))
  let swap ← fetchSendSwapById update.id
  match swapState with
  | .transactionClaimPending =>
      if swap.metadata.isLocal then do
        let preimage ← claimPendingPreimage sdk swap
        updateSwapInfo sdk swap.id .complete (some preimage) none none
      else return ()
  | .transactionClaimed =>
      match swap.preimage with
      | some _ => return ()
      | none => do
          let (results, _) ← Recoverer.recoverFromOnchain sdk [.send swap] none
          match results with
          | (.send s, _) :: _ => updateSwap sdk s
          | _ => Task.throw (.generic "Expected a Send swap")
  | .transactionLockupFailed | .invoiceFailedToPay | .swapExpired => onUnrecoverable sdk swap
  | .invoiceSet | .unhandled => return ()

/-- `try_lockup`: the lockup id is set before the broadcast and unset if the broadcast fails. -/
def tryLockup (swap : SendSwap) (createResponse : InternalCreateSubmarineResponse) :
    Async LBtcTransaction :=
  if swap.lockupTxId.isSome then Task.throw .paymentInProgress
  else do
    let lockupTx ← Task.askOk
      (.buildTxOrDrainTx createResponse.address createResponse.expectedAmount) rfl
    tryWrite fun now db => db.setSendSwapLockupTxId now swap.id lockupTx.txid
    match ← (Task.askOk (.liquidBroadcast (.lockup swap.id) lockupTx) rfl).attempt with
    | .error err => do
        write fun now db => db.unsetSendSwapLockupTxId now swap.id lockupTx.txid
        Task.throw err
    | .ok _ => do
        write fun now db => db.insertOrUpdatePayment now
          { txId := lockupTx.txid, timestamp := some now, feesSat := lockupTx.feesSat }
        updateSwapInfo sdk swap.id .pending none (some lockupTx.txid) none
        return lockupTx

/-! ## Recovered swaps -/

/-- The send swaps at the end of `sync_payments_with_chain_data`: every recovered swap is written,
recovered or not; an error is only logged. -/
def persistRecovered (results : List (Swap × Outcome)) : Async Unit :=
  Task.forEach results fun result =>
    match result.1 with
    | .send sendSwap => do
        let _ ← (updateSwap sdk sendSwap).attempt
        return ()
    | _ => return ()

/-- Recover swaps that were read before, and write the send swaps among them. -/
def syncRecoverableSwaps (recoverableSwaps : List Swap) (chainTips : Option ChainTips) :
    Async Unit := do
  let (results, _) ← Recoverer.recoverFromOnchain sdk recoverableSwaps chainTips
  persistRecovered sdk results

end Tasks

/-! ## What the parts write and call -/

section Within

variable {sdk : Sdk} {F : (World → World) → Prop} {G : Call → Prop}

theorem within_fetchSendSwapById (hid : F id) (swapId : SwapId) : (fetchSendSwapById swapId).Within F G :=
  Task.Within.bind (within_fetch hid _) fun _ => Task.within_done _

/-- Nothing but payment details is written. -/
theorem within_updateSwapLnurlInfo (hid : F id)
    (hdetails : ∀ details, F (World.write fun now db => db.insertOrUpdatePaymentDetails sdk.persister now details))
    (swap updatedSwap : SendSwap) : (updateSwapLnurlInfo sdk swap updatedSwap).Within F G := by
  unfold updateSwapLnurlInfo
  split
  · refine Task.Within.bind (within_fetch hid _) fun details => ?_
    split
    · refine Task.Within.bind (Task.within_done _) fun lnurlInfo => ?_
      split
      · exact Task.Within.bind (within_write (hdetails _)) fun _ => Task.within_done _
      · exact Task.within_done _
    · exact Task.within_done _
  · exact Task.within_done _

/-- A transition writes the row, and payment details. -/
theorem within_updateSwapInfo (hid : F id) {swapId : SwapId} {toState : PaymentState}
    {preimage lockupTxId refundTxId : Option String}
    (hwrite : F (World.write fun now db =>
      db.tryHandleSendSwapUpdate sdk.persister now swapId toState preimage lockupTxId refundTxId))
    (hdetails : ∀ details, F (World.write fun now db => db.insertOrUpdatePaymentDetails sdk.persister now details)) :
    (updateSwapInfo sdk swapId toState preimage lockupTxId refundTxId).Within F G := by
  refine Task.Within.bind (within_fetchSendSwapById hid swapId) fun swap => ?_
  refine Task.Within.bind (Task.within_done _) fun _ => ?_
  refine Task.Within.bind (within_write hwrite) fun _ => ?_
  refine Task.Within.bind (within_fetchSendSwapById hid swapId) fun updatedSwap => ?_
  exact Task.Within.bind (within_updateSwapLnurlInfo hid hdetails swap updatedSwap) fun _ => Task.within_done _

/-- A lockup is built and broadcast; its id is set, and unset again or recorded with its payment. -/
theorem within_tryLockup {swap : SendSwap} {createResponse : InternalCreateSubmarineResponse}
    (hbuild : G (.buildTxOrDrainTx createResponse.address createResponse.expectedAmount))
    (hset : ∀ txId, F (World.tryWrite fun now db => db.setSendSwapLockupTxId now swap.id txId))
    (hbroadcast : ∀ tx, G (.liquidBroadcast (.lockup swap.id) tx))
    (hunset : ∀ txId, F (World.write fun now db => db.unsetSendSwapLockupTxId now swap.id txId))
    (hpayment : ∀ ptx : Nat → PaymentTxData, F (World.write fun now db => db.insertOrUpdatePayment now (ptx now)))
    (hupdate : ∀ txId, (updateSwapInfo sdk swap.id .pending none (some txId) none).Within F G) :
    (tryLockup sdk swap createResponse).Within F G := by
  unfold tryLockup
  split
  · exact Task.within_done _
  · refine Task.Within.bind (Task.within_askOk hbuild rfl) fun lockupTx => ?_
    refine Task.Within.bind (within_tryWrite (hset lockupTx.txid)) fun _ => ?_
    refine Task.Within.bind (Task.Within.attempt (Task.within_askOk (hbroadcast lockupTx) rfl)) fun res => ?_
    split
    · exact Task.Within.bind (within_write (hunset lockupTx.txid)) fun _ => Task.within_done _
    · refine Task.Within.bind (within_write (hpayment _)) fun _ => ?_
      exact Task.Within.bind (hupdate lockupTx.txid) fun _ => Task.within_done _

end Within

end BreezLiquid.Send
