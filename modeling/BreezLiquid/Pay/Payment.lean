/-
# BreezLiquid.Pay.Payment — the payments of `sdk.rs` that lock funds.

A Lightning invoice is paid through a submarine swap (`sendPaymentViaSwap`), a Bitcoin address through a
chain swap (`payOnchain`). Both fetch the swapper's fees again and compare the total with what the user
approved. Then a swap is created, or an earlier one for the invoice is used again, and its lockup is made:
by `tryLockup` here, by the status handler for a chain swap.
-/
import BreezLiquid.Chain.Handler
import BreezLiquid.Lib.Checked
import BreezLiquid.Send.Handler

namespace BreezLiquid.Pay

open Interleaving Chain Wrapping

/-- `SendPaymentViaSwapRequest`. -/
structure SendPaymentViaSwapRequest where
  invoice : String
  bolt12Offer : Option String := none
  paymentHash : String := ""
  description : Option String := none
  receiverAmountSat : Nat
  feesSat : Nat
  deriving DecidableEq, Repr

/-- `PreparePayOnchainResponse`. -/
structure PreparePayOnchainResponse where
  receiverAmountSat : Nat
  claimFeesSat : Nat
  totalFeesSat : Nat
  deriving DecidableEq, Repr

section Tasks

variable (sdk : Sdk)

/-! ## Fees -/

def validateSubmarinePairs (receiverAmountSat : Nat) : Async SubmarinePair := do
  match ← Task.askOk .getSubmarinePairs rfl with
  | none => Task.throw .pairsNotFound
  | some lbtcPair => do
      Task.ofExcept (lbtcPair.limits.within receiverAmountSat)
      return lbtcPair

/-- `get_chain_pair`. -/
def getChainPair (direction : Direction) : Async ChainPair := do
  match ← Task.askOk (.getChainPair direction) rfl with
  | none => Task.throw .pairsNotFound
  | some pair => return pair

def estimateLockupTxFee (userLockupAmountSat : Nat) : Async Nat := do
  let tx ← Task.askOk (.buildTx userLockupAmountSat) rfl
  return tx.feesSat

def estimateDrainTxFee (enforceAmountSat : Option Nat) : Async Nat := do
  let tx ← Task.askOk (.buildDrainTx enforceAmountSat) rfl
  return tx.feesSat

/-- Without the funds for the amount and a fee, the fee of draining the wallet to the amount. -/
def estimateLockupTxOrDrainTxFee (amountSat : Nat) : Async Nat := do
  match ← (estimateLockupTxFee amountSat).attempt with
  | .ok feesSat => return feesSat
  | .error .insufficientFunds => mapErr (fun _ => .insufficientFunds) (estimateDrainTxFee (some amountSat))
  | .error err => Task.throw err

/-! ## Waiting -/

/-- The loop over the events of a payment, up to its timeout: a succeeded payment returns, a pending one
when zero-conf is accepted; otherwise the last pending payment is what the timeout returns. -/
def awaitPayment (expectedSwapId : SwapId) (acceptZeroConf : Bool) :
    Option Payment → List SdkEvent → Option Payment
  | maybePayment, [] => maybePayment
  | maybePayment, .paymentPending payment :: events =>
      if payment.details.getSwapId = some expectedSwapId then
        if acceptZeroConf then some payment
        else awaitPayment expectedSwapId acceptZeroConf (some payment) events
      else awaitPayment expectedSwapId acceptZeroConf maybePayment events
  | maybePayment, .paymentSucceeded payment :: events =>
      if payment.details.getSwapId = some expectedSwapId then some payment
      else awaitPayment expectedSwapId acceptZeroConf maybePayment events
  | maybePayment, .other :: events => awaitPayment expectedSwapId acceptZeroConf maybePayment events

/-- The swap of a payment that timed out is set to that state. -/
def timeOutSwap : Swap → Async Unit
  | .send swap => Send.updateSwapInfo sdk swap.id .timedOut none none none
  | .chain swap => updateSwapInfo { swapId := swap.id, toState := .timedOut }
  | .receive _ => return ()

def waitForPaymentWithTimeout (swap : Swap) (acceptZeroConf : Bool) : Async Payment := do
  let events ← Task.ask .paymentEvents
  match awaitPayment swap.id acceptZeroConf none events with
  | some payment => return payment
  | none =>
      match ← (timeOutSwap sdk swap).attempt with
      | .ok _ => Task.throw .paymentTimeout
      | .error _ => do
          let payment ← fetch fun db => sdk.getPayment db swap.id
          Task.ofExcept (okOr payment "Payment not found")

/-! ## Paying an invoice -/

/-- An earlier swap for the invoice: used again before its lockup, or after a timeout. -/
def reuseSwap (swap : SendSwap) : Async SendSwap :=
  match swap.state with
  | .created => return swap
  | .timedOut => do
      Send.updateSwapInfo sdk swap.id .created none none none
      return swap
  | .pending => Task.throw .paymentInProgress
  | .complete => Task.throw .alreadyPaid
  | .refundPending | .refundable | .failed =>
      Task.throw (.invalidInvoice "Payment has already failed. Please try with another invoice")
  | .waitingFeeAcceptance =>
      Task.throw (.generic "Send swap payment cannot be in state WaitingFeeAcceptance")

/-- The row of a new swap. -/
def newSendSwap (req : SendPaymentViaSwapRequest) (lbtcPair : SubmarinePair) (refundPrivateKey : String)
    (createResponse : CreateSubmarineResponse) (destinationPubkey : String) (now : Nat) : SendSwap where
  id := createResponse.id
  invoice := req.invoice
  bolt12Offer := req.bolt12Offer
  paymentHash := some req.paymentHash
  destinationPubkey := some destinationPubkey
  timeoutBlockHeight := createResponse.timeoutBlockHeight
  description := req.description
  payerAmountSat := u64Add req.feesSat req.receiverAmountSat
  receiverAmountSat := req.receiverAmountSat
  pairFeesJson := sdk.submarinePairJson lbtcPair
  createResponseJson := sdk.submarineResponseJson createResponse.toInternalCreateSubmarineResponse
  createdAt := now
  state := .created
  refundPrivateKey

def createSwap (req : SendPaymentViaSwapRequest) (lbtcPair : SubmarinePair) : Async SendSwap := do
  let refundPrivateKey ← Task.ask .generateKeypair
  let createResponse ← Task.askOk (.createSendSwap req.invoice refundPrivateKey) rfl
  let destinationPubkey ← Task.ofExcept
    (sdk.invoiceDestinationPubkey req.invoice req.bolt12Offer.isSome)
  let now ← Task.reads World.now
  let swap := newSendSwap sdk req lbtcPair refundPrivateKey createResponse destinationPubkey now
  Send.insertOrUpdateSendSwap sdk swap
  return swap

/-- From the swap on: its lockup, and the wait for the payment. -/
def lockupAndWait (swap : SendSwap) : Async Payment := do
  let createResponse ← Task.ofExcept (swap.getBoltzCreateResponse sdk.bz)
  let _ ← Send.tryLockup sdk swap createResponse
  waitForPaymentWithTimeout sdk (.send swap) createResponse.acceptZeroConf

def sendPaymentViaSwap (req : SendPaymentViaSwapRequest) : Async Payment := do
  let lbtcPair ← validateSubmarinePairs req.receiverAmountSat
  let boltzFeesTotal := lbtcPair.feesTotal req.receiverAmountSat
  let userLockupAmountSat := u64Add req.receiverAmountSat boltzFeesTotal
  let lockupTxFeesSat ← estimateLockupTxOrDrainTxFee userLockupAmountSat
  if req.feesSat = u64Add boltzFeesTotal lockupTxFeesSat then do
    match ← fetch (·.fetchSendSwapByInvoice req.invoice) with
    | some swap => do
        let swap ← reuseSwap sdk swap
        lockupAndWait sdk swap
    | none => do
        let swap ← createSwap sdk req lbtcPair
        lockupAndWait sdk swap
  else Task.throw .invalidOrExpiredFees

/-- `start`, up to its background tasks: the send swaps of this device that are still created are timed
out. -/
def start : Async Unit :=
  write fun now db => db.updateSendSwapsByState now .created .timedOut (some true)

/-! ## Paying to a Bitcoin address -/

/-- The lockup that leaves an amount after the service fee, rounded up:
`(amount as f64 * 100.0 / (100.0 - percentage)).ceil() as u64`. Every operation rounds its exact value. The cast
saturates; a division by zero has infinity for a value, or no number. -/
def userLockupAmount (round : ℚ → ℚ) (withoutServiceFee : Nat) (pair : ChainPair) : Nat :=
  let rate := round (100 - pair.percentage)
  if rate = 0 then if withoutServiceFee = 0 then 0 else Checked.u64Max
  else min ⌈round (round (round withoutServiceFee * 100) / rate)⌉.toNat Checked.u64Max

-- at 0.4 % the quotient is 32000, and is rounded to a number above it
example : userLockupAmount Double.nearest 31872 { (default : ChainPair) with percentage := Double.nearest (4 / 10) } =
    32001 := by decide +kernel

/-- The row of a new outgoing swap. -/
def newOutgoingSwap (req : PreparePayOnchainResponse) (pair : ChainPair) (claimAddress : Address)
    (preimage claimPrivateKey refundPrivateKey : String) (createResponse : CreateChainResponse)
    (now : Nat) : ChainSwap where
  id := createResponse.id
  direction := .outgoing
  claimAddress := some claimAddress
  lockupAddress := createResponse.lockupDetails.lockupAddress
  timeoutBlockHeight := createResponse.lockupDetails.timeoutBlockHeight
  claimTimeoutBlockHeight := createResponse.claimDetails.timeoutBlockHeight
  preimage
  description := some "Bitcoin transfer"
  payerAmountSat := u64Add req.totalFeesSat req.receiverAmountSat
  receiverAmountSat := req.receiverAmountSat
  claimFeesSat := req.claimFeesSat
  pairFeesJson := sdk.chainPairJson pair
  acceptZeroConf := u64Add req.receiverAmountSat req.claimFeesSat ≤ pair.limits.maximalZeroConf
  createResponseJson := sdk.chainResponseJson createResponse.toInternalCreateChainResponse
  claimPrivateKey
  refundPrivateKey
  createdAt := now
  state := .created

/-- The part of `pay_onchain` that compares the fees with what was approved. -/
def validateOnchainFees (round : ℚ → ℚ) (req : PreparePayOnchainResponse) (balanceSat : Nat)
    (pair : ChainPair) : Async Unit := do
  let withoutServiceFee := u64Add (u64Add req.receiverAmountSat req.claimFeesSat) pair.serverFee
  let userLockupAmountSat := userLockupAmount round withoutServiceFee pair
  let boltzFeeSat := u64Sub userLockupAmountSat withoutServiceFee
  Task.ofExcept (pair.limits.within userLockupAmountSat)
  let payerAmountSat := u64Add req.totalFeesSat req.receiverAmountSat
  let lockupFeesSat ← if payerAmountSat = balanceSat then estimateDrainTxFee none
    else estimateLockupTxFee userLockupAmountSat
  if req.totalFeesSat ≠
      u64Add (u64Add (u64Add boltzFeeSat lockupFeesSat) req.claimFeesSat) pair.serverFee then
    Task.throw .invalidOrExpiredFees
  else if balanceSat < payerAmountSat then Task.throw .insufficientFunds
  else return ()

def payOnchain (address : Address) (req : PreparePayOnchainResponse) : Async Payment := do
  let claimAddress ← Task.askOk (.validateBitcoinAddress address) rfl
  let balanceSat ← Task.askOk .getInfoBalance rfl
  let pair ← getChainPair .outgoing
  validateOnchainFees sdk.round req balanceSat pair
  let preimage ← Task.ask .newPreimage
  let claimPrivateKey ← Task.ask .generateKeypair
  let refundPrivateKey ← Task.ask .generateKeypair
  let createResponse ← Task.askOk (.createChainSwap claimPrivateKey refundPrivateKey
    (u64Add req.receiverAmountSat req.claimFeesSat)) rfl
  let now ← Task.reads World.now
  let swap := newOutgoingSwap sdk req pair claimAddress preimage claimPrivateKey refundPrivateKey
    createResponse now
  insertOrUpdateChainSwap sdk swap
  waitForPaymentWithTimeout sdk (.chain swap) swap.acceptZeroConf

end Tasks

/-! ## What the parts write and call -/

section Within

variable {sdk : Sdk} {F : (World → World) → Prop} {G : Call → Prop}

theorem within_validateSubmarinePairs (hpairs : G .getSubmarinePairs) (amountSat : Nat) :
    (validateSubmarinePairs amountSat).Within F G := by
  refine Task.Within.bind (Task.within_askOk hpairs rfl) fun pair => ?_
  split
  · exact Task.within_done _
  · exact Task.Within.bind (Task.within_done _) fun _ => Task.within_done _

theorem within_estimateLockupTxOrDrainTxFee {amountSat : Nat} (hbuild : G (.buildTx amountSat))
    (hdrain : G (.buildDrainTx (some amountSat))) : (estimateLockupTxOrDrainTxFee amountSat).Within F G := by
  refine Task.Within.bind (Task.Within.attempt ?_) fun res => ?_
  · exact Task.Within.bind (Task.within_askOk hbuild rfl) fun _ => Task.within_done _
  · split
    · exact Task.within_done _
    · exact within_mapErr (Task.Within.bind (Task.within_askOk hdrain rfl) fun _ => Task.within_done _)
    · exact Task.within_done _

/-- A swap that is used again is set back to `Created`, if it timed out. -/
theorem within_reuseSwap {swap : SendSwap}
    (hupdate : (Send.updateSwapInfo sdk swap.id .created none none none).Within F G) :
    (reuseSwap sdk swap).Within F G := by
  unfold reuseSwap
  cases swap.state with
  | timedOut => exact Task.Within.bind hupdate fun _ => Task.within_done _
  | _ => exact Task.within_done _

theorem within_createSwap (hid : F id) {req : SendPaymentViaSwapRequest} {lbtcPair : SubmarinePair}
    (hkey : G .generateKeypair) (hcreate : ∀ key, G (.createSendSwap req.invoice key))
    (hinsert : ∀ maybeSwap key response pubkey now, F (World.tryWrite fun now' db =>
      db.insertOrUpdateSendSwap sdk.persister now' maybeSwap (newSendSwap sdk req lbtcPair key response pubkey now))) :
    (createSwap sdk req lbtcPair).Within F G := by
  refine Task.Within.bind (Task.within_ask hkey) fun key => ?_
  refine Task.Within.bind (Task.within_askOk (hcreate key) rfl) fun createResponse => ?_
  refine Task.Within.bind (Task.within_done _) fun destinationPubkey => ?_
  refine Task.Within.bind (Task.within_reads hid _) fun now => ?_
  refine Task.Within.bind ?_ fun _ => Task.within_done _
  exact Task.Within.bind (within_fetch hid _) fun maybeSwap =>
    within_tryWrite (hinsert maybeSwap key createResponse destinationPubkey now)

/-- The wait for the payment of a send swap times it out at most. -/
theorem within_waitForPaymentWithTimeout (hid : F id) {swap : SendSwap} (hevents : G .paymentEvents)
    (hupdate : (Send.updateSwapInfo sdk swap.id .timedOut none none none).Within F G) (acceptZeroConf : Bool) :
    (waitForPaymentWithTimeout sdk (.send swap) acceptZeroConf).Within F G := by
  refine Task.Within.bind (Task.within_ask hevents) fun events => ?_
  split
  · exact Task.within_done _
  · refine Task.Within.bind hupdate.attempt fun res => ?_
    split
    · exact Task.within_done _
    · exact Task.Within.bind (within_fetch hid _) fun _ => Task.within_done _

end Within

end BreezLiquid.Pay
