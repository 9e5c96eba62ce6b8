/-
# BreezLiquid.Pay.SendPayment — `send_payment`.

A prepared payment goes to an invoice, by a swap, or to a Liquid address, by a transaction. Magic routing hints are
disabled here, as the caller modelled in `BreezLiquid.Nwc.PayInvoice` disables them, and no asset is exchanged or
drained. What a prepared payment is prepared from (parsing, fee estimates, checks of the funds) is any outcome.
-/
import BreezLiquid.Pay.Payment

namespace BreezLiquid.Pay

open Interleaving Chain Wrapping

/-! ## Requests -/

/-- `PayAmount`. -/
inductive PayAmount where
  | bitcoin (receiverAmountSat : Nat)
  | asset (toAsset : AssetId)
  | drain
  deriving DecidableEq, Repr

/-- `PrepareSendRequest`. -/
structure PrepareSendRequest where
  destination : String
  amount : Option PayAmount := none
  disableMrh : Option Bool := none
  paymentTimeoutSec : Option Nat := none
  deriving DecidableEq, Repr

/-- An offer, with its text, its signing key, and the last hops of its blinded paths. -/
structure LNOffer where
  offer : String
  signingPubkey : Option String := none
  lastHops : List String := []
  deriving DecidableEq, Repr

/-- A Bolt11 invoice is kept as its text. -/
inductive SendDestination where
  | liquidAddress (addressData : LiquidAddressData) (bip353Address : Option String)
  | bolt11 (invoice : String) (bip353Address : Option String)
  | bolt12 (offer : LNOffer) (receiverAmountSat : Nat) (bip353Address : Option String)
  deriving DecidableEq, Repr

/-- What was prepared: the destination, the amount and the fees that were quoted. -/
structure PrepareSendResponse where
  destination : SendDestination
  amount : Option PayAmount
  feesSat : Option Nat
  disableMrh : Option Bool
  paymentTimeoutSec : Option Nat
  deriving DecidableEq, Repr

/-- `SendPaymentRequest`. -/
structure SendPaymentRequest where
  prepareResponse : PrepareSendResponse
  payerNote : Option String := none
  deriving DecidableEq, Repr

/-- `prepare_send_payment`: the parsed destination and the estimated fees, and what the request carries over. -/
def prepareSendPayment (outcome : PrepareSendRequest → Except Err (SendDestination × Option Nat))
    (req : PrepareSendRequest) : Except Err PrepareSendResponse := do
  let (destination, feesSat) ← outcome req
  return { destination, feesSat, amount := req.amount, disableMrh := req.disableMrh,
           paymentTimeoutSec := req.paymentTimeoutSec }

section Tasks

variable (sdk : Sdk)

/-! ## Invoices -/

/-- An invoice of the wallet itself is not paid. -/
def ensureSendIsNotSelfTransfer (invoice : String) : Async Unit := do
  match ← fetch fun db => db.fetchReceiveSwapByInvoice invoice with
  | none => return ()
  | some _ => Task.throw .selfTransferNotSupported

/-- The Bitcoin network of a Liquid network. -/
def bitcoinNetwork : LiquidNetwork → String
  | .mainnet => "bitcoin"
  | .testnet => "testnet"
  | .regtest => "regtest"

/-- `validate_bolt11_invoice`: the invoice is of the network of the wallet and has not expired. -/
def validateBolt11Invoice (invoice : String) : Async Bolt11Invoice := do
  let bolt11 ← Task.ofExcept ((sdk.parseBolt11Invoice invoice).mapError .invalidInvoice)
  if bolt11.network = bitcoinNetwork sdk.network then do
    let now ← Task.reads World.now
    if bolt11.expiryTime < now - bolt11.timestamp then Task.throw (.invalidInvoice "Invoice has expired")
    else return bolt11
  else Task.throw (.invalidNetwork "Invoice cannot be paid on the current network")

/-- `validate_bolt12_invoice`: the invoice is for the offer and the amount that was asked for. -/
def validateBolt12Invoice (offer : LNOffer) (userSpecifiedReceiverAmountSat : Nat) (invoice : String) :
    Except Err Bolt12Invoice := do
  let bolt12 ← sdk.decodeBolt12Invoice invoice
  match offer.signingPubkey with
  | none =>
      if !offer.lastHops.contains bolt12.signingPubkey then
        throw (.invalidInvoice "Invalid Bolt12 invoice signing key when using blinded path")
  | some signingPubkey =>
      if signingPubkey ≠ bolt12.signingPubkey then throw (.invalidInvoice "Invalid Bolt12 invoice signing key")
  if bolt12.amountMsats / 1000 ≠ userSpecifiedReceiverAmountSat then
    throw (.invalidInvoice "Invalid Bolt12 invoice amount")
  return bolt12

/-- `pay_bolt11_invoice`. -/
def payBolt11Invoice (invoice : String) (feesSat : Nat) : Async Payment := do
  ensureSendIsNotSelfTransfer invoice
  let bolt11 ← validateBolt11Invoice sdk invoice
  let amountMsat ← Task.ofExcept (match bolt11.amountMsat with
    | some amountMsat => .ok amountMsat
    | none => .error (.amountMissing "Invoice amount is missing"))
  let amountSat := amountMsat / 1000
  let walletInfo ← Task.askOk .getWalletInfo rfl
  if walletInfo.balanceSat < u64Add amountSat feesSat then Task.throw .insufficientFunds
  else
    sendPaymentViaSwap sdk
      { invoice, paymentHash := bolt11.paymentHash, description := bolt11.description,
        receiverAmountSat := amountSat, feesSat }

/-- `pay_bolt12_invoice`. -/
def payBolt12Invoice (offer : LNOffer) (userSpecifiedReceiverAmountSat : Nat) (bolt12Info : String)
    (feesSat : Nat) : Async Payment := do
  let invoice ← Task.ofExcept (validateBolt12Invoice sdk offer userSpecifiedReceiverAmountSat bolt12Info)
  let receiverAmountSat := invoice.amountMsats / 1000
  let walletInfo ← Task.askOk .getWalletInfo rfl
  if walletInfo.balanceSat < u64Add receiverAmountSat feesSat then Task.throw .insufficientFunds
  else
    sendPaymentViaSwap sdk
      { invoice := bolt12Info, bolt12Offer := some offer.offer, paymentHash := invoice.paymentHash,
        description := invoice.description, receiverAmountSat, feesSat }

/-! ## Liquid addresses -/

/-- `validate_sufficient_funds`. -/
def validateSufficientFunds (walletInfo : WalletInfo) (amountSat : Nat) (feesSat : Option Nat)
    (assetId : AssetId) : Except Err Unit :=
  let feesSat := feesSat.getD 0
  if assetId = sdk.lbtcAssetId then
    if walletInfo.balanceSat < u64Add amountSat feesSat then .error .insufficientFunds else .ok ()
  else
    match walletInfo.assetBalances.lookup assetId with
    | some assetBalanceSat =>
        if amountSat ≤ assetBalanceSat ∧ feesSat ≤ walletInfo.balanceSat then .ok ()
        else .error .insufficientFunds
    | none => .error .insufficientFunds

/-- `pay_liquid_onchain`, without a check for an earlier payment. -/
def payLiquidOnchain (addressData : LiquidAddressData) (receiverAmountSat feesSat : Nat) : Async Payment := do
  let destination := (sdk.liquidUri addressData).getD addressData.address
  let assetId := addressData.assetId.getD sdk.lbtcAssetId
  let tx ← Task.askOk (.buildPaymentTx addressData.address assetId receiverAmountSat) rfl
  if feesSat < tx.feesSat then Task.throw .invalidOrExpiredFees
  else do
    let txId ← Task.askOk (.liquidBroadcast (.payment addressData.address) tx) rfl
    write fun now db =>
      (db.insertOrUpdatePayment now { txId, timestamp := some now, feesSat }).insertOrUpdatePaymentDetails
        sdk.persister now { txId, destination, description := addressData.message }
    return { txId := some txId, destination := some destination, feesSat,
             details := .liquid (addressData.message.getD "Liquid transfer") }

/-- `pay_liquid`, with fees in L-BTC. -/
def payLiquid (addressData : LiquidAddressData) (toAsset : AssetId) (receiverAmountSat : Nat)
    (feesSat : Option Nat) : Async Payment := do
  let walletInfo ← Task.askOk .getWalletInfo rfl
  Task.ofExcept (validateSufficientFunds sdk walletInfo receiverAmountSat feesSat toAsset)
  let feesSat ← Task.ofExcept (match feesSat with
    | some feesSat => .ok feesSat
    | none => .error .insufficientFunds)
  payLiquidOnchain sdk addressData receiverAmountSat feesSat

/-! ## Sending -/

/-- With details to be stored, the payment is read again afterwards. -/
def insertPaymentDetails (payerNote bip353Address : Option String) (payment : Payment) : Async Payment :=
  if payerNote.isSome ∨ bip353Address.isSome then
    match payment.txId, payment.destination with
    | some txId, some destination => do
        write fun now db => db.insertOrUpdatePaymentDetails sdk.persister now
          { txId, destination, bip353Address, payerNote }
        let stored ← fetch fun db => sdk.getPayment db txId
        return stored.getD payment
    | _, _ => return payment
  else return payment

/-- A payment to a Liquid address, in the asset of the address. -/
def sendToLiquidAddress (addressData : LiquidAddressData) (feesSat : Option Nat) : Async Payment := do
  let receiverAmountSat ← Task.ofExcept (match addressData.amountSat with
    | some amountSat => .ok amountSat
    | none => .error (.amountMissing "Receiver amount must be set when paying to a Liquid address"))
  let toAsset ← Task.ofExcept (match addressData.assetId with
    | some assetId => .ok assetId
    | none => .error (.assetError "Asset must be set when paying to a Liquid address"))
  if addressData.network = sdk.network then payLiquid sdk addressData toAsset receiverAmountSat feesSat
  else Task.throw (.invalidNetwork
    ("Cannot send payment from " ++ bitcoinNetwork sdk.network ++ " to " ++ bitcoinNetwork addressData.network))

/-- `send_payment`, by destination. Over Lightning nothing is sent without approved fees. -/
def sendPayment (req : SendPaymentRequest) : Async Payment :=
  let feesSat : Except Err Nat := match req.prepareResponse.feesSat with
    | some feesSat => .ok feesSat
    | none => .error .insufficientFunds
  match req.prepareResponse.destination with
  | .liquidAddress addressData bip353Address => do
      let payment ← sendToLiquidAddress sdk addressData req.prepareResponse.feesSat
      insertPaymentDetails sdk none bip353Address payment
  | .bolt11 invoice bip353Address => do
      let feesSat ← Task.ofExcept feesSat
      let payment ← payBolt11Invoice sdk invoice feesSat
      insertPaymentDetails sdk req.payerNote bip353Address payment
  | .bolt12 offer receiverAmountSat bip353Address => do
      let feesSat ← Task.ofExcept feesSat
      let bolt12Info ← Task.askOk (.getBolt12Info offer.offer receiverAmountSat req.payerNote) rfl
      let payment ← payBolt12Invoice sdk offer receiverAmountSat bolt12Info feesSat
      insertPaymentDetails sdk req.payerNote bip353Address payment

end Tasks

end BreezLiquid.Pay
