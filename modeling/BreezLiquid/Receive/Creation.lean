/-
# BreezLiquid.Receive.Creation — the requests that ask to be paid.

`receive_payment` creates a reverse swap behind a BOLT11 invoice, or a chain swap behind a Bitcoin address, and
`create_bolt12_invoice` a reverse swap behind an invoice of its own. The swapper names the swap, the invoice and the
address to pay, and its pairs say what it charges. Before an invoice is handed out it has to have our payment hash and
our address for direct payments in it, and the swap has to be stored: a swap id that was used before is not stored
again. The calls of the swapper, the wallet and the status stream are asked as they come in the source; what they are
answered with is kept in `World.answered`, and what the user gets in `World.handed`.
-/
import BreezLiquid.Chain.Handler
import BreezLiquid.Persist.Terms

namespace BreezLiquid.Creation

open Interleaving Tables Chain Wrapping

/-! ## Requests and responses -/

abbrev PrivateKey := String
abbrev PublicKey := String

/-- `PaymentError`, as far as these methods fail. -/
inductive PaymentError where
  | generic (err : String)
  | assetError (err : String)
  | pairsNotFound
  | amountOutOfRange (min max : Nat)
  | invalidOrExpiredFees
  | receiveError (err : String)
  | invalidInvoice (err : String)
  | invalidDescription (err : String)
  | amountMissing (err : String)
  | persistError
  deriving DecidableEq, Repr

/-- `ReversePair`: the limits and fees of a reverse swap; `feesTotal` is `fees.total`. -/
structure ReversePair where
  limits : PairLimits
  percentage : ℚ := 0
  claimFee : Nat := 0
  feesTotal : Nat → Nat

/-- `PaymentMethod`. -/
inductive PaymentMethod where
  | lightning
  | bolt12Offer
  | bitcoinAddress
  | liquidAddress
  deriving DecidableEq, Repr

/-- `ReceiveAmount`. -/
inductive ReceiveAmount where
  | bitcoin (payerAmountSat : Nat)
  | asset (assetId : AssetId) (payerAmount : Option ℚ)
  deriving DecidableEq, Repr

/-- What was prepared: the method, the amount and the fees that were quoted. -/
structure PrepareReceiveResponse where
  paymentMethod : PaymentMethod
  amount : Option ReceiveAmount
  feesSat : Nat
  minPayerAmountSat : Option Nat := none
  maxPayerAmountSat : Option Nat := none
  swapperFeerate : Option ℚ := none
  deriving DecidableEq, Repr

/-- `ReceivePaymentRequest`. -/
structure ReceivePaymentRequest where
  prepareResponse : PrepareReceiveResponse
  description : Option String := none
  useDescriptionHash : Option Bool := none
  payerNote : Option String := none
  deriving DecidableEq, Repr

/-- What is handed to the payer. -/
structure ReceivePaymentResponse where
  destination : String
  liquidExpirationBlockheight : Option Nat := none
  bitcoinExpirationBlockheight : Option Nat := none
  deriving DecidableEq, Repr

/-- A request that reached the offer of the user. -/
structure CreateBolt12InvoiceRequest where
  offer : String
  invoiceRequest : String
  deriving DecidableEq, Repr

/-- What the swapper is asked for: a reverse swap, by an amount or for an invoice. -/
structure CreateReverseRequest where
  invoice : Option String := none
  invoiceAmount : Option Nat := none
  preimageHash : Option String := none
  claimPublicKey : PublicKey
  description : Option String := none
  descriptionHash : Option String := none
  address : Option Address
  addressSignature : Option String
  deriving DecidableEq, Repr

/-- The swapper's answer to it. -/
structure CreateReverseResponse extends InternalCreateReverseResponse where
  id : SwapId
  invoice : Option String
  deriving DecidableEq, Repr

/-- What the swapper is asked for: a chain swap. -/
structure CreateChainRequest where
  preimageHash : String
  claimPublicKey : PublicKey
  refundPublicKey : PublicKey
  userLockAmount : Option Nat
  deriving DecidableEq, Repr

/-- The details of a lockup, with the URI that the swapper suggests. -/
structure LockupDetails extends ChainSwapDetails where
  bip21 : Option String := none
  deriving DecidableEq, Repr

/-- What is stored of a chain swap's creation. -/
structure InternalChainResponse where
  claimDetails : LockupDetails
  lockupDetails : LockupDetails
  deriving DecidableEq, Repr

/-- The swapper's answer to it. -/
structure CreateChainResponse extends InternalChainResponse where
  id : SwapId
  deriving DecidableEq, Repr

/-- A BOLT11 invoice, parsed, with its text. -/
structure Bolt11 where
  text : String
  amountMsat : Option Nat
  paymentHash : String
  destinationPubkey : String
  description : Option String
  deriving DecidableEq, Repr

/-- The parts of a BOLT12 invoice request that are read. -/
structure InvoiceRequest where
  amountMsats : Option Nat
  payerNote : Option String
  deriving DecidableEq, Repr

/-- What goes into an invoice of our own. -/
structure Bolt12Draft where
  offer : Bolt12Offer
  invoiceRequest : String
  nodeId : PublicKey
  minCltv : Nat
  paymentHash : String
  entropy : String
  deriving DecidableEq, Repr

/-! ## Services -/

/-- Calls of the swapper, the wallet and the status stream, and new secrets. -/
inductive Call where
  | getReverseSwapPairs
  | getChainPair
  | getBolt12Params
  | getNodes
  | generateKeypair
  | newPreimage
  | generateEntropy
  | nextUnusedAddress
  | createReceiveSwap (req : CreateReverseRequest)
  | checkForMrh (invoice : String)
  | createChainSwap (req : CreateChainRequest)
  | createBolt12Offer (offer : String)
  | trackSwapId (swapId : SwapId)
  | trackOffer (offer signature : String)

def Call.Answer : Call → Type
  | getReverseSwapPairs => Except PaymentError (Option ReversePair)
  | getChainPair => Except PaymentError (Option ChainPair)
  | getBolt12Params => Except PaymentError Nat
  | getNodes => Except PaymentError (Option PublicKey)
  | generateKeypair => PrivateKey
  | newPreimage => String
  | generateEntropy => String
  | nextUnusedAddress => Except PaymentError Address
  | createReceiveSwap _ => Except PaymentError CreateReverseResponse
  | checkForMrh _ => Except PaymentError (Option (Address × Nat))
  | createChainSwap _ => Except PaymentError CreateChainResponse
  | createBolt12Offer _ | trackSwapId _ | trackOffer .. => Except PaymentError Unit

/-- An answered call. -/
structure Answered where
  q : Call
  a : q.Answer

/-- The database and the clock, the answers so far, and what was handed to the user. -/
structure World where
  db : Db := {}
  now : Nat := 0
  answered : List Answered := []
  prepared : List PrepareReceiveResponse := []
  handed : List (ReceivePaymentRequest × ReceivePaymentResponse) := []
  handedInvoices : List (CreateBolt12InvoiceRequest × String) := []

def World.answer (q : Call) (a : q.Answer) (w : World) : World := { w with answered := ⟨q, a⟩ :: w.answered }

/-- The call was answered so. -/
def World.Told (w : World) (q : Call) (a : q.Answer) : Prop := (⟨q, a⟩ : Answered) ∈ w.answered

abbrev Async (α : Type) := Task World Call Call.Answer PaymentError α

/-- What the libraries make of texts and keys. -/
structure Library where
  persister : Persister
  network : LiquidNetwork := .mainnet
  lbtcAssetId : AssetId := "lbtc"
  sha256 : String → String
  publicKey : PrivateKey → PublicKey
  decodeKeypair : String → Except PaymentError PrivateKey
  signMessageHash : String → PrivateKey → Except PaymentError String
  parseBolt11 : String → Except PaymentError Bolt11
  reversePairJson : ReversePair → String
  chainPairJson : ChainPair → String
  reverseResponseJson : InternalCreateReverseResponse → String
  chainResponseJson : InternalChainResponse → String
  chainResponse : String → Except PaymentError InternalChainResponse
  btcText : Nat → String
  liquidUri : LiquidAddressData → Option ℚ → Except PaymentError String
  offerNode : Bolt12Offer → Except PaymentError (Option PublicKey)
  decodeInvoiceRequest : String → Except PaymentError InvoiceRequest
  /-- The text and the description of the invoice. -/
  bolt12Invoice : Bolt12Draft → Except PaymentError (String × Option String)
  bolt12Offer : PrivateKey → (amountMsats : Nat) → (description : String) → PublicKey → (entropy : String) →
    Except PaymentError String

/-! ## Preparing -/

def okOr {α : Type} (o : Option α) (e : PaymentError) : Except PaymentError α :=
  match o with
  | some a => .ok a
  | none => .error e

def ensure (b : Bool) (e : PaymentError) : Except PaymentError Unit := if b then .ok () else .error e

/-- The pair of reverse swaps, which the swapper need not have. -/
def reversePair : Async ReversePair := do
  let reversePair ← Task.askOk .getReverseSwapPairs rfl
  Task.ofExcept (okOr reversePair .pairsNotFound)

/-- The limits of a pair, with the error that names them. -/
def within (limits : PairLimits) (amountSat : Nat) : Except PaymentError Unit :=
  match limits.within amountSat with
  | .ok _ => .ok ()
  | .error _ => .error (.amountOutOfRange limits.minimal limits.maximal)

/-- `get_and_validate_chain_pair`. -/
def getAndValidateChainPair (userLockupAmountSat : Option Nat) : Async ChainPair := do
  let pair ← Task.askOk .getChainPair rfl
  let pair ← Task.ofExcept (okOr pair .pairsNotFound)
  match userLockupAmountSat with
  | some amountSat =>
      match pair.limits.within amountSat with
      | .ok _ => return pair
      | .error err => Task.throw (.generic err.text)
  | none => return pair

/-- The fees of an incoming chain swap; without an amount there is no service fee. -/
def incomingFees (pair : ChainPair) (userLockupAmountSat : Option Nat) : Nat :=
  u64Add (u64Add ((userLockupAmountSat.map pair.boltzFee).getD 0) pair.userClaimFee) pair.serverFee

/-- Over Lightning the amount has to be set, and in bitcoin ... -/
def lightningAmount : Option ReceiveAmount → String → Except PaymentError Nat
  | some (.asset ..), err => .error (.assetError err)
  | some (.bitcoin payerAmountSat), _ => .ok payerAmountSat
  | none, _ => .error (.generic "Bitcoin payer amount must be set for this payment method")

/-- ... onchain it need not be set. -/
def onchainAmount : Option ReceiveAmount → Except PaymentError (Option Nat)
  | some (.asset ..) => .error (.assetError "Asset cannot be received for this payment method")
  | some (.bitcoin payerAmountSat) => .ok (some payerAmountSat)
  | none => .ok none

/-- `prepare_receive_payment`: limits are checked and fees are quoted, nothing is created. -/
def prepareReceivePayment (paymentMethod : PaymentMethod) (amount : Option ReceiveAmount) :
    Async PrepareReceiveResponse :=
  match paymentMethod with
  | .lightning => do
      let payerAmountSat ← Task.ofExcept (lightningAmount amount "Cannot receive an asset for this payment method")
      let pair ← reversePair
      let feesSat := pair.feesTotal payerAmountSat
      Task.ofExcept (within pair.limits payerAmountSat)
      return {
        paymentMethod, amount, feesSat
        minPayerAmountSat := some pair.limits.minimal
        maxPayerAmountSat := some pair.limits.maximal
        swapperFeerate := some pair.percentage }
  | .bolt12Offer => do
      Task.ofExcept (ensure amount.isNone (.generic "Amount cannot be set for this payment method"))
      let pair ← reversePair
      return {
        paymentMethod, amount
        feesSat := pair.feesTotal 0
        minPayerAmountSat := some pair.limits.minimal
        maxPayerAmountSat := some pair.limits.maximal
        swapperFeerate := some pair.percentage }
  | .bitcoinAddress => do
      let payerAmountSat ← Task.ofExcept (onchainAmount amount)
      let pair ← getAndValidateChainPair payerAmountSat
      return {
        paymentMethod, amount
        feesSat := incomingFees pair payerAmountSat
        minPayerAmountSat := some pair.limits.minimal
        maxPayerAmountSat := some pair.limits.maximal
        swapperFeerate := some pair.percentage }
  | .liquidAddress => return { paymentMethod, amount, feesSat := 0 }

/-! ## Creating swaps -/

section Receive

variable (lib : Library)

/-- A transaction of the persister. -/
def tryWrite (f : Nat → Db → Except Err Db) (e : Err → PaymentError) : Async Unit :=
  Task.transact fun w => match f w.now w.db with
    | .ok db => .ok ((), { w with db })
    | .error err => .error (e err)

def insertOrUpdateReservedAddress (address : Address) (expiryBlockHeight : Nat) : Async Unit :=
  tryWrite (fun _ db => .ok (db.insertOrUpdateReservedAddress address expiryBlockHeight)) fun err => .generic err.text

def insertOrUpdateReceiveSwap (s : ReceiveSwap) : Async Unit := do
  let maybeSwap ← Task.reads fun w => w.db.fetchReceiveSwapById s.id
  tryWrite (fun now db => db.insertOrUpdateReceiveSwap lib.persister now maybeSwap s) fun _ => .persistError

def insertOrUpdateChainSwap (s : ChainSwap) : Async Unit := do
  let maybeSwap ← Task.reads fun w => w.db.fetchChainSwapById s.id
  tryWrite (fun now db => db.insertOrUpdateChainSwap lib.persister now maybeSwap s) fun err => .generic err.text

def insertOrUpdateBolt12Offer (offer : Bolt12Offer) : Async Unit := do
  let maybeOffer ← Task.reads fun w => w.db.fetchBolt12OfferById offer.id
  tryWrite (fun now db => .ok (db.insertOrUpdateBolt12Offer lib.persister now maybeOffer offer))
    fun err => .generic err.text

/-- `from_boltz_struct_to_json`: what is stored separately must match. -/
def fromBoltzStructToJson (createResponse : CreateReverseResponse) (expectedInvoice : Option String) :
    Except PaymentError String :=
  if createResponse.invoice = expectedInvoice
  then .ok (lib.reverseResponseJson createResponse.toInternalCreateReverseResponse)
  else .error .persistError

/-- `create_bolt11_receive_swap`: the invoice of the swapper is handed out after the row was written. -/
def createBolt11ReceiveSwap (payerAmountSat feesSat : Nat) (description descriptionHash payerNote : Option String) :
    Async ReceivePaymentResponse := do
  let reversePair ← reversePair
  Task.ofExcept (ensure (feesSat = reversePair.feesTotal payerAmountSat) .invalidOrExpiredFees)
  let keypair ← (Task.ask Call.generateKeypair : Async PrivateKey)
  let preimage ← (Task.ask Call.newPreimage : Async String)
  let preimageHash := lib.sha256 preimage
  let mrhAddr ← Task.askOk .nextUnusedAddress rfl
  let mrhAddrHashSig ← Task.ofExcept (lib.signMessageHash mrhAddr keypair)
  let receiverAmountSat := u64Sub payerAmountSat feesSat
  let createResponse ← Task.askOk (.createReceiveSwap {
    invoiceAmount := some payerAmountSat
    preimageHash := some preimageHash
    claimPublicKey := lib.publicKey keypair
    description, descriptionHash
    address := some mrhAddr
    addressSignature := some mrhAddrHashSig }) rfl
  let invoiceStr ← Task.ofExcept (okOr createResponse.invoice (.receiveError "Invoice not found"))
  insertOrUpdateReservedAddress mrhAddr createResponse.timeoutBlockHeight
  let mrh ← Task.askOk (.checkForMrh invoiceStr) rfl
  let mrh ← Task.ofExcept (okOr mrh (.receiveError "Invoice has no MRH"))
  Task.ofExcept (ensure (mrh.1 = mrhAddr) (.receiveError "Invoice has incorrect address in MRH"))
  let invoice ← Task.ofExcept (lib.parseBolt11 invoiceStr)
  let amountMsat ← Task.ofExcept (okOr invoice.amountMsat (.invalidInvoice "Invoice does not contain an amount"))
  Task.ofExcept (ensure (invoice.paymentHash = preimageHash) (.invalidInvoice "Invalid preimage returned by swapper"))
  let createResponseJson ← Task.ofExcept (fromBoltzStructToJson lib createResponse (some invoice.text))
  let createdAt ← Task.reads World.now
  insertOrUpdateReceiveSwap lib {
    id := createResponse.id
    preimage, createResponseJson
    claimPrivateKey := keypair
    invoice := invoice.text
    paymentHash := some preimageHash
    destinationPubkey := some invoice.destinationPubkey
    timeoutBlockHeight := createResponse.timeoutBlockHeight
    description := invoice.description
    payerNote
    payerAmountSat := amountMsat / 1000
    receiverAmountSat
    pairFeesJson := lib.reversePairJson reversePair
    claimFeesSat := reversePair.claimFee
    mrhAddress := mrhAddr
    createdAt
    state := .created }
  Task.askOk (.trackSwapId createResponse.id) rfl
  return {
    destination := invoice.text
    liquidExpirationBlockheight := some createResponse.timeoutBlockHeight }

/-- `create_bolt12_invoice`. -/
def createBolt12Invoice (req : CreateBolt12InvoiceRequest) : Async String := do
  let offer ← Task.reads fun w => w.db.fetchBolt12OfferById req.offer
  let offer ← Task.ofExcept (okOr offer (.generic ("Bolt12 offer not found: " ++ req.offer)))
  let node ← Task.ofExcept (lib.offerNode offer)
  let node ← Task.ofExcept (okOr node (.generic ("No BTC CLN node found: " ++ req.offer)))
  let invoiceRequest ← Task.ofExcept (lib.decodeInvoiceRequest req.invoiceRequest)
  let amountMsats ← Task.ofExcept
    (okOr invoiceRequest.amountMsats (.amountMissing "Invoice request must contain an amount"))
  let payerAmountSat := amountMsats / 1000
  let minCltv ← Task.askOk .getBolt12Params rfl
  let reversePair ← reversePair
  Task.ofExcept (within reversePair.limits payerAmountSat)
  let feesSat := reversePair.feesTotal payerAmountSat
  let keypair ← Task.ofExcept (lib.decodeKeypair offer.privateKey)
  let preimage ← (Task.ask Call.newPreimage : Async String)
  let preimageHash := lib.sha256 preimage
  let mrhAddr ← Task.askOk .nextUnusedAddress rfl
  let mrhAddrHashSig ← Task.ofExcept (lib.signMessageHash mrhAddr keypair)
  let entropy ← (Task.ask Call.generateEntropy : Async String)
  let invoice ← Task.ofExcept (lib.bolt12Invoice {
    offer
    invoiceRequest := req.invoiceRequest
    nodeId := node
    minCltv
    paymentHash := preimageHash
    entropy })
  let claimKeypair ← (Task.ask Call.generateKeypair : Async PrivateKey)
  let receiverAmountSat := u64Sub payerAmountSat feesSat
  let createResponse ← Task.askOk (.createReceiveSwap {
    invoice := some invoice.1
    claimPublicKey := lib.publicKey claimKeypair
    address := some mrhAddr
    addressSignature := some mrhAddrHashSig }) rfl
  insertOrUpdateReservedAddress mrhAddr createResponse.timeoutBlockHeight
  let createResponseJson ← Task.ofExcept (fromBoltzStructToJson lib createResponse none)
  let createdAt ← Task.reads World.now
  insertOrUpdateReceiveSwap lib {
    id := createResponse.id
    preimage, createResponseJson
    claimPrivateKey := claimKeypair
    invoice := invoice.1
    bolt12Offer := some req.offer
    paymentHash := some preimageHash
    destinationPubkey := some node
    timeoutBlockHeight := createResponse.timeoutBlockHeight
    description := invoice.2
    payerNote := invoiceRequest.payerNote
    payerAmountSat, receiverAmountSat
    pairFeesJson := lib.reversePairJson reversePair
    claimFeesSat := reversePair.claimFee
    mrhAddress := mrhAddr
    createdAt
    state := .created }
  Task.askOk (.trackSwapId createResponse.id) rfl
  return invoice.1

/-- `create_bolt12_offer`. -/
def createBolt12Offer (description : String) : Async ReceivePaymentResponse := do
  let node ← Task.askOk .getNodes rfl
  let maybeReversePair ← Task.askOk .getReverseSwapPairs rfl
  let node ← Task.ofExcept (okOr node (.generic "No BTC CLN node found"))
  let reversePair ← Task.ofExcept (okOr maybeReversePair .pairsNotFound)
  let keypair ← (Task.ask Call.generateKeypair : Async PrivateKey)
  let entropy ← (Task.ask Call.generateEntropy : Async String)
  let offer ← Task.ofExcept
    (lib.bolt12Offer keypair (reversePair.limits.minimal * 1000 % 2 ^ 64) description node entropy)
  Task.askOk (.createBolt12Offer offer) rfl
  let createdAt ← Task.reads World.now
  insertOrUpdateBolt12Offer lib { id := offer, description, privateKey := keypair, createdAt }
  let subscribeHashSig ← Task.ofExcept (lib.signMessageHash "SUBSCRIBE" keypair)
  Task.askOk (.trackOffer offer subscribeHashSig) rfl
  return { destination := offer }

/-- `create_receive_chain_swap`. -/
def createReceiveChainSwap (userLockupAmountSat : Option Nat) (feesSat : Nat) : Async ChainSwap := do
  let pair ← getAndValidateChainPair userLockupAmountSat
  Task.ofExcept (ensure (feesSat = incomingFees pair userLockupAmountSat) .invalidOrExpiredFees)
  let preimage ← (Task.ask Call.newPreimage : Async String)
  let claimKeypair ← (Task.ask Call.generateKeypair : Async PrivateKey)
  let refundKeypair ← (Task.ask Call.generateKeypair : Async PrivateKey)
  let createResponse ← Task.askOk (.createChainSwap {
    preimageHash := lib.sha256 preimage
    claimPublicKey := lib.publicKey claimKeypair
    refundPublicKey := lib.publicKey refundKeypair
    userLockAmount := userLockupAmountSat }) rfl
  let createdAt ← Task.reads World.now
  let swap : ChainSwap := {
    id := createResponse.id
    direction := .incoming
    lockupAddress := createResponse.lockupDetails.lockupAddress
    timeoutBlockHeight := createResponse.lockupDetails.timeoutBlockHeight
    claimTimeoutBlockHeight := createResponse.claimDetails.timeoutBlockHeight
    preimage
    description := some "Bitcoin transfer"
    payerAmountSat := userLockupAmountSat.getD 0
    receiverAmountSat := (userLockupAmountSat.map fun amountSat => u64Sub amountSat feesSat).getD 0
    claimFeesSat := pair.userClaimFee
    pairFeesJson := lib.chainPairJson pair
    acceptZeroConf :=
      (userLockupAmountSat.map fun amountSat => decide (amountSat ≤ pair.limits.maximalZeroConf)).getD false
    createResponseJson := lib.chainResponseJson createResponse.toInternalChainResponse
    claimPrivateKey := claimKeypair
    refundPrivateKey := refundKeypair
    createdAt
    state := .created }
  insertOrUpdateChainSwap lib swap
  Task.askOk (.trackSwapId swap.id) rfl
  return swap

/-- The URI that the swapper suggests, or one with its lockup address. -/
def lockupUri (createResponse : InternalChainResponse) : String :=
  createResponse.lockupDetails.bip21.getD ("bitcoin:" ++ createResponse.lockupDetails.lockupAddress ++ "?amount=" ++
    lib.btcText createResponse.lockupDetails.amount ++ "&label=Send%20to%20L-BTC%20address")

/-- `receive_onchain`: the URI to pay to, with the amount if there is one. -/
def receiveOnchain (userLockupAmountSat : Option Nat) (feesSat : Nat) : Async ReceivePaymentResponse := do
  let swap ← createReceiveChainSwap lib userLockupAmountSat feesSat
  let createResponse ← Task.ofExcept (lib.chainResponse swap.createResponseJson)
  return {
    destination := lockupUri lib createResponse
    liquidExpirationBlockheight := some swap.claimTimeoutBlockHeight
    bitcoinExpirationBlockheight := some swap.timeoutBlockHeight }

/-- The description, or the hash of it. -/
def invoiceDescription (req : ReceivePaymentRequest) : Except PaymentError (Option String × Option String) :=
  match req.description, req.useDescriptionHash.getD false with
  | some description, true => .ok (none, some (lib.sha256 description))
  | description, false => .ok (description, none)
  | none, true => .error (.invalidDescription "Missing payment description to hash")

/-- The address of the wallet itself. No swap is needed for it, only the reservation. -/
def receiveLiquid (req : ReceivePaymentRequest) : Async ReceivePaymentResponse := do
  let (assetId, payerAmount, amountSat) := match req.prepareResponse.amount with
    | some (.asset assetId payerAmount) => (assetId, payerAmount, none)
    | some (.bitcoin payerAmountSat) => (lib.lbtcAssetId, none, some payerAmountSat)
    | none => (lib.lbtcAssetId, none, none)
  let address ← Task.askOk .nextUnusedAddress rfl
  if assetId ≠ lib.lbtcAssetId || payerAmount.isSome || amountSat.isSome then do
    let destination ← Task.ofExcept (lib.liquidUri
      { address, network := lib.network, assetId := some assetId, amountSat, message := req.description } payerAmount)
    return { destination }
  else return { destination := address }

/-- `receive_payment`, by method. -/
def receivePayment (req : ReceivePaymentRequest) : Async ReceivePaymentResponse :=
  match req.prepareResponse.paymentMethod with
  | .lightning => do
      let amountSat ← Task.ofExcept
        (lightningAmount req.prepareResponse.amount "Asset cannot be received for this payment method")
      let description ← Task.ofExcept (invoiceDescription lib req)
      createBolt11ReceiveSwap lib amountSat req.prepareResponse.feesSat description.1 description.2 req.payerNote
  | .bolt12Offer => do
      let description := req.description.getD ""
      let offer ← Task.reads fun w => w.db.bolt12Offers.rows.find? fun offer => offer.description = description
      match offer with
      | some offer => return { destination := offer.id }
      | none => createBolt12Offer lib description
  | .bitcoinAddress => do
      let amountSat ← Task.ofExcept (onchainAmount req.prepareResponse.amount)
      receiveOnchain lib amountSat req.prepareResponse.feesSat
  | .liquidAddress => receiveLiquid lib req

end Receive

end BreezLiquid.Creation
