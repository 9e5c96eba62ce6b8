/-
# BreezLiquid.Model.Types — the data the SDK keeps about swaps, transactions and scripts.

The records are the ones of `model.rs` with all the fields a modelled function reads or writes, under
the source's names. Ids, addresses, scripts and JSON columns stay strings, as they are in the source:
what decodes them (`serde_json`, `boltz_client`, the key codec) is third-party code, gathered in the
parameter `BoltzClient`. Amounts are `u64`, timestamps and heights of the local records `u32` in the
source; the heights of a history entry are signed.
-/
import Mathlib.Data.Rat.Floor
import BreezLiquid.Lib.Collections
import BreezLiquid.Lib.Outputs
import BreezLiquid.Lib.Wrapping

namespace BreezLiquid

open Collections

abbrev SwapId := String
abbrev TxId := String
abbrev Script := String
abbrev Address := String
abbrev AssetId := String

/-- The errors of the handlers. An `anyhow` error carries its text in `generic`. -/
inductive Err where
  | generic (err : String)
  | alreadyClaimed
  | persistError
  | invalidPreimage
  | network
  | paymentInProgress
  | invalidOrExpiredFees
  | insufficientFunds
  | alreadyPaid
  | invalidInvoice (err : String)
  | pairsNotFound
  | paymentTimeout
  | amountMissing (err : String)
  | assetError (err : String)
  | invalidNetwork (err : String)
  | selfTransferNotSupported
  | schemaNotApplicable
  | alreadyPersisted
  | recordConflict
  | excessiveRecordConflicts (succeded total recoverable : Nat)
  /-- An error of a request that its service carried out all the same. -/
  | replyLost (err : String)
  deriving DecidableEq, Repr, Inhabited

/-- The text of an error, as `{e}` prints it. -/
def Err.text : Err → String
  | generic err => err
  | alreadyClaimed => "The specified funds have already been claimed"
  | persistError => "Could not store the swap details locally"
  | invalidPreimage => "The generated preimage is not valid"
  | network => "Could not contact servers"
  | paymentInProgress => "The payment is already in progress"
  | invalidOrExpiredFees => "The provided fees have expired"
  | insufficientFunds => "Cannot pay: not enough funds"
  | alreadyPaid => "The specified funds have already been sent"
  | invalidInvoice err => "The specified invoice is not valid: " ++ err
  | pairsNotFound => "Boltz did not return any pairs from the request"
  | paymentTimeout => "The payment timed out"
  | amountMissing err => "Amount is missing: " ++ err
  | assetError err => "Asset error: " ++ err
  | invalidNetwork err => "Invalid network: " ++ err
  | selfTransferNotSupported => "The payment is a self-transfer, which is not supported"
  | schemaNotApplicable => "Record is not applicable: schema_version too high"
  | alreadyPersisted => "Remote record revision is lower or equal to the persisted one. Skipping update."
  | recordConflict => "Received conflict status from remote"
  | excessiveRecordConflicts succeded total recoverable =>
      "Push completed with too many failed records: succeded " ++ toString succeded ++ " total " ++
        toString total ++ " recoverable " ++ toString recoverable
  | replyLost err => err

/-! ## Swaps -/

/-- The state of a payment, `PaymentState`. -/
inductive PaymentState where
  | created
  | pending
  | complete
  | failed
  | timedOut
  | refundable
  | refundPending
  | waitingFeeAcceptance
  deriving DecidableEq, Repr, Inhabited

namespace PaymentState

/-- The state's name, as `{:?}` prints it. -/
def debugName : PaymentState → String
  | created => "Created"
  | pending => "Pending"
  | complete => "Complete"
  | failed => "Failed"
  | timedOut => "TimedOut"
  | refundable => "Refundable"
  | refundPending => "RefundPending"
  | waitingFeeAcceptance => "WaitingFeeAcceptance"

/-- `PaymentState::is_refundable`. -/
def isRefundable : PaymentState → Bool
  | refundable | refundPending | waitingFeeAcceptance => true
  | _ => false

/-- The refusal of a state transition. -/
def refuse (fromState toState : PaymentState) : Except Err Unit :=
  .error (.generic ("Cannot transition from " ++ fromState.debugName ++ " to " ++
    toState.debugName ++ " state"))

end PaymentState

/-- A chain swap sends to Bitcoin (`outgoing`) or receives from it (`incoming`). -/
inductive Direction where
  | incoming
  | outgoing
  deriving DecidableEq, Repr, Inhabited

/-- Local bookkeeping of a swap row. `version` is the optimistic-concurrency counter. -/
structure SwapMetadata where
  version : Nat := 0
  lastUpdatedAt : Nat := 0
  isLocal : Bool := false
  deriving DecidableEq, Repr, Inhabited

/-- A chain swap, `ChainSwap`. -/
structure ChainSwap where
  id : SwapId
  direction : Direction
  claimAddress : Option Address := none
  lockupAddress : Address := ""
  refundAddress : Option Address := none
  timeoutBlockHeight : Nat := 0
  claimTimeoutBlockHeight : Nat := 0
  preimage : String := ""
  description : Option String := none
  payerAmountSat : Nat := 0
  actualPayerAmountSat : Option Nat := none
  receiverAmountSat : Nat := 0
  acceptedReceiverAmountSat : Option Nat := none
  claimFeesSat : Nat := 0
  pairFeesJson : String := ""
  acceptZeroConf : Bool := false
  createResponseJson : String := ""
  serverLockupTxId : Option TxId := none
  userLockupTxId : Option TxId := none
  claimTxId : Option TxId := none
  refundTxId : Option TxId := none
  createdAt : Nat := 0
  state : PaymentState := .created
  claimPrivateKey : String := ""
  refundPrivateKey : String := ""
  autoAcceptedFees : Bool := false
  metadata : SwapMetadata := {}
  deriving DecidableEq, Repr, Inhabited

/-- A submarine swap, `SendSwap`. -/
structure SendSwap where
  id : SwapId
  invoice : String := ""
  bolt12Offer : Option String := none
  paymentHash : Option String := none
  destinationPubkey : Option String := none
  description : Option String := none
  preimage : Option String := none
  payerAmountSat : Nat := 0
  receiverAmountSat : Nat := 0
  pairFeesJson : String := ""
  createResponseJson : String := ""
  lockupTxId : Option TxId := none
  refundAddress : Option Address := none
  refundTxId : Option TxId := none
  createdAt : Nat := 0
  timeoutBlockHeight : Nat := 0
  state : PaymentState := .created
  refundPrivateKey : String := ""
  metadata : SwapMetadata := {}
  deriving DecidableEq, Repr, Inhabited

/-- A reverse swap, `ReceiveSwap`. -/
structure ReceiveSwap where
  id : SwapId
  preimage : String := ""
  createResponseJson : String := ""
  claimPrivateKey : String := ""
  invoice : String := ""
  bolt12Offer : Option String := none
  paymentHash : Option String := none
  destinationPubkey : Option String := none
  description : Option String := none
  payerNote : Option String := none
  payerAmountSat : Nat := 0
  receiverAmountSat : Nat := 0
  pairFeesJson : String := ""
  claimFeesSat : Nat := 0
  claimAddress : Option Address := none
  claimTxId : Option TxId := none
  lockupTxId : Option TxId := none
  mrhAddress : Address := ""
  mrhTxId : Option TxId := none
  createdAt : Nat := 0
  timeoutBlockHeight : Nat := 0
  state : PaymentState := .created
  metadata : SwapMetadata := {}
  deriving DecidableEq, Repr, Inhabited

/-! `is_local` is not a column of the swap tables: it is set when a row is read. -/

/-- A row as it is read: whether this device created the swap is not a column of it. -/
def ChainSwap.withIsLocal (isLocal : Bool) (s : ChainSwap) : ChainSwap :=
  { s with metadata.isLocal := isLocal }

/-- The same of a send swap ... -/
def SendSwap.withIsLocal (isLocal : Bool) (s : SendSwap) : SendSwap :=
  { s with metadata.isLocal := isLocal }

/-- ... and of a receive swap. -/
def ReceiveSwap.withIsLocal (isLocal : Bool) (s : ReceiveSwap) : ReceiveSwap :=
  { s with metadata.isLocal := isLocal }

/-- `PartialEq` of chain swaps, which ignores the metadata. The other two kinds are compared like this. -/
def ChainSwap.sameAs (a b : ChainSwap) : Bool := { a with metadata := b.metadata } = b

def SendSwap.sameAs (a b : SendSwap) : Bool := { a with metadata := b.metadata } = b

def ReceiveSwap.sameAs (a b : ReceiveSwap) : Bool := { a with metadata := b.metadata } = b

/-- `Swap`, the swaps of all three kinds. -/
inductive Swap where
  | chain (swap : ChainSwap)
  | send (swap : SendSwap)
  | receive (swap : ReceiveSwap)
  deriving DecidableEq, Repr

namespace Swap

def id : Swap → SwapId
  | chain s => s.id
  | send s => s.id
  | receive s => s.id

def metadata : Swap → SwapMetadata
  | chain s => s.metadata
  | send s => s.metadata
  | receive s => s.metadata

def version (swap : Swap) : Nat := swap.metadata.version

def lastUpdatedAt (swap : Swap) : Nat := swap.metadata.lastUpdatedAt

def setVersion (v : Nat) : Swap → Swap
  | chain s => chain { s with metadata.version := v }
  | send s => send { s with metadata.version := v }
  | receive s => receive { s with metadata.version := v }

def isChain : Swap → Bool
  | chain _ => true
  | _ => false

end Swap

/-! ## Create responses, pairs and scripts -/

/-- One side of a chain swap as the swapper described it, `ChainSwapDetails`. -/
structure ChainSwapDetails where
  lockupAddress : Address := ""
  amount : Nat := 0
  timeoutBlockHeight : Nat := 0
  deriving DecidableEq, Repr, Inhabited

/-- What the row keeps of the swapper's answer to a chain swap: the details of the two sides. -/
structure InternalCreateChainResponse where
  claimDetails : ChainSwapDetails := {}
  lockupDetails : ChainSwapDetails := {}
  deriving DecidableEq, Repr, Inhabited

/-- What the row keeps of the swapper's answer to a send swap. -/
structure InternalCreateSubmarineResponse where
  address : Address := ""
  expectedAmount : Nat := 0
  acceptZeroConf : Bool := false
  timeoutBlockHeight : Nat := 0
  deriving DecidableEq, Repr, Inhabited

/-- `CreateSubmarineResponse` and `CreateChainResponse`: what is stored of them, and the swap's id. -/
structure CreateSubmarineResponse extends InternalCreateSubmarineResponse where
  id : SwapId
  deriving DecidableEq, Repr, Inhabited

/-- The swapper's answer to the creation of a chain swap. -/
structure CreateChainResponse extends InternalCreateChainResponse where
  id : SwapId
  deriving DecidableEq, Repr, Inhabited

/-- What the row keeps of the swapper's answer to a receive swap. -/
structure InternalCreateReverseResponse where
  lockupAddress : Address := ""
  onchainAmount : Nat := 0
  timeoutBlockHeight : Nat := 0
  blindingKey : Option String := none
  deriving DecidableEq, Repr, Inhabited

/-! ## Pairs of the swapper

The methods of a pair belong to the swapper's client, and are fields: a statement about every pair is one about every
way to compute its fees and to check its limits. -/

/-- The limits of a pair, and their method `within`. -/
structure PairLimits where
  maximal : Nat
  minimal : Nat
  maximalZeroConf : Nat := 0
  within : Nat → Except Err Unit
  deriving Inhabited

/-- Limits that check an amount against their two bounds. -/
def PairLimits.between (minimal maximal : Nat) : PairLimits where
  minimal
  maximal
  within amountSat :=
    if amountSat < minimal then .error (.generic "Amount is below the minimal of the pair")
    else if maximal < amountSat then .error (.generic "Amount is above the maximal of the pair")
    else .ok ()

/-- `SubmarinePair`, with `fees.total`. -/
structure SubmarinePair where
  limits : PairLimits
  feesTotal : Nat → Nat
  deriving Inhabited

/-- A percentage of an amount, rounded up: the service fee, when decimal numbers are computed with exactly. -/
def percentageFee (percentage : ℚ) (amountSat : Nat) : Nat := ⌈percentage / 100 * amountSat⌉₊

/-- A submarine pair with an exact service fee and a network fee. -/
def SubmarinePair.exact (limits : PairLimits) (percentage : ℚ) (minerFees : Nat) : SubmarinePair where
  limits
  feesTotal amountSat := percentageFee percentage amountSat + minerFees

/-- `ChainPair`: the percentage is a number of type `f64`, and `boltzFee` is `fees.boltz`. -/
structure ChainPair where
  limits : PairLimits
  percentage : ℚ := 0
  boltzFee : Nat → Nat
  serverFee : Nat := 0
  userLockupFee : Nat := 0
  userClaimFee : Nat := 0
  deriving Inhabited

/-- A chain pair with an exact service fee. -/
def ChainPair.exact (limits : PairLimits) (percentage : ℚ) (serverFee userClaimFee : Nat) : ChainPair where
  limits
  percentage
  boltzFee := percentageFee percentage
  serverFee
  userClaimFee

/-- The two sides of a chain swap: the user locks up on one and claims on the other. -/
inductive Side where
  | lockup
  | claim
  deriving DecidableEq, Repr

/-- A lock time is a block height or a time. -/
inductive LockTime where
  | blocks (n : Nat)
  | seconds (n : Nat)
  deriving DecidableEq, Repr, Inhabited

/-- `utils::is_locktime_expired`; lock times in different units are never expired. -/
def isLocktimeExpired : LockTime → LockTime → Bool
  | .blocks n, .blocks lockTime => lockTime ≤ n
  | .seconds n, .seconds lockTime => lockTime ≤ n
  | _, _ => false

/-- `LockTime::from_height`: heights end where timestamps begin. -/
def LockTime.fromHeight (height : Nat) : Except Err LockTime :=
  if height < 500000000 then .ok (.blocks height) else .error (.generic "Invalid height")

/-- A swap script. `fundingAddrs` is the script pubkey of the funding address, `toAddress` the one
`to_address` computes. -/
structure SwapScript where
  fundingAddrs : Option Script
  toAddress : Option Script
  locktime : LockTime
  deriving DecidableEq, Repr, Inhabited

/-- The script of one side of a chain swap. -/
inductive SwapScriptV2 where
  | bitcoin (script : SwapScript)
  | liquid (script : SwapScript)
  deriving DecidableEq, Repr

namespace SwapScriptV2

/-- `SwapScriptV2::as_bitcoin_script`. -/
def asBitcoinScript : SwapScriptV2 → Except Err SwapScript
  | bitcoin script => .ok script
  | liquid _ => .error (.generic "Invalid chain")

/-- `SwapScriptV2::as_liquid_script`. -/
def asLiquidScript : SwapScriptV2 → Except Err SwapScript
  | liquid script => .ok script
  | bitcoin _ => .error (.generic "Invalid chain")

end SwapScriptV2

/-- The statuses of a chain swap its handler tells apart, `ChainSwapStates`. -/
inductive ChainSwapStates where
  | created
  | transactionMempool
  | transactionConfirmed
  | transactionServerMempool
  | transactionServerConfirmed
  | transactionFailed
  | transactionLockupFailed
  | transactionRefunded
  | swapExpired
  | unhandled
  deriving DecidableEq, Repr

/-- The statuses of a submarine swap its handler tells apart, `SubSwapStates`. -/
inductive SubSwapStates where
  | invoiceSet
  | transactionClaimPending
  | transactionClaimed
  | transactionLockupFailed
  | invoiceFailedToPay
  | swapExpired
  | unhandled
  deriving DecidableEq, Repr

/-- The statuses of a reverse swap its handler tells apart, `RevSwapStates`. -/
inductive RevSwapStates where
  | swapExpired
  | invoiceExpired
  | transactionFailed
  | transactionRefunded
  | transactionMempool
  | transactionConfirmed
  | unhandled
  deriving DecidableEq, Repr

/-- `TransactionInfo` of a status update. -/
structure TransactionInfo where
  id : TxId
  hex : Option String := none
  deriving DecidableEq, Repr, Inhabited

/-- A status update of the swapper, `boltz::SwapStatus`. -/
structure SwapStatus where
  id : SwapId
  status : String
  zeroConfRejected : Option Bool := none
  transaction : Option TransactionInfo := none
  deriving DecidableEq, Repr, Inhabited

/-- The third-party decoders: `serde_json` on the JSON columns, the key codec, the script derivations
and status names of `boltz_client`, and the parsing of a Liquid address into its script pubkey. Each of
them may fail. -/
structure BoltzClient where
  chainResponse : String → Option InternalCreateChainResponse
  submarineResponse : String → Option InternalCreateSubmarineResponse
  reverseResponse : String → Option InternalCreateReverseResponse
  chainPair : String → Option ChainPair
  decodeKeypair : String → Option String
  btcChainScript : Side → ChainSwapDetails → String → Option SwapScript
  lbtcChainScript : Side → ChainSwapDetails → String → Option SwapScript
  submarineScript : SwapId → InternalCreateSubmarineResponse → String → Option SwapScript
  reverseScript : SwapId → InternalCreateReverseResponse → String → Option SwapScript
  elementsAddress : Address → Option Script
  claimTimeoutBlockHeight : String → Option Nat
  chainSwapStates : String → Option ChainSwapStates
  subSwapStates : String → Option SubSwapStates
  revSwapStates : String → Option RevSwapStates

/-- A client whose create responses name both scripts after the JSON text, whose keys decode to
themselves, and whose scripts are the lockup addresses. -/
def BoltzClient.byAddress (claimAmount : Nat) : BoltzClient where
  chainResponse json := some
    { claimDetails := { lockupAddress := json ++ "-claim", amount := claimAmount }
      lockupDetails := { lockupAddress := json ++ "-lockup" } }
  submarineResponse json := some { address := json }
  reverseResponse json := some { lockupAddress := json, blindingKey := some "key" }
  chainPair _ := some (.exact (.between 25000 25000000) 0 0 0)
  decodeKeypair := some
  btcChainScript _ details _ :=
    some ⟨some details.lockupAddress, some details.lockupAddress, .blocks 0⟩
  lbtcChainScript _ details _ :=
    some ⟨some details.lockupAddress, some details.lockupAddress, .blocks 0⟩
  submarineScript _ response _ := some ⟨some response.address, some response.address, .blocks 0⟩
  reverseScript _ response _ :=
    some ⟨some response.lockupAddress, some response.lockupAddress, .blocks 0⟩
  elementsAddress address := if address.isEmpty then none else some address
  claimTimeoutBlockHeight _ := some 0
  chainSwapStates status :=
    if status = "swap.created" then some .created
    else if status = "transaction.server.mempool" then some .transactionServerMempool
    else if status = "transaction.server.confirmed" then some .transactionServerConfirmed
    else none
  subSwapStates status :=
    if status = "swap.expired" then some .swapExpired
    else if status = "invoice.failedToPay" then some .invoiceFailedToPay
    else none
  revSwapStates status :=
    if status = "transaction.mempool" then some .transactionMempool
    else if status = "transaction.confirmed" then some .transactionConfirmed
    else none

/-- `Option::ok_or`, with the error as a text. -/
def okOr {α : Type} (o : Option α) (err : String) : Except Err α :=
  match o with
  | some a => .ok a
  | none => .error (.generic err)

/-- What `okOr` returns is what was there. -/
theorem okOr_eq_ok {α : Type} {o : Option α} {err : String} {a : α} :
    okOr o err = .ok a ↔ o = some a := by
  rcases o with _ | a'
  · simp [okOr]
  · simp [okOr]

theorem okOr_map_eq_ok {α β : Type} {o : Option α} {err : String} {f : α → β} {b : β} :
    (okOr o err).map f = .ok b ↔ ∃ a, o = some a ∧ f a = b := by
  rcases o with _ | a
  · constructor
    · intro h
      cases h
    · rintro ⟨a, h, -⟩
      cases h
  · constructor
    · intro h
      exact ⟨a, rfl, Except.ok.inj h⟩
    · rintro ⟨a', h, rfl⟩
      cases h
      rfl

section Scripts

variable (bz : BoltzClient)

namespace ChainSwap

/-- `ChainSwap::get_boltz_create_response`, with the text of its error as the source has it. -/
def getBoltzCreateResponse (swap : ChainSwap) : Except Err InternalCreateChainResponse :=
  okOr (bz.chainResponse swap.createResponseJson)
    "Failed to deserialize InternalCreateSubmarineResponse"

/-- `ChainSwap::get_boltz_pair`. -/
def getBoltzPair (swap : ChainSwap) : Except Err ChainPair :=
  okOr (bz.chainPair swap.pairFeesJson) "Failed to deserialize ChainPair"

/-- `ChainSwap::get_claim_swap_script`: on Liquid for an incoming swap, on Bitcoin for an outgoing one. -/
def getClaimSwapScript (swap : ChainSwap) : Except Err SwapScriptV2 := do
  let chainSwapDetails := (← swap.getBoltzCreateResponse bz).claimDetails
  let ourPubkey ← okOr (bz.decodeKeypair swap.claimPrivateKey) "Could not decode claim key"
  match swap.direction with
  | .incoming =>
      .liquid <$> okOr (bz.lbtcChainScript .claim chainSwapDetails ourPubkey) "Invalid script"
  | .outgoing =>
      .bitcoin <$> okOr (bz.btcChainScript .claim chainSwapDetails ourPubkey) "Invalid script"

/-- `ChainSwap::get_lockup_swap_script`, on the other chain. -/
def getLockupSwapScript (swap : ChainSwap) : Except Err SwapScriptV2 := do
  let chainSwapDetails := (← swap.getBoltzCreateResponse bz).lockupDetails
  let ourPubkey ← okOr (bz.decodeKeypair swap.refundPrivateKey) "Could not decode refund key"
  match swap.direction with
  | .incoming =>
      .bitcoin <$> okOr (bz.btcChainScript .lockup chainSwapDetails ourPubkey) "Invalid script"
  | .outgoing =>
      .liquid <$> okOr (bz.lbtcChainScript .lockup chainSwapDetails ourPubkey) "Invalid script"

/-- A zero-amount swap whose receiver amount nobody has accepted yet. -/
def isWaitingFeeAcceptance (swap : ChainSwap) : Bool :=
  swap.payerAmountSat == 0 && swap.acceptedReceiverAmountSat.isNone

end ChainSwap

namespace SendSwap

/-- `SendSwap::get_boltz_create_response`. -/
def getBoltzCreateResponse (swap : SendSwap) : Except Err InternalCreateSubmarineResponse :=
  okOr (bz.submarineResponse swap.createResponseJson)
    "Failed to deserialize InternalCreateSubmarineResponse"

/-- `SendSwap::get_swap_script`. -/
def getSwapScript (swap : SendSwap) : Except Err SwapScript := do
  let createResponse ← okOr (bz.submarineResponse swap.createResponseJson)
    "Failed to deserialize InternalCreateSubmarineResponse"
  let ourPubkey ← okOr (bz.decodeKeypair swap.refundPrivateKey) "Could not decode refund key"
  okOr (bz.submarineScript swap.id createResponse ourPubkey)
    ("Failed to create swap script for Send Swap " ++ swap.id)

end SendSwap

namespace ReceiveSwap

/-- `ReceiveSwap::get_boltz_create_response`. -/
def getBoltzCreateResponse (swap : ReceiveSwap) : Except Err InternalCreateReverseResponse :=
  okOr (bz.reverseResponse swap.createResponseJson)
    "Failed to deserialize InternalCreateReverseResponse"

/-- `ReceiveSwap::get_swap_script`. -/
def getSwapScript (swap : ReceiveSwap) : Except Err SwapScript := do
  let ourPubkey ← okOr (bz.decodeKeypair swap.claimPrivateKey) "Could not decode claim key"
  let createResponse ← okOr (bz.reverseResponse swap.createResponseJson)
    ("Failed to create swap script for Receive Swap " ++ swap.id)
  okOr (bz.reverseScript swap.id createResponse ourPubkey)
    ("Failed to create swap script for Receive Swap " ++ swap.id)

/-- `ReceiveSwap::claim_script`, the address the server pays. -/
def claimScript (swap : ReceiveSwap) : Except Err Script := do
  okOr (← swap.getSwapScript bz).fundingAddrs "No funding address found"

end ReceiveSwap

end Scripts

/-! ## Payments -/

/-- `PaymentDetails`, by the swap that makes the payment. -/
inductive PaymentDetails where
  | lightning (swapId : SwapId) (preimage : Option String) (description : String)
  | liquid (description : String)
  | bitcoin (swapId : SwapId) (description : String)
  deriving DecidableEq, Repr, Inhabited

namespace PaymentDetails

/-- `PaymentDetails::get_swap_id`; a Liquid payment has none. -/
def getSwapId : PaymentDetails → Option SwapId
  | lightning swapId .. => some swapId
  | liquid _ => none
  | bitcoin swapId _ => some swapId

end PaymentDetails

/-- A payment as `get_payment` returns it. -/
structure Payment where
  txId : Option TxId := none
  destination : Option String := none
  feesSat : Nat := 0
  details : PaymentDetails
  deriving DecidableEq, Repr, Inhabited

/-- The network of the wallet. -/
inductive LiquidNetwork where
  | mainnet
  | testnet
  | regtest
  deriving DecidableEq, Repr, Inhabited

/-- What `get_info` tells about the wallet: the L-BTC balance and the balances of other assets. -/
structure WalletInfo where
  balanceSat : Nat
  assetBalances : List (AssetId × Nat) := []
  deriving DecidableEq, Repr, Inhabited

/-- A parsed Liquid address, with what its URI asks for. -/
structure LiquidAddressData where
  address : Address
  network : LiquidNetwork
  assetId : Option AssetId := none
  amountSat : Option Nat := none
  message : Option String := none
  deriving DecidableEq, Repr, Inhabited

/-- The parts of a BOLT11 invoice that are read. -/
structure Bolt11Invoice where
  network : String
  timestamp : Nat
  expiryTime : Nat
  amountMsat : Option Nat
  paymentHash : String
  description : Option String
  deriving DecidableEq, Repr, Inhabited

/-- The parts of a BOLT12 invoice that are read. -/
structure Bolt12Invoice where
  signingPubkey : String
  amountMsats : Nat
  paymentHash : String
  description : Option String
  deriving DecidableEq, Repr, Inhabited

/-- The events of the SDK a payment waits for. -/
inductive SdkEvent where
  | paymentPending (payment : Payment)
  | paymentSucceeded (payment : Payment)
  | other
  deriving DecidableEq, Repr

/-! ## Transactions and script histories -/

/-- An entry of a script history. Height `-1` means unconfirmed with unconfirmed parents, `0`
unconfirmed with confirmed parents. -/
structure History where
  txid : TxId
  height : Int
  deriving DecidableEq, Repr, Inhabited

abbrev LBtcHistory := History
abbrev BtcHistory := History

namespace History

/-- `History::confirmed`: what is in the mempool has height 0 or -1, by the service that reports it. -/
def confirmed (h : History) : Bool := 0 < h.height

end History

/-- A Bitcoin transaction output. -/
structure BtcTxOut where
  value : Nat
  scriptPubkey : Script
  deriving DecidableEq, Repr, Inhabited

/-- An output of a transaction, by its position. -/
abbrev OutPoint := Ledgers.OutPoint TxId

/-- A transaction input: whether its sequence number signals RBF, its script witness, and what it spends. -/
structure TxIn where
  isRbf : Bool
  scriptWitness : List String
  previousOutput : OutPoint := ⟨"", 0⟩
  deriving DecidableEq, Repr, Inhabited

/-- A Bitcoin transaction; `txid` is what `compute_txid` computes. -/
structure BtcTransaction where
  txid : TxId
  input : List TxIn := []
  output : List BtcTxOut
  deriving DecidableEq, Repr, Inhabited

/-- A Liquid transaction output. `unblinded` is what unblinding it with the swap's blinding key
gives (asset and value), if it succeeds. -/
structure LBtcTxOut where
  scriptPubkey : Script
  unblinded : Option (AssetId × Nat)
  deriving DecidableEq, Repr, Inhabited

/-- The value of an output, of whatever asset; none is known of one that cannot be unblinded. -/
def LBtcTxOut.value (out : LBtcTxOut) : Nat := (out.unblinded.map Prod.snd).getD 0

/-- A Liquid transaction; `feesSat` is the sum of `all_fees`. -/
structure LBtcTransaction where
  txid : TxId
  input : List TxIn := []
  output : List LBtcTxOut := []
  feesSat : Nat := 0
  deriving DecidableEq, Repr, Inhabited

/-- `SdkTransaction`. -/
inductive SdkTransaction where
  | liquid (tx : LBtcTransaction)
  | bitcoin (tx : BtcTransaction)
  deriving DecidableEq, Repr, Inhabited

namespace SdkTransaction

/-- `SdkTransaction::txid`. -/
def txid : SdkTransaction → TxId
  | liquid tx => tx.txid
  | bitcoin tx => tx.txid

/-- What the outputs of a transaction to a script hold in total. -/
def paysTo (script : Script) : SdkTransaction → Nat
  | liquid tx => ((tx.output.filter fun out => out.scriptPubkey = script).map LBtcTxOut.value).sum
  | bitcoin tx => ((tx.output.filter fun out => out.scriptPubkey = script).map BtcTxOut.value).sum

end SdkTransaction

/-- `BtcScriptBalance`. -/
structure BtcScriptBalance where
  confirmed : Nat
  unconfirmed : Int := 0
  deriving DecidableEq, Repr, Inhabited

/-- A transaction of our wallet, `WalletTx`. `balance` is what the transaction adds to the wallet,
asset by asset; `outputs` has an entry for each output, set when the output is ours. -/
structure WalletTx where
  txid : TxId
  height : Option Nat := none
  timestamp : Option Nat := none
  balance : HashMap AssetId Int := ∅
  outputs : List (Option Script) := []

namespace WalletTx

/-- The sum over all assets, `tx.balance.values().sum::<i64>()`. -/
def balanceSum (tx : WalletTx) : Int := (tx.balance.entries.map Sigma.snd).foldl Wrapping.i64Add 0

end WalletTx

end BreezLiquid
