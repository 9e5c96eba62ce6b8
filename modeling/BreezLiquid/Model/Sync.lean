/-
# BreezLiquid.Model.Sync — the records of real-time sync and the data inside them.

A record is what the sync service stores for all devices of a user: an id, a revision and an encrypted
payload. The payload is a `SyncData`, one of six kinds, and a pulled swap payload becomes a fresh swap
without any onchain data (`ChainSyncData.toSwap` and its siblings). `merge` keeps the fields a local
change has updated.

The definitions are in three parts.

* The six payloads and their conversions. `ofSwap` makes the payload of a swap from its row. What it leaves out (the
  lockup, claim and refund ids, the state) is filled in by `toSwap` with what a new swap starts with.
  `BreezLiquid.Sync.RoundTrip` says what comes back.
* The field names. `updatedFields` lists the fields that a write is taken to change. `merge` is `mergeFields` with
  the assignments of the kind; a name that the kind does not know changes nothing.
* The rows of the sync tables: `Record`, `SyncState`, `SyncOutgoingChanges` and `DecryptionInfo`.

Hashing, encryption, serialization and the schema version are behind a `SyncCodec`, four functions of which nothing is
known. What a result needs of them is one of its hypotheses.
-/
import BreezLiquid.Model.Types

namespace BreezLiquid

abbrev RecordId := String
abbrev DataId := String

/-- `RecordType`, the kinds of records. -/
inductive RecordType where
  | receive
  | send
  | chain
  | lastDerivationIndex
  | paymentDetails
  | bolt12Offer
  deriving DecidableEq, Repr, Inhabited

/-- There is one derivation index, so the id of its data is fixed. -/
def LAST_DERIVATION_INDEX_DATA_ID : DataId := "last-derivation-index"

/-- The major version of `CURRENT_SCHEMA_VERSION`, `0.7.0`. -/
def CURRENT_SCHEMA_VERSION_MAJOR : Nat := 0

/-! ## Rows that are synced besides the swaps -/

/-- `PaymentTxDetails`. The LNURL info is kept as its JSON text. -/
structure PaymentTxDetails where
  txId : TxId
  destination : String := ""
  description : Option String := none
  lnurlInfo : Option String := none
  bip353Address : Option String := none
  payerNote : Option String := none
  assetFees : Option Nat := none
  deriving DecidableEq, Repr, Inhabited

/-- `Bolt12Offer`. Only the webhook changes after an offer was created. -/
structure Bolt12Offer where
  id : String
  description : String := ""
  privateKey : String := ""
  webhookUrl : Option String := none
  createdAt : Nat := 0
  deriving DecidableEq, Repr, Inhabited

/-! ## Sync data -/

/-- `ChainSyncData`, the part of a chain swap that devices share: no lockup, claim or refund transaction and
no state is in it. -/
structure ChainSyncData where
  swapId : SwapId
  preimage : String := ""
  pairFeesJson : String := ""
  createResponseJson : String := ""
  direction : Direction
  claimAddress : Option Address := none
  lockupAddress : Address := ""
  claimFeesSat : Nat := 0
  claimPrivateKey : String := ""
  refundPrivateKey : String := ""
  timeoutBlockHeight : Nat := 0
  payerAmountSat : Nat := 0
  receiverAmountSat : Nat := 0
  acceptedReceiverAmountSat : Option Nat := none
  acceptZeroConf : Bool := false
  createdAt : Nat := 0
  description : Option String := none
  autoAcceptedFees : Bool := false
  deriving DecidableEq, Repr, Inhabited

/-- `SendSyncData`; the preimage is shared as soon as it is known. -/
structure SendSyncData where
  swapId : SwapId
  invoice : String := ""
  pairFeesJson : String := ""
  createResponseJson : String := ""
  refundPrivateKey : String := ""
  payerAmountSat : Nat := 0
  receiverAmountSat : Nat := 0
  timeoutBlockHeight : Nat := 0
  createdAt : Nat := 0
  preimage : Option String := none
  bolt12Offer : Option String := none
  paymentHash : Option String := none
  description : Option String := none
  destinationPubkey : Option String := none
  deriving DecidableEq, Repr, Inhabited

/-- `ReceiveSyncData`. None of its fields changes once the swap is created. -/
structure ReceiveSyncData where
  swapId : SwapId
  invoice : String := ""
  preimage : String := ""
  pairFeesJson : String := ""
  createResponseJson : String := ""
  claimFeesSat : Nat := 0
  claimPrivateKey : String := ""
  payerAmountSat : Nat := 0
  receiverAmountSat : Nat := 0
  mrhAddress : Address := ""
  timeoutBlockHeight : Nat := 0
  createdAt : Nat := 0
  bolt12Offer : Option String := none
  paymentHash : Option String := none
  description : Option String := none
  payerNote : Option String := none
  destinationPubkey : Option String := none
  deriving DecidableEq, Repr, Inhabited

/-- `clone_if_set`. -/
def cloneIfSet {α : Type} (s other : Option α) : Option α := other.or s

/-- Replay the listed fields one after the other. -/
def mergeFields {δ : Type} (field : δ → δ → String → δ) (base other : δ)
    (updatedFields : List String) : δ :=
  updatedFields.foldl (fun base name => field base other name) base

namespace ChainSyncData

/-- `ChainSyncData::merge`: the three fields a device may change. -/
def merge (base other : ChainSyncData) (updatedFields : List String) : ChainSyncData :=
  mergeFields (fun base other name =>
    if name = "accept_zero_conf" then { base with acceptZeroConf := other.acceptZeroConf }
    else if name = "accepted_receiver_amount_sat" then
      { base with acceptedReceiverAmountSat := other.acceptedReceiverAmountSat }
    else if name = "auto_accepted_fees" then { base with autoAcceptedFees := other.autoAcceptedFees }
    else base) base other updatedFields

/-- `ChainSyncData::updated_fields`: nothing without a row to compare with. -/
def updatedFields (swap : Option ChainSwap) (update : ChainSwap) : Option (List String) :=
  swap.map fun swap =>
    (if update.acceptZeroConf ≠ swap.acceptZeroConf then ["accept_zero_conf"] else []) ++
    (if update.acceptedReceiverAmountSat ≠ swap.acceptedReceiverAmountSat
      then ["accepted_receiver_amount_sat"] else []) ++
    (if update.autoAcceptedFees ≠ swap.autoAcceptedFees then ["auto_accepted_fees"] else [])

/-- `From<ChainSwap> for ChainSyncData`. -/
def ofSwap (value : ChainSwap) : ChainSyncData where
  swapId := value.id
  preimage := value.preimage
  pairFeesJson := value.pairFeesJson
  createResponseJson := value.createResponseJson
  direction := value.direction
  claimAddress := value.claimAddress
  lockupAddress := value.lockupAddress
  claimFeesSat := value.claimFeesSat
  claimPrivateKey := value.claimPrivateKey
  refundPrivateKey := value.refundPrivateKey
  timeoutBlockHeight := value.timeoutBlockHeight
  payerAmountSat := value.payerAmountSat
  receiverAmountSat := value.receiverAmountSat
  acceptedReceiverAmountSat := value.acceptedReceiverAmountSat
  acceptZeroConf := value.acceptZeroConf
  createdAt := value.createdAt
  description := value.description
  autoAcceptedFees := value.autoAcceptedFees

/-- The swap a pulled record stands for: created, with no onchain data. -/
def toSwap (bz : BoltzClient) (val : ChainSyncData) : ChainSwap where
  id := val.swapId
  direction := val.direction
  lockupAddress := val.lockupAddress
  timeoutBlockHeight := val.timeoutBlockHeight
  claimTimeoutBlockHeight := (bz.claimTimeoutBlockHeight val.createResponseJson).getD 0
  preimage := val.preimage
  description := val.description
  payerAmountSat := val.payerAmountSat
  actualPayerAmountSat := none
  receiverAmountSat := val.receiverAmountSat
  acceptedReceiverAmountSat := val.acceptedReceiverAmountSat
  claimFeesSat := val.claimFeesSat
  acceptZeroConf := val.acceptZeroConf
  pairFeesJson := val.pairFeesJson
  createResponseJson := val.createResponseJson
  createdAt := val.createdAt
  claimPrivateKey := val.claimPrivateKey
  refundPrivateKey := val.refundPrivateKey
  state := .created
  claimAddress := val.claimAddress
  refundAddress := none
  serverLockupTxId := none
  userLockupTxId := none
  claimTxId := none
  refundTxId := none
  autoAcceptedFees := val.autoAcceptedFees
  metadata := {}

end ChainSyncData

namespace SendSyncData

/-- `SendSyncData::merge`: a preimage is never unset. -/
def merge (base other : SendSyncData) (updatedFields : List String) : SendSyncData :=
  mergeFields (fun base other name =>
    if name = "preimage" then { base with preimage := cloneIfSet base.preimage other.preimage }
    else base) base other updatedFields

/-- `SendSyncData::updated_fields`. -/
def updatedFields (swap : Option SendSwap) (update : SendSwap) : Option (List String) :=
  swap.map fun swap =>
    if update.preimage.isSome ∧ update.preimage ≠ swap.preimage then ["preimage"] else []

/-- `From<SendSwap> for SendSyncData`. -/
def ofSwap (value : SendSwap) : SendSyncData where
  swapId := value.id
  paymentHash := value.paymentHash
  invoice := value.invoice
  pairFeesJson := value.pairFeesJson
  createResponseJson := value.createResponseJson
  refundPrivateKey := value.refundPrivateKey
  payerAmountSat := value.payerAmountSat
  receiverAmountSat := value.receiverAmountSat
  timeoutBlockHeight := value.timeoutBlockHeight
  createdAt := value.createdAt
  preimage := value.preimage
  description := value.description
  bolt12Offer := value.bolt12Offer
  destinationPubkey := value.destinationPubkey

/-- `From<SendSyncData> for SendSwap`: a created swap, as no transaction is known of it. -/
def toSwap (val : SendSyncData) : SendSwap where
  id := val.swapId
  invoice := val.invoice
  paymentHash := val.paymentHash
  destinationPubkey := val.destinationPubkey
  description := val.description
  preimage := val.preimage
  payerAmountSat := val.payerAmountSat
  receiverAmountSat := val.receiverAmountSat
  pairFeesJson := val.pairFeesJson
  createResponseJson := val.createResponseJson
  createdAt := val.createdAt
  timeoutBlockHeight := val.timeoutBlockHeight
  refundPrivateKey := val.refundPrivateKey
  bolt12Offer := val.bolt12Offer
  state := .created
  lockupTxId := none
  refundAddress := none
  refundTxId := none
  metadata := {}

end SendSyncData

namespace ReceiveSyncData

/-- A receive swap has no fields to update. -/
def updatedFields (swap : Option ReceiveSwap) : Option (List String) := swap.map fun _ => []

/-- `From<ReceiveSwap> for ReceiveSyncData`. -/
def ofSwap (value : ReceiveSwap) : ReceiveSyncData where
  swapId := value.id
  bolt12Offer := value.bolt12Offer
  paymentHash := value.paymentHash
  invoice := value.invoice
  preimage := value.preimage
  pairFeesJson := value.pairFeesJson
  createResponseJson := value.createResponseJson
  claimFeesSat := value.claimFeesSat
  claimPrivateKey := value.claimPrivateKey
  payerAmountSat := value.payerAmountSat
  receiverAmountSat := value.receiverAmountSat
  mrhAddress := value.mrhAddress
  timeoutBlockHeight := value.timeoutBlockHeight
  createdAt := value.createdAt
  description := value.description
  payerNote := value.payerNote
  destinationPubkey := value.destinationPubkey

/-- `From<ReceiveSyncData> for ReceiveSwap`. -/
def toSwap (val : ReceiveSyncData) : ReceiveSwap where
  id := val.swapId
  preimage := val.preimage
  createResponseJson := val.createResponseJson
  pairFeesJson := val.pairFeesJson
  claimPrivateKey := val.claimPrivateKey
  invoice := val.invoice
  bolt12Offer := val.bolt12Offer
  paymentHash := val.paymentHash
  destinationPubkey := val.destinationPubkey
  description := val.description
  payerNote := val.payerNote
  payerAmountSat := val.payerAmountSat
  receiverAmountSat := val.receiverAmountSat
  claimFeesSat := val.claimFeesSat
  mrhAddress := val.mrhAddress
  timeoutBlockHeight := val.timeoutBlockHeight
  createdAt := val.createdAt
  state := .created
  claimAddress := none
  claimTxId := none
  lockupTxId := none
  mrhTxId := none
  metadata := {}

end ReceiveSyncData

/-- `PaymentDetailsSyncData` has exactly the columns of `PaymentTxDetails`, and `Bolt12OfferSyncData`
those of `Bolt12Offer`; the conversions are identities. -/
abbrev PaymentDetailsSyncData := PaymentTxDetails

/-- `PaymentDetailsSyncData::merge`. -/
def PaymentDetailsSyncData.merge (base other : PaymentDetailsSyncData)
    (updatedFields : List String) : PaymentDetailsSyncData :=
  mergeFields (fun base other name =>
    if name = "destination" then { base with destination := other.destination }
    else if name = "description" then
      { base with description := cloneIfSet base.description other.description }
    else if name = "lnurl_info" then
      { base with lnurlInfo := cloneIfSet base.lnurlInfo other.lnurlInfo }
    else if name = "bip353_address" then
      { base with bip353Address := cloneIfSet base.bip353Address other.bip353Address }
    else if name = "payer_note" then
      { base with payerNote := cloneIfSet base.payerNote other.payerNote }
    else if name = "asset_fees" then { base with assetFees := other.assetFees }
    else base) base other updatedFields

/-- The record of an offer has the columns of its row. -/
abbrev Bolt12OfferSyncData := Bolt12Offer

namespace Bolt12OfferSyncData

/-- `Bolt12OfferSyncData::merge`. -/
def merge (base other : Bolt12OfferSyncData) (updatedFields : List String) : Bolt12OfferSyncData :=
  mergeFields (fun base other name =>
    if name = "webhook_url" then { base with webhookUrl := other.webhookUrl } else base)
    base other updatedFields

/-- `Bolt12OfferSyncData::updated_fields`. -/
def updatedFields (bolt12Offer : Option Bolt12Offer) (update : Bolt12Offer) :
    Option (List String) :=
  bolt12Offer.map fun bolt12Offer =>
    if update.webhookUrl ≠ bolt12Offer.webhookUrl then ["webhook_url"] else []

end Bolt12OfferSyncData

/-- `SyncData`, the payload of a record before it is encrypted. -/
inductive SyncData where
  | chain (data : ChainSyncData)
  | send (data : SendSyncData)
  | receive (data : ReceiveSyncData)
  | lastDerivationIndex (index : Nat)
  | paymentDetails (data : PaymentDetailsSyncData)
  | bolt12Offer (data : Bolt12OfferSyncData)
  deriving DecidableEq, Repr

namespace SyncData

/-- `SyncData::id`. -/
def id : SyncData → DataId
  | chain data => data.swapId
  | send data => data.swapId
  | receive data => data.swapId
  | lastDerivationIndex _ => LAST_DERIVATION_INDEX_DATA_ID
  | paymentDetails data => data.txId
  | bolt12Offer data => data.id

/-- The kind of the record that a payload is sent in. -/
def recordType : SyncData → RecordType
  | chain _ => .chain
  | send _ => .send
  | receive _ => .receive
  | lastDerivationIndex _ => .lastDerivationIndex
  | paymentDetails _ => .paymentDetails
  | bolt12Offer _ => .bolt12Offer

/-- `SyncData::is_swap`. -/
def isSwap : SyncData → Bool
  | chain _ | send _ | receive _ => true
  | _ => false

/-- `SyncData::merge`: only payloads of one kind merge. -/
def merge (base other : SyncData) (updatedFields : List String) : Except Err SyncData :=
  match base, other with
  | chain base, chain other => .ok (chain (base.merge other updatedFields))
  | send base, send other => .ok (send (base.merge other updatedFields))
  | receive _, receive _ =>
      .error (.generic "Merge not supported for sync data of type Receive")
  | lastDerivationIndex ourIndex, lastDerivationIndex theirIndex =>
      .ok (lastDerivationIndex (max theirIndex ourIndex))
  | paymentDetails base, paymentDetails other =>
      .ok (paymentDetails (PaymentDetailsSyncData.merge base other updatedFields))
  | bolt12Offer base, bolt12Offer other =>
      .ok (bolt12Offer (Bolt12OfferSyncData.merge base other updatedFields))
  | _, _ => .error (.generic "Cannot merge data from two separate types")

/-- `TryInto<Swap>`. -/
def toSwap (bz : BoltzClient) : SyncData → Except Err Swap
  | chain data => .ok (.chain (data.toSwap bz))
  | send data => .ok (.send data.toSwap)
  | receive data => .ok (.receive data.toSwap)
  | _ => .error (.generic "Cannot convert this sync data type to a swap")

end SyncData

/-- The kind of record a swap is synced as. -/
def Swap.recordType : Swap → RecordType
  | .chain _ => .chain
  | .send _ => .send
  | .receive _ => .receive

/-! ## Records and the rows of the sync tables -/

/-- `Record`, as it is pulled and pushed: the payload is encrypted, the rest is not. -/
structure Record where
  id : RecordId
  revision : Nat
  schemaVersion : String := "0.7.0"
  data : String
  deriving DecidableEq, Repr, Inhabited

/-- What the signer and the encoders do: the hash that makes record ids, the encryption of a payload
and back, and the major version of a schema version. -/
structure SyncCodec where
  hash : String → RecordId
  encrypt : SyncData → Except Err String
  decrypt : String → Except Err SyncData
  majorVersion : String → Except Err Nat

/-- A codec whose record ids are the hashed texts themselves, and whose payloads stand for the data of a
table. -/
def SyncCodec.table (payload : String → Option SyncData) : SyncCodec where
  hash := id
  encrypt data := .ok data.id
  decrypt text := okOr (payload text) "Could not decrypt incoming record"
  majorVersion _ := .ok 0

namespace Record

/-- The prefix of a record id, by the kind of the record. -/
def recordPrefix : RecordType → String
  | .chain => "chain-swap"
  | .send => "send-swap"
  | .receive => "receive-swap"
  | .lastDerivationIndex => "derivation-index"
  | .paymentDetails => "payment-details"
  | .bolt12Offer => "bolt12-offer"

/-- `Record::get_id_from_record_type`. -/
def getIdFromRecordType (codec : SyncCodec) (recordType : RecordType) (dataId : DataId) : RecordId :=
  codec.hash (recordPrefix recordType ++ ":" ++ dataId)

/-- `Record::get_id_from_sync_data`. -/
def getIdFromSyncData (codec : SyncCodec) (data : SyncData) : RecordId :=
  getIdFromRecordType codec data.recordType data.id

/-- `Record::new`. -/
def make (codec : SyncCodec) (data : SyncData) (revision : Nat) : Except Err Record := do
  let payload ← codec.encrypt data
  return { id := getIdFromSyncData codec data, revision, data := payload }

/-- `Record::is_applicable`: the record was written by a version that this one understands. -/
def isApplicable (codec : SyncCodec) (record : Record) : Except Err Bool := do
  return (← codec.majorVersion record.schemaVersion) ≤ CURRENT_SCHEMA_VERSION_MAJOR

end Record

/-- `DecryptedRecord`. -/
structure DecryptedRecord where
  revision : Nat
  id : RecordId
  data : SyncData
  deriving DecidableEq, Repr

/-- `Record::decrypt`. -/
def Record.decrypt (codec : SyncCodec) (record : Record) : Except Err DecryptedRecord := do
  let data ← codec.decrypt record.data
  return { id := record.id, revision := record.revision, data }

/-- A row of `sync_state`: which record a swap, an offer or a payment has, at which revision, and whether
this device created it. -/
structure SyncState where
  dataId : DataId
  recordId : RecordId
  recordRevision : Nat
  isLocal : Bool
  deriving DecidableEq, Repr, Inhabited

/-- The rows of `sync_settings`. -/
structure SyncSettings where
  remoteUrl : Option String := none
  latestRevision : Option Nat := none
  deriving DecidableEq, Repr, Inhabited

/-- A row of `sync_outgoing`: data that was written locally and not yet pushed, with the fields that were
updated, if it was not written as a whole. -/
structure SyncOutgoingChanges where
  recordId : RecordId
  dataId : DataId
  recordType : RecordType
  commitTime : Nat
  updatedFields : Option (List String) := none
  deriving DecidableEq, Repr, Inhabited

/-- `commitsBefore` is a history variable: how many local commits there were when the record was looked up
among the outgoing changes. -/
structure DecryptionInfo where
  newSyncState : SyncState
  record : DecryptedRecord
  lastCommitTime : Option Nat
  commitsBefore : Nat := 0
  deriving DecidableEq, Repr

end BreezLiquid
