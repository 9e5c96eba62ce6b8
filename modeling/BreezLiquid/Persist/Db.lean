/-
# BreezLiquid.Persist.Db — the tables of the persister and the sync bookkeeping.

The database is a record of keyed tables. Every persister method is one transaction, a function on the
database; the time it writes (`utils::now`) is an argument. This module has the tables, what the sync
service keeps in them (`sync_state`, `sync_incoming`, `sync_outgoing`, `sync_settings`), and the small
synced tables. The swap tables are in `BreezLiquid.Persist.Swaps`.

`outgoingCommits` is a history variable: what `commit_outgoing` was called for, newest first. No method
reads it.

A table is a `Tables.Table key`, a list of rows of which no two have the same key. This is what `PRIMARY KEY` gives, and
no result has to assume that ids are distinct. `insertNew` is the insert that does nothing on a conflict,
`insertOrReplace` is `INSERT OR REPLACE`, and `updateWhere` an `UPDATE` that assigns no key column.

A method that can fail returns an `Except`. On an error its transaction is rolled back, and the caller has the database
that it had. The methods that queue a change take the `Persister`, since without a sync trigger nothing is queued.
-/
import Mathlib.Data.List.Sort
import BreezLiquid.Lib.Table
import BreezLiquid.Model.Sync

namespace BreezLiquid

open Tables

/-- The columns of `payment_tx_data` a handler fills in. -/
structure PaymentTxData where
  txId : TxId
  timestamp : Option Nat := none
  feesSat : Nat := 0
  isConfirmed : Bool := false
  unblindingData : Option String := none
  deriving DecidableEq, Repr, Inhabited

/-- An address that is kept for a swap until a block height. -/
structure ReservedAddress where
  address : Address
  expiryBlockHeight : Nat
  deriving DecidableEq, Repr, Inhabited

/-- A call of `commit_outgoing`: the record, and its data at that moment. -/
structure OutgoingCommit where
  recordId : RecordId
  data : Except Err SyncData

/-- The database: one field for each table, and the few cached items that modelled functions read. -/
structure Db where
  sendSwaps : Table SendSwap.id := ∅
  receiveSwaps : Table ReceiveSwap.id := ∅
  chainSwaps : Table ChainSwap.id := ∅
  paymentTxData : Table PaymentTxData.txId := ∅
  paymentDetails : Table PaymentTxDetails.txId := ∅
  bolt12Offers : Table Bolt12Offer.id := ∅
  lastDerivationIndex : Option Nat := none
  lastScannedDerivationIndex : Option Nat := none
  syncState : Table SyncState.dataId := ∅
  syncIncoming : Table Record.id := ∅
  syncOutgoing : Table SyncOutgoingChanges.recordId := ∅
  syncSettings : SyncSettings := {}
  reservedAddresses : Table ReservedAddress.address := ∅
  outgoingCommits : List OutgoingCommit := []

/-- The fixed parts of the `Persister`: the codec of the records, and whether real-time sync is on
(`sync_trigger` is set). -/
structure Persister where
  codec : SyncCodec
  syncTrigger : Bool := true

namespace Db

/-! ## Sync state and settings -/

/-- `get_sync_state_by_record_id`. -/
def getSyncStateByRecordId (db : Db) (recordId : RecordId) : Option SyncState :=
  db.syncState.rows.find? fun s => s.recordId = recordId

/-- `set_sync_state`. -/
def setSyncState (syncState : SyncState) (db : Db) : Db :=
  { db with syncState := db.syncState.insertOrReplace syncState }

/-- `set_latest_revision`. -/
def setLatestRevision (latestRevision : Nat) (db : Db) : Db :=
  { db with syncSettings.latestRevision := some latestRevision }

/-- A swap is ours when its record was never synced, or was first pushed from here. -/
def isLocal (db : Db) (dataId : DataId) : Bool :=
  ((db.syncState.get? dataId).map SyncState.isLocal).getD true

/-! ## Rows by id -/

/-- `fetch_chain_swap_by_id`: whether the swap is local comes from `sync_state`, by a join. -/
def fetchChainSwapById (db : Db) (id : SwapId) : Option ChainSwap :=
  (db.chainSwaps.get? id).map fun s => s.withIsLocal (db.isLocal s.id)

/-- `fetch_send_swap_by_id`. -/
def fetchSendSwapById (db : Db) (id : SwapId) : Option SendSwap :=
  (db.sendSwaps.get? id).map fun s => s.withIsLocal (db.isLocal s.id)

/-- `fetch_receive_swap_by_id`. -/
def fetchReceiveSwapById (db : Db) (id : SwapId) : Option ReceiveSwap :=
  (db.receiveSwaps.get? id).map fun s => s.withIsLocal (db.isLocal s.id)

/-- `get_payment_details`. -/
def getPaymentDetails (db : Db) (txId : TxId) : Option PaymentTxDetails := db.paymentDetails.get? txId

/-- `fetch_bolt12_offer_by_id`. -/
def fetchBolt12OfferById (db : Db) (id : String) : Option Bolt12Offer := db.bolt12Offers.get? id

/-- `load_sync_data`: the data of a record as it is in the tables. -/
def loadSyncData (db : Db) (dataId : DataId) : RecordType → Except Err SyncData
  | .receive => (okOr (db.fetchReceiveSwapById dataId)
      ("Could not find Receive swap " ++ dataId)).map fun s => .receive (.ofSwap s)
  | .send => (okOr (db.fetchSendSwapById dataId)
      ("Could not find Send swap " ++ dataId)).map fun s => .send (.ofSwap s)
  | .chain => (okOr (db.fetchChainSwapById dataId)
      ("Could not find Chain swap " ++ dataId)).map fun s => .chain (.ofSwap s)
  | .lastDerivationIndex => (okOr db.lastDerivationIndex
      "Could not find last derivation index").map .lastDerivationIndex
  | .paymentDetails => (okOr (db.getPaymentDetails dataId)
      ("Could not find Payment Details " ++ dataId)).map .paymentDetails
  | .bolt12Offer => (okOr (db.fetchBolt12OfferById dataId)
      ("Could not find Bolt12 Offer " ++ dataId)).map .bolt12Offer

/-! ## Incoming records -/

/-- `get_incoming_records`. -/
def getIncomingRecords (db : Db) : List Record := db.syncIncoming.rows

/-- `INSERT OR REPLACE`; a row with the same id or the same revision gives way. -/
def setIncomingRecord (record : Record) (db : Db) : Db :=
  { db with
    syncIncoming :=
      (db.syncIncoming.deleteWhere fun r => r.revision = record.revision).insertOrReplace record }

/-- `set_incoming_records`. -/
def setIncomingRecords (records : List Record) (db : Db) : Db :=
  records.foldl (fun db record => db.setIncomingRecord record) db

/-- `remove_incoming_records`. -/
def removeIncomingRecords (recordIds : List RecordId) (db : Db) : Db :=
  { db with syncIncoming := db.syncIncoming.deleteWhere fun r => recordIds.contains r.id }

/-! ## Outgoing changes -/

/-- `get_sync_outgoing_changes`. -/
def getSyncOutgoingChanges (db : Db) : List SyncOutgoingChanges := db.syncOutgoing.rows

/-- `get_sync_outgoing_changes_by_id`. -/
def getSyncOutgoingChangesById (db : Db) (recordId : RecordId) : Option SyncOutgoingChanges :=
  db.syncOutgoing.get? recordId

/-- `commit_outgoing`. An update without field names stands for a whole new row and forgets the fields
queued before; a row with the same data id gives way. -/
def commitOutgoing (p : Persister) (now : Nat) (dataId : DataId) (recordType : RecordType)
    (updatedFields : Option (List String)) (db : Db) : Db :=
  if p.syncTrigger then
    let recordId := Record.getIdFromRecordType p.codec recordType dataId
    let queuedFields := ((db.syncOutgoing.get? recordId).bind (·.updatedFields)).getD []
    { db with
      syncOutgoing := (db.syncOutgoing.deleteWhere fun c => c.dataId = dataId).insertOrReplace
        { recordId, dataId, recordType, commitTime := now
          updatedFields := updatedFields.map fun fields => queuedFields ++ fields }
      outgoingCommits := ⟨recordId, db.loadSyncData dataId recordType⟩ :: db.outgoingCommits }
  else db

/-- `remove_sync_outgoing_changes`. -/
def removeSyncOutgoingChanges (recordIds : List RecordId) (db : Db) : Db :=
  { db with syncOutgoing := db.syncOutgoing.deleteWhere fun c => recordIds.contains c.recordId }

/-- `check_commit_update`: the record must not have been written since the commit time that was read. -/
def checkCommitUpdate (recordId : RecordId) (lastCommitTime : Option Nat) (db : Db) :
    Except Err Unit :=
  match lastCommitTime with
  | none => .ok ()
  | some lastCommitTime =>
      match db.syncOutgoing.get? recordId with
      | some changes =>
          if lastCommitTime < changes.commitTime
          then .error (.generic "Record has been updated while pulling") else .ok ()
      | none => .ok ()

/-! ## Starting over with the remote -/

/-- `INSERT INTO sync_outgoing`, without replacement: a duplicate record or data id is an error. -/
def enqueueSwap (p : Persister) (now : Nat) (e : RecordType × DataId) (db : Db) : Except Err Db :=
  let recordId := Record.getIdFromRecordType p.codec e.1 e.2
  if db.syncOutgoing.rows.any fun c => c.recordId = recordId || c.dataId = e.2
  then .error (.generic "UNIQUE constraint failed: sync_outgoing")
  else
    .ok { db with
      syncOutgoing := db.syncOutgoing.insertNew
        { recordId, dataId := e.2, recordType := e.1, commitTime := now } }

/-- All swaps of the three tables. -/
def allSwapIds (db : Db) : List (RecordType × DataId) :=
  db.receiveSwaps.rows.map (fun s => (.receive, s.id)) ++
    db.sendSwaps.rows.map (fun s => (.send, s.id)) ++
    db.chainSwaps.rows.map (fun s => (.chain, s.id))

/-- `reset_sync_inner`: the sync tables are emptied and all swaps queued again. The settings, the
latest revision among them, stay. -/
def resetSyncInner (p : Persister) (now : Nat) (db : Db) : Except Err Db :=
  db.allSwapIds.foldlM (fun db e => db.enqueueSwap p now e)
    { db with syncState := ∅, syncIncoming := ∅, syncOutgoing := ∅ }

/-- `set_new_remote`: another remote means that everything local is to be pushed again. -/
def setNewRemote (p : Persister) (now : Nat) (remoteUrl : String) (db : Db) : Except Err Db := do
  let db ← db.resetSyncInner p now
  return { db with syncSettings.remoteUrl := some remoteUrl }

/-- `reset_sync`. -/
def resetSync (p : Persister) (now : Nat) (db : Db) : Except Err Db := db.resetSyncInner p now

/-! ## The last derivation index -/

/-- `set_last_derivation_index`. -/
def setLastDerivationIndex (p : Persister) (now : Nat) (index : Nat) (db : Db) : Db :=
  -- a mock updated field, so that merging with incoming data works
  ({ db with lastDerivationIndex := some index }).commitOutgoing p now
    LAST_DERIVATION_INDEX_DATA_ID .lastDerivationIndex (some [LAST_DERIVATION_INDEX_DATA_ID])

/-- `next_derivation_index`, in one transaction. -/
def nextDerivationIndex (p : Persister) (now : Nat) (db : Db) : Option Nat × Db :=
  match db.lastDerivationIndex with
  | some index => (some (index + 1), db.setLastDerivationIndex p now (index + 1))
  | none => (none, db)

/-! ## Reserved addresses -/

/-- `next_expired_reserved_address`, in one transaction: the one that expired first is deleted. -/
def nextExpiredReservedAddress (tip : Nat) (db : Db) : Option ReservedAddress × Db :=
  let expired := db.reservedAddresses.rows.filter fun r => r.expiryBlockHeight < tip
  -- `ORDER BY expiry_block_height ASC LIMIT 1`
  match (expired.insertionSort fun a b => a.expiryBlockHeight ≤ b.expiryBlockHeight).head? with
  | some r =>
      (some r, { db with reservedAddresses := db.reservedAddresses.deleteWhere (·.address = r.address) })
  | none => (none, db)

/-- `insert_or_update_reserved_address`. -/
def insertOrUpdateReservedAddress (address : Address) (expiryBlockHeight : Nat) (db : Db) : Db :=
  { db with reservedAddresses := db.reservedAddresses.insertOrReplace { address, expiryBlockHeight } }

/-- `delete_reserved_address`. -/
def deleteReservedAddress (address : Address) (db : Db) : Db :=
  { db with reservedAddresses := db.reservedAddresses.deleteWhere fun r => r.address = address }

/-! ## Payments, their details, and offers -/

/-- `ON CONFLICT (tx_id) DO UPDATE`; an unconfirmed write keeps the timestamp. -/
def insertOrUpdatePayment (now : Nat) (ptx : PaymentTxData) (db : Db) : Db :=
  let ptx := { ptx with timestamp := ptx.timestamp.or (some now) }
  { db with
    paymentTxData :=
      match db.paymentTxData.get? ptx.txId with
      | none => db.paymentTxData.insertNew ptx
      | some _ => db.paymentTxData.updateWhere (fun r => r.txId = ptx.txId) fun r =>
          { r with
            timestamp := if ptx.isConfirmed then ptx.timestamp else r.timestamp
            feesSat := ptx.feesSat
            isConfirmed := ptx.isConfirmed
            unblindingData := ptx.unblindingData } }

/-- `insert_or_update_payment_details_inner`: what is not given keeps its value, but for the destination. -/
def insertOrUpdatePaymentDetailsInner (details : PaymentTxDetails) (skipDestinationUpdate : Bool)
    (db : Db) : Db :=
  { db with
    paymentDetails :=
      match db.paymentDetails.get? details.txId with
      | none => db.paymentDetails.insertNew details
      | some _ => db.paymentDetails.updateWhere (fun r => r.txId = details.txId) fun r =>
          { r with
            destination := if skipDestinationUpdate then r.destination else details.destination
            description := details.description.or r.description
            lnurlInfo := details.lnurlInfo.or r.lnurlInfo
            bip353Address := details.bip353Address.or r.bip353Address
            payerNote := details.payerNote.or r.payerNote
            assetFees := details.assetFees.or r.assetFees } }

/-- `insert_or_update_payment_details`, which commits the whole record. -/
def insertOrUpdatePaymentDetails (p : Persister) (now : Nat) (details : PaymentTxDetails)
    (db : Db) : Db :=
  (db.insertOrUpdatePaymentDetailsInner details false).commitOutgoing p now details.txId
    .paymentDetails none

/-- `insert_or_update_bolt12_offer_inner`. -/
def insertOrUpdateBolt12OfferInner (offer : Bolt12Offer) (db : Db) : Db :=
  { db with
    bolt12Offers :=
      match db.bolt12Offers.get? offer.id with
      | none => db.bolt12Offers.insertNew offer
      | some _ => db.bolt12Offers.updateWhere (fun r => r.id = offer.id) fun r =>
          { r with webhookUrl := offer.webhookUrl } }

/-- Sync is triggered by an insert, or by an update that changed a synced field. -/
def commitUpdatedFields (p : Persister) (now : Nat) (dataId : DataId) (recordType : RecordType)
    (updatedFields : Option (List String)) (db : Db) : Db :=
  if updatedFields = some [] then db
  else db.commitOutgoing p now dataId recordType updatedFields

/-- `insert_or_update_bolt12_offer`, given the offer read before the transaction. -/
def insertOrUpdateBolt12Offer (p : Persister) (now : Nat) (maybeOffer : Option Bolt12Offer)
    (offer : Bolt12Offer) (db : Db) : Db :=
  (db.insertOrUpdateBolt12OfferInner offer).commitUpdatedFields p now offer.id .bolt12Offer
    (Bolt12OfferSyncData.updatedFields maybeOffer offer)

/-! ## What the bookkeeping leaves alone -/

section Frame

variable (p : Persister) (now : Nat) (dataId : DataId) (recordType : RecordType)
  (updatedFields : Option (List String)) (db : Db)

/-- The bookkeeping of a local change leaves the tables of swaps and payments alone. -/
@[simp] theorem commitOutgoing_chainSwaps :
    (db.commitOutgoing p now dataId recordType updatedFields).chainSwaps = db.chainSwaps := by
  unfold commitOutgoing
  split <;> rfl

@[simp] theorem commitOutgoing_sendSwaps :
    (db.commitOutgoing p now dataId recordType updatedFields).sendSwaps = db.sendSwaps := by
  unfold commitOutgoing
  split <;> rfl

@[simp] theorem commitOutgoing_receiveSwaps :
    (db.commitOutgoing p now dataId recordType updatedFields).receiveSwaps = db.receiveSwaps := by
  unfold commitOutgoing
  split <;> rfl

@[simp] theorem commitOutgoing_paymentTxData :
    (db.commitOutgoing p now dataId recordType updatedFields).paymentTxData = db.paymentTxData := by
  unfold commitOutgoing
  split <;> rfl

/-- So does that of a change of some fields. -/
@[simp] theorem commitUpdatedFields_paymentTxData :
    (db.commitUpdatedFields p now dataId recordType updatedFields).paymentTxData = db.paymentTxData := by
  unfold commitUpdatedFields
  split
  · rfl
  · simp

@[simp] theorem commitUpdatedFields_chainSwaps :
    (db.commitUpdatedFields p now dataId recordType updatedFields).chainSwaps = db.chainSwaps := by
  unfold commitUpdatedFields
  split
  · rfl
  · simp

@[simp] theorem commitUpdatedFields_sendSwaps :
    (db.commitUpdatedFields p now dataId recordType updatedFields).sendSwaps = db.sendSwaps := by
  unfold commitUpdatedFields
  split
  · rfl
  · simp

@[simp] theorem commitUpdatedFields_receiveSwaps :
    (db.commitUpdatedFields p now dataId recordType updatedFields).receiveSwaps = db.receiveSwaps := by
  unfold commitUpdatedFields
  split
  · rfl
  · simp

end Frame

end Db

end BreezLiquid
