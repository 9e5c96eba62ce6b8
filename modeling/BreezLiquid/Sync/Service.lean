/-
# BreezLiquid.Sync.Service — the sync service of `sync/mod.rs`.

`pull` saves what is new at the remote, decrypts it, merges it with what is queued here, recovers the swaps
from the chain and commits the rest as it is. `push` sends what is queued. Every access to the database is a
transaction of its own, so local writes may come in between.

Some steps leave an event or take along how many local commits there were: the properties of the service
compare a write with what was read before it.
-/
import BreezLiquid.Recover.Task

namespace BreezLiquid

open Interleaving Recover

namespace Db

/-- The local commits of a record after the first `n` of all commits. -/
def commitsSince (db : Db) (n : Nat) (recordId : RecordId) : List OutgoingCommit :=
  (db.outgoingCommits.take (db.outgoingCommits.length - n)).filter fun c => c.recordId = recordId

end Db

namespace World

/-- A transaction that may fail, with its events. -/
def tryCommit (f : Nat → Db → Except Err Db) (events : Db → Db → List Event) (w : World) : World :=
  match f w.now w.db with
  | .ok db => { w with db, trace := events w.db db ++ w.trace }
  | .error _ => w

end World

namespace Sync

/-- After more conflicting pushes than this, the sync tables are reset. -/
def MAX_FAILED_PUSH : Nat := 5

section Tasks

variable (sdk : Sdk)

/-- A transaction that may fail, with the events of its success. -/
def tryCommit (f : Nat → Db → Except Err Db) (events : Db → Db → List Event) : Async Unit :=
  .atomic (World.tryCommit f events) fun w => .done ((f w.now w.db).map fun _ => ())

/-! ## Pulling -/

/-- `fetch_and_save_records`: the latest revision becomes the one of the last change. -/
def fetchAndSaveRecords : Async Unit := do
  let settings ← fetch (·.syncSettings)
  let incomingRecords ← Task.askOk (.pull (settings.latestRevision.getD 0)) rfl
  write fun _ db => db.setIncomingRecords incomingRecords
  match incomingRecords.getLast? with
  | some record => write fun _ db => db.setLatestRevision record.revision
  | none => return ()

/-- The sync state of a record, unless it is as new as the record. -/
def checkRevision (newRecord : Record) : Async (Option SyncState) := do
  let maybeSyncState ← fetch (·.getSyncStateByRecordId newRecord.id)
  if maybeSyncState.any fun s => newRecord.revision ≤ s.recordRevision then Task.throw .alreadyPersisted
  else return maybeSyncState

/-- The queued changes of a record, and how many commits there were. -/
def lookUpOutgoing (recordId : RecordId) : Async (Option SyncOutgoingChanges × Nat) :=
  .atomic
    (fun w => w.note (.lookedUp recordId
      ((w.db.getSyncOutgoingChangesById recordId).map SyncOutgoingChanges.commitTime) w.db.outgoingCommits.length))
    fun w => .done (.ok (w.db.getSyncOutgoingChangesById recordId, w.db.outgoingCommits.length))

/-- Keep the fields that were changed here, when the queued changes name some. -/
def mergeOutgoing (data : SyncData) (maybeOutgoingChanges : Option SyncOutgoingChanges) :
    Async SyncData :=
  match maybeOutgoingChanges with
  | some { recordType, updatedFields := some updatedFields, .. } => do
      let localData ← fetch fun db => db.loadSyncData data.id recordType
      let localData ← Task.ofExcept localData
      Task.ofExcept (data.merge localData updatedFields)
  | _ => return data

/-- What is known of a pulled record before its swap is recovered: whether it is new, and what it comes to
with the local changes. -/
def handleDecryption (newRecord : Record) : Async DecryptionInfo := do
  let isApplicable ← Task.ofExcept (newRecord.isApplicable sdk.persister.codec)
  if !isApplicable then Task.throw .schemaNotApplicable
  else do
    let maybeSyncState ← checkRevision newRecord
    let decryptedRecord ← Task.ofExcept (newRecord.decrypt sdk.persister.codec)
    let (maybeOutgoingChanges, commitsBefore) ← lookUpOutgoing decryptedRecord.id
    let data ← mergeOutgoing decryptedRecord.data maybeOutgoingChanges
    return {
      newSyncState := {
        dataId := data.id
        recordId := decryptedRecord.id
        recordRevision := decryptedRecord.revision
        isLocal := (maybeSyncState.map SyncState.isLocal).getD false }
      record := { decryptedRecord with data }
      lastCommitTime := maybeOutgoingChanges.map SyncOutgoingChanges.commitTime
      commitsBefore }

/-- Decrypt the records: what was decrypted, and the ids of the records that are known already. -/
def decryptRecords : List Record → Async (List DecryptionInfo × List RecordId)
  | [] => return ([], [])
  | record :: records => do
      let res ← (handleDecryption sdk record).attempt
      let (decrypted, succeded) ← decryptRecords records
      match res with
      | .ok decryptionInfo => return (decryptionInfo :: decrypted, succeded)
      | .error .alreadyPersisted => return (decrypted, record.id :: succeded)
      | .error _ => return (decrypted, succeded)

/-- The swap with the version of the local swap, if there is one. -/
def withLocalVersion (db : Db) (swap : Swap) : Swap :=
  match db.fetchSwapById swap.id with
  | some localSwap => swap.setVersion localSwap.version
  | none => swap

/-- The swap a record stands for, with the version of the local one. -/
def toLocalSwap (record : DecryptedRecord) : Async Swap := do
  let swap ← Task.ofExcept (record.data.toSwap sdk.bz)
  .atomic (fun w => w.note (.versionRead record.id (withLocalVersion w.db swap)))
    fun w => .done (.ok (withLocalVersion w.db swap))

/-- The records that can be converted into swaps, with these. -/
def toLocalSwaps : List DecryptionInfo → Async (List (DecryptionInfo × Swap))
  | [] => return []
  | info :: infos => do
      let res ← (toLocalSwap sdk info.record).attempt
      let swaps ← toLocalSwaps infos
      match res with
      | .ok swap => return (info, swap) :: swaps
      | .error _ => return swaps

/-- `handle_recovery`: every swap with the outcome of its own recovery. -/
def handleRecovery (swapDecryptionInfo : List DecryptionInfo) :
    Async (List (DecryptionInfo × Option (Swap × Outcome))) := do
  let succeded ← toLocalSwaps sdk swapDecryptionInfo
  let (results, _) ← Recoverer.recoverFromOnchain sdk (succeded.map Prod.snd) none
  return (succeded.map Prod.fst).zip (results.map some)

/-- The event of an incoming record's commit. -/
def committed (info : DecryptionInfo) (db _ : Db) : List Event :=
  [.incomingCommitted info.record.id (db.commitsSince info.commitsBefore info.record.id)]

/-- The events of an incoming swap's commit. -/
def committedSwap (info : DecryptionInfo) (result : Swap × Outcome) (db db' : Db) : List Event :=
  match info.record.data.toSwap sdk.bz with
  | .ok fresh =>
      .swapCommitted fresh result.1 result.2.isOk :: committed info db db'
  | .error _ => committed info db db'

/-- `commit_record`, by the kind of the data. -/
def commitRecord (info : DecryptionInfo) (result : Option (Swap × Outcome)) : Async Unit :=
  match info.record.data with
  | .chain _ | .send _ | .receive _ =>
      match result with
      | none => Task.throw (.generic "Cannot commit a swap-related record without specifying a swap.")
      | some result =>
          tryCommit
            (fun now db => db.commitIncomingSwap now result.1 info.newSyncState info.lastCommitTime)
            (committedSwap sdk info result)
  | .lastDerivationIndex newAddressIndex =>
      tryCommit
        (fun _ db => db.commitIncomingAddressIndex sdk.persister newAddressIndex info.newSyncState
          info.lastCommitTime) (committed info)
  | .paymentDetails data =>
      tryCommit (fun _ db => db.commitIncomingPaymentDetails data info.newSyncState info.lastCommitTime)
        (committed info)
  | .bolt12Offer data =>
      tryCommit (fun _ db => db.commitIncomingBolt12Offer data info.newSyncState info.lastCommitTime)
        (committed info)

/-- All three kinds of swaps are committed the same way. -/
theorem commitRecord_swap {info : DecryptionInfo} (h : info.record.data.isSwap = true)
    (result : Swap × Outcome) :
    commitRecord sdk info (some result) = tryCommit
      (fun now db => db.commitIncomingSwap now result.1 info.newSyncState info.lastCommitTime)
      (committedSwap sdk info result) := by
  unfold commitRecord
  cases hdata : info.record.data with
  | chain data => rfl
  | send data => rfl
  | receive data => rfl
  | lastDerivationIndex index => rw [hdata] at h; cases h
  | paymentDetails data => rw [hdata] at h; cases h
  | bolt12Offer data => rw [hdata] at h; cases h

/-- A swap that is missing from the recovered ones is not committed. -/
theorem commitRecord_none {info : DecryptionInfo} (h : info.record.data.isSwap = true) :
    ∃ err, commitRecord sdk info none = .done (.error err) := by
  unfold commitRecord
  cases hdata : info.record.data with
  | chain data => exact ⟨_, rfl⟩
  | send data => exact ⟨_, rfl⟩
  | receive data => exact ⟨_, rfl⟩
  | lastDerivationIndex index => rw [hdata] at h; cases h
  | paymentDetails data => rw [hdata] at h; cases h
  | bolt12Offer data => rw [hdata] at h; cases h

/-- Commit the records: the ids of those that could be. -/
def commitRecords : List (DecryptionInfo × Option (Swap × Outcome)) → Async (List RecordId)
  | [] => return []
  | (info, result) :: infos => do
      let res ← (commitRecord sdk info result).attempt
      let succeded ← commitRecords infos
      match res with
      | .ok _ => return info.record.id :: succeded
      | .error _ => return succeded

def isLastDerivationIndex : SyncData → Bool
  | .lastDerivationIndex _ => true
  | _ => false

/-- `pull`: the last derivation index comes before the swaps, whose recovery needs it. -/
def pull : Async Nat := do
  fetchAndSaveRecords
  let incomingRecords ← fetch (·.getIncomingRecords)
  let (decrypted, known) ← decryptRecords sdk incomingRecords
  let (swapInfo, nonSwapInfo) := decrypted.partition (·.record.data.isSwap)
  let (indexInfo, othersInfo) := nonSwapInfo.partition fun i => isLastDerivationIndex i.record.data
  let indexIds ← commitRecords sdk (indexInfo.map fun info => (info, none))
  let recovered ← handleRecovery sdk swapInfo
  let swapIds ← commitRecords sdk recovered
  let otherIds ← commitRecords sdk (othersInfo.map fun info => (info, none))
  let succeded := known ++ (indexIds ++ (swapIds ++ otherIds))
  if 0 < succeded.length then do
    write fun _ db => db.removeIncomingRecords succeded
    return succeded.length
  else return 0

/-! ## Pushing -/

/-- What was sent for a record, and how many commits there were when it was loaded. -/
structure Sent where
  recordId : RecordId
  data : SyncData
  commitsBefore : Nat

/-- The local commits of the record since it was loaded. -/
def Sent.commits (sent : Sent) (db : Db) : List OutgoingCommit :=
  db.commitsSince sent.commitsBefore sent.recordId

/-- Push one record: load its data, send it, and store the new revision. Local writes may come in between. -/
def handlePush (recordId : RecordId) (dataId : DataId) (recordType : RecordType) : Async Sent := do
  let maybeSyncState ← fetch (·.getSyncStateByRecordId recordId)
  let recordRevision := (maybeSyncState.map SyncState.recordRevision).getD 0
  let isLocal := (maybeSyncState.map SyncState.isLocal).getD true
  let (syncData, commitsBefore) ← fetch fun db =>
    (db.loadSyncData dataId recordType, db.outgoingCommits.length)
  let syncData ← Task.ofExcept syncData
  let record ← Task.ofExcept (Record.make sdk.persister.codec syncData recordRevision)
  let reply ← Task.askOk (.push record) rfl
  match reply.status with
  | .conflict => Task.throw .recordConflict
  | .success => do
      let sent : Sent := { recordId, data := syncData, commitsBefore }
      Task.modify fun w => (w.note (.pushAccepted recordId syncData (sent.commits w.db))).write
        fun _ db => db.setSyncState { dataId, recordId, recordRevision := reply.newRevision, isLocal }
      return sent

/-- Push the changes one after the other: what was sent, and the number of errors that are no conflicts. -/
def pushChanges : List SyncOutgoingChanges → Async (List Sent × Nat)
  | [] => return ([], 0)
  | { recordId, dataId, recordType, .. } :: changes => do
      let res ← (handlePush sdk recordId dataId recordType).attempt
      let (succeded, recoverableErrors) ← pushChanges changes
      match res with
      | .ok sent => return (sent :: succeded, recoverableErrors)
      | .error .recordConflict => return (succeded, recoverableErrors)
      | .error _ => return (succeded, recoverableErrors + 1)

/-- The queued changes of what was sent are removed. -/
def removeSent (succeded : List Sent) : Async Unit :=
  Task.modify fun w =>
    { w with
      db := w.db.removeSyncOutgoingChanges (succeded.map Sent.recordId)
      trace := succeded.map (fun sent => .outgoingRemoved sent.recordId sent.data (sent.commits w.db)) ++
        w.trace }

/-- `push`: what was sent is removed, what conflicts is left for the next time. -/
def push : Async Nat := do
  let outgoingChanges ← fetch (·.getSyncOutgoingChanges)
  let (succeded, recoverableErrors) ← pushChanges sdk outgoingChanges
  if 0 < succeded.length then removeSent succeded
  if succeded.length ≠ outgoingChanges.length - recoverableErrors then
    Task.throw (.excessiveRecordConflicts succeded.length outgoingChanges.length recoverableErrors)
  else return succeded.length

/-! ## The event loop -/

/-- After too many failed pushes everything is pulled and pushed again. -/
def resetSync : Async Unit := tryWrite fun now db => db.resetSync sdk.persister now

/-- `check_remote_change`. -/
def checkRemoteChange : Async Unit := do
  let settings ← fetch (·.syncSettings)
  if settings.remoteUrl = some sdk.remoteUrl then return ()
  else tryWrite fun now db => db.setNewRemote sdk.persister now sdk.remoteUrl

/-- One round: the number of failed pushes after it. -/
def pullAndPush (failedPushCounter : Nat) : Async Nat := do
  match ← (pull sdk).attempt with
  | .error _ => return failedPushCounter
  | .ok _ =>
      match ← (push sdk).attempt with
      | .error (.excessiveRecordConflicts ..) => return failedPushCounter + 1
      | .error _ => return failedPushCounter
      | .ok _ => return 0

/-- One iteration of the event loop. -/
def runEventLoop (failedPushCounter : Nat) : Async Nat :=
  if MAX_FAILED_PUSH < failedPushCounter then do
    match ← (resetSync sdk).attempt with
    | .error _ => return failedPushCounter
    | .ok _ => pullAndPush sdk 0
  else pullAndPush sdk failedPushCounter

end Tasks

end Sync

end BreezLiquid
