/-
# BreezLiquid.Sync.Footprint — the transactions of the sync service.

Whatever records a pull receives and whatever is queued for a push, the transactions are among a few. The
recovery inside a pull only reads.

`PullWrite`, `PushWrite` and `SyncWrite` list them, together with what is noted in the trace. `within_pull`,
`within_push` and `within_runEventLoop` say that there are no others. So an invariant of the service is proved once for
each constructor.
-/
import BreezLiquid.Sync.Service

namespace BreezLiquid.Sync

open Interleaving Recover

/-! ## Transactions -/

/-- The transactions of a pull. -/
inductive PullWrite (sdk : Sdk) : (World → World) → Prop where
  | read : PullWrite sdk id
  | saveIncoming (records : List Record) : PullWrite sdk (World.write fun _ db => db.setIncomingRecords records)
  | latestRevision (revision : Nat) : PullWrite sdk (World.write fun _ db => db.setLatestRevision revision)
  | lookUp (recordId : RecordId) : PullWrite sdk fun w => w.note (.lookedUp recordId
      ((w.db.getSyncOutgoingChangesById recordId).map SyncOutgoingChanges.commitTime) w.db.outgoingCommits.length)
  | readVersion (recordId : RecordId) (swap : Swap) : PullWrite sdk fun w =>
      w.note (.versionRead recordId (withLocalVersion w.db swap))
  | commitSwap (info : DecryptionInfo) (result : Swap × Outcome) : PullWrite sdk (World.tryCommit
      (fun now db => db.commitIncomingSwap now result.1 info.newSyncState info.lastCommitTime)
      (committedSwap sdk info result))
  | commitAddressIndex (info : DecryptionInfo) (index : Nat) : PullWrite sdk (World.tryCommit
      (fun _ db => db.commitIncomingAddressIndex sdk.persister index info.newSyncState info.lastCommitTime)
      (committed info))
  | commitPaymentDetails (info : DecryptionInfo) (details : PaymentTxDetails) : PullWrite sdk (World.tryCommit
      (fun _ db => db.commitIncomingPaymentDetails details info.newSyncState info.lastCommitTime)
      (committed info))
  | commitBolt12Offer (info : DecryptionInfo) (offer : Bolt12Offer) : PullWrite sdk (World.tryCommit
      (fun _ db => db.commitIncomingBolt12Offer offer info.newSyncState info.lastCommitTime)
      (committed info))
  | removeIncoming (recordIds : List RecordId) :
      PullWrite sdk (World.write fun _ db => db.removeIncomingRecords recordIds)

/-- The transactions of a push. -/
inductive PushWrite : (World → World) → Prop where
  | read : PushWrite id
  | accept (sent : Sent) (syncState : SyncState) : PushWrite fun w =>
      (w.note (.pushAccepted sent.recordId sent.data (sent.commits w.db))).write fun _ db =>
        db.setSyncState syncState
  | removeSent (succeded : List Sent) : PushWrite fun w =>
      { w with
        db := w.db.removeSyncOutgoingChanges (succeded.map Sent.recordId)
        trace := succeded.map (fun sent => .outgoingRemoved sent.recordId sent.data (sent.commits w.db)) ++
          w.trace }

/-- The transactions of the event loop. -/
inductive SyncWrite (sdk : Sdk) : (World → World) → Prop where
  | pull {f : World → World} (h : PullWrite sdk f) : SyncWrite sdk f
  | push {f : World → World} (h : PushWrite f) : SyncWrite sdk f
  | resetSync : SyncWrite sdk (World.tryWrite fun now db => db.resetSync sdk.persister now)
  | setNewRemote :
      SyncWrite sdk (World.tryWrite fun now db => db.setNewRemote sdk.persister now sdk.remoteUrl)

/-- The calls of a push. -/
def PushCall (q : Call) : Prop := q.Quiet ∨ ∃ record, q = .push record

/-! ## Pulling -/

section Pull

variable (sdk : Sdk)

/-- A part of a pull. -/
abbrev PartOfPull {α : Type} (t : Async α) : Prop := t.Within (PullWrite sdk) Call.Quiet

variable {sdk}

/-- What a pull is made of: reads ... -/
theorem partOfPull_fetch {α : Type} (g : Db → α) : PartOfPull sdk (fetch g) := within_fetch .read g

/-- ... the records that are stored as they come ... -/
theorem within_fetchAndSaveRecords : PartOfPull sdk fetchAndSaveRecords := by
  refine Task.Within.bind (partOfPull_fetch _) fun settings => ?_
  refine Task.Within.bind (Task.within_askOk trivial rfl) fun records => ?_
  refine Task.Within.bind (within_write (.saveIncoming records)) fun _ => ?_
  split
  · exact within_write (.latestRevision _)
  · trivial

section Reading

variable {F : (World → World) → Prop} {G : Call → Prop}

/-- Decrypting a record leaves at most the event of a look-up. -/
theorem within_handleDecryption (hread : F id) (hlookUp : ∀ recordId, F fun w => w.note (.lookedUp recordId
      ((w.db.getSyncOutgoingChangesById recordId).map SyncOutgoingChanges.commitTime) w.db.outgoingCommits.length)) (record : Record) :
    (handleDecryption sdk record).Within F G := by
  refine Task.Within.bind (Task.within_done _) fun applicable => ?_
  split
  · trivial
  refine Task.Within.bind ?_ fun syncState => ?_
  · refine Task.Within.bind (within_fetch hread _) fun syncState => ?_
    split
    · trivial
    · trivial
  refine Task.Within.bind (Task.within_done _) fun decrypted => ?_
  refine Task.Within.bind ⟨hlookUp _, fun _ => trivial⟩ fun outgoing => ?_
  refine Task.Within.bind ?_ fun _ => trivial
  unfold mergeOutgoing
  split
  · refine Task.Within.bind (within_fetch hread _) fun localData => ?_
    exact Task.Within.bind (Task.within_done _) fun _ => Task.within_done _
  · trivial

/-- ... the commit times that are looked up ... -/
theorem within_decryptRecords (hread : F id) (hlookUp : ∀ recordId, F fun w => w.note (.lookedUp recordId
      ((w.db.getSyncOutgoingChangesById recordId).map SyncOutgoingChanges.commitTime) w.db.outgoingCommits.length)) (records : List Record) :
    (decryptRecords sdk records).Within F G := by
  induction records with
  | nil => trivial
  | cons record records ih =>
      refine Task.Within.bind (within_handleDecryption hread hlookUp record).attempt fun res => ?_
      refine Task.Within.bind ih fun rest => ?_
      dsimp only
      split <;> trivial

/-- Reading the local version leaves an event. -/
theorem within_toLocalSwap (hreadVersion : ∀ recordId swap, F fun w =>
      w.note (.versionRead recordId (withLocalVersion w.db swap))) (record : DecryptedRecord) :
    (toLocalSwap sdk record).Within F G := by
  refine Task.Within.bind (Task.within_done _) fun swap => ?_
  exact ⟨hreadVersion record.id swap, fun w => trivial⟩

/-- ... the versions that are read ... -/
theorem within_toLocalSwaps (hreadVersion : ∀ recordId swap, F fun w =>
      w.note (.versionRead recordId (withLocalVersion w.db swap))) (infos : List DecryptionInfo) : (toLocalSwaps sdk infos).Within F G := by
  induction infos with
  | nil => trivial
  | cons info infos ih =>
      refine Task.Within.bind (within_toLocalSwap hreadVersion info.record).attempt fun res => ?_
      refine Task.Within.bind ih fun swaps => ?_
      split <;> trivial

/-- ... the recovery in between, which writes nothing ... -/
theorem within_handleRecovery (hread : F id) (hreadVersion : ∀ recordId swap, F fun w =>
      w.note (.versionRead recordId (withLocalVersion w.db swap))) (hG : ∀ q : Call, q.Quiet → G q) (infos : List DecryptionInfo) :
    (handleRecovery sdk infos).Within F G := by
  refine Task.Within.bind (within_toLocalSwaps hreadVersion infos) fun swaps => ?_
  refine Task.Within.bind ?_ fun _ => trivial
  exact (readOnly_recoverFromOnchain sdk _ none).mono (fun f hf => hf ▸ hread)
    fun q hq => hG q hq.quiet

end Reading

/-- ... and the commits, each one transaction. -/
theorem within_tryCommit {f : Nat → Db → Except Err Db} {events : Db → Db → List Event}
    (h : PullWrite sdk (World.tryCommit f events)) : PartOfPull sdk (tryCommit f events) := ⟨h, fun _ => trivial⟩

theorem within_commitRecord (info : DecryptionInfo) (result : Option (Swap × Outcome)) :
    PartOfPull sdk (commitRecord sdk info result) := by
  have hswap : info.record.data.isSwap = true → PartOfPull sdk (commitRecord sdk info result) := by
    intro h
    cases result with
    | none =>
        unfold commitRecord
        split
        · trivial
        · trivial
        · trivial
        · exact within_tryCommit (.commitAddressIndex info _)
        · exact within_tryCommit (.commitPaymentDetails info _)
        · exact within_tryCommit (.commitBolt12Offer info _)
    | some result =>
        rw [commitRecord_swap sdk h]
        exact within_tryCommit (.commitSwap info result)
  cases hdata : info.record.data with
  | chain data => exact hswap (by rw [hdata]; rfl)
  | send data => exact hswap (by rw [hdata]; rfl)
  | receive data => exact hswap (by rw [hdata]; rfl)
  | lastDerivationIndex index =>
      unfold commitRecord
      rw [hdata]
      exact within_tryCommit (.commitAddressIndex info index)
  | paymentDetails data =>
      unfold commitRecord
      rw [hdata]
      exact within_tryCommit (.commitPaymentDetails info data)
  | bolt12Offer data =>
      unfold commitRecord
      rw [hdata]
      exact within_tryCommit (.commitBolt12Offer info data)

/-- The records are committed one after the other. -/
theorem within_commitRecords (infos : List (DecryptionInfo × Option (Swap × Outcome))) :
    PartOfPull sdk (commitRecords sdk infos) := by
  induction infos with
  | nil => trivial
  | cons info infos ih =>
      refine Task.Within.bind (within_commitRecord info.1 info.2).attempt fun res => ?_
      refine Task.Within.bind ih fun succeded => ?_
      split <;> trivial

/-- **A pull** does nothing else. -/
theorem within_pull : PartOfPull sdk (pull sdk) := by
  refine Task.Within.bind within_fetchAndSaveRecords fun _ => ?_
  refine Task.Within.bind (partOfPull_fetch _) fun records => ?_
  refine Task.Within.bind (within_decryptRecords .read .lookUp records) fun decrypted => ?_
  refine Task.Within.bind (within_commitRecords _) fun indexIds => ?_
  refine Task.Within.bind (within_handleRecovery .read .readVersion (fun _ hq => hq) _) fun recovered => ?_
  refine Task.Within.bind (within_commitRecords _) fun swapIds => ?_
  refine Task.Within.bind (within_commitRecords _) fun otherIds => ?_
  dsimp only
  split
  · exact Task.Within.bind (within_write (.removeIncoming _)) fun _ => trivial
  · trivial

end Pull

/-! ## Pushing -/

section Push

variable {sdk : Sdk}

/-- What a push is made of, for one record ... -/
theorem within_handlePush (recordId : RecordId) (dataId : DataId) (recordType : RecordType) :
    (handlePush sdk recordId dataId recordType).Within PushWrite PushCall := by
  refine Task.Within.bind (within_fetch .read _) fun syncState => ?_
  refine Task.Within.bind (within_fetch .read _) fun loaded => ?_
  refine Task.Within.bind (Task.within_done _) fun data => ?_
  refine Task.Within.bind (Task.within_done _) fun record => ?_
  refine Task.Within.bind (Task.within_askOk (.inr ⟨record, rfl⟩) rfl) fun reply => ?_
  split
  · trivial
  · exact Task.Within.bind (Task.within_modify (.accept ⟨recordId, data, loaded.2⟩ _)) fun _ => trivial

/-- ... and for all that are queued. -/
theorem within_pushChanges (changes : List SyncOutgoingChanges) :
    (pushChanges sdk changes).Within PushWrite PushCall := by
  induction changes with
  | nil => trivial
  | cons c changes ih =>
      refine Task.Within.bind (within_handlePush c.recordId c.dataId c.recordType).attempt fun res => ?_
      refine Task.Within.bind ih fun rest => ?_
      dsimp only
      split <;> trivial

/-- **A push** does nothing else. -/
theorem within_push : (push sdk).Within PushWrite PushCall := by
  refine Task.Within.bind (within_fetch .read _) fun changes => ?_
  refine Task.Within.bind (within_pushChanges changes) fun sent => ?_
  have hrest : Task.Within PushWrite PushCall (if sent.1.length ≠ changes.length - sent.2 then
      (Task.throw (.excessiveRecordConflicts sent.1.length changes.length sent.2) : Async Nat)
      else return sent.1.length) := by
    split <;> trivial
  dsimp only
  split
  · exact Task.Within.bind (Task.within_modify (.removeSent sent.1)) fun _ => hrest
  · exact hrest

end Push

/-! ## The event loop -/

section EventLoop

variable {sdk : Sdk}

/-- A pull and a push ... -/
theorem within_pullAndPush (failedPushCounter : Nat) :
    (pullAndPush sdk failedPushCounter).Within (SyncWrite sdk) PushCall := by
  have hpull : (pull sdk).Within (SyncWrite sdk) PushCall :=
    within_pull.mono (fun _ => SyncWrite.pull) fun _ hq => Or.inl hq
  have hpush : (push sdk).Within (SyncWrite sdk) PushCall :=
    within_push.mono (fun _ => SyncWrite.push) fun _ hq => hq
  refine Task.Within.bind hpull.attempt fun res => ?_
  split
  · trivial
  · refine Task.Within.bind hpush.attempt fun res => ?_
    split <;> trivial

/-- ... are all the event loop does, besides starting over. -/
theorem within_runEventLoop (failedPushCounter : Nat) :
    (runEventLoop sdk failedPushCounter).Within (SyncWrite sdk) PushCall := by
  unfold runEventLoop
  split
  · refine Task.Within.bind (Task.Within.attempt (within_tryWrite .resetSync)) fun res => ?_
    split
    · trivial
    · exact within_pullAndPush 0
  · exact within_pullAndPush failedPushCounter

/-- Nor does the check of the remote do more. -/
theorem within_checkRemoteChange : (checkRemoteChange sdk).Within (SyncWrite sdk) PushCall := by
  refine Task.Within.bind (within_fetch (.pull .read) _) fun settings => ?_
  split
  · trivial
  · exact within_tryWrite .setNewRemote

end EventLoop

end BreezLiquid.Sync
