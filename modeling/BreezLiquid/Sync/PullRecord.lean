/-
# BreezLiquid.Sync.PullRecord — one record that is pulled with nothing in between.

A newer version of a queued record is merged with the queued change; a swap is then recovered with the version
of the local row, and the result is committed. For every kind of record, this says what the row has afterwards
in the fields that a merge knows.
-/
import BreezLiquid.Persist.Optimistic
import BreezLiquid.Sync.FieldUpdates

namespace BreezLiquid.Sync

open Interleaving Recover Tables

/-! ## A pulled record -/

section Pull

variable (sdk : Sdk)

/-- What the recovery of a pulled swap may give. -/
def Recovered (swap : Swap) (result : Swap × Outcome) : Prop :=
  ∃ swapContext chainContext startedAt ans w,
    ((Recoverer.recoverSwap sdk swapContext chainContext startedAt swap).run (World.effect sdk) ans w).1 =
      .ok result

/-- The record is pulled and committed, with nothing else in between. -/
inductive Pulls (record : Record) (w : World) : World → Prop where
  | swap {info : DecryptionInfo} {swap : Swap} {result : Swap × Outcome} {w₁ w₂ w' : World}
      (hinfo : (handleDecryption sdk record).run (World.effect sdk) (fun _ q => q.offline) (0, w) =
        (.ok info, 0, w₁))
      (hisSwap : info.record.data.isSwap = true)
      (hswap : (toLocalSwap sdk info.record).run (World.effect sdk) (fun _ q => q.offline) (0, w₁) =
        (.ok swap, 0, w₂))
      (hrecovered : Recovered sdk swap result)
      (hcommit : (commitRecord sdk info (some result)).run (World.effect sdk) (fun _ q => q.offline) (0, w₂) =
        (.ok (), 0, w')) : Pulls record w w'
  | other {info : DecryptionInfo} {w₁ w' : World}
      (hinfo : (handleDecryption sdk record).run (World.effect sdk) (fun _ q => q.offline) (0, w) =
        (.ok info, 0, w₁))
      (hisSwap : info.record.data.isSwap = false)
      (hcommit : (commitRecord sdk info none).run (World.effect sdk) (fun _ q => q.offline) (0, w₁) =
        (.ok (), 0, w')) : Pulls record w w'

/-- The record is a version of the data's record that is newer than the known one. -/
structure Receives (db : Db) (record : Record) (theirs : SyncData) : Prop where
  applicable : record.isApplicable sdk.persister.codec = .ok true
  newer : ∀ s, db.getSyncStateByRecordId record.id = some s → s.recordRevision < record.revision
  decrypts : sdk.persister.codec.decrypt record.data = .ok theirs
  id_eq : record.id = Record.getIdFromSyncData sdk.persister.codec theirs

/-- The pulled data, merged with the queued change. -/
def mergedWith (db : Db) (theirs : SyncData) (c : SyncOutgoingChanges) : Except Err SyncData :=
  match c.updatedFields with
  | some fields => do
      let ours ← db.loadSyncData theirs.id c.recordType
      theirs.merge ours fields
  | none => .ok theirs

variable {sdk} {record : Record} {theirs data : SyncData} {c : SyncOutgoingChanges} {w : World}

theorem run_checkRevision (h : Receives sdk w.db record theirs) :
    (checkRevision record).run (World.effect sdk) (fun _ q => q.offline) (0, w) =
      (.ok (w.db.getSyncStateByRecordId record.id), 0, w) := by
  have hrevision : ((w.db.getSyncStateByRecordId record.id).any
      fun s => record.revision ≤ s.recordRevision) = false := by
    cases hstate : w.db.getSyncStateByRecordId record.id with
    | none => rfl
    | some s =>
        have hlt := h.newer s hstate
        simp only [Option.any_some, decide_eq_false_iff_not]
        omega
  unfold checkRevision
  rw [Task.bind_eq, Task.run_bind, run_fetch]
  dsimp only
  rw [hrevision]
  rfl

theorem run_mergeOutgoing : (mergeOutgoing theirs (some c)).run (World.effect sdk) (fun _ q => q.offline) (0, w) =
    (mergedWith w.db theirs c, 0, w) := by
  obtain ⟨recordId, dataId, recordType, commitTime, updatedFields⟩ := c
  cases updatedFields with
  | none => rfl
  | some fields =>
      unfold mergeOutgoing mergedWith
      dsimp only
      rw [Task.bind_eq, Task.run_bind, run_fetch]
      dsimp only
      rw [Task.bind_eq, Task.run_bind, Task.run_ofExcept]
      cases w.db.loadSyncData theirs.id recordType with
      | error err => rfl
      | ok ours => rfl

/-- A newer version of a queued record is merged with the queued change. -/
theorem run_handleDecryption (h : Receives sdk w.db record theirs)
    (hc : w.db.syncOutgoing.get? record.id = some c) (hdata : mergedWith w.db theirs c = .ok data) :
    ∃ info w₁, (handleDecryption sdk record).run (World.effect sdk) (fun _ q => q.offline) (0, w) =
        (.ok info, 0, w₁) ∧ w₁.db = w.db ∧ w₁.now = w.now ∧ info.record.data = data ∧
      info.newSyncState.recordId = record.id ∧ info.lastCommitTime = some c.commitTime := by
  have hdecrypts : record.decrypt sdk.persister.codec =
      .ok { id := record.id, revision := record.revision, data := theirs } := by
    unfold Record.decrypt
    rw [h.decrypts]
    rfl
  have hqueued : w.db.getSyncOutgoingChangesById record.id = some c := hc
  unfold handleDecryption
  rw [Task.bind_eq, Task.run_bind, Task.run_ofExcept, h.applicable]
  dsimp only
  rw [if_neg (by decide), Task.bind_eq, Task.run_bind, run_checkRevision h]
  dsimp only
  rw [Task.bind_eq, Task.run_bind, Task.run_ofExcept, hdecrypts]
  dsimp only
  unfold lookUpOutgoing
  rw [Task.bind_eq, Task.run_bind, Task.run_atomic, Task.run_done, hqueued]
  dsimp only
  rw [Task.bind_eq, Task.run_bind, run_mergeOutgoing]
  have hmerged : mergedWith (World.note (.lookedUp record.id ((some c).map SyncOutgoingChanges.commitTime)
      w.db.outgoingCommits.length) w).db theirs c = .ok data := hdata
  rw [hmerged]
  exact ⟨_, _, rfl, rfl, rfl, rfl, rfl, rfl⟩

end Pull

/-! ## What a recovery leaves of the merged fields -/

section Recovered

variable {sdk : Sdk}

/-- No recovery changes the merged fields of a chain swap, and a preimage is only recovered if there is none. -/
def KeepsFields : Swap → Swap → Prop
  | .chain s, .chain s' => s'.acceptZeroConf = s.acceptZeroConf ∧
      s'.acceptedReceiverAmountSat = s.acceptedReceiverAmountSat
  | .send s, .send s' => s'.preimage = s.preimage ∨ s.preimage = none
  | .receive _, .receive _ => True
  | _, _ => False

theorem chainSendUpdateSwap_keeps (s : ChainSwap) (r : RecoveredOnchainDataChainSend)
    (liquidHeight bitcoinHeight : Nat) (grace : Bool) :
    KeepsFields (.chain s) (.chain (ChainSendSwapHandler.updateSwap s r liquidHeight bitcoinHeight grace)) := by
  unfold ChainSendSwapHandler.updateSwap
  dsimp only
  repeat' split
  all_goals exact ⟨rfl, rfl⟩

theorem chainReceiveUpdateSwap_keeps (s : ChainSwap) (r : RecoveredOnchainDataChainReceive)
    (liquidHeight bitcoinHeight : Nat) (grace : Bool) :
    KeepsFields (.chain s)
      (.chain (ChainReceiveSwapHandler.updateSwap sdk.bz s r liquidHeight bitcoinHeight grace).1) := by
  unfold ChainReceiveSwapHandler.updateSwap
  dsimp only
  repeat' split
  all_goals exact ⟨rfl, rfl⟩

theorem sendUpdateSwap_keeps (verifyPaymentHash : String → String → Bool) (s : SendSwap)
    (r : RecoveredOnchainDataSend) (height : Nat) (grace : Bool) (hpreimage : r.preimage = none) :
    (SendSwapHandler.updateSwap verifyPaymentHash s r height grace).preimage = s.preimage := by
  obtain ⟨lockupTxId, claimTxId, refundTxId, preimage⟩ := r
  cases hpreimage
  unfold SendSwapHandler.updateSwap
  dsimp only
  repeat' split
  all_goals rfl

theorem sendRecoverSwap_keeps (context : ReceiveOrSendSwapRecoveryContext) (s : SendSwap) (grace : Bool) :
    (SendSwapHandler.recoverSwap sdk context s grace).Yields fun x =>
      ∀ r, x = .ok r → KeepsFields (.send s) (.send r.1) := by
  unfold SendSwapHandler.recoverSwap
  split
  · rintro r ⟨⟩
    exact .inl rfl
  · rename_i history _
    cases hs : s.preimage with
    | none => exact Task.Yields.mono (Task.yields_true _) fun x _ r _ => .inr hs
    | some preimage =>
        unfold SendSwapHandler.withPreimage
        rw [if_neg (by simp [hs])]
        rintro r ⟨⟩
        exact .inl (sendUpdateSwap_keeps sdk.verifyPaymentHash s _ _ _ rfl)

theorem recoverSwap_keeps (swapContext : ReceiveOrSendSwapRecoveryContext)
    (chainContext : Option ChainSwapRecoveryContext) (startedAt : Nat) (swap : Swap) :
    (Recoverer.recoverSwap sdk swapContext chainContext startedAt swap).Yields fun x =>
      ∀ r, x = .ok r → KeepsFields swap r.1 := by
  cases swap with
  | send s =>
      refine Task.Yields.bind (Task.Yields.mono (sendRecoverSwap_keeps _ s _) fun x h => ?_)
      cases x with
      | error err => rintro r ⟨⟩
      | ok data =>
          rintro r ⟨⟩
          exact h data rfl
  | receive s =>
      rintro r ⟨⟩
      exact trivial
  | chain s =>
      simp only [Recoverer.recoverSwap]
      cases chainContext with
      | none =>
          rintro r ⟨⟩
          exact ⟨rfl, rfl⟩
      | some context =>
          cases s.direction with
          | outgoing =>
              rintro r ⟨⟩
              unfold ChainSendSwapHandler.recoverSwap
              split
              · exact ⟨rfl, rfl⟩
              · exact chainSendUpdateSwap_keeps ..
          | incoming =>
              rintro r ⟨⟩
              unfold ChainReceiveSwapHandler.recoverSwap
              split
              · exact ⟨rfl, rfl⟩
              · exact chainReceiveUpdateSwap_keeps ..

/-- A recovered swap is for the same row, and keeps the merged fields. -/
theorem recovered_keeps {swap : Swap} {result : Swap × Outcome} (h : Recovered sdk swap result) :
    Recover.SameRow swap result.1 ∧ KeepsFields swap result.1 := by
  obtain ⟨swapContext, chainContext, startedAt, ans, w, hrun⟩ := h
  have hrow := (recoverSwap_recovers sdk swapContext chainContext startedAt swap).run (World.effect sdk) ans w
  have hyields : (Recoverer.recoverSwap sdk swapContext chainContext startedAt swap).Yields _ :=
    recoverSwap_keeps swapContext chainContext startedAt swap
  have hfields := hyields.run (World.effect sdk) ans w
  exact ⟨(hrow result hrun).1, hfields result hrun⟩

variable (sdk)

/-- Without any history nothing is recovered, and the preimage stays what it is. -/
theorem recovered_send (s : SendSwap) :
    ∃ s' outcome, Recovered sdk (.send s) (.send s', outcome) ∧ s'.preimage = s.preimage := by
  let context : ReceiveOrSendSwapRecoveryContext :=
    { lbtcScriptToHistoryMap := ∅, txMap := ⟨∅, ∅⟩, liquidTipHeight := 0, lbtcAssetId := "" }
  have hnothing : ∀ history, SendSwapHandler.history sdk.bz context s = .ok history → history = [] := by
    intro history h
    obtain ⟨swapScript, -, h⟩ := except_bind_eq_ok.mp h
    obtain ⟨lockupScript, -, h⟩ := except_bind_eq_ok.mp h
    cases h
    rfl
  cases hhistory : SendSwapHandler.history sdk.bz context s with
  | error err =>
      refine ⟨s, .error err, ⟨context, none, 0, fun _ q => q.offline, (0, {}), ?_⟩, rfl⟩
      simp [Recoverer.recoverSwap, SendSwapHandler.recoverSwap, hhistory]
  | ok history =>
      cases hnothing history hhistory
      let data := SendSwapHandler.recoverOnchainData context.txMap []
      refine ⟨SendSwapHandler.updateSwap sdk.verifyPaymentHash s data 0 true, .ok (),
        ⟨context, none, 0, fun _ q => q.offline, (0, {}), ?_⟩, ?_⟩
      · have hgrace : decide (0 - (Swap.send s).lastUpdatedAt < Recoverer.NETWORK_PROPAGATION_GRACE_PERIOD) =
            true := by
          simp [Recoverer.NETWORK_PROPAGATION_GRACE_PERIOD]
        unfold Recoverer.recoverSwap SendSwapHandler.recoverSwap
        dsimp only
        rw [hhistory, hgrace]
        rfl
      · exact sendUpdateSwap_keeps sdk.verifyPaymentHash s data 0 true rfl

/-- Without a Bitcoin tip a chain swap is not recovered. -/
theorem recovered_chain (s : ChainSwap) : ∃ outcome, Recovered sdk (.chain s) (.chain s, outcome) := by
  let context : ReceiveOrSendSwapRecoveryContext :=
    { lbtcScriptToHistoryMap := ∅, txMap := ⟨∅, ∅⟩, liquidTipHeight := 0, lbtcAssetId := "" }
  exact ⟨_, context, none, 0, fun _ q => q.offline, (0, {}), rfl⟩

end Recovered

/-! ## The record after a pull -/

section After

variable {sdk : Sdk} {record : Record} {c : SyncOutgoingChanges} {w : World}

/-- A transaction of a task that ends well is committed. -/
theorem run_tryCommit {f : Nat → Db → Except Err Db} {events : Db → Db → List Event} {w w' : World} :
    (tryCommit f events).run (World.effect sdk) (fun _ q => q.offline) (0, w) = (.ok (), 0, w') ↔
      ∃ db, f w.now w.db = .ok db ∧ w' = { w with db, trace := events w.db db ++ w.trace } := by
  show ((f w.now w.db).map fun _ => (), 0, World.tryCommit f events w) = _ ↔ _
  unfold World.tryCommit
  cases f w.now w.db with
  | error err =>
      constructor
      · intro h
        cases h
      · rintro ⟨db, h, -⟩
        cases h
  | ok db =>
      constructor
      · intro h
        cases h
        exact ⟨db, rfl, rfl⟩
      · rintro ⟨db', h, rfl⟩
        cases h
        rfl

/-- The queued change that was looked up is not newer than itself. -/
theorem checkCommitUpdate_current {db : Db} {recordId : RecordId} (hc : db.syncOutgoing.get? recordId = some c) :
    db.checkCommitUpdate recordId (some c.commitTime) = .ok () := by
  unfold Db.checkCommitUpdate
  rw [hc]
  exact if_neg (lt_irrefl _)

theorem run_toLocalSwap {decrypted : DecryptedRecord} {swap localSwap : Swap}
    (hswap : decrypted.data.toSwap sdk.bz = .ok swap) (hlocal : w.db.fetchSwapById swap.id = some localSwap) :
    ∃ w₁, (toLocalSwap sdk decrypted).run (World.effect sdk) (fun _ q => q.offline) (0, w) =
        (.ok (swap.setVersion localSwap.version), 0, w₁) ∧ w₁.db = w.db ∧ w₁.now = w.now := by
  unfold toLocalSwap
  rw [Task.bind_eq, Task.run_bind, Task.run_ofExcept, hswap]
  dsimp only
  rw [Task.run_atomic, Task.run_done]
  unfold withLocalVersion
  rw [hlocal]
  exact ⟨_, rfl, rfl, rfl⟩

/-- Pulling a swap record is: merge, recover with the local version, and commit. -/
theorem pulls_swap {theirs data : SyncData} {fresh localSwap : Swap} (h : Receives sdk w.db record theirs)
    (hc : w.db.syncOutgoing.get? record.id = some c) (hdata : mergedWith w.db theirs c = .ok data)
    (hisSwap : data.isSwap = true) (hswap : data.toSwap sdk.bz = .ok fresh)
    (hlocal : w.db.fetchSwapById fresh.id = some localSwap) (w' : World) :
    (Pulls sdk record w w' → ∃ result db', Recovered sdk (fresh.setVersion localSwap.version) result ∧
      w.db.insertOrUpdateSwapInner w.now result.1 = .ok db' ∧ ∃ state, w'.db = db'.setSyncState state) ∧
    ∀ result db', Recovered sdk (fresh.setVersion localSwap.version) result →
      w.db.insertOrUpdateSwapInner w.now result.1 = .ok db' →
        ∃ w' state, Pulls sdk record w w' ∧ w'.db = db'.setSyncState state := by
  obtain ⟨info, w₁, hinfo, hdb₁, hnow₁, hinfoData, hrecordId, hlast⟩ := run_handleDecryption h hc hdata
  rw [← hinfoData] at hisSwap hswap
  obtain ⟨w₂, hlocalSwap, hdb₂, hnow₂⟩ := run_toLocalSwap (w := w₁) hswap (by rw [hdb₁]; exact hlocal)
  -- nothing was queued since the record was decrypted, so the commit passes its check
  have hcheck : w₂.db.checkCommitUpdate info.newSyncState.recordId info.lastCommitTime = .ok () := by
    rw [hrecordId, hlast, hdb₂, hdb₁]
    exact checkCommitUpdate_current hc
  have hcommit : ∀ result db', w₂.db.commitIncomingSwap w₂.now result info.newSyncState info.lastCommitTime =
      .ok db' ↔ ∃ db, w.db.insertOrUpdateSwapInner w.now result = .ok db ∧
        db' = db.setSyncState info.newSyncState := by
    intro result db'
    unfold Db.commitIncomingSwap
    rw [hcheck, hdb₂, hdb₁, hnow₂, hnow₁]
    refine Iff.trans except_bind_eq_ok ⟨?_, ?_⟩
    · rintro ⟨_, -, h⟩
      obtain ⟨db, hinner, h⟩ := except_bind_eq_ok.mp h
      cases h
      exact ⟨db, hinner, rfl⟩
    · rintro ⟨db, hinner, rfl⟩
      exact ⟨(), rfl, except_bind_eq_ok.mpr ⟨db, hinner, rfl⟩⟩
  constructor
  · intro hpulls
    cases hpulls with
    | swap hinfo' _ hswap' hrecovered hrun =>
        cases hinfo.symm.trans hinfo'
        cases hlocalSwap.symm.trans hswap'
        rw [commitRecord_swap sdk hisSwap, run_tryCommit] at hrun
        obtain ⟨db', hdb', rfl⟩ := hrun
        obtain ⟨db, hinner, rfl⟩ := (hcommit _ _).mp hdb'
        exact ⟨_, db, hrecovered, hinner, info.newSyncState, rfl⟩
    | other hinfo' hno _ =>
        cases hinfo.symm.trans hinfo'
        rw [hisSwap] at hno
        cases hno
  · intro result db' hrecovered hinner
    let state := info.newSyncState
    refine ⟨{ w₂ with
      db := db'.setSyncState state
      trace := committedSwap sdk info result w₂.db (db'.setSyncState state) ++ w₂.trace }, state, ?_, rfl⟩
    refine .swap hinfo hisSwap hlocalSwap hrecovered ?_
    rw [commitRecord_swap sdk hisSwap, run_tryCommit]
    exact ⟨_, (hcommit result.1 _).mpr ⟨db', hinner, rfl⟩, rfl⟩

/-! ### Chain swaps -/

theorem loadSyncData_chain {db : Db} {id : SwapId} {row : ChainSwap} (hrow : db.chainSwaps.get? id = some row) :
    db.loadSyncData id .chain = .ok (.chain (.ofSwap row)) := by
  show (okOr ((db.chainSwaps.get? id).map _) _).map _ = _
  rw [hrow]
  rfl

theorem merged_chain {theirs : ChainSyncData} {row : ChainSwap} (htype : c.recordType = .chain)
    (hrow : w.db.chainSwaps.get? theirs.swapId = some row) :
    ∃ data : ChainSyncData, mergedWith w.db (.chain theirs) c = .ok (.chain data) ∧
      data.swapId = theirs.swapId ∧
      data.acceptZeroConf = (if Field.acceptZeroConf.name ∈ c.updatedFields.getD [] then row.acceptZeroConf
        else theirs.acceptZeroConf) ∧
      data.acceptedReceiverAmountSat = if Field.acceptedReceiverAmountSat.name ∈ c.updatedFields.getD []
        then row.acceptedReceiverAmountSat else theirs.acceptedReceiverAmountSat := by
  unfold mergedWith
  cases c.updatedFields with
  | none => exact ⟨theirs, rfl, rfl, rfl, rfl⟩
  | some fields =>
      have hload : w.db.loadSyncData (SyncData.chain theirs).id c.recordType = .ok (.chain (.ofSwap row)) := by
        rw [htype]
        exact loadSyncData_chain hrow
      dsimp only
      rw [hload]
      exact ⟨theirs.merge (.ofSwap row) fields, rfl, chain_merge theirs (.ofSwap row) fields⟩

theorem pulls_chain {theirs : ChainSyncData} {row : ChainSwap} (h : Receives sdk w.db record (.chain theirs))
    (hc : w.db.syncOutgoing.get? record.id = some c) (htype : c.recordType = .chain)
    (hrow : w.db.chainSwaps.get? theirs.swapId = some row) (hsend : w.db.sendSwaps.get? theirs.swapId = none)
    (hreceive : w.db.receiveSwaps.get? theirs.swapId = none) :
    (∃ w', Pulls sdk record w w') ∧ ∀ w', Pulls sdk record w w' →
      ∃ row', w'.db.chainSwaps.get? theirs.swapId = some row' ∧
        row'.acceptZeroConf = (if Field.acceptZeroConf.name ∈ c.updatedFields.getD [] then row.acceptZeroConf
          else theirs.acceptZeroConf) ∧
        row'.acceptedReceiverAmountSat = (if Field.acceptedReceiverAmountSat.name ∈ c.updatedFields.getD []
          then row.acceptedReceiverAmountSat else theirs.acceptedReceiverAmountSat) ∧
        row'.autoAcceptedFees = row.autoAcceptedFees := by
  obtain ⟨data, hdata, hid, hzeroConf, hamount⟩ := merged_chain htype hrow
  have hrowId : row.id = theirs.swapId := Table.get?_some_key hrow
  have hlocal : w.db.fetchSwapById data.swapId = some (.chain (row.withIsLocal (w.db.isLocal row.id))) := by
    rw [hid]
    unfold Db.fetchSwapById Db.fetchSendSwapById Db.fetchReceiveSwapById Db.fetchChainSwapById
    rw [hsend, hreceive, hrow]
    rfl
  have hpulls := fun w' => pulls_swap h hc hdata rfl rfl hlocal w'
  constructor
  · -- some pull goes through: the one whose recovery finds nothing
    let pulled : ChainSwap := { data.toSwap sdk.bz with metadata := { version := row.metadata.version } }
    have hget : w.db.chainSwaps.get? pulled.id = some row := by
      show w.db.chainSwaps.get? data.swapId = some row
      rw [hid, hrow]
    have hhasRow : HasRow w.db (.chain pulled) := Option.isSome_iff_exists.mpr ⟨row, hget⟩
    obtain ⟨db', hinner⟩ : Succeeds (w.db.insertOrUpdateSwapInner w.now (.chain pulled)) :=
      (succeeds_inner_iff hhasRow).mpr ⟨row, hget, rfl⟩
    obtain ⟨outcome, hrecovered⟩ := recovered_chain sdk pulled
    obtain ⟨w', state, hw', -⟩ := (hpulls w).2 _ db' hrecovered hinner
    exact ⟨w', hw'⟩
  · intro w' hw'
    obtain ⟨⟨swap, outcome⟩, db', hrecovered, hinner, state, hdb⟩ := (hpulls w').1 hw'
    obtain ⟨⟨hswapId, hversion, hkind⟩, hfields⟩ := recovered_keeps hrecovered
    cases swap with
    | send s' => cases hkind
    | receive s' => cases hkind
    | chain s' =>
        -- a recovery does not touch the two fields, and the version is the local one
        obtain ⟨hzeroConf', hamount'⟩ := hfields
        have hkey : s'.id = theirs.swapId := Eq.trans hswapId hid
        have hguard : row.id = s'.id ∧ row.metadata.version = s'.metadata.version :=
          ⟨hrowId.trans hkey.symm, Eq.symm hversion⟩
        refine ⟨{ Db.chainSwapUpdate s' row with metadata := row.metadata.touch w.now }, ?_, ?_, ?_, rfl⟩
        · rw [hdb]
          show db'.chainSwaps.get? theirs.swapId = _
          rw [Db.get?_insertOrUpdateChainSwapInner hinner, hrow]
          exact congrArg some (if_pos hguard)
        · exact Eq.trans hzeroConf' hzeroConf
        · exact Eq.trans hamount' hamount

/-! ### Send swaps -/

theorem loadSyncData_send {db : Db} {id : SwapId} {row : SendSwap} (hrow : db.sendSwaps.get? id = some row) :
    db.loadSyncData id .send = .ok (.send (.ofSwap row)) := by
  show (okOr ((db.sendSwaps.get? id).map _) _).map _ = _
  rw [hrow]
  rfl

theorem merged_send {theirs : SendSyncData} {row : SendSwap} (htype : c.recordType = .send)
    (hrow : w.db.sendSwaps.get? theirs.swapId = some row) :
    ∃ data : SendSyncData, mergedWith w.db (.send theirs) c = .ok (.send data) ∧ data.swapId = theirs.swapId ∧
      data.preimage = if Field.preimage.name ∈ c.updatedFields.getD [] then row.preimage.or theirs.preimage
        else theirs.preimage := by
  unfold mergedWith
  cases c.updatedFields with
  | none => exact ⟨theirs, rfl, rfl, rfl⟩
  | some fields =>
      have hload : w.db.loadSyncData (SyncData.send theirs).id c.recordType = .ok (.send (.ofSwap row)) := by
        rw [htype]
        exact loadSyncData_send hrow
      dsimp only
      rw [hload]
      exact ⟨theirs.merge (.ofSwap row) fields, rfl, send_merge theirs (.ofSwap row) fields⟩

/-- The preimage after a pull is the merged one, unless there is none and a recovery finds it. -/
theorem pulls_send {theirs : SendSyncData} {row : SendSwap} (h : Receives sdk w.db record (.send theirs))
    (hc : w.db.syncOutgoing.get? record.id = some c) (htype : c.recordType = .send)
    (hrow : w.db.sendSwaps.get? theirs.swapId = some row) :
    let merged := if Field.preimage.name ∈ c.updatedFields.getD [] then row.preimage.or theirs.preimage
      else theirs.preimage
    (∃ w' row', Pulls sdk record w w' ∧ w'.db.sendSwaps.get? theirs.swapId = some row' ∧
      row'.preimage = merged) ∧
    ∀ w', Pulls sdk record w w' → ∃ row', w'.db.sendSwaps.get? theirs.swapId = some row' ∧
      (row'.preimage = merged ∨ merged = none) := by
  intro merged
  obtain ⟨data, hdata, hid, hpreimage⟩ := merged_send htype hrow
  have hrowId : row.id = theirs.swapId := Table.get?_some_key hrow
  have hlocal : w.db.fetchSwapById data.swapId = some (.send (row.withIsLocal (w.db.isLocal row.id))) := by
    rw [hid]
    unfold Db.fetchSwapById Db.fetchSendSwapById
    rw [hrow]
    rfl
  have hpulls := fun w' => pulls_swap h hc hdata rfl rfl hlocal w'
  have hwritten : ∀ {s' : SendSwap} {db' : Db}, s'.id = data.swapId → s'.metadata.version = row.metadata.version →
      w.db.insertOrUpdateSendSwapInner w.now s' = .ok db' → db'.sendSwaps.get? theirs.swapId =
        some { Db.sendSwapUpdate s' row with metadata := row.metadata.touch w.now } := by
    intro s' db' hswapId hversion hinner
    rw [Db.get?_insertOrUpdateSendSwapInner hinner hrow]
    exact congrArg some (if_pos ⟨hrowId.trans (hswapId.trans hid).symm, hversion.symm⟩)
  constructor
  · let pulled : SendSwap := { data.toSwap with metadata := { version := row.metadata.version } }
    obtain ⟨s', outcome, hrecovered, hpreimage'⟩ := recovered_send sdk pulled
    obtain ⟨⟨hswapId, hversion, -⟩, -⟩ := recovered_keeps hrecovered
    have hget : w.db.sendSwaps.get? s'.id = some row := by
      rw [show s'.id = data.swapId from hswapId, hid, hrow]
    have hhasRow : HasRow w.db (.send s') := Option.isSome_iff_exists.mpr ⟨row, hget⟩
    obtain ⟨db', hinner⟩ : Succeeds (w.db.insertOrUpdateSwapInner w.now (.send s')) :=
      (succeeds_inner_iff hhasRow).mpr ⟨row, hget, Eq.symm hversion⟩
    obtain ⟨w', state, hw', hdb⟩ := (hpulls w).2 _ db' hrecovered hinner
    refine ⟨w', { Db.sendSwapUpdate s' row with metadata := row.metadata.touch w.now }, hw', ?_, ?_⟩
    · rw [hdb]
      show db'.sendSwaps.get? theirs.swapId = _
      exact hwritten hswapId hversion hinner
    · exact Eq.trans hpreimage' hpreimage
  · intro w' hw'
    obtain ⟨⟨swap, outcome⟩, db', hrecovered, hinner, state, hdb⟩ := (hpulls w').1 hw'
    obtain ⟨⟨hswapId, hversion, hkind⟩, hfields⟩ := recovered_keeps hrecovered
    cases swap with
    | chain s' => cases hkind
    | receive s' => cases hkind
    | send s' =>
        refine ⟨{ Db.sendSwapUpdate s' row with metadata := row.metadata.touch w.now }, ?_, ?_⟩
        · rw [hdb]
          show db'.sendSwaps.get? theirs.swapId = _
          exact hwritten hswapId hversion hinner
        · -- a recovery adds a preimage only where there is none
          rcases hfields with hsame | hnone
          · exact .inl (Eq.trans hsame hpreimage)
          · exact .inr (Eq.trans hpreimage.symm hnone)

/-! ### Other records -/

/-- The other records are committed as they are merged. -/
theorem pulls_other {theirs data : SyncData} (db' : Db) (h : Receives sdk w.db record theirs)
    (hc : w.db.syncOutgoing.get? record.id = some c) (hdata : mergedWith w.db theirs c = .ok data)
    (hisSwap : data.isSwap = false)
    (hcommit : ∀ info : DecryptionInfo, info.record.data = data → info.newSyncState.recordId = record.id →
      info.lastCommitTime = some c.commitTime → ∃ f events, commitRecord sdk info none = tryCommit f events ∧
        f w.now w.db = .ok (db'.setSyncState info.newSyncState)) :
    (∃ w', Pulls sdk record w w') ∧ ∀ w', Pulls sdk record w w' → ∃ state, w'.db = db'.setSyncState state := by
  obtain ⟨info, w₁, hinfo, hdb₁, hnow₁, hinfoData, hrecordId, hlast⟩ := run_handleDecryption h hc hdata
  obtain ⟨f, events, hrecord, hf⟩ := hcommit info hinfoData hrecordId hlast
  rw [← hinfoData] at hisSwap
  rw [← hdb₁, ← hnow₁] at hf
  constructor
  · let db'' := db'.setSyncState info.newSyncState
    refine ⟨{ w₁ with db := db'', trace := events w₁.db db'' ++ w₁.trace }, .other hinfo hisSwap ?_⟩
    rw [hrecord, run_tryCommit]
    exact ⟨db'', hf, rfl⟩
  · intro w' hpulls
    cases hpulls with
    | swap hinfo' hyes _ _ _ =>
        cases hinfo.symm.trans hinfo'
        rw [hisSwap] at hyes
        cases hyes
    | other hinfo' _ hrun =>
        cases hinfo.symm.trans hinfo'
        rw [hrecord, run_tryCommit] at hrun
        obtain ⟨db, hdb, rfl⟩ := hrun
        cases hf.symm.trans hdb
        exact ⟨info.newSyncState, rfl⟩

theorem pulls_index {ours theirs : Nat} (h : Receives sdk w.db record (.lastDerivationIndex theirs))
    (hc : w.db.syncOutgoing.get? record.id = some c) (htype : c.recordType = .lastDerivationIndex)
    (hnamed : c.updatedFields.isSome) (hours : w.db.lastDerivationIndex = some ours) :
    (∃ w', Pulls sdk record w w') ∧
      ∀ w', Pulls sdk record w w' → w'.db.lastDerivationIndex = some (max ours theirs) := by
  have hdata : mergedWith w.db (.lastDerivationIndex theirs) c = .ok (.lastDerivationIndex (max ours theirs)) := by
    obtain ⟨fields, hfields⟩ := Option.isSome_iff_exists.mp hnamed
    unfold mergedWith
    rw [hfields, htype]
    dsimp only [Db.loadSyncData]
    rw [hours]
    rfl
  obtain ⟨hexists, hafter⟩ := pulls_other { w.db with lastDerivationIndex := some (max ours theirs) } h hc
    hdata rfl (by
      intro info hinfo _ hlast
      refine ⟨_, committed info, by unfold commitRecord; rw [hinfo], ?_⟩
      have hcheck := checkCommitUpdate_current hc
      rw [h.id_eq] at hcheck
      unfold Db.commitIncomingAddressIndex
      refine except_bind_eq_ok.mpr ⟨(), ?_, rfl⟩
      rw [hlast]
      exact hcheck)
  refine ⟨hexists, ?_⟩
  intro w' hw'
  obtain ⟨state, hdb⟩ := hafter w' hw'
  rw [hdb]
  rfl

theorem pulls_details {theirs : PaymentTxDetails} (h : Receives sdk w.db record (.paymentDetails theirs))
    (hc : w.db.syncOutgoing.get? record.id = some c) (hnamed : c.updatedFields = none) :
    (∃ w', Pulls sdk record w w') ∧ ∀ w', Pulls sdk record w w' →
      w'.db.paymentDetails = (w.db.insertOrUpdatePaymentDetailsInner theirs false).paymentDetails := by
  have hdata : mergedWith w.db (.paymentDetails theirs) c = .ok (.paymentDetails theirs) := by
    unfold mergedWith
    rw [hnamed]
  obtain ⟨hexists, hafter⟩ := pulls_other (w.db.insertOrUpdatePaymentDetailsInner theirs false) h hc hdata rfl (by
    intro info hinfo hrecordId hlast
    refine ⟨_, committed info, by unfold commitRecord; rw [hinfo], ?_⟩
    unfold Db.commitIncomingPaymentDetails
    refine except_bind_eq_ok.mpr ⟨(), ?_, rfl⟩
    rw [hrecordId, hlast]
    exact checkCommitUpdate_current hc)
  refine ⟨hexists, ?_⟩
  intro w' hw'
  obtain ⟨state, hdb⟩ := hafter w' hw'
  rw [hdb]
  rfl

theorem pulls_offer {theirs row : Bolt12Offer} (h : Receives sdk w.db record (.bolt12Offer theirs))
    (hc : w.db.syncOutgoing.get? record.id = some c) (htype : c.recordType = .bolt12Offer)
    (hrow : w.db.bolt12Offers.get? theirs.id = some row) :
    (∃ w', Pulls sdk record w w') ∧ ∀ w', Pulls sdk record w w' →
      ∃ row', w'.db.bolt12Offers.get? theirs.id = some row' ∧
        row'.webhookUrl = if Field.webhookUrl.name ∈ c.updatedFields.getD [] then row.webhookUrl
          else theirs.webhookUrl := by
  obtain ⟨data, hdata, hid, hwebhook⟩ : ∃ data : Bolt12Offer,
      mergedWith w.db (.bolt12Offer theirs) c = .ok (.bolt12Offer data) ∧ data.id = theirs.id ∧
      data.webhookUrl = if Field.webhookUrl.name ∈ c.updatedFields.getD [] then row.webhookUrl
        else theirs.webhookUrl := by
    unfold mergedWith
    cases c.updatedFields with
    | none => exact ⟨theirs, rfl, rfl, rfl⟩
    | some fields =>
        have hload : w.db.loadSyncData (SyncData.bolt12Offer theirs).id c.recordType = .ok (.bolt12Offer row) := by
          rw [htype]
          show (okOr (w.db.bolt12Offers.get? theirs.id) _).map _ = _
          rw [hrow]
          rfl
        dsimp only
        rw [hload]
        exact ⟨Bolt12OfferSyncData.merge theirs row fields, rfl, bolt12Offer_merge theirs row fields⟩
  obtain ⟨hexists, hafter⟩ := pulls_other (w.db.insertOrUpdateBolt12OfferInner data) h hc hdata rfl (by
    intro info hinfo hrecordId hlast
    refine ⟨_, committed info, by unfold commitRecord; rw [hinfo], ?_⟩
    unfold Db.commitIncomingBolt12Offer
    refine except_bind_eq_ok.mpr ⟨(), ?_, rfl⟩
    rw [hrecordId, hlast]
    exact checkCommitUpdate_current hc)
  refine ⟨hexists, ?_⟩
  intro w' hw'
  obtain ⟨state, hdb⟩ := hafter w' hw'
  refine ⟨{ row with webhookUrl := data.webhookUrl }, ?_, hwebhook⟩
  rw [hdb]
  show (w.db.insertOrUpdateBolt12OfferInner data).bolt12Offers.get? theirs.id = _
  unfold Db.insertOrUpdateBolt12OfferInner
  dsimp only
  rw [hid, hrow]
  dsimp only
  rw [Table.get?_updateWhere, hrow, Option.map_some, if_pos (decide_eq_true (Table.get?_some_key hrow))]

end After

end BreezLiquid.Sync
