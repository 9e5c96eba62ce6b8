/-
# BreezLiquid.Sync.Origin — which swaps were created on this device.

A swap's `is_local` flag is read off its sync state, and a swap without one counts as local. A pull writes the
flag of the sync state it finds, or else "not local"; a push writes the flag that it finds, or else "local". So
the flag is right as long as swaps created here never come in without a sync state, and the sync states of other
devices' swaps are never dropped.
-/
import BreezLiquid.Send.Cooperation
import BreezLiquid.Sync.Footprint
import BreezLiquid.Sync.Tables

namespace BreezLiquid.Sync

open Interleaving Recover Tables

/-! ## Names of items -/

/-- The record type, if it is one of a swap. -/
def swapType : RecordType → Option RecordType
  | .chain => some .chain
  | .send => some .send
  | .receive => some .receive
  | .lastDerivationIndex | .paymentDetails | .bolt12Offer => none

/-- What ids stand for. The id of a swap tells its type, and is the id of nothing else; the ids of records are
collision-free hashes. `createdHere` are the swaps of this device. -/
structure Naming (codec : SyncCodec) where
  kind : DataId → Option RecordType
  createdHere : SwapId → Prop
  recordId_injective : ∀ t d t' d', Record.getIdFromRecordType codec t d = Record.getIdFromRecordType codec t' d' →
    t = t' ∧ d = d'

namespace Naming

variable {codec : SyncCodec} (N : Naming codec)

/-- The record id, the type and the data id are of one item. -/
structure Belongs (recordId : RecordId) (t : RecordType) (d : DataId) : Prop where
  recordId_eq : recordId = Record.getIdFromRecordType codec t d
  kind_eq : N.kind d = swapType t

/-- A record as it is made by a device. -/
def Authentic (record : Record) : Prop :=
  ∀ data, codec.decrypt record.data = .ok data → N.Belongs record.id data.recordType data.id

variable {N}

theorem Belongs.eq {recordId : RecordId} {t t' : RecordType} {d d' : DataId} (h : N.Belongs recordId t d)
    (h' : N.Belongs recordId t' d') : t = t' ∧ d = d' :=
  N.recordId_injective t d t' d' (h.recordId_eq.symm.trans h'.recordId_eq)

theorem swapType_eq_some {t t' : RecordType} (h : swapType t = some t') : t = t' := by
  cases t <;> cases h <;> rfl

/-- A swap has one record id. -/
theorem Belongs.recordId_unique {recordId recordId' : RecordId} {t t' : RecordType} {d : DataId}
    (h : N.Belongs recordId t d) (h' : N.Belongs recordId' t' d) (hswap : (N.kind d).isSome) :
    recordId = recordId' := by
  obtain ⟨k, hk⟩ := Option.isSome_iff_exists.mp hswap
  have ht : t = k := swapType_eq_some (h.kind_eq.symm.trans hk)
  have ht' : t' = k := swapType_eq_some (h'.kind_eq.symm.trans hk)
  rw [h.recordId_eq, h'.recordId_eq, ht, ht']

/-! ## The invariant -/

/-- Every sync state of a swap has the right flag, and a swap without one was created here. -/
structure Traced (N : Naming codec) (db : Db) : Prop where
  states : ∀ s ∈ db.syncState.rows, (∃ t, N.Belongs s.recordId t s.dataId) ∧
    ((N.kind s.dataId).isSome → (s.isLocal = true ↔ N.createdHere s.dataId))
  rows : ∀ e ∈ db.allSwapIds, N.kind e.2 = some e.1 ∧ (db.syncState.get? e.2 = none → N.createdHere e.2)
  incoming : ∀ record ∈ db.syncIncoming.rows, N.Authentic record
  outgoing : ∀ c ∈ db.syncOutgoing.rows, N.Belongs c.recordId c.recordType c.dataId

/-- The flag as the swap queries read it. -/
theorem Traced.isLocal_iff {db : Db} (h : Traced N db) {e : RecordType × SwapId} (he : e ∈ db.allSwapIds) :
    db.isLocal e.2 = true ↔ N.createdHere e.2 := by
  obtain ⟨hkind, hnone⟩ := h.rows e he
  unfold Db.isLocal
  cases hstate : db.syncState.get? e.2 with
  | none => simpa using hnone hstate
  | some s =>
      have hid : s.dataId = e.2 := Table.get?_some_key hstate
      have hflag := (h.states s (Table.mem_of_get? hstate)).2
      rw [hid, hkind] at hflag
      simpa using hflag rfl

/-- A swap's sync state is found by its record id. -/
theorem Traced.get?_eq_none {db : Db} (h : Traced N db) {recordId : RecordId} {t : RecordType} {d : DataId}
    (hbelongs : N.Belongs recordId t d) (hswap : (N.kind d).isSome)
    (hnone : db.getSyncStateByRecordId recordId = none) : db.syncState.get? d = none := by
  cases hstate : db.syncState.get? d with
  | none => rfl
  | some s =>
      have hid : s.dataId = d := Table.get?_some_key hstate
      have hmem := Table.mem_of_get? hstate
      obtain ⟨⟨t', hbelongs'⟩, -⟩ := h.states s hmem
      rw [hid] at hbelongs'
      have heq := hbelongs'.recordId_unique hbelongs hswap
      have hfind := List.find?_eq_none.mp hnone s hmem
      simp [heq] at hfind

/-- The sync state that is found by the record id of a swap is the swap's. -/
theorem Traced.of_find {db : Db} (h : Traced N db) {recordId : RecordId} {t : RecordType} {d : DataId}
    (hbelongs : N.Belongs recordId t d) (hswap : (N.kind d).isSome) {s : SyncState}
    (hfind : db.getSyncStateByRecordId recordId = some s) : s.isLocal = true ↔ N.createdHere d := by
  have hmem := List.mem_of_find?_eq_some hfind
  have hid : s.recordId = recordId := by simpa using List.find?_some hfind
  obtain ⟨⟨t', hbelongs'⟩, hflag⟩ := h.states s hmem
  rw [hid] at hbelongs'
  obtain ⟨-, rfl⟩ := hbelongs'.eq hbelongs
  exact hflag hswap

end Naming

/-! ## The sync service among local writes -/

section Service

variable {sdk : Sdk} (N : Naming sdk.persister.codec)

/-- What the rest of the wallet does: it creates swaps, and queues changes under their ids. -/
structure LocalTraced (w w' : World) : Prop where
  syncState : w'.db.syncState = w.db.syncState
  syncIncoming : w'.db.syncIncoming = w.db.syncIncoming
  created : ∀ e ∈ w'.db.allSwapIds, e ∈ w.db.allSwapIds ∨ (N.kind e.2 = some e.1 ∧ N.createdHere e.2)
  queued : ∀ c ∈ w'.db.syncOutgoing.rows, c ∈ w.db.syncOutgoing.rows ∨ N.Belongs c.recordId c.recordType c.dataId

/-- The remote has records that devices made; the answers of the other services are arbitrary. -/
def RemoteAuthentic : (q : Call) → q.Answer → World → Prop
  | .pull _, .ok records, _ => ∀ record ∈ records, N.Authentic record
  | _, _, _ => True

variable (sdk) in
/-- The operations of the sync service. -/
inductive SyncTask : Async Unit → Prop where
  | pull : SyncTask ((pull sdk).bind fun _ => .done (.ok ()))
  | push : SyncTask ((push sdk).bind fun _ => .done (.ok ()))
  | resetSync : SyncTask (resetSync sdk)
  | checkRemoteChange : SyncTask (checkRemoteChange sdk)

/-- One operation of the sync service at a time, among local writes. -/
def syncSystem : System World Call Call.Answer Err Unit where
  answers := RemoteAuthentic N
  effect := World.effect sdk
  spawns roles _ _ t := roles = [] ∧ SyncTask sdk t
  env := LocalTraced N

/-- The step marks the event. -/
def Marks (e : Event) (w w' : World) : Prop := ∃ newer, w'.trace = newer ++ w.trace ∧ e ∈ newer

/-- A pulled record of a swap that was created here is only written when there is a sync state for it, and the
sync states are only dropped while all swaps were created here. -/
def KnowsOwn : Cond World Unit
  | .own _, w, w' =>
      (∀ recordId commits, Marks (.incomingCommitted recordId commits) w w' → ∀ t d,
        N.Belongs recordId t d → (N.kind d).isSome → N.createdHere d →
          (w.db.getSyncStateByRecordId recordId).isSome) ∧
      (w'.db.syncState = ∅ → w.db.syncState ≠ ∅ → ∀ e ∈ w.db.allSwapIds, N.createdHere e.2)
  | _, _, _ => True

/-- Meanwhile nobody else writes sync states. -/
def originProtocol : Protocol World Unit where
  inv w := N.Traced w.db
  rely _ w w' := w'.db.syncState = w.db.syncState
  guar _ _ _ := True
  idle _ _ := True
  rely_refl _ _ := rfl
  rely_trans _ _ _ _ h h' := h'.trans h
  idle_stable _ _ _ _ _ _ := trivial

/-- The tasks of the service keep the flags right. -/
abbrev SafeOrigin {α : Type} (t : Async α) (post : Except Err α → World → Prop) (w : World) : Prop :=
  Safe (syncSystem N) (KnowsOwn N) (originProtocol N) () t post w

variable {N}

/-! ## Writing a sync state -/

/-- The invariant after a sync state with the right flag was written, and after the swap it belongs to. -/
theorem Naming.Traced.setSyncState {db db₁ : Db} (h : N.Traced db) {s : SyncState} {t : RecordType}
    (hstate : db₁.syncState = db.syncState) (hincoming : db₁.syncIncoming = db.syncIncoming)
    (houtgoing : db₁.syncOutgoing = db.syncOutgoing)
    (hrows : ∀ e ∈ db₁.allSwapIds, e ∈ db.allSwapIds ∨ (N.kind e.2 = some e.1 ∧ e.2 = s.dataId))
    (hbelongs : N.Belongs s.recordId t s.dataId)
    (hflag : (N.kind s.dataId).isSome → (s.isLocal = true ↔ N.createdHere s.dataId)) :
    N.Traced (db₁.setSyncState s) where
  states s' hs' := by
    have hs' : s' ∈ (db₁.syncState.insertOrReplace s).rows := hs'
    rw [mem_insertOrReplace, hstate] at hs'
    rcases hs' with ⟨hs', -⟩ | rfl
    · exact h.states s' hs'
    · exact ⟨⟨t, hbelongs⟩, hflag⟩
  rows e he := by
    have hget : (db₁.setSyncState s).syncState.get? e.2 = if s.dataId = e.2 then some s else db.syncState.get? e.2 := by
      show (db₁.syncState.insertOrReplace s).get? e.2 = _
      rw [Table.get?_insertOrReplace, hstate]
    rw [hget]
    rcases hrows e he with he | ⟨hkind, hid⟩
    · refine ⟨(h.rows e he).1, fun hnone => (h.rows e he).2 ?_⟩
      split at hnone
      · cases hnone
      · exact hnone
    · refine ⟨hkind, fun hnone => ?_⟩
      rw [if_pos hid.symm] at hnone
      cases hnone
  incoming record hrecord := h.incoming record (by
    have hrecord : record ∈ db₁.syncIncoming.rows := hrecord
    rwa [hincoming] at hrecord)
  outgoing c hc := h.outgoing c (by
    have hc : c ∈ db₁.syncOutgoing.rows := hc
    rwa [houtgoing] at hc)

/-! ## Pulling -/

/-- What is known of a decrypted record until it is committed. -/
structure Knows (N : Naming sdk.persister.codec) (info : DecryptionInfo) (w : World) : Prop where
  belongs : N.Belongs info.record.id info.record.data.recordType info.record.data.id
  recordId : info.newSyncState.recordId = info.record.id
  dataId : info.newSyncState.dataId = info.record.data.id
  isLocal : (N.kind info.record.data.id).isSome → info.newSyncState.isLocal =
    ((w.db.getSyncStateByRecordId info.record.id).map SyncState.isLocal).getD false

theorem Knows.of_syncState {info : DecryptionInfo} {w w' : World} (h : Knows N info w)
    (hstate : w'.db.syncState = w.db.syncState) : Knows N info w' where
  belongs := h.belongs
  recordId := h.recordId
  dataId := h.dataId
  isLocal hswap := by
    unfold Db.getSyncStateByRecordId
    rw [hstate]
    exact h.isLocal hswap

theorem traced_mergeOutgoing_bind {α : Type} {data : SyncData} {out : Option SyncOutgoingChanges}
    {k : SyncData → Async α} {ψ : α → World → Prop} {w : World}
    (h : ∀ data' w', data'.id = data.id → data'.recordType = data.recordType →
      w'.db.syncState = w.db.syncState → SafeOrigin N (k data') (OnOk ψ) w') :
    SafeOrigin N ((mergeOutgoing data out).bind k) (OnOk ψ) w := by
  unfold mergeOutgoing
  split
  · rw [Task.bind_eq, Task.bind_assoc]
    refine safe_reads_bind (fun _ => trivial) fun w₁ hr _ => ?_
    rw [Task.bind_eq, Task.bind_assoc]
    refine Safe.ofExcept_bind fun localData _ => ?_
    refine Safe.ofExcept_bind fun data' hmerge => ?_
    obtain ⟨hid, htype⟩ := merge_names hmerge
    exact h data' w₁ hid htype hr
  · exact h data w rfl rfl rfl

theorem traced_handleDecryption {record : Record} (hauthentic : N.Authentic record) (w : World) :
    SafeOrigin N (handleDecryption sdk record)
      (OnOk fun info w => Knows N info w ∧ info.record.id = record.id) w := by
  refine Safe.ofExcept_bind fun applicable _ => ?_
  split
  · exact safe_error
  · unfold checkRevision
    rw [Task.bind_eq, Task.bind_eq, Task.bind_assoc]
    refine safe_reads_bind (fun _ => trivial) fun w₁ _ _ => ?_
    dsimp only
    split
    · exact safe_error
    · refine Safe.ofExcept_bind fun maybeSyncState hmaybe => ?_
      cases hmaybe
      refine Safe.ofExcept_bind fun decrypted hdecrypted => ?_
      obtain ⟨data, hdata, hdecrypted⟩ := except_bind_eq_ok.mp hdecrypted
      cases hdecrypted
      intro w₂ hr₂ hi₂ _
      refine ⟨hi₂, trivial, ?_⟩
      refine traced_mergeOutgoing_bind fun data' w₃ hid htype hstate => safe_ok fun w₄ hr₄ _ => ?_
      have hstates : w₄.db.syncState = w₁.db.syncState := hr₄.trans (hstate.trans hr₂)
      have hbelongs := hauthentic data hdata
      rw [← hid, ← htype] at hbelongs
      refine ⟨⟨hbelongs, rfl, rfl, fun _ => ?_⟩, rfl⟩
      unfold Db.getSyncStateByRecordId
      rw [hstates]

/-- What reads, and leaves events, keeps the database. -/
theorem SafeOrigin.frame {α : Type} {t : Async α} {post : Except Err α → World → Prop} {w : World}
    (hwithin : t.Within (fun f => ∀ w, (f w).db = w.db) Call.Quiet) (h : SafeOrigin N t post w) :
    SafeOrigin N t (fun x w₁ => post x w₁ ∧ w₁.db.syncState = w.db.syncState) w := by
  refine Safe.carry (R := fun w w' : World => w'.db.syncState = w.db.syncState) (fun _ => rfl)
    (fun h h' => h'.trans h) (fun _ _ hr => hr) (fun f hf w => congrArg Db.syncState (hf w)) ?_ hwithin h
  intro q _ a w
  exact congrArg Db.syncState (effect_db sdk q a w)

/-- Every decrypted record is known, and they are in the order of the records. -/
theorem traced_decryptRecords {records : List Record} (hauthentic : ∀ record ∈ records, N.Authentic record)
    (w : World) : SafeOrigin N (decryptRecords sdk records) (OnOk fun out w =>
      (∀ info ∈ out.1, Knows N info w) ∧
        (out.1.map fun info => info.record.id).Sublist (records.map Record.id)) w := by
  induction records generalizing w with
  | nil => exact safe_ok fun w₁ _ _ => ⟨nofun, List.Sublist.refl _⟩
  | cons record records ih =>
      have hfirst := traced_handleDecryption (hauthentic record List.mem_cons_self) w
      have hrest := ih fun r hr => hauthentic r (List.mem_cons_of_mem _ hr)
      refine Safe.bind (Safe.attempt (hfirst.mono fun res w₁ _ hres => ?_))
      have hwithin : (decryptRecords sdk records).Within (fun f => ∀ w, (f w).db = w.db) Call.Quiet :=
        within_decryptRecords (fun _ => rfl) (fun _ _ => rfl) records
      refine Safe.bind ((SafeOrigin.frame hwithin (hrest w₁)).mono fun x w₂ _ hx => ?_)
      cases x with
      | error err => trivial
      | ok out =>
          obtain ⟨decrypted, succeded⟩ := out
          obtain ⟨⟨hknows, hsublist⟩, hstate⟩ := hx
          cases res with
          | ok info =>
              obtain ⟨hinfo, hid⟩ := hres
              refine safe_ok fun w₃ hr _ => ⟨fun info' hinfo' => ?_, ?_⟩
              · rcases List.mem_cons.mp hinfo' with rfl | hinfo'
                · exact hinfo.of_syncState (hr.trans hstate)
                · exact (hknows info' hinfo').of_syncState hr
              · rw [List.map_cons, List.map_cons, hid]
                exact hsublist.cons_cons _
          | error err =>
              have hdone : ∀ l : List RecordId, SafeOrigin N (.done (.ok (decrypted, l))) (OnOk fun out w =>
                  (∀ info ∈ out.1, Knows N info w) ∧ (out.1.map fun info => info.record.id).Sublist
                    ((record :: records).map Record.id)) w₂ := by
                refine fun l => safe_ok fun w₃ hr _ => ⟨fun info' hinfo' => ?_, ?_⟩
                · exact (hknows info' hinfo').of_syncState hr
                · exact hsublist.cons _
              dsimp only
              split
              · rename_i heq
                cases heq
              · exact hdone _
              · exact hdone _

/-- The flag of the new sync state is right when own swaps are only written with a known one. -/
theorem Knows.flag {info : DecryptionInfo} {w : World} (h : Knows N info w) (hi : N.Traced w.db)
    (hown : N.createdHere info.record.data.id → (N.kind info.record.data.id).isSome →
      (w.db.getSyncStateByRecordId info.record.id).isSome) (hswap : (N.kind info.record.data.id).isSome) :
    info.newSyncState.isLocal = true ↔ N.createdHere info.record.data.id := by
  rw [h.isLocal hswap]
  cases hfind : w.db.getSyncStateByRecordId info.record.id with
  | some s => exact hi.of_find h.belongs hswap hfind
  | none =>
      constructor
      · intro hfalse
        cases hfalse
      · intro hcreated
        have hsome := hown hcreated hswap
        rw [hfind] at hsome
        cases hsome

/-- Writing the sync state of one record leaves the others' known. -/
theorem Knows.setSyncState {info other : DecryptionInfo} {w w' : World} {db₁ : Db} (hother : Knows N other w)
    (h : Knows N info w) (hi : N.Traced w.db) (hne : other.record.id ≠ info.record.id)
    (hstate : db₁.syncState = w.db.syncState) (hdb : w'.db = db₁.setSyncState info.newSyncState) :
    Knows N other w' where
  belongs := hother.belongs
  recordId := hother.recordId
  dataId := hother.dataId
  isLocal hswap := by
    have hfound : w'.db.getSyncStateByRecordId other.record.id =
        db₁.getSyncStateByRecordId other.record.id := by
      rw [hdb]
      refine getSyncState_setSyncState_of_ne ?_ fun s hs hid heq => hne ?_
      · rw [h.recordId]
        exact hne.symm
      · rw [hstate] at hs
        obtain ⟨⟨t, hbelongs⟩, -⟩ := hi.states s hs
        rw [heq] at hbelongs
        obtain ⟨-, hid'⟩ := hbelongs.eq hother.belongs
        rw [h.dataId, hid'] at hid
        rw [hid] at hswap
        have hbelongs' := hother.belongs
        rw [hid] at hbelongs'
        exact hbelongs'.recordId_unique h.belongs hswap
    rw [hfound]
    unfold Db.getSyncStateByRecordId
    rw [hstate]
    exact hother.isLocal hswap

/-- The transaction of a known record's commit. -/
theorem traced_commit {f : Nat → Db → Except Err Db} {events : Db → Db → List Event} {info : DecryptionInfo}
    {K : List DecryptionInfo} {w : World} (h : Knows N info w)
    (hK : ∀ k ∈ K, Knows N k w ∧ k.record.id ≠ info.record.id)
    (hevents : ∀ db db', ∃ commits, .incomingCommitted info.record.id commits ∈ events db db')
    (hf : ∀ now db db', f now db = .ok db' → ∃ db₁ : Db, db' = db₁.setSyncState info.newSyncState ∧
      db₁.syncState = db.syncState ∧ db₁.syncIncoming = db.syncIncoming ∧ db₁.syncOutgoing = db.syncOutgoing ∧
      ∀ e ∈ db₁.allSwapIds, e ∈ db.allSwapIds ∨ e = (info.record.data.recordType, info.record.data.id) ∧
        info.record.data.isSwap = true) :
    SafeOrigin N (tryCommit f events) (fun _ w => ∀ k ∈ K, Knows N k w) w := by
  intro w₁ hr hi hc
  have h₁ := h.of_syncState hr
  have hK₁ : ∀ k ∈ K, Knows N k w₁ := fun k hk => (hK k hk).1.of_syncState hr
  have hstays : ∀ w₂, (∀ k ∈ K, Knows N k w₂) → SafeOrigin N (.done ((f w₁.now w₁.db).map fun _ => ()))
      (fun _ w => ∀ k ∈ K, Knows N k w) w₂ := by
    intro w₂ hK₂ w₃ hr₃ _ k hk
    exact (hK₂ k hk).of_syncState hr₃
  -- a commit that fails is rolled back
  cases hcommit : f w₁.now w₁.db with
  | error err =>
      have hnone : World.tryCommit f events w₁ = w₁ := by
        unfold World.tryCommit
        rw [hcommit]
      rw [hnone]
      exact ⟨hi, trivial, hstays w₁ hK₁⟩
  | ok db' =>
      have hsome : World.tryCommit f events w₁ =
          { w₁ with db := db', trace := events w₁.db db' ++ w₁.trace } := by
        unfold World.tryCommit
        rw [hcommit]
      obtain ⟨db₁, hdb', hstate, hincoming, houtgoing, hrows⟩ := hf _ _ _ hcommit
      -- a record of one of our own swaps comes with its sync state: this is what the condition on the step says
      have hown : N.createdHere info.record.data.id → (N.kind info.record.data.id).isSome →
          (w₁.db.getSyncStateByRecordId info.record.id).isSome := by
        intro hcreated hswap
        obtain ⟨commits, hevent⟩ := hevents w₁.db db'
        refine hc.1 info.record.id commits ⟨events w₁.db db', ?_, hevent⟩ _ _ h₁.belongs hswap hcreated
        rw [hsome]
      rw [hsome]
      refine ⟨?_, trivial, hstays _ fun k hk => ?_⟩
      · show N.Traced db'
        rw [hdb']
        refine hi.setSyncState (t := info.record.data.recordType) hstate hincoming houtgoing ?_ ?_ ?_
        · -- only the commit of a swap adds a swap, and then its own
          intro e he
          rcases hrows e he with he | ⟨rfl, hisSwap⟩
          · exact .inl he
          · refine .inr ⟨?_, h₁.dataId.symm⟩
            show N.kind info.record.data.id = some info.record.data.recordType
            rw [h₁.belongs.kind_eq]
            cases hdata : info.record.data with
            | chain data => rfl
            | send data => rfl
            | receive data => rfl
            | lastDerivationIndex index =>
                rw [hdata] at hisSwap
                cases hisSwap
            | paymentDetails data =>
                rw [hdata] at hisSwap
                cases hisSwap
            | bolt12Offer data =>
                rw [hdata] at hisSwap
                cases hisSwap
        · rw [h₁.recordId, h₁.dataId]
          exact h₁.belongs
        · rw [h₁.dataId]
          exact h₁.flag hi hown
      · exact (hK₁ k hk).setSyncState h₁ hi (hK k hk).2 hstate hdb'

theorem committed_marks (info : DecryptionInfo) (db db' : Db) :
    ∃ commits, .incomingCommitted info.record.id commits ∈ committed info db db' :=
  ⟨_, List.mem_singleton.mpr rfl⟩

theorem committedSwap_marks (info : DecryptionInfo) (result : Swap × Outcome) (db db' : Db) :
    ∃ commits, .incomingCommitted info.record.id commits ∈ committedSwap sdk info result db db' := by
  unfold committedSwap
  split
  · exact ⟨_, List.mem_cons_of_mem _ (List.mem_singleton.mpr rfl)⟩
  · exact committed_marks info db db'

theorem traced_commitRecord {info : DecryptionInfo} {result : Option (Swap × Outcome)} {K : List DecryptionInfo}
    {w : World} (h : Knows N info w) (hK : ∀ k ∈ K, Knows N k w ∧ k.record.id ≠ info.record.id)
    (hresult : ∀ r, result = some r → Names info r.1) :
    SafeOrigin N (commitRecord sdk info result) (fun _ w => ∀ k ∈ K, Knows N k w) w := by
  have hswap : info.record.data.isSwap = true →
      SafeOrigin N (commitRecord sdk info result) (fun _ w => ∀ k ∈ K, Knows N k w) w := by
    intro hisSwap
    cases hr : result with
    | none =>
        obtain ⟨err, hthrow⟩ := commitRecord_none sdk hisSwap
        rw [hthrow]
        exact fun w₁ hrely _ k hk => (hK k hk).1.of_syncState hrely
    | some r =>
        rw [commitRecord_swap sdk hisSwap]
        refine traced_commit h hK (committedSwap_marks info r) fun now db db' hok => ?_
        obtain ⟨_, -, hok⟩ := except_bind_eq_ok.mp hok
        obtain ⟨db₁, hinsert, hok⟩ := except_bind_eq_ok.mp hok
        cases hok
        obtain ⟨hstate, hincoming, houtgoing, -⟩ := insertOrUpdateSwapInner_syncTables hinsert
        refine ⟨db₁, rfl, hstate, hincoming, houtgoing, fun e he => ?_⟩
        rcases insertOrUpdateSwapInner_allSwapIds hinsert he with he | rfl
        · exact .inl he
        · obtain ⟨hid, htype⟩ := hresult r hr
          rw [hid, htype]
          exact .inr ⟨rfl, hisSwap⟩
  cases hdata : info.record.data with
  | chain data => exact hswap (by rw [hdata]; rfl)
  | send data => exact hswap (by rw [hdata]; rfl)
  | receive data => exact hswap (by rw [hdata]; rfl)
  | lastDerivationIndex index =>
      unfold commitRecord
      rw [hdata]
      refine traced_commit h hK (committed_marks info) fun now db db' hok => ?_
      obtain ⟨_, -, hok⟩ := except_bind_eq_ok.mp hok
      cases hok
      exact ⟨_, rfl, rfl, rfl, rfl, fun e he => .inl he⟩
  | paymentDetails data =>
      unfold commitRecord
      rw [hdata]
      refine traced_commit h hK (committed_marks info) fun now db db' hok => ?_
      obtain ⟨_, -, hok⟩ := except_bind_eq_ok.mp hok
      cases hok
      exact ⟨_, rfl, rfl, rfl, rfl, fun e he => .inl he⟩
  | bolt12Offer data =>
      unfold commitRecord
      rw [hdata]
      refine traced_commit h hK (committed_marks info) fun now db db' hok => ?_
      obtain ⟨_, -, hok⟩ := except_bind_eq_ok.mp hok
      cases hok
      exact ⟨_, rfl, rfl, rfl, rfl, fun e he => .inl he⟩

/-- Committing known records, one after the other. Others' records stay known. -/
theorem traced_commitRecords {infos : List (DecryptionInfo × Option (Swap × Outcome))} {K : List DecryptionInfo}
    {w : World} (hinfos : ∀ i ∈ infos, Knows N i.1 w ∧ ∀ r, i.2 = some r → Names i.1 r.1)
    (hK : ∀ k ∈ K, Knows N k w)
    (hnodup : ((infos.map Prod.fst ++ K).map fun info => info.record.id).Nodup) :
    SafeOrigin N (commitRecords sdk infos) (fun _ w => ∀ k ∈ K, Knows N k w) w := by
  induction infos generalizing w with
  | nil => exact fun w₁ hr _ k hk => (hK k hk).of_syncState hr
  | cons i infos ih =>
      obtain ⟨info, result⟩ := i
      obtain ⟨hinfo, hresult⟩ := hinfos (info, result) List.mem_cons_self
      rw [List.map_cons, List.cons_append, List.map_cons, List.nodup_cons] at hnodup
      have hothers : ∀ k ∈ infos.map Prod.fst ++ K, Knows N k w ∧ k.record.id ≠ info.record.id := by
        intro k hk
        refine ⟨?_, fun heq => hnodup.1 (List.mem_map.mpr ⟨k, hk, heq⟩)⟩
        rcases List.mem_append.mp hk with hk | hk
        · obtain ⟨i, hi, rfl⟩ := List.mem_map.mp hk
          exact (hinfos i (List.mem_cons_of_mem _ hi)).1
        · exact hK k hk
      refine Safe.bind (Safe.attempt ((traced_commitRecord hinfo hothers hresult).mono fun res w₁ _ hres => ?_))
      have hrest := ih (w := w₁)
        (fun i hi => ⟨hres i.1 (List.mem_append_left _ (List.mem_map_of_mem hi)),
          (hinfos i (List.mem_cons_of_mem _ hi)).2⟩)
        (fun k hk => hres k (List.mem_append_right _ hk)) hnodup.2
      refine Safe.bind (hrest.mono fun x w₂ _ hx => ?_)
      have hdone : ∀ l : List RecordId, SafeOrigin N (.done (.ok l)) (fun _ w => ∀ k ∈ K, Knows N k w) w₂ :=
        fun l w₃ hr _ k hk => (hx k hk).of_syncState hr
      cases x with
      | error err => exact hx
      | ok succeded =>
          cases res with
          | ok _ => exact hdone _
          | error err => exact hdone _

/-- A change of the incoming records alone. -/
theorem Naming.Traced.of_incoming {db db' : Db} (h : N.Traced db) (hstate : db'.syncState = db.syncState)
    (hrows : db'.allSwapIds = db.allSwapIds) (houtgoing : db'.syncOutgoing = db.syncOutgoing)
    (hincoming : ∀ record ∈ db'.syncIncoming.rows, N.Authentic record) : N.Traced db' where
  states s hs := h.states s (by rwa [hstate] at hs)
  rows e he := by
    rw [hstate]
    exact h.rows e (by rwa [hrows] at he)
  incoming := hincoming
  outgoing c hc := h.outgoing c (by rwa [houtgoing] at hc)

theorem setIncomingRecords_tables (records : List Record) (db : Db) :
    (db.setIncomingRecords records).syncState = db.syncState ∧
      (db.setIncomingRecords records).allSwapIds = db.allSwapIds ∧
      (db.setIncomingRecords records).syncOutgoing = db.syncOutgoing ∧
      ∀ r ∈ (db.setIncomingRecords records).syncIncoming.rows, r ∈ db.syncIncoming.rows ∨ r ∈ records := by
  induction records generalizing db with
  | nil => exact ⟨rfl, rfl, rfl, fun r hr => .inl hr⟩
  | cons record records ih =>
      obtain ⟨hstate, hrows, houtgoing, hmem⟩ := ih (db.setIncomingRecord record)
      refine ⟨hstate, hrows, houtgoing, fun r hr => ?_⟩
      rcases hmem r hr with hr | hr
      · have hr : r ∈ ((db.syncIncoming.deleteWhere fun r => r.revision = record.revision).insertOrReplace
            record).rows := hr
        rw [mem_insertOrReplace] at hr
        rcases hr with ⟨hr, -⟩ | rfl
        · exact .inl (List.mem_of_mem_filter hr)
        · exact .inr List.mem_cons_self
      · exact .inr (List.mem_cons_of_mem _ hr)

/-- A transaction that changes only the incoming records or the settings. -/
theorem traced_writeIncoming {α : Type} {f : Nat → Db → Db} {k : Async α} {post : Except Err α → World → Prop}
    {w : World} (hstate : ∀ now db, (f now db).syncState = db.syncState)
    (hrows : ∀ now db, (f now db).allSwapIds = db.allSwapIds)
    (houtgoing : ∀ now db, (f now db).syncOutgoing = db.syncOutgoing)
    (hincoming : ∀ now db, N.Traced db → ∀ record ∈ (f now db).syncIncoming.rows, N.Authentic record)
    (hk : ∀ w', w'.db.syncState = w.db.syncState → SafeOrigin N k post w') :
    SafeOrigin N ((write f).bind fun _ => k) post w := by
  intro w₁ hr hi _
  refine ⟨?_, trivial, hk _ ((hstate w₁.now w₁.db).trans hr)⟩
  exact Naming.Traced.of_incoming hi (hstate _ _) (hrows _ _) (houtgoing _ _) (hincoming _ _ hi)

theorem traced_fetchAndSaveRecords (w : World) :
    SafeOrigin N fetchAndSaveRecords (OnOk fun _ _ => True) w := by
  refine safe_reads_bind (fun _ => trivial) fun w₁ _ _ => ?_
  intro w₂ _ hi₂ answer hanswer _
  refine ⟨hi₂, trivial, ?_⟩
  cases answer with
  | error err => exact safe_error
  | ok records =>
      have hauthentic : ∀ record ∈ records, N.Authentic record := hanswer
      refine traced_writeIncoming (fun _ db => (setIncomingRecords_tables records db).1)
        (fun _ db => (setIncomingRecords_tables records db).2.1)
        (fun _ db => (setIncomingRecords_tables records db).2.2.1) (fun _ db h record hrecord => ?_) fun w₃ _ => ?_
      · rcases (setIncomingRecords_tables records db).2.2.2 record hrecord with hrecord | hrecord
        · exact h.incoming record hrecord
        · exact hauthentic record hrecord
      · split
        · intro w₄ _ hi₄ _
          refine ⟨?_, trivial, fun _ _ _ => trivial⟩
          exact Naming.Traced.of_incoming hi₄ rfl rfl rfl hi₄.incoming
        · exact fun _ _ _ => trivial

/-- What only reads is safe, and leaves the sync states. -/
theorem traced_reading {α : Type} {t : Async α}
    (hwithin : t.Within (fun f => ∀ w, (f w).db = w.db) Call.Quiet) (w : World) :
    SafeOrigin N t (fun _ w₁ => w₁.db.syncState = w.db.syncState) w := by
  have hrely : ∀ w₁ w₂, (originProtocol N).rely () w₁ w₂ → (originProtocol N).inv w₂ →
      w₁.db.syncState = w.db.syncState → w₂.db.syncState = w.db.syncState := fun w₁ w₂ hr _ hJ => hr.trans hJ
  refine safe_of_within hrely ?_ ?_ hwithin rfl
  · intro f hf w₁ hi hJ _
    refine ⟨?_, trivial, (congrArg Db.syncState (hf w₁)).trans hJ⟩
    show N.Traced (f w₁).db
    rw [hf w₁]
    exact hi
  · intro q hq a w₁ hi hJ _
    rw [show (syncSystem N).effect q a w₁ = w₁ from effect_of_quiet sdk hq a w₁]
    exact ⟨hi, trivial, hJ⟩

theorem map_fst_pair (infos : List DecryptionInfo) :
    (infos.map fun info => (info, (none : Option (Swap × Outcome)))).map Prod.fst = infos := by
  rw [List.map_map]
  exact List.map_id infos

/-- The records of a pull, in the order they are committed. -/
theorem commitOrder_perm (decrypted : List DecryptionInfo) (isSwap isIndex : DecryptionInfo → Bool) :
    (((decrypted.partition isSwap).2.partition isIndex).1 ++ ((decrypted.partition isSwap).1 ++
      ((decrypted.partition isSwap).2.partition isIndex).2)).Perm decrypted := by
  simp only [List.partition_eq_filter_filter]
  refine (List.perm_append_comm_assoc _ _ _).trans ?_
  refine (List.Perm.append_left _ (List.filter_append_perm isIndex _)).trans ?_
  exact List.filter_append_perm isSwap decrypted

/-- The records that are done are removed. -/
theorem traced_removeIncoming (succeded : List RecordId) (w : World) :
    SafeOrigin N (if 0 < succeded.length then (do
        write fun _ db => db.removeIncomingRecords succeded
        return succeded.length)
      else return 0) (OnOk fun _ _ => True) w := by
  split
  · refine traced_writeIncoming (fun _ _ => rfl) (fun _ _ => rfl) (fun _ _ => rfl) ?_
      fun _ _ => safe_ok fun _ _ _ => trivial
    intro _ db h record hrecord
    exact h.incoming record (List.mem_of_mem_filter hrecord)
  · exact safe_ok fun _ _ _ => trivial

/-- **A pull** keeps the flags right. -/
theorem traced_pull (w : World) : SafeOrigin N (pull sdk) (OnOk fun _ _ => True) w := by
  refine Safe.bind ((traced_fetchAndSaveRecords w).mono fun x w₁ _ _ => ?_)
  cases x with
  | error err => trivial
  | ok _ =>
      refine safe_reads_bind (fun _ => trivial) fun w₂ _ hi₂ => ?_
      refine Safe.bind ((traced_decryptRecords hi₂.incoming w₂).mono fun x w₃ _ hx => ?_)
      cases x with
      | error err => trivial
      | ok out =>
          obtain ⟨decrypted, known⟩ := out
          obtain ⟨hknows, hsublist⟩ := hx
          -- the index is committed first, then the swaps, then the rest: all of them are known, and no record is in two
          -- of the groups
          have hnodup : (decrypted.map fun info => info.record.id).Nodup :=
            w₂.db.syncIncoming.nodup.sublist hsublist
          have hperm := commitOrder_perm decrypted (·.record.data.isSwap) fun i => isLastDerivationIndex i.record.data
          dsimp only
          generalize hswaps : decrypted.partition (·.record.data.isSwap) = swaps at hperm ⊢
          obtain ⟨swapInfo, nonSwapInfo⟩ := swaps
          dsimp only at hperm ⊢
          generalize nonSwapInfo.partition (fun i => isLastDerivationIndex i.record.data) = indices at hperm ⊢
          obtain ⟨indexInfo, othersInfo⟩ := indices
          dsimp only at hperm ⊢
          have hall : ∀ info ∈ indexInfo ++ (swapInfo ++ othersInfo), Knows N info w₃ :=
            fun info hinfo => hknows info (hperm.mem_iff.mp hinfo)
          have hids : ((indexInfo ++ (swapInfo ++ othersInfo)).map fun info => info.record.id).Nodup :=
            (hperm.map _).nodup_iff.mpr hnodup
          refine Safe.bind ((traced_commitRecords (K := swapInfo ++ othersInfo) ?_ ?_ ?_).mono fun x w₄ _ hx => ?_)
          · intro i hi
            obtain ⟨info, hinfo, rfl⟩ := List.mem_map.mp hi
            refine ⟨hall info (List.mem_append_left _ hinfo), fun r hr => ?_⟩
            cases hr
          · exact fun k hk => hall k (List.mem_append_right _ hk)
          · rw [map_fst_pair]
            exact hids
          cases x with
          | error err => trivial
          | ok indexIds =>
              -- the recovery in between writes nothing, and what it returns names the swaps that it was given
              have hwithin : (handleRecovery sdk swapInfo).Within (fun f => ∀ w, (f w).db = w.db) Call.Quiet := by
                exact within_handleRecovery (fun _ => rfl) (fun _ _ _ => rfl) (fun _ hq => hq) swapInfo
              refine Safe.bind (((traced_reading hwithin w₄).yields (handleRecovery_names swapInfo)).mono
                fun y w₅ _ hy => ?_)
              obtain ⟨hnames, hstate⟩ := hy
              cases y with
              | error err => trivial
              | ok recovered =>
                  obtain ⟨hsub, hnames⟩ := hnames recovered rfl
                  have hknown : ∀ k ∈ swapInfo ++ othersInfo, Knows N k w₅ :=
                    fun k hk => (hx k hk).of_syncState hstate
                  refine Safe.bind ((traced_commitRecords (K := othersInfo) ?_ ?_ ?_).mono fun x w₆ _ hx => ?_)
                  · intro i hi
                    have hmem : i.1 ∈ swapInfo := hsub.subset (List.mem_map_of_mem hi)
                    exact ⟨hknown _ (List.mem_append_left _ hmem), hnames i hi⟩
                  · exact fun k hk => hknown k (List.mem_append_right _ hk)
                  · rw [List.map_append] at hids
                    exact (List.nodup_append.mp hids).2.1.sublist
                      ((hsub.append (List.Sublist.refl othersInfo)).map _)
                  cases x with
                  | error err => trivial
                  | ok swapIds =>
                      refine Safe.bind ((traced_commitRecords (K := []) ?_
                        (fun k hk => absurd hk List.not_mem_nil) ?_).mono fun x w₇ _ _ => ?_)
                      · intro i hi
                        obtain ⟨info, hinfo, rfl⟩ := List.mem_map.mp hi
                        refine ⟨hx info hinfo, fun r hr => ?_⟩
                        cases hr
                      · have hothers : (othersInfo.map fun info => info.record.id).Nodup := by
                          rw [← List.append_assoc, List.map_append] at hids
                          exact (List.nodup_append.mp hids).2.1
                        rw [map_fst_pair, List.append_nil]
                        exact hothers
                      cases x with
                      | error err => trivial
                      | ok otherIds => exact traced_removeIncoming _ _

/-! ## Pushing -/

/-- What is loaded under the type of a swap is a swap in the tables. -/
theorem mem_allSwapIds_of_load {db : Db} {dataId : DataId} {recordType : RecordType} {data : SyncData}
    (h : db.loadSyncData dataId recordType = .ok data) (hswap : (swapType recordType).isSome) :
    (recordType, dataId) ∈ db.allSwapIds := by
  refine loadSyncData_mem_allSwapIds h ?_
  cases recordType with
  | receive =>
      obtain ⟨s, -, rfl⟩ := okOr_map_eq_ok.mp h
      rfl
  | send =>
      obtain ⟨s, -, rfl⟩ := okOr_map_eq_ok.mp h
      rfl
  | chain =>
      obtain ⟨s, -, rfl⟩ := okOr_map_eq_ok.mp h
      rfl
  | lastDerivationIndex => cases hswap
  | paymentDetails => cases hswap
  | bolt12Offer => cases hswap

/-- A push writes the flag it finds, or that of an own swap. -/
theorem traced_handlePush {recordId : RecordId} {dataId : DataId} {recordType : RecordType}
    (hbelongs : N.Belongs recordId recordType dataId) (w : World) :
    SafeOrigin N (handlePush sdk recordId dataId recordType) (fun _ _ => True) w := by
  refine safe_reads_bind (fun _ => trivial) fun w₁ _ _ => ?_
  refine safe_reads_bind (fun _ => trivial) fun w₂ hr₂ hi₂ => ?_
  dsimp only
  cases hdata : w₂.db.loadSyncData dataId recordType with
  | error err => exact fun _ _ _ => trivial
  | ok data =>
      dsimp only [Task.ofExcept, Task.bind_eq, Task.done_ok_bind]
      cases Record.make sdk.persister.codec data _ with
      | error err => exact fun _ _ _ => trivial
      | ok record =>
          intro w₃ hr₃ hi₃ reply _ _
          have hdb : ((syncSystem N).effect (.push record) reply w₃).db = w₃.db := effect_db sdk _ reply w₃
          refine ⟨?_, trivial, ?_⟩
          · show N.Traced ((syncSystem N).effect (.push record) reply w₃).db
            rw [hdb]
            exact hi₃
          · cases reply with
            | error err => exact fun _ _ _ => trivial
            | ok reply =>
                obtain ⟨status, revision⟩ := reply
                cases status with
                | conflict => exact fun _ _ _ => trivial
                | success =>
                    intro w₄ hr₄ hi₄ _
                    refine ⟨?_, trivial, fun _ _ _ => trivial⟩
                    -- other tasks write no sync state during the push
                    have hstate : w₄.db.syncState = w₂.db.syncState := by
                      have hr₄ : w₄.db.syncState = _ := hr₄
                      rw [hr₄, hdb]
                      exact hr₃
                    refine Naming.Traced.setSyncState hi₄ rfl rfl rfl (fun e he => .inl he) hbelongs fun hswap => ?_
                    have hfind : w₂.db.getSyncStateByRecordId recordId = w₁.db.getSyncStateByRecordId recordId := by
                      unfold Db.getSyncStateByRecordId
                      rw [hr₂]
                    dsimp only
                    rw [← hfind]
                    cases hfound : w₂.db.getSyncStateByRecordId recordId with
                    | some s => exact Naming.Traced.of_find hi₂ hbelongs hswap hfound
                    -- no state is found, so the record was never pulled or pushed and the swap is an own one
                    | none =>
                        rw [hbelongs.kind_eq] at hswap
                        obtain ⟨-, hcreated⟩ := hi₂.rows _ (mem_allSwapIds_of_load hdata hswap)
                        rw [← hbelongs.kind_eq] at hswap
                        simpa using hcreated (Naming.Traced.get?_eq_none hi₂ hbelongs hswap hfound)

theorem traced_pushChanges {changes : List SyncOutgoingChanges}
    (hbelongs : ∀ c ∈ changes, N.Belongs c.recordId c.recordType c.dataId) (w : World) :
    SafeOrigin N (pushChanges sdk changes) (fun _ _ => True) w := by
  induction changes generalizing w with
  | nil => exact fun _ _ _ => trivial
  | cons c changes ih =>
      refine Safe.bind (Safe.attempt ((traced_handlePush (hbelongs c List.mem_cons_self) w).mono fun res w₁ _ _ => ?_))
      refine Safe.bind ((ih (fun c' hc' => hbelongs c' (List.mem_cons_of_mem _ hc')) w₁).mono fun x w₂ _ _ => ?_)
      cases x with
      | error err => trivial
      | ok out =>
          dsimp only
          split
          · exact fun _ _ _ => trivial
          · exact fun _ _ _ => trivial
          · exact fun _ _ _ => trivial

/-- **A push** keeps the flags right. -/
theorem traced_push (w : World) : SafeOrigin N (push sdk) (fun _ _ => True) w := by
  refine safe_reads_bind (fun _ => trivial) fun w₁ _ hi₁ => ?_
  refine Safe.bind ((traced_pushChanges hi₁.outgoing w₁).mono fun x w₂ _ _ => ?_)
  cases x with
  | error err => trivial
  | ok out =>
      obtain ⟨succeded, recoverableErrors⟩ := out
      have hrest : ∀ w, SafeOrigin N (if succeded.length ≠ w₁.db.getSyncOutgoingChanges.length - recoverableErrors then
          (Task.throw (.excessiveRecordConflicts succeded.length w₁.db.getSyncOutgoingChanges.length
            recoverableErrors) : Async Nat)
        else return succeded.length) (fun _ _ => True) w := by
        intro w
        split
        · exact fun _ _ _ => trivial
        · exact fun _ _ _ => trivial
      dsimp only
      split
      · intro w₃ _ hi₃ _
        refine ⟨?_, trivial, hrest _⟩
        exact ⟨hi₃.states, hi₃.rows, hi₃.incoming, fun c hc => hi₃.outgoing c (List.mem_of_mem_filter hc)⟩
      · exact hrest w₂

/-! ## Starting over -/

theorem allSwapIds_of_sameItems {db db' : Db} (h : SameItems db db') : db'.allSwapIds = db.allSwapIds := by
  obtain ⟨hsend, hreceive, hchain, -⟩ := h
  unfold Db.allSwapIds
  rw [hsend, hreceive, hchain]

/-- Dropping the sync states keeps the flags right while all swaps were created here. -/
theorem Naming.Traced.startsOver {db db' : Db} {now : Nat} (h : N.Traced db)
    (hstarts : StartsOver sdk.persister now db db') (hown : ∀ e ∈ db.allSwapIds, N.createdHere e.2) :
    N.Traced db' := by
  obtain ⟨hsame, hqueue⟩ := hstarts.queue
  obtain ⟨hstate, hincoming⟩ := startsOver_syncTables hstarts
  constructor
  · intro s hs
    rw [hstate] at hs
    exact absurd hs List.not_mem_nil
  · intro e he
    rw [allSwapIds_of_sameItems hsame] at he
    exact ⟨(h.rows e he).1, fun _ => hown e he⟩
  · intro record hrecord
    rw [hincoming] at hrecord
    exact absurd hrecord List.not_mem_nil
  · intro c hc
    obtain ⟨e, he, rfl⟩ := (hqueue c).mp hc
    refine ⟨rfl, ?_⟩
    show N.kind e.2 = swapType e.1
    obtain ⟨hkind, -⟩ := h.rows e he
    rw [hkind]
    rcases mem_allSwapIds.mp he with ⟨ht, -⟩ | ⟨ht, -⟩ | ⟨ht, -⟩
    · rw [ht]
      rfl
    · rw [ht]
      rfl
    · rw [ht]
      rfl

/-- All swaps without a sync state were created here. -/
theorem Naming.Traced.created_of_empty {db : Db} (h : N.Traced db) (hempty : db.syncState = ∅) :
    ∀ e ∈ db.allSwapIds, N.createdHere e.2 := by
  intro e he
  refine (h.rows e he).2 ?_
  rw [hempty]
  rfl

theorem traced_startOver {f : Nat → Db → Except Err Db}
    (hf : ∀ now db db', f now db = .ok db' → StartsOver sdk.persister now db db') (w : World) :
    SafeOrigin N (tryWrite f) (fun _ _ => True) w := by
  intro w₁ _ hi hc
  refine ⟨?_, trivial, fun _ _ _ => trivial⟩
  rcases World.tryWrite_cases f w₁ with ⟨db, hdb, hw⟩ | hw
  · rw [hw] at hc ⊢
    have hstarts := hf _ _ _ hdb
    refine Naming.Traced.startsOver hi hstarts ?_
    by_cases hempty : w₁.db.syncState = ∅
    · exact Naming.Traced.created_of_empty hi hempty
    · exact hc.2 (startsOver_syncTables hstarts).1 hempty
  · rw [hw]
    exact hi

/-! ## Runs -/

theorem traced_syncTask {t : Async Unit} (ht : SyncTask sdk t) (w : World) : SafeOrigin N t (fun _ _ => True) w := by
  cases ht with
  | pull =>
      refine Safe.bind ((traced_pull w).mono fun x w₁ _ _ => ?_)
      cases x with
      | error err => trivial
      | ok n => exact fun _ _ _ => trivial
  | push =>
      refine Safe.bind ((traced_push w).mono fun x w₁ _ _ => ?_)
      cases x with
      | error err => trivial
      | ok n => exact fun _ _ _ => trivial
  | resetSync => exact traced_startOver (fun _ _ _ h => .inl h) w
  | checkRemoteChange =>
      refine safe_reads_bind (fun _ => trivial) fun w₁ _ _ => ?_
      split
      · exact fun _ _ _ => trivial
      · exact traced_startOver (fun _ _ _ h => .inr ⟨sdk.remoteUrl, h⟩) w₁

theorem origin_sound : Sound (syncSystem N) (KnowsOwn N) (originProtocol N) fun _ _ => False where
  compat r r' h := by
    rcases h with h | h
    · exact absurd rfl h
    · exact h.elim
  spawn roles s r t h _ _ _ := by
    obtain ⟨rfl, ht⟩ := h
    exact ⟨nofun, traced_syncTask ht s⟩
  abort _ _ _ _ := trivial
  env w w' h hi _ := by
    refine ⟨⟨?_, ?_, ?_, ?_⟩, fun _ => h.syncState⟩
    · intro s hs
      rw [h.syncState] at hs
      exact hi.states s hs
    · intro e he
      rw [h.syncState]
      rcases h.created e he with he | ⟨hkind, hcreated⟩
      · exact hi.rows e he
      · exact ⟨hkind, fun _ => hcreated⟩
    · intro record hrecord
      rw [h.syncIncoming] at hrecord
      exact hi.incoming record hrecord
    · intro c hc
      rcases h.queued c hc with hc | hc
      · exact hi.outgoing c hc
      · exact hc

/-- The start-up sweep times out a created send swap exactly if its flag is set. -/
theorem swept_iff {db : Db} {now : Nat} {s : SendSwap} (hs : s ∈ db.sendSwaps.rows) (hcreated : s.state = .created) :
    ((db.updateSendSwapsByState now .created .timedOut (some true)).sendSwaps.get? s.id).map SendSwap.state =
      some .timedOut ↔ db.isLocal s.id = true := by
  have hget : db.sendSwaps.get? s.id = some s := Table.get?_of_mem hs
  unfold Db.updateSendSwapsByState
  rw [Db.get?_updateSendSwaps, hget, Option.map_some, Option.map_some]
  cases hlocal : db.isLocal s.id with
  | true => simp [hcreated]
  | false => simp [hcreated]

/-- In every run of pushes, pulls and resets of a new wallet, among local writes, in which no own swap is written
without its sync state being known and nothing is reset while there are swaps of other devices: a swap reads as
local exactly if it was created on this device, the start-up sweep times out these ones, and these are the ones on
whose pending claims the handler of status updates cooperates. -/
theorem isLocal_iff_createdHere {w : World} {c : Pool World Call Call.Answer Err Unit} (hw : w.db = {})
    (hrun : Runs (syncSystem N) (KnowsOwn N) ⟨w, []⟩ c) :
    (∀ e ∈ c.state.db.allSwapIds, c.state.db.isLocal e.2 = true ↔ N.createdHere e.2) ∧
      (∀ now, ∀ s ∈ c.state.db.sendSwaps.rows, s.state = .created →
        (((c.state.db.updateSendSwapsByState now .created .timedOut (some true)).sendSwaps.get? s.id).map
          SendSwap.state = some .timedOut ↔ N.createdHere s.id)) ∧
      ∀ update swap, Send.CooperatesOn sdk update c.state swap ↔
        sdk.bz.subSwapStates update.status = some .transactionClaimPending ∧
          c.state.db.fetchSendSwapById update.id = some swap ∧ N.createdHere swap.id := by
  have hnew : N.Traced w.db := by
    rw [hw]
    exact ⟨nofun, nofun, nofun, nofun⟩
  have hkept : Kept (syncSystem N) (KnowsOwn N) (originProtocol N) (fun _ _ => False) ⟨w, []⟩ :=
    ⟨hnew, List.Pairwise.nil, nofun, fun _ _ => trivial⟩
  -- all three parts come from the flags of the rows
  have htraced := (Runs.keep origin_sound hkept hrun).inv
  have hsend : ∀ s ∈ c.state.db.sendSwaps.rows, c.state.db.isLocal s.id = true ↔ N.createdHere s.id := fun s hs =>
    Naming.Traced.isLocal_iff (e := (.send, s.id)) htraced
      (mem_allSwapIds.mpr (.inr (.inl ⟨rfl, List.mem_map_of_mem hs⟩)))
  refine ⟨fun e he => Naming.Traced.isLocal_iff htraced he, fun now s hs hcreated => ?_, fun update swap => ?_⟩
  · rw [swept_iff hs hcreated]
    exact hsend s hs
  · rw [Send.cooperatesOn_iff]
    refine and_congr_right fun _ => and_congr_right fun hfetch => ?_
    obtain ⟨row, hrow, rfl⟩ := Db.fetchSendSwapById_eq_some hfetch
    exact hsend row (Table.mem_of_get? hrow)

end Service

/-! ## An own swap that comes back -/

/-- The ids of a table codec tell the types and the data ids. -/
theorem table_recordId_injective (payload : String → Option SyncData) (t : RecordType) (d : DataId)
    (t' : RecordType) (d' : DataId) (h : Record.getIdFromRecordType (.table payload) t d =
      Record.getIdFromRecordType (.table payload) t' d') : t = t' ∧ d = d' := by
  have hsep : ∀ t, ':' ∉ (Record.recordPrefix t).toList := by
    intro t
    cases t <;> decide
  have hchars : (Record.recordPrefix t).toList ++ ':' :: d.toList =
      (Record.recordPrefix t').toList ++ ':' :: d'.toList := by
    have hlist := congrArg String.toList h
    simpa [Record.getIdFromRecordType, SyncCodec.table, String.toList_append] using hlist
  obtain ⟨hkinds, hdata⟩ := Collections.append_separator_inj (hsep t) (hsep t') hchars
  refine ⟨?_, String.toList_injective hdata⟩
  revert hkinds
  cases t <;> cases t' <;> decide

def ownData : SendSyncData :=
  .ofSwap { id := "s", invoice := "invoice" }

def foreignData : SendSyncData :=
  .ofSwap { id := "f", invoice := "foreign invoice", timeoutBlockHeight := 100 }

def originSdk : Sdk where
  bz := .byAddress 0
  persister := { codec := .table fun text =>
    if text = "s" then some (.send ownData) else if text = "f" then some (.send foreignData) else none }

/-- The swaps are `s` of this device, and `f` of another one. -/
def originNaming : Naming originSdk.persister.codec where
  kind d := if d = "s" ∨ d = "f" then some .send else none
  createdHere d := d = "s"
  recordId_injective := table_recordId_injective _

/-- The wallet has created the swap. -/
def swapCreated : World where
  db := { sendSwaps := (∅ : Table SendSwap.id).insertNew { id := "s", invoice := "invoice" }
          syncOutgoing := (∅ : Table SyncOutgoingChanges.recordId).insertNew
            { recordId := "send-swap:s", dataId := "s", recordType := .send, commitTime := 0 } }

/-- The swap was pushed, but the reply was lost; the record is pulled. -/
def lostReplyAnswers : Nat → (q : Call) → q.Answer
  | _, .pull _ => .ok [{ id := "send-swap:s", revision := 1, data := "s" }]
  | _, .liquidTip => .ok 0
  | _, .transactionsByTxId => .ok []
  | _, .liquidScriptsHistory scripts => .ok (scripts.map fun _ => [])
  | _, q => q.offline

theorem createsSwap : LocalTraced originNaming {} swapCreated where
  syncState := rfl
  syncIncoming := rfl
  created e he := by
    have hids : swapCreated.db.allSwapIds = [(.send, "s")] := by decide +kernel
    rw [hids, List.mem_singleton] at he
    subst he
    exact .inr ⟨rfl, rfl⟩
  queued c hc := by
    have hrows : swapCreated.db.syncOutgoing.rows =
        [{ recordId := "send-swap:s", dataId := "s", recordType := .send, commitTime := 0 }] := by decide +kernel
    rw [hrows, List.mem_singleton] at hc
    subst hc
    exact .inr ⟨by decide, rfl⟩

theorem lostReplyAnswers_authentic (n : Nat) (q : Call) (w : World) :
    (syncSystem originNaming).answers q (lostReplyAnswers n q) w := by
  cases q with
  | pull revision =>
      intro record hrecord data hdata
      rw [List.mem_singleton.mp hrecord] at hdata ⊢
      have heq : data = .send ownData := by
        have hdata : Except.ok (SyncData.send ownData) = .ok data := hdata
        cases hdata
        rfl
      rw [heq]
      exact ⟨by decide, by decide⟩
  | _ => trivial

/-- The wallet creates a swap, pushes it without getting the reply, and pulls. -/
def ownPulled : World :=
  (((pull originSdk).bind fun _ => .done (.ok ())).run (World.effect originSdk) lostReplyAnswers
    (0, (((push originSdk).bind fun _ => .done (.ok ())).run (World.effect originSdk) lostReplyAnswers
      (0, swapCreated)).2.2)).2.2

/-- After a lost reply, an own swap reads as another device's. -/
theorem ownPulled_notLocal : ∃ c, Runs (syncSystem originNaming) .any ⟨{}, []⟩ c ∧
    ∃ e ∈ c.state.db.allSwapIds, originNaming.createdHere e.2 ∧ c.state.db.isLocal e.2 = false := by
  have hcreate : Runs (syncSystem originNaming) .any ⟨{}, []⟩ ⟨swapCreated, []⟩ :=
    .single ⟨.env, .env createsSwap, trivial⟩
  have hall : ∀ (t : Async Unit) w, t.Steps (syncSystem originNaming).effect lostReplyAnswers
      ((Cond.any : Cond World Unit) (.own ())) w :=
    fun t w => Task.steps_of_forall _ _ (fun _ _ => trivial) t w
  have hpush := runs_spawn_answers (C := .any) lostReplyAnswers_authentic (s := swapCreated) (r := ())
    ⟨rfl, SyncTask.push⟩ (fun _ => ⟨trivial, trivial⟩) (hall _ _)
  have hpull := runs_spawn_answers (C := .any) lostReplyAnswers_authentic
    (s := (((push originSdk).bind fun _ => .done (.ok ())).run (World.effect originSdk) lostReplyAnswers
      (0, swapCreated)).2.2) (r := ()) ⟨rfl, SyncTask.pull⟩ (fun _ => ⟨trivial, trivial⟩) (hall _ _)
  refine ⟨_, (hcreate.trans hpush).trans hpull, (.send, "s"), ?_, rfl, ?_⟩
  · show (RecordType.send, "s") ∈ ownPulled.db.allSwapIds
    decide +kernel
  · show ownPulled.db.isLocal "s" = false
    decide +kernel

/-- The remote accepts the swap, and has one of another device. -/
def originAnswers : Nat → (q : Call) → q.Answer
  | _, .push _ => .ok ⟨.success, 1⟩
  | _, .pull _ => .ok [{ id := "send-swap:f", revision := 2, data := "f" }]
  | _, .liquidTip => .ok 0
  | _, .transactionsByTxId => .ok []
  | _, .liquidScriptsHistory scripts => .ok (scripts.map fun _ => [])
  | _, q => q.offline

theorem originAnswers_authentic (n : Nat) (q : Call) (w : World) :
    (syncSystem originNaming).answers q (originAnswers n q) w := by
  cases q with
  | pull revision =>
      intro record hrecord data hdata
      rw [List.mem_singleton.mp hrecord] at hdata ⊢
      have heq : data = .send foreignData := by
        have hdata : Except.ok (SyncData.send foreignData) = .ok data := hdata
        cases hdata
        rfl
      rw [heq]
      exact ⟨by decide, by decide⟩
  | _ => trivial

/-- Only the swap of the other device is pulled, and no sync state is dropped. -/
def keepsStates (w w' : World) : Bool :=
  (w.db.syncState.rows.isEmpty || !w'.db.syncState.rows.isEmpty) && w'.trace.all fun e =>
    match e with
    | .incomingCommitted recordId _ => recordId == "send-swap:f"
    | _ => true

theorem knowsOwn_of_keepsStates {w w' : World} (h : keepsStates w w' = true) :
    KnowsOwn originNaming (.own ()) w w' := by
  unfold keepsStates at h
  rw [Bool.and_eq_true, List.all_eq_true] at h
  obtain ⟨hstates, htrace⟩ := h
  constructor
  · rintro recordId commits ⟨newer, heq, hmem⟩ t d hbelongs _ hcreated
    have hforeign : recordId = "send-swap:f" := by
      have hall := htrace (.incomingCommitted recordId commits) (by
        rw [heq]
        exact List.mem_append_left _ hmem)
      simpa using hall
    -- the record of `f` is not one of `s`
    have hname : Record.getIdFromRecordType originSdk.persister.codec .send "f" =
        Record.getIdFromRecordType originSdk.persister.codec t d := by
      rw [← hbelongs.recordId_eq, hforeign]
      decide
    obtain ⟨-, rfl⟩ := originNaming.recordId_injective _ _ _ _ hname
    exact absurd (show "f" = "s" from hcreated) (by decide)
  · intro hempty hne
    rw [hempty] at hstates
    have hrows : w.db.syncState.rows = [] := by
      have hnew : (∅ : Table SyncState.dataId).rows = [] := rfl
      rw [hnew] at hstates
      simpa using hstates
    refine absurd ?_ hne
    cases hstate : w.db.syncState with
    | mk rows nodup =>
        rw [hstate] at hrows
        cases hrows
        rfl

/-- The wallet creates a swap and pushes it. -/
def ownPushed : World :=
  (((push originSdk).bind fun _ => .done (.ok ())).run (World.effect originSdk) originAnswers (0, swapCreated)).2.2

/-- Then it pulls the swap of the other device. -/
def foreignPulled : World :=
  (((pull originSdk).bind fun _ => .done (.ok ())).run (World.effect originSdk) originAnswers (0, ownPushed)).2.2

/-- The swap that was created and pushed reads as local and is timed out by the sweep, the pulled one is not; the
wallet cooperates on the claim of the first one only. -/
theorem isLocal_iff_createdHere_pulled :
    foreignPulled.db.isLocal "s" = true ∧ ¬ foreignPulled.db.isLocal "f" = true ∧
      (((foreignPulled.db.updateSendSwapsByState 5 .created .timedOut (some true)).sendSwaps.get? "s").map
        SendSwap.state = some .timedOut) ∧
      ¬ (((foreignPulled.db.updateSendSwapsByState 5 .created .timedOut (some true)).sendSwaps.get? "f").map
        SendSwap.state = some .timedOut) ∧
      ∀ update swap, Send.CooperatesOn originSdk update foreignPulled swap → swap.id = "s" := by
  have hall : ∀ {t : Async Unit} {w : World}, t.Steps (syncSystem originNaming).effect originAnswers
      (fun w w' => keepsStates w w' = true) (0, w) → t.Steps (syncSystem originNaming).effect originAnswers
        (KnowsOwn originNaming (.own ())) (0, w) := fun h =>
    Task.Steps.mono _ _ h fun w w' hkeeps => knowsOwn_of_keepsStates hkeeps
  have hcreate : Runs (syncSystem originNaming) (KnowsOwn originNaming) ⟨{}, []⟩ ⟨swapCreated, []⟩ :=
    .single ⟨.env, .env createsSwap, trivial⟩
  have hpush := runs_spawn_answers (C := KnowsOwn originNaming) originAnswers_authentic (s := swapCreated) (r := ())
    ⟨rfl, SyncTask.push⟩ (fun _ => ⟨trivial, trivial⟩) (hall (by decide +kernel))
  have hpull := runs_spawn_answers (C := KnowsOwn originNaming) originAnswers_authentic (s := ownPushed) (r := ())
    ⟨rfl, SyncTask.pull⟩ (fun _ => ⟨trivial, trivial⟩) (hall (by decide +kernel))
  obtain ⟨hlocal, hswept, hcooperates⟩ := isLocal_iff_createdHere rfl ((hcreate.trans hpush).trans hpull)
  have hforeign : ¬ originNaming.createdHere "f" := show ¬ "f" = "s" by decide
  have hids : foreignPulled.db.allSwapIds = [(.send, "s"), (.send, "f")] := by decide +kernel
  have hrows : foreignPulled.db.sendSwaps.rows.map (fun s => (s.id, s.state)) =
      [("s", .created), ("f", .created)] := by decide +kernel
  have hrow : ∀ id, (id, PaymentState.created) ∈ foreignPulled.db.sendSwaps.rows.map (fun s => (s.id, s.state)) →
      (((foreignPulled.db.updateSendSwapsByState 5 .created .timedOut (some true)).sendSwaps.get? id).map
        SendSwap.state = some .timedOut ↔ originNaming.createdHere id) := by
    intro id hid
    obtain ⟨s, hs, heq⟩ := List.mem_map.mp hid
    obtain rfl : s.id = id := congrArg Prod.fst heq
    exact hswept 5 s hs (congrArg Prod.snd heq)
  refine ⟨(hlocal (.send, "s") ?_).mpr rfl, fun h => hforeign ((hlocal (.send, "f") ?_).mp h), (hrow "s" ?_).mpr rfl,
    fun h => hforeign ((hrow "f" ?_).mp h), fun update swap h => ((hcooperates update swap).mp h).2.2⟩
  · show (RecordType.send, "s") ∈ foreignPulled.db.allSwapIds
    rw [hids]
    exact List.mem_cons_self
  · show (RecordType.send, "f") ∈ foreignPulled.db.allSwapIds
    rw [hids]
    exact List.mem_cons_of_mem _ List.mem_cons_self
  · rw [hrows]
    exact List.mem_cons_self
  · rw [hrows]
    exact List.mem_cons_of_mem _ List.mem_cons_self

end BreezLiquid.Sync
