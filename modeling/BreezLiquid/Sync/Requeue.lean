/-
# BreezLiquid.Sync.Requeue — what is queued after starting over with a remote.

A reset, or a new remote, empties the sync tables and queues all swaps again. Payment details, offers and
the last derivation index are pushed as well, but are not queued again, so a following push leaves them out.

`AllQueued` says that every item that can be loaded for a push is queued. After starting over this is so exactly if all
items are swaps. The second half executes a push in which the server accepts every record: what was queued is then held
by the remote with the data it has here.
-/
import BreezLiquid.Sync.Service

namespace BreezLiquid.Sync

open Interleaving Tables

/-! ## Queued items -/

/-- The data is queued, under the record id the remote has for it. -/
def Queued (p : Persister) (db : Db) (data : SyncData) : Prop :=
  ∃ changes, db.syncOutgoing.get? (Record.getIdFromSyncData p.codec data) = some changes ∧
    changes.dataId = data.id ∧ changes.recordType = data.recordType

/-- All local items are queued: whatever `load_sync_data` finds. -/
def AllQueued (p : Persister) (db : Db) : Prop :=
  ∀ dataId recordType data, db.loadSyncData dataId recordType = .ok data → Queued p db data

/-- There is nothing to push besides swaps. -/
def OnlySwaps (db : Db) : Prop :=
  db.paymentDetails.rows = [] ∧ db.bolt12Offers.rows = [] ∧ db.lastDerivationIndex = none

/-- The database after a reset, or after switching to a remote. -/
def StartsOver (p : Persister) (now : Nat) (db db' : Db) : Prop :=
  db.resetSync p now = .ok db' ∨ ∃ remoteUrl, db.setNewRemote p now remoteUrl = .ok db'

/-- A swap as it is queued again. -/
def requeued (p : Persister) (now : Nat) (e : RecordType × DataId) : SyncOutgoingChanges where
  recordId := Record.getIdFromRecordType p.codec e.1 e.2
  dataId := e.2
  recordType := e.1
  commitTime := now

/-- The items are the same in both databases. -/
def SameItems (db db' : Db) : Prop :=
  db'.sendSwaps = db.sendSwaps ∧ db'.receiveSwaps = db.receiveSwaps ∧ db'.chainSwaps = db.chainSwaps ∧
    db'.paymentDetails = db.paymentDetails ∧ db'.bolt12Offers = db.bolt12Offers ∧
    db'.lastDerivationIndex = db.lastDerivationIndex

theorem mem_insertNew {ρ κ : Type} [DecidableEq κ] {key : ρ → κ} {t : Table key} {r r' : ρ}
    (h : key r ∉ t.rows.map key) : r' ∈ (t.insertNew r).rows ↔ r' ∈ t.rows ∨ r' = r := by
  unfold Table.insertNew
  rw [dif_neg h, List.mem_append, List.mem_singleton]

section Enqueue

variable {p : Persister} {now : Nat}

theorem enqueueSwap_ok {e : RecordType × DataId} {db db' : Db} (h : db.enqueueSwap p now e = .ok db') :
    SameItems db db' ∧
      ∀ c, c ∈ db'.syncOutgoing.rows ↔ c ∈ db.syncOutgoing.rows ∨ c = requeued p now e := by
  unfold Db.enqueueSwap at h
  dsimp only at h
  split at h
  · cases h
  · rename_i hfree
    cases h
    refine ⟨⟨rfl, rfl, rfl, rfl, rfl, rfl⟩, fun c => mem_insertNew fun hmem => hfree ?_⟩
    obtain ⟨c', hc', hid⟩ := List.mem_map.mp hmem
    refine List.any_eq_true.mpr ⟨c', hc', ?_⟩
    simp [hid]

theorem enqueueSwaps_ok {l : List (RecordType × DataId)} {db db' : Db}
    (h : l.foldlM (fun db e => db.enqueueSwap p now e) db = .ok db') :
    SameItems db db' ∧
      ∀ c, c ∈ db'.syncOutgoing.rows ↔ c ∈ db.syncOutgoing.rows ∨ ∃ e ∈ l, c = requeued p now e := by
  induction l generalizing db with
  | nil =>
      cases h
      exact ⟨⟨rfl, rfl, rfl, rfl, rfl, rfl⟩, fun c => by simp⟩
  | cons e l ih =>
      rw [List.foldlM_cons] at h
      obtain ⟨db₁, hfirst, hrest⟩ := except_bind_eq_ok.mp h
      obtain ⟨⟨h₁, h₂, h₃, h₄, h₅, h₆⟩, hmem⟩ := enqueueSwap_ok hfirst
      obtain ⟨⟨h₁', h₂', h₃', h₄', h₅', h₆'⟩, hmem'⟩ := ih hrest
      refine ⟨⟨h₁'.trans h₁, h₂'.trans h₂, h₃'.trans h₃, h₄'.trans h₄, h₅'.trans h₅, h₆'.trans h₆⟩, ?_⟩
      intro c
      rw [hmem', hmem]
      simp only [List.mem_cons, exists_eq_or_imp, or_assoc]

/-- After starting over, exactly the swaps are queued. -/
theorem StartsOver.queue {db db' : Db} (h : StartsOver p now db db') :
    SameItems db db' ∧
      ∀ c, c ∈ db'.syncOutgoing.rows ↔ ∃ e ∈ db.allSwapIds, c = requeued p now e := by
  have hinner : ∀ db', db.resetSyncInner p now = .ok db' → SameItems db db' ∧
      ∀ c, c ∈ db'.syncOutgoing.rows ↔ ∃ e ∈ db.allSwapIds, c = requeued p now e := by
    intro db' h
    obtain ⟨hsame, hmem⟩ := enqueueSwaps_ok h
    refine ⟨hsame, fun c => ?_⟩
    rw [hmem]
    constructor
    · rintro (hnone | hc)
      · exact absurd hnone List.not_mem_nil
      · exact hc
    · exact Or.inr
  rcases h with h | ⟨remoteUrl, h⟩
  · exact hinner db' h
  · obtain ⟨db₁, hreset, h⟩ := except_bind_eq_ok.mp h
    cases h
    exact hinner db₁ hreset

end Enqueue

/-! ## What is loaded -/

/-- Without other items, what is loaded is a swap. -/
theorem isSwap_of_onlySwaps {db : Db} (honly : OnlySwaps db) {dataId : DataId} {recordType : RecordType}
    {data : SyncData} (h : db.loadSyncData dataId recordType = .ok data) : data.isSwap = true := by
  cases recordType with
  | receive =>
      obtain ⟨s, -, rfl⟩ := okOr_map_eq_ok.mp h
      rfl
  | send =>
      obtain ⟨s, -, rfl⟩ := okOr_map_eq_ok.mp h
      rfl
  | chain =>
      obtain ⟨s, -, rfl⟩ := okOr_map_eq_ok.mp h
      rfl
  | lastDerivationIndex =>
      obtain ⟨index, hindex, -⟩ := okOr_map_eq_ok.mp h
      rw [honly.2.2] at hindex
      cases hindex
  | paymentDetails =>
      obtain ⟨details, hdetails, -⟩ := okOr_map_eq_ok.mp h
      have hmem := Table.mem_of_get? hdetails
      rw [honly.1] at hmem
      cases hmem
  | bolt12Offer =>
      obtain ⟨offer, hoffer, -⟩ := okOr_map_eq_ok.mp h
      have hmem := Table.mem_of_get? hoffer
      rw [honly.2.1] at hmem
      cases hmem

/-- A swap that is loaded is in one of the tables. -/
theorem loadSyncData_mem_allSwapIds {db : Db} {dataId : DataId} {recordType : RecordType} {data : SyncData}
    (h : db.loadSyncData dataId recordType = .ok data) (hswap : data.isSwap = true) :
    (recordType, dataId) ∈ db.allSwapIds := by
  unfold Db.allSwapIds
  cases recordType with
  | receive =>
      obtain ⟨s, hs, rfl⟩ := okOr_map_eq_ok.mp h
      obtain ⟨row, hrow, rfl⟩ := Db.fetchReceiveSwapById_eq_some hs
      have hid : row.id = dataId := Table.get?_some_key hrow
      refine List.mem_append_left _ (List.mem_append_left _ (List.mem_map.mpr ⟨row, Table.mem_of_get? hrow, ?_⟩))
      rw [hid]
  | send =>
      obtain ⟨s, hs, rfl⟩ := okOr_map_eq_ok.mp h
      obtain ⟨row, hrow, rfl⟩ := Db.fetchSendSwapById_eq_some hs
      have hid : row.id = dataId := Table.get?_some_key hrow
      refine List.mem_append_left _ (List.mem_append_right _ (List.mem_map.mpr ⟨row, Table.mem_of_get? hrow, ?_⟩))
      rw [hid]
  | chain =>
      obtain ⟨s, hs, rfl⟩ := okOr_map_eq_ok.mp h
      obtain ⟨row, hrow, rfl⟩ := Db.fetchChainSwapById_eq_some hs
      have hid : row.id = dataId := Table.get?_some_key hrow
      refine List.mem_append_right _ (List.mem_map.mpr ⟨row, Table.mem_of_get? hrow, ?_⟩)
      rw [hid]
  | lastDerivationIndex =>
      obtain ⟨a, -, rfl⟩ := okOr_map_eq_ok.mp h
      cases hswap
  | paymentDetails =>
      obtain ⟨a, -, rfl⟩ := okOr_map_eq_ok.mp h
      cases hswap
  | bolt12Offer =>
      obtain ⟨a, -, rfl⟩ := okOr_map_eq_ok.mp h
      cases hswap

/-- What is loaded of a swap does not depend on the sync state. -/
theorem SameItems.loadSyncData {db db' : Db} (h : SameItems db db') (dataId : DataId)
    (recordType : RecordType) : db'.loadSyncData dataId recordType = db.loadSyncData dataId recordType := by
  obtain ⟨hsend, hreceive, hchain, hdetails, hoffers, hindex⟩ := h
  cases recordType with
  | receive =>
      unfold Db.loadSyncData Db.fetchReceiveSwapById
      rw [hreceive]
      cases db.receiveSwaps.get? dataId <;> rfl
  | send =>
      unfold Db.loadSyncData Db.fetchSendSwapById
      rw [hsend]
      cases db.sendSwaps.get? dataId <;> rfl
  | chain =>
      unfold Db.loadSyncData Db.fetchChainSwapById
      rw [hchain]
      cases db.chainSwaps.get? dataId <;> rfl
  | lastDerivationIndex =>
      unfold Db.loadSyncData
      rw [hindex]
  | paymentDetails =>
      unfold Db.loadSyncData Db.getPaymentDetails
      rw [hdetails]
  | bolt12Offer =>
      unfold Db.loadSyncData Db.fetchBolt12OfferById
      rw [hoffers]

/-! ## A successful push -/

section Push

variable (sdk : Sdk)

/-- The remote has a record with the data. -/
def HeldByRemote (w : World) (data : SyncData) : Prop :=
  ∃ record ∈ (w.remotes sdk.remoteUrl).records,
    record.id = Record.getIdFromSyncData sdk.persister.codec data ∧
      sdk.persister.codec.encrypt data = .ok record.data

/-- The change is queued under the record id of its data. -/
def NamesRecord (db : Db) (changes : SyncOutgoingChanges) : Prop :=
  ∀ data, db.loadSyncData changes.dataId changes.recordType = .ok data →
    Record.getIdFromSyncData sdk.persister.codec data = changes.recordId

variable {sdk} (ans : Nat → (q : Call) → q.Answer)

theorem setRecord_records (url : String) (record : Record) (newRevision : Nat) (w : World) :
    ((w.setRecord url record newRevision).remotes url).records =
      { record with revision := newRevision } ::
        (w.remotes url).records.filter fun r => r.id ≠ record.id := by
  show (Function.update w.remotes url _ url).records = _
  rw [Function.update_self]

variable (sdk) in
/-- A push of one change ends with an error and changes nothing, or it is accepted. -/
theorem run_handlePush (recordId : RecordId) (dataId : DataId) (recordType : RecordType) (n : Nat)
    (w : World) :
    (∃ err m, (handlePush sdk recordId dataId recordType).run (World.effect sdk) ans (n, w) =
      (.error err, m, w)) ∨
    ∃ sent m w' data, (handlePush sdk recordId dataId recordType).run (World.effect sdk) ans (n, w) =
      (.ok sent, m, w') ∧ sent.recordId = recordId ∧ w.db.loadSyncData dataId recordType = .ok data ∧
      (∀ dataId recordType, w'.db.loadSyncData dataId recordType = w.db.loadSyncData dataId recordType) ∧
      HeldByRemote sdk w' data ∧
      ∀ record ∈ (w.remotes sdk.remoteUrl).records,
        record.id ≠ Record.getIdFromSyncData sdk.persister.codec data →
          record ∈ (w'.remotes sdk.remoteUrl).records := by
  unfold handlePush
  simp only [Task.bind_eq, Task.run_bind, run_fetch]
  cases hload : w.db.loadSyncData dataId recordType with
  | error err => exact .inl ⟨err, n, rfl⟩
  | ok data =>
      simp only [Task.run_ofExcept]
      cases hpayload : sdk.persister.codec.encrypt data with
      | error err =>
          refine .inl ⟨err, n, ?_⟩
          simp [Record.make, hpayload]
      | ok payload =>
          let revision := ((w.db.getSyncStateByRecordId recordId).map SyncState.recordRevision).getD 0
          let record : Record := { id := Record.getIdFromSyncData sdk.persister.codec data, revision, data := payload }
          have hmake : Record.make sdk.persister.codec data revision = .ok record := by
            simp [Record.make, hpayload, record]
          rw [show Record.make sdk.persister.codec data _ = .ok record from hmake]
          simp only [Task.askOk, Task.run_call]
          -- only an accepted record changes the remote, and it replaces none but that of its own id
          cases hreply : ans n (.push record) with
          | error err => exact .inl ⟨err, n + 1, rfl⟩
          | ok reply =>
              obtain ⟨status, newRevision⟩ := reply
              cases status with
              | conflict => exact .inl ⟨.recordConflict, n + 1, rfl⟩
              | success =>
                  refine .inr ⟨_, _, _, data, rfl, rfl, rfl, fun dataId recordType => ?_, ?_, ?_⟩
                  · refine SameItems.loadSyncData ?_ dataId recordType
                    exact ⟨rfl, rfl, rfl, rfl, rfl, rfl⟩
                  · refine ⟨{ record with revision := newRevision }, ?_, rfl, hpayload⟩
                    show _ ∈ ((w.setRecord sdk.remoteUrl record newRevision).remotes sdk.remoteUrl).records
                    rw [setRecord_records]
                    exact List.mem_cons_self
                  · intro other hother hne
                    show other ∈ ((w.setRecord sdk.remoteUrl record newRevision).remotes sdk.remoteUrl).records
                    rw [setRecord_records]
                    exact List.mem_cons_of_mem _ (List.mem_filter.mpr ⟨hother, decide_eq_true hne⟩)

/-- When all changes are pushed, the remote has the data of all of them: their record ids are different, so
none replaces the record of another. -/
theorem run_pushChanges (l : List SyncOutgoingChanges) (n : Nat) (w : World)
    (hnodup : (l.map SyncOutgoingChanges.recordId).Nodup) (hnames : ∀ c ∈ l, NamesRecord sdk w.db c) :
    ∃ succeded errors m w', (pushChanges sdk l).run (World.effect sdk) ans (n, w) =
        (.ok (succeded, errors), m, w') ∧ succeded.length ≤ l.length ∧
      (∀ dataId recordType, w'.db.loadSyncData dataId recordType = w.db.loadSyncData dataId recordType) ∧
      (∀ record ∈ (w.remotes sdk.remoteUrl).records, record.id ∉ l.map SyncOutgoingChanges.recordId →
        record ∈ (w'.remotes sdk.remoteUrl).records) ∧
      (succeded.length = l.length → ∀ c ∈ l, ∀ data,
        w.db.loadSyncData c.dataId c.recordType = .ok data → HeldByRemote sdk w' data) := by
  induction l generalizing n w with
  | nil =>
      refine ⟨[], 0, n, w, rfl, le_refl _, fun _ _ => rfl, fun record h _ => h, fun _ c hc => ?_⟩
      exact absurd hc List.not_mem_nil
  | cons c l ih =>
      obtain ⟨recordId, dataId, recordType, commitTime, updatedFields⟩ := c
      rw [List.map_cons, List.nodup_cons] at hnodup
      obtain ⟨hnotin, hnodup⟩ := hnodup
      have hnames' : ∀ c ∈ l, NamesRecord sdk w.db c := fun c hc => hnames c (List.mem_cons_of_mem _ hc)
      rcases run_handlePush sdk ans recordId dataId recordType n w with
        ⟨err, m, hpush⟩ | ⟨sent, m, w₁, data, hpush, -, hload, hloads, hheld, hkept⟩
      · -- nothing was sent, so not all changes are pushed
        obtain ⟨succeded, errors, m', w', hrun, hlength, hloads, hkept, -⟩ := ih m w hnodup hnames'
        have hrest : ∃ errors', (pushChanges sdk (⟨recordId, dataId, recordType, commitTime, updatedFields⟩ :: l)).run
            (World.effect sdk) ans (n, w) = (.ok (succeded, errors'), m', w') := by
          unfold pushChanges
          simp only [Task.bind_eq, Task.run_bind, Task.run_attempt, hpush, hrun]
          cases err with
          | recordConflict => exact ⟨errors, rfl⟩
          | _ => exact ⟨errors + 1, rfl⟩
        obtain ⟨errors', hrest⟩ := hrest
        refine ⟨succeded, errors', m', w', hrest, Nat.le_succ_of_le hlength, hloads, ?_, ?_⟩
        · intro record hrecord hid
          exact hkept record hrecord fun hmem => hid (List.mem_cons_of_mem _ hmem)
        · intro hall
          rw [List.length_cons] at hall
          omega
      · have hdata : Record.getIdFromSyncData sdk.persister.codec data = recordId :=
          hnames _ List.mem_cons_self data hload
        have hnames₁ : ∀ c ∈ l, NamesRecord sdk w₁.db c := by
          intro c hc data' hload'
          rw [hloads] at hload'
          exact hnames' c hc data' hload'
        obtain ⟨succeded, errors, m', w', hrun, hlength, hloads', hkept', hall⟩ := ih m w₁ hnodup hnames₁
        refine ⟨sent :: succeded, errors, m', w', ?_, Nat.succ_le_succ hlength, ?_, ?_, ?_⟩
        · unfold pushChanges
          simp only [Task.bind_eq, Task.run_bind, Task.run_attempt, hpush, hrun]
          rfl
        · intro dataId' recordType'
          exact (hloads' dataId' recordType').trans (hloads dataId' recordType')
        · intro record hrecord hid
          rw [List.map_cons, List.mem_cons, not_or] at hid
          exact hkept' record (hkept record hrecord (hdata ▸ hid.1)) hid.2
        · intro hlen c hc data' hload'
          rcases List.mem_cons.mp hc with rfl | hc
          · -- its record id is not among the others, so its record stays
            have hsame : data' = data := Except.ok.inj (hload'.symm.trans hload)
            obtain ⟨record, hrecord, hid, hpayload⟩ := hheld
            rw [hsame]
            refine ⟨record, hkept' record hrecord ?_, hid, hpayload⟩
            rw [hid, hdata]
            exact hnotin
          · refine hall (Nat.succ.inj hlen) c hc data' ?_
            rw [hloads]
            exact hload'

variable (sdk) in
/-- All queued changes are pushed when the device pushes. -/
def PushesAll (w : World) : Prop :=
  ((push sdk).run (World.effect sdk) ans (0, w)).1 = .ok w.db.syncOutgoing.rows.length

instance (w : World) : Decidable (PushesAll sdk ans w) :=
  inferInstanceAs (Decidable (((push sdk).run (World.effect sdk) ans (0, w)).1 = _))

theorem run_push {w : World} (h : PushesAll sdk ans w)
    (hnames : ∀ c ∈ w.db.syncOutgoing.rows, NamesRecord sdk w.db c) {c : SyncOutgoingChanges}
    (hc : c ∈ w.db.syncOutgoing.rows) {data : SyncData}
    (hload : w.db.loadSyncData c.dataId c.recordType = .ok data) :
    HeldByRemote sdk ((push sdk).run (World.effect sdk) ans (0, w)).2.2 data := by
  obtain ⟨succeded, errors, m, w', hrun, hlength, -, -, hall⟩ :=
    run_pushChanges ans w.db.syncOutgoing.rows 0 w w.db.syncOutgoing.nodup hnames
  unfold PushesAll push at h
  unfold push
  simp only [Task.bind_eq, Task.run_bind, run_fetch, Db.getSyncOutgoingChanges, hrun] at h ⊢
  -- the number that is returned is that of the changes that were sent
  by_cases hnumber : succeded.length = w.db.syncOutgoing.rows.length - errors
  · have hcount : succeded.length = w.db.syncOutgoing.rows.length := by
      simp only [hnumber, ne_eq, not_true_eq_false, if_false] at h
      split at h
      · exact hnumber.trans (Except.ok.inj h)
      · exact hnumber.trans (Except.ok.inj h)
    have hheld := hall hcount c hc data hload
    simp only [hnumber, ne_eq, not_true_eq_false, if_false]
    split
    · exact hheld
    · exact hheld
  · simp only [hnumber, ne_eq, not_false_eq_true, if_true] at h
    split at h
    · cases h
    · cases h

end Push

/-! ## The result -/

theorem swap_of_mem_allSwapIds {db : Db} {e : RecordType × DataId} (h : e ∈ db.allSwapIds) :
    e.1 = .receive ∨ e.1 = .send ∨ e.1 = .chain := by
  unfold Db.allSwapIds at h
  simp only [List.mem_append, List.mem_map] at h
  rcases h with (⟨s, -, rfl⟩ | ⟨s, -, rfl⟩) | ⟨s, -, rfl⟩
  · exact .inl rfl
  · exact .inr (.inl rfl)
  · exact .inr (.inr rfl)

section Results

variable (sdk : Sdk)

theorem namesRecord_requeued {now : Nat} {db db' : Db} (h : StartsOver sdk.persister now db db') :
    ∀ c ∈ db'.syncOutgoing.rows, NamesRecord sdk db' c := by
  intro c hc data hload
  obtain ⟨e, he, rfl⟩ := (h.queue.2 c).mp hc
  have hindex : e.1 ≠ .lastDerivationIndex := by
    rcases swap_of_mem_allSwapIds he with h | h | h <;> rw [h] <;> decide
  unfold Record.getIdFromSyncData
  rw [Db.loadSyncData_recordType hload, Db.loadSyncData_id hload hindex]
  rfl

/-- **Starting over.** After a reset of the sync tables or a switch to another remote, all local items are
queued, each under its record id, exactly when there are no other items than swaps. Then a push of all that
is queued makes the remote hold the data of all items. -/
theorem allQueued_iff (now : Nat) (db db' : Db) (h : StartsOver sdk.persister now db db') :
    (AllQueued sdk.persister db' ↔ OnlySwaps db) ∧
      (AllQueued sdk.persister db' → ∀ ans w, w.db = db' → PushesAll sdk ans w →
        ∀ dataId recordType data, db'.loadSyncData dataId recordType = .ok data →
          HeldByRemote sdk ((push sdk).run (World.effect sdk) ans (0, w)).2.2 data) := by
  obtain ⟨hsame, hqueue⟩ := h.queue
  refine ⟨⟨fun hall => ?_, fun honly => ?_⟩, fun hall ans w hw hpush dataId recordType data hload => ?_⟩
  · -- nothing but swaps is queued
    have hswap : ∀ dataId recordType data, db.loadSyncData dataId recordType = .ok data →
        recordType = .receive ∨ recordType = .send ∨ recordType = .chain := by
      intro dataId recordType data hload
      obtain ⟨c, hc, -, htype⟩ := hall dataId recordType data ((hsame.loadSyncData _ _).trans hload)
      obtain ⟨e, he, rfl⟩ := (hqueue c).mp (Table.mem_of_get? hc)
      rw [Db.loadSyncData_recordType hload] at htype
      exact htype ▸ swap_of_mem_allSwapIds he
    refine ⟨?_, ?_, ?_⟩
    · refine List.eq_nil_iff_forall_not_mem.mpr fun details hdetails => ?_
      have hload : db.loadSyncData details.txId .paymentDetails = .ok (.paymentDetails details) := by
        show (okOr (db.paymentDetails.get? details.txId) _).map _ = _
        rw [Table.get?_of_mem hdetails]
        rfl
      rcases hswap _ _ _ hload with h | h | h <;> cases h
    · refine List.eq_nil_iff_forall_not_mem.mpr fun offer hoffer => ?_
      have hload : db.loadSyncData offer.id .bolt12Offer = .ok (.bolt12Offer offer) := by
        show (okOr (db.bolt12Offers.get? offer.id) _).map _ = _
        rw [Table.get?_of_mem hoffer]
        rfl
      rcases hswap _ _ _ hload with h | h | h <;> cases h
    · cases hindex : db.lastDerivationIndex with
      | none => rfl
      | some index =>
          have hload : db.loadSyncData "" .lastDerivationIndex = .ok (.lastDerivationIndex index) := by
            show (okOr db.lastDerivationIndex _).map _ = _
            rw [hindex]
            rfl
          rcases hswap _ _ _ hload with h | h | h <;> cases h
  · intro dataId recordType data hload
    rw [hsame.loadSyncData] at hload
    have hswap := isSwap_of_onlySwaps honly hload
    have hmem := (hqueue (requeued sdk.persister now (recordType, dataId))).mpr
      ⟨_, loadSyncData_mem_allSwapIds hload hswap, rfl⟩
    have htype := Db.loadSyncData_recordType hload
    have hid : data.id = dataId := by
      refine Db.loadSyncData_id hload ?_
      rintro rfl
      cases data with
      | lastDerivationIndex index => cases hswap
      | _ => cases htype
    refine ⟨requeued sdk.persister now (recordType, dataId), ?_, hid.symm, htype.symm⟩
    unfold Record.getIdFromSyncData
    rw [htype, hid]
    exact Table.get?_of_mem hmem
  · subst hw
    obtain ⟨c, hc, hid, htype⟩ := hall dataId recordType data hload
    refine run_push ans hpush (namesRecord_requeued sdk h) (Table.mem_of_get? hc) ?_
    rw [hid, htype]
    exact Db.loadSyncData_self hload

end Results

/-! ## A reset that forgets -/

def requeueSdk : Sdk where
  bz := .byAddress 0
  persister := { codec := .table fun _ => none }

/-- A swap of each kind, and nothing else. -/
def onlySwapsDb : Db where
  sendSwaps := (∅ : Table SendSwap.id).insertNew { id := "s" }
  receiveSwaps := (∅ : Table ReceiveSwap.id).insertNew { id := "r" }
  chainSwaps := (∅ : Table ChainSwap.id).insertNew { id := "c", direction := .incoming }

/-- The remote accepts all records. -/
def acceptsRecords : Nat → (q : Call) → q.Answer
  | n, .push _ => .ok ⟨.success, n + 1⟩
  | _, q => q.offline

/-- After a reset of a database with swaps only, all of them are queued, and a push makes the remote hold them. -/
theorem allQueued_iff_onlySwaps : ∃ db, onlySwapsDb.resetSync requeueSdk.persister 0 = .ok db ∧
    AllQueued requeueSdk.persister db ∧ ∀ dataId recordType data, db.loadSyncData dataId recordType = .ok data →
      HeldByRemote requeueSdk ((push requeueSdk).run (World.effect requeueSdk) acceptsRecords (0, { db })).2.2 data := by
  cases hreset : onlySwapsDb.resetSync requeueSdk.persister 0 with
  | error err =>
      have hok : (onlySwapsDb.resetSync requeueSdk.persister 0).isOk = true := by decide +kernel
      rw [hreset] at hok
      cases hok
  | ok db =>
      obtain ⟨hiff, hheld⟩ := allQueued_iff requeueSdk 0 onlySwapsDb db (.inl hreset)
      have hqueued : AllQueued requeueSdk.persister db := hiff.mpr ⟨rfl, rfl, rfl⟩
      have hpushes : (onlySwapsDb.resetSync requeueSdk.persister 0).map (fun db =>
          decide (PushesAll requeueSdk acceptsRecords { db })) = .ok true := by decide +kernel
      rw [hreset] at hpushes
      exact ⟨db, rfl, hqueued, hheld hqueued acceptsRecords { db } rfl (of_decide_eq_true (Except.ok.inj hpushes))⟩

/-- The details of a payment that are queued. -/
def queuedDetailsDb : Db :=
  ({} : Db).insertOrUpdatePaymentDetails requeueSdk.persister 0 { txId := "tx", destination := "invoice" }

/-- After a reset the details are stored and not queued. -/
theorem allQueued_details :
    Queued requeueSdk.persister queuedDetailsDb (.paymentDetails { txId := "tx", destination := "invoice" }) ∧
      ∃ db, queuedDetailsDb.resetSync requeueSdk.persister 0 = .ok db ∧
        ¬ AllQueued requeueSdk.persister db := by
  constructor
  · exact ⟨_, rfl, rfl, rfl⟩
  · cases hreset : queuedDetailsDb.resetSync requeueSdk.persister 0 with
    | error err =>
        have hok : (queuedDetailsDb.resetSync requeueSdk.persister 0).isOk = true := by decide +kernel
        rw [hreset] at hok
        cases hok
    | ok db =>
        have hloads : (queuedDetailsDb.resetSync requeueSdk.persister 0).bind
            (fun db => db.loadSyncData "tx" .paymentDetails) =
              .ok (.paymentDetails { txId := "tx", destination := "invoice" }) := by decide +kernel
        have hempty : (queuedDetailsDb.resetSync requeueSdk.persister 0).map
            (fun db => db.syncOutgoing.rows) = .ok [] := by decide +kernel
        rw [hreset] at hloads hempty
        refine ⟨db, rfl, fun hall => ?_⟩
        obtain ⟨changes, hchanges, -⟩ := hall "tx" .paymentDetails _ hloads
        have hmem := Table.mem_of_get? hchanges
        have hnone : db.syncOutgoing.rows = [] := Except.ok.inj hempty
        rw [hnone] at hmem
        exact absurd hmem List.not_mem_nil

end BreezLiquid.Sync
