/-
# BreezLiquid.Sync.Tables — what the sync service does to its tables.

A commit writes one item and its sync state; a reset empties the tables and queues the swaps. What is pulled
keeps its name on the way: merged, turned into a swap and recovered, it has the id and the type of the record.

Both are about one transaction, or one pull, and are what `BreezLiquid.Sync.Origin` and `BreezLiquid.Sync.Terms` follow
through whole runs.
-/
import Mathlib.Data.List.Find
import BreezLiquid.Sync.FieldUpdates
import BreezLiquid.Sync.Requeue

namespace BreezLiquid.Sync

open Interleaving Recover Tables

/-! ## What the transactions do to the tables -/

section Tables

variable {db db' : Db} {now : Nat}

theorem mem_insertOrReplace {ρ κ : Type} [DecidableEq κ] {key : ρ → κ} {t : Table key} {r r' : ρ} :
    r' ∈ (t.insertOrReplace r).rows ↔ (r' ∈ t.rows ∧ key r' ≠ key r) ∨ r' = r := by
  unfold Table.insertOrReplace
  rw [mem_insertNew]
  · unfold Table.deleteWhere
    simp
  · unfold Table.deleteWhere
    simp

/-- Another record's sync state, when it is not the one that is replaced. -/
theorem getSyncState_setSyncState_of_ne {syncState : SyncState} {recordId : RecordId}
    (hne : syncState.recordId ≠ recordId)
    (hold : ∀ s ∈ db.syncState.rows, s.dataId = syncState.dataId → s.recordId ≠ recordId) :
    (db.setSyncState syncState).getSyncStateByRecordId recordId = db.getSyncStateByRecordId recordId := by
  have hfree : syncState.dataId ∉
      ((db.syncState.deleteWhere fun s => s.dataId = syncState.dataId).rows).map SyncState.dataId := by
    unfold Table.deleteWhere
    simp
  show ((db.syncState.insertOrReplace syncState).rows.find? fun s => s.recordId = recordId) = _
  unfold Table.insertOrReplace Table.insertNew
  rw [dif_neg hfree, List.find?_append]
  have hnew : ([syncState].find? fun s => s.recordId = recordId) = none := by simp [hne]
  rw [hnew, Option.or_none]
  show ((db.syncState.rows.filter fun s => !decide (s.dataId = syncState.dataId)).find? _) = _
  rw [List.find?_filter]
  refine List.find?_congr fun s hs => ?_
  by_cases hid : s.dataId = syncState.dataId
  · simp [hid, hold s hs hid]
  · simp [hid]

theorem inserted_or {ρ κ : Type} [DecidableEq κ] {key : ρ → κ} (t : Table key) {r : ρ} {k : κ}
    (h : k ∈ (t.insertNew r).rows.map key) : k ∈ t.rows.map key ∨ k = key r := by
  unfold Table.insertNew at h
  split at h
  · exact .inl h
  · rw [List.map_append, List.mem_append] at h
    rcases h with h | h
    · exact .inl h
    · exact .inr (by simpa using h)

theorem mem_key_updateWhere {ρ κ : Type} {key : ρ → κ} {t : Table key} {p : ρ → Bool} {g : ρ → ρ}
    (hg : ∀ r, key (g r) = key r) {k : κ} (h : k ∈ (t.updateWhere p g hg).rows.map key) :
    k ∈ t.rows.map key := by
  obtain ⟨r', hr', rfl⟩ := List.mem_map.mp h
  obtain ⟨r, hr, rfl⟩ := List.mem_map.mp hr'
  refine List.mem_map.mpr ⟨r, hr, ?_⟩
  show key r = key (if p r then g r else r)
  split
  · exact (hg r).symm
  · rfl

/-- An update of some rows keeps the ids of a table. -/
theorem mem_ids_updateChainSwaps {p : ChainSwap → Bool} {g : ChainSwap → ChainSwap} (hg : ∀ s, (g s).id = s.id)
    {id : SwapId} (h : id ∈ (db.updateChainSwaps now p g hg).chainSwaps.rows.map ChainSwap.id) :
    id ∈ db.chainSwaps.rows.map ChainSwap.id :=
  mem_key_updateWhere (g := fun s => { g s with metadata := (g s).metadata.touch now }) hg h

theorem mem_ids_updateSendSwaps {p : SendSwap → Bool} {g : SendSwap → SendSwap} (hg : ∀ s, (g s).id = s.id)
    {id : SwapId} (h : id ∈ (db.updateSendSwaps now p g hg).sendSwaps.rows.map SendSwap.id) :
    id ∈ db.sendSwaps.rows.map SendSwap.id :=
  mem_key_updateWhere (g := fun s => { g s with metadata := (g s).metadata.touch now }) hg h

theorem mem_ids_updateReceiveSwaps {p : ReceiveSwap → Bool} {g : ReceiveSwap → ReceiveSwap}
    (hg : ∀ s, (g s).id = s.id) {id : SwapId}
    (h : id ∈ (db.updateReceiveSwaps now p g hg).receiveSwaps.rows.map ReceiveSwap.id) :
    id ∈ db.receiveSwaps.rows.map ReceiveSwap.id :=
  mem_key_updateWhere (g := fun s => { g s with metadata := (g s).metadata.touch now }) hg h

/-- Which ids are in the three swap tables. -/
theorem mem_allSwapIds {e : RecordType × DataId} : e ∈ db.allSwapIds ↔
    (e.1 = .receive ∧ e.2 ∈ db.receiveSwaps.rows.map ReceiveSwap.id) ∨
      (e.1 = .send ∧ e.2 ∈ db.sendSwaps.rows.map SendSwap.id) ∨
      (e.1 = .chain ∧ e.2 ∈ db.chainSwaps.rows.map ChainSwap.id) := by
  obtain ⟨t, d⟩ := e
  unfold Db.allSwapIds
  simp only [List.mem_append, List.mem_map, Prod.mk.injEq, or_assoc]
  constructor
  · rintro (⟨s, hs, rfl, rfl⟩ | ⟨s, hs, rfl, rfl⟩ | ⟨s, hs, rfl, rfl⟩)
    · exact .inl ⟨rfl, s, hs, rfl⟩
    · exact .inr (.inl ⟨rfl, s, hs, rfl⟩)
    · exact .inr (.inr ⟨rfl, s, hs, rfl⟩)
  · rintro (⟨rfl, s, hs, rfl⟩ | ⟨rfl, s, hs, rfl⟩ | ⟨rfl, s, hs, rfl⟩)
    · exact .inl ⟨s, hs, rfl, rfl⟩
    · exact .inr (.inl ⟨s, hs, rfl, rfl⟩)
    · exact .inr (.inr ⟨s, hs, rfl, rfl⟩)

/-- Writing a swap touches none of the sync tables. -/
theorem insertOrUpdateSwapInner_syncTables {swap : Swap} (h : db.insertOrUpdateSwapInner now swap = .ok db') :
    db'.syncState = db.syncState ∧ db'.syncIncoming = db.syncIncoming ∧ db'.syncOutgoing = db.syncOutgoing ∧
      db'.outgoingCommits = db.outgoingCommits := by
  cases swap with
  | chain s =>
      have h : db.insertOrUpdateChainSwapInner now s = .ok db' := h
      unfold Db.insertOrUpdateChainSwapInner at h
      dsimp only at h
      split at h
      · cases h
        exact ⟨rfl, rfl, rfl, rfl⟩
      · cases h
  | send s =>
      have h : db.insertOrUpdateSendSwapInner now s = .ok db' := h
      unfold Db.insertOrUpdateSendSwapInner at h
      dsimp only at h
      split at h
      · split at h
        · cases h
          exact ⟨rfl, rfl, rfl, rfl⟩
        · cases h
      · split at h
        · cases h
          exact ⟨rfl, rfl, rfl, rfl⟩
        · cases h
  | receive s =>
      have h : db.insertOrUpdateReceiveSwapInner now s = .ok db' := h
      unfold Db.insertOrUpdateReceiveSwapInner at h
      dsimp only at h
      split at h
      · cases h
        split
        · exact ⟨rfl, rfl, rfl, rfl⟩
        · exact ⟨rfl, rfl, rfl, rfl⟩
      · cases h

/-- Writing a swap adds at most this one. -/
theorem insertOrUpdateSwapInner_allSwapIds {swap : Swap} (h : db.insertOrUpdateSwapInner now swap = .ok db')
    {e : RecordType × DataId} (he : e ∈ db'.allSwapIds) :
    e ∈ db.allSwapIds ∨ e = (swap.recordType, swap.id) := by
  obtain ⟨t, d⟩ := e
  rw [mem_allSwapIds] at he ⊢
  cases swap with
  | chain s =>
      have h : db.insertOrUpdateChainSwapInner now s = .ok db' := h
      unfold Db.insertOrUpdateChainSwapInner at h
      dsimp only at h
      split at h
      · cases h
        rcases he with he | he | ⟨ht, he⟩
        · exact .inl (.inl he)
        · exact .inl (.inr (.inl he))
        · rcases inserted_or db.chainSwaps (mem_ids_updateChainSwaps (g := Db.chainSwapUpdate s) (fun _ => rfl) he)
            with he | he
          · exact .inl (.inr (.inr ⟨ht, he⟩))
          · exact .inr (Prod.ext ht he)
      · cases h
  | send s =>
      have h : db.insertOrUpdateSendSwapInner now s = .ok db' := h
      unfold Db.insertOrUpdateSendSwapInner at h
      dsimp only at h
      split at h
      · split at h
        · cases h
          rcases he with he | ⟨ht, he⟩ | he
          · exact .inl (.inl he)
          · exact .inl (.inr (.inl ⟨ht, mem_ids_updateSendSwaps (g := Db.sendSwapUpdate s) (fun _ => rfl) he⟩))
          · exact .inl (.inr (.inr he))
        · cases h
      · -- a row with the invoice keeps the swap from being inserted
        split at h
        · cases h
          rcases he with he | ⟨ht, he⟩ | he
          · exact .inl (.inl he)
          · rcases inserted_or db.sendSwaps (mem_ids_updateSendSwaps (g := Db.sendSwapUpdate s) (fun _ => rfl) he)
              with he | he
            · exact .inl (.inr (.inl ⟨ht, he⟩))
            · exact .inr (Prod.ext ht he)
          · exact .inl (.inr (.inr he))
        · cases h
  | receive s =>
      have h : db.insertOrUpdateReceiveSwapInner now s = .ok db' := h
      unfold Db.insertOrUpdateReceiveSwapInner at h
      dsimp only at h
      split at h
      · cases h
        split at he
        all_goals
          rcases he with ⟨ht, he⟩ | he | he
          · rcases inserted_or db.receiveSwaps
              (mem_ids_updateReceiveSwaps (g := Db.receiveSwapUpdate s) (fun _ => rfl) he) with he | he
            · exact .inl (.inl ⟨ht, he⟩)
            · exact .inr (Prod.ext ht he)
          · exact .inl (.inr (.inl he))
          · exact .inl (.inr (.inr he))
      · cases h

theorem setIncomingRecords_swapTables (records : List Record) (db : Db) :
    (db.setIncomingRecords records).sendSwaps = db.sendSwaps ∧
      (db.setIncomingRecords records).receiveSwaps = db.receiveSwaps ∧
      (db.setIncomingRecords records).chainSwaps = db.chainSwaps := by
  induction records generalizing db with
  | nil => exact ⟨rfl, rfl, rfl⟩
  | cons record records ih => exact ih (db.setIncomingRecord record)

/-- A reset drops the sync states and the incoming records. -/
theorem startsOver_syncTables {p : Persister} (h : StartsOver p now db db') :
    db'.syncState = ∅ ∧ db'.syncIncoming = ∅ := by
  have henqueue : ∀ (l : List (RecordType × DataId)) (db db' : Db),
      l.foldlM (fun db e => db.enqueueSwap p now e) db = .ok db' →
        db'.syncState = db.syncState ∧ db'.syncIncoming = db.syncIncoming := by
    intro l
    induction l with
    | nil =>
        rintro db db' ⟨⟩
        exact ⟨rfl, rfl⟩
    | cons e l ih =>
        intro db db' h
        rw [List.foldlM_cons] at h
        obtain ⟨db₁, hfirst, hrest⟩ := except_bind_eq_ok.mp h
        obtain ⟨hstate, hincoming⟩ := ih db₁ db' hrest
        unfold Db.enqueueSwap at hfirst
        dsimp only at hfirst
        split at hfirst
        · cases hfirst
        · cases hfirst
          exact ⟨hstate, hincoming⟩
  rcases h with h | ⟨remoteUrl, h⟩
  · exact henqueue _ _ db' h
  · obtain ⟨db₁, hreset, h⟩ := except_bind_eq_ok.mp h
    cases h
    exact henqueue _ _ db₁ hreset

end Tables

/-! ## Names on the way of a pulled record -/

section Names

variable {sdk : Sdk}

/-- Merging keeps the id and the type. -/
theorem merge_names {base other data : SyncData} {l : List String} (h : base.merge other l = .ok data) :
    data.id = base.id ∧ data.recordType = base.recordType := by
  cases base with
  | chain base =>
      cases other with
      | chain other =>
          cases h
          exact ⟨(chain_merge base other l).1, rfl⟩
      | _ => cases h
  | send base =>
      cases other with
      | send other =>
          cases h
          exact ⟨(send_merge base other l).1, rfl⟩
      | _ => cases h
  | receive base => cases other <;> cases h
  | lastDerivationIndex base =>
      cases other with
      | lastDerivationIndex other =>
          cases h
          exact ⟨rfl, rfl⟩
      | _ => cases h
  | paymentDetails base =>
      cases other with
      | paymentDetails other =>
          cases h
          refine ⟨mergeFields_keeps PaymentTxDetails.txId (fun base n => ?_) base l, rfl⟩
          repeat' split
          all_goals rfl
      | _ => cases h
  | bolt12Offer base =>
      cases other with
      | bolt12Offer other =>
          cases h
          refine ⟨mergeFields_keeps Bolt12Offer.id (fun base n => ?_) base l, rfl⟩
          split
          · rfl
          · rfl
      | _ => cases h

/-- A record becomes the swap of its id and type. -/
theorem toSwap_names {bz : BoltzClient} {data : SyncData} {swap : Swap} (h : data.toSwap bz = .ok swap) :
    swap.id = data.id ∧ swap.recordType = data.recordType := by
  cases data with
  | chain data =>
      cases h
      exact ⟨rfl, rfl⟩
  | send data =>
      cases h
      exact ⟨rfl, rfl⟩
  | receive data =>
      cases h
      exact ⟨rfl, rfl⟩
  | lastDerivationIndex index => cases h
  | paymentDetails data => cases h
  | bolt12Offer data => cases h

theorem setVersion_names (swap : Swap) (version : Nat) :
    (swap.setVersion version).id = swap.id ∧ (swap.setVersion version).recordType = swap.recordType := by
  cases swap with
  | chain s => exact ⟨rfl, rfl⟩
  | send s => exact ⟨rfl, rfl⟩
  | receive s => exact ⟨rfl, rfl⟩

theorem withLocalVersion_names (db : Db) (swap : Swap) :
    (withLocalVersion db swap).id = swap.id ∧ (withLocalVersion db swap).recordType = swap.recordType := by
  unfold withLocalVersion
  split
  · exact setVersion_names swap _
  · exact ⟨rfl, rfl⟩

/-- The swap is the one of the record. -/
def Names (info : DecryptionInfo) (swap : Swap) : Prop :=
  swap.id = info.record.data.id ∧ swap.recordType = info.record.data.recordType

theorem toLocalSwap_names (info : DecryptionInfo) :
    (toLocalSwap sdk info.record).Yields fun x => ∀ swap, x = .ok swap → Names info swap := by
  have herror : ∀ err : Err, ∀ swap, Except.error err = .ok swap → Names info swap := by
    intro err swap h
    cases h
  unfold toLocalSwap
  refine Task.Yields.ofExcept_bind herror fun swap hswap w => ?_
  have hnames := toSwap_names hswap
  rintro swap' ⟨⟩
  obtain ⟨hid, htype⟩ := withLocalVersion_names w.db swap
  exact ⟨hid.trans hnames.1, htype.trans hnames.2⟩

/-- What holds of each record and its swap holds of all that can be converted; they stay in their order. -/
theorem toLocalSwaps_forall {P : DecryptionInfo → Swap → Prop} (h : ∀ info : DecryptionInfo,
      (toLocalSwap sdk info.record).Yields fun x => ∀ swap, x = .ok swap → P info swap) (infos : List DecryptionInfo) :
    (toLocalSwaps sdk infos).Yields fun x => ∀ l, x = .ok l →
      (l.map Prod.fst).Sublist infos ∧ ∀ e ∈ l, P e.1 e.2 := by
  induction infos with
  | nil =>
      intro l h
      cases h
      exact ⟨List.Sublist.refl _, fun e he => absurd he List.not_mem_nil⟩
  | cons info infos ih =>
      refine Task.Yields.bind (Task.Yields.attempt (Task.Yields.mono (h info) fun res hres => ?_))
      refine Task.Yields.bind (Task.Yields.mono ih fun x hx => ?_)
      cases x with
      | error err => rintro l ⟨⟩
      | ok swaps =>
          obtain ⟨hsublist, hswaps⟩ := hx swaps rfl
          cases res with
          | error err =>
              rintro l ⟨⟩
              exact ⟨hsublist.cons _, hswaps⟩
          | ok swap =>
              rintro l ⟨⟩
              refine ⟨hsublist.cons_cons _, fun e he => ?_⟩
              rcases List.mem_cons.mp he with rfl | he
              · exact hres swap rfl
              · exact hswaps e he

theorem zip_recovered {R : Swap → Swap × Outcome → Prop} {l : List (DecryptionInfo × Swap)}
    {results : List (Swap × Outcome)} (h : List.Forall₂ R (l.map Prod.snd) results)
    {i : DecryptionInfo × Option (Swap × Outcome)} (hi : i ∈ (l.map Prod.fst).zip (results.map some)) :
    ∃ e ∈ l, ∃ r, i = (e.1, some r) ∧ R e.2 r := by
  induction l generalizing results with
  | nil => cases hi
  | cons e l ih =>
      cases h with
      | cons hfirst hrest =>
          rw [List.map_cons, List.map_cons, List.zip_cons_cons] at hi
          rcases List.mem_cons.mp hi with rfl | hi
          · exact ⟨e, List.mem_cons_self, _, rfl, hfirst⟩
          · obtain ⟨e', he', r, heq, hr⟩ := ih hrest hi
            exact ⟨e', List.mem_cons_of_mem _ he', r, heq, hr⟩

/-- **Recovery** returns records in their order, each with what became of its swap. -/
theorem handleRecovery_forall {P : DecryptionInfo → Swap → Prop} {T : Swap → Swap × Outcome → Prop}
    (hswap : ∀ info : DecryptionInfo,
      (toLocalSwap sdk info.record).Yields fun x => ∀ swap, x = .ok swap → P info swap)
    (hrecover : ∀ swapContext chainContext startedAt swap,
      (Recoverer.recoverSwap sdk swapContext chainContext startedAt swap).Yields fun x => ∀ r, x = .ok r → T swap r)
    (infos : List DecryptionInfo) :
    (handleRecovery sdk infos).Yields fun x => ∀ l, x = .ok l →
      (l.map Prod.fst).Sublist infos ∧ ∀ i ∈ l, ∃ swap r, i.2 = some r ∧ P i.1 swap ∧ T swap r := by
  refine Task.Yields.bind (Task.Yields.mono (toLocalSwaps_forall hswap infos) fun x hx => ?_)
  cases x with
  | error err => rintro l ⟨⟩
  | ok swaps =>
      obtain ⟨hsublist, hswaps⟩ := hx swaps rfl
      have hrecovery := recoverFromOnchain_forall₂ sdk hrecover (swaps.map Prod.snd) none
      refine Task.Yields.bind (Task.Yields.mono hrecovery fun y hy => ?_)
      cases y with
      | error err => rintro l ⟨⟩
      | ok out =>
          obtain ⟨results, txs⟩ := out
          have hresults := hy results txs rfl
          rintro l ⟨⟩
          constructor
          · rw [List.map_fst_zip]
            · exact hsublist
            · have hlength := hresults.length_eq
              rw [List.length_map] at hlength
              rw [List.length_map, List.length_map]
              omega
          · intro i hi
            obtain ⟨e, he, r, rfl, hr⟩ := zip_recovered hresults hi
            exact ⟨e.2, r, rfl, hswaps e he, hr⟩

/-- So every record has a swap of its name. -/
theorem handleRecovery_names (infos : List DecryptionInfo) :
    (handleRecovery sdk infos).Yields fun x => ∀ l, x = .ok l →
      (l.map Prod.fst).Sublist infos ∧ ∀ i ∈ l, ∀ r, i.2 = some r → Names i.1 r.1 := by
  refine (handleRecovery_forall toLocalSwap_names (recoverSwap_recovers sdk) infos).mono fun x hx l hl => ?_
  obtain ⟨hsublist, hall⟩ := hx l hl
  refine ⟨hsublist, fun i hi r hr => ?_⟩
  obtain ⟨swap, r', hr', hnames, ⟨hid, -, htype⟩, -⟩ := hall i hi
  obtain rfl : r' = r := Option.some.inj (hr'.symm.trans hr)
  exact ⟨hid.trans hnames.1, htype.trans hnames.2⟩

end Names

end BreezLiquid.Sync
