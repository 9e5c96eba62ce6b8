/-
# BreezLiquid.Sync.RoundTrip — a local item that is synced to a new device.

An item is converted to its sync data, committed on a device with an empty database, and loaded there.
Every column passes an `INSERT` and an `UPDATE`, which together have all synced columns but one: the
`auto_accepted_fees` of a chain swap, which is therefore read back as `false`.
-/
import BreezLiquid.Sync.Service

namespace BreezLiquid.Sync

open Interleaving Recover Tables

section RoundTrip

variable (sdk : Sdk)

/-- A new device, at some time. -/
def newDevice (now : Nat) : World := { now }

/-- Commit a record on a new device, after a recovery that left its swap as it is. -/
def commitOnNewDevice (now : Nat) (info : DecryptionInfo) : Except Err Unit × (Nat × World) :=
  let untouched := (info.record.data.toSwap sdk.bz).toOption.map fun swap => (swap, Except.ok ())
  (commitRecord sdk info untouched).run (World.effect sdk) (fun _ q => q.offline) (0, newDevice now)

/-- The database of a new device with the record. -/
def syncedDb (now : Nat) (info : DecryptionInfo) : Db := (commitOnNewDevice sdk now info).2.2.db

/-- The fees of the data were not accepted automatically. -/
def NotAutoAccepted : SyncData → Prop
  | .chain data => data.autoAcceptedFees = false
  | _ => True

end RoundTrip

/-! ## Rows of an empty table -/

section Empty

variable {ρ κ : Type} [DecidableEq κ] (key : ρ → κ)

theorem get?_inserted (r : ρ) : ((∅ : Table key).insertNew r).get? (key r) = some r := by
  rw [Table.get?_insertNew, Table.get?_empty, Option.none_or, if_pos rfl]

theorem any_inserted {r : ρ} {p : ρ → Bool} (hp : p r = true) :
    ((∅ : Table key).insertNew r).rows.any p = true := by
  have hmem : r ∈ ((∅ : Table key).insertNew r).rows := Table.mem_of_get? (get?_inserted key r)
  exact List.any_eq_true.mpr ⟨r, hmem, hp⟩

end Empty

/-! ## Committing to an empty database -/

section Commit

/-- The row of a send swap after its `INSERT` and its `UPDATE`. -/
theorem sendSwap_of_empty (now : Nat) (s : SendSwap) (hversion : s.metadata.version = 0) :
    ∃ db, ({} : Db).insertOrUpdateSendSwapInner now s = .ok db ∧ db.sendSwaps.get? s.id =
      some { Db.sendSwapUpdate s (Db.sendSwapInsert s) with metadata := SwapMetadata.touch now {} } := by
  let guard := fun (row : SendSwap) =>
    decide (row.id = s.id) && decide (row.metadata.version = s.metadata.version)
  have hguard : guard (Db.sendSwapInsert s) = true := by
    simp [guard, Db.sendSwapInsert, hversion]
  have hany := any_inserted SendSwap.id (p := guard) hguard
  refine ⟨_, if_pos hany, ?_⟩
  have hrow : ((∅ : Table SendSwap.id).insertNew (Db.sendSwapInsert s)).get? s.id =
      some (Db.sendSwapInsert s) := get?_inserted SendSwap.id _
  refine (Db.get?_updateSendSwaps now guard (Db.sendSwapUpdate s) _ _ s.id).trans ?_
  refine (congrArg (Option.map _) hrow).trans ?_
  exact congrArg some (if_pos hguard)

theorem receiveSwap_of_empty (now : Nat) (s : ReceiveSwap) (hversion : s.metadata.version = 0) :
    ∃ db, ({} : Db).insertOrUpdateReceiveSwapInner now s = .ok db ∧ db.receiveSwaps.get? s.id =
      some { Db.receiveSwapUpdate s (Db.receiveSwapInsert s) with metadata := SwapMetadata.touch now {} } := by
  let guard := fun (row : ReceiveSwap) =>
    decide (row.id = s.id) && decide (row.metadata.version = s.metadata.version)
  have hguard : guard (Db.receiveSwapInsert s) = true := by
    simp [guard, Db.receiveSwapInsert, hversion]
  have hany := any_inserted ReceiveSwap.id (p := guard) hguard
  refine ⟨_, if_pos hany, ?_⟩
  have hrow : ((∅ : Table ReceiveSwap.id).insertNew (Db.receiveSwapInsert s)).get? s.id =
      some (Db.receiveSwapInsert s) := get?_inserted ReceiveSwap.id _
  have hsame : ∀ db : Db, (if s.mrhTxId.isSome then db.deleteReservedAddress s.mrhAddress else db).receiveSwaps =
      db.receiveSwaps := by
    intro db
    split
    · rfl
    · rfl
  refine (congrArg (fun t => t.get? s.id) (hsame _)).trans ?_
  refine (Db.get?_updateReceiveSwaps now guard (Db.receiveSwapUpdate s) _ _ s.id).trans ?_
  refine (congrArg (Option.map _) hrow).trans ?_
  exact congrArg some (if_pos hguard)

theorem chainSwap_of_empty (now : Nat) (s : ChainSwap) (hversion : s.metadata.version = 0) :
    ∃ db, ({} : Db).insertOrUpdateChainSwapInner now s = .ok db ∧ db.chainSwaps.get? s.id =
      some { Db.chainSwapUpdate s (Db.chainSwapInsert s) with metadata := SwapMetadata.touch now {} } := by
  let guard := fun (row : ChainSwap) =>
    decide (row.id = s.id) && decide (row.metadata.version = s.metadata.version)
  have hguard : guard (Db.chainSwapInsert s) = true := by
    simp [guard, Db.chainSwapInsert, hversion]
  have hany := any_inserted ChainSwap.id (p := guard) hguard
  refine ⟨_, if_pos hany, ?_⟩
  have hrow : ((∅ : Table ChainSwap.id).insertNew (Db.chainSwapInsert s)).get? s.id =
      some (Db.chainSwapInsert s) := get?_inserted ChainSwap.id _
  refine (Db.get?_updateChainSwaps now guard (Db.chainSwapUpdate s) _ _ s.id).trans ?_
  refine (congrArg (Option.map _) hrow).trans ?_
  exact congrArg some (if_pos hguard)

variable {sdk : Sdk} {now : Nat} {info : DecryptionInfo}

/-- Nothing is queued on a new device, so what can be written is committed. -/
theorem run_tryCommit_newDevice {f : Nat → Db → Except Err Db} (events : Db → Db → List Event) {db : Db}
    (h : f now {} = .ok db) :
    ((tryCommit f events).run (World.effect sdk) (fun _ q => q.offline) (0, newDevice now)).1 = .ok () ∧
      ((tryCommit f events).run (World.effect sdk) (fun _ q => q.offline) (0, newDevice now)).2.2.db = db := by
  constructor
  · show (f now {}).map _ = _
    rw [h]
    rfl
  · show (World.tryCommit f events (newDevice now)).db = db
    unfold World.tryCommit
    have hf : f (newDevice now).now (newDevice now).db = .ok db := h
    rw [hf]

theorem commitIncomingSwap_empty {swap : Swap} {state : SyncState} {lastCommitTime : Option Nat} {db : Db}
    (h : ({} : Db).insertOrUpdateSwapInner now swap = .ok db) :
    ({} : Db).commitIncomingSwap now swap state lastCommitTime = .ok (db.setSyncState state) := by
  unfold Db.commitIncomingSwap
  rw [h]
  cases lastCommitTime <;> rfl

variable (sdk now info)

theorem commitOnNewDevice_of {f : Nat → Db → Except Err Db} {events : Db → Db → List Event} {db : Db}
    (h : ∀ result, commitRecord sdk info result = tryCommit f events) (hdb : f now {} = .ok db) :
    (commitOnNewDevice sdk now info).1 = .ok () ∧ syncedDb sdk now info = db := by
  unfold syncedDb commitOnNewDevice
  dsimp only
  rw [h]
  exact run_tryCommit_newDevice events hdb

/-- A swap is committed when its row can be written. -/
theorem commitOnNewDevice_swap (swap : Swap) {db : Db} (hdata : info.record.data.isSwap = true)
    (hswap : info.record.data.toSwap sdk.bz = .ok swap)
    (hdb : ({} : Db).insertOrUpdateSwapInner now swap = .ok db) :
    (commitOnNewDevice sdk now info).1 = .ok () ∧
      syncedDb sdk now info = db.setSyncState info.newSyncState := by
  unfold syncedDb commitOnNewDevice
  rw [hswap]
  show ((commitRecord sdk info (some (swap, .ok ()))).run _ _ _).1 = _ ∧
    ((commitRecord sdk info (some (swap, .ok ()))).run _ _ _).2.2.db = _
  rw [commitRecord_swap sdk hdata]
  exact run_tryCommit_newDevice (f := fun now db => db.commitIncomingSwap now swap info.newSyncState
    info.lastCommitTime) _ (commitIncomingSwap_empty hdb)

end Commit

/-! ## The round trip -/

section Results

variable (sdk : Sdk)

/-- A record is committed on a new device, and the data loads there. -/
def SyncedAs (now : Nat) (info : DecryptionInfo) (data : SyncData) : Prop :=
  (commitOnNewDevice sdk now info).1 = .ok () ∧
    (syncedDb sdk now info).loadSyncData data.id data.recordType = .ok data

/-- **The round trip.** The data of every item, of any kind and with any fields, is read back on a new
device exactly as it was, unless it is a chain swap whose fees were accepted automatically. -/
theorem synced_iff (now : Nat) (info : DecryptionInfo) :
    SyncedAs sdk now info info.record.data ↔ NotAutoAccepted info.record.data := by
  cases hdata : info.record.data with
  | send data =>
      obtain ⟨db, hdb, hrow⟩ := sendSwap_of_empty now data.toSwap rfl
      obtain ⟨hok, hsynced⟩ := commitOnNewDevice_swap sdk now info
        (.send data.toSwap) (by rw [hdata]; rfl) (by rw [hdata]; rfl) hdb
      refine ⟨fun _ => trivial, fun _ => ⟨hok, ?_⟩⟩
      rw [hsynced]
      show (okOr ((db.sendSwaps.get? data.toSwap.id).map _) _).map _ = _
      rw [hrow]
      rfl
  | receive data =>
      obtain ⟨db, hdb, hrow⟩ := receiveSwap_of_empty now data.toSwap rfl
      obtain ⟨hok, hsynced⟩ := commitOnNewDevice_swap sdk now info
        (.receive data.toSwap) (by rw [hdata]; rfl) (by rw [hdata]; rfl) hdb
      refine ⟨fun _ => trivial, fun _ => ⟨hok, ?_⟩⟩
      rw [hsynced]
      show (okOr ((db.receiveSwaps.get? data.toSwap.id).map _) _).map _ = _
      rw [hrow]
      rfl
  | chain data =>
      obtain ⟨db, hdb, hrow⟩ := chainSwap_of_empty now (data.toSwap sdk.bz) rfl
      obtain ⟨hok, hsynced⟩ := commitOnNewDevice_swap sdk now info
        (.chain (data.toSwap sdk.bz)) (by rw [hdata]; rfl) (by rw [hdata]; rfl) hdb
      -- neither statement writes the column
      have hloads : (syncedDb sdk now info).loadSyncData (SyncData.chain data).id (SyncData.chain data).recordType =
          .ok (.chain { data with autoAcceptedFees := false }) := by
        rw [hsynced]
        show (okOr ((db.chainSwaps.get? (data.toSwap sdk.bz).id).map _) _).map _ = _
        rw [hrow]
        rfl
      constructor
      · rintro ⟨-, hsame⟩
        rw [hloads] at hsame
        have hfees : ({ data with autoAcceptedFees := false } : ChainSyncData) = data := by
          injection Except.ok.inj hsame
        show data.autoAcceptedFees = false
        rw [← hfees]
      · intro hfees
        refine ⟨hok, hloads.trans ?_⟩
        rw [← show data.autoAcceptedFees = false from hfees]
  | lastDerivationIndex index =>
      have hcommit : ({} : Db).commitIncomingAddressIndex sdk.persister index info.newSyncState
          info.lastCommitTime = .ok (({ lastDerivationIndex := some index } : Db).setSyncState
            info.newSyncState) := by
        unfold Db.commitIncomingAddressIndex
        cases info.lastCommitTime <;> rfl
      obtain ⟨hok, hsynced⟩ := commitOnNewDevice_of sdk now info
        (fun result => by unfold commitRecord; rw [hdata]) hcommit
      refine ⟨fun _ => trivial, fun _ => ⟨hok, ?_⟩⟩
      rw [hsynced]
      rfl
  | paymentDetails details =>
      have hcommit : ({} : Db).commitIncomingPaymentDetails details info.newSyncState info.lastCommitTime =
          .ok ((({} : Db).insertOrUpdatePaymentDetailsInner details false).setSyncState info.newSyncState) := by
        unfold Db.commitIncomingPaymentDetails
        cases info.lastCommitTime <;> rfl
      obtain ⟨hok, hsynced⟩ := commitOnNewDevice_of sdk now info
        (fun result => by unfold commitRecord; rw [hdata]) hcommit
      refine ⟨fun _ => trivial, fun _ => ⟨hok, ?_⟩⟩
      rw [hsynced]
      show (okOr (((∅ : Table PaymentTxDetails.txId).insertNew details).get? details.txId) _).map _ = _
      rw [get?_inserted PaymentTxDetails.txId]
      rfl
  | bolt12Offer offer =>
      have hcommit : ({} : Db).commitIncomingBolt12Offer offer info.newSyncState info.lastCommitTime =
          .ok ((({} : Db).insertOrUpdateBolt12OfferInner offer).setSyncState info.newSyncState) := by
        unfold Db.commitIncomingBolt12Offer
        cases info.lastCommitTime <;> rfl
      obtain ⟨hok, hsynced⟩ := commitOnNewDevice_of sdk now info
        (fun result => by unfold commitRecord; rw [hdata]) hcommit
      refine ⟨fun _ => trivial, fun _ => ⟨hok, ?_⟩⟩
      rw [hsynced]
      show (okOr (((∅ : Table Bolt12Offer.id).insertNew offer).get? offer.id) _).map _ = _
      rw [get?_inserted Bolt12Offer.id]
      rfl

end Results

/-! ## A swap with automatically accepted fees -/

def syncSdk : Sdk where
  bz := .byAddress 0
  persister := { codec := .table fun _ => none }

def autoAcceptedSwap : ChainSwap where
  id := "s"
  direction := .incoming
  acceptedReceiverAmountSat := some 1000
  autoAcceptedFees := true

def autoAcceptedDb : Db := { chainSwaps := (∅ : Table ChainSwap.id).insertNew autoAcceptedSwap }

/-- The record of the swap. -/
def autoAcceptedInfo : DecryptionInfo where
  newSyncState := { dataId := "s", recordId := "chain-swap:s", recordRevision := 1, isLocal := false }
  record := { revision := 1, id := "chain-swap:s", data := .chain (.ofSwap autoAcceptedSwap) }
  lastCommitTime := none

/-- The accepted fees of a chain swap do not arrive: the pulled row says that they were not. -/
theorem synced_autoAccepted :
    autoAcceptedDb.loadSyncData "s" .chain = .ok autoAcceptedInfo.record.data ∧
      ¬ SyncedAs syncSdk 0 autoAcceptedInfo autoAcceptedInfo.record.data := by
  constructor
  · decide +kernel
  · rintro ⟨-, hloads⟩
    have hlost : (syncedDb syncSdk 0 autoAcceptedInfo).loadSyncData "s" .chain =
        .ok (.chain { ChainSyncData.ofSwap autoAcceptedSwap with autoAcceptedFees := false }) := by
      decide +kernel
    have hsame := hlost.symm.trans hloads
    revert hsame
    decide +kernel

end BreezLiquid.Sync
