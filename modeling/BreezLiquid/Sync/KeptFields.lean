/-
# BreezLiquid.Sync.KeptFields — changed fields that survive a pull.

Between two pushes of a record, local writes change some of its fields. A pull that comes next keeps a changed
field if it is named after the last call without names, or if the pulled record happens to have the same value.

`Survives` is the condition on the names and the two values, `KeptByPulls` the property, of every pull that receives the
record. Each kind of record has its own lemma, because each is committed in its own way. `PulledAfter.kept_iff` joins
them, and `changed_kept_iff` is about whole sequences of local writes.

The instance is a preimage. It is queued by name, the next write gives no names, and the pulled record, which has no
preimage, replaces it.
-/
import BreezLiquid.Sync.PullRecord

namespace BreezLiquid.Sync

open Interleaving Recover Tables

/-! ## Changed fields -/

/-- The changed field survives a pull of `theirs`, when `names` are queued for `ours`. -/
def Survives (names : List String) (ours theirs : SyncData) (f : Field) : Prop :=
  match f with
  -- a whole-row write of a chain swap leaves this column alone
  | .autoAcceptedFees => True
  | .acceptZeroConf | .acceptedReceiverAmountSat | .preimage | .webhookUrl =>
      f.name ∈ names ∨ f.get theirs = f.get ours
  -- the larger index wins
  | .lastDerivationIndex => ∀ index index', ours = .lastDerivationIndex index →
      theirs = .lastDerivationIndex index' → index' ≤ index
  -- payment details are queued without names
  | .destination => f.get theirs = f.get ours
  | .description | .lnurlInfo | .bip353Address | .payerNote =>
      f.get theirs = some (.text none) ∨ f.get theirs = f.get ours
  | .assetFees => f.get theirs = some (.amount none) ∨ f.get theirs = f.get ours

/-- The kind of record that has the field. -/
def Field.recordType : Field → RecordType
  | acceptZeroConf | acceptedReceiverAmountSat | autoAcceptedFees => .chain
  | preimage => .send
  | lastDerivationIndex => .lastDerivationIndex
  | destination | description | lnurlInfo | bip353Address | payerNote | assetFees => .paymentDetails
  | webhookUrl => .bolt12Offer

/-- A field belongs to one kind of record. -/
theorem Field.recordType_of_get {f : Field} {data : SyncData} {v : FieldValue} (h : f.get data = some v) :
    data.recordType = f.recordType := by
  cases f <;> cases data <;> first | rfl | cases h

theorem recordType_of_fieldValue {db : Db} {recordType : RecordType} {dataId : DataId} {f : Field}
    {v : FieldValue} (h : fieldValue db recordType dataId f = some v) : recordType = f.recordType := by
  unfold fieldValue at h
  obtain ⟨data, hload, hget⟩ := Option.bind_eq_some_iff.mp h
  cases hdata : db.loadSyncData dataId recordType with
  | error err =>
      rw [hdata] at hload
      cases hload
  | ok data' =>
      rw [hdata] at hload
      cases hload
      rw [← Field.recordType_of_get hget, Db.loadSyncData_recordType hdata]

/-- Its value is read from the data that is loaded. -/
theorem fieldValue_of_load {db : Db} {recordType : RecordType} {dataId : DataId} {data : SyncData} (f : Field)
    (h : db.loadSyncData dataId recordType = .ok data) : fieldValue db recordType dataId f = f.get data := by
  unfold fieldValue
  rw [h]
  rfl

section Survives

variable {sdk : Sdk} {record : Record} {c : SyncOutgoingChanges} {w : World}

/-- No pull of the record changes the field. -/
def KeptByPulls (sdk : Sdk) (record : Record) (w : World) (recordType : RecordType) (dataId : DataId)
    (f : Field) : Prop :=
  ∀ w', Pulls sdk record w w' → fieldValue w'.db recordType dataId f = fieldValue w.db recordType dataId f

/-- When every pull leaves the same value, it has to be the one that is there. -/
theorem keptByPulls_iff {recordType : RecordType} {dataId : DataId} {f : Field} {v : Option FieldValue}
    (hexists : ∃ w', Pulls sdk record w w')
    (hafter : ∀ w', Pulls sdk record w w' → fieldValue w'.db recordType dataId f = v) :
    KeptByPulls sdk record w recordType dataId f ↔ v = fieldValue w.db recordType dataId f := by
  constructor
  · intro hkept
    obtain ⟨w', hw'⟩ := hexists
    rw [← hafter w' hw', hkept w' hw']
  · intro hv w' hw'
    rw [hafter w' hw', hv]

/-- Each kind of record: a pull keeps a field of a chain swap if it survives the merge ... -/
theorem kept_chain {theirs : ChainSyncData} {row : ChainSwap} (h : Receives sdk w.db record (.chain theirs))
    (hc : w.db.syncOutgoing.get? record.id = some c) (htype : c.recordType = .chain)
    (hrow : w.db.chainSwaps.get? theirs.swapId = some row) (hsend : w.db.sendSwaps.get? theirs.swapId = none)
    (hreceive : w.db.receiveSwaps.get? theirs.swapId = none) {f : Field} (hf : f.recordType = .chain) :
    KeptByPulls sdk record w .chain theirs.swapId f ↔
      Survives (c.updatedFields.getD []) (.chain (.ofSwap row)) (.chain theirs) f := by
  obtain ⟨hexists, hafter⟩ := pulls_chain h hc htype hrow hsend hreceive
  have hours : fieldValue w.db .chain theirs.swapId f = f.get (.chain (.ofSwap row)) :=
    fieldValue_of_load f (loadSyncData_chain hrow)
  have htheirs : ∀ {w' : World} {row' : ChainSwap}, w'.db.chainSwaps.get? theirs.swapId = some row' →
      fieldValue w'.db .chain theirs.swapId f = f.get (.chain (.ofSwap row')) :=
    fun hrow' => fieldValue_of_load f (loadSyncData_chain hrow')
  cases f with
  | acceptZeroConf =>
      rw [keptByPulls_iff (v := some (.flag (if Field.acceptZeroConf.name ∈ c.updatedFields.getD []
        then row.acceptZeroConf else theirs.acceptZeroConf))) hexists, hours]
      · refine Iff.trans ?_ or_iff_not_imp_left.symm
        simp [Field.get, ChainSyncData.ofSwap]
      · intro w' hw'
        obtain ⟨row', hrow', hzeroConf, -, -⟩ := hafter w' hw'
        rw [htheirs hrow', ← hzeroConf]
        rfl
  | acceptedReceiverAmountSat =>
      rw [keptByPulls_iff (v := some (.amount (if Field.acceptedReceiverAmountSat.name ∈
        c.updatedFields.getD [] then row.acceptedReceiverAmountSat else theirs.acceptedReceiverAmountSat)))
        hexists, hours]
      · refine Iff.trans ?_ or_iff_not_imp_left.symm
        simp [Field.get, ChainSyncData.ofSwap]
      · intro w' hw'
        obtain ⟨row', hrow', -, hamount, -⟩ := hafter w' hw'
        rw [htheirs hrow', ← hamount]
        rfl
  | autoAcceptedFees =>
      rw [keptByPulls_iff (v := some (.flag row.autoAcceptedFees)) hexists, hours]
      · exact ⟨fun _ => trivial, fun _ => rfl⟩
      · intro w' hw'
        obtain ⟨row', hrow', -, -, hfees⟩ := hafter w' hw'
        rw [htheirs hrow', ← hfees]
        rfl
  | _ => cases hf

/-- ... of a send swap, whose preimage is there ... -/
theorem kept_send {theirs : SendSyncData} {row : SendSwap} (h : Receives sdk w.db record (.send theirs))
    (hc : w.db.syncOutgoing.get? record.id = some c) (htype : c.recordType = .send)
    (hrow : w.db.sendSwaps.get? theirs.swapId = some row) (hsome : row.preimage.isSome) {f : Field}
    (hf : f.recordType = .send) :
    KeptByPulls sdk record w .send theirs.swapId f ↔
      Survives (c.updatedFields.getD []) (.send (.ofSwap row)) (.send theirs) f := by
  obtain ⟨⟨w₁, row₁, hw₁, hrow₁, hpreimage₁⟩, hafter⟩ := pulls_send h hc htype hrow
  have hours : fieldValue w.db .send theirs.swapId f = f.get (.send (.ofSwap row)) :=
    fieldValue_of_load f (loadSyncData_send hrow)
  have htheirs : ∀ {w' : World} {row' : SendSwap}, w'.db.sendSwaps.get? theirs.swapId = some row' →
      fieldValue w'.db .send theirs.swapId f = f.get (.send (.ofSwap row')) :=
    fun hrow' => fieldValue_of_load f (loadSyncData_send hrow')
  cases f with
  | preimage =>
      rw [show Field.preimage.get (.send (.ofSwap row)) = some (.text row.preimage) from rfl] at hours
      have hvalue : ∀ {w' : World} {row' : SendSwap}, w'.db.sendSwaps.get? theirs.swapId = some row' →
          (fieldValue w'.db .send theirs.swapId .preimage = fieldValue w.db .send theirs.swapId .preimage ↔
            row'.preimage = row.preimage) := by
        intro w' row' hrow'
        rw [htheirs hrow', hours]
        simp [Field.get, SendSyncData.ofSwap]
      have hsurvives : Survives (c.updatedFields.getD []) (.send (.ofSwap row)) (.send theirs) .preimage ↔
          (if Field.preimage.name ∈ c.updatedFields.getD [] then row.preimage.or theirs.preimage
            else theirs.preimage) = row.preimage := by
        have hor : row.preimage.or theirs.preimage = row.preimage := by
          obtain ⟨preimage, hpreimage⟩ := Option.isSome_iff_exists.mp hsome
          rw [hpreimage]
          rfl
        rw [hor]
        refine Iff.trans or_iff_not_imp_left ?_
        simp [Field.get, SendSyncData.ofSwap]
      rw [hsurvives]
      constructor
      · intro hkept
        rw [← hpreimage₁]
        exact (hvalue hrow₁).mp (hkept w₁ hw₁)
      · intro hmerged w' hw'
        obtain ⟨row', hrow', hpreimage | hnone⟩ := hafter w' hw'
        · exact (hvalue hrow').mpr (hpreimage.trans hmerged)
        · -- the merged preimage is the local one, so there is no room for a recovered one
          rw [← hmerged, hnone] at hsome
          cases hsome
  | _ => cases hf

/-- ... of the derivation index ... -/
theorem kept_index {ours theirs : Nat} (h : Receives sdk w.db record (.lastDerivationIndex theirs))
    (hc : w.db.syncOutgoing.get? record.id = some c) (hq : QueuedAs .lastDerivationIndex c)
    (hours : w.db.lastDerivationIndex = some ours) (dataId : DataId) {f : Field}
    (hf : f.recordType = .lastDerivationIndex) :
    KeptByPulls sdk record w .lastDerivationIndex dataId f ↔
      Survives (c.updatedFields.getD []) (.lastDerivationIndex ours) (.lastDerivationIndex theirs) f := by
  obtain ⟨hexists, hafter⟩ := pulls_index h hc hq.recordType_eq (hq.index rfl) hours
  have hvalue : ∀ {w' : World} {index : Nat}, w'.db.lastDerivationIndex = some index →
      fieldValue w'.db .lastDerivationIndex dataId .lastDerivationIndex = some (.amount (some index)) := by
    intro w' index hindex
    have hload : w'.db.loadSyncData dataId .lastDerivationIndex = .ok (.lastDerivationIndex index) := by
      show (okOr w'.db.lastDerivationIndex _).map _ = _
      rw [hindex]
      rfl
    exact fieldValue_of_load _ hload
  cases f with
  | lastDerivationIndex =>
      rw [keptByPulls_iff hexists fun w' hw' => hvalue (hafter w' hw'), hvalue hours]
      constructor
      · intro hmax index index' hours' htheirs'
        cases hours'
        cases htheirs'
        have hle : max ours theirs = ours := by simpa using hmax
        omega
      · intro hle
        have hle : theirs ≤ ours := hle ours theirs rfl rfl
        rw [max_eq_left hle]
  | _ => cases hf

/-- ... of the details of a payment ... -/
theorem kept_details {row theirs : PaymentTxDetails} (h : Receives sdk w.db record (.paymentDetails theirs))
    (hc : w.db.syncOutgoing.get? record.id = some c) (hq : QueuedAs .paymentDetails c)
    (hrow : w.db.paymentDetails.get? theirs.txId = some row) {f : Field} (hf : f.recordType = .paymentDetails) :
    KeptByPulls sdk record w .paymentDetails theirs.txId f ↔
      Survives (c.updatedFields.getD []) (.paymentDetails row) (.paymentDetails theirs) f := by
  obtain ⟨hexists, hafter⟩ := pulls_details h hc (hq.details rfl)
  have hvalue : ∀ {w' : World} {row' : PaymentTxDetails}, w'.db.paymentDetails.get? theirs.txId = some row' →
      fieldValue w'.db .paymentDetails theirs.txId f = f.get (.paymentDetails row') := by
    intro w' row' hrow'
    refine fieldValue_of_load f ?_
    show (okOr (w'.db.paymentDetails.get? theirs.txId) _).map _ = _
    rw [hrow']
    rfl
  let merged : PaymentTxDetails :=
    { row with
      destination := theirs.destination
      description := theirs.description.or row.description
      lnurlInfo := theirs.lnurlInfo.or row.lnurlInfo
      bip353Address := theirs.bip353Address.or row.bip353Address
      payerNote := theirs.payerNote.or row.payerNote
      assetFees := theirs.assetFees.or row.assetFees }
  have hmerged : ∀ w', Pulls sdk record w w' →
      fieldValue w'.db .paymentDetails theirs.txId f = f.get (.paymentDetails merged) := by
    intro w' hw'
    refine hvalue ?_
    rw [hafter w' hw']
    unfold Db.insertOrUpdatePaymentDetailsInner
    dsimp only
    rw [hrow]
    dsimp only
    rw [Table.get?_updateWhere, hrow, Option.map_some, if_pos (decide_eq_true (Table.get?_some_key hrow))]
    rfl
  have hor : ∀ {α : Type} (a b : Option α), a.or b = b ↔ a = none ∨ a = b := by
    intro α a b
    cases a <;> simp
  rw [keptByPulls_iff hexists hmerged, hvalue hrow]
  cases f with
  | destination => simp [Survives, Field.get, merged]
  | description => simp [Survives, Field.get, merged, hor]
  | lnurlInfo => simp [Survives, Field.get, merged, hor]
  | bip353Address => simp [Survives, Field.get, merged, hor]
  | payerNote => simp [Survives, Field.get, merged, hor]
  | assetFees => simp [Survives, Field.get, merged, hor]
  | _ => cases hf

/-- ... and of an offer. -/
theorem kept_offer {row theirs : Bolt12Offer} (h : Receives sdk w.db record (.bolt12Offer theirs))
    (hc : w.db.syncOutgoing.get? record.id = some c) (htype : c.recordType = .bolt12Offer)
    (hrow : w.db.bolt12Offers.get? theirs.id = some row) {f : Field} (hf : f.recordType = .bolt12Offer) :
    KeptByPulls sdk record w .bolt12Offer theirs.id f ↔
      Survives (c.updatedFields.getD []) (.bolt12Offer row) (.bolt12Offer theirs) f := by
  obtain ⟨hexists, hafter⟩ := pulls_offer h hc htype hrow
  have hvalue : ∀ {w' : World} {row' : Bolt12Offer}, w'.db.bolt12Offers.get? theirs.id = some row' →
      fieldValue w'.db .bolt12Offer theirs.id f = f.get (.bolt12Offer row') := by
    intro w' row' hrow'
    refine fieldValue_of_load f ?_
    show (okOr (w'.db.bolt12Offers.get? theirs.id) _).map _ = _
    rw [hrow']
    rfl
  cases f with
  | webhookUrl =>
      rw [keptByPulls_iff (v := some (.text (if Field.webhookUrl.name ∈ c.updatedFields.getD []
        then row.webhookUrl else theirs.webhookUrl))) hexists, hvalue hrow]
      · refine Iff.trans ?_ or_iff_not_imp_left.symm
        simp [Field.get]
      · intro w' hw'
        obtain ⟨row', hrow', hwebhook⟩ := hafter w' hw'
        rw [hvalue hrow', ← hwebhook]
        rfl
  | _ => cases hf

end Survives

/-- A send swap has its preimage. -/
def HasPreimage (db : Db) (swapId : SwapId) : Prop :=
  ∃ row, db.sendSwaps.get? swapId = some row ∧ row.preimage.isSome

/-- A preimage that was there, or was changed by one of the calls, is there after them. -/
theorem commits_preimage {p : Persister} {swapId : SwapId} {db db' : Db} {commits : List Commit}
    (h : Commits p .send swapId db commits db')
    (hsome : HasPreimage db swapId ∨ Changed .send swapId .preimage commits) : HasPreimage db' swapId := by
  induction h with
  | nil db =>
      rcases hsome with hsome | ⟨commit, hmem, -⟩
      · exact hsome
      · cases hmem
  | cons hexec htype hid hnames hrest ih =>
      rename_i db db₁ db' now call commits
      have hstep : ∀ {row : SendSwap}, db.sendSwaps.get? swapId = some row → ∃ row₁,
          db₁.sendSwaps.get? swapId = some row₁ ∧ (row₁.preimage = row.preimage ∨ row₁.preimage.isSome) := by
        intro row hrow
        rw [← hid] at hrow ⊢
        exact exec_preimage hexec hnames htype hrow
      have hvalue : ∀ {db : Db} {v : FieldValue}, fieldValue db .send swapId .preimage = some v →
          ∃ row, db.sendSwaps.get? swapId = some row ∧ v = .text row.preimage := by
        intro db v hv
        unfold fieldValue at hv
        obtain ⟨data, hload, hget⟩ := Option.bind_eq_some_iff.mp hv
        cases hdata : db.loadSyncData swapId .send with
        | error err =>
            rw [hdata] at hload
            cases hload
        | ok data' =>
            obtain ⟨s, hs, rfl⟩ := okOr_map_eq_ok.mp hdata
            obtain ⟨row, hrow, rfl⟩ := Db.fetchSendSwapById_eq_some hs
            rw [hdata] at hload
            cases hload
            exact ⟨row, hrow, (Option.some.inj hget).symm⟩
      rcases hsome with ⟨row, hrow, hsome⟩ | ⟨commit, hmem, v, v', hv, hv', hne⟩
      · obtain ⟨row₁, hrow₁, hsame | hsome₁⟩ := hstep hrow
        · exact ih (.inl ⟨row₁, hrow₁, hsame ▸ hsome⟩)
        · exact ih (.inl ⟨row₁, hrow₁, hsome₁⟩)
      · rcases List.mem_cons.mp hmem with rfl | hmem
        · -- the preimage is changed by this call, so it is there now
          obtain ⟨row, hrow, rfl⟩ := hvalue hv
          obtain ⟨row', hrow', rfl⟩ := hvalue hv'
          obtain ⟨row₁, hrow₁, hstep⟩ := hstep hrow
          cases hrow₁.symm.trans hrow'
          rcases hstep with hsame | hsome₁
          · rw [hsame] at hne
            exact absurd rfl hne
          · exact ih (.inl ⟨row', hrow', hsome₁⟩)
        · exact ih (.inr ⟨commit, hmem, v, v', hv, hv', hne⟩)

/-! ## The pull after the calls -/

section Main

variable (sdk : Sdk)

/-- A device and a record since it was last pushed: the calls for it, and then the pull of another version. -/
structure PulledAfter (recordType : RecordType) (dataId : DataId) (db : Db) (commits : List Commit) (w : World)
    (record : Record) (ours theirs : SyncData) : Prop where
  /-- The sync service runs. -/
  syncs : sdk.persister.syncTrigger = true
  pushed : db.syncOutgoing.get? (Record.getIdFromRecordType sdk.persister.codec recordType dataId) = none
  commits : Commits sdk.persister recordType dataId db commits w.db
  loads : w.db.loadSyncData dataId recordType = .ok ours
  receives : Receives sdk w.db record theirs
  same : theirs.recordType = recordType ∧ theirs.id = dataId
  /-- The id of a chain swap is not that of another swap. -/
  ids : recordType = .chain → w.db.sendSwaps.get? dataId = none ∧ w.db.receiveSwaps.get? dataId = none

variable {sdk} {recordType : RecordType} {dataId : DataId} {db : Db} {commits : List Commit} {w : World}
  {record : Record} {ours theirs : SyncData}

/-- Whether a changed field survives depends on the names since the last call without names. -/
theorem PulledAfter.kept_iff (h : PulledAfter sdk recordType dataId db commits w record ours theirs) {f : Field}
    (hchanged : Changed recordType dataId f commits) :
    KeptByPulls sdk record w recordType dataId f ↔
      Survives (namedSince [] (commits.map Commit.names)) ours theirs f := by
  obtain ⟨commit, hmem, v, -, hv, -, -⟩ := id hchanged
  have hf := recordType_of_fieldValue hv
  obtain ⟨hnames, hqueue⟩ := commits_queue h.syncs h.commits
  obtain ⟨c, hc, hq⟩ := hqueue (List.ne_nil_of_mem hmem)
  obtain ⟨htype, hid⟩ := h.same
  have hrecordId : Record.getIdFromRecordType sdk.persister.codec recordType dataId = record.id := by
    rw [h.receives.id_eq, ← htype, ← hid]
    rfl
  have hnamed : namedSince [] (commits.map Commit.names) = c.updatedFields.getD [] := by
    unfold queuedNames at hnames
    rw [hc, h.pushed] at hnames
    exact hnames.symm
  rw [hnamed]
  rw [hrecordId] at hc
  have hloads := h.loads
  have hreceives := h.receives
  -- the pulled record is of the kind of the field; each kind is committed in its own way
  cases theirs with
  | chain data =>
      cases htype
      cases hid
      obtain ⟨s, hs, rfl⟩ := okOr_map_eq_ok.mp hloads
      obtain ⟨row, hrow, rfl⟩ := Db.fetchChainSwapById_eq_some hs
      obtain ⟨hsend, hreceive⟩ := h.ids rfl
      exact kept_chain hreceives hc hq.recordType_eq hrow hsend hreceive hf.symm
  | send data =>
      cases htype
      cases hid
      obtain ⟨s, hs, rfl⟩ := okOr_map_eq_ok.mp hloads
      obtain ⟨row, hrow, rfl⟩ := Db.fetchSendSwapById_eq_some hs
      -- the only field of a send swap that is committed by name
      have hpreimage : f = .preimage := by
        cases f with
        | preimage => rfl
        | _ => cases hf
      subst hpreimage
      obtain ⟨row', hrow', hsome⟩ := commits_preimage h.commits (.inr hchanged)
      cases hrow.symm.trans hrow'
      exact kept_send hreceives hc hq.recordType_eq hrow hsome hf.symm
  | receive data =>
      cases htype
      cases f <;> cases hf
  | lastDerivationIndex index =>
      cases htype
      obtain ⟨index', hindex, rfl⟩ := okOr_map_eq_ok.mp hloads
      exact kept_index hreceives hc hq hindex dataId hf.symm
  | paymentDetails data =>
      cases htype
      cases hid
      obtain ⟨row, hrow, rfl⟩ := okOr_map_eq_ok.mp hloads
      exact kept_details hreceives hc hq hrow hf.symm
  | bolt12Offer data =>
      cases htype
      cases hid
      obtain ⟨row, hrow, rfl⟩ := okOr_map_eq_ok.mp hloads
      exact kept_offer hreceives hc hq.recordType_eq hrow hf.symm

/-- Every pull keeps all changed fields exactly when each of them is named since the last call without names,
or survives because of what the pulled record has. -/
theorem changed_kept_iff (h : PulledAfter sdk recordType dataId db commits w record ours theirs) :
    (∀ f, Changed recordType dataId f commits → KeptByPulls sdk record w recordType dataId f) ↔
      ∀ f, Changed recordType dataId f commits →
        Survives (namedSince [] (commits.map Commit.names)) ours theirs f := by
  constructor
  · intro hkept f hchanged
    exact (h.kept_iff hchanged).mp (hkept f hchanged)
  · intro hsurvives f hchanged
    exact (h.kept_iff hchanged).mpr (hsurvives f hchanged)

end Main

/-! ## A preimage that is forgotten -/

/-- The remote's version of the swap, without a preimage. -/
def remoteSwap : SyncData := .send (.ofSwap { id := "s" })

def remoteSdk : Sdk where
  bz := .byAddress 0
  persister := { codec := .table fun text => if text = "r" then some remoteSwap else none }

def remoteRecord : Record := { id := "send-swap:s", revision := 2, data := "r" }

/-- A pushed swap, its preimage at time 1, and its lockup at time 2. -/
def pushedDb : Db := { sendSwaps := (∅ : Table SendSwap.id).insertNew { id := "s" } }

def preimageDb : Db := pushedDb.tryHandleSendSwapUpdate remoteSdk.persister 1 "s" .pending (some "p") none none

def lockupDb : Db := preimageDb.tryHandleSendSwapUpdate remoteSdk.persister 2 "s" .pending none (some "l") none

def preimageCommit : Commit := ⟨pushedDb, preimageDb, some ["preimage"]⟩

def lockupCommit : Commit := ⟨preimageDb, lockupDb, none⟩

theorem remoteRecord_receives {db : Db} (hnew : db.getSyncStateByRecordId remoteRecord.id = none) :
    Receives remoteSdk db remoteRecord remoteSwap where
  applicable := by decide +kernel
  newer := by
    intro s hs
    rw [hnew] at hs
    cases hs
  decrypts := by decide +kernel
  id_eq := by decide +kernel

/-- The preimage is learned ... -/
theorem preimage_changed : fieldValue pushedDb .send "s" .preimage = some (.text none) ∧
    fieldValue preimageDb .send "s" .preimage = some (.text (some "p")) := by
  decide +kernel

/-- ... by this write ... -/
theorem preimage_exec : LocalWrite.exec remoteSdk.persister 1
    (.tryHandleSendSwapUpdate "s" .pending (some "p") none none) pushedDb = .ok preimageDb := rfl

/-- ... and the lockup by that one. -/
theorem lockup_exec : LocalWrite.exec remoteSdk.persister 2
    (.tryHandleSendSwapUpdate "s" .pending none (some "l") none) preimageDb = .ok lockupDb := rfl

/-- Only the preimage is given: it is named, and every pull keeps it. -/
theorem changed_kept_preimage :
    KeptByPulls remoteSdk remoteRecord { db := preimageDb } .send "s" .preimage := by
  have hpulled : PulledAfter remoteSdk .send "s" pushedDb [preimageCommit] { db := preimageDb } remoteRecord
      (.send (.ofSwap { id := "s", preimage := some "p" })) remoteSwap :=
    { syncs := rfl
      pushed := by decide +kernel
      commits := .cons preimage_exec rfl rfl (by decide) (.nil _)
      loads := by decide +kernel
      receives := remoteRecord_receives (by decide +kernel)
      same := ⟨rfl, rfl⟩
      ids := nofun }
  have hkept := (changed_kept_iff hpulled).mpr fun f hf => by
    obtain ⟨commit, -, v, -, hv, -, -⟩ := hf
    have hrecord := recordType_of_fieldValue hv
    cases f with
    | preimage => exact .inl (by decide)
    | _ => cases hrecord
  refine hkept .preimage ⟨preimageCommit, by simp, .text none, .text (some "p"), ?_, ?_, ?_⟩
  · exact preimage_changed.1
  · exact preimage_changed.2
  · decide

/-- The lockup is given after the preimage, and the preimage is overwritten by a pull. -/
theorem changed_kept_lockup : ¬ ∀ (sdk : Sdk) (recordType : RecordType) (dataId : DataId) (db : Db)
    (commits : List Commit) (w : World) (record : Record) (ours theirs : SyncData),
    PulledAfter sdk recordType dataId db commits w record ours theirs →
      ∀ f, Changed recordType dataId f commits → KeptByPulls sdk record w recordType dataId f := by
  intro h
  have hpulled : PulledAfter remoteSdk .send "s" pushedDb [preimageCommit, lockupCommit] { db := lockupDb }
      remoteRecord (.send (.ofSwap { id := "s", preimage := some "p" })) remoteSwap :=
    { syncs := rfl
      pushed := by decide +kernel
      commits := .cons preimage_exec rfl rfl (by decide) (.cons lockup_exec rfl rfl (by decide) (.nil _))
      loads := by decide +kernel
      receives := remoteRecord_receives (by decide +kernel)
      same := ⟨rfl, rfl⟩
      ids := nofun }
  have hchanged : Changed .send "s" .preimage [preimageCommit, lockupCommit] :=
    ⟨preimageCommit, List.mem_cons_self, _, _, preimage_changed.1, preimage_changed.2, by decide⟩
  -- the write of the lockup id gave no names, so none is left, and the pulled record has another value
  have hsurvives := (hpulled.kept_iff hchanged).mp (h _ _ _ _ _ _ _ _ _ hpulled .preimage hchanged)
  rcases hsurvives with hnamed | hsame
  · exact absurd hnamed (by decide)
  · exact absurd hsame (by decide)

end BreezLiquid.Sync
