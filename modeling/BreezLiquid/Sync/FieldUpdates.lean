/-
# BreezLiquid.Sync.FieldUpdates — changed fields, from a local write to the queue.

Every method that queues a change names the fields that it updates, or none. The names of a record add up until
a call without names replaces them. A merge replays the named fields over the pulled data.

`Commits` is a sequence of local writes with the names of each. `commits_queue` says what is queued after it: the names
since the last call that gave none. What a merge makes of a field is `mergeFields_get` where the field is named, and
`mergeFields_keeps` where it has no name, for every kind at once.
-/
import BreezLiquid.Sync.Service

namespace BreezLiquid.Sync

open Interleaving Recover Tables

/-! ## Fields -/

/-- The fields that a merge knows. -/
inductive Field where
  | acceptZeroConf
  | acceptedReceiverAmountSat
  | autoAcceptedFees
  | preimage
  | lastDerivationIndex
  | destination
  | description
  | lnurlInfo
  | bip353Address
  | payerNote
  | assetFees
  | webhookUrl
  deriving DecidableEq, Repr

inductive FieldValue where
  | flag (value : Bool)
  | amount (value : Option Nat)
  | text (value : Option String)
  deriving DecidableEq, Repr

namespace Field

/-- The name of the field in a list of updated fields. -/
def name : Field → String
  | acceptZeroConf => "accept_zero_conf"
  | acceptedReceiverAmountSat => "accepted_receiver_amount_sat"
  | autoAcceptedFees => "auto_accepted_fees"
  | preimage => "preimage"
  | lastDerivationIndex => LAST_DERIVATION_INDEX_DATA_ID
  | destination => "destination"
  | description => "description"
  | lnurlInfo => "lnurl_info"
  | bip353Address => "bip353_address"
  | payerNote => "payer_note"
  | assetFees => "asset_fees"
  | webhookUrl => "webhook_url"

/-- The value of the field, in data of its kind. -/
def get : Field → SyncData → Option FieldValue
  | acceptZeroConf, .chain data => some (.flag data.acceptZeroConf)
  | acceptedReceiverAmountSat, .chain data => some (.amount data.acceptedReceiverAmountSat)
  | autoAcceptedFees, .chain data => some (.flag data.autoAcceptedFees)
  | preimage, .send data => some (.text data.preimage)
  | lastDerivationIndex, .lastDerivationIndex index => some (.amount (some index))
  | destination, .paymentDetails data => some (.text (some data.destination))
  | description, .paymentDetails data => some (.text data.description)
  | lnurlInfo, .paymentDetails data => some (.text data.lnurlInfo)
  | bip353Address, .paymentDetails data => some (.text data.bip353Address)
  | payerNote, .paymentDetails data => some (.text data.payerNote)
  | assetFees, .paymentDetails data => some (.amount data.assetFees)
  | webhookUrl, .bolt12Offer data => some (.text data.webhookUrl)
  | _, _ => none

end Field

/-- The value of a field as it is in the tables. -/
def fieldValue (db : Db) (recordType : RecordType) (dataId : DataId) (f : Field) : Option FieldValue :=
  (db.loadSyncData dataId recordType).toOption.bind f.get

/-! ## The calls of `commit_outgoing` -/

/-- The methods of the persister that queue a change. `next_derivation_index` is `set_last_derivation_index` of
the next index, and `insert_or_update_payment` with details that are not the wallet's writes them as
`insert_or_update_payment_details` does. A swap that is fetched again for its updated fields is the row that is
then written, or the write fails; an offer may have been fetched from an older row. -/
inductive LocalWrite where
  | insertOrUpdateChainSwap (s : ChainSwap)
  | updateChainSwapAcceptZeroConf (swapId : SwapId) (acceptZeroConf : Bool)
  | updateAcceptedReceiverAmount (swapId : SwapId) (acceptedReceiverAmountSat : Option Nat)
  | setChainSwapAutoAcceptedFees (swapId : SwapId)
  | insertOrUpdateSendSwap (s : SendSwap)
  | tryHandleSendSwapUpdate (swapId : SwapId) (toState : PaymentState)
      (preimage lockupTxId refundTxId : Option String)
  | insertOrUpdateReceiveSwap (s : ReceiveSwap)
  | setLastDerivationIndex (index : Nat)
  | insertOrUpdatePaymentDetails (details : PaymentTxDetails)
  | insertOrUpdateBolt12Offer (maybeOffer : Option Bolt12Offer) (offer : Bolt12Offer)

namespace LocalWrite

/-- The transaction of the method. -/
def exec (p : Persister) (now : Nat) : LocalWrite → Db → Except Err Db
  | insertOrUpdateChainSwap s, db => db.insertOrUpdateChainSwap p now (db.fetchChainSwapById s.id) s
  | updateChainSwapAcceptZeroConf swapId acceptZeroConf, db =>
      .ok (db.updateChainSwapAcceptZeroConf p now swapId acceptZeroConf)
  | updateAcceptedReceiverAmount swapId acceptedReceiverAmountSat, db =>
      .ok (db.updateAcceptedReceiverAmount p now swapId acceptedReceiverAmountSat)
  | setChainSwapAutoAcceptedFees swapId, db => .ok (db.setChainSwapAutoAcceptedFees p now swapId)
  | insertOrUpdateSendSwap s, db => db.insertOrUpdateSendSwap p now (db.fetchSendSwapById s.id) s
  | tryHandleSendSwapUpdate swapId toState preimage lockupTxId refundTxId, db =>
      .ok (db.tryHandleSendSwapUpdate p now swapId toState preimage lockupTxId refundTxId)
  | insertOrUpdateReceiveSwap s, db => db.insertOrUpdateReceiveSwap p now (db.fetchReceiveSwapById s.id) s
  | setLastDerivationIndex index, db => .ok (db.setLastDerivationIndex p now index)
  | insertOrUpdatePaymentDetails details, db => .ok (db.insertOrUpdatePaymentDetails p now details)
  | insertOrUpdateBolt12Offer maybeOffer offer, db =>
      .ok (db.insertOrUpdateBolt12Offer p now maybeOffer offer)

def recordType : LocalWrite → RecordType
  | insertOrUpdateChainSwap .. | updateChainSwapAcceptZeroConf .. | updateAcceptedReceiverAmount ..
  | setChainSwapAutoAcceptedFees .. => .chain
  | insertOrUpdateSendSwap .. | tryHandleSendSwapUpdate .. => .send
  | insertOrUpdateReceiveSwap .. => .receive
  | setLastDerivationIndex .. => .lastDerivationIndex
  | insertOrUpdatePaymentDetails .. => .paymentDetails
  | insertOrUpdateBolt12Offer .. => .bolt12Offer

def dataId : LocalWrite → DataId
  | insertOrUpdateChainSwap s => s.id
  | updateChainSwapAcceptZeroConf swapId _ | updateAcceptedReceiverAmount swapId _
  | setChainSwapAutoAcceptedFees swapId => swapId
  | insertOrUpdateSendSwap s => s.id
  | tryHandleSendSwapUpdate swapId .. => swapId
  | insertOrUpdateReceiveSwap s => s.id
  | setLastDerivationIndex _ => LAST_DERIVATION_INDEX_DATA_ID
  | insertOrUpdatePaymentDetails details => details.txId
  | insertOrUpdateBolt12Offer _ offer => offer.id

/-- The names that the method gives to `commit_outgoing`; there is no call for an empty list. -/
def updatedFields : LocalWrite → Db → Option (List String)
  | insertOrUpdateChainSwap s, db => ChainSyncData.updatedFields (db.fetchChainSwapById s.id) s
  | updateChainSwapAcceptZeroConf .., _ => some ["accept_zero_conf"]
  | updateAcceptedReceiverAmount .., _ => some ["accepted_receiver_amount_sat"]
  | setChainSwapAutoAcceptedFees .., _ => some ["auto_accepted_fees"]
  | insertOrUpdateSendSwap s, db => SendSyncData.updatedFields (db.fetchSendSwapById s.id) s
  | tryHandleSendSwapUpdate _ _ preimage _ _, _ => preimage.map fun _ => ["preimage"]
  | insertOrUpdateReceiveSwap s, db => ReceiveSyncData.updatedFields (db.fetchReceiveSwapById s.id)
  | setLastDerivationIndex _, _ => some [LAST_DERIVATION_INDEX_DATA_ID]
  | insertOrUpdatePaymentDetails _, _ => none
  | insertOrUpdateBolt12Offer maybeOffer offer, _ => Bolt12OfferSyncData.updatedFields maybeOffer offer

end LocalWrite

/-- A call of `commit_outgoing` with its names, and the database before and after its transaction. -/
structure Commit where
  before : Db
  after : Db
  names : Option (List String)

/-- Calls for one record, one after the other. -/
inductive Commits (p : Persister) (recordType : RecordType) (dataId : DataId) : Db → List Commit → Db → Prop where
  | nil (db : Db) : Commits p recordType dataId db [] db
  | cons {db db₁ db' : Db} {now : Nat} {call : LocalWrite} {commits : List Commit}
      (hexec : call.exec p now db = .ok db₁) (htype : call.recordType = recordType)
      (hid : call.dataId = dataId) (hnames : call.updatedFields db ≠ some [])
      (hrest : Commits p recordType dataId db₁ commits db') :
      Commits p recordType dataId db (⟨db, db₁, call.updatedFields db⟩ :: commits) db'

/-- One of the calls has given the field of the record another value. -/
def Changed (recordType : RecordType) (dataId : DataId) (f : Field) (commits : List Commit) : Prop :=
  ∃ commit ∈ commits, ∃ v v', fieldValue commit.before recordType dataId f = some v ∧
    fieldValue commit.after recordType dataId f = some v' ∧ v ≠ v'

/-- The names that are given after the last call without names. -/
def namedSince (names : List String) : List (Option (List String)) → List String
  | [] => names
  | none :: calls => namedSince [] calls
  | some fields :: calls => namedSince (names ++ fields) calls

/-! ## What is queued after the calls -/

section Queue

variable {p : Persister} {recordType : RecordType} {dataId : DataId}

/-- The names that are queued for a record. -/
def queuedNames (db : Db) (recordId : RecordId) : List String :=
  ((db.syncOutgoing.get? recordId).bind (·.updatedFields)).getD []

theorem get?_commitOutgoing (hsync : p.syncTrigger = true) (now : Nat) (fields : Option (List String)) (db : Db) :
    (db.commitOutgoing p now dataId recordType fields).syncOutgoing.get?
        (Record.getIdFromRecordType p.codec recordType dataId) =
      some { recordId := Record.getIdFromRecordType p.codec recordType dataId, dataId, recordType,
             commitTime := now,
             updatedFields := fields.map fun fields =>
               queuedNames db (Record.getIdFromRecordType p.codec recordType dataId) ++ fields } := by
  unfold Db.commitOutgoing
  rw [if_pos hsync]
  dsimp only
  rw [Table.get?_insertOrReplace, if_pos rfl]
  rfl

theorem commitUpdatedFields_eq {now : Nat} {fields : Option (List String)} (h : fields ≠ some []) (db : Db) :
    db.commitUpdatedFields p now dataId recordType fields =
      db.commitOutgoing p now dataId recordType fields := by
  unfold Db.commitUpdatedFields
  rw [if_neg h]

/-- A call writes its row, and then commits its names. -/
theorem exec_commits {now : Nat} {call : LocalWrite} {db db' : Db} (h : call.exec p now db = .ok db')
    (hfields : call.updatedFields db ≠ some []) : ∃ db₁ : Db, db₁.syncOutgoing = db.syncOutgoing ∧
      db' = db₁.commitOutgoing p now call.dataId call.recordType (call.updatedFields db) := by
  cases call with
  -- the inner insert of a swap writes its table only
  | insertOrUpdateChainSwap s =>
      obtain ⟨db₁, hinner, h⟩ := except_bind_eq_ok.mp h
      cases h
      refine ⟨db₁, ?_, commitUpdatedFields_eq hfields db₁⟩
      unfold Db.insertOrUpdateChainSwapInner at hinner
      dsimp only at hinner
      split at hinner
      · cases hinner
        rfl
      · cases hinner
  | insertOrUpdateSendSwap s =>
      obtain ⟨db₁, hinner, h⟩ := except_bind_eq_ok.mp h
      cases h
      refine ⟨db₁, ?_, commitUpdatedFields_eq hfields db₁⟩
      unfold Db.insertOrUpdateSendSwapInner at hinner
      dsimp only at hinner
      split at hinner
      · split at hinner
        · cases hinner
          rfl
        · cases hinner
      · split at hinner
        · cases hinner
          rfl
        · cases hinner
  | insertOrUpdateReceiveSwap s =>
      obtain ⟨db₁, hinner, h⟩ := except_bind_eq_ok.mp h
      cases h
      refine ⟨db₁, ?_, commitUpdatedFields_eq hfields db₁⟩
      unfold Db.insertOrUpdateReceiveSwapInner at hinner
      dsimp only at hinner
      split at hinner
      · cases hinner
        split
        · rfl
        · rfl
      · cases hinner
  | insertOrUpdateBolt12Offer maybeOffer offer =>
      cases h
      exact ⟨db.insertOrUpdateBolt12OfferInner offer, rfl, commitUpdatedFields_eq hfields _⟩
  | setLastDerivationIndex index =>
      cases h
      exact ⟨{ db with lastDerivationIndex := some index }, rfl, rfl⟩
  | insertOrUpdatePaymentDetails details =>
      cases h
      exact ⟨db.insertOrUpdatePaymentDetailsInner details false, rfl, rfl⟩
  | tryHandleSendSwapUpdate swapId toState preimage lockupTxId refundTxId =>
      cases h
      exact ⟨db.updateSendSwaps now _ _, rfl, rfl⟩
  | _ =>
      cases h
      exact ⟨db.updateChainSwaps now _ _, rfl, rfl⟩

/-- A queued change of the record. Index changes are named, and changes of payment details are not. -/
structure QueuedAs (recordType : RecordType) (c : SyncOutgoingChanges) : Prop where
  recordType_eq : c.recordType = recordType
  index : recordType = .lastDerivationIndex → c.updatedFields.isSome
  details : recordType = .paymentDetails → c.updatedFields = none

theorem exec_queue (hsync : p.syncTrigger = true) {now : Nat} {call : LocalWrite} {db db' : Db}
    (h : call.exec p now db = .ok db') (hfields : call.updatedFields db ≠ some []) :
    let recordId := Record.getIdFromRecordType p.codec call.recordType call.dataId
    queuedNames db' recordId = namedSince (queuedNames db recordId) [call.updatedFields db] ∧
      ∃ c, db'.syncOutgoing.get? recordId = some c ∧ QueuedAs call.recordType c := by
  obtain ⟨db₁, hqueue, rfl⟩ := exec_commits h hfields
  intro recordId
  have hnames : queuedNames db₁ recordId = queuedNames db recordId := by
    unfold queuedNames
    rw [hqueue]
  have hget : (db₁.commitOutgoing p now call.dataId call.recordType (call.updatedFields db)).syncOutgoing.get?
      recordId = _ := get?_commitOutgoing hsync now (call.updatedFields db) db₁
  refine ⟨?_, _, hget, rfl, ?_, ?_⟩
  · show ((Table.get? _ recordId).bind _).getD [] = _
    rw [hget, ← hnames]
    cases call.updatedFields db with
    | none => rfl
    | some fields => rfl
  · intro hindex
    cases call with
    | setLastDerivationIndex index => rfl
    | _ => cases hindex
  · intro hdetails
    cases call with
    | insertOrUpdatePaymentDetails details => rfl
    | _ => cases hdetails

/-- The names that are queued after the calls are those since the last call without names. -/
theorem commits_queue (hsync : p.syncTrigger = true) {commits : List Commit} {db db' : Db}
    (h : Commits p recordType dataId db commits db') :
    let recordId := Record.getIdFromRecordType p.codec recordType dataId
    queuedNames db' recordId = namedSince (queuedNames db recordId) (commits.map Commit.names) ∧
      (commits ≠ [] → ∃ c, db'.syncOutgoing.get? recordId = some c ∧ QueuedAs recordType c) := by
  intro recordId
  induction h with
  | nil db => exact ⟨rfl, fun hne => absurd rfl hne⟩
  | cons hexec htype hid hfields hcommits ih =>
      rename_i db db₁ db' now call commits
      obtain ⟨hnames, hqueued⟩ := exec_queue hsync hexec hfields
      have hrecord : Record.getIdFromRecordType p.codec call.recordType call.dataId = recordId := by
        rw [htype, hid]
      rw [hrecord] at hnames hqueued
      rw [htype] at hqueued
      obtain ⟨hrest, hlast⟩ := ih
      refine ⟨?_, fun _ => ?_⟩
      · rw [hrest, hnames]
        cases call.updatedFields db <;> simp [namedSince]
      · cases hcommits with
        | nil => exact hqueued
        | cons => exact hlast (List.cons_ne_nil _ _)

/-- A call leaves the preimage that there is, or there is one afterwards. -/
theorem exec_preimage {now : Nat} {call : LocalWrite} {db db' : Db} (h : call.exec p now db = .ok db')
    (hfields : call.updatedFields db ≠ some []) (htype : call.recordType = .send) {row : SendSwap}
    (hrow : db.sendSwaps.get? call.dataId = some row) :
    ∃ row', db'.sendSwaps.get? call.dataId = some row' ∧
      (row'.preimage = row.preimage ∨ row'.preimage.isSome) := by
  cases call with
  | insertOrUpdateSendSwap s =>
      obtain ⟨db₁, hinner, h⟩ := except_bind_eq_ok.mp h
      cases h
      refine ⟨_, (congrArg (Table.get? · _) (Db.commitUpdatedFields_sendSwaps ..)).trans
        (Db.get?_insertOrUpdateSendSwapInner hinner hrow), ?_⟩
      split
      · refine .inr ?_
        show s.preimage.isSome
        have hfetch : db.fetchSendSwapById s.id = some (row.withIsLocal (db.isLocal row.id)) := by
          unfold Db.fetchSendSwapById
          rw [show db.sendSwaps.get? s.id = some row from hrow]
          rfl
        have hnames : SendSyncData.updatedFields (db.fetchSendSwapById s.id) s ≠ some [] := hfields
        rw [hfetch] at hnames
        by_contra hnone
        refine hnames ?_
        simp [SendSyncData.updatedFields, hnone]
      · exact .inl rfl
  | tryHandleSendSwapUpdate swapId toState preimage lockupTxId refundTxId =>
      cases h
      refine ⟨_, (congrArg (Table.get? · _) (Db.commitOutgoing_sendSwaps ..)).trans
        ((Db.get?_updateSendSwaps now _ _ db _ _).trans (congrArg _ hrow)), ?_⟩
      dsimp only
      split
      · show row.preimage.or preimage = row.preimage ∨ (row.preimage.or preimage).isSome
        cases row.preimage with
        | none => cases preimage <;> simp
        | some _ => exact .inl rfl
      · exact .inl rfl
  | _ => cases htype

end Queue

/-! ## Merging -/

section Merge

variable {δ β : Type}

/-- What a replay of named fields makes of one of them: the picked value, if it is named. -/
theorem mergeFields_get (get : δ → β) (name : String) (pick : β → β) {field : δ → δ → String → δ} {other : δ}
    (hfield : ∀ base n, get (field base other n) = if n = name then pick (get base) else get base)
    (hpick : ∀ b, pick (pick b) = pick b) (base : δ) (l : List String) :
    get (mergeFields field base other l) = if name ∈ l then pick (get base) else get base := by
  induction l generalizing base with
  | nil => rfl
  | cons n l ih =>
      show get (mergeFields field (field base other n) other l) = _
      rw [ih, hfield]
      by_cases hn : n = name
      · simp [hn, hpick]
      · have hname : name ≠ n := fun h => hn h.symm
        simp [hn, hname]

theorem mergeFields_keeps (get : δ → β) {field : δ → δ → String → δ} {other : δ}
    (hfield : ∀ base n, get (field base other n) = get base) (base : δ) (l : List String) :
    get (mergeFields field base other l) = get base := by
  induction l generalizing base with
  | nil => rfl
  | cons n l ih =>
      show get (mergeFields field (field base other n) other l) = _
      rw [ih, hfield]

theorem chain_merge (base other : ChainSyncData) (l : List String) :
    (base.merge other l).swapId = base.swapId ∧
      (base.merge other l).acceptZeroConf =
        (if Field.acceptZeroConf.name ∈ l then other.acceptZeroConf else base.acceptZeroConf) ∧
      (base.merge other l).acceptedReceiverAmountSat =
        if Field.acceptedReceiverAmountSat.name ∈ l then other.acceptedReceiverAmountSat
        else base.acceptedReceiverAmountSat := by
  refine ⟨?_, ?_, ?_⟩
  · refine mergeFields_keeps ChainSyncData.swapId (fun base n => ?_) base l
    repeat' split
    all_goals rfl
  · refine mergeFields_get ChainSyncData.acceptZeroConf _ (fun _ => other.acceptZeroConf) (fun base n => ?_)
      (fun _ => rfl) base l
    dsimp only [Field.name]
    repeat' split
    all_goals simp_all
  · refine mergeFields_get ChainSyncData.acceptedReceiverAmountSat _
      (fun _ => other.acceptedReceiverAmountSat) (fun base n => ?_) (fun _ => rfl) base l
    dsimp only [Field.name]
    repeat' split
    all_goals simp_all

theorem send_merge (base other : SendSyncData) (l : List String) :
    (base.merge other l).swapId = base.swapId ∧
      (base.merge other l).preimage =
        if Field.preimage.name ∈ l then other.preimage.or base.preimage else base.preimage := by
  constructor
  · refine mergeFields_keeps SendSyncData.swapId (fun base n => ?_) base l
    split <;> rfl
  · refine mergeFields_get SendSyncData.preimage _ (fun b => other.preimage.or b) (fun base n => ?_)
      (fun b => ?_) base l
    · exact apply_ite SendSyncData.preimage (n = "preimage") _ _
    · cases other.preimage <;> rfl

theorem bolt12Offer_merge (base other : Bolt12OfferSyncData) (l : List String) :
    (Bolt12OfferSyncData.merge base other l).id = base.id ∧
      (Bolt12OfferSyncData.merge base other l).webhookUrl =
        if Field.webhookUrl.name ∈ l then other.webhookUrl else base.webhookUrl := by
  constructor
  · refine mergeFields_keeps Bolt12Offer.id (fun base n => ?_) base l
    split <;> rfl
  · refine mergeFields_get Bolt12Offer.webhookUrl _ (fun _ => other.webhookUrl) (fun base n => ?_)
      (fun _ => rfl) base l
    exact apply_ite Bolt12Offer.webhookUrl (n = "webhook_url") _ _

end Merge

end BreezLiquid.Sync
