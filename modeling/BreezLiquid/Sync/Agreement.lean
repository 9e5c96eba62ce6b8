/-
# BreezLiquid.Sync.Agreement — all devices know a swap by the same keys.

A device pushes the swaps it created, and the others insert what they pull. Whoever has a row of a swap, has the
scripts, keys and preimage it was created with, so any device can claim or refund it.

The remote is only trusted to invent no payload. It may take a record whose push is never answered, and serve old
records again, in any order and under other ids.
-/
import BreezLiquid.Lib.Store
import BreezLiquid.Sync.Origin
import BreezLiquid.Sync.Terms

namespace BreezLiquid

open Interleaving Recover Tables

/-! ## The invariant -/

namespace Sync

section Agreement

variable (codec : SyncCodec) (created : SyncData → Prop)

/-- If the data is one of a swap, it has the terms of a swap that was created. -/
def FromCreated (data : SyncData) : Prop := ∀ terms, data.swapTerms = some terms → created terms

/-- What the payload decrypts to has the terms of a created swap. -/
def GoodPayload (payload : String) : Prop := ∀ data, codec.decrypt payload = .ok data → FromCreated created data

/-- All that a device has of swaps has the terms of created ones. -/
structure Agreed (w : World) : Prop where
  rows : ∀ id swap, RowOf w.db id swap → FromCreated created swap.syncData
  incoming : ∀ record ∈ w.db.syncIncoming.rows, GoodPayload codec created record.data
  remotes : ∀ url, ∀ record ∈ (w.remotes url).records, GoodPayload codec created record.data

variable {codec created}

theorem FromCreated.congr {data data' : SyncData} (h : FromCreated created data)
    (heq : data'.swapTerms = data.swapTerms) : FromCreated created data' := by
  intro terms hterms
  exact h terms (heq.symm.trans hterms)

/-- Rows keep their terms or are inserted with created ones, and good records come in. -/
theorem Agreed.step {w w' : World} (h : Agreed codec created w)
    (hrows : ∀ id swap, RowOf w'.db id swap →
      (∃ old, RowOf w.db id old ∧ swap.terms = old.terms) ∨ FromCreated created swap.syncData)
    (hincoming : ∀ record ∈ w'.db.syncIncoming.rows, record ∈ w.db.syncIncoming.rows ∨
      GoodPayload codec created record.data)
    (hremotes : w'.remotes = w.remotes) : Agreed codec created w' where
  rows id swap hrow := by
    rcases hrows id swap hrow with ⟨old, hold, hterms⟩ | hcreated
    · exact (h.rows id old hold).congr (Swap.syncTerms_congr hterms)
    · exact hcreated
  incoming record hrecord := (hincoming record hrecord).elim (h.incoming record) id
  remotes url := by
    rw [hremotes]
    exact h.remotes url

/-- A transaction on other tables. -/
theorem Agreed.of_sameRows {w w' : World} (h : Agreed codec created w) (hsend : w'.db.sendSwaps = w.db.sendSwaps)
    (hreceive : w'.db.receiveSwaps = w.db.receiveSwaps) (hchain : w'.db.chainSwaps = w.db.chainSwaps)
    (hincoming : ∀ record ∈ w'.db.syncIncoming.rows, record ∈ w.db.syncIncoming.rows ∨
      GoodPayload codec created record.data)
    (hremotes : w'.remotes = w.remotes) : Agreed codec created w' :=
  h.step (fun _ swap hrow => .inl ⟨swap, rowOf_congr hsend hreceive hchain hrow, rfl⟩) hincoming hremotes

/-- An event changes nothing. -/
theorem Agreed.of_db {w w' : World} (h : Agreed codec created w) (hdb : w'.db = w.db)
    (hremotes : w'.remotes = w.remotes) : Agreed codec created w' := by
  refine h.of_sameRows ?_ ?_ ?_ ?_ hremotes
  all_goals rw [hdb]
  exact fun record hrecord => .inl hrecord

end Agreement

/-! ## Devices and the remote -/

section Devices

variable (sdk : Sdk) (created : SyncData → Prop)

/-- What the rest of the wallet does: transactions of the persister. The swaps it inserts were created. -/
structure WalletWrites (w w' : World) : Prop where
  transactions : ∃ l, w'.db = w.db.performAll sdk.persister l
  inserted : ∀ id swap, RowOf w'.db id swap →
    (∃ old, RowOf w.db id old ∧ swap.recordType = old.recordType) ∨ FromCreated created swap.syncData
  incoming : w'.db.syncIncoming = w.db.syncIncoming
  remotes : w'.remotes = w.remotes

/-- A device: any operations of the sync service at the same time, among local writes. -/
def device : System World Call Call.Answer Err Unit where
  effect := World.effect sdk
  spawns _ _ _ t := SyncTask sdk t
  env := WalletWrites sdk created

/-- A push sends a payload, a pull is told some. -/
def syncMail : Mail Call Call.Answer String where
  sends
    | .push record => some record.data
    | _ => none
  carries
    | .pull _, .ok records => records.map Record.data
    | _, _ => []

def agreement : Protocol World Unit :=
  .uniform (Agreed sdk.persister.codec created) (fun _ _ => True) (fun _ => trivial) fun _ _ => trivial

/-- The task keeps the terms, as long as it is told good payloads. -/
abbrev SafeAgreed {α : Type} (t : Async α) (post : Except Err α → World → Prop) (w : World) : Prop :=
  Safe ((device sdk created).receiving syncMail (GoodPayload sdk.persister.codec created)) .any
    (agreement sdk created) () t post w

variable {sdk created}

/-- What only reads, and leaves events. -/
theorem agreed_reading {α : Type} {t : Async α}
    (hwithin : t.Within (fun f => ∀ w, (f w).db = w.db ∧ (f w).remotes = w.remotes) Call.Quiet) (w : World) :
    SafeAgreed sdk created t (fun _ _ => True) w := by
  refine safe_of_within (J := fun _ => True) (fun _ _ _ _ _ => trivial) ?_ ?_ hwithin trivial
  · intro f hf w₁ hi _ _
    exact ⟨Agreed.of_db hi (hf w₁).1 (hf w₁).2, trivial, trivial⟩
  · intro q hq a w₁ hi _ _
    rw [show ((device sdk created).receiving syncMail _).effect q a w₁ = w₁ from effect_of_quiet sdk hq a w₁]
    exact ⟨hi, trivial, trivial⟩

/-! ## Pulling -/

theorem agreed_mergeOutgoing_bind {α : Type} {data : SyncData} {out : Option SyncOutgoingChanges}
    {k : SyncData → Async α} {ψ : α → World → Prop} {w : World} (hdata : FromCreated created data)
    (h : ∀ data' w', FromCreated created data' → SafeAgreed sdk created (k data') (OnOk ψ) w') :
    SafeAgreed sdk created ((mergeOutgoing data out).bind k) (OnOk ψ) w := by
  unfold mergeOutgoing
  split
  · rw [Task.bind_eq, Task.bind_assoc]
    refine safe_reads_bind (fun _ => trivial) fun w₁ _ _ => ?_
    rw [Task.bind_eq, Task.bind_assoc]
    refine Safe.ofExcept_bind fun localData _ => ?_
    refine Safe.ofExcept_bind fun data' hmerge => ?_
    exact h data' w₁ (hdata.congr (SyncData.swapTerms_merge hmerge))
  · exact h data w hdata

theorem agreed_handleDecryption {record : Record} (hgood : GoodPayload sdk.persister.codec created record.data)
    (w : World) : SafeAgreed sdk created (handleDecryption sdk record)
      (OnOk fun info _ => FromCreated created info.record.data) w := by
  refine Safe.ofExcept_bind fun applicable _ => ?_
  split
  · exact safe_error
  · unfold checkRevision
    rw [Task.bind_eq, Task.bind_eq, Task.bind_assoc]
    refine safe_reads_bind (fun _ => trivial) fun w₁ _ _ => ?_
    dsimp only
    split
    · exact safe_error
    · refine Safe.ofExcept_bind fun maybeSyncState _ => ?_
      refine Safe.ofExcept_bind fun decrypted hdecrypted => ?_
      obtain ⟨data, hdata, hdecrypted⟩ := except_bind_eq_ok.mp hdecrypted
      cases hdecrypted
      intro w₂ _ hi₂ _
      refine ⟨Agreed.of_db hi₂ rfl rfl, trivial, ?_⟩
      exact agreed_mergeOutgoing_bind (hgood data hdata) fun data' w₃ hdata' => safe_ok fun _ _ _ => hdata'

theorem agreed_decryptRecords {records : List Record}
    (hgood : ∀ record ∈ records, GoodPayload sdk.persister.codec created record.data) (w : World) :
    SafeAgreed sdk created (decryptRecords sdk records)
      (OnOk fun out _ => ∀ info ∈ out.1, FromCreated created info.record.data) w := by
  induction records generalizing w with
  | nil => exact safe_ok fun _ _ _ info hinfo => absurd hinfo List.not_mem_nil
  | cons record records ih =>
      refine Safe.bind ((Safe.attempt_ok (agreed_handleDecryption (hgood record List.mem_cons_self) w)).mono
        fun res w₁ _ hres => ?_)
      cases res with
      | error err => trivial
      | ok res =>
          refine Safe.bind ((ih (fun record' h => hgood record' (List.mem_cons_of_mem _ h)) w₁).mono
            fun x w₂ _ hx => ?_)
          cases x with
          | error err => trivial
          | ok out =>
              obtain ⟨decrypted, known⟩ := out
              dsimp only
              split
              · rename_i info
                refine safe_ok fun _ _ _ i hi => ?_
                rcases List.mem_cons.mp hi with rfl | hi
                · exact hres _ rfl
                · exact hx i hi
              · exact safe_ok fun _ _ _ => hx
              · exact safe_ok fun _ _ _ => hx

/-- The swap of a record has the terms of its data. -/
def SameTerms (info : DecryptionInfo) (swap : Swap) : Prop :=
  swap.syncData.swapTerms = info.record.data.swapTerms

theorem toLocalSwap_terms (info : DecryptionInfo) :
    (toLocalSwap sdk info.record).Yields fun x => ∀ swap, x = .ok swap → SameTerms info swap := by
  have herror : ∀ err : Err, ∀ swap, Except.error err = .ok swap → SameTerms info swap := by
    intro err swap h
    cases h
  unfold toLocalSwap
  refine Task.Yields.ofExcept_bind herror fun swap hswap w => ?_
  have hterms := Swap.syncTerms_toSwap hswap
  rintro swap' ⟨⟩
  show (withLocalVersion w.db swap).syncData.swapTerms = _
  unfold withLocalVersion
  split
  · rename_i localSwap _
    exact (Swap.syncTerms_congr (Swap.terms_setVersion swap localSwap.version)).trans hterms
  · exact hterms

/-- **Recovery** gives every record a swap of its terms. -/
theorem handleRecovery_terms (infos : List DecryptionInfo) :
    (handleRecovery sdk infos).Yields fun x => ∀ l, x = .ok l →
      ∀ i ∈ l, i.1 ∈ infos ∧ ∀ r, i.2 = some r → SameTerms i.1 r.1 := by
  refine (handleRecovery_forall toLocalSwap_terms (recoverSwap_terms sdk) infos).mono fun x hx l hl i hi => ?_
  obtain ⟨hsublist, hall⟩ := hx l hl
  refine ⟨hsublist.subset (List.mem_map_of_mem hi), fun r hr => ?_⟩
  obtain ⟨swap, r', hr', hterms, hrecovered⟩ := hall i hi
  obtain rfl : r' = r := Option.some.inj (hr'.symm.trans hr)
  exact (Swap.syncTerms_congr hrecovered).trans hterms

theorem agreed_tryCommit {f : Nat → Db → Except Err Db} {events : Db → Db → List Event} (w : World)
    (hf : ∀ now db db', f now db = .ok db' → (∀ id swap, RowOf db' id swap →
      (∃ old, RowOf db id old ∧ swap.terms = old.terms) ∨ FromCreated created swap.syncData) ∧
        db'.syncIncoming = db.syncIncoming) :
    SafeAgreed sdk created (tryCommit f events) (fun _ _ => True) w := by
  intro w₁ _ hi _
  refine ⟨?_, trivial, fun _ _ _ => trivial⟩
  show Agreed _ _ (World.tryCommit f events w₁)
  unfold World.tryCommit
  cases hcommit : f w₁.now w₁.db with
  | error err => exact hi
  | ok db' =>
      obtain ⟨hrows, hincoming⟩ := hf _ _ _ hcommit
      refine Agreed.step hi hrows (fun record hrecord => .inl ?_) rfl
      rwa [← hincoming]

/-- A commit that touches no swap table. -/
theorem agreed_tryCommit_other {f : Nat → Db → Except Err Db} {events : Db → Db → List Event} (w : World)
    (hf : ∀ now db db', f now db = .ok db' → db'.sendSwaps = db.sendSwaps ∧ db'.receiveSwaps = db.receiveSwaps ∧
      db'.chainSwaps = db.chainSwaps ∧ db'.syncIncoming = db.syncIncoming) :
    SafeAgreed sdk created (tryCommit f events) (fun _ _ => True) w := by
  refine agreed_tryCommit w fun now db db' hok => ?_
  obtain ⟨hsend, hreceive, hchain, hincoming⟩ := hf now db db' hok
  exact ⟨fun id swap hrow => .inl ⟨swap, rowOf_congr hsend hreceive hchain hrow, rfl⟩, hincoming⟩

theorem agreed_commitSwap {info : DecryptionInfo} {result : Option (Swap × Outcome)}
    (hisSwap : info.record.data.isSwap = true)
    (hresult : ∀ r, result = some r → FromCreated created r.1.syncData) (w : World) :
    SafeAgreed sdk created (commitRecord sdk info result) (fun _ _ => True) w := by
  cases hr : result with
  | none =>
      unfold commitRecord
      split
      · exact fun _ _ _ => trivial
      · exact fun _ _ _ => trivial
      · exact fun _ _ _ => trivial
      all_goals
        rename_i hdata
        rw [hdata] at hisSwap
        cases hisSwap
  | some r =>
      rw [commitRecord_swap sdk hisSwap]
      refine agreed_tryCommit w fun now db db' hok => ⟨fun id swap hrow => ?_, ?_⟩
      · rcases rowOf_commitIncomingSwap sdk.persister hok hrow with hold | hterms
        · exact .inl hold
        · exact .inr ((hresult r hr).congr (Swap.syncTerms_congr hterms))
      · obtain ⟨_, -, hok⟩ := except_bind_eq_ok.mp hok
        obtain ⟨db₁, hinsert, hok⟩ := except_bind_eq_ok.mp hok
        cases hok
        exact (insertOrUpdateSwapInner_syncTables hinsert).2.1

theorem agreed_commitRecord {info : DecryptionInfo} {result : Option (Swap × Outcome)}
    (hresult : ∀ r, result = some r → FromCreated created r.1.syncData) (w : World) :
    SafeAgreed sdk created (commitRecord sdk info result) (fun _ _ => True) w := by
  cases hdata : info.record.data with
  | chain data => exact agreed_commitSwap (by rw [hdata]; rfl) hresult w
  | send data => exact agreed_commitSwap (by rw [hdata]; rfl) hresult w
  | receive data => exact agreed_commitSwap (by rw [hdata]; rfl) hresult w
  | lastDerivationIndex index =>
      unfold commitRecord
      rw [hdata]
      refine agreed_tryCommit_other w fun now db db' hok => ?_
      obtain ⟨_, -, hok⟩ := except_bind_eq_ok.mp hok
      cases hok
      exact ⟨rfl, rfl, rfl, rfl⟩
  | paymentDetails data =>
      unfold commitRecord
      rw [hdata]
      refine agreed_tryCommit_other w fun now db db' hok => ?_
      obtain ⟨_, -, hok⟩ := except_bind_eq_ok.mp hok
      cases hok
      exact ⟨rfl, rfl, rfl, rfl⟩
  | bolt12Offer data =>
      unfold commitRecord
      rw [hdata]
      refine agreed_tryCommit_other w fun now db db' hok => ?_
      obtain ⟨_, -, hok⟩ := except_bind_eq_ok.mp hok
      cases hok
      exact ⟨rfl, rfl, rfl, rfl⟩

/-- Committing records, one after the other. -/
theorem agreed_commitRecords {infos : List (DecryptionInfo × Option (Swap × Outcome))}
    (hinfos : ∀ i ∈ infos, ∀ r, i.2 = some r → FromCreated created r.1.syncData) (w : World) :
    SafeAgreed sdk created (commitRecords sdk infos) (fun _ _ => True) w := by
  induction infos generalizing w with
  | nil => exact fun _ _ _ => trivial
  | cons i infos ih =>
      obtain ⟨info, result⟩ := i
      have hfirst := hinfos (info, result) List.mem_cons_self
      have hrest := ih fun i hi => hinfos i (List.mem_cons_of_mem _ hi)
      refine Safe.bind (Safe.attempt ((agreed_commitRecord hfirst w).mono fun res w₁ _ _ => ?_))
      refine Safe.bind ((hrest w₁).mono fun x w₂ _ _ => ?_)
      cases x with
      | error err => trivial
      | ok succeded =>
          dsimp only
          split
          · exact fun _ _ _ => trivial
          · exact fun _ _ _ => trivial

/-- The records are saved as they are told. -/
theorem agreed_fetchAndSaveRecords (w : World) :
    SafeAgreed sdk created fetchAndSaveRecords (fun _ _ => True) w := by
  refine safe_reads_bind (fun _ => trivial) fun w₁ _ _ => ?_
  intro w₂ _ hi₂ answer hanswer _
  refine ⟨hi₂, trivial, ?_⟩
  cases answer with
  | error err => exact fun _ _ _ => trivial
  | ok records =>
      have hgood : ∀ record ∈ records, GoodPayload sdk.persister.codec created record.data :=
        fun record hrecord => hanswer.2 record.data (List.mem_map_of_mem hrecord)
      intro w₃ _ hi₃ _
      refine ⟨?_, trivial, ?_⟩
      · obtain ⟨hsend, hreceive, hchain⟩ := setIncomingRecords_swapTables records w₃.db
        refine Agreed.of_sameRows hi₃ hsend hreceive hchain (fun record hrecord => ?_) rfl
        rcases (setIncomingRecords_tables records w₃.db).2.2.2 record hrecord with hrecord | hrecord
        · exact .inl hrecord
        · exact .inr (hgood record hrecord)
      · dsimp only
        split
        · intro w₄ _ hi₄ _
          exact ⟨Agreed.of_sameRows hi₄ rfl rfl rfl (fun record hrecord => .inl hrecord) rfl, trivial,
            fun _ _ _ => trivial⟩
        · exact fun _ _ _ => trivial

/-- **A pull** keeps the terms. -/
theorem agreed_pull (w : World) : SafeAgreed sdk created (pull sdk) (fun _ _ => True) w := by
  refine Safe.bind ((agreed_fetchAndSaveRecords w).mono fun x w₁ _ _ => ?_)
  cases x with
  | error err => trivial
  | ok _ =>
      refine safe_reads_bind (fun _ => trivial) fun w₂ _ hi₂ => ?_
      refine Safe.bind ((agreed_decryptRecords hi₂.incoming w₂).mono fun x w₃ _ hx => ?_)
      cases x with
      | error err => trivial
      | ok out =>
          obtain ⟨decrypted, known⟩ := out
          have hperm := commitOrder_perm decrypted (·.record.data.isSwap) fun i => isLastDerivationIndex i.record.data
          dsimp only
          generalize decrypted.partition (·.record.data.isSwap) = swaps at hperm ⊢
          obtain ⟨swapInfo, nonSwapInfo⟩ := swaps
          dsimp only at hperm ⊢
          generalize nonSwapInfo.partition (fun i => isLastDerivationIndex i.record.data) = indices at hperm ⊢
          obtain ⟨indexInfo, othersInfo⟩ := indices
          dsimp only at hperm ⊢
          -- Only the recovered swaps are written to the swap tables.
          have hnone : ∀ infos : List DecryptionInfo, ∀ i ∈ infos.map fun info => (info, none), ∀ r,
              i.2 = some r → FromCreated created (r : Swap × Outcome).1.syncData := by
            intro infos i hi r hr
            obtain ⟨info, -, rfl⟩ := List.mem_map.mp hi
            cases hr
          refine Safe.bind ((agreed_commitRecords (hnone indexInfo) w₃).mono fun x w₄ _ _ => ?_)
          cases x with
          | error err => trivial
          | ok indexIds =>
              have hwithin : (handleRecovery sdk swapInfo).Within
                  (fun f => ∀ w, (f w).db = w.db ∧ (f w).remotes = w.remotes) Call.Quiet := by
                exact within_handleRecovery (fun _ => ⟨rfl, rfl⟩) (fun _ _ _ => ⟨rfl, rfl⟩) (fun _ hq => hq) swapInfo
              refine Safe.bind (((agreed_reading hwithin w₄).yields (handleRecovery_terms swapInfo)).mono
                fun y w₅ _ hy => ?_)
              cases y with
              | error err => trivial
              | ok recovered =>
                  have hrecovered : ∀ i ∈ recovered, ∀ r, i.2 = some r → FromCreated created r.1.syncData := by
                    intro i hi r hr
                    obtain ⟨hmem, hterms⟩ := hy.1 recovered rfl i hi
                    have hinfo := hx i.1 (hperm.mem_iff.mp
                      (List.mem_append_right _ (List.mem_append_left _ hmem)))
                    exact hinfo.congr (hterms r hr)
                  refine Safe.bind ((agreed_commitRecords hrecovered w₅).mono fun x w₆ _ _ => ?_)
                  cases x with
                  | error err => trivial
                  | ok swapIds =>
                      refine Safe.bind ((agreed_commitRecords (hnone othersInfo) w₆).mono fun x w₇ _ _ => ?_)
                      cases x with
                      | error err => trivial
                      | ok otherIds =>
                          dsimp only
                          split
                          · intro w₈ _ hi₈ _
                            refine ⟨?_, trivial, fun _ _ _ => trivial⟩
                            exact Agreed.of_sameRows hi₈ rfl rfl rfl
                              (fun record hrecord => .inl (List.mem_of_mem_filter hrecord)) rfl
                          · exact fun _ _ _ => trivial

/-! ## Pushing -/

variable (hcodec : ∀ data payload data', sdk.persister.codec.encrypt data = .ok payload →
  sdk.persister.codec.decrypt payload = .ok data' → data' = data)

include hcodec

/-- A record that was made of a row is good. -/
theorem goodPayload_make {data : SyncData} {revision : Nat} {record : Record} (hdata : FromCreated created data)
    (h : Record.make sdk.persister.codec data revision = .ok record) :
    GoodPayload sdk.persister.codec created record.data := by
  obtain ⟨payload, hpayload, h⟩ := except_bind_eq_ok.mp h
  cases h
  intro data' hdata'
  rw [hcodec data payload data' hpayload hdata']
  exact hdata

theorem agreed_handlePush (recordId : RecordId) (dataId : DataId) (recordType : RecordType) (w : World) :
    SafeAgreed sdk created (handlePush sdk recordId dataId recordType) (fun _ _ => True) w := by
  refine safe_reads_bind (fun _ => trivial) fun w₁ _ _ => ?_
  refine safe_reads_bind (fun _ => trivial) fun w₂ _ hi₂ => ?_
  dsimp only
  cases hload : w₂.db.loadSyncData dataId recordType with
  | error err => exact fun _ _ _ => trivial
  | ok data =>
      have hdata : FromCreated created data := by
        intro terms hterms
        obtain ⟨row, hrow, hrowTerms⟩ := rowOf_loadSyncData hload hterms
        exact hi₂.rows dataId row hrow terms hrowTerms
      dsimp only [Task.ofExcept, Task.bind_eq, Task.done_ok_bind]
      cases hmake : Record.make sdk.persister.codec data _ with
      | error err => exact fun _ _ _ => trivial
      | ok record =>
          have hgood := goodPayload_make hcodec hdata hmake
          intro w₃ _ hi₃ reply _ _
          cases reply with
          | error err => exact ⟨hi₃, trivial, fun _ _ _ => trivial⟩
          | ok reply =>
              obtain ⟨status, revision⟩ := reply
              cases status with
              | conflict => exact ⟨hi₃, trivial, fun _ _ _ => trivial⟩
              | success =>
                  refine ⟨⟨hi₃.rows, hi₃.incoming, fun url record' hrecord' => ?_⟩, trivial, ?_⟩
                  · have hrecord' : record' ∈ ((w₃.setRecord sdk.remoteUrl record revision).remotes url).records :=
                      hrecord'
                    unfold World.setRecord at hrecord'
                    dsimp only at hrecord'
                    by_cases hurl : url = sdk.remoteUrl
                    · subst hurl
                      rw [Function.update_self] at hrecord'
                      rcases List.mem_cons.mp hrecord' with rfl | hrecord'
                      · exact hgood
                      · exact hi₃.remotes _ record' (List.mem_of_mem_filter hrecord')
                    · rw [Function.update_of_ne hurl] at hrecord'
                      exact hi₃.remotes url record' hrecord'
                  · intro w₄ _ hi₄ _
                    exact ⟨Agreed.of_sameRows hi₄ rfl rfl rfl (fun record hrecord => .inl hrecord) rfl, trivial,
                      fun _ _ _ => trivial⟩

theorem agreed_pushChanges (changes : List SyncOutgoingChanges) (w : World) :
    SafeAgreed sdk created (pushChanges sdk changes) (fun _ _ => True) w := by
  induction changes generalizing w with
  | nil => exact fun _ _ _ => trivial
  | cons c changes ih =>
      refine Safe.bind (Safe.attempt
        ((agreed_handlePush hcodec c.recordId c.dataId c.recordType w).mono fun res w₁ _ _ => ?_))
      refine Safe.bind ((ih w₁).mono fun x w₂ _ _ => ?_)
      cases x with
      | error err => trivial
      | ok out =>
          dsimp only
          split
          · exact fun _ _ _ => trivial
          · exact fun _ _ _ => trivial
          · exact fun _ _ _ => trivial

/-- **A push** keeps the terms. -/
theorem agreed_push (w : World) : SafeAgreed sdk created (push sdk) (fun _ _ => True) w := by
  refine safe_reads_bind (fun _ => trivial) fun w₁ _ _ => ?_
  refine Safe.bind ((agreed_pushChanges hcodec w₁.db.getSyncOutgoingChanges w₁).mono fun x w₂ _ _ => ?_)
  cases x with
  | error err => trivial
  | ok out =>
      obtain ⟨succeded, recoverableErrors⟩ := out
      have hrest : ∀ w, SafeAgreed sdk created
          (if succeded.length ≠ w₁.db.getSyncOutgoingChanges.length - recoverableErrors then
            (Task.throw (.excessiveRecordConflicts succeded.length w₁.db.getSyncOutgoingChanges.length
              recoverableErrors) : Async Nat)
          else return succeded.length) (fun _ _ => True) w := by
        intro w
        split
        · exact fun _ _ _ => trivial
        · exact fun _ _ _ => trivial
      dsimp only
      split
      · intro w₃ _ hi₃ _
        refine ⟨?_, trivial, hrest _⟩
        exact Agreed.of_sameRows hi₃ rfl rfl rfl (fun record hrecord => .inl hrecord) rfl
      · exact hrest w₂

/-! ## Starting over -/

omit hcodec in
theorem agreed_startOver {f : Nat → Db → Except Err Db}
    (hf : ∀ now db db', f now db = .ok db' → StartsOver sdk.persister now db db') (w : World) :
    SafeAgreed sdk created (tryWrite f) (fun _ _ => True) w := by
  intro w₁ _ hi _
  refine ⟨?_, trivial, fun _ _ _ => trivial⟩
  rcases World.tryWrite_cases f w₁ with ⟨db, hdb, hw⟩ | hw
  · have hstarts := hf _ _ _ hdb
    obtain ⟨⟨hsend, hreceive, hchain, -⟩, -⟩ := hstarts.queue
    obtain ⟨-, hincoming⟩ := startsOver_syncTables hstarts
    rw [hw]
    refine Agreed.of_sameRows hi hsend hreceive hchain (fun record hrecord => ?_) rfl
    have hrecord : record ∈ db.syncIncoming.rows := hrecord
    rw [hincoming] at hrecord
    exact absurd hrecord List.not_mem_nil
  · rw [hw]
    exact hi

theorem agreed_syncTask {t : Async Unit} (ht : SyncTask sdk t) (w : World) :
    SafeAgreed sdk created t (fun _ _ => True) w := by
  cases ht with
  | pull =>
      refine Safe.bind ((agreed_pull w).mono fun x w₁ _ _ => ?_)
      cases x with
      | error err => trivial
      | ok n => exact fun _ _ _ => trivial
  | push =>
      refine Safe.bind ((agreed_push hcodec w).mono fun x w₁ _ _ => ?_)
      cases x with
      | error err => trivial
      | ok n => exact fun _ _ _ => trivial
  | resetSync => exact agreed_startOver (fun _ _ _ h => .inl h) w
  | checkRemoteChange =>
      refine safe_reads_bind (fun _ => trivial) fun w₁ _ _ => ?_
      split
      · exact fun _ _ _ => trivial
      · exact agreed_startOver (fun _ _ _ h => .inr ⟨sdk.remoteUrl, h⟩) w₁

/-! ## Runs -/

theorem agreement_sound : Sound ((device sdk created).receiving syncMail (GoodPayload sdk.persister.codec created))
    .any (agreement sdk created) fun _ _ => True where
  compat _ _ _ _ _ _ := trivial
  spawn _ s _ _ ht _ _ _ := ⟨fun _ _ => ⟨trivial, trivial⟩, agreed_syncTask hcodec ht s⟩
  abort _ _ _ _ := trivial
  env w w' h hi _ := by
    refine ⟨Agreed.step hi (fun id swap hrow => ?_) (fun record hrecord => .inl ?_) h.remotes, fun _ => trivial⟩
    · rcases h.inserted id swap hrow with ⟨old, hold, htype⟩ | hcreated
      · obtain ⟨l, hl⟩ := h.transactions
        rw [hl] at hrow
        exact .inl ⟨old, hold, terms_performAll hold hrow htype⟩
      · exact .inr hcreated
    · rwa [← h.incoming]

omit hcodec in
/-- If the push may be answered, the record is at the remote. -/
theorem agreement_sendsGood : SendsGood (device sdk created) syncMail .any (agreement sdk created)
    (GoodPayload sdk.persister.codec created) := by
  intro r w q m hm _ hsafe
  cases q with
  | push record =>
      cases hm
      have hi := hsafe (.ok ⟨.success, 0⟩) trivial (fun m hm => absurd hm List.not_mem_nil) trivial
      refine hi.remotes sdk.remoteUrl { record with revision := 0 } ?_
      show _ ∈ ((w.setRecord sdk.remoteUrl record 0).remotes sdk.remoteUrl).records
      unfold World.setRecord
      dsimp only
      rw [Function.update_self]
      exact List.mem_cons_self
  | _ => cases hm

end Devices

/-- A row has terms, and they have its id. -/
theorem swapTerms_of_row {db : Db} {id : SwapId} {swap : Swap} (h : RowOf db id swap) :
    ∃ terms, swap.syncData.swapTerms = some terms ∧ terms.id = id := by
  cases h with
  | @send s h =>
      have hid : s.id = id := Table.get?_some_key h
      exact ⟨_, rfl, hid⟩
  | @receive s h =>
      have hid : s.id = id := Table.get?_some_key h
      exact ⟨_, rfl, hid⟩
  | @chain s h =>
      have hid : s.id = id := Table.get?_some_key h
      exact ⟨_, rfl, hid⟩

/-- **All devices agree.** In every run of any number of devices of one user, where the wallets insert swaps that
were created and no id was given to two of them: what two devices know of a swap has the same terms, and the same
scripts, keys and preimage to claim and refund it. -/
theorem devices_agree {ι : Type} [DecidableEq ι] (bz : BoltzClient) {codec : SyncCodec}
    (hcodec : ∀ data payload data', codec.encrypt data = .ok payload → codec.decrypt payload = .ok data' →
      data' = data)
    {sdk : ι → Sdk} (hsdk : ∀ d, (sdk d).persister.codec = codec) {created : SyncData → Prop}
    (hcreated : ∀ terms terms', created terms → created terms' → terms.id = terms'.id → terms = terms')
    {net : Net ι World Call Call.Answer Err Unit String}
    (hrun : NetRuns (fun d => device (sdk d) created) syncMail (fun _ => .any) ⟨fun _ => ⟨{}, []⟩, []⟩ net)
    {d d' : ι} {id : SwapId} {swap swap' : Swap} (hswap : RowOf (net.clients d).state.db id swap)
    (hswap' : RowOf (net.clients d').state.db id swap') :
    swap'.syncData.swapTerms = swap.syncData.swapTerms ∧ SameAccess bz swap swap' := by
  have hsound : ∀ d, Sound ((device (sdk d) created).receiving syncMail (GoodPayload codec created)) .any
      (agreement (sdk d) created) fun _ _ => True := by
    intro d
    rw [← hsdk d] at hcodec ⊢
    exact agreement_sound hcodec
  -- what a device pushes is made from terms that were created, and only such payloads arrive
  have hsends : ∀ d, SendsGood (device (sdk d) created) syncMail .any (agreement (sdk d) created)
      (GoodPayload codec created) := by
    intro d
    rw [← hsdk d]
    exact agreement_sendsGood
  have hnew : Net.Kept (fun d => device (sdk d) created) syncMail (fun _ => .any)
      (fun d => agreement (sdk d) created) (fun _ _ => True) (GoodPayload codec created)
      ⟨fun _ => ⟨{}, []⟩, []⟩ := by
    refine ⟨fun d => ⟨⟨?_, nofun, nofun⟩, List.Pairwise.nil, nofun, fun _ _ => trivial⟩, nofun⟩
    intro id swap hrow
    cases hrow with
    | send h => cases h
    | receive h => cases h
    | chain h => cases h
  have hkept := NetRuns.kept hsound hsends hnew hrun
  obtain ⟨terms, hterms, hid⟩ := swapTerms_of_row hswap
  obtain ⟨terms', hterms', hid'⟩ := swapTerms_of_row hswap'
  have hfrom := (hkept.clients d).inv.rows id swap hswap terms hterms
  have hfrom' := (hkept.clients d').inv.rows id swap' hswap' terms' hterms'
  have heq : swap'.syncData.swapTerms = swap.syncData.swapTerms := by
    rw [hterms, hterms', hcreated terms' terms hfrom' hfrom (hid'.trans hid.symm)]
  exact ⟨heq, Swap.sameAccess_of_syncTerms bz heq⟩

/-! ## A push that is not answered -/

/-- What is pushed of the swap. -/
def toldData : SyncData := .send (.ofSwap { id := "s", invoice := "invoice" })

/-- A codec for this data alone. -/
def tellingSdk : Sdk where
  bz := .byAddress 0
  persister := {
    codec := {
      hash := id
      encrypt := fun data => if data = toldData then .ok "s" else .error (.generic "Could not encrypt")
      decrypt := fun payload => if payload = "s" then .ok toldData else .error (.generic "Could not decrypt")
      majorVersion := fun _ => .ok 0 } }

/-- The first device creates the swap. -/
def creating : World where
  db := ({} : Db).performAll tellingSdk.persister
    [(0, .insertOrUpdateSendSwap none { id := "s", invoice := "invoice" })]

/-- Its push waits for the answer. -/
def pushing : Async Unit × (Nat × World) :=
  ((push tellingSdk).bind fun _ => .done (.ok ())).advance (World.effect tellingSdk) (fun _ q => q.offline) 3
    (0, creating)

/-- The second device is told the record. -/
def toldAnswers : Nat → (q : Call) → q.Answer
  | _, .pull _ => .ok [{ id := "send-swap:s", revision := 1, data := "s" }]
  | _, .liquidTip => .ok 0
  | _, .transactionsByTxId => .ok []
  | _, .liquidScriptsHistory scripts => .ok (scripts.map fun _ => [])
  | _, q => q.offline

def pulling : World :=
  (((pull tellingSdk).bind fun _ => .done (.ok ())).run (World.effect tellingSdk) toldAnswers (0, {})).2.2

/-- Only this swap was created. -/
def ToldTerms (terms : SyncData) : Prop := toldData.swapTerms = some terms

theorem creating_writes : WalletWrites tellingSdk ToldTerms {} creating where
  transactions := ⟨_, rfl⟩
  inserted id swap hrow := by
    refine .inr fun terms hterms => ?_
    have hrows : creating.db.sendSwaps.rows.map SendSyncData.ofSwap =
        [.ofSwap { id := "s", invoice := "invoice" }] := by decide +kernel
    cases hrow with
    | @send s h =>
        have hmem := List.mem_map_of_mem (f := SendSyncData.ofSwap) (Table.mem_of_get? h)
        rw [hrows, List.mem_singleton] at hmem
        have hsame : (Swap.send s).syncData = toldData := congrArg SyncData.send hmem
        rw [hsame] at hterms
        exact hterms
    | receive h =>
        have hmem := Table.mem_of_get? h
        rw [show creating.db.receiveSwaps.rows = [] by decide +kernel] at hmem
        exact absurd hmem List.not_mem_nil
    | chain h =>
        have hmem := Table.mem_of_get? h
        rw [show creating.db.chainSwaps.rows = [] by decide +kernel] at hmem
        exact absurd hmem List.not_mem_nil
  incoming := rfl
  remotes := rfl

/-- The record of a push that waits for its answer. -/
def pushed : Async Unit → Option Record
  | .call (.push record) _ => some record
  | _ => none

theorem pushed_eq_some {t : Async Unit} {record : Record} (h : pushed t = some record) :
    ∃ k, t = .call (.push record) k := by
  unfold pushed at h
  split at h
  · cases h
    exact ⟨_, rfl⟩
  · cases h

/-- Two new devices. -/
def untold : Bool → Pool World Call Call.Answer Err Unit := fun _ => ⟨{}, []⟩

/-- The first one waits. -/
def telling : Bool → Pool World Call Call.Answer Err Unit :=
  Function.update untold false ⟨pushing.2.2, [((), pushing.1)]⟩

/-- The second one has pulled. -/
def told : Bool → Pool World Call Call.Answer Err Unit := Function.update telling true ⟨pulling, []⟩

/-- The second device pulls the swap before the first one has an answer to its push. -/
theorem told_runs : NetRuns (fun _ : Bool => device tellingSdk ToldTerms) syncMail (fun _ => .any)
    ⟨untold, []⟩ ⟨told, ["s"]⟩ := by
  have hoffline : ∀ (taken : List String) n q w, ((device tellingSdk ToldTerms).receiving syncMail
      (· ∈ taken)).answers q ((fun _ q => q.offline : Nat → (q : Call) → q.Answer) n q) w := by
    intro taken n q w
    refine ⟨trivial, ?_⟩
    cases q <;> exact nofun
  have htold : ∀ n q w, ((device tellingSdk ToldTerms).receiving syncMail
      (· ∈ ["s"])).answers q (toldAnswers n q) w := by
    intro n q w
    refine ⟨trivial, ?_⟩
    cases q with
    | pull revision =>
        intro payload hpayload
        exact hpayload
    | _ => exact nofun
  have hall : ∀ (ans : Nat → (q : Call) → q.Answer) (t : Async Unit) w,
      t.Steps (World.effect tellingSdk) ans ((Cond.any : Cond World Unit) (.own ())) w :=
    fun ans t w => Task.steps_of_forall _ _ (fun _ _ => trivial) t w
  have hpushing : Runs ((device tellingSdk ToldTerms).receiving syncMail (· ∈ [])) .any ⟨{}, []⟩
      ⟨pushing.2.2, [((), pushing.1)]⟩ := by
    refine .head ⟨.env, .env creating_writes, trivial⟩ ?_
    refine .head ⟨.spawn (), .spawn SyncTask.push, trivial⟩ ?_
    exact runs_advance_answers (hoffline []) 3 (hall _ _ _)
  have hpulling : Runs ((device tellingSdk ToldTerms).receiving syncMail (· ∈ ["s"])) .any ⟨{}, []⟩
      ⟨pulling, []⟩ :=
    runs_spawn_answers htold SyncTask.pull (fun _ => ⟨trivial, trivial⟩) (hall _ _ _)
  have hfirst : NetRuns (fun _ : Bool => device tellingSdk ToldTerms) syncMail (fun _ => .any)
      ⟨Function.update untold false (untold false), []⟩ ⟨telling, []⟩ := hpushing.net
  have hsecond : NetRuns (fun _ : Bool => device tellingSdk ToldTerms) syncMail (fun _ => .any)
      ⟨Function.update telling true (telling true), ["s"]⟩ ⟨told, ["s"]⟩ := hpulling.net
  rw [Function.update_eq_self] at hfirst hsecond
  obtain ⟨k, hk⟩ := pushed_eq_some (t := pushing.1)
    (show pushed pushing.1 = some { id := "send-swap:s", revision := 0, data := "s" } by decide +kernel)
  have htake : NetStep (fun _ : Bool => device tellingSdk ToldTerms) syncMail (fun _ => .any) ⟨telling, []⟩
      ⟨telling, ["s"]⟩ := by
    refine .take false (r := ()) (k := k) ?_ rfl
    show ((), _) ∈ [((), pushing.1)]
    rw [hk]
    exact List.mem_singleton.mpr rfl
  exact (hfirst.tail htake).trans hsecond

/-- The second device can claim and refund the swap as the first. -/
theorem devices_agree_told : ∃ swap swap', RowOf (told false).state.db "s" swap ∧
    RowOf (told true).state.db "s" swap' ∧ SameAccess (.byAddress 0) swap swap' := by
  have hfirst : ((told false).state.db.sendSwaps.get? "s").isSome = true := by decide +kernel
  have hsecond : ((told true).state.db.sendSwaps.get? "s").isSome = true := by decide +kernel
  obtain ⟨s, hs⟩ := Option.isSome_iff_exists.mp hfirst
  obtain ⟨s', hs'⟩ := Option.isSome_iff_exists.mp hsecond
  have hcodec : ∀ data payload data', tellingSdk.persister.codec.encrypt data = .ok payload →
      tellingSdk.persister.codec.decrypt payload = .ok data' → data' = data := by
    intro data payload data' hencrypt hdecrypt
    have hdata : data = toldData := by
      by_contra hne
      have herror : tellingSdk.persister.codec.encrypt data = .error (.generic "Could not encrypt") := if_neg hne
      rw [herror] at hencrypt
      cases hencrypt
    have hpayload : payload = "s" := by
      rw [hdata] at hencrypt
      cases hencrypt
      rfl
    rw [hpayload] at hdecrypt
    cases hdecrypt
    exact hdata.symm
  have hcreated : ∀ terms terms', ToldTerms terms → ToldTerms terms' → terms.id = terms'.id → terms = terms' :=
    fun terms terms' h h' _ => Option.some.inj (h.symm.trans h')
  obtain ⟨-, haccess⟩ := devices_agree (.byAddress 0) hcodec (fun _ => rfl) hcreated told_runs
    (.send hs) (.send hs')
  exact ⟨.send s, .send s', .send hs, .send hs', haccess⟩

end Sync

end BreezLiquid
