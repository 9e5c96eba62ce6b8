/-
# BreezLiquid.Wallet.AddressReuse — addresses are given away once.

The last derivation index bounds the addresses given so far, as long as it is never lowered. Two writes of it
do not compare with what is stored: the one of the index the wallet picked, and the one of a pulled record. The index
is counted up once per address and stays far below the bound of its `u32`.

`Kept` is the invariant: every address given so far is that of an index up to the stored one, and the reservations that
are left belong to such addresses. There is one lemma for each way to an address, and for everything else that happens
it is enough that no address is given and that the index does not fall (`Kept.quiet`). `Careful` puts the conditions on
the two unconditional writes into the steps of a run.
-/
import BreezLiquid.Lib.History
import BreezLiquid.Wallet.NextAddress
import BreezLiquid.Sync.Requeue

namespace BreezLiquid.Wallet

open Interleaving Tables Histories Sync

variable {sdk : Sdk}

/-! ## The properties -/

/-- The address was reserved, and then taken again at a tip above the expiry height. -/
def Expired (address : Address) (between : List Event) : Prop :=
  ∃ r tip, r.address = address ∧ r.expiryBlockHeight < tip ∧
    ∃ newer older, between = newer ++ .reservationExpired r tip :: older ∧ .addressReserved r ∈ older

/-- No address is given twice, unless its reservation expired in between. -/
def GivenOnce (w : World) : Prop := Separated Event.addressGiven Expired w.trace

/-- A stored index has not become lower. -/
def IndexLe (index index' : Option Nat) : Prop := ∀ i, index = some i → ∃ i', index' = some i' ∧ i ≤ i'

theorem IndexLe.refl (index : Option Nat) : IndexLe index index := fun i hi => ⟨i, hi, Nat.le_refl i⟩

theorem IndexLe.trans {index index' index'' : Option Nat} (h : IndexLe index index') (h' : IndexLe index' index'') :
    IndexLe index index'' := by
  intro i hi
  obtain ⟨i', hi', hle⟩ := h i hi
  obtain ⟨i'', hi'', hle'⟩ := h' i' hi'
  exact ⟨i'', hi'', Nat.le_trans hle hle'⟩

/-- A pulled index that is committed is not below the stored one. -/
def PulledAbove (sdk : Sdk) (w w' : World) : Prop := ∀ index syncState lastCommitTime,
  w.db.commitIncomingAddressIndex sdk.persister index syncState lastCommitTime = .ok w'.db →
    ∀ last, w.db.lastDerivationIndex = some last → last ≤ index

/-- When the index that the wallet picked is stored, none above it has been stored in the meantime, and its
address was not given in the meantime. -/
def PickedAbove (sdk : Sdk) (w w' : World) : Prop := ∀ index,
  w'.trace = .addressGiven (sdk.addressAt index) :: .indexPicked index :: w.trace →
    (∀ last, w.db.lastDerivationIndex = some last → last ≤ index) ∧
      .addressGiven (sdk.addressAt index) ∉ w.trace

/-- The two writes that do not look at the stored index find nothing there that contradicts them. -/
def Careful (sdk : Sdk) : Cond World Role
  | .own .sync, w, w' => PulledAbove sdk w w'
  | .own _, w, w' => PickedAbove sdk w w'
  | _, _, _ => True

/-! ## The invariant -/

structure Kept (sdk : Sdk) (w : World) : Prop where
  givenOnce : GivenOnce w
  derived : ∀ address, .addressGiven address ∈ w.trace → ∃ index last, address = sdk.addressAt index ∧
    w.db.lastDerivationIndex = some last ∧ index ≤ last
  reserved : ∀ r ∈ w.db.reservedAddresses.rows, .addressGiven r.address ∈ w.trace ∧
    SinceLast Event.addressGiven r.address (.addressReserved r) w.trace

/-- The histories grow, and a stored index does not become lower. -/
def Later (w w' : World) : Prop :=
  (∀ e ∈ w.trace, e ∈ w'.trace) ∧ IndexLe w.db.lastDerivationIndex w'.db.lastDerivationIndex

theorem Later.refl (w : World) : Later w w := ⟨fun _ he => he, .refl _⟩

theorem Later.trans {w w' w'' : World} (h : Later w w') (h' : Later w' w'') : Later w w'' :=
  ⟨fun e he => h'.1 e (h.1 e he), h.2.trans h'.2⟩

/-- No address is given, no reservation is added. -/
structure Quiet (w w' : World) : Prop where
  trace : ∃ events, w'.trace = events ++ w.trace ∧ ∀ address, .addressGiven address ∉ events
  reserved : ∀ r ∈ w'.db.reservedAddresses.rows, r ∈ w.db.reservedAddresses.rows

theorem Quiet.refl (w : World) : Quiet w w := ⟨⟨[], rfl, fun _ => List.not_mem_nil⟩, fun _ hr => hr⟩

/-- Where no address is given and no reservation appears, everything is kept if the index does not fall. -/
theorem Kept.quiet {w w' : World} (h : Kept sdk w) (hquiet : Quiet w w')
    (hindex : IndexLe w.db.lastDerivationIndex w'.db.lastDerivationIndex) : Kept sdk w' ∧ Later w w' := by
  obtain ⟨⟨events, htrace, hevents⟩, hreserved⟩ := hquiet
  have hgrows : ∀ e ∈ w.trace, e ∈ w'.trace := by
    intro e he
    rw [htrace]
    exact List.mem_append_right _ he
  refine ⟨⟨?_, ?_, ?_⟩, hgrows, hindex⟩
  · show Separated _ _ w'.trace
    rw [htrace]
    exact h.givenOnce.append hevents
  · intro address haddress
    rw [htrace] at haddress
    rcases List.mem_append.mp haddress with hmem | hmem
    · exact absurd hmem (hevents address)
    · obtain ⟨index, last, hindexed, hlast, hle⟩ := h.derived address hmem
      obtain ⟨last', hlast', hle'⟩ := hindex last hlast
      exact ⟨index, last', hindexed, hlast', Nat.le_trans hle hle'⟩
  · intro r hr
    obtain ⟨hgiven, hsince⟩ := h.reserved r (hreserved r hr)
    refine ⟨hgrows _ hgiven, ?_⟩
    rw [htrace]
    exact hsince.append (hevents r.address)

/-! ## Giving an address -/

theorem setLastDerivationIndex_fields (p : Persister) (now index : Nat) (db : Db) :
    (db.setLastDerivationIndex p now index).lastDerivationIndex = some index ∧
      (db.setLastDerivationIndex p now index).reservedAddresses = db.reservedAddresses := by
  unfold Db.setLastDerivationIndex Db.commitOutgoing
  split
  · exact ⟨rfl, rfl⟩
  · exact ⟨rfl, rfl⟩

/-- An address above the stored index is new. -/
theorem Kept.give {w w' : World} {l : List Event} {index : Nat}
    (h : Kept sdk w) (hnew : .addressGiven (sdk.addressAt index) ∉ w.trace)
    (hevents : ∀ address, .addressGiven address ∉ l)
    (htrace : w'.trace = .addressGiven (sdk.addressAt index) :: (l ++ w.trace))
    (hlast : w'.db.lastDerivationIndex = some index)
    (hindex : ∀ last, w.db.lastDerivationIndex = some last → last ≤ index)
    (hreserved : w'.db.reservedAddresses = w.db.reservedAddresses) : Kept sdk w' ∧ Later w w' := by
  have hnew' : .addressGiven (sdk.addressAt index) ∉ l ++ w.trace := by
    intro hmem
    rcases List.mem_append.mp hmem with hmem | hmem
    · exact hevents _ hmem
    · exact hnew hmem
  refine ⟨⟨?_, ?_, ?_⟩, ?_, ?_⟩
  · show Separated _ _ w'.trace
    rw [htrace]
    exact (h.givenOnce.append hevents).cons_new (fun a b hab => by cases hab; rfl) hnew'
  · intro address haddress
    rw [htrace] at haddress
    rcases List.mem_cons.mp haddress with heq | hmem
    · cases heq
      exact ⟨index, index, rfl, hlast, Nat.le_refl _⟩
    · rcases List.mem_append.mp hmem with hmem | hmem
      · exact absurd hmem (hevents address)
      · obtain ⟨index', last, hindexed, hold, hle⟩ := h.derived address hmem
        exact ⟨index', index, hindexed, hlast, Nat.le_trans hle (hindex last hold)⟩
  · intro r hr
    rw [hreserved] at hr
    obtain ⟨hgiven, hsince⟩ := h.reserved r hr
    have hne : r.address ≠ sdk.addressAt index := by
      intro heq
      exact hnew (heq ▸ hgiven)
    rw [htrace]
    refine ⟨List.mem_cons_of_mem _ (List.mem_append_right _ hgiven), ?_⟩
    refine SinceLast.append (l := [_]) (hsince.append (hevents r.address)) ?_
    intro hmem
    exact hne (Event.addressGiven.inj (List.mem_singleton.mp hmem))
  · intro e he
    rw [htrace]
    exact List.mem_cons_of_mem _ (List.mem_append_right _ he)
  · intro last hold
    exact ⟨index, hlast, hindex last hold⟩

/-- The reservation that expired first is gone afterwards, and only that one. -/
theorem nextExpiredReservedAddress_some {tip : Nat} {db db' : Db} {r : ReservedAddress}
    (h : db.nextExpiredReservedAddress tip = (some r, db')) :
    r ∈ db.reservedAddresses.rows ∧ r.expiryBlockHeight < tip ∧
      db'.lastDerivationIndex = db.lastDerivationIndex ∧
      ∀ r' ∈ db'.reservedAddresses.rows, r' ∈ db.reservedAddresses.rows ∧ r'.address ≠ r.address := by
  unfold Db.nextExpiredReservedAddress at h
  dsimp only at h
  split at h
  · rename_i r₁ hfirst
    cases h
    have hmem := List.mem_of_mem_head? (Option.mem_def.mpr hfirst)
    obtain ⟨hrow, hexpired⟩ := List.mem_filter.mp ((List.mem_insertionSort _).mp hmem)
    refine ⟨hrow, of_decide_eq_true hexpired, rfl, ?_⟩
    intro r' hr'
    obtain ⟨hrow', hne⟩ := List.mem_filter.mp hr'
    exact ⟨hrow', by simpa using hne⟩
  · cases h

/-- The ways to an address: an expired reservation is taken over, so its address was given before ... -/
theorem takeExpired_kept {w : World} (tip : Nat) (h : Kept sdk w) :
    Kept sdk (takeExpired tip w) ∧ Later w (takeExpired tip w) := by
  unfold takeExpired
  split
  · rename_i r db htaken
    obtain ⟨hrow, hexpired, hindex, hrest⟩ := nextExpiredReservedAddress_some htaken
    obtain ⟨hgiven, hsince⟩ := h.reserved r hrow
    have hold : Separated Event.addressGiven Expired (.reservationExpired r tip :: w.trace) :=
      h.givenOnce.append (l := [_]) fun a ha => by simp at ha
    refine ⟨⟨separated_cons_iff.mpr ⟨hold, ?_⟩, ?_, ?_⟩, ?_, ?_⟩
    · -- the expiry comes right before, and the reservation since the last time
      intro address haddress between older hsplit
      cases haddress
      cases between with
      | nil =>
          have hhead := (List.cons.inj hsplit).1
          cases hhead
      | cons e between =>
          obtain ⟨rfl, htail⟩ := List.cons.inj hsplit
          exact ⟨r, tip, rfl, hexpired, [], between, rfl, hsince.mem nofun htail⟩
    · intro address haddress
      have hmem : .addressGiven address ∈ w.trace := by
        simp only [List.mem_cons, reduceCtorEq, false_or] at haddress
        rcases haddress with heq | hmem
        · cases heq
          exact hgiven
        · exact hmem
      obtain ⟨index, last, hindexed, hlast, hle⟩ := h.derived address hmem
      exact ⟨index, last, hindexed, hindex.trans hlast, hle⟩
    · intro r' hr'
      obtain ⟨hrow', hne⟩ := hrest r' hr'
      obtain ⟨hgiven', hsince'⟩ := h.reserved r' hrow'
      refine ⟨List.mem_cons_of_mem _ (List.mem_cons_of_mem _ hgiven'), ?_⟩
      refine SinceLast.append (l := [_, _]) hsince' ?_
      intro hmem
      simp only [List.mem_cons, List.not_mem_nil, reduceCtorEq, or_false] at hmem
      exact hne (Event.addressGiven.inj hmem)
    · intro e he
      exact List.mem_cons_of_mem _ (List.mem_cons_of_mem _ he)
    · show IndexLe w.db.lastDerivationIndex db.lastDerivationIndex
      rw [hindex]
      exact .refl _
  · exact ⟨h, .refl w⟩

/-- ... or the next index, whose address was not ... -/
theorem takeNextIndex_kept (hinj : Function.Injective sdk.addressAt) {w : World} (h : Kept sdk w) :
    Kept sdk (takeNextIndex sdk w) ∧ Later w (takeNextIndex sdk w) := by
  unfold takeNextIndex Db.nextDerivationIndex
  cases hlast : w.db.lastDerivationIndex with
  | none => exact ⟨h, .refl w⟩
  | some last =>
      have hnew : .addressGiven (sdk.addressAt (last + 1)) ∉ w.trace := by
        intro hmem
        obtain ⟨index, last', hindexed, hlast', hle⟩ := h.derived _ hmem
        rw [hlast] at hlast'
        cases hlast'
        have hsame := hinj hindexed
        omega
      obtain ⟨hindex, hreserved⟩ := setLastDerivationIndex_fields sdk.persister w.now (last + 1) w.db
      refine h.give (l := []) hnew (fun _ => List.not_mem_nil) rfl hindex ?_ hreserved
      intro last' hlast'
      rw [hlast] at hlast'
      cases hlast'
      omega

/-- ... or an index picked by the wallet, which is above the last one ... -/
theorem storePicked_kept {w : World} {index : Nat} (h : Kept sdk w)
    (hpicked : (∀ last, w.db.lastDerivationIndex = some last → last ≤ index) ∧
      .addressGiven (sdk.addressAt index) ∉ w.trace) :
    Kept sdk (storePicked sdk index w) ∧ Later w (storePicked sdk index w) := by
  obtain ⟨hindex, hreserved⟩ := setLastDerivationIndex_fields sdk.persister w.now index w.db
  refine h.give (l := [.indexPicked index]) hpicked.2 ?_ rfl hindex hpicked.1 hreserved
  intro address hmem
  simp at hmem

/-- ... and a reservation is made for an address that was given. -/
theorem reserve_kept {w : World} {address : Address} (height : Nat) (h : Kept sdk w)
    (hgiven : .addressGiven address ∈ w.trace) :
    Kept sdk (reserve address height w) ∧ Later w (reserve address height w) := by
  have hgrows : ∀ e ∈ w.trace, e ∈ (reserve address height w).trace := fun e he => List.mem_cons_of_mem _ he
  refine ⟨⟨?_, ?_, ?_⟩, hgrows, .refl _⟩
  · exact h.givenOnce.append (l := [_]) fun a ha => by simp at ha
  · intro address' haddress
    rcases List.mem_cons.mp haddress with heq | hmem
    · cases heq
    · exact h.derived address' hmem
  · intro r hr
    have hget := Table.get?_of_mem hr
    have hrows : (reserve address height w).db.reservedAddresses =
      w.db.reservedAddresses.insertOrReplace ⟨address, height⟩ := rfl
    rw [hrows, Table.get?_insertOrReplace] at hget
    split at hget
    · rename_i hsame
      cases hget
      exact ⟨hgrows _ hgiven, [], w.trace, rfl, List.not_mem_nil⟩
    · obtain ⟨hgiven', hsince⟩ := h.reserved r (Table.mem_of_get? hget)
      refine ⟨hgrows _ hgiven', SinceLast.append (l := [_]) hsince ?_⟩
      intro hmem
      simp at hmem

/-! ## The sync service -/

/-- A database that differs in neither the index nor, but for deletions, the reservations. -/
def SameAddresses (db db' : Db) : Prop :=
  db'.lastDerivationIndex = db.lastDerivationIndex ∧
    ∀ r ∈ db'.reservedAddresses.rows, r ∈ db.reservedAddresses.rows

theorem SameAddresses.of_eq {db db' : Db} (hindex : db'.lastDerivationIndex = db.lastDerivationIndex)
    (hreserved : db'.reservedAddresses = db.reservedAddresses) : SameAddresses db db' :=
  ⟨hindex, fun _ hr => hreserved ▸ hr⟩

/-- What a sync does to the database leaves the addresses alone: writing swaps ... -/
theorem insertOrUpdateSwapInner_sameAddresses {now : Nat} {swap : Swap} {db db' : Db}
    (h : db.insertOrUpdateSwapInner now swap = .ok db') : SameAddresses db db' := by
  cases swap with
  | send s =>
      replace h : db.insertOrUpdateSendSwapInner now s = .ok db' := h
      unfold Db.insertOrUpdateSendSwapInner at h
      dsimp only at h
      split at h
      · split at h
        · cases h
          exact .of_eq rfl rfl
        · cases h
      · split at h
        · cases h
          exact .of_eq rfl rfl
        · cases h
  | receive s =>
      replace h : db.insertOrUpdateReceiveSwapInner now s = .ok db' := h
      unfold Db.insertOrUpdateReceiveSwapInner at h
      dsimp only at h
      split at h
      · cases h
        split
        · exact ⟨rfl, fun r hr => (List.mem_filter.mp hr).1⟩
        · exact .of_eq rfl rfl
      · cases h
  | chain s =>
      replace h : db.insertOrUpdateChainSwapInner now s = .ok db' := h
      unfold Db.insertOrUpdateChainSwapInner at h
      dsimp only at h
      split at h
      · cases h
        exact .of_eq rfl rfl
      · cases h

/-- ... storing records ... -/
theorem setIncomingRecords_sameAddresses (records : List Record) (db : Db) :
    SameAddresses db (db.setIncomingRecords records) := by
  unfold Db.setIncomingRecords
  induction records generalizing db with
  | nil => exact .of_eq rfl rfl
  | cons record records ih => exact ih (db.setIncomingRecord record)

/-- ... and starting over ... -/
theorem resetSync_sameAddresses {p : Persister} {now : Nat} {db db' : Db}
    (h : db.resetSyncInner p now = .ok db') : SameAddresses db db' := by
  unfold Db.resetSyncInner at h
  have hfold : ∀ (l : List (RecordType × DataId)) (db₁ : Db),
      l.foldlM (fun db e => db.enqueueSwap p now e) db₁ = .ok db' → SameAddresses db₁ db' := by
    intro l
    induction l with
    | nil =>
        intro db₁ h
        cases h
        exact .of_eq rfl rfl
    | cons e l ih =>
        intro db₁ h
        rw [List.foldlM_cons] at h
        obtain ⟨db₂, hfirst, hrest⟩ := except_bind_eq_ok.mp h
        have hsame := ih db₂ hrest
        unfold Db.enqueueSwap at hfirst
        dsimp only at hfirst
        split at hfirst
        · cases hfirst
        · cases hfirst
          exact hsame
  have hsame := hfold _ _ h
  exact ⟨hsame.1, hsame.2⟩

/-- A step of the sync service: no address is given, and the index stays unless a pulled one is committed. -/
def SyncStep (sdk : Sdk) (w w' : World) : Prop :=
  Quiet w w' ∧ (w'.db.lastDerivationIndex = w.db.lastDerivationIndex ∨ ∃ index syncState lastCommitTime,
    w.db.commitIncomingAddressIndex sdk.persister index syncState lastCommitTime = .ok w'.db ∧
      w'.db.lastDerivationIndex = some index)

theorem SyncStep.refl (w : World) : SyncStep sdk w w := ⟨.refl w, .inl rfl⟩

/-- ... so that these are steps of a sync ... -/
theorem syncStep_of_same {w w' : World} (hsame : SameAddresses w.db w'.db)
    (htrace : ∃ events, w'.trace = events ++ w.trace ∧ ∀ address, .addressGiven address ∉ events) :
    SyncStep sdk w w' := ⟨⟨htrace, hsame.2⟩, .inl hsame.1⟩

theorem syncStep_write {f : Nat → Db → Db} (hf : ∀ now db, SameAddresses db (f now db)) (w : World) :
    SyncStep sdk w (w.write f) :=
  syncStep_of_same (hf w.now w.db) ⟨[], rfl, fun _ => List.not_mem_nil⟩

/-- The events of a commit give no address. -/
theorem not_mem_committed (info : DecryptionInfo) (db db' : Db) (address : Address) :
    .addressGiven address ∉ committed info db db' := by
  intro hmem
  unfold committed at hmem
  simp at hmem

theorem not_mem_committedSwap (info : DecryptionInfo) (result : Swap × Recover.Outcome) (db db' : Db)
    (address : Address) : .addressGiven address ∉ committedSwap sdk info result db db' := by
  unfold committedSwap committed
  split
  · simp
  · simp

/-- A commit of an incoming record. -/
theorem syncStep_tryCommit {f : Nat → Db → Except Err Db} {events : Db → Db → List Event}
    (hevents : ∀ db db' address, .addressGiven address ∉ events db db')
    (hf : ∀ now db db', f now db = .ok db' → SameAddresses db db' ∨
      ((∀ r ∈ db'.reservedAddresses.rows, r ∈ db.reservedAddresses.rows) ∧ ∃ index syncState lastCommitTime,
        db.commitIncomingAddressIndex sdk.persister index syncState lastCommitTime = .ok db' ∧
          db'.lastDerivationIndex = some index)) (w : World) : SyncStep sdk w (w.tryCommit f events) := by
  unfold World.tryCommit
  split
  · rename_i db hdb
    have htrace : ∃ es, events w.db db ++ w.trace = es ++ w.trace ∧ ∀ address, .addressGiven address ∉ es :=
      ⟨_, rfl, hevents w.db db⟩
    rcases hf _ _ _ hdb with hsame | ⟨hrows, hindex⟩
    · exact syncStep_of_same hsame htrace
    · exact ⟨⟨htrace, hrows⟩, .inr hindex⟩
  · exact .refl w

/-- ... as is the one transaction that replaces the index. -/
theorem commitIncomingAddressIndex_ok {p : Persister} {index : Nat} {syncState : SyncState}
    {lastCommitTime : Option Nat} {db db' : Db}
    (h : db.commitIncomingAddressIndex p index syncState lastCommitTime = .ok db') :
    db'.lastDerivationIndex = some index ∧ db'.reservedAddresses = db.reservedAddresses := by
  unfold Db.commitIncomingAddressIndex at h
  obtain ⟨_, -, h⟩ := except_bind_eq_ok.mp h
  cases h
  exact ⟨rfl, rfl⟩

/-- A pull, transaction by transaction ... -/
theorem pullWrite_syncStep {f : World → World} (h : PullWrite sdk f) (w : World) : SyncStep sdk w (f w) := by
  cases h with
  | read => exact .refl w
  | saveIncoming records => exact syncStep_write (fun _ db => setIncomingRecords_sameAddresses records db) w
  | latestRevision revision =>
      exact syncStep_write (f := fun _ db => db.setLatestRevision revision) (fun _ _ => .of_eq rfl rfl) w
  | lookUp recordId => exact syncStep_of_same (.of_eq rfl rfl) ⟨[_], rfl, by simp⟩
  | readVersion recordId swap => exact syncStep_of_same (.of_eq rfl rfl) ⟨[_], rfl, by simp⟩
  | commitSwap info result =>
      refine syncStep_tryCommit (not_mem_committedSwap info result) ?_ w
      intro now db db' h
      unfold Db.commitIncomingSwap at h
      obtain ⟨_, -, h⟩ := except_bind_eq_ok.mp h
      obtain ⟨db₁, hinner, h⟩ := except_bind_eq_ok.mp h
      cases h
      have hsame := insertOrUpdateSwapInner_sameAddresses hinner
      exact .inl ⟨hsame.1, hsame.2⟩
  | commitAddressIndex info index =>
      refine syncStep_tryCommit (not_mem_committed info) ?_ w
      intro now db db' h
      obtain ⟨hindex, hreserved⟩ := commitIncomingAddressIndex_ok h
      exact .inr ⟨fun _ hr => hreserved ▸ hr, index, _, _, h, hindex⟩
  | commitPaymentDetails info details =>
      refine syncStep_tryCommit (not_mem_committed info) ?_ w
      intro now db db' h
      unfold Db.commitIncomingPaymentDetails at h
      obtain ⟨_, -, h⟩ := except_bind_eq_ok.mp h
      cases h
      exact .inl (.of_eq rfl rfl)
  | commitBolt12Offer info offer =>
      refine syncStep_tryCommit (not_mem_committed info) ?_ w
      intro now db db' h
      unfold Db.commitIncomingBolt12Offer at h
      obtain ⟨_, -, h⟩ := except_bind_eq_ok.mp h
      cases h
      exact .inl (.of_eq rfl rfl)
  | removeIncoming recordIds =>
      exact syncStep_write (f := fun _ db => db.removeIncomingRecords recordIds) (fun _ _ => .of_eq rfl rfl) w

/-- ... a push ... -/
theorem pushWrite_syncStep {f : World → World} (h : PushWrite f) (w : World) : SyncStep sdk w (f w) := by
  cases h with
  | read => exact .refl w
  | accept sent syncState => exact syncStep_of_same (.of_eq rfl rfl) ⟨[_], rfl, by simp⟩
  | removeSent succeded => exact syncStep_of_same (.of_eq rfl rfl) ⟨succeded.map _, rfl, by simp⟩

theorem syncStep_tryWrite {f : Nat → Db → Except Err Db}
    (hf : ∀ now db db', f now db = .ok db' → SameAddresses db db') (w : World) :
    SyncStep sdk w (w.tryWrite f) := by
  rcases World.tryWrite_cases f w with ⟨db, hdb, hw⟩ | hw
  · rw [hw]
    exact syncStep_of_same (hf _ _ _ hdb) ⟨[], rfl, fun _ => List.not_mem_nil⟩
  · rw [hw]
    exact .refl w

/-- ... and the event loop around them. -/
theorem syncWrite_syncStep {f : World → World} (h : SyncWrite sdk f) (w : World) : SyncStep sdk w (f w) := by
  cases h with
  | pull h => exact pullWrite_syncStep h w
  | push h => exact pushWrite_syncStep h w
  | resetSync => exact syncStep_tryWrite (fun _ _ _ h => resetSync_sameAddresses h) w
  | setNewRemote =>
      refine syncStep_tryWrite (fun now db db' h => ?_) w
      obtain ⟨db₁, hreset, h⟩ := except_bind_eq_ok.mp h
      cases h
      have hsame := resetSync_sameAddresses hreset
      exact ⟨hsame.1, hsame.2⟩

/-- An answer gives no address. -/
theorem syncStep_effect (q : Call) (a : q.Answer) (w : World) : SyncStep sdk w (World.effect sdk q a w) := by
  have hdb := effect_db sdk q a w
  refine syncStep_of_same (by rw [hdb]; exact .of_eq rfl rfl) ?_
  have hbroadcast : ∀ purpose txId answer, ∃ events,
      (w.broadcastEffect purpose txId answer).trace = events ++ w.trace ∧
        ∀ address, .addressGiven address ∉ events := by
    intro purpose txId answer
    rcases World.broadcastEffect_cases purpose txId answer w with h | ⟨answered, h⟩ | h <;> rw [h]
    · exact ⟨[], rfl, fun _ => List.not_mem_nil⟩
    · refine ⟨[_], rfl, fun address hmem => ?_⟩
      have heq := List.mem_singleton.mp hmem
      cases purpose <;> cases heq
    · refine ⟨[_], rfl, fun address hmem => ?_⟩
      cases List.mem_singleton.mp hmem
  unfold World.effect
  split
  · exact hbroadcast _ _ _
  · exact hbroadcast _ _ _
  · exact hbroadcast _ _ _
  · split
    · exact ⟨[], rfl, fun _ => List.not_mem_nil⟩
    · exact ⟨[], rfl, fun _ => List.not_mem_nil⟩
  · exact ⟨[], rfl, fun _ => List.not_mem_nil⟩

/-! ## The tasks -/

/-- Every role grows the history and does not lower the index. -/
def protocol (sdk : Sdk) : Protocol World Role :=
  Protocol.uniform (Kept sdk) Later Later.refl Later.trans

/-- A step of the sync service that meets the condition. -/
theorem keeps_sync {w w' : World} (h : SyncStep sdk w w') :
    Keeps (Careful sdk) (protocol sdk) .sync w w' := by
  intro hw hcareful
  obtain ⟨hquiet, hindex⟩ := h
  refine hw.quiet hquiet ?_
  rcases hindex with hsame | ⟨index, syncState, lastCommitTime, hcommit, hindex⟩
  · rw [hsame]
    exact .refl _
  · intro last hlast
    exact ⟨index, hindex, hcareful index syncState lastCommitTime hcommit last hlast⟩

/-- A step that gives no address and keeps the index. -/
theorem keeps_quiet {C : Cond World Role} {r : Role} {w w' : World} (hquiet : Quiet w w')
    (hindex : w'.db.lastDerivationIndex = w.db.lastDerivationIndex) : Keeps C (protocol sdk) r w w' := by
  intro hw _
  refine hw.quiet hquiet ?_
  rw [hindex]
  exact .refl _

/-- No answer gives an address: it is given when its index is taken. -/
theorem keeps_effect {C : Cond World Role} {r : Role} (q : Call) (a : q.Answer) (w : World) :
    Keeps C (protocol sdk) r w (World.effect sdk q a w) := by
  refine keeps_quiet (syncStep_effect q a w).1 ?_
  rw [effect_db]

/-- The sync keeps the addresses if the index does not fall, which is the condition. -/
theorem benign_sync {α : Type} {t : Async α} (h : t.Within (SyncWrite sdk) PushCall) :
    Benign (system sdk) (Careful sdk) (protocol sdk) .sync t :=
  h.mono (fun _ hf w => keeps_sync (syncWrite_syncStep hf w)) fun q _ a w _ => keeps_effect q a w

/-- The condition on the other tasks: a picked index is above the last one. -/
theorem careful_own {r : Role} (hr : r ≠ .sync) {w w' : World} (h : Careful sdk (.own r) w w') :
    PickedAbove sdk w w' := by
  cases r with
  | next => exact h
  | receive => exact h
  | release => exact h
  | sync => exact absurd rfl hr

section Next

variable {r : Role}

theorem safe_ask (q : Call) (w : World) :
    Safe (system sdk) (Careful sdk) (protocol sdk) r (Task.ask q) (OnOk fun a _ => Answers sdk q a) w := by
  intro w₁ _ hw a ha hc
  obtain ⟨hw', hlater⟩ := keeps_effect (C := Careful sdk) (r := r) q a w₁ hw hc
  exact ⟨hw', hlater, fun _ _ _ => ha⟩

/-- What a service answered, when it answered. -/
theorem safe_askOk {α : Type} {q : Call} (hq : q.Answer = Except Err α) (w : World) :
    Safe (system sdk) (Careful sdk) (protocol sdk) r (Task.askOk q hq)
      (OnOk fun x _ => ∃ a, Answers sdk q a ∧ cast hq a = .ok x) w := by
  intro w₁ _ hw a ha hc
  obtain ⟨hw', hlater⟩ := keeps_effect (C := Careful sdk) (r := r) q a w₁ hw hc
  refine ⟨hw', hlater, fun _ _ _ => ?_⟩
  cases hx : cast hq a with
  | error err => trivial
  | ok x => exact ⟨a, ha, hx⟩

/-- What a task knows once it has an address: that it was given. -/
theorem safe_nextExpiredReservedAddress (tip : Nat) (w : World) :
    Safe (system sdk) (Careful sdk) (protocol sdk) r (nextExpiredReservedAddress tip)
      (OnOk fun x w => ∀ reserved, x = some reserved → .addressGiven reserved.address ∈ w.trace) w := by
  intro w₁ _ hw _
  obtain ⟨hw', hlater⟩ := takeExpired_kept tip hw
  refine ⟨hw', hlater, fun w₂ hrely _ reserved hx => hrely.1 _ ?_⟩
  unfold takeExpired
  split
  · rename_i r₁ db htaken
    rw [htaken] at hx
    cases hx
    exact List.mem_cons_self
  · rename_i htaken
    rw [htaken] at hx
    cases hx

theorem safe_nextDerivationIndex (hinj : Function.Injective sdk.addressAt) (w : World) :
    Safe (system sdk) (Careful sdk) (protocol sdk) r (nextDerivationIndex sdk)
      (OnOk fun x w => ∀ index, x = some index → .addressGiven (sdk.addressAt index) ∈ w.trace) w := by
  intro w₁ _ hw _
  obtain ⟨hw', hlater⟩ := takeNextIndex_kept hinj hw
  refine ⟨hw', hlater, fun w₂ hrely _ index hx => hrely.1 _ ?_⟩
  unfold takeNextIndex
  split
  · rename_i index₁ db htaken
    rw [htaken] at hx
    cases hx
    exact List.mem_cons_self
  · rename_i htaken
    rw [htaken] at hx
    cases hx

theorem safe_storePicked (hr : r ≠ .sync) (index : Nat) (w : World) :
    Safe (system sdk) (Careful sdk) (protocol sdk) r (Task.modify (storePicked sdk index))
      (OnOk fun _ w => .addressGiven (sdk.addressAt index) ∈ w.trace) w := by
  intro w₁ _ hw hc
  obtain ⟨hw', hlater⟩ := storePicked_kept hw (careful_own hr hc index rfl)
  exact ⟨hw', hlater, fun w₂ hrely _ => hrely.1 _ List.mem_cons_self⟩

/-- The address that is returned was given. -/
theorem safe_nextUnusedAddress (hinj : Function.Injective sdk.addressAt) (hr : r ≠ .sync) (w : World) :
    Safe (system sdk) (Careful sdk) (protocol sdk) r (nextUnusedAddress sdk)
      (OnOk fun address w => .addressGiven address ∈ w.trace) w := by
  have hself : ∀ w w' : World, (protocol sdk).guar r w w' → (protocol sdk).rely r w w' := fun _ _ h => h
  refine (safe_ask .walletTip w).bind_ok hself fun tip w₁ _ _ _ => ?_
  refine (safe_nextExpiredReservedAddress tip w₁).bind_ok hself fun reserved w₂ _ _ hreserved => ?_
  cases reserved with
  | some reserved => exact safe_ok fun w₃ hrely _ => hrely.1 _ (hreserved reserved rfl)
  | none =>
      refine (safe_nextDerivationIndex hinj w₂).bind_ok hself fun nextIndex w₃ _ _ hnext => ?_
      refine (safe_askOk rfl w₃).bind_ok hself fun answer w₄ hrely _ hanswer => ?_
      obtain ⟨a, ha, hcast⟩ := hanswer
      obtain ⟨address, index⟩ := answer
      rw [cast_eq] at hcast
      subst hcast
      cases nextIndex with
      | some nextIndex =>
          refine safe_ok fun w₅ hrely' _ => ?_
          rw [ha.2]
          exact hrely'.1 _ (hrely.1 _ (hnext nextIndex rfl))
      | none =>
          refine (safe_storePicked hr index w₄).bind_ok hself fun _ w₅ _ _ hgiven => ?_
          refine safe_ok fun w₆ hrely' _ => ?_
          replace ha : address = sdk.addressAt index := ha
          rw [ha]
          exact hrely'.1 _ hgiven

/-- A receive swap reserves the address it was given. -/
theorem safe_createReceiveSwap (hinj : Function.Injective sdk.addressAt) (w : World) :
    Safe (system sdk) (Careful sdk) (protocol sdk) .receive (createReceiveSwap sdk) (OnOk fun _ _ => True) w := by
  have hself : ∀ w w' : World, (protocol sdk).guar .receive w w' → (protocol sdk).rely .receive w w' :=
    fun _ _ h => h
  refine (safe_nextUnusedAddress (r := .receive) hinj nofun w).bind_ok hself fun address w₁ _ _ hgiven => ?_
  refine (safe_askOk rfl w₁).bind_ok hself fun height w₂ hrely _ _ => ?_
  intro w₃ hrely' hw _
  obtain ⟨hw', hlater⟩ := reserve_kept height hw (hrely'.1 _ (hrely.1 _ hgiven))
  exact ⟨hw', hlater, fun _ _ _ => trivial⟩

end Next

/-! ## Whole runs -/

/-- There is one event loop; all other roles may stand next to everything. -/
def Coexist (r r' : Role) : Prop := ¬ (r = .sync ∧ r' = .sync)

theorem safe_idle {r : Role} {t : Async Unit} {w : World} {post : Except Err Unit → World → Prop}
    (h : Safe (system sdk) (Careful sdk) (protocol sdk) r t post w) :
    Safe (system sdk) (Careful sdk) (protocol sdk) r t (fun _ w => (protocol sdk).idle r w) w :=
  h.mono fun _ _ _ _ => trivial

/-- The tasks do not disturb each other: what was given stays given. -/
theorem sound (hinj : Function.Injective sdk.addressAt) :
    Sound (system sdk) (Careful sdk) (protocol sdk) Coexist where
  compat _ _ _ _ _ h := h
  spawn := by
    intro roles w r t hspawn _ _ _
    have hself : ∀ r w w', (protocol sdk).guar r w w' → (protocol sdk).rely r w w' := fun _ _ _ h => h
    have hsync : Role.sync ∉ roles → ∀ r' ∈ roles, Coexist r' .sync ∧ Coexist .sync r' :=
      fun hnot r' hr' => ⟨fun h => hnot (h.1 ▸ hr'), fun h => hnot (h.2 ▸ hr')⟩
    cases hspawn with
    | next =>
        have hnext : Safe (system sdk) (Careful sdk) (protocol sdk) .next
            ((nextUnusedAddress sdk).bind fun _ => .done (.ok ())) (OnOk fun _ _ => True) w :=
          (safe_nextUnusedAddress (r := .next) hinj nofun w).bind_ok (hself _) fun _ _ _ _ _ => safe_ok fun _ _ _ => trivial
        exact ⟨fun r' _ => ⟨nofun, nofun⟩, safe_idle hnext⟩
    | receive => exact ⟨fun r' _ => ⟨nofun, nofun⟩, safe_idle (safe_createReceiveSwap hinj w)⟩
    | release address =>
        refine ⟨fun r' _ => ⟨nofun, nofun⟩, ?_⟩
        have hbenign : Benign (system sdk) (Careful sdk) (protocol sdk) .release
            (deleteReservedAddress address) := by
          refine within_write fun w => keeps_quiet ⟨⟨[], rfl, fun _ => List.not_mem_nil⟩, ?_⟩ rfl
          exact fun r hr => (List.mem_filter.mp hr).1
        exact hbenign.safe_of (hself _) fun _ _ _ _ => trivial
    | sync failedPushCounter h =>
        refine ⟨hsync h, ?_⟩
        have hwithin : ((runEventLoop sdk failedPushCounter).bind fun _ => (.done (.ok ()) : Async Unit)).Within
            (SyncWrite sdk) PushCall := (within_runEventLoop failedPushCounter).bind fun _ => trivial
        exact (benign_sync hwithin).safe_of (hself _) fun _ _ _ _ => trivial
    | newRemote h =>
        exact ⟨hsync h, (benign_sync within_checkRemoteChange).safe_of (hself _) fun _ _ _ _ => trivial⟩
  abort _ _ _ _ := trivial
  env := by
    intro w w' henv hw _
    have hrely : ∀ w₁ : World, Kept sdk w₁ ∧ Later w w₁ →
        (protocol sdk).inv w₁ ∧ ∀ r, (protocol sdk).rely r w w₁ := fun _ h => ⟨h.1, fun _ => h.2⟩
    cases henv with
    | clock now h => exact hrely _ (hw.quiet ⟨⟨[], rfl, fun _ => List.not_mem_nil⟩, fun _ hr => hr⟩ (.refl _))
    | remotes remotes =>
        exact hrely _ (hw.quiet ⟨⟨[], rfl, fun _ => List.not_mem_nil⟩, fun _ hr => hr⟩ (.refl _))
    | others db hindex hreserved =>
        refine hrely _ (hw.quiet ⟨⟨[], rfl, fun _ => List.not_mem_nil⟩, hreserved⟩ ?_)
        show IndexLe w.db.lastDerivationIndex db.lastDerivationIndex
        rw [hindex]
        exact .refl _

/-- A wallet that answers with the fourth address when it may pick one, and a remote that has the index `0`. -/
def walletSdk : Sdk where
  bz := .byAddress 0
  persister := { codec := .table fun data => if data = "index" then some (.lastDerivationIndex 0) else none }
  addressAt index := String.ofList (List.replicate index 'a')

/-- The wallet of the example has different addresses at different indices. -/
theorem walletSdk_addressAt_injective : Function.Injective walletSdk.addressAt := by
  intro i j h
  simpa [walletSdk] using congrArg String.length h

def remoteIndex : Record where
  id := Record.getIdFromRecordType walletSdk.persister.codec .lastDerivationIndex LAST_DERIVATION_INDEX_DATA_ID
  revision := 1
  data := "index"

def walletAnswers : Nat → (q : Call) → q.Answer
  | _, .walletAddress (some index) => .ok (walletSdk.addressAt index, index)
  | _, .walletAddress none => .ok (walletSdk.addressAt 3, 3)
  | _, .pull _ => .ok [remoteIndex]
  | _, q => q.offline

theorem walletAnswers_answers (n : Nat) (q : Call) (w : World) :
    (system walletSdk).answers q (walletAnswers n q) w := by
  cases q with
  | walletAddress index =>
      cases index with
      | some index => exact ⟨rfl, rfl⟩
      | none => rfl
  | _ => trivial

/-- The state after a task was executed alone. -/
def after (t : Async Unit) (w : World) : World := (t.run (World.effect walletSdk) walletAnswers (0, w)).2.2

def nextAddress : Async Unit := (nextUnusedAddress walletSdk).bind fun _ => .done (.ok ())

/-- The first index that is picked is above nothing. -/
theorem pickedAbove_of_first {w w' : World} (hlast : w.db.lastDerivationIndex = none) (htrace : w.trace.isEmpty = true) :
    PickedAbove walletSdk w w' := by
  intro index _
  rw [List.isEmpty_iff.mp htrace, hlast]
  exact ⟨nofun, List.not_mem_nil⟩

/-- A step that adds one event stores no index that the wallet picked. -/
theorem pickedAbove_of_length {w w' : World} (h : w'.trace.length ≤ w.trace.length + 1) : PickedAbove walletSdk w w' := by
  intro index heq
  rw [heq, List.length_cons, List.length_cons] at h
  omega

def gives (address : Address) : Event → Bool
  | .addressGiven address' => address' = address
  | _ => false

/-- Two calls, the first of which has to ask the wallet for an index. -/
def firstAddresses : World := after nextAddress (after nextAddress {})

theorem gives_iff {address : Address} {e : Event} : gives address e = true ↔ e = .addressGiven address := by
  unfold gives
  split
  · rw [decide_eq_true_iff, Event.addressGiven.injEq]
  · rename_i hother
    constructor
    · exact nofun
    · rintro rfl
      exact absurd rfl (hother address)

def isExpiry : Event → Bool
  | .reservationExpired .. => true
  | _ => false

/-- Without expired reservations an address is given at most once. -/
theorem countP_gives_le {trace : List Event} (h : Separated Event.addressGiven Expired trace)
    (hnone : trace.all (fun e => !isExpiry e) = true) (address : Address) : trace.countP (gives address) ≤ 1 := by
  induction trace with
  | nil => exact Nat.zero_le 1
  | cons e trace ih =>
      obtain ⟨hold, hnew⟩ := separated_cons_iff.mp h
      rw [List.all_cons, Bool.and_eq_true_iff] at hnone
      have htail := ih hold hnone.2
      by_cases hgives : gives address e = true
      · have hzero : trace.countP (gives address) = 0 := by
          refine List.countP_eq_zero.mpr fun e' he' hgives' => ?_
          rw [gives_iff.mp hgives'] at he'
          obtain ⟨between, older, hsplit⟩ := List.append_of_mem he'
          obtain ⟨r, tip, -, -, newer, older', hbetween, -⟩ :=
            hnew address (gives_iff.mp hgives) between older hsplit
          have hmem : Event.reservationExpired r tip ∈ trace := by
            rw [hsplit, hbetween]
            simp
          have habsurd := List.all_eq_true.mp hnone.2 _ hmem
          cases habsurd
        rw [List.countP_cons_of_pos hgives]
        omega
      · rw [List.countP_cons_of_neg hgives]
        exact htail

/-- The index `0` is stored. -/
def indexStored : World := { db := { lastDerivationIndex := some 0 } }

/-- The sync tables are reset after too many failed pushes, and the record of the remote is pulled. -/
def resetAndPull : Async Unit := (Sync.runEventLoop walletSdk 6).bind fun _ => .done (.ok ())

end BreezLiquid.Wallet
