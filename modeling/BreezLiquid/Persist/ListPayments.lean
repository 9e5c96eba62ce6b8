/-
# BreezLiquid.Persist.ListPayments — the filters of a request, and the payments they should select.

A filtered listing is compared with the listing of everything: the payments that match the request, by their own type,
status, time and details, in the order of their own times. The columns do not always tell these. A swap without a wallet
transaction has no type and, unless it is a receive swap, no time to be filtered by; rows are ordered by the creation of
their swap, payments show the time of their transaction.
-/
import BreezLiquid.Persist.Payments

namespace BreezLiquid.Payments

open Query

/-! ## What a request asks for -/

def matchesTimes (req : ListPaymentsRequest) (payment : Payment) : Bool :=
  req.fromTimestamp.all (fun t : Int => t ≤ payment.timestamp) &&
    req.toTimestamp.all fun t : Int => payment.timestamp ≤ t

/-- No filters, like an empty list of them, match every payment. -/
def matchesTypes (req : ListPaymentsRequest) (payment : Payment) : Bool :=
  match req.filters with
  | none | some [] => true
  | some filters => filters.contains payment.paymentType

def matchesStates (req : ListPaymentsRequest) (payment : Payment) : Bool :=
  match req.states with
  | none | some [] => true
  | some states => states.contains payment.status

def matchesDetails (req : ListPaymentsRequest) (payment : Payment) : Bool :=
  match req.details, payment.details with
  | none, _ => true
  | some (.bitcoin address), .bitcoin details => address.all fun a => details.bitcoinAddress = a
  | some (.liquid assetId destination), .liquid details =>
      assetId.all (fun a => details.assetId = a) && destination.all fun d => details.destination = d
  | some _, _ => false

/-- The payment satisfies the filters. -/
def Matches (req : ListPaymentsRequest) (payment : Payment) : Bool :=
  matchesTimes req payment && matchesTypes req payment && matchesStates req payment && matchesDetails req payment

/-- The rows without any filter. -/
def paymentRows (db : PaymentDb) : List JoinedRow :=
  (joinedRows db false).filter fun row => (notRefund db row).holds

/-- In every window, a listing selects from the listing of everything, which has no filters and a limit that leaves
nothing out. -/
def Refines (reader : PaymentReader) (now : Nat) (db : PaymentDb) (req : ListPaymentsRequest) : Prop :=
  ∀ offset limit payments whole,
    GetPayments reader now db { req with offset, limit } payments →
    GetPayments reader now db { limit := some (paymentRows db).length } whole →
    Selects (Matches req) (req.sortAscending.getD false) Payment.timestamp (offset.getD 0) (limit.getD u32Max)
      whole payments

/-! ## When the columns tell what the payments show -/

/-- The columns that the request filters by are not NULL. -/
structure Shown (req : ListPaymentsRequest) (row : JoinedRow) : Prop where
  /-- For a range of times: a time of the transaction, or a receive swap. -/
  time : req.fromTimestamp ≠ none ∨ req.toTimestamp ≠ none → row.filterTime ≠ none
  /-- For a type: a wallet transaction. -/
  type : req.filters.getD [] ≠ [] → row.ptx ≠ none
  address : ∀ address cs, req.details = some (.bitcoin (some address)) → row.cs = some cs →
    chainBitcoinAddress cs ≠ none
  destination : ∀ assetId destination, req.details = some (.liquid assetId (some destination)) → row.pd ≠ none

/-- A row that is asked for as a Bitcoin payment is not one of another swap, too. -/
def Unchained (req : ListPaymentsRequest) (row : JoinedRow) : Prop :=
  ∀ address, req.details = some (.bitcoin address) → row.rs = none ∧ row.ss = none

/-- The database tells the payments of the request apart, and their order. -/
structure Listable (reader : PaymentReader) (now : Nat) (db : PaymentDb) (req : ListPaymentsRequest) : Prop where
  /-- Every transaction has a balance. -/
  balanced : ∀ row ∈ paymentRows db, row.ptx ≠ none → row.pb ≠ none
  shown : ∀ row ∈ paymentRows db, ∀ payment, sqlRowToPayment reader now row = some payment →
    Matches req payment = true → Shown req row
  unchained : ∀ row ∈ paymentRows db, (joinClauses (filterToWhereClause req) row).holds = true → Unchained req row
  /-- A payment whose swap or transaction was there first shows the earlier time. -/
  order : ∀ row ∈ paymentRows db, ∀ row' ∈ paymentRows db, ∀ payment payment',
    sqlRowToPayment reader now row = some payment → sqlRowToPayment reader now row' = some payment' →
    Matches req payment = true → Matches req payment' = true →
    Before (req.sortAscending.getD false) JoinedRow.orderKey row row' →
    Before (req.sortAscending.getD false) Payment.timestamp payment payment'

/-! ## Rows of the joins -/

/-- A row stands for a transaction or a swap, and a balance for that of its transaction. -/
structure JoinedRow.Joined (row : JoinedRow) : Prop where
  source : row.ptx ≠ none ∨ row.rs ≠ none ∨ row.cs ≠ none
  balance : row.pb ≠ none → row.ptx ≠ none

/-- Every joined row has a transaction or a swap. -/
theorem joined_of_mem (db : PaymentDb) (includeAllStates : Bool) :
    ∀ row ∈ joinedRows db includeAllStates, row.Joined := by
  have hput : ∀ {row row' : JoinedRow}, row.Joined → row'.ptx = row.ptx → row'.pb = row.pb →
      (row.rs ≠ none → row'.rs ≠ none) → (row.cs ≠ none → row'.cs ≠ none) → row'.Joined := by
    intro row row' h hptx hpb hrs hcs
    refine ⟨?_, ?_⟩
    · rw [hptx]
      rcases h.source with h | h | h
      · exact .inl h
      · exact .inr (.inl (hrs h))
      · exact .inr (.inr (hcs h))
    · rw [hptx, hpb]
      exact h.balance
  unfold joinedRows
  refine leftJoin_invariant ?_ fun row am h => hput h rfl rfl id id
  refine leftJoin_invariant ?_ fun row pd h => hput h rfl rfl id id
  refine leftJoin_invariant ?_ fun row rb h => hput h rfl rfl id id
  refine leftJoin_invariant ?_ fun row ss h => hput h rfl rfl id id
  refine fullJoin_invariant ?_ (fun row cs h => hput h rfl rfl id fun _ => Option.some_ne_none cs) ?_
  · refine fullJoin_invariant ?_ (fun row rs h => hput h rfl rfl (fun _ => Option.some_ne_none rs) id) ?_
    · -- the transactions and their balances
      have htx : ∀ row ∈ leftJoin (fun (row : JoinedRow) (pb : PaymentBalance) => equals (some pb.txId) row.txId)
          (fun row pb => { row with pb := some pb }) db.paymentBalance.rows
          (db.paymentTxData.rows.map fun ptx => { ptx := some ptx }), row.ptx ≠ none := by
        refine leftJoin_invariant ?_ fun row pb h => h
        intro row hmem
        obtain ⟨ptx, -, rfl⟩ := List.mem_map.mp hmem
        exact Option.some_ne_none ptx
      intro row hmem
      exact ⟨.inl (htx row hmem), fun _ => htx row hmem⟩
    · intro rs _
      exact ⟨.inr (.inl (Option.some_ne_none rs)), fun h => absurd rfl h⟩
  · intro cs _
    exact ⟨.inr (.inr (Option.some_ne_none cs)), fun h => absurd rfl h⟩

/-! ## What a payment shows -/

section Row

variable {reader : PaymentReader} {now : Nat} {row : JoinedRow} {payment : Payment}

/-- What the reader makes of a swap is read from its columns: the creation ... -/
theorem swapAndType_createdAt (reader : PaymentReader) (row : JoinedRow) :
    (swapAndType reader row).1.map PaymentSwapData.createdAt = row.swapCreatedAt := by
  unfold swapAndType JoinedRow.swapCreatedAt
  rcases row.rs with _ | rs <;> rcases row.ss with _ | ss <;> rcases row.cs with _ | cs <;> rfl

/-- ... the state ... -/
theorem swapAndType_status (reader : PaymentReader) (row : JoinedRow) :
    (swapAndType reader row).1.map PaymentSwapData.status = row.swapState := by
  unfold swapAndType JoinedRow.swapState
  rcases row.rs with _ | rs <;> rcases row.ss with _ | ss <;> rcases row.cs with _ | cs <;> rfl

/-- ... and the id. -/
theorem swapAndType_swapId (reader : PaymentReader) (row : JoinedRow) :
    (swapAndType reader row).1.map PaymentSwapData.swapId = row.swapId := by
  unfold swapAndType JoinedRow.swapId
  rcases row.rs with _ | rs <;> rcases row.ss with _ | ss <;> rcases row.cs with _ | cs <;> rfl

/-- A payment is read of a transaction with its balance, or of a swap alone. -/
theorem sqlRowToPayment_cases (h : sqlRowToPayment reader now row = some payment) :
    (∃ tx pb, row.ptx = some tx ∧ row.pb = some pb ∧
      payment = .fromTxData now tx pb.toPaymentTxBalance (swapAndType reader row).1
        (paymentDetails reader row (swapAndType reader row).1)) ∨
    (row.ptx = none ∧ ∃ swap, (swapAndType reader row).1 = some swap ∧
      payment = .fromPendingSwap swap (swapAndType reader row).2
        (paymentDetails reader row (swapAndType reader row).1)) := by
  unfold sqlRowToPayment at h
  dsimp only at h
  split at h
  · rename_i tx pb htx hpb
    exact .inl ⟨tx, pb, htx, hpb, (Option.some.inj h).symm⟩
  · cases h
  · rename_i swap htx hswap
    exact .inr ⟨htx, swap, hswap, (Option.some.inj h).symm⟩
  · cases h

/-- A row is a payment unless it has a transaction without a balance. -/
theorem sqlRowToPayment_isSome (hjoined : row.Joined) :
    (∃ payment, sqlRowToPayment reader now row = some payment) ↔ (row.ptx ≠ none → row.pb ≠ none) := by
  constructor
  · rintro ⟨payment, h⟩ htx
    rcases sqlRowToPayment_cases h with ⟨tx, pb, -, hpb, -⟩ | ⟨hnone, -⟩
    · rw [hpb]
      exact Option.some_ne_none pb
    · exact absurd hnone htx
  · intro hbalanced
    unfold sqlRowToPayment
    dsimp only
    cases htx : row.ptx with
    | some tx =>
        cases hpb : row.pb with
        | some pb => exact ⟨_, rfl⟩
        | none =>
            rw [htx] at hbalanced
            exact absurd hpb (hbalanced (Option.some_ne_none tx))
    | none =>
        cases hswap : (swapAndType reader row).1 with
        | some swap => exact ⟨_, rfl⟩
        | none =>
            have hid := swapAndType_swapId reader row
            rw [hswap] at hid
            have hnone := hid.symm
            unfold JoinedRow.swapId at hnone
            rw [Option.map_none, Option.or_eq_none_iff, Option.or_eq_none_iff, Option.map_eq_none_iff,
              Option.map_eq_none_iff, Option.map_eq_none_iff] at hnone
            rcases hjoined.source with h | h | h
            · exact absurd htx h
            · exact absurd hnone.1 h
            · exact absurd hnone.2.2 h

/-- The time of a payment, where it is read from ... -/
theorem payment_timestamp (h : sqlRowToPayment reader now row = some payment) :
    payment.timestamp = (row.timestamp.or row.swapCreatedAt).getD now := by
  rw [← swapAndType_createdAt reader]
  unfold JoinedRow.timestamp
  rcases sqlRowToPayment_cases h with ⟨tx, pb, htx, -, rfl⟩ | ⟨htx, swap, hswap, rfl⟩
  · rw [htx]
    rfl
  · rw [htx, hswap]
    rfl

/-- ... its type ... -/
theorem payment_paymentType (h : sqlRowToPayment reader now row = some payment) {pb : PaymentBalance}
    (hjoined : row.Joined) (hpb : row.pb = some pb) : payment.paymentType = pb.paymentType := by
  rcases sqlRowToPayment_cases h with ⟨tx, pb', -, hpb', rfl⟩ | ⟨htx, -⟩
  · cases hpb.symm.trans hpb'
    rfl
  · refine absurd htx (hjoined.balance ?_)
    rw [hpb]
    exact Option.some_ne_none pb

/-- ... and its details. -/
theorem payment_details (h : sqlRowToPayment reader now row = some payment) :
    payment.details = paymentDetails reader row (swapAndType reader row).1 := by
  rcases sqlRowToPayment_cases h with ⟨tx, pb, -, -, rfl⟩ | ⟨-, swap, -, rfl⟩
  · rfl
  · rfl

/-- The status is that of the swap, or of the transaction if there is no swap. -/
theorem payment_status (h : sqlRowToPayment reader now row = some payment) :
    row.swapState = some payment.status ∨
      row.swapId = none ∧ row.swapState = none ∧ ∃ tx, row.ptx = some tx ∧
        payment.status = if tx.isConfirmed then .complete else .pending := by
  rw [← swapAndType_status reader, ← swapAndType_swapId reader]
  rcases sqlRowToPayment_cases h with ⟨tx, pb, htx, -, rfl⟩ | ⟨-, swap, hswap, rfl⟩
  · cases hswap : (swapAndType reader row).1 with
    | some swap => exact .inl rfl
    | none => exact .inr ⟨rfl, rfl, tx, htx, rfl⟩
  · rw [hswap]
    exact .inl rfl

/-! ## Clauses -/

/-- A row meets the clauses if it meets each of them. -/
theorem holds_joinClauses (clauses : List Clause) (row : JoinedRow) :
    (joinClauses clauses row).holds = clauses.all fun clause => (clause row).holds := by
  unfold joinClauses
  induction clauses with
  | nil => rfl
  | cons clause clauses ih =>
      rw [List.foldr_cons, Truth.holds_and, ih, List.all_cons]

/-- The time that a row is filtered by is that of its payment, if it is not NULL. -/
theorem payment_timestamp_of_filterTime (h : sqlRowToPayment reader now row = some payment) {time : Nat}
    (htime : row.filterTime = some time) : payment.timestamp = time := by
  rw [payment_timestamp h]
  unfold JoinedRow.filterTime at htime
  unfold JoinedRow.swapCreatedAt
  cases htimestamp : row.timestamp with
  | some t =>
      rw [htimestamp] at htime
      exact Option.some.inj htime
  | none =>
      rw [htimestamp, Option.none_or] at htime
      rw [Option.none_or, htime]
      rfl

theorem holds_compare_filterTime (h : sqlRowToPayment reader now row = some payment) (r : Nat → Int → Bool)
    (t : Int) : (compare r row.filterTime (some t)).holds = true ↔
      r payment.timestamp t = true ∧ row.filterTime ≠ none := by
  rw [holds_compare]
  constructor
  · rintro ⟨time, t', htime, ht, hr⟩
    cases ht
    rw [payment_timestamp_of_filterTime h htime, htime]
    exact ⟨hr, Option.some_ne_none time⟩
  · rintro ⟨hr, hsome⟩
    obtain ⟨time, htime⟩ := Option.ne_none_iff_exists'.mp hsome
    rw [payment_timestamp_of_filterTime h htime] at hr
    exact ⟨time, t, htime, rfl, hr⟩

/-- Each group of clauses keeps a row if its payment matches, and if what it compares is there: the
timestamps ... -/
theorem timestampClauses_iff (h : sqlRowToPayment reader now row = some payment) (req : ListPaymentsRequest) :
    (timestampClauses req).all (fun clause => (clause row).holds) = true ↔
      matchesTimes req payment = true ∧
        (req.fromTimestamp ≠ none ∨ req.toTimestamp ≠ none → row.filterTime ≠ none) := by
  unfold timestampClauses matchesTimes
  cases hfrom : req.fromTimestamp with
  | none =>
      cases hto : req.toTimestamp with
      | none => simp
      | some u =>
          show ((compare _ row.filterTime (some u)).holds && true) = true ↔ _
          rw [Bool.and_true, holds_compare_filterTime h]
          simp
  | some t =>
      cases hto : req.toTimestamp with
      | none =>
          show ((compare _ row.filterTime (some t)).holds && true) = true ↔ _
          rw [Bool.and_true, holds_compare_filterTime h]
          simp
      | some u =>
          show ((compare _ row.filterTime (some t)).holds && ((compare _ row.filterTime (some u)).holds && true)) =
            true ↔ _
          rw [Bool.and_true, Bool.and_eq_true, holds_compare_filterTime h, holds_compare_filterTime h]
          simp only [Option.all_some, Bool.and_eq_true, ne_eq, reduceCtorEq, not_false_eq_true, or_self, forall_const]
          constructor
          · rintro ⟨⟨hle, hsome⟩, hge, -⟩
            exact ⟨⟨hle, hge⟩, hsome⟩
          · rintro ⟨⟨hle, hge⟩, hsome⟩
            exact ⟨⟨hle, hsome⟩, hge, hsome⟩

theorem holds_isIn_map {α : Type} [DecidableEq α] {x : Option α} {values : List α} :
    (isIn x (values.map some)).holds = true ↔ ∃ a ∈ values, x = some a := by
  rw [holds_isIn]
  constructor
  · rintro ⟨a, hx, hmem⟩
    obtain ⟨a', hmem', heq⟩ := List.mem_map.mp hmem
    cases heq
    exact ⟨a, hmem', hx⟩
  · rintro ⟨a, hmem, hx⟩
    exact ⟨a, hx, List.mem_map_of_mem hmem⟩

/-- ... the types ... -/
theorem typeClauses_iff (h : sqlRowToPayment reader now row = some payment) (hjoined : row.Joined)
    (req : ListPaymentsRequest) :
    (typeClauses req).all (fun clause => (clause row).holds) = true ↔
      matchesTypes req payment = true ∧ (req.filters.getD [] ≠ [] → row.ptx ≠ none) := by
  unfold typeClauses matchesTypes
  rcases hfilters : req.filters with _ | _ | ⟨filter, filters⟩
  · exact ⟨fun _ => ⟨rfl, fun h => absurd rfl h⟩, fun _ => rfl⟩
  · exact ⟨fun _ => ⟨rfl, fun h => absurd rfl h⟩, fun _ => rfl⟩
  · show ((isIn (row.pb.map (·.paymentType)) ((filter :: filters).map some)).holds && true) = true ↔
      (filter :: filters).contains payment.paymentType = true ∧ (filter :: filters ≠ [] → row.ptx ≠ none)
    rw [Bool.and_true, holds_isIn_map, List.contains_iff_mem]
    constructor
    · rintro ⟨paymentType, hmem, htype⟩
      obtain ⟨pb, hpb, rfl⟩ := Option.map_eq_some_iff.mp htype
      rw [payment_paymentType h hjoined hpb]
      refine ⟨hmem, fun _ => hjoined.balance ?_⟩
      rw [hpb]
      exact Option.some_ne_none pb
    · rintro ⟨hmem, htx⟩
      -- a transaction that could be read has a balance
      obtain ⟨pb, hpb⟩ := Option.ne_none_iff_exists'.mp
        ((sqlRowToPayment_isSome hjoined).mp ⟨payment, h⟩ (htx (List.cons_ne_nil _ _)))
      rw [payment_paymentType h hjoined hpb] at hmem
      exact ⟨pb.paymentType, hmem, Option.map_eq_some_iff.mpr ⟨pb, hpb, rfl⟩⟩

theorem mem_txConfirmedParam {states : List PaymentState} {isConfirmed : Bool} :
    isConfirmed ∈ txConfirmedParam states ↔ (if isConfirmed then .complete else .pending) ∈ states := by
  unfold txConfirmedParam
  rw [List.mem_filterMap]
  constructor
  · rintro ⟨state, hmem, hstate⟩
    cases state with
    | pending =>
        cases hstate
        exact hmem
    | complete =>
        cases hstate
        exact hmem
    | _ => cases hstate
  · intro hmem
    cases isConfirmed with
    | true => exact ⟨.complete, hmem, rfl⟩
    | false => exact ⟨.pending, hmem, rfl⟩

/-- The clause of some states. -/
theorem stateClauses_some {req : ListPaymentsRequest} {state : PaymentState} {states : List PaymentState}
    (hstates : req.states = some (state :: states)) :
    (stateClauses req).all (fun clause => (clause row).holds) = true ↔
      (row.swapId = none ∧ ∃ tx, row.ptx = some tx ∧ tx.isConfirmed ∈ txConfirmedParam (state :: states)) ∨
        ∃ s ∈ state :: states, row.swapState = some s := by
  unfold stateClauses
  rw [hstates]
  dsimp only
  split
  · rename_i hempty
    rw [List.isEmpty_iff] at hempty
    rw [List.all_cons, List.all_nil, Bool.and_true, holds_isIn_map, hempty]
    constructor
    · intro hin
      exact .inr hin
    · rintro (⟨-, tx, -, hmem⟩ | hin)
      · cases hmem
      · exact hin
  · rw [List.all_cons, List.all_nil, Bool.and_true, Truth.holds_or, Truth.holds_and, Bool.or_eq_true, Bool.and_eq_true,
      holds_isIn_map, holds_isIn_map]
    unfold isNull
    rw [Truth.holds_some, Option.isNone_iff_eq_none]
    refine or_congr (and_congr_right fun _ => ?_) Iff.rfl
    constructor
    · rintro ⟨isConfirmed, hmem, hconfirmed⟩
      obtain ⟨tx, htx, rfl⟩ := Option.map_eq_some_iff.mp hconfirmed
      exact ⟨tx, htx, hmem⟩
    · rintro ⟨tx, htx, hmem⟩
      exact ⟨tx.isConfirmed, hmem, Option.map_eq_some_iff.mpr ⟨tx, htx, rfl⟩⟩

/-- ... the states, without a condition ... -/
theorem stateClauses_iff (h : sqlRowToPayment reader now row = some payment) (req : ListPaymentsRequest) :
    (stateClauses req).all (fun clause => (clause row).holds) = true ↔ matchesStates req payment = true := by
  rcases hstates : req.states with _ | _ | ⟨state, states⟩
  · unfold stateClauses matchesStates
    rw [hstates]
    exact ⟨fun _ => rfl, fun _ => rfl⟩
  · unfold stateClauses matchesStates
    rw [hstates]
    exact ⟨fun _ => rfl, fun _ => rfl⟩
  · rw [stateClauses_some hstates]
    unfold matchesStates
    rw [hstates]
    dsimp only
    rw [List.contains_iff_mem]
    rcases payment_status h with hswap | ⟨hid, hnone, tx, htx, hstatus⟩
    · constructor
      · rintro (⟨hid, -⟩ | ⟨s, hmem, hs⟩)
        · -- a swap with a state has an id
          unfold JoinedRow.swapId at hid
          unfold JoinedRow.swapState at hswap
          rw [Option.or_eq_none_iff, Option.or_eq_none_iff, Option.map_eq_none_iff, Option.map_eq_none_iff,
            Option.map_eq_none_iff] at hid
          rw [hid.1, hid.2.1, hid.2.2] at hswap
          cases hswap
        · cases hswap.symm.trans hs
          exact hmem
      · intro hmem
        exact .inr ⟨payment.status, hmem, hswap⟩
    · constructor
      · rintro (⟨-, tx', htx', hmem⟩ | ⟨s, -, hs⟩)
        · cases htx.symm.trans htx'
          rw [hstatus]
          exact mem_txConfirmedParam.mp hmem
        · cases hnone.symm.trans hs
      · intro hmem
        rw [hstatus] at hmem
        exact .inl ⟨hid, tx, htx, mem_txConfirmedParam.mpr hmem⟩

/-- The kind of the details, by the swaps of the row. -/
theorem payment_details_cases (h : sqlRowToPayment reader now row = some payment) :
    (row.swapId = none ∧ payment.details = .liquid (liquidDetails reader row)) ∨
    (∃ cs swap, row.cs = some cs ∧ row.swapId ≠ none ∧ payment.details = .bitcoin (bitcoinDetails row swap) ∧
      row.rs = none ∧ row.ss = none) ∨
    ((row.rs ≠ none ∨ row.ss ≠ none) ∧ row.swapId ≠ none ∧
      ∃ swap, payment.details = .lightning (lightningDetails reader row swap)) := by
  rw [payment_details h]
  unfold swapAndType JoinedRow.swapId
  rcases row.rs with _ | rs
  · rcases row.ss with _ | ss
    · rcases row.cs with _ | cs
      · exact .inl ⟨rfl, rfl⟩
      · exact .inr (.inl ⟨cs, _, rfl, Option.some_ne_none cs.id, rfl, rfl, rfl⟩)
    · exact .inr (.inr ⟨.inr (Option.some_ne_none ss), Option.some_ne_none ss.id, _, rfl⟩)
  · exact .inr (.inr ⟨.inl (Option.some_ne_none rs), Option.some_ne_none rs.id, _, rfl⟩)

theorem eq_some_iff_getD {α : Type} {x : Option α} {a d : α} : x = some a ↔ x.getD d = a ∧ x ≠ none := by
  cases x with
  | none =>
      constructor
      · intro h
        cases h
      · rintro ⟨-, h⟩
        exact absurd rfl h
  | some b =>
      rw [Option.some_inj, Option.getD_some]
      exact ⟨fun h => ⟨h, Option.some_ne_none b⟩, fun h => h.1⟩

/-- The clause of an address compares it with the Bitcoin address of the chain swap. -/
theorem holds_addressClause {cs : ChainSwap} (hcs : row.cs = some cs) (address : Address) :
    (((equals (row.cs.map ChainSwap.direction) (some .incoming)).and
        (equals (row.cs.map ChainSwap.lockupAddress) (some address))).or
      ((equals (row.cs.map ChainSwap.direction) (some .outgoing)).and
        (equals (row.cs.bind ChainSwap.claimAddress) (some address)))).holds = true ↔
      chainBitcoinAddress cs = some address := by
  rw [Truth.holds_or, Truth.holds_and, Truth.holds_and, Bool.or_eq_true, Bool.and_eq_true, Bool.and_eq_true, hcs]
  unfold chainBitcoinAddress
  cases hdirection : cs.direction with
  | incoming => simpa [holds_equals, hdirection] using eq_comm
  | outgoing => simp [holds_equals, hdirection]

/-- ... the details of payments to or from Bitcoin ... -/
theorem detailsClauses_bitcoin (h : sqlRowToPayment reader now row = some payment) {req : ListPaymentsRequest}
    {address : Option Address} (hdetails : req.details = some (.bitcoin address)) (hunchained : Unchained req row) :
    (detailsClauses req).all (fun clause => (clause row).holds) = true ↔
      matchesDetails req payment = true ∧
        ∀ a cs, address = some a → row.cs = some cs → chainBitcoinAddress cs ≠ none := by
  obtain ⟨hrs, hss⟩ := hunchained address hdetails
  unfold detailsClauses matchesDetails
  rw [hdetails]
  -- a row that is read as another kind of payment does not pass the first clause, by `hunchained` for Lightning
  rcases payment_details_cases h with ⟨hid, hliquid⟩ | ⟨cs, swap, hcs, -, hbitcoin, -⟩ | ⟨hother, -⟩
  · rw [hliquid]
    unfold JoinedRow.swapId at hid
    rw [Option.or_eq_none_iff, Option.or_eq_none_iff, Option.map_eq_none_iff, Option.map_eq_none_iff,
      Option.map_eq_none_iff] at hid
    have hnull : (isNotNull row.cs).holds = false := by
      rw [hid.2.2]
      rfl
    rw [List.all_cons]
    dsimp only
    rw [hnull, Bool.false_and]
    simp
  · have haddress : (bitcoinDetails row swap).bitcoinAddress = (chainBitcoinAddress cs).getD "" := by
      unfold bitcoinDetails
      rw [hcs]
      rfl
    rw [hbitcoin]
    dsimp only
    rw [List.all_cons, Bool.and_eq_true]
    cases address with
    | none => simp [isNotNull, hcs]
    | some a =>
        dsimp only
        rw [List.all_cons, List.all_nil, Bool.and_true, holds_addressClause hcs, Option.all_some, haddress,
          decide_eq_true_iff, eq_some_iff_getD (d := "")]
        constructor
        · rintro ⟨-, hget, hsome⟩
          refine ⟨hget, ?_⟩
          rintro a' cs' - hcs'
          cases hcs.symm.trans hcs'
          exact hsome
        · rintro ⟨hget, hsome⟩
          refine ⟨?_, hget, hsome a cs rfl hcs⟩
          rw [hcs]
          rfl
  · rcases hother with hother | hother
    · exact absurd hrs hother
    · exact absurd hss hother

theorem holds_isNull_of_ne_none {α : Type} {x : Option α} (h : x ≠ none) : (isNull x).holds = false := by
  obtain ⟨a, rfl⟩ := Option.ne_none_iff_exists'.mp h
  rfl

/-- ... of payments on Liquid ... -/
theorem detailsClauses_liquid (h : sqlRowToPayment reader now row = some payment) {req : ListPaymentsRequest}
    {assetId : Option AssetId} {destination : Option String}
    (hdetails : req.details = some (.liquid assetId destination)) :
    (detailsClauses req).all (fun clause => (clause row).holds) = true ↔
      matchesDetails req payment = true ∧ ∀ d, destination = some d → row.pd ≠ none := by
  unfold detailsClauses matchesDetails
  rw [hdetails]
  rcases payment_details_cases h with ⟨hid, hliquid⟩ | ⟨cs, swap, -, hid, hbitcoin, -⟩ | ⟨-, hid, swap, hlightning⟩
  · -- without a swap the row has a transaction and a balance
    obtain ⟨tx, pb, htx, hpb⟩ : ∃ tx pb, row.ptx = some tx ∧ row.pb = some pb := by
      rcases sqlRowToPayment_cases h with ⟨tx, pb, htx, hpb, -⟩ | ⟨-, swap, hswap, -⟩
      · exact ⟨tx, pb, htx, hpb⟩
      · have hid' := swapAndType_swapId reader row
        rw [hswap, hid] at hid'
        cases hid'
    have hasset : (liquidDetails reader row).assetId = pb.assetId := by
      unfold liquidDetails
      rw [htx, hpb]
    have hdestination : (liquidDetails reader row).destination =
        (row.pd.map PaymentTxDetails.destination).getD "Destination unknown" := rfl
    rw [hliquid]
    have hnull : (isNull row.swapId).holds = true := by
      rw [hid]
      rfl
    rw [List.all_cons, List.all_append]
    dsimp only
    rw [hnull, Bool.true_and, hasset, hdestination, Bool.and_eq_true, Bool.and_eq_true, and_assoc]
    refine and_congr ?_ ?_
    · cases assetId with
      | none => exact Iff.rfl
      | some a =>
          show ((equals (row.pb.map fun pb : PaymentBalance => pb.assetId) (some a)).holds && true) = true ↔
            decide (pb.assetId = a) = true
          rw [Bool.and_true, holds_equals, hpb]
          simpa using eq_comm
    · cases destination with
      | none => simp
      | some d =>
          show ((equals (row.pd.map PaymentTxDetails.destination) (some d)).holds && true) = true ↔ _
          rw [Bool.and_true, holds_equals]
          cases hpd : row.pd with
          | none => simp
          | some pd => simpa using eq_comm
  · rw [hbitcoin, List.all_cons]
    dsimp only
    rw [holds_isNull_of_ne_none hid, Bool.false_and]
    simp
  · rw [hlightning, List.all_cons]
    dsimp only
    rw [holds_isNull_of_ne_none hid, Bool.false_and]
    simp

/-- ... and both together. -/
theorem detailsClauses_iff (h : sqlRowToPayment reader now row = some payment) {req : ListPaymentsRequest}
    (hunchained : Unchained req row) :
    (detailsClauses req).all (fun clause => (clause row).holds) = true ↔
      matchesDetails req payment = true ∧
        (∀ address cs, req.details = some (.bitcoin (some address)) → row.cs = some cs →
          chainBitcoinAddress cs ≠ none) ∧
        ∀ assetId destination, req.details = some (.liquid assetId (some destination)) → row.pd ≠ none := by
  rcases hdetails : req.details with _ | ⟨assetId, destination⟩ | address
  · unfold detailsClauses matchesDetails
    rw [hdetails]
    simp
  · rw [detailsClauses_liquid h hdetails]
    refine and_congr_right fun _ => ?_
    constructor
    · intro hpd
      refine ⟨?_, ?_⟩
      · intro address cs heq
        cases heq
      · intro assetId' destination' heq
        cases heq
        exact hpd destination' rfl
    · rintro ⟨-, hpd⟩ d rfl
      exact hpd assetId d rfl
  · rw [detailsClauses_bitcoin h hdetails hunchained]
    refine and_congr_right fun _ => ?_
    constructor
    · intro haddress
      refine ⟨?_, ?_⟩
      · intro a cs heq hcs
        cases heq
        exact haddress a cs rfl hcs
      · intro assetId destination heq
        cases heq
    · rintro ⟨haddress, -⟩ a cs rfl hcs
      exact haddress a cs rfl hcs

/-! ## Rows that a request selects -/

theorem unchained_of_matches (h : sqlRowToPayment reader now row = some payment) {req : ListPaymentsRequest}
    (hmatches : Matches req payment = true) : Unchained req row := by
  intro address hdetails
  unfold Matches matchesDetails at hmatches
  rw [hdetails] at hmatches
  rcases payment_details_cases h with ⟨-, hliquid⟩ | ⟨-, -, -, -, -, hunchained⟩ | ⟨-, -, swap, hlightning⟩
  · rw [hliquid, Bool.and_false] at hmatches
    cases hmatches
  · exact hunchained
  · rw [hlightning, Bool.and_false] at hmatches
    cases hmatches

/-- The clauses keep a row of one swap exactly if its payment matches and shows in the columns. -/
theorem whereClause_iff (h : sqlRowToPayment reader now row = some payment) (hjoined : row.Joined)
    {req : ListPaymentsRequest} (hunchained : Unchained req row) :
    (joinClauses (filterToWhereClause req) row).holds = true ↔ Matches req payment = true ∧ Shown req row := by
  rw [holds_joinClauses]
  unfold filterToWhereClause Matches
  rw [List.all_append, List.all_append, List.all_append, Bool.and_eq_true, Bool.and_eq_true, Bool.and_eq_true,
    timestampClauses_iff h, typeClauses_iff h hjoined, stateClauses_iff h, detailsClauses_iff h hunchained,
    Bool.and_eq_true, Bool.and_eq_true, Bool.and_eq_true]
  constructor
  · rintro ⟨⟨⟨⟨htimes, htime⟩, htypes, htype⟩, hstates⟩, hdetails, haddress, hdestination⟩
    exact ⟨⟨⟨⟨htimes, htypes⟩, hstates⟩, hdetails⟩, htime, htype, haddress, hdestination⟩
  · rintro ⟨⟨⟨⟨htimes, htypes⟩, hstates⟩, hdetails⟩, hshown⟩
    exact ⟨⟨⟨⟨htimes, hshown.time⟩, htypes, hshown.type⟩, hstates⟩, hdetails, hshown.address, hshown.destination⟩

/-- The clauses tell whether the payment matches: if it does it shows, and a row they keep is one of one swap. -/
theorem whereClause_eq_matches_iff (h : sqlRowToPayment reader now row = some payment) (hjoined : row.Joined)
    (req : ListPaymentsRequest) :
    (joinClauses (filterToWhereClause req) row).holds = Matches req payment ↔
      (Matches req payment = true → Shown req row) ∧
        ((joinClauses (filterToWhereClause req) row).holds = true → Unchained req row) := by
  constructor
  · intro heq
    refine ⟨?_, ?_⟩
    · intro hmatches
      exact ((whereClause_iff h hjoined (unchained_of_matches h hmatches)).mp (heq.trans hmatches)).2
    · intro hkept
      exact unchained_of_matches h (heq.symm.trans hkept)
  · rintro ⟨hshown, hunchained⟩
    rw [Bool.eq_iff_iff]
    constructor
    · intro hkept
      exact ((whereClause_iff h hjoined (hunchained hkept)).mp hkept).1
    · intro hmatches
      exact (whereClause_iff h hjoined (unchained_of_matches h hmatches)).mpr ⟨hmatches, hshown hmatches⟩

end Row

/-! ## When a listing selects from the whole -/

section Database

variable {reader : PaymentReader} {now : Nat} {db : PaymentDb} {req : ListPaymentsRequest}

theorem joined_of_mem_paymentRows {row : JoinedRow} (hmem : row ∈ paymentRows db) : row.Joined := by
  unfold paymentRows at hmem
  exact joined_of_mem db false row (List.mem_of_mem_filter hmem)

theorem answers_paymentRows {whereClause : Clause} {ascending : Bool} {offset limit : Nat}
    {answer : List JoinedRow} :
    Answers (joinedRows db false) (fun row => ((notRefund db row).and (whereClause row)).holds) ascending
        JoinedRow.orderKey offset limit answer ↔
      Answers (paymentRows db) (fun row => (whereClause row).holds) ascending JoinedRow.orderKey offset limit
        answer := by
  have hfilter : (paymentRows db).filter (fun row => (whereClause row).holds) =
      (joinedRows db false).filter fun row => ((notRefund db row).and (whereClause row)).holds := by
    unfold paymentRows
    rw [List.filter_filter]
    refine List.filter_congr fun row _ => ?_
    rw [Truth.holds_and, Bool.and_comm]
  unfold Answers
  rw [hfilter]

/-- The two queries of the source are one query over the listed rows. -/
theorem getPayments_iff {payments : Option (List Payment)} :
    GetPayments reader now db req payments ↔
      ∃ rows, Answers (paymentRows db) (fun row => (joinClauses (filterToWhereClause req) row).holds)
        (req.sortAscending.getD false) JoinedRow.orderKey (req.offset.getD 0) (req.limit.getD u32Max) rows ∧
        payments = rows.mapM (sqlRowToPayment reader now) := by
  unfold GetPayments SelectPaymentQuery
  refine exists_congr fun rows => and_congr_left fun _ => ?_
  exact answers_paymentRows

theorem getPayments_whole_iff {limit : Nat} {payments : Option (List Payment)} :
    GetPayments reader now db { limit := some limit } payments ↔
      ∃ rows, Answers (paymentRows db) (fun _ => true) false JoinedRow.orderKey 0 limit rows ∧
        payments = rows.mapM (sqlRowToPayment reader now) := by
  rw [getPayments_iff]
  rfl

/-- So the method refines the listing exactly if the query lists what it should. -/
theorem refines_iff_lists :
    Refines reader now db req ↔
      Lists (paymentRows db) (fun row => (joinClauses (filterToWhereClause req) row).holds) JoinedRow.orderKey
        (sqlRowToPayment reader now) (Matches req) Payment.timestamp (req.sortAscending.getD false) := by
  constructor
  · intro h offset limit answer whole hanswer hwhole
    have hpayments : GetPayments reader now db { req with offset := some offset, limit := some limit }
        (answer.mapM (sqlRowToPayment reader now)) := getPayments_iff.mpr ⟨answer, hanswer, rfl⟩
    exact h (some offset) (some limit) _ _ hpayments (getPayments_whole_iff.mpr ⟨whole, hwhole, rfl⟩)
  · intro h offset limit payments whole hpayments hwhole
    obtain ⟨answer, hanswer, rfl⟩ := getPayments_iff.mp hpayments
    obtain ⟨rows, hrows, rfl⟩ := getPayments_whole_iff.mp hwhole
    exact h (offset.getD 0) (limit.getD u32Max) answer rows hanswer hrows

/-- For every database and every request, whatever its window: the listing selects from the listing of everything
exactly if every transaction has a balance, the filters read columns that are there, and the rows selected are in the
order of the times that their payments show. -/
theorem getPayments_refines_iff (reader : PaymentReader) (now : Nat) (db : PaymentDb) (req : ListPaymentsRequest) :
    Refines reader now db req ↔ Listable reader now db req := by
  rw [refines_iff_lists, lists_iff]
  -- on a row that is read, the `WHERE` clause and the filter agree exactly under two of the conditions
  have hread : ∀ {row payment}, row ∈ paymentRows db → sqlRowToPayment reader now row = some payment →
      ((joinClauses (filterToWhereClause req) row).holds = Matches req payment ↔
        (Matches req payment = true → Shown req row) ∧
          ((joinClauses (filterToWhereClause req) row).holds = true → Unchained req row)) := by
    intro row payment hmem h
    exact whereClause_eq_matches_iff h (joined_of_mem_paymentRows hmem) req
  constructor
  · intro h
    have hconditions := fun row hmem payment hpayment =>
      (hread hmem hpayment).mp (h.conditions row hmem payment hpayment)
    refine ⟨?_, ?_, ?_, ?_⟩
    · intro row hmem
      exact (sqlRowToPayment_isSome (joined_of_mem_paymentRows hmem)).mp (h.readable row hmem)
    · intro row hmem payment hpayment
      exact (hconditions row hmem payment hpayment).1
    · intro row hmem
      obtain ⟨payment, hpayment⟩ := h.readable row hmem
      exact (hconditions row hmem payment hpayment).2
    · intro row hmem row' hmem' payment payment' hpayment hpayment' hmatches hmatches' hbefore
      have hkept : row ∈ (paymentRows db).filter fun row => (joinClauses (filterToWhereClause req) row).holds :=
        List.mem_filter.mpr ⟨hmem, (h.conditions row hmem payment hpayment).trans hmatches⟩
      have hkept' : row' ∈ (paymentRows db).filter fun row => (joinClauses (filterToWhereClause req) row).holds :=
        List.mem_filter.mpr ⟨hmem', (h.conditions row' hmem' payment' hpayment').trans hmatches'⟩
      exact h.order row hkept row' hkept' payment payment' hpayment hpayment' hbefore
  · intro h
    have hconditions : ∀ row ∈ paymentRows db, ∀ payment, sqlRowToPayment reader now row = some payment →
        (joinClauses (filterToWhereClause req) row).holds = Matches req payment := by
      intro row hmem payment hpayment
      exact (hread hmem hpayment).mpr ⟨h.shown row hmem payment hpayment, h.unchained row hmem⟩
    refine ⟨?_, hconditions, ?_⟩
    · intro row hmem
      exact (sqlRowToPayment_isSome (joined_of_mem_paymentRows hmem)).mpr (h.balanced row hmem)
    · intro row hkept row' hkept' payment payment' hpayment hpayment' hbefore
      obtain ⟨hmem, hholds⟩ := List.mem_filter.mp hkept
      obtain ⟨hmem', hholds'⟩ := List.mem_filter.mp hkept'
      exact h.order row hmem row' hmem' payment payment' hpayment hpayment'
        ((hconditions row hmem payment hpayment).symm.trans hholds)
        ((hconditions row' hmem' payment' hpayment').symm.trans hholds') hbefore

end Database

/-! ## A pending payment that its own type and time do not find -/

/-- An incoming chain swap whose lockup transaction is known. -/
def pendingSwap : ChainSwap where
  id := "c"
  direction := .incoming
  lockupAddress := "lockup"
  userLockupTxId := some "user lockup"
  createdAt := 100
  state := .pending

def pendingDb : PaymentDb where
  chainSwaps := ⟨[pendingSwap], List.nodup_singleton _⟩

def pendingPayment : Payment :=
  .fromPendingSwap (chainSwapData {} pendingSwap none) .receive
    (.bitcoin (bitcoinDetails { cs := some pendingSwap } (chainSwapData {} pendingSwap none)))

theorem paymentRows_pendingDb : paymentRows pendingDb = [{ cs := some pendingSwap }] := rfl

/-- A query that keeps nothing of a database with one matching payment. -/
theorem not_refines_pendingDb {req : ListPaymentsRequest}
    (hkept : (paymentRows pendingDb).filter (fun row => (joinClauses (filterToWhereClause req) row).holds) = [])
    (hmatches : Matches req pendingPayment = true) : ¬ Refines {} 0 pendingDb req := by
  intro h
  have hpayments : GetPayments {} 0 pendingDb { req with offset := none, limit := none } (some []) := by
    refine getPayments_iff.mpr ⟨[], ⟨[], ⟨?_, List.Pairwise.nil⟩, rfl⟩, rfl⟩
    exact hkept ▸ List.Perm.refl []
  have hwhole : GetPayments {} 0 pendingDb { limit := some (paymentRows pendingDb).length }
      (some [pendingPayment]) := by
    refine getPayments_whole_iff.mpr ⟨[{ cs := some pendingSwap }], ?_, rfl⟩
    rw [paymentRows_pendingDb]
    exact ⟨_, ⟨List.Perm.refl _, List.pairwise_singleton _ _⟩, rfl⟩
  obtain ⟨listed, hlisted, hwindow⟩ := h none none _ _ hpayments hwhole
  rw [List.filter_cons_of_pos hmatches, List.filter_nil] at hlisted
  cases List.perm_singleton.mp hlisted.perm
  cases hwindow

/-- Without filters the payment is listed, received at time 100; it is not under received payments, nor under those at
time 100. -/
theorem pendingPayment_missed :
    GetPayments {} 0 pendingDb {} (some [pendingPayment]) ∧
      pendingPayment.paymentType = .receive ∧ pendingPayment.timestamp = 100 ∧
      ¬ Refines {} 0 pendingDb { filters := some [.receive] } ∧
      ¬ Refines {} 0 pendingDb { fromTimestamp := some 100, toTimestamp := some 100 } := by
  refine ⟨?_, rfl, rfl, ?_, ?_⟩
  · refine getPayments_iff.mpr ⟨[{ cs := some pendingSwap }], ?_, rfl⟩
    rw [paymentRows_pendingDb]
    exact ⟨_, ⟨List.Perm.refl _, List.pairwise_singleton _ _⟩, rfl⟩
  · exact not_refines_pendingDb rfl rfl
  · exact not_refines_pendingDb rfl rfl

end BreezLiquid.Payments
