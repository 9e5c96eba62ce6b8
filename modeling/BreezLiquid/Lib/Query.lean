/-
# BreezLiquid.Lib.Query — conditions with NULL, joins, and listings of rows.

A condition is true, false or NULL, and keeps a row only if it is true. `LEFT JOIN` and `FULL JOIN` fill in what has no
match with NULL. `ORDER BY` fixes the order of rows with different keys only, so that a query has several answers:
`Answers` is any of them.

`lists_iff` compares a query with the listing of everything: it tells when filtering and ordering by columns comes to the
same as filtering and ordering what the rows are read as.
-/
import BreezLiquid.Lib.AnyOrder
import Mathlib.Order.Basic
import Mathlib.Tactic.Common

namespace BreezLiquid.Query

open AnyOrder (exists_perm_cons)

/-! ## Conditions -/

/-- True, false or NULL. -/
abbrev Truth := Option Bool

namespace Truth

def and : Truth → Truth → Truth
  | some false, _ => some false
  | _, some false => some false
  | some true, some true => some true
  | _, _ => none

def or : Truth → Truth → Truth
  | some true, _ => some true
  | _, some true => some true
  | some false, some false => some false
  | _, _ => none

def not (t : Truth) : Truth := t.map (!·)

/-- A row is kept only if its condition is true. -/
def holds (t : Truth) : Bool := t = some true

/-- A condition that is unknown does not hold. -/
@[simp] theorem holds_some (b : Bool) : holds (some b) = b := by
  cases b <;> rfl

@[simp] theorem holds_none : holds none = false := rfl

@[simp] theorem holds_and (s t : Truth) : (s.and t).holds = (s.holds && t.holds) := by
  rcases s with _ | _ | _ <;> rcases t with _ | _ | _ <;> rfl

@[simp] theorem holds_or (s t : Truth) : (s.or t).holds = (s.holds || t.holds) := by
  rcases s with _ | _ | _ <;> rcases t with _ | _ | _ <;> rfl

end Truth

section Columns

variable {α β : Type}

/-- A comparison with NULL is NULL. -/
def compare (r : α → β → Bool) : Option α → Option β → Truth
  | some a, some b => some (r a b)
  | _, _ => none

def isNull (x : Option α) : Truth := some x.isNone

def isNotNull (x : Option α) : Truth := some x.isSome

/-- A comparison holds only between values that are there. -/
theorem holds_compare {r : α → β → Bool} {x : Option α} {y : Option β} :
    (compare r x y).holds = true ↔ ∃ a b, x = some a ∧ y = some b ∧ r a b = true := by
  unfold compare
  split
  · rename_i a b
    rw [Truth.holds_some]
    constructor
    · intro h
      exact ⟨a, b, rfl, rfl, h⟩
    · rintro ⟨a', b', ha, hb, h⟩
      cases ha
      cases hb
      exact h
  · rename_i hnone
    rw [Truth.holds_none]
    constructor
    · intro h
      cases h
    · rintro ⟨a, b, rfl, rfl, -⟩
      exact absurd rfl (hnone a b rfl)

variable [DecidableEq α]

def equals : Option α → Option α → Truth := compare fun a b => a = b

/-- `IN`. -/
def isIn (x : Option α) (values : List (Option α)) : Truth :=
  values.foldr (fun value t => (equals x value).or t) (some false)

theorem holds_equals {x y : Option α} : (equals x y).holds = true ↔ ∃ a, x = some a ∧ y = some a := by
  unfold equals
  rw [holds_compare]
  constructor
  · rintro ⟨a, b, ha, hb, h⟩
    cases of_decide_eq_true h
    exact ⟨a, ha, hb⟩
  · rintro ⟨a, ha, hb⟩
    exact ⟨a, a, ha, hb, decide_eq_true rfl⟩

/-- So does membership: a null among the values selects nothing. -/
theorem holds_isIn {x : Option α} {values : List (Option α)} :
    (isIn x values).holds = true ↔ ∃ a, x = some a ∧ some a ∈ values := by
  induction values with
  | nil =>
      constructor
      · intro h
        cases h
      · rintro ⟨a, -, h⟩
        cases h
  | cons value values ih =>
      show ((equals x value).or (isIn x values)).holds = true ↔ _
      rw [Truth.holds_or, Bool.or_eq_true, ih, holds_equals]
      constructor
      · rintro (⟨a, hx, hvalue⟩ | ⟨a, hx, hmem⟩)
        · exact ⟨a, hx, List.mem_cons.mpr (.inl hvalue.symm)⟩
        · exact ⟨a, hx, List.mem_cons_of_mem _ hmem⟩
      · rintro ⟨a, hx, hmem⟩
        rcases List.mem_cons.mp hmem with hvalue | hmem
        · exact .inl ⟨a, hx, hvalue.symm⟩
        · exact .inr ⟨a, hx, hmem⟩

end Columns

/-! ## Joins

A row has room for the columns of every table of the query; those of tables it has no match in are NULL. -/

section Joins

variable {ρ β : Type}

/-- `LEFT JOIN`: each row with each of its matches, or alone if it has none. -/
def leftJoin (on : ρ → β → Truth) (put : ρ → β → ρ) (table : List β) (rows : List ρ) : List ρ :=
  rows.flatMap fun row =>
    match table.filter fun b => (on row b).holds with
    | [] => [row]
    | b :: matched => (b :: matched).map (put row)

/-- `FULL JOIN`: the `LEFT JOIN`, and the rows of the table that nothing matched. -/
def fullJoin (on : ρ → β → Truth) (put : ρ → β → ρ) (null : ρ) (table : List β) (rows : List ρ) : List ρ :=
  leftJoin on put table rows ++
    (table.filter fun b => rows.all fun row => !(on row b).holds).map (put null)

/-- A joined row is one of the left table, extended or not ... -/
theorem mem_leftJoin {on : ρ → β → Truth} {put : ρ → β → ρ} {table : List β} {rows : List ρ} {row : ρ}
    (h : row ∈ leftJoin on put table rows) :
    row ∈ rows ∨ ∃ row' ∈ rows, ∃ b ∈ table, row = put row' b := by
  obtain ⟨row', hmem, h⟩ := List.mem_flatMap.mp h
  split at h
  · cases List.mem_singleton.mp h
    exact .inl hmem
  · rename_i b matched hmatched
    obtain ⟨b', hb', rfl⟩ := List.mem_map.mp h
    rw [← hmatched] at hb'
    exact .inr ⟨row', hmem, b', List.mem_of_mem_filter hb', rfl⟩

/-- ... or, in a full join, an extension of the empty row. -/
theorem mem_fullJoin {on : ρ → β → Truth} {put : ρ → β → ρ} {null : ρ} {table : List β} {rows : List ρ} {row : ρ}
    (h : row ∈ fullJoin on put null table rows) :
    row ∈ rows ∨ (∃ row' ∈ rows, ∃ b ∈ table, row = put row' b) ∨ ∃ b ∈ table, row = put null b := by
  rcases List.mem_append.mp h with h | h
  · rcases mem_leftJoin h with h | h
    · exact .inl h
    · exact .inr (.inl h)
  · obtain ⟨b, hb, rfl⟩ := List.mem_map.mp h
    exact .inr (.inr ⟨b, List.mem_of_mem_filter hb, rfl⟩)

variable {P : ρ → Prop} {on : ρ → β → Truth} {put : ρ → β → ρ} {table : List β} {rows : List ρ}

/-- What holds of the rows and is kept by filling in a match holds of the join. -/
theorem leftJoin_invariant (hrows : ∀ row ∈ rows, P row) (hput : ∀ row b, P row → P (put row b)) :
    ∀ row ∈ leftJoin on put table rows, P row := by
  intro row hmem
  rcases mem_leftJoin hmem with hmem | ⟨row', hmem', b, -, rfl⟩
  · exact hrows row hmem
  · exact hput row' b (hrows row' hmem')

/-- What every row of the left table has, and what joining keeps. -/
theorem fullJoin_invariant {null : ρ} (hrows : ∀ row ∈ rows, P row) (hput : ∀ row b, P row → P (put row b))
    (hnull : ∀ b ∈ table, P (put null b)) : ∀ row ∈ fullJoin on put null table rows, P row := by
  intro row hmem
  rcases mem_fullJoin hmem with hmem | ⟨row', hmem', b, -, rfl⟩ | ⟨b, hb, rfl⟩
  · exact hrows row hmem
  · exact hput row' b (hrows row' hmem')
  · exact hnull b hb

end Joins

/-! ## Order and window -/

section Order

variable {α κ : Type} [LinearOrder κ]

/-- A row may stand before another. -/
def Before (ascending : Bool) (key : α → κ) (a b : α) : Prop :=
  if ascending then key a ≤ key b else key b ≤ key a

instance (ascending : Bool) (key : α → κ) (a b : α) : Decidable (Before ascending key a b) :=
  inferInstanceAs (Decidable (if ascending then key a ≤ key b else key b ≤ key a))

variable {ascending : Bool} {key : α → κ}

theorem Before.refl (a : α) : Before ascending key a a := by
  unfold Before
  split
  · exact le_refl _
  · exact le_refl _

theorem Before.trans {a b c : α} (hab : Before ascending key a b) (hbc : Before ascending key b c) :
    Before ascending key a c := by
  unfold Before at *
  split at hab
  · rw [if_pos ‹_›] at hbc ⊢
    exact hab.trans hbc
  · rw [if_neg ‹_›] at hbc ⊢
    exact hbc.trans hab

/-- The order is total, so that every table can be arranged. -/
theorem Before.total (a b : α) : Before ascending key a b ∨ Before ascending key b a := by
  unfold Before
  split
  · exact le_total _ _
  · exact le_total _ _

/-- The rows in an order of their keys; rows with one key stand in any order. -/
structure Arranged (ascending : Bool) (key : α → κ) (rows arranged : List α) : Prop where
  perm : arranged.Perm rows
  sorted : arranged.Pairwise (Before ascending key)

/-- `LIMIT` and `OFFSET`. -/
def window (offset limit : Nat) (rows : List α) : List α := (rows.drop offset).take limit

/-- The answers of a query. -/
def Answers (rows : List α) (kept : α → Bool) (ascending : Bool) (key : α → κ) (offset limit : Nat)
    (answer : List α) : Prop :=
  ∃ arranged, Arranged ascending key (rows.filter kept) arranged ∧ answer = window offset limit arranged

/-- A window as large as the list is the list. -/
theorem window_all {rows : List α} {limit : Nat} (h : rows.length ≤ limit) : window 0 limit rows = rows := by
  unfold window
  rw [List.drop_zero, List.take_of_length_le h]

/-- Windows are cut before or after the rows are read. -/
theorem map_window {β : Type} (f : α → β) (offset limit : Nat) (rows : List α) :
    (window offset limit rows).map f = window offset limit (rows.map f) := by
  unfold window
  rw [List.map_take, List.map_drop]

def sort (ascending : Bool) (key : α → κ) (rows : List α) : List α :=
  rows.mergeSort fun a b => decide (Before ascending key a b)

theorem decide_before_trans (a b c : α) (hab : decide (Before ascending key a b) = true)
    (hbc : decide (Before ascending key b c) = true) : decide (Before ascending key a c) = true :=
  decide_eq_true ((of_decide_eq_true hab).trans (of_decide_eq_true hbc))

theorem decide_before_total (a b : α) :
    (decide (Before ascending key a b) || decide (Before ascending key b a)) = true := by
  rw [Bool.or_eq_true, decide_eq_true_iff, decide_eq_true_iff]
  exact Before.total a b

/-- Sorting arranges. -/
theorem arranged_sort (ascending : Bool) (key : α → κ) (rows : List α) :
    Arranged ascending key rows (sort ascending key rows) := by
  refine ⟨List.mergeSort_perm _ _, ?_⟩
  refine (List.pairwise_mergeSort decide_before_trans decide_before_total rows).imp ?_
  intro a b h
  exact of_decide_eq_true h

/-- The order in which the table has its rows does not matter. -/
theorem Arranged.of_perm {rows rows' arranged : List α} (h : Arranged ascending key rows arranged)
    (hperm : rows.Perm rows') : Arranged ascending key rows' arranged :=
  ⟨h.perm.trans hperm, h.sorted⟩

/-- Two rows can stand in any order that their keys allow. -/
theorem exists_arranged_pair {rows : List α} {a b : α} (ha : a ∈ rows) (hb : b ∈ rows) (hne : a ≠ b)
    (hbefore : Before ascending key a b) :
    ∃ arranged, Arranged ascending key rows arranged ∧ [a, b].Sublist arranged := by
  obtain ⟨rest, hrest⟩ := exists_perm_cons ha
  have hb' : b ∈ rest := by
    rcases List.mem_cons.mp (hrest.mem_iff.mpr hb) with hab | hmem
    · exact absurd hab.symm hne
    · exact hmem
  obtain ⟨others, hothers⟩ := exists_perm_cons hb'
  have hperm : (a :: b :: others).Perm rows := (hothers.cons a).trans hrest
  refine ⟨sort ascending key (a :: b :: others), (arranged_sort ascending key _).of_perm hperm, ?_⟩
  refine List.pair_sublist_mergeSort decide_before_trans decide_before_total (decide_eq_true hbefore) ?_
  exact (List.nil_sublist others).cons_cons b |>.cons_cons a

end Order

/-! ## Listings

The rows of a query are read as values, or cannot be read. A listing is compared with the values of all rows, filtered
and ordered by what they show. -/

section Listing

variable {ρ β κ τ : Type} [LinearOrder κ] [LinearOrder τ]

theorem mapM_eq_some_map {read : ρ → Option β} {f : ρ → β} {rows : List ρ}
    (h : ∀ row ∈ rows, read row = some (f row)) : rows.mapM read = some (rows.map f) := by
  induction rows with
  | nil => rfl
  | cons row rows ih =>
      rw [List.mapM_cons, h row List.mem_cons_self,
        ih fun row' hmem => h row' (List.mem_cons_of_mem _ hmem)]
      rfl

/-- One row that cannot be read fails the whole list. -/
theorem mapM_eq_none {read : ρ → Option β} {rows : List ρ} {row : ρ} (hmem : row ∈ rows) (h : read row = none) :
    rows.mapM read = none := by
  induction rows with
  | nil => cases hmem
  | cons row' rows ih =>
      rw [List.mapM_cons]
      rcases List.mem_cons.mp hmem with rfl | hmem
      · rw [h]
        rfl
      · rw [ih hmem]
        cases read row' <;> rfl

/-- The second listing selects from the first; neither can be read if the other cannot. -/
def Selects (wanted : β → Bool) (ascending : Bool) (stamp : β → τ) (offset limit : Nat) :
    Option (List β) → Option (List β) → Prop
  | some all, some listed => Answers all wanted ascending stamp offset limit listed
  | none, none => True
  | _, _ => False

/-- In every window, every answer of the query selects from every answer without conditions. -/
def Lists (rows : List ρ) (kept : ρ → Bool) (key : ρ → κ) (read : ρ → Option β) (wanted : β → Bool)
    (stamp : β → τ) (ascending : Bool) : Prop :=
  ∀ offset limit answer whole, Answers rows kept ascending key offset limit answer →
    Answers rows (fun _ => true) false key 0 rows.length whole →
    Selects wanted ascending stamp offset limit (whole.mapM read) (answer.mapM read)

/-- The columns tell what the values show. -/
structure Faithful (rows : List ρ) (kept : ρ → Bool) (key : ρ → κ) (read : ρ → Option β) (wanted : β → Bool)
    (stamp : β → τ) (ascending : Bool) : Prop where
  readable : ∀ row ∈ rows, ∃ b, read row = some b
  conditions : ∀ row ∈ rows, ∀ b, read row = some b → kept row = wanted b
  order : ∀ row ∈ rows.filter kept, ∀ row' ∈ rows.filter kept, ∀ b b', read row = some b → read row' = some b' →
    Before ascending key row row' → Before ascending stamp b b'

variable {rows : List ρ} {kept : ρ → Bool} {key : ρ → κ} {read : ρ → Option β} {wanted : β → Bool} {stamp : β → τ}
  {ascending : Bool}

/-- Everything, in an arrangement, is an answer to the query for everything ... -/
theorem answers_all (arranged : List ρ) (h : Arranged ascending key rows arranged) :
    Answers rows (fun _ => true) ascending key 0 rows.length arranged := by
  refine ⟨arranged, ?_, ?_⟩
  · rw [List.filter_true]
    exact h
  · rw [window_all h.perm.length_eq.le]

/-- ... and there are no other answers to it. -/
theorem Answers.all {whole : List ρ} (h : Answers rows (fun _ => true) ascending key 0 rows.length whole) :
    Arranged ascending key rows whole := by
  obtain ⟨arranged, harranged, rfl⟩ := h
  rw [List.filter_true] at harranged
  rw [window_all harranged.perm.length_eq.le]
  exact harranged

/-- With rows that can be read, the whole answer of the query is an arrangement of the wanted values. -/
theorem Lists.arranged (h : Lists rows kept key read wanted stamp ascending) {f : ρ → β}
    (hread : ∀ row ∈ rows, read row = some (f row)) {arranged : List ρ}
    (harranged : Arranged ascending key (rows.filter kept) arranged) :
    Arranged ascending stamp ((rows.map f).filter wanted) (arranged.map f) := by
  have hmem : ∀ row ∈ arranged, row ∈ rows := by
    intro row hmem
    exact List.mem_of_mem_filter (harranged.perm.mem_iff.mp hmem)
  have hle : arranged.length ≤ rows.length := by
    rw [harranged.perm.length_eq]
    exact List.length_filter_le _ _
  have hwhole := arranged_sort false key rows
  have hselects := h 0 rows.length arranged (sort false key rows)
    ⟨arranged, harranged, (window_all hle).symm⟩ (answers_all _ hwhole)
  rw [mapM_eq_some_map (f := f) fun row hmem => hread row (hwhole.perm.mem_iff.mp hmem),
    mapM_eq_some_map fun row hrow => hread row (hmem row hrow)] at hselects
  obtain ⟨listed, hlisted, heq⟩ := hselects
  have hperm : ((sort false key rows).map f).Perm (rows.map f) := hwhole.perm.map f
  rw [window_all] at heq
  · rw [heq]
    exact hlisted.of_perm (hperm.filter wanted)
  · calc listed.length = (((sort false key rows).map f).filter wanted).length := hlisted.perm.length_eq
      _ ≤ ((sort false key rows).map f).length := List.length_filter_le _ _
      _ = rows.length := by rw [hperm.length_eq, List.length_map]

/-- A listing reads every row: one that cannot be read fails the listing of everything. -/
theorem Lists.readable (h : Lists rows kept key read wanted stamp ascending) :
    ∀ row ∈ rows, ∃ b, read row = some b := by
  intro row hmem
  cases hread : read row with
  | some b => exact ⟨b, rfl⟩
  | none =>
      -- an empty window can be read, the whole cannot
      have hwhole := arranged_sort false key rows
      have hselects := h 0 0 [] (sort false key rows) ⟨_, arranged_sort _ _ _, rfl⟩ (answers_all _ hwhole)
      rw [mapM_eq_none (hwhole.perm.mem_iff.mpr hmem) hread] at hselects
      exact hselects.elim

/-- Conditions that keep as many rows as are wanted, and only wanted ones, keep each of them. -/
theorem kept_of_wanted {f : ρ → β} (hsound : ∀ row ∈ rows, kept row = true → wanted (f row) = true)
    (hlength : (rows.filter kept).length = ((rows.map f).filter wanted).length) :
    ∀ row ∈ rows, kept row = wanted (f row) := by
  rw [List.filter_map, List.length_map] at hlength
  have hkept : (rows.filter (wanted ∘ f)).filter kept = rows.filter kept := by
    rw [List.filter_filter]
    refine List.filter_congr fun row hmem => ?_
    cases h : kept row with
    | false => rfl
    | true => rw [Bool.true_and, Function.comp_apply, hsound row hmem h]
  rw [← hkept, List.length_filter_eq_length_iff] at hlength
  intro row hmem
  cases h : wanted (f row) with
  | true => exact hlength row (List.mem_filter.mpr ⟨hmem, h⟩)
  | false =>
      rw [Bool.eq_false_iff]
      intro hk
      rw [hsound row hmem hk] at h
      cases h

/-- **Listings.** A query lists what it should, for all filters and windows, exactly if it does so row by
row. -/
theorem lists_iff [Inhabited β] :
    Lists rows kept key read wanted stamp ascending ↔ Faithful rows kept key read wanted stamp ascending := by
  -- every row can be read, so the answer is a map over the rows
  let f : ρ → β := fun row => (read row).getD default
  have hf : ∀ {row b}, read row = some b → f row = b := by
    intro row b h
    show (read row).getD default = b
    rw [h, Option.getD_some]
  constructor
  · intro h
    have hread : ∀ row ∈ rows, read row = some (f row) := by
      intro row hmem
      obtain ⟨b, hb⟩ := h.readable row hmem
      rw [hb, hf hb]
    refine ⟨h.readable, ?_, ?_⟩
    · -- the whole listing has no row but wanted ones, and as many as are wanted
      have harranged := h.arranged hread (arranged_sort ascending key (rows.filter kept))
      have hperm := ((arranged_sort ascending key (rows.filter kept)).perm.map f).symm.trans
        harranged.perm
      have hlength := hperm.length_eq
      rw [List.length_map] at hlength
      intro row hmem b hb
      rw [← hf hb]
      refine kept_of_wanted (fun row hmem hk => ?_) hlength row hmem
      have hvalue := hperm.mem_iff.mp (List.mem_map_of_mem (List.mem_filter.mpr ⟨hmem, hk⟩))
      exact (List.mem_filter.mp hvalue).2
    · intro row hrow row' hrow' b b' hb hb' hbefore
      by_cases heq : row = row'
      · subst heq
        cases hb.symm.trans hb'
        exact Before.refl b
      · -- rows with equal keys may be listed either way, so in one of the listings they stand in this order
        obtain ⟨arranged, harranged, hsub⟩ := exists_arranged_pair hrow hrow' heq hbefore
        have hsorted := (h.arranged hread harranged).sorted.sublist (hsub.map f)
        rw [← hf hb, ← hf hb']
        exact List.pairwise_pair.mp hsorted
  · intro h
    have hread : ∀ row ∈ rows, read row = some (f row) := by
      intro row hmem
      obtain ⟨b, hb⟩ := h.readable row hmem
      rw [hb, hf hb]
    rintro offset limit answer whole ⟨arranged, harranged, rfl⟩ hwhole
    have hkept : ∀ row ∈ arranged, row ∈ rows.filter kept := fun row hmem => harranged.perm.mem_iff.mp hmem
    have hwindow : ∀ row ∈ window offset limit arranged, row ∈ rows := by
      intro row hmem
      exact List.mem_of_mem_filter (hkept row (List.mem_of_mem_drop (List.mem_of_mem_take hmem)))
    rw [mapM_eq_some_map (f := f) fun row hmem => hread row (hwhole.all.perm.mem_iff.mp hmem),
      mapM_eq_some_map fun row hmem => hread row (hwindow row hmem)]
    refine ⟨arranged.map f, ⟨?_, ?_⟩, map_window f offset limit arranged⟩
    · have hfilter : (rows.map f).filter wanted = (rows.filter kept).map f := by
        rw [List.filter_map]
        refine congrArg _ (List.filter_congr fun row hmem => ?_)
        exact (h.conditions row hmem _ (hread row hmem)).symm
      calc (arranged.map f).Perm ((rows.filter kept).map f) := harranged.perm.map f
        _ = (rows.map f).filter wanted := hfilter.symm
        _ |>.Perm ((whole.map f).filter wanted) := ((hwhole.all.perm.map f).filter wanted).symm
    · refine List.pairwise_map.mpr (harranged.sorted.imp_of_mem ?_)
      intro row row' hrow hrow' hbefore
      have hmem := hkept row hrow
      have hmem' := hkept row' hrow'
      exact h.order row hmem row' hmem' _ _ (hread row (List.mem_of_mem_filter hmem))
        (hread row' (List.mem_of_mem_filter hmem')) hbefore

end Listing

end BreezLiquid.Query
