/-
# BreezLiquid.Lib.Versioned — optimistic locking by row versions.

Rows carry a version that every update raises. A write that is guarded by the version its caller read finds
the row exactly when no update has selected it since (`isCurrent_iff`), whatever other statements were
executed in between.
-/
import BreezLiquid.Lib.Table

namespace Tables

variable {ρ κ : Type}

/-- A statement on a table of versioned rows. An update raises the version of every row that it selects,
also when it changes nothing else. -/
inductive Statement (key : ρ → κ) (version : ρ → Nat) where
  | insert (r : ρ)
  | update (p : ρ → Bool) (g : ρ → ρ) (hkey : ∀ r, key (g r) = key r)
      (hversion : ∀ r, version r < version (g r))

namespace Statement

variable [DecidableEq κ] {key : ρ → κ} {version : ρ → Nat}

def exec : Statement key version → Table key → Table key
  | insert r, t => t.insertNew r
  | update p g hkey _, t => t.updateWhere p g hkey

def execAll (l : List (Statement key version)) (t : Table key) : Table key :=
  l.foldl (fun t statement => statement.exec t) t

/-- The statement updates the row of the key. -/
def Selects : Statement key version → Table key → κ → Prop
  | insert _, _, _ => False
  | update p _ _ _, t, k => ∃ r, t.get? k = some r ∧ p r = true

/-- One of the statements, executed one after the other, updates the row of the key. -/
def Touches : List (Statement key version) → Table key → κ → Prop
  | [], _, _ => False
  | statement :: l, t, k => statement.Selects t k ∨ Touches l (statement.exec t) k

@[simp] theorem touches_nil (t : Table key) (k : κ) : ¬ Touches ([] : List (Statement key version)) t k :=
  id

theorem execAll_append (l l' : List (Statement key version)) (t : Table key) :
    execAll (l ++ l') t = execAll l' (execAll l t) := List.foldl_append

/-- A statement leaves a row as it is, or selects it and raises its version. -/
theorem exec_row (statement : Statement key version) {t : Table key} {k : κ} {r : ρ}
    (h : t.get? k = some r) : ∃ r', (statement.exec t).get? k = some r' ∧
      (¬ statement.Selects t k ∧ r' = r ∨ statement.Selects t k ∧ version r < version r') := by
  cases statement with
  | insert s =>
      refine ⟨r, ?_, .inl ⟨id, rfl⟩⟩
      show (t.insertNew s).get? k = some r
      rw [Table.get?_insertNew, h]
      rfl
  | update p g hkey hversion =>
      have hget : (t.updateWhere p g hkey).get? k = some (if p r then g r else r) := by
        rw [Table.get?_updateWhere, h, Option.map_some]
      refine ⟨_, hget, ?_⟩
      by_cases hp : p r = true
      · rw [if_pos hp]
        exact .inr ⟨⟨r, h, hp⟩, hversion r⟩
      · rw [if_neg hp]
        refine .inl ⟨?_, rfl⟩
        rintro ⟨r', hr', hp'⟩
        rw [h] at hr'
        cases hr'
        exact hp hp'

/-- So do all statements together: no version comes back. -/
theorem execAll_row (l : List (Statement key version)) {t : Table key} {k : κ} {r : ρ}
    (h : t.get? k = some r) : ∃ r', (execAll l t).get? k = some r' ∧
      (¬ Touches l t k ∧ r' = r ∨ Touches l t k ∧ version r < version r') := by
  induction l generalizing t r with
  | nil => exact ⟨r, h, .inl ⟨id, rfl⟩⟩
  | cons statement l ih =>
      obtain ⟨r₁, h₁, hfirst⟩ := exec_row statement h
      obtain ⟨r₂, h₂, hrest⟩ := ih h₁
      refine ⟨r₂, h₂, ?_⟩
      rcases hfirst with ⟨hnot, rfl⟩ | ⟨hselects, hlt⟩
      · rcases hrest with ⟨hnot', rfl⟩ | ⟨htouches, hlt'⟩
        · refine .inl ⟨?_, rfl⟩
          rintro (hs | hs)
          · exact hnot hs
          · exact hnot' hs
        · exact .inr ⟨.inr htouches, hlt'⟩
      · refine .inr ⟨.inl hselects, ?_⟩
        rcases hrest with ⟨-, rfl⟩ | ⟨-, hlt'⟩
        · exact hlt
        · exact Nat.lt_trans hlt hlt'

/-- All updates of the statement go along a relation of rows. -/
def Respects (R : ρ → ρ → Prop) : Statement key version → Prop
  | insert _ => True
  | update _ g _ _ => ∀ r, R r (g r)

section Respects

variable {R : ρ → ρ → Prop} {p : ρ → Bool} {g : ρ → ρ} {hkey : ∀ r, key (g r) = key r}
  {hversion : ∀ r, version r < version (g r)} {row : ρ}

omit [DecidableEq κ] in
theorem respects_update (h : ∀ r, R r (g r)) :
    ∀ statement ∈ [(update p g hkey hversion : Statement key version)], statement.Respects R :=
  List.forall_mem_singleton.mpr h

omit [DecidableEq κ] in
/-- Inserts change no row. -/
theorem respects_insert_update (h : ∀ r, R r (g r)) :
    ∀ statement ∈ [insert row, (update p g hkey hversion : Statement key version)], statement.Respects R :=
  List.forall_mem_cons.mpr ⟨trivial, respects_update h⟩

end Respects

/-- **A row outlives all statements**, along every preorder that they respect. -/
theorem execAll_respects {R : ρ → ρ → Prop} (hrefl : ∀ r, R r r) (htrans : ∀ {r r' r''}, R r r' → R r' r'' → R r r'')
    {l : List (Statement key version)} (hl : ∀ statement ∈ l, statement.Respects R) {t : Table key} {k : κ} {r : ρ}
    (h : t.get? k = some r) : ∃ r', (execAll l t).get? k = some r' ∧ R r r' := by
  induction l generalizing t r with
  | nil => exact ⟨r, h, hrefl r⟩
  | cons statement l ih =>
      have hrest : ∀ statement ∈ l, statement.Respects R :=
        fun statement hmem => hl statement (List.mem_cons_of_mem _ hmem)
      cases statement with
      | insert s =>
          refine ih hrest ?_
          show (t.insertNew s).get? k = some r
          rw [Table.get?_insertNew, h]
          rfl
      | update p g hkey hversion =>
          have hstep : R r (if p r then g r else r) := by
            split
            · exact hl _ List.mem_cons_self r
            · exact hrefl r
          have hget : (t.updateWhere p g hkey).get? k = some (if p r then g r else r) := by
            rw [Table.get?_updateWhere, h, Option.map_some]
          obtain ⟨r', hr', hR⟩ := ih hrest hget
          exact ⟨r', hr', htrans hstep hR⟩

/-- Where a row comes from: from a row that was there, or from an insert, and then along the updates. -/
theorem execAll_origin {R : ρ → ρ → Prop} (hrefl : ∀ r, R r r) (htrans : ∀ {r r' r''}, R r r' → R r' r'' → R r r'')
    {l : List (Statement key version)} (hl : ∀ statement ∈ l, statement.Respects R) {t : Table key} {k : κ} {r' : ρ}
    (h : (execAll l t).get? k = some r') :
    ∃ r, (t.get? k = some r ∨ t.get? k = none ∧ Statement.insert r ∈ l) ∧ R r r' := by
  induction l generalizing t with
  | nil => exact ⟨r', .inl h, hrefl r'⟩
  | cons statement l ih =>
      have hrest : ∀ statement ∈ l, statement.Respects R :=
        fun statement hmem => hl statement (List.mem_cons_of_mem _ hmem)
      obtain ⟨r, horigin, hR⟩ := ih hrest h
      cases statement with
      | insert s =>
          have hget : ((Statement.insert s : Statement key version).exec t).get? k =
              (t.get? k).or (if key s = k then some s else none) := Table.get?_insertNew t s k
          dsimp only at horigin
          rw [hget] at horigin
          cases hold : t.get? k with
          -- the insert did nothing
          | some r₀ =>
              rw [hold] at horigin
              rcases horigin with hr | ⟨hr, -⟩
              · cases hr
                exact ⟨r, .inl rfl, hR⟩
              · cases hr
          | none =>
              rw [hold, Option.none_or] at horigin
              rcases horigin with hr | ⟨-, hmem⟩
              · split at hr
                · cases hr
                  exact ⟨r, .inr ⟨rfl, List.mem_cons_self⟩, hR⟩
                · cases hr
              · exact ⟨r, .inr ⟨rfl, List.mem_cons_of_mem _ hmem⟩, hR⟩
      | update p g hkey hversion =>
          have hget : ((Statement.update p g hkey hversion : Statement key version).exec t).get? k =
              (t.get? k).map fun r => if p r then g r else r := Table.get?_updateWhere t p g hkey k
          dsimp only at horigin
          rw [hget] at horigin
          rcases horigin with hr | ⟨hr, hmem⟩
          · obtain ⟨r₀, hr₀, rfl⟩ := Option.map_eq_some_iff.mp hr
            refine ⟨r₀, .inl hr₀, htrans ?_ hR⟩
            split
            · exact hl _ List.mem_cons_self r₀
            · exact hrefl r₀
          · exact ⟨r, .inr ⟨Option.map_eq_none_iff.mp hr, List.mem_cons_of_mem _ hmem⟩, hR⟩

/-! ## Rows that were updated -/

def isInsert : Statement key version → Bool
  | insert _ => true
  | update .. => false

/-- Every row was updated since its insert. -/
def Updated (version : ρ → Nat) (t : Table key) : Prop := ∀ k r, t.get? k = some r → 0 < version r

theorem Updated.execAll {l : List (Statement key version)} (hl : l.all (fun statement => !statement.isInsert) = true)
    {t : Table key} (ht : Updated version t) : Updated version (execAll l t) := by
  intro k r' hr'
  have hraises : ∀ statement ∈ l, statement.Respects fun r r' => version r ≤ version r' := by
    intro statement _
    cases statement with
    | insert s => trivial
    | update p g hkey hversion => exact fun r => Nat.le_of_lt (hversion r)
  obtain ⟨r, hr | ⟨-, hinsert⟩, hle⟩ := execAll_origin (R := fun r r' => version r ≤ version r')
    (fun r => Nat.le_refl (version r)) (fun h h' => Nat.le_trans h h') hraises hr'
  · exact Nat.lt_of_lt_of_le (ht k r hr) hle
  · -- there is no insert among the statements
    have hnot := List.all_eq_true.mp hl _ hinsert
    cases hnot

/-- An insert, and an update of the row that has its key then. -/
theorem Updated.insert_update {t : Table key} {s : ρ} {p : ρ → Bool} {g : ρ → ρ} {hkey : ∀ r, key (g r) = key r}
    {hversion : ∀ r, version r < version (g r)} (ht : Updated version t)
    (hselects : (update p g hkey hversion : Statement key version).Selects (t.insertNew s) (key s)) :
    Updated version (Statement.execAll [insert s, update p g hkey hversion] t) := by
  intro k r hr
  have hget : ((t.insertNew s).updateWhere p g hkey).get? k = some r := hr
  rw [Table.get?_updateWhere] at hget
  obtain ⟨r₀, hr₀, hr⟩ := Option.map_eq_some_iff.mp hget
  by_cases hk : key s = k
  · obtain ⟨r₁, hr₁, hp⟩ := hselects
    rw [hk, hr₀] at hr₁
    cases hr₁
    rw [if_pos hp] at hr
    have hlt := hversion r₀
    rw [hr] at hlt
    omega
  · rw [Table.get?_insertNew, if_neg hk, Option.or_none] at hr₀
    have hpos := ht k r₀ hr₀
    have hlt := hversion r₀
    split at hr
    · rw [hr] at hlt
      omega
    · rw [← hr]
      exact hpos

/-! ## Guarded writes -/

/-- `WHERE key = … AND version = …` finds a row. -/
def IsCurrent (version : ρ → Nat) (t : Table key) (k : κ) (v : Nat) : Prop :=
  ∃ r, t.get? k = some r ∧ version r = v

/-- **Optimistic locking.** A version that was read is still the one of the row, exactly when no statement
in between has touched the row. -/
theorem isCurrent_iff (l : List (Statement key version)) {t : Table key} {k : κ} {r : ρ}
    (h : t.get? k = some r) : IsCurrent version (execAll l t) k (version r) ↔ ¬ Touches l t k := by
  obtain ⟨r', h', hrow⟩ := execAll_row l h
  constructor
  · rintro ⟨r'', h'', hversion⟩ htouches
    rw [h'] at h''
    cases h''
    rcases hrow with ⟨hnot, -⟩ | ⟨-, hlt⟩
    · exact hnot htouches
    · omega
  · intro hnot
    rcases hrow with ⟨-, rfl⟩ | ⟨htouches, -⟩
    · exact ⟨r', h', rfl⟩
    · exact absurd htouches hnot

/-- The row is there after the statements, and its version is the one that was read as long as none of them
touches it. -/
theorem row_after (l : List (Statement key version)) {t t' : Table key} {k k' : κ} {r : ρ} {v : Nat}
    (ht : t' = execAll l t) (h : t.get? k = some r) (hk : k' = k) (hv : v = version r) :
    (t'.get? k').isSome ∧ (IsCurrent version t' k' v ↔ ¬ Touches l t k) ∧
      (¬ Touches l t k → t'.get? k = t.get? k) := by
  obtain ⟨r', h', hrow⟩ := execAll_row l h
  rw [ht, hk, hv]
  refine ⟨Option.isSome_iff_exists.mpr ⟨r', h'⟩, isCurrent_iff l h, ?_⟩
  intro hnot
  rcases hrow with ⟨-, rfl⟩ | ⟨htouches, -⟩
  · rw [h', h]
  · exact absurd htouches hnot

/-- An insert does not matter for a row that is there. -/
theorem isCurrent_insertNew {t : Table key} {k : κ} {r s : ρ} (h : t.get? k = some r) (v : Nat) :
    IsCurrent version (t.insertNew s) k v ↔ IsCurrent version t k v := by
  unfold IsCurrent
  rw [Table.get?_insertNew, h]
  rfl

/-- Version zero is only found on a row that was just inserted. -/
theorem Updated.isNew {t : Table key} {s : ρ} (ht : Updated version t)
    (h : IsCurrent version (t.insertNew s) (key s) 0) : (t.insertNew s).get? (key s) = some s := by
  obtain ⟨r, hr, hversion⟩ := h
  have hget := Table.get?_insertNew t s (key s)
  cases hold : t.get? (key s) with
  | none =>
      rw [hget, hold, Option.none_or, if_pos rfl]
  | some r₀ =>
      rw [hget, hold] at hr
      cases hr
      have hpos := ht (key s) r hold
      omega

theorem isCurrent_iff_any {t : Table key} {k : κ} {v : Nat} : IsCurrent version t k v ↔
    (t.rows.any fun r => decide (key r = k) && decide (version r = v)) = true := by
  rw [List.any_eq_true]
  constructor
  · rintro ⟨r, h, hversion⟩
    refine ⟨r, Table.mem_of_get? h, ?_⟩
    simp [Table.get?_some_key h, hversion]
  · rintro ⟨r, hr, hguard⟩
    simp only [Bool.and_eq_true, decide_eq_true_eq] at hguard
    refine ⟨r, ?_, hguard.2⟩
    rw [← hguard.1]
    exact Table.get?_of_mem hr

end Statement

end Tables
