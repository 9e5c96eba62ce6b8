/-
# BreezLiquid.Lib.Table — keyed tables of a relational store.

A table is a list of rows whose keys are pairwise different; the type carries that fact, so a table with
a duplicate key cannot be built. The operations are the ones SQL statements are made of: look a row up,
update the rows a `WHERE` clause selects, insert on a free key, insert or replace, delete. For each of
them one lemma says what `get?` answers afterwards.
-/
import Mathlib.Data.List.Nodup

namespace Tables

variable {ρ κ : Type}

/-- Rows with pairwise different keys. -/
structure Table (key : ρ → κ) where
  rows : List ρ
  nodup : (rows.map key).Nodup

namespace Table

variable {key : ρ → κ}

def empty : Table key := ⟨[], List.nodup_nil⟩

instance : EmptyCollection (Table key) := ⟨empty⟩

instance : Inhabited (Table key) := ⟨empty⟩

/-- `UPDATE … SET g WHERE p`. The key columns are not updated. -/
def updateWhere (t : Table key) (p : ρ → Bool) (g : ρ → ρ)
    (hg : ∀ r, key (g r) = key r := by intro _; rfl) : Table key where
  rows := t.rows.map fun r => if p r then g r else r
  nodup := by
    have hkey : (key ∘ fun r => if p r then g r else r) = key := by
      funext r
      by_cases hp : p r <;> simp [hp, hg]
    rw [List.map_map, hkey]
    exact t.nodup

/-- `DELETE … WHERE p`. -/
def deleteWhere (t : Table key) (p : ρ → Bool) : Table key :=
  ⟨t.rows.filter fun r => !p r, t.nodup.sublist (List.filter_sublist.map key)⟩

variable [DecidableEq κ]

/-- `SELECT … WHERE key = k`. -/
def get? (t : Table key) (k : κ) : Option ρ := t.rows.find? fun r => key r = k

/-- `INSERT … ON CONFLICT (key) DO NOTHING`. -/
def insertNew (t : Table key) (r : ρ) : Table key :=
  if h : key r ∈ t.rows.map key then t
  else
    ⟨t.rows ++ [r], by
      rw [List.map_append, List.nodup_append]
      refine ⟨t.nodup, List.nodup_singleton _, fun a ha b hb hab => h ?_⟩
      have hbr : b = key r := by simpa using hb
      exact hbr ▸ hab ▸ ha⟩

/-- `INSERT OR REPLACE`. -/
def insertOrReplace (t : Table key) (r : ρ) : Table key :=
  (t.deleteWhere fun r' => key r' = key r).insertNew r

/-! ## What a lookup finds -/

theorem get?_some_key {t : Table key} {k : κ} {r : ρ} (h : t.get? k = some r) : key r = k := by
  simpa using List.find?_some h

theorem mem_of_get? {t : Table key} {k : κ} {r : ρ} (h : t.get? k = some r) : r ∈ t.rows :=
  List.mem_of_find?_eq_some h

/-- As keys are different, the row that is found is the one that is there. -/
theorem get?_of_mem {t : Table key} {r : ρ} (h : r ∈ t.rows) : t.get? (key r) = some r := by
  cases hfind : t.get? (key r) with
  | none =>
      have := List.find?_eq_none.mp hfind r h
      simp at this
  | some r' =>
      rw [List.inj_on_of_nodup_map t.nodup (mem_of_get? hfind) h (get?_some_key hfind)]

theorem get?_eq_none {t : Table key} {k : κ} : t.get? k = none ↔ ∀ r ∈ t.rows, key r ≠ k := by
  simp [get?, List.find?_eq_none]

@[simp] theorem get?_empty (k : κ) : (∅ : Table key).get? k = none := rfl

/-- A row after an update, with or without the change. -/
@[simp] theorem get?_updateWhere (t : Table key) (p : ρ → Bool) (g : ρ → ρ)
    (hg : ∀ r, key (g r) = key r) (k : κ) :
    (t.updateWhere p g hg).get? k = (t.get? k).map fun r => if p r then g r else r := by
  have hkey : ((fun r => decide (key r = k)) ∘ fun r => if p r then g r else r) =
      fun r => decide (key r = k) := by
    funext r
    by_cases hp : p r <;> simp [hp, hg]
  simp only [get?, updateWhere, List.find?_map, hkey]

/-- What an update does not set is left as it was. -/
theorem map_get?_updateWhere {β : Type} (t : Table key) (p : ρ → Bool) (g : ρ → ρ)
    (hg : ∀ r, key (g r) = key r) (k : κ) {f : ρ → β} (hf : ∀ r, f (g r) = f r) :
    ((t.updateWhere p g hg).get? k).map f = (t.get? k).map f := by
  rw [get?_updateWhere, Option.map_map]
  congr 1
  funext r
  show f (if p r then g r else r) = f r
  split
  · exact hf r
  · rfl

/-- A row after a deletion, if it is still there. -/
@[simp] theorem get?_deleteWhere (t : Table key) (p : ρ → Bool) (k : κ) :
    (t.deleteWhere p).get? k = (t.get? k).filter fun r => !p r := by
  ext r
  rw [Option.filter_eq_some_iff]
  constructor
  · intro h
    obtain ⟨hmem, hp⟩ := List.mem_filter.mp (mem_of_get? h)
    exact ⟨get?_some_key h ▸ get?_of_mem hmem, hp⟩
  · rintro ⟨h, hp⟩
    have hmem : r ∈ (t.deleteWhere p).rows := List.mem_filter.mpr ⟨mem_of_get? h, hp⟩
    exact get?_some_key h ▸ get?_of_mem hmem

/-- After an insertion on a free key; a row that was there stays. -/
theorem get?_insertNew (t : Table key) (r : ρ) (k : κ) :
    (t.insertNew r).get? k = (t.get? k).or (if key r = k then some r else none) := by
  unfold insertNew
  split
  · rename_i h
    by_cases hk : key r = k
    · obtain ⟨r', hr', hkey⟩ := List.mem_map.mp h
      have : t.get? k = some r' := by
        rw [← hk, ← hkey]
        exact get?_of_mem hr'
      simp [this]
    · simp [hk]
  · simp only [get?, List.find?_append, List.find?_singleton]
    by_cases hk : key r = k <;> simp [hk]

/-- After a replacement the key has the new row. -/
@[simp] theorem get?_insertOrReplace (t : Table key) (r : ρ) (k : κ) :
    (t.insertOrReplace r).get? k = if key r = k then some r else t.get? k := by
  rw [insertOrReplace, get?_insertNew, get?_deleteWhere]
  by_cases hk : key r = k
  · subst hk
    have hnone : (t.get? (key r)).filter (fun r' => !decide (key r' = key r)) = none := by
      cases h : t.get? (key r) with
      | none => rfl
      | some r' => simp [Option.filter, get?_some_key h]
    simp [hnone]
  · have hsame : (t.get? k).filter (fun r' => !decide (key r' = key r)) = t.get? k := by
      cases h : t.get? k with
      | none => rfl
      | some r' =>
          have : k ≠ key r := fun h' => hk h'.symm
          simp [Option.filter, get?_some_key h, this]
    simp [hsame, hk]

/-! ## A column of a row

Both updates are of one row, and guarded by what its column has. -/

section Column

variable {β : Type} {t : Table key} {k : κ} {column : ρ → Option β} {g : ρ → ρ} {v : β}

/-- A column that is set only where it is empty was empty ... -/
theorem column_eq_none (hany : t.rows.any (fun r => decide (key r = k) && (column r).isNone) = true) :
    (t.get? k).bind column = none := by
  obtain ⟨row, hmem, hguard⟩ := List.any_eq_true.mp hany
  obtain ⟨hkey, hnone⟩ := Bool.and_eq_true_iff.mp hguard
  have hrow : t.get? k = some row := of_decide_eq_true hkey ▸ get?_of_mem hmem
  rw [hrow]
  exact Option.isNone_iff_eq_none.mp hnone

/-- ... and is set. -/
theorem column_set (hany : t.rows.any (fun r => decide (key r = k) && (column r).isNone) = true)
    (hg : ∀ r, key (g r) = key r := by intro _; rfl) (hset : ∀ r, column (g r) = some v := by intro _; rfl) :
    ((t.updateWhere (fun r => decide (key r = k) && (column r).isNone) g hg).get? k).bind column = some v := by
  obtain ⟨row, hmem, hguard⟩ := List.any_eq_true.mp hany
  have hrow : t.get? k = some row := of_decide_eq_true (Bool.and_eq_true_iff.mp hguard).1 ▸ get?_of_mem hmem
  rw [get?_updateWhere, hrow, Option.map_some, if_pos hguard]
  exact hset row

variable [DecidableEq β]

/-- A column that is emptied of its value is empty. -/
theorem column_unset (h : (t.get? k).bind column = some v) (hg : ∀ r, key (g r) = key r := by intro _; rfl)
    (hunset : ∀ r, column (g r) = none := by intro _; rfl) :
    ((t.updateWhere (fun r => decide (key r = k) && decide (column r = some v)) g hg).get? k).bind column = none := by
  obtain ⟨row, hrow, hcolumn⟩ := Option.bind_eq_some_iff.mp h
  have hguard : (decide (key row = k) && decide (column row = some v)) = true := by
    rw [Bool.and_eq_true_iff]
    exact ⟨decide_eq_true (get?_some_key hrow), decide_eq_true hcolumn⟩
  rw [get?_updateWhere, hrow, Option.map_some, if_pos hguard]
  exact hunset row

end Column

end Table

end Tables
