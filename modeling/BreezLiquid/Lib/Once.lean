/-
# BreezLiquid.Lib.Once — sums over keyed entries that count every key once.

A list of entries may have several for one key, as the rows of a join have. Its sum counts all of them, `onceSum` the
largest of each key. The two agree exactly if no key has two entries other than zero.

`excess` is by how much the sum is larger. It is zero exactly on the lists that are `CountedOnce`, and these are closed
under sublists.
-/
import Mathlib.Algebra.BigOperators.Group.Finset.Basic
import Mathlib.Algebra.Order.BigOperators.Group.List
import Mathlib.Algebra.Order.Ring.Nat

namespace Once

variable {κ : Type} [DecidableEq κ]

/-- The largest entry of a key; zero if it has none. -/
def largest (k : κ) : List (κ × ℕ) → ℕ
  | [] => 0
  | e :: l => if e.1 = k then max e.2 (largest k l) else largest k l

/-- The sum over the keys, each with its largest entry. -/
def onceSum (l : List (κ × ℕ)) : ℕ := ∑ k ∈ (l.map Prod.fst).toFinset, largest k l

/-- What the sum counts beyond once. -/
def excess (l : List (κ × ℕ)) : ℕ := (l.map Prod.snd).sum - onceSum l

/-- No key has two entries other than zero. -/
def CountedOnce (l : List (κ × ℕ)) : Prop := ((l.filter fun e => e.2 ≠ 0).map Prod.fst).Nodup

instance (l : List (κ × ℕ)) : Decidable (CountedOnce l) :=
  inferInstanceAs (Decidable ((l.filter fun e => e.2 ≠ 0).map Prod.fst).Nodup)

/-- The largest value of a key, along the list. -/
@[simp] theorem largest_cons_self (k : κ) (v : ℕ) (l : List (κ × ℕ)) :
    largest k ((k, v) :: l) = max v (largest k l) := if_pos rfl

@[simp] theorem largest_cons_of_ne {k k' : κ} (h : k' ≠ k) (v : ℕ) (l : List (κ × ℕ)) :
    largest k ((k', v) :: l) = largest k l := if_neg h

theorem largest_eq_zero_iff {k : κ} {l : List (κ × ℕ)} :
    largest k l = 0 ↔ k ∉ (l.filter fun e => e.2 ≠ 0).map Prod.fst := by
  induction l with
  | nil => exact ⟨fun _ => List.not_mem_nil, fun _ => rfl⟩
  | cons e l ih =>
      obtain ⟨k', v⟩ := e
      by_cases hv : v = 0
      · subst hv
        rw [List.filter_cons_of_neg (by simp), ← ih]
        by_cases hk : k' = k
        · subst hk
          rw [largest_cons_self, Nat.zero_max]
        · rw [largest_cons_of_ne hk]
      · rw [List.filter_cons_of_pos (by simpa using hv), List.map_cons, List.mem_cons, not_or, ← ih]
        by_cases hk : k' = k
        · subst hk
          rw [largest_cons_self]
          constructor
          · intro h
            omega
          · rintro ⟨hne, -⟩
            exact absurd rfl hne
        · rw [largest_cons_of_ne hk]
          exact ⟨fun h => ⟨fun heq => hk heq.symm, h⟩, fun h => h.2⟩

theorem largest_eq_zero_of_not_mem {k : κ} {l : List (κ × ℕ)} (h : k ∉ l.map Prod.fst) : largest k l = 0 := by
  refine largest_eq_zero_iff.mpr fun hmem => h ?_
  obtain ⟨e, he, rfl⟩ := List.mem_map.mp hmem
  exact List.mem_map_of_mem (List.mem_of_mem_filter he)

/-- One entry more adds what it exceeds the others of its key by. -/
theorem onceSum_cons (k : κ) (v : ℕ) (l : List (κ × ℕ)) :
    onceSum ((k, v) :: l) = onceSum l + (v - largest k l) := by
  have hother : ∀ k' ∈ ((l.map Prod.fst).toFinset).erase k, largest k' ((k, v) :: l) = largest k' l := by
    intro k' hk'
    exact largest_cons_of_ne (Finset.ne_of_mem_erase hk').symm v l
  have hnew : onceSum ((k, v) :: l) =
      max v (largest k l) + ∑ k' ∈ ((l.map Prod.fst).toFinset).erase k, largest k' l := by
    unfold onceSum
    rw [List.map_cons, List.toFinset_cons, ← Finset.add_sum_erase _ _ (Finset.mem_insert_self _ _),
      Finset.erase_insert_eq_erase, largest_cons_self, Finset.sum_congr rfl hother]
  have hold : onceSum l = largest k l + ∑ k' ∈ ((l.map Prod.fst).toFinset).erase k, largest k' l := by
    unfold onceSum
    by_cases hmem : k ∈ (l.map Prod.fst).toFinset
    · exact (Finset.add_sum_erase _ _ hmem).symm
    · rw [Finset.erase_eq_of_notMem hmem, largest_eq_zero_of_not_mem (by simpa using hmem), Nat.zero_add]
  rw [hnew, hold]
  omega

/-- Counting once is not more than counting all ... -/
theorem onceSum_le (l : List (κ × ℕ)) : onceSum l ≤ (l.map Prod.snd).sum := by
  induction l with
  | nil => exact le_rfl
  | cons e l ih =>
      obtain ⟨k, v⟩ := e
      rw [onceSum_cons, List.map_cons, List.sum_cons]
      dsimp only
      omega

/-- **The sum counts every key once** exactly if no key has two entries other than zero. -/
theorem sum_eq_onceSum_iff {l : List (κ × ℕ)} : (l.map Prod.snd).sum = onceSum l ↔ CountedOnce l := by
  induction l with
  | nil => exact ⟨fun _ => List.nodup_nil, fun _ => rfl⟩
  | cons e l ih =>
      obtain ⟨k, v⟩ := e
      have hle := onceSum_le l
      rw [onceSum_cons, List.map_cons, List.sum_cons]
      dsimp only
      unfold CountedOnce at ih ⊢
      by_cases hv : v = 0
      · subst hv
        rw [List.filter_cons_of_neg (by simp), ← ih]
        omega
      · rw [List.filter_cons_of_pos (by simpa using hv), List.map_cons, List.nodup_cons, ← ih,
          ← largest_eq_zero_iff]
        dsimp only
        omega

/-- ... the difference is the excess ... -/
theorem onceSum_add_excess (l : List (κ × ℕ)) : onceSum l + excess l = (l.map Prod.snd).sum :=
  Nat.add_sub_cancel' (onceSum_le l)

/-- ... and there is none exactly if every key counts once. -/
theorem excess_eq_zero_iff {l : List (κ × ℕ)} : excess l = 0 ↔ CountedOnce l := by
  have hsum := onceSum_add_excess l
  rw [← sum_eq_onceSum_iff]
  omega

omit [DecidableEq κ] in
/-- Leaving entries out leaves every key counted once. -/
theorem CountedOnce.sublist {l l' : List (κ × ℕ)} (hsub : l'.Sublist l) (h : CountedOnce l) : CountedOnce l' :=
  List.Nodup.sublist ((hsub.filter _).map _) h

end Once
