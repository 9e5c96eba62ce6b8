/-
# BreezLiquid.Lib.Wrapping — arithmetic of 64 bits that wraps around.

Sums and differences as a release build computes them: a result that does not fit loses what is above 64 bits. What is
known of the exact result then is a congruence; where nothing is lost, the operations are those on natural numbers.
A signed sum is the balanced residue of the exact one. Only the total has to fit for it to be exact: what overflows on
the way comes back.
-/
import Mathlib.Algebra.Order.BigOperators.Group.List
import Mathlib.Algebra.Order.Ring.Nat
import Mathlib.Tactic.Common

namespace BreezLiquid.Wrapping

def u64Add (a b : Nat) : Nat := (a + b) % 2 ^ 64

def u64Sub (a b : Nat) : Nat := (a + (2 ^ 64 - b)) % 2 ^ 64

/-- A sum that is added up from the left. -/
def u64Sum (l : List Nat) : Nat := l.foldl u64Add 0

variable {a b : Nat} {l : List Nat}

theorem u64Add_of_lt (h : a + b < 2 ^ 64) : u64Add a b = a + b := Nat.mod_eq_of_lt h

/-- A difference that is none below zero is exact. -/
theorem u64Sub_of_le (hle : b ≤ a) (ha : a < 2 ^ 64) : u64Sub a b = a - b := by
  unfold u64Sub
  omega

/-- Wrapping loses nothing of the sum but multiples of `2 ^ 64`. -/
theorem foldl_u64Add (l : List Nat) (start : Nat) : l.foldl u64Add start % 2 ^ 64 = (start + l.sum) % 2 ^ 64 := by
  induction l generalizing start with
  | nil => rfl
  | cons a l ih =>
      rw [List.foldl_cons, ih, List.sum_cons, ← Nat.add_assoc]
      exact Nat.mod_add_mod _ _ _

theorem foldl_u64Add_lt {start : Nat} (h : start < 2 ^ 64) (l : List Nat) : l.foldl u64Add start < 2 ^ 64 := by
  induction l generalizing start with
  | nil => exact h
  | cons a l ih => exact ih (Nat.mod_lt _ (by decide))

/-- A wrapping sum is the sum, up to a multiple of `2 ^ 64` ... -/
theorem u64Sum_eq (l : List Nat) : u64Sum l = l.sum % 2 ^ 64 := by
  have hmod := foldl_u64Add l 0
  rw [Nat.mod_eq_of_lt (foldl_u64Add_lt (by decide) l), Nat.zero_add] at hmod
  exact hmod

/-- ... and never more. -/
theorem u64Sum_le (l : List Nat) : u64Sum l ≤ l.sum := by
  rw [u64Sum_eq]
  exact Nat.mod_le _ _

/-! ## Signed sums -/

def i64Add (x y : Int) : Int := (x + y).bmod (2 ^ 64)

variable {x y z : Int}

/-- A number of 64 bits is its own residue. -/
theorem bmod_of_fits (hlow : -2 ^ 63 ≤ x) (hhigh : x < 2 ^ 63) : x.bmod (2 ^ 64) = x :=
  Int.bmod_eq_of_le_mul_two (by push_cast; omega) (by push_cast; omega)

/-- What is added to a wrapped sum is added to the exact one. -/
theorem i64Add_bmod : i64Add (x.bmod (2 ^ 64)) y = (x + y).bmod (2 ^ 64) := Int.bmod_add_bmod

end BreezLiquid.Wrapping
