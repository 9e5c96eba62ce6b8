/-
# BreezLiquid.Lib.Checked — unsigned arithmetic and indexing that stop at a fault.

Sums, differences and products of 64-bit numbers, and reads of a list, either give the value that the same operation has
on natural numbers and lists, or stop with the fault.

`Avoids` and `Faults` are two ways to speak about faults. `Avoids` says that a computation does not end with one given
error, and goes through binds and folds. `Faults` is for computations with errors of their own besides, and has one rule
for each operation at the head of a bind, so what makes a longer computation fault is read off from left to right.
-/
import Mathlib.Algebra.Order.BigOperators.Group.List
import Mathlib.Algebra.Order.Ring.Nat
import Mathlib.Tactic.Common

namespace BreezLiquid.Checked

inductive Fault where
  | overflow
  | underflow
  | outOfBounds
  deriving DecidableEq, Repr

def u64Max : Nat := 2 ^ 64 - 1

def add (a b : Nat) : Except Fault Nat := if a + b ≤ u64Max then .ok (a + b) else .error .overflow

def sub (a b : Nat) : Except Fault Nat := if b ≤ a then .ok (a - b) else .error .underflow

def mul (a b : Nat) : Except Fault Nat := if a * b ≤ u64Max then .ok (a * b) else .error .overflow

/-- `iter().sum()`. -/
def sum (l : List Nat) : Except Fault Nat := l.foldlM add 0

/-- `l[i]`. -/
def get {α : Type} (l : List α) (i : Nat) : Except Fault α :=
  match l[i]? with
  | some a => .ok a
  | none => .error .outOfBounds

variable {a b c : Nat}

theorem add_of_le (h : a + b ≤ u64Max) : add a b = .ok (a + b) := if_pos h

theorem sub_of_le (h : b ≤ a) : sub a b = .ok (a - b) := if_pos h

theorem mul_of_le (h : a * b ≤ u64Max) : mul a b = .ok (a * b) := if_pos h

theorem ite_eq_ok {ε α : Type} {p : Prop} [Decidable p] {x y : α} {e : ε} :
    (if p then Except.ok x else Except.error e) = .ok y ↔ p ∧ y = x := by
  split
  · rename_i h
    rw [Except.ok.injEq, and_iff_right h]
    exact eq_comm
  · rename_i h
    constructor
    · intro heq
      cases heq
    · intro heq
      exact absurd heq.1 h

/-- The operations return what they compute exactly where it fits. -/
theorem add_eq_ok : add a b = .ok c ↔ a + b ≤ u64Max ∧ c = a + b := ite_eq_ok

theorem sub_eq_ok : sub a b = .ok c ↔ b ≤ a ∧ c = a - b := ite_eq_ok

/-- A list is read within its bounds. -/
theorem get_of_lt {α : Type} {l : List α} {i : Nat} (h : i < l.length) : get l i = .ok (l.get ⟨i, h⟩) := by
  unfold get
  rw [List.getElem?_eq_getElem h]
  rfl

/-- The intermediate sums are below the last one, so that one decides. -/
theorem foldlM_add_of_le {l : List Nat} {start : Nat} (h : start + l.sum ≤ u64Max) :
    l.foldlM add start = .ok (start + l.sum) := by
  induction l generalizing start with
  | nil => rfl
  | cons a l ih =>
      rw [List.sum_cons, ← Nat.add_assoc] at h
      rw [List.foldlM_cons, add_of_le (by omega)]
      show l.foldlM add (start + a) = _
      rw [ih h, List.sum_cons, Nat.add_assoc]

/-- And only then: a sum that is returned did not overflow on the way. -/
theorem foldlM_add_eq_ok {l : List Nat} {start : Nat} (h : l.foldlM add start = .ok c) (hstart : start ≤ u64Max) :
    start + l.sum ≤ u64Max ∧ c = start + l.sum := by
  induction l generalizing start with
  | nil =>
      cases h
      exact ⟨hstart, rfl⟩
  | cons a l ih =>
      rw [List.foldlM_cons] at h
      cases hadd : add start a with
      | error fault =>
          rw [hadd] at h
          cases h
      | ok d =>
          rw [hadd] at h
          obtain ⟨hle, rfl⟩ := add_eq_ok.mp hadd
          rw [List.sum_cons, ← Nat.add_assoc]
          exact ih h hle

theorem sum_of_le {l : List Nat} (h : l.sum ≤ u64Max) : sum l = .ok l.sum := by
  unfold sum
  rw [foldlM_add_of_le (by omega), Nat.zero_add]

/-- A checked sum is the sum, if it fits. -/
theorem sum_eq_ok {l : List Nat} : sum l = .ok c ↔ l.sum ≤ u64Max ∧ c = l.sum := by
  constructor
  · intro h
    have heq := foldlM_add_eq_ok h (Nat.zero_le _)
    rwa [Nat.zero_add] at heq
  · rintro ⟨hle, rfl⟩
    exact sum_of_le hle

/-! ## Faults beside errors -/

/-- How a computation with errors of its own may fail. -/
inductive Failure (ε : Type) where
  | fault (fault : Fault)
  | err (err : ε)
  deriving DecidableEq, Repr

def liftFault {ε α : Type} (x : Except Fault α) : Except (Failure ε) α := x.mapError .fault

def liftErr {ε α : Type} (x : Except ε α) : Except (Failure ε) α := x.mapError .err

/-- Lifting an error changes no result. -/
theorem mapError_eq_ok {ε ε' α : Type} {g : ε → ε'} {x : Except ε α} {y : α} :
    x.mapError g = .ok y ↔ x = .ok y := by
  cases x with
  | error e =>
      constructor
      · intro h
        cases h
      · intro h
        cases h
  | ok z =>
      constructor
      · intro h
        cases h
        rfl
      · intro h
        cases h
        rfl

theorem liftFault_eq_ok {ε α : Type} {x : Except Fault α} {y : α} :
    (liftFault x : Except (Failure ε) α) = .ok y ↔ x = .ok y := mapError_eq_ok

theorem liftErr_eq_ok {ε α : Type} {x : Except ε α} {y : α} :
    liftErr x = .ok y ↔ x = .ok y := mapError_eq_ok

/-- The computation stops with a fault. -/
def Faults {ε α : Type} (x : Except (Failure ε) α) : Prop := ∃ fault, x = .error (.fault fault)

section Faults

variable {ε α β : Type} {e : ε}

/-- A value is no fault, and neither is an error of the program's own. -/
theorem not_faults_ok (x : α) : ¬ Faults (.ok x : Except (Failure ε) α) := by
  rintro ⟨fault, h⟩
  cases h

theorem not_faults_err (e : ε) : ¬ Faults (.error (.err e) : Except (Failure ε) α) := by
  rintro ⟨fault, h⟩
  cases h

/-- A computation faults after a part that may fail if that part returns and what follows faults. -/
theorem faults_liftErr_bind {x : Except ε α} {f : α → Except (Failure ε) β} :
    Faults (liftErr x >>= f) ↔ ∃ y, x = .ok y ∧ Faults (f y) := by
  cases x with
  | error e =>
      refine iff_of_false (not_faults_err e) ?_
      rintro ⟨y, h, -⟩
      cases h
  | ok y =>
      constructor
      · intro h
        exact ⟨y, rfl, h⟩
      · rintro ⟨y', h, hf⟩
        cases h
        exact hf

/-- A checked operation faults where its condition fails; otherwise it goes on with its value. -/
theorem faults_ite_bind {p : Prop} [Decidable p] {y : α} {fault : Fault} {f : α → Except (Failure ε) β} :
    Faults (liftFault (if p then .ok y else .error fault) >>= f) ↔ (p → Faults (f y)) := by
  by_cases h : p
  · rw [if_pos h]
    constructor
    · intro hf _
      exact hf
    · intro hf
      exact hf h
  · rw [if_neg h]
    refine iff_of_true ⟨fault, rfl⟩ ?_
    intro hp
    exact absurd hp h

/-- After an addition: if it fits, what follows has to fault. -/
theorem faults_add_bind {f : Nat → Except (Failure ε) β} :
    Faults (liftFault (add a b) >>= f) ↔ (a + b ≤ u64Max → Faults (f (a + b))) := faults_ite_bind

theorem faults_sum_bind {l : List Nat} {f : Nat → Except (Failure ε) β} :
    Faults (liftFault (sum l) >>= f) ↔ (l.sum ≤ u64Max → Faults (f l.sum)) := by
  by_cases hfits : l.sum ≤ u64Max
  · rw [sum_of_le hfits]
    constructor
    · intro hf _
      exact hf
    · intro hf
      exact hf hfits
  · refine iff_of_true ?_ fun h => absurd h hfits
    cases hsum : sum l with
    | error fault => exact ⟨fault, rfl⟩
    | ok total => exact absurd (sum_eq_ok.mp hsum).1 hfits

/-- Likewise after a subtraction. -/
theorem faults_sub_bind {f : Nat → Except (Failure ε) β} :
    Faults (liftFault (sub a b) >>= f) ↔ (b ≤ a → Faults (f (a - b))) := faults_ite_bind

end Faults

/-! ## Faults that do not occur -/

/-- A computation does not stop with `e`. -/
def Avoids {ε α : Type} (e : ε) (x : Except ε α) : Prop := x ≠ .error e

section Avoids

variable {ε α β : Type} {e : ε} {x : Except ε α}

/-- A value is not the error. -/
theorem avoids_ok (e : ε) (a : α) : Avoids e (.ok a) := by
  intro h
  cases h

theorem Avoids.bind {f : α → Except ε β} (hx : Avoids e x) (hf : ∀ a, x = .ok a → Avoids e (f a)) :
    Avoids e (x >>= f) := by
  cases x with
  | error e' =>
      intro h
      cases h
      exact hx rfl
  | ok a => exact hf a rfl

theorem Avoids.mapError {ε' : Type} {g : ε → ε'} (hg : Function.Injective g) (hx : Avoids e x) :
    Avoids (g e) (x.mapError g) := by
  cases x with
  | error e' =>
      intro h
      have heq : g e' = g e := Except.error.inj h
      exact hx (congrArg Except.error (hg heq))
  | ok a => exact avoids_ok _ a

/-- A loop avoids an error that each of its steps avoids. -/
theorem avoids_foldlM {f : β → α → Except ε β} {l : List α} (hf : ∀ b, ∀ a ∈ l, Avoids e (f b a)) (b : β) :
    Avoids e (l.foldlM f b) := by
  induction l generalizing b with
  | nil => exact avoids_ok _ b
  | cons a l ih =>
      rw [List.foldlM_cons]
      refine (hf b a List.mem_cons_self).bind fun b' _ => ?_
      exact ih (fun b a ha => hf b a (List.mem_cons_of_mem _ ha)) b'

theorem add_avoids_underflow (a b : Nat) : Avoids Fault.underflow (add a b) := by
  unfold add Avoids
  split
  · intro h
    cases h
  · intro h
    cases h

/-- Only subtractions underflow. -/
theorem sub_avoids_underflow (h : b ≤ a) : Avoids Fault.underflow (sub a b) := by
  rw [sub_of_le h]
  exact avoids_ok _ _

theorem sum_avoids_underflow (l : List Nat) : Avoids Fault.underflow (sum l) :=
  avoids_foldlM (fun start a _ => add_avoids_underflow start a) 0

end Avoids

end BreezLiquid.Checked
