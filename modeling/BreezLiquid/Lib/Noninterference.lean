/-
# BreezLiquid.Lib.Noninterference — what one of several callers of a shared store sees.

A machine answers calls, each made by one of its actors. An observer sees the answers to its own calls. The others
do not interfere with it if it sees the same in any two runs in which it makes the same calls. By `Unwinding` it is
enough that its own calls answer alike in states that look alike to it, and that the calls of the others do not change
how a state looks.
-/
import Mathlib.Data.List.Basic

namespace Noninterference

variable {σ ι χ ω : Type}

/-- What a call of an actor does to the state, and its answer. -/
structure Machine (σ ι χ ω : Type) where
  step : σ → ι → χ → σ × ω

namespace Machine

/-- The answers to the calls of the actors in `own`. -/
def observed (M : Machine σ ι χ ω) (own : ι → Bool) : σ → List (ι × χ) → List ω
  | _, [] => []
  | s, (i, c) :: calls =>
      let (s', answer) := M.step s i c
      if own i then answer :: M.observed own s' calls else M.observed own s' calls

theorem observed_own {M : Machine σ ι χ ω} {own : ι → Bool} {i : ι} (h : own i = true) (s : σ) (c : χ)
    (calls : List (ι × χ)) :
    M.observed own s ((i, c) :: calls) = (M.step s i c).2 :: M.observed own (M.step s i c).1 calls := by
  show (if own i then _ else _) = _
  rw [if_pos h]

theorem observed_other {M : Machine σ ι χ ω} {own : ι → Bool} {i : ι} (h : own i = false) (s : σ) (c : χ)
    (calls : List (ι × χ)) : M.observed own s ((i, c) :: calls) = M.observed own (M.step s i c).1 calls := by
  show (if own i then _ else _) = _
  rw [h, if_neg Bool.false_ne_true]

/-- The answers depend on the calls of `own` only. -/
def Noninterfering (M : Machine σ ι χ ω) (own : ι → Bool) : Prop :=
  ∀ s calls calls', (calls.filter fun e => own e.1) = (calls'.filter fun e => own e.1) →
    M.observed own s calls = M.observed own s calls'

end Machine

/-- States that look alike stay alike, and give the same answers, in the steps of `own`; a step of another actor
leaves them alike. -/
structure Unwinding (M : Machine σ ι χ ω) (own : ι → Bool) (Alike : σ → σ → Prop) : Prop where
  consistent : ∀ s t i c, own i = true → Alike s t →
    (M.step s i c).2 = (M.step t i c).2 ∧ Alike (M.step s i c).1 (M.step t i c).1
  respects : ∀ s t i c, own i = false → Alike s t → Alike (M.step s i c).1 t

namespace Unwinding

variable {M : Machine σ ι χ ω} {own : ι → Bool} {Alike : σ → σ → Prop}

/-- Leaving out the calls of the others changes nothing. -/
theorem observed_filter (h : Unwinding M own Alike) {s t : σ} (halike : Alike s t) (calls : List (ι × χ)) :
    M.observed own s calls = M.observed own t (calls.filter fun e => own e.1) := by
  induction calls generalizing s t with
  | nil => rfl
  | cons e calls ih =>
      obtain ⟨i, c⟩ := e
      cases hown : own i with
      | true =>
          obtain ⟨hanswer, hnext⟩ := h.consistent s t i c hown halike
          have hfilter : ((i, c) :: calls).filter (fun e => own e.1) =
              (i, c) :: calls.filter fun e => own e.1 := List.filter_cons_of_pos hown
          rw [hfilter, Machine.observed_own hown, Machine.observed_own hown, hanswer, ih hnext]
      | false =>
          have hfilter : ((i, c) :: calls).filter (fun e => own e.1) = calls.filter fun e => own e.1 := by
            apply List.filter_cons_of_neg
            show ¬ own i = true
            rw [hown]
            exact Bool.false_ne_true
          rw [hfilter, Machine.observed_other hown]
          exact ih (h.respects s t i c hown halike)

/-- Two runs with the same calls of `own`. -/
theorem noninterfering (h : Unwinding M own Alike) (hrefl : ∀ s, Alike s s) : M.Noninterfering own := by
  intro s calls calls' hsame
  rw [h.observed_filter (hrefl s) calls, h.observed_filter (hrefl s) calls', hsame]

end Unwinding

end Noninterference
