/-
# BreezLiquid.Lib.History — what lies between two events of a history.

A history is a list of events, newest first. Some events give an item away; `Separated` says that between
two givings of the same item it was freed, and `SinceLast` that something happened after an item was given
for the last time. Some events mark a height and some set a level; `Rising` says that a mark is no higher than
an earlier one only if the level was below it in between.
-/
import Mathlib.Data.List.Basic

namespace Histories

variable {E A : Type} {given : A → E} {freed : A → List E → Prop}

/-- Between any two givings of an item there are events that free it. -/
def Separated (given : A → E) (freed : A → List E → Prop) (history : List E) : Prop :=
  ∀ a newer between older, history = newer ++ given a :: (between ++ given a :: older) → freed a between

/-- The event came after the item was given for the last time. -/
def SinceLast (given : A → E) (a : A) (event : E) (history : List E) : Prop :=
  ∃ newer older, history = newer ++ event :: older ∧ given a ∉ newer

theorem separated_nil : Separated given freed [] := by
  intro a newer between older h
  simp at h

/-- A new event has to be looked at only if it gives something away. -/
theorem separated_cons_iff {e : E} {history : List E} :
    Separated given freed (e :: history) ↔ Separated given freed history ∧
      ∀ a, e = given a → ∀ between older, history = between ++ given a :: older → freed a between := by
  constructor
  · intro h
    constructor
    · intro a newer between older heq
      exact h a (e :: newer) between older (by rw [heq]; rfl)
    · rintro a rfl between older heq
      exact h a [] between older (by rw [heq]; rfl)
  · rintro ⟨hold, hnew⟩ a newer between older heq
    cases newer with
    | nil =>
        obtain ⟨he, htail⟩ := List.cons.inj heq
        exact hnew a he between older htail
    | cons x newer =>
        obtain ⟨-, htail⟩ := List.cons.inj heq
        exact hold a newer between older htail

/-- Events that give nothing away. -/
theorem Separated.append {l history : List E} (h : Separated given freed history)
    (hquiet : ∀ a, given a ∉ l) : Separated given freed (l ++ history) := by
  induction l with
  | nil => exact h
  | cons e l ih =>
      refine separated_cons_iff.mpr ⟨ih fun a ha => hquiet a (List.mem_cons_of_mem _ ha), ?_⟩
      rintro a rfl
      exact absurd List.mem_cons_self (hquiet a)

/-- An item that was never given before. -/
theorem Separated.cons_new {a : A} {history : List E} (h : Separated given freed history)
    (hinj : Function.Injective given) (hnew : given a ∉ history) :
    Separated given freed (given a :: history) := by
  refine separated_cons_iff.mpr ⟨h, ?_⟩
  intro b hb between older heq
  rw [hinj hb] at hnew
  rw [heq] at hnew
  simp at hnew

theorem SinceLast.append {a : A} {event : E} {l history : List E} (h : SinceLast given a event history)
    (hquiet : given a ∉ l) : SinceLast given a event (l ++ history) := by
  obtain ⟨newer, older, rfl, hnewer⟩ := h
  refine ⟨l ++ newer, older, by rw [List.append_assoc], ?_⟩
  intro hmem
  rcases List.mem_append.mp hmem with hmem | hmem
  · exact hquiet hmem
  · exact hnewer hmem

/-- What came after the last giving is newer than any giving. -/
theorem SinceLast.mem {a : A} {event : E} {history between older : List E}
    (h : SinceLast given a event history) (hne : event ≠ given a)
    (heq : history = between ++ given a :: older) : event ∈ between := by
  obtain ⟨newer, older', rfl, hnewer⟩ := h
  rcases List.append_eq_append_iff.mp heq with ⟨l, hbetween, hl⟩ | ⟨l, hnew, hl⟩
  · cases l with
    | nil =>
        obtain ⟨he, -⟩ := List.cons.inj hl
        exact absurd he hne
    | cons x l =>
        obtain ⟨rfl, -⟩ := List.cons.inj hl
        rw [hbetween]
        exact List.mem_append_right _ List.mem_cons_self
  · cases l with
    | nil =>
        obtain ⟨he, -⟩ := List.cons.inj hl
        exact absurd he.symm hne
    | cons x l =>
        obtain ⟨rfl, -⟩ := List.cons.inj hl
        rw [hnew] at hnewer
        exact absurd (List.mem_append_right _ List.mem_cons_self) hnewer

/-! ## Rising marks -/

section Rising

variable {mark level : E → Option ℕ} {e : E} {h h' : ℕ} {history : List E}

/-- The level was set below a height. -/
def FellBelow (level : E → Option ℕ) (h : ℕ) (events : List E) : Prop :=
  ∃ e ∈ events, ∃ t, level e = some t ∧ t < h

/-- Every mark from a height on was followed by a fall of the level below that height. -/
def Clear (mark level : E → Option ℕ) (h : ℕ) (history : List E) : Prop :=
  ∀ newer e older h', history = newer ++ e :: older → mark e = some h' → h ≤ h' → FellBelow level h newer

/-- A mark is no higher than an earlier one only if the level fell below it in between. -/
def Rising (mark level : E → Option ℕ) (history : List E) : Prop :=
  ∀ newer e older h, history = newer ++ e :: older → mark e = some h → Clear mark level h older

theorem FellBelow.cons (hfell : FellBelow level h history) (e : E) : FellBelow level h (e :: history) := by
  obtain ⟨e', hmem, hlevel⟩ := hfell
  exact ⟨e', List.mem_cons_of_mem e hmem, hlevel⟩

theorem clear_nil : Clear mark level h [] := by
  intro newer e older h' heq
  simp at heq

theorem rising_nil : Rising mark level [] := by
  intro newer e older h heq
  simp at heq

/-- A new event that marks nothing from the height on. -/
theorem Clear.cons (hclear : Clear mark level h history) (he : ∀ h', mark e = some h' → h' < h) :
    Clear mark level h (e :: history) := by
  intro newer e' older h' heq hmark hle
  cases newer with
  | nil =>
      obtain ⟨rfl, -⟩ := List.cons.inj heq
      have hlt := he h' hmark
      omega
  | cons x newer =>
      obtain ⟨-, htail⟩ := List.cons.inj heq
      exact (hclear newer e' older h' htail hmark hle).cons x

/-- After a fall of the level everything above it is clear. -/
theorem clear_of_level {t : ℕ} (hmark : mark e = none) (hlevel : level e = some t) (ht : t < h) :
    Clear mark level h (e :: history) := by
  intro newer e' older h' heq hmark' _
  cases newer with
  | nil =>
      obtain ⟨rfl, -⟩ := List.cons.inj heq
      rw [hmark] at hmark'
      cases hmark'
  | cons x newer =>
      obtain ⟨rfl, -⟩ := List.cons.inj heq
      exact ⟨e, List.mem_cons_self, t, hlevel, ht⟩

theorem Clear.mono (hclear : Clear mark level h history) (hle : h ≤ h') : Clear mark level h' history := by
  intro newer e older h'' heq hmark hle'
  obtain ⟨e', hmem, t, hlevel, ht⟩ := hclear newer e older h'' heq hmark (Nat.le_trans hle hle')
  exact ⟨e', hmem, t, hlevel, by omega⟩

theorem Rising.cons (hrising : Rising mark level history) (he : ∀ h, mark e = some h → Clear mark level h history) :
    Rising mark level (e :: history) := by
  intro newer e' older h heq hmark
  cases newer with
  | nil =>
      obtain ⟨rfl, rfl⟩ := List.cons.inj heq
      exact he h hmark
  | cons x newer =>
      obtain ⟨-, htail⟩ := List.cons.inj heq
      exact hrising newer e' older h htail hmark

end Rising

end Histories
