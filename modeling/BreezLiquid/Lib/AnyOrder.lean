/-
# BreezLiquid.Lib.AnyOrder — functions of a list that do not depend on its order.

A service may return the entries of a set in any order. A function that takes the first entry with some property
gives the same on every order exactly if the entries with the property all give the same.

There is one equivalence for each way to read a list: the first entry with a property, the head, a condition in front, a
filter in front, two lists at once. They hold of every list and are meant as rewrite rules. Order independence of a
function built from these comes out as a condition on the entries.
-/
import Mathlib.Data.List.Permutation

namespace BreezLiquid.AnyOrder

variable {α β γ δ ε : Type}

/-! ## One list -/

/-- Every two orders of the list give the same. -/
def OrderFree (f : List α → γ) (l : List α) : Prop :=
  ∀ l₁ l₂, l₁.Perm l → l₂.Perm l → f l₁ = f l₂

theorem orderFree_iff {f : List α → γ} {l : List α} : OrderFree f l ↔ ∀ l', l'.Perm l → f l' = f l := by
  constructor
  · intro h l' hperm
    exact h l' l hperm (.refl l)
  · intro h l₁ l₂ h₁ h₂
    exact (h l₁ h₁).trans (h l₂ h₂).symm

/-- Functions that tell the same orders apart depend on the order alike. -/
theorem orderFree_congr {f : List α → γ} {g : List α → δ} {l : List α}
    (h : ∀ l₁ l₂, l₁.Perm l → l₂.Perm l → (f l₁ = f l₂ ↔ g l₁ = g l₂)) : OrderFree f l ↔ OrderFree g l := by
  constructor
  · intro hf l₁ l₂ h₁ h₂
    exact (h l₁ l₂ h₁ h₂).mp (hf l₁ l₂ h₁ h₂)
  · intro hg l₁ l₂ h₁ h₂
    exact (h l₁ l₂ h₁ h₂).mpr (hg l₁ l₂ h₁ h₂)

theorem orderFree_and {f : List α → γ} {g : List α → δ} {l : List α} :
    OrderFree (fun l => (f l, g l)) l ↔ OrderFree f l ∧ OrderFree g l := by
  constructor
  · intro h
    constructor
    · intro l₁ l₂ h₁ h₂
      exact congrArg Prod.fst (h l₁ l₂ h₁ h₂)
    · intro l₁ l₂ h₁ h₂
      exact congrArg Prod.snd (h l₁ l₂ h₁ h₂)
  · rintro ⟨hf, hg⟩ l₁ l₂ h₁ h₂
    exact Prod.ext (hf l₁ l₂ h₁ h₂) (hg l₁ l₂ h₁ h₂)

/-- Some order of the list starts with the entry. -/
theorem exists_perm_cons {l : List α} {a : α} (h : a ∈ l) : ∃ rest, (a :: rest).Perm l := by
  obtain ⟨s, t, rfl⟩ := List.append_of_mem h
  exact ⟨s ++ t, List.perm_middle.symm⟩

/-- The first entry with the property gives the same on every order exactly if all entries with it do. -/
theorem orderFree_find?_elim_iff {p : α → Bool} {d : γ} {g : α → γ} {l : List α} :
    OrderFree (fun l => (l.find? p).elim d g) l ↔ ∀ a ∈ l, ∀ b ∈ l, p a = true → p b = true → g a = g b := by
  constructor
  · intro h a ha b hb hpa hpb
    obtain ⟨resta, hperma⟩ := exists_perm_cons ha
    obtain ⟨restb, hpermb⟩ := exists_perm_cons hb
    have heq := h _ _ hperma hpermb
    dsimp only at heq
    rw [List.find?_cons_of_pos hpa, List.find?_cons_of_pos hpb] at heq
    exact heq
  · intro h l₁ l₂ h₁ h₂
    dsimp only
    cases hfind₁ : l₁.find? p with
    | none =>
        have hfind₂ : l₂.find? p = none := by
          rw [List.find?_eq_none] at hfind₁ ⊢
          intro a ha
          exact hfind₁ a ((h₁.trans h₂.symm).mem_iff.mpr ha)
        rw [hfind₂]
    | some a =>
        have ha := h₁.mem_iff.mp (List.mem_of_find?_eq_some hfind₁)
        have hpa := List.find?_some hfind₁
        cases hfind₂ : l₂.find? p with
        | none =>
            rw [List.find?_eq_none] at hfind₂
            exact absurd hpa (hfind₂ a (h₂.mem_iff.mpr ha))
        | some b =>
            exact h a ha b (h₂.mem_iff.mp (List.mem_of_find?_eq_some hfind₂)) hpa (List.find?_some hfind₂)

/-- At most one entry of the list has the property. -/
def Single (p : α → Bool) (l : List α) : Prop :=
  ∀ a ∈ l, ∀ b ∈ l, p a = true → p b = true → a = b

instance [DecidableEq α] (p : α → Bool) (l : List α) : Decidable (Single p l) :=
  inferInstanceAs (Decidable (∀ a ∈ l, ∀ b ∈ l, p a = true → p b = true → a = b))

theorem orderFree_find?_iff {p : α → Bool} {l : List α} : OrderFree (List.find? p) l ↔ Single p l := by
  have helim : ∀ o : Option α, o.elim none some = o := by
    intro o
    cases o
    · rfl
    · rfl
  have hcongr := orderFree_congr (f := List.find? p) (g := fun l => (l.find? p).elim none some) (l := l) <| by
    intro l₁ l₂ _ _
    rw [helim, helim]
  rw [hcongr, orderFree_find?_elim_iff]
  constructor
  · intro h a ha b hb hpa hpb
    exact Option.some.inj (h a ha b hb hpa hpb)
  · intro h a ha b hb hpa hpb
    exact congrArg some (h a ha b hb hpa hpb)

theorem orderFree_head?_elim_iff {d : γ} {g : α → γ} {l : List α} :
    OrderFree (fun l => l.head?.elim d g) l ↔ ∀ a ∈ l, ∀ b ∈ l, g a = g b := by
  have hhead : ∀ l : List α, l.head? = l.find? fun _ => true := by
    intro l
    cases l
    · rfl
    · rfl
  simp only [hhead]
  rw [orderFree_find?_elim_iff]
  constructor
  · intro h a ha b hb
    exact h a ha b hb rfl rfl
  · intro h a ha b hb _ _
    exact h a ha b hb

theorem orderFree_ite_iff {c : Prop} [Decidable c] {f : List α → γ} {d : γ} {l : List α} :
    OrderFree (fun l => if c then f l else d) l ↔ (c → OrderFree f l) := by
  by_cases hc : c
  · simp only [if_pos hc]
    exact ⟨fun h _ => h, fun h => h hc⟩
  · simp only [if_neg hc]
    exact iff_of_true (fun _ _ _ _ => rfl) fun h => absurd h hc

/-- A function of the entries with some property. -/
theorem orderFree_filter_iff {q : α → Bool} {f : List α → γ} {l : List α} :
    OrderFree (fun l => f (l.filter q)) l ↔ OrderFree f (l.filter q) := by
  constructor
  · intro h m₁ m₂ h₁ h₂
    -- the other entries are put behind
    have hkeep : ∀ m, m.Perm (l.filter q) →
        (m ++ l.filter fun a => !q a).Perm l ∧ (m ++ l.filter fun a => !q a).filter q = m := by
      intro m hm
      constructor
      · exact (hm.append_right _).trans (List.filter_append_perm q l)
      · have hq : m.filter q = m := by
          rw [List.filter_eq_self]
          intro a ha
          exact (List.mem_filter.mp (hm.mem_iff.mp ha)).2
        rw [List.filter_append, hq, List.filter_filter]
        simp
    have heq := h _ _ (hkeep m₁ h₁).1 (hkeep m₂ h₂).1
    dsimp only at heq
    rw [(hkeep m₁ h₁).2, (hkeep m₂ h₂).2] at heq
    exact heq
  · intro h l₁ l₂ h₁ h₂
    exact h _ _ (h₁.filter q) (h₂.filter q)

/-- A list with at most one entry has one order; of longer ones than a pair the function knows nothing. -/
theorem orderFree_of_length_ne_two {f : List α → γ}
    (hlong : ∀ l₁ l₂, 2 < l₁.length → 2 < l₂.length → f l₁ = f l₂) {l : List α} (h : l.length ≠ 2) :
    OrderFree f l := by
  intro l₁ l₂ h₁ h₂
  by_cases hlen : 2 < l.length
  · refine hlong l₁ l₂ ?_ ?_
    · rw [h₁.length_eq]
      exact hlen
    · rw [h₂.length_eq]
      exact hlen
  · match l with
    | [] => rw [h₁.eq_nil, h₂.eq_nil]
    | [only] => rw [List.perm_singleton.mp h₁, List.perm_singleton.mp h₂]
    | [_, _] => exact absurd rfl h
    | _ :: _ :: _ :: _ => exact absurd (by simp) hlen

theorem orderFree_pair_iff {f : List α → γ} {a b : α} : OrderFree f [a, b] ↔ f [a, b] = f [b, a] := by
  constructor
  · intro h
    exact h [a, b] [b, a] (.refl _) (List.Perm.swap _ _ _)
  · intro h
    rw [orderFree_iff]
    intro l' hperm
    rcases List.perm_pair.mp hperm with rfl | rfl
    · rfl
    · exact h.symm

/-! ## Two lists -/

/-- Every two orders of the two lists give the same. -/
def OrderFree₂ (f : List α → List β → γ) (l : List α) (m : List β) : Prop :=
  ∀ l₁ l₂ m₁ m₂, l₁.Perm l → l₂.Perm l → m₁.Perm m → m₂.Perm m → f l₁ m₁ = f l₂ m₂

/-- A function with a part for each list. -/
theorem orderFree₂_iff {f : List α → List β → γ} {a : List α → δ} {b : List β → ε} {l : List α} {m : List β}
    (h : ∀ l₁ l₂ m₁ m₂, l₁.Perm l → l₂.Perm l → m₁.Perm m → m₂.Perm m →
      (f l₁ m₁ = f l₂ m₂ ↔ a l₁ = a l₂ ∧ b m₁ = b m₂)) :
    OrderFree₂ f l m ↔ OrderFree a l ∧ OrderFree b m := by
  constructor
  · intro hf
    constructor
    · intro l₁ l₂ h₁ h₂
      exact ((h l₁ l₂ m m h₁ h₂ (.refl m) (.refl m)).mp (hf l₁ l₂ m m h₁ h₂ (.refl m) (.refl m))).1
    · intro m₁ m₂ h₁ h₂
      exact ((h l l m₁ m₂ (.refl l) (.refl l) h₁ h₂).mp (hf l l m₁ m₂ (.refl l) (.refl l) h₁ h₂)).2
  · rintro ⟨ha, hb⟩ l₁ l₂ m₁ m₂ hl₁ hl₂ hm₁ hm₂
    exact (h l₁ l₂ m₁ m₂ hl₁ hl₂ hm₁ hm₂).mpr ⟨ha l₁ l₂ hl₁ hl₂, hb m₁ m₂ hm₁ hm₂⟩

end BreezLiquid.AnyOrder
