/-
# BreezLiquid.Lib.Collections — finite maps and first matches.

Two things programs over collections lean on and Mathlib has the pieces for. A `HashMap` is an `AList`
at a constant family of values; `HashMap.filter` and `HashMap.ofList` are what `partition` and
`collect` compute. And a search for the first match of a list is compared with the search under a
weaker test: `Undisplaced` says that the weaker test does not move the match forward.
-/
import Mathlib.Data.List.AList

namespace Collections

variable {α β κ ν : Type}

/-! ## Lists related element by element -/

/-- Every element on the right has a partner on the left. -/
theorem exists_partner {R : α → β → Prop} {l : List α} {l' : List β} (h : List.Forall₂ R l l') {b : β}
    (hb : b ∈ l') : ∃ a ∈ l, R a b := by
  induction h with
  | nil => exact absurd hb List.not_mem_nil
  | cons hR _ ih =>
      rcases List.mem_cons.mp hb with rfl | hb
      · exact ⟨_, List.mem_cons_self, hR⟩
      · obtain ⟨a, ha, hab⟩ := ih hb
        exact ⟨a, List.mem_cons_of_mem _ ha, hab⟩

/-! ## Lists with a separator -/

/-- What stands before the first separator, and what after it. -/
theorem append_separator_inj {sep : α} {l l' tail tail' : List α} (h : sep ∉ l) (h' : sep ∉ l')
    (heq : l ++ sep :: tail = l' ++ sep :: tail') : l = l' ∧ tail = tail' := by
  induction l generalizing l' with
  | nil =>
      cases l' with
      | nil =>
          rw [List.nil_append, List.nil_append, List.cons.injEq] at heq
          exact ⟨rfl, heq.2⟩
      | cons b l' =>
          rw [List.nil_append, List.cons_append, List.cons.injEq] at heq
          exact absurd (heq.1 ▸ List.mem_cons_self) h'
  | cons a l ih =>
      cases l' with
      | nil =>
          rw [List.nil_append, List.cons_append, List.cons.injEq] at heq
          exact absurd (heq.1 ▸ List.mem_cons_self) h
      | cons b l' =>
          rw [List.cons_append, List.cons_append, List.cons.injEq] at heq
          obtain ⟨rfl, heq⟩ := heq
          obtain ⟨rfl, htail⟩ := ih (fun hmem => h (List.mem_cons_of_mem _ hmem))
            (fun hmem => h' (List.mem_cons_of_mem _ hmem)) heq
          exact ⟨rfl, htail⟩

/-- Two ways to split a list at a separator are the same, or the shorter head is followed by one. -/
theorem separator_of_append_eq {sep : α} {l l' tail tail' : List α} (h : l ++ sep :: tail = l' ++ sep :: tail')
    (hlen : l.length ≤ l'.length) : l = l' ∨ l ++ [sep] <+: l' := by
  rcases List.append_eq_append_iff.mp h with ⟨rest, rfl, hrest⟩ | ⟨rest, rfl, -⟩
  · cases rest with
    | nil =>
        rw [List.append_nil]
        exact .inl rfl
    | cons a rest =>
        rw [List.cons_append, List.cons.injEq] at hrest
        refine .inr ⟨rest, ?_⟩
        rw [← hrest.1, List.append_assoc, List.singleton_append]
  · rw [List.length_append] at hlen
    have hnil : rest = [] := List.eq_nil_of_length_eq_zero (by omega)
    rw [hnil, List.append_nil]
    exact .inl rfl

/-- Two texts that end with a separator can be continued to the same one exactly if they are the same, or one begins
the other. -/
theorem exists_append_separator_iff {sep : α} {l l' : List α} :
    (∃ tail tail', l ++ sep :: tail = l' ++ sep :: tail') ↔ l = l' ∨ l ++ [sep] <+: l' ∨ l' ++ [sep] <+: l := by
  constructor
  · rintro ⟨tail, tail', h⟩
    rcases Nat.le_total l.length l'.length with hlen | hlen
    · rcases separator_of_append_eq h hlen with heq | hbegins
      · exact .inl heq
      · exact .inr (.inl hbegins)
    · rcases separator_of_append_eq h.symm hlen with heq | hbegins
      · exact .inl heq.symm
      · exact .inr (.inr hbegins)
  · rintro (rfl | ⟨rest, rfl⟩ | ⟨rest, rfl⟩)
    · exact ⟨[], [], rfl⟩
    · exact ⟨rest ++ [sep], [], by simp⟩
    · exact ⟨[], rest ++ [sep], by simp⟩

/-! ## Finite maps -/

/-- Finitely many keys, one value each. -/
abbrev HashMap (κ ν : Type) := AList fun _ : κ => ν

namespace HashMap

/-- The entries that satisfy a test. -/
def filter (p : κ → ν → Bool) (m : HashMap κ ν) : HashMap κ ν :=
  ⟨m.entries.filter fun e => p e.1 e.2, m.nodupKeys.sublist List.filter_sublist⟩

variable [DecidableEq κ]

/-- Collect key-value pairs; a later pair replaces an earlier one with the same key. -/
def ofList (l : List (κ × ν)) : HashMap κ ν :=
  l.foldl (fun m e => m.insert e.1 e.2) ∅

/-- Filtering a map filters what is found in it. -/
theorem lookup_filter (p : κ → ν → Bool) (m : HashMap κ ν) (k : κ) :
    (m.filter p).lookup k = (m.lookup k).filter (p k) := by
  ext v
  have key : ∀ w, (m.filter p).lookup k = some w ↔ m.lookup k = some w ∧ p k w := by
    intro w
    rw [← Option.mem_def, ← Option.mem_def, AList.mem_lookup_iff, AList.mem_lookup_iff]
    simp [filter]
  simp [key, Option.filter_eq_some_iff]

/-- The last entry for a key counts. -/
theorem lookup_foldl_insert (l : List (κ × ν)) (m : HashMap κ ν) (k : κ) :
    (l.foldl (fun m e => m.insert e.1 e.2) m).lookup k =
      ((l.reverse.find? fun e => e.1 = k).map Prod.snd).or (m.lookup k) := by
  induction l generalizing m with
  | nil => simp
  | cons e l ih =>
      rw [List.foldl_cons, ih, List.reverse_cons, List.find?_append]
      by_cases h : e.1 = k
      · subst h
        cases l.reverse.find? fun e' => e'.1 = e.1 <;> simp
      · have hk : k ≠ e.1 := fun h' => h h'.symm
        cases l.reverse.find? fun e' => e'.1 = k <;> simp [h, AList.lookup_insert_ne hk]

theorem lookup_ofList (l : List (κ × ν)) (k : κ) :
    (ofList l).lookup k = (l.reverse.find? fun e => e.1 = k).map Prod.snd := by
  simp [ofList, lookup_foldl_insert]

/-- When every pair with a key carries the same value, the map answers with that value. -/
theorem lookup_ofList_of_forall {l : List (κ × ν)} {k : κ} {v : ν} (hmem : (k, v) ∈ l)
    (hall : ∀ w, (k, w) ∈ l → w = v) : (ofList l).lookup k = some v := by
  rw [lookup_ofList]
  cases h : l.reverse.find? fun e => e.1 = k with
  | none =>
      have := List.find?_eq_none.mp h (k, v) (List.mem_reverse.mpr hmem)
      simp at this
  | some e =>
      obtain ⟨k', w⟩ := e
      have hk : k' = k := by simpa using List.find?_some h
      subst hk
      have hw := hall w (List.mem_reverse.mp (List.mem_of_find?_eq_some h))
      simp [hw]

/-- Nothing is found for a key without an entry. -/
theorem lookup_ofList_eq_none {l : List (κ × ν)} {k : κ} :
    (ofList l).lookup k = none ↔ ∀ e ∈ l, e.1 ≠ k := by
  rw [lookup_ofList, Option.map_eq_none_iff, List.find?_eq_none]
  simp only [List.mem_reverse, decide_eq_true_eq, ne_eq]

theorem mem_ofList {l : List (κ × ν)} {k : κ} : k ∈ ofList l ↔ ∃ e ∈ l, e.1 = k := by
  rw [← not_iff_not, ← AList.lookup_eq_none, lookup_ofList_eq_none]
  simp only [ne_eq, not_exists, not_and]

/-- Every answer of a collected map is one of the pairs. -/
theorem mem_of_lookup_ofList {l : List (κ × ν)} {k : κ} {v : ν}
    (h : (ofList l).lookup k = some v) : (k, v) ∈ l := by
  rw [lookup_ofList, Option.map_eq_some_iff] at h
  obtain ⟨⟨k', w⟩, hfind, rfl⟩ := h
  have hk : k' = k := by simpa using List.find?_some hfind
  subst hk
  exact List.mem_reverse.mp (List.mem_of_find?_eq_some hfind)

/-- Keys zipped with a function of them are looked up by applying the function. -/
theorem lookup_ofList_map {l : List κ} {k : κ} (f : κ → ν) (h : k ∈ l) :
    (ofList (l.map fun k => (k, f k))).lookup k = some (f k) := by
  refine lookup_ofList_of_forall (List.mem_map.mpr ⟨k, h, rfl⟩) fun w hw => ?_
  obtain ⟨k', -, heq⟩ := List.mem_map.mp hw
  simp only [Prod.mk.injEq] at heq
  rw [← heq.2, heq.1]

/-- The order in which a map yields its entries: some permutation of them. -/
structure Order (κ ν : Type) where
  entries : HashMap κ ν → List (κ × ν)
  perm : ∀ m, (entries m).Perm (m.entries.map fun e => (e.1, e.2))

/-- The order of insertion is one possible order. -/
def Order.insertion : Order κ ν := ⟨fun m => m.entries.map fun e => (e.1, e.2), fun _ => .refl _⟩

/-- The entries are those of the map, in whatever order. -/
theorem Order.mem_entries {order : Order κ ν} {m : HashMap κ ν} {k : κ} {v : ν} :
    (k, v) ∈ order.entries m ↔ m.lookup k = some v := by
  rw [(order.perm m).mem_iff, ← Option.mem_def, AList.mem_lookup_iff, List.mem_map]
  constructor
  · rintro ⟨e, he, heq⟩
    cases heq
    exact he
  · intro he
    exact ⟨_, he, rfl⟩

omit [DecidableEq κ] in
/-- Every key is yielded once. -/
theorem Order.nodup_keys (order : Order κ ν) (m : HashMap κ ν) : ((order.entries m).map Prod.fst).Nodup := by
  have hkeys : (m.entries.map fun e => (e.1, e.2)).map Prod.fst = m.entries.map Sigma.fst := by
    rw [List.map_map]
    rfl
  rw [((order.perm m).map Prod.fst).nodup_iff, hkeys]
  exact m.nodupKeys

end HashMap

theorem zip_map_self {β : Type} (l : List α) (f : α → β) : l.zip (l.map f) = l.map fun a => (a, f a) := by
  induction l with
  | nil => rfl
  | cons a l ih => simp [ih]

/-! ## First matches under a weaker test -/

/-- The first answer is absent, or it is the second one. -/
def AbsentOrEqual (o o' : Option α) : Prop := o = none ∨ o = o'

instance [DecidableEq α] (o o' : Option α) : Decidable (AbsentOrEqual o o') :=
  inferInstanceAs (Decidable (_ ∨ _))

theorem AbsentOrEqual.refl (o : Option α) : AbsentOrEqual o o := Or.inr rfl

theorem AbsentOrEqual.none (o : Option α) : AbsentOrEqual Option.none o := Or.inl rfl

/-- A value that is present is the same one. -/
@[simp] theorem absentOrEqual_some (a : α) (o : Option α) :
    AbsentOrEqual (some a) o ↔ o = some a := by
  simp [AbsentOrEqual, eq_comm]

/-- If the list has an entry that passes `p`, no entry ahead of the first one passes `q`. -/
def Undisplaced (p q : α → Bool) (l : List α) : Prop :=
  (∃ a ∈ l, p a = true) → ∀ x ∈ l.takeWhile fun a => !p a, q x = false

instance (p q : α → Bool) (l : List α) : Decidable (Undisplaced p q l) :=
  inferInstanceAs (Decidable (_ → _))

/-- The keys found under `p` and under the weaker `q` agree exactly when the first match is
undisplaced. -/
theorem find?_absentOrEqual_iff (key : α → κ) (p q : κ → Bool) (hpq : ∀ k, p k = true → q k = true)
    (l : List α) :
    AbsentOrEqual ((l.find? (p ∘ key)).map key) ((l.find? (q ∘ key)).map key) ↔
      Undisplaced (p ∘ key) (q ∘ key) l := by
  induction l with
  | nil => simp [AbsentOrEqual, Undisplaced]
  | cons a l ih =>
      by_cases hp : p (key a) = true
      · simp [AbsentOrEqual, Undisplaced, hp, hpq _ hp]
      · rw [Bool.not_eq_true] at hp
        by_cases hq : q (key a) = true
        · have hfound : ∀ b, l.find? (p ∘ key) = some b → key a ≠ key b := by
            intro b hb hab
            have := List.find?_some hb
            simp [← hab, hp] at this
          cases hl : l.find? (p ∘ key) with
          | none =>
              have := List.find?_eq_none.mp hl
              simp_all [AbsentOrEqual, Undisplaced]
          | some b =>
              have hb := List.find?_some hl
              have hmem := List.mem_of_find?_eq_some hl
              have hne := hfound b hl
              have hfp : (a :: l).find? (p ∘ key) = some b := by
                rw [List.find?_cons_of_neg (by simp [hp]), hl]
              have hfq : (a :: l).find? (q ∘ key) = some a :=
                List.find?_cons_of_pos (by simpa using hq)
              rw [hfp, hfq, Option.map_some, Option.map_some, absentOrEqual_some, Undisplaced]
              constructor
              · intro h
                exact absurd (Option.some.inj h) hne
              · intro h
                have := h ⟨b, List.mem_cons_of_mem _ hmem, hb⟩ a (by simp [hp])
                simp [hq] at this
        · rw [Bool.not_eq_true] at hq
          have hfp : (a :: l).find? (p ∘ key) = l.find? (p ∘ key) := by simp [hp]
          have hfq : (a :: l).find? (q ∘ key) = l.find? (q ∘ key) := by simp [hq]
          rw [hfp, hfq, ih]
          simp [Undisplaced, hp, hq]

/-- Under a narrower test the first match is absent or the same exactly when it passes the narrower
test itself. -/
theorem find?_absentOrEqual_iff_of_narrower (key : α → κ) (p q : κ → Bool)
    (hqp : ∀ k, q k = true → p k = true) (l : List α) :
    AbsentOrEqual ((l.find? (p ∘ key)).map key) ((l.find? (q ∘ key)).map key) ↔
      ∀ a, l.find? (p ∘ key) = some a → q (key a) = true := by
  induction l with
  | nil => simp [AbsentOrEqual]
  | cons a l ih =>
      by_cases hp : p (key a) = true
      · by_cases hq : q (key a) = true
        · simp [AbsentOrEqual, hp, hq]
        · have hne : ∀ b, l.find? (q ∘ key) = some b → key b ≠ key a := by
            intro b hb hab
            have := List.find?_some hb
            exact hq (hab ▸ this)
          simp only [List.find?_cons, Function.comp_apply, hp, hq, Option.map_some,
            absentOrEqual_some, Option.map_eq_some_iff]
          constructor
          · rintro ⟨b, hb, hba⟩
            exact absurd hba (hne b hb)
          · intro h
            exact absurd (h a rfl) hq
      · have hq : ¬ q (key a) = true := fun h => hp (hqp _ h)
        have hfp : (a :: l).find? (p ∘ key) = l.find? (p ∘ key) := by simp [hp]
        have hfq : (a :: l).find? (q ∘ key) = l.find? (q ∘ key) := by simp [hq]
        rw [hfp, hfq, ih]

end Collections
