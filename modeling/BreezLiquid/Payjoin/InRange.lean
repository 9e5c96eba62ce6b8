/-
# BreezLiquid.Payjoin.InRange — the search for coins in a range is safe, sound and exhaustive.

The loop invariant ties the running sums to the stack: the coins of the stack, in the order they were selected, are a
sublist of those before `index`, and what is available are those from `index` on. A step back gives up the selections
that extend the stack; what the search has not given up is `Unexplored`. It gives up a solution only when the target is
met already without its last coin, which happens to solutions of a fixed number of coins alone.
-/
import Mathlib.Algebra.Order.Ring.Nat
import Mathlib.Data.List.GetD
import BreezLiquid.Payjoin.UtxoSelect
import BreezLiquid.Lib.Task

namespace BreezLiquid.Payjoin

open Checked Interleaving

/-! ## Coins of a selection -/

section Coins

variable (q : RangeQuery)

def coin (i : Nat) : Nat := q.utxos.getD i 0

/-- The values of a stack of indices, in the order they were pushed. -/
def coins (selection : List Nat) : List Nat := selection.reverse.map (coin q)

@[simp] theorem coins_nil : coins q [] = [] := rfl

/-- The selection is kept newest first, the coins in the order they were taken. -/
theorem coins_cons (i : Nat) (rest : List Nat) : coins q (i :: rest) = coins q rest ++ [coin q i] := by
  unfold coins
  rw [List.reverse_cons, List.map_append, List.map_singleton]

theorem coins_length (selection : List Nat) : (coins q selection).length = selection.length := by
  unfold coins
  rw [List.length_map, List.length_reverse]

theorem sum_coins_cons (i : Nat) (rest : List Nat) :
    (coins q (i :: rest)).sum = (coins q rest).sum + coin q i := by
  rw [coins_cons, List.sum_append, List.sum_singleton]

variable {q}

theorem drop_eq_coin_cons {i : Nat} (h : i < q.utxos.length) : q.utxos.drop i = coin q i :: q.utxos.drop (i + 1) := by
  unfold coin
  rw [List.drop_eq_getElem_cons h, List.getD_eq_getElem _ _ h]

/-- The coins from an index on. -/
theorem sum_drop {i : Nat} (h : i < q.utxos.length) :
    (q.utxos.drop i).sum = coin q i + (q.utxos.drop (i + 1)).sum := by
  rw [drop_eq_coin_cons h, List.sum_cons]

theorem get_utxos {i : Nat} (h : i < q.utxos.length) : get q.utxos i = .ok (coin q i) := by
  rw [get_of_lt h]
  unfold coin
  rw [List.getD_eq_getElem _ _ h]
  rfl

/-- The coins of a stack come before its top. -/
theorem coins_sublist {n : Nat} {selection : List Nat} (hdescending : (n :: selection).Pairwise (· > ·))
    (hle : n ≤ q.utxos.length) : (coins q selection).Sublist (q.utxos.take n) := by
  induction selection generalizing n with
  | nil => exact List.nil_sublist _
  | cons i rest ih =>
      obtain ⟨habove, hrest⟩ := List.pairwise_cons.mp hdescending
      have hi : i < n := habove i List.mem_cons_self
      have hlength : i < q.utxos.length := by omega
      have htake : q.utxos.take (i + 1) = q.utxos.take i ++ [coin q i] := by
        unfold coin
        rw [List.take_add_one, List.getElem?_eq_getElem hlength, List.getD_eq_getElem _ _ hlength]
        rfl
      rw [coins_cons]
      refine List.Sublist.trans ?_ (List.take_sublist_take_left (by omega : i + 1 ≤ n))
      rw [htake]
      exact (ih hrest (by omega)).append (List.Sublist.refl _)

/-- What is selected and what is still available are different coins. -/
theorem sum_coins_add_sum_drop_le {n : Nat} {selection : List Nat} (hdescending : (n :: selection).Pairwise (· > ·))
    (hle : n ≤ q.utxos.length) : (coins q selection).sum + (q.utxos.drop n).sum ≤ q.utxos.sum := by
  have hsum := (coins_sublist hdescending hle).sum_le_sum fun _ _ => Nat.zero_le _
  have hsplit : (q.utxos.take n).sum + (q.utxos.drop n).sum = q.utxos.sum := by
    rw [← List.sum_append, List.take_append_drop]
  omega

end Coins

/-! ## The invariant -/

/-- The target was not met before the coin that was selected last. -/
def Needed (q : RangeQuery) (selection : List Nat) : Prop :=
  ∀ last rest, selection = last :: rest → (coins q rest).sum < q.targetValue

/-- A selection that the search may return. -/
structure Found (q : RangeQuery) (selection : List Nat) : Prop where
  descending : (q.utxos.length :: selection).Pairwise (· > ·)
  ge : q.targetValue ≤ (coins q selection).sum
  le : (coins q selection).sum ≤ q.upperBound
  count : q.targetUtxoCount ≠ 0 → selection.length = q.targetUtxoCount
  needed : Needed q selection

/-- The loop invariant. -/
structure Inv (q : RangeQuery) (s : SearchState) : Prop where
  index_le : s.index ≤ q.utxos.length
  descending : (s.index :: s.indexSelection).Pairwise (· > ·)
  value : s.value = (coins q s.indexSelection).sum
  available : s.availableValue = (q.utxos.drop s.index).sum
  change : s.currentChange = 0
  needed : Needed q s.indexSelection
  best : ∀ best, s.bestSelection = some best → Found q best
  unset : s.bestSelection = none → s.bestChange = u64Max

/-- The sums fit, and the range is one. -/
structure RangeQuery.Sane (q : RangeQuery) : Prop where
  fits : q.utxos.sum ≤ u64Max
  range : q.targetValue ≤ q.upperBound

/-! ## What an iteration does -/

/-- A coin may be selected: the target is within reach but not met, and there is room. -/
def Open (q : RangeQuery) (s : SearchState) : Prop :=
  q.targetValue ≤ s.availableValue + s.value ∧ s.value < q.targetValue ∧
    (q.targetUtxoCount = 0 ∨ s.indexSelection.length < q.targetUtxoCount)

def recorded (q : RangeQuery) (s : SearchState) : SearchState :=
  if isBetter q s (s.value - q.targetValue) then
    { s with bestSelection := some s.indexSelection, bestChange := s.value - q.targetValue }
  else s

/-- The state after a hit was recorded, if it is one. -/
def noted (q : RangeQuery) (s : SearchState) : SearchState :=
  if q.targetValue ≤ s.value ∧ s.value ≤ q.upperBound then recorded q s else s

def forward (q : RangeQuery) (s : SearchState) : SearchState where
  iteration := s.iteration + 1
  index := s.index + 1
  value := s.value + coin q s.index
  currentChange := s.currentChange
  bestChange := s.bestChange
  indexSelection := s.index :: s.indexSelection
  bestSelection := s.bestSelection
  availableValue := (q.utxos.drop (s.index + 1)).sum

def back (q : RangeQuery) (s : SearchState) (last : Nat) (rest : List Nat) : SearchState where
  iteration := s.iteration + 1
  index := last + 1
  value := s.value - coin q last
  currentChange := s.currentChange
  bestChange := s.bestChange
  indexSelection := rest
  bestSelection := s.bestSelection
  availableValue := (q.utxos.drop (last + 1)).sum

section Step

variable {q : RangeQuery} {s : SearchState}

/-- So both fit together. -/
theorem Inv.sum_le (h : Inv q s) (hsane : q.Sane) : s.availableValue + s.value ≤ u64Max := by
  have hle := sum_coins_add_sum_drop_le h.descending h.index_le
  have hfits := hsane.fits
  rw [h.available, h.value]
  omega

/-- The steps of the loop compute without a fault: the test of the branch ... -/
theorem exceeds_eq (h : Inv q s) (hsane : q.Sane) :
    exceeds q s =
      .ok (decide (s.availableValue + s.value < q.targetValue) || decide (q.upperBound < s.value)) := by
  unfold exceeds
  rw [add_of_le (h.sum_le hsane), h.change]
  show Except.ok (_ || decide (s.bestChange < 0)) = _
  rw [decide_eq_false (Nat.not_lt_zero _), Bool.or_false]

/-- ... the record of a better selection ... -/
theorem record_eq (h : Inv q s) (hsane : q.Sane) (hhit : q.targetValue ≤ s.value) :
    record q s = .ok (recorded q s) := by
  have hsum := h.sum_le hsane
  unfold record recorded
  rw [sub_of_le hhit]
  show (add s.currentChange (s.value - q.targetValue) >>= _) = _
  rw [h.change, add_of_le (by omega), Nat.zero_add]
  show Except.ok _ = Except.ok _
  rw [Nat.sub_self]
  split
  · rw [← h.change]
  · rw [← h.change]

/-- Stepping back, the values from the last coin on are available again. -/
theorem unwind_eq (hsane : q.Sane) {last index : Nat} (hlast : last < index) (hle : index ≤ q.utxos.length) :
    unwind q (some last) index (q.utxos.drop index).sum = .ok (last, (q.utxos.drop (last + 1)).sum) := by
  induction index with
  | zero => omega
  | succ index ih =>
      unfold unwind
      rw [Option.all_some]
      by_cases hdone : index ≤ last
      · have heq : index = last := by omega
        rw [if_pos (decide_eq_true hdone), heq]
      · rw [if_neg (by simpa using hdone), get_utxos (by omega)]
        have hdrop := sum_drop (q := q) (i := index) (by omega)
        have hfits : (q.utxos.drop index).sum ≤ u64Max := by
          have hle := (q.utxos.drop_sublist index).sum_le_sum fun _ _ => Nat.zero_le _
          have hfits := hsane.fits
          omega
        show (add (q.utxos.drop (index + 1)).sum (coin q index) >>= _) = _
        rw [add_of_le (by omega), Nat.add_comm, ← hdrop]
        exact ih (by omega) (by omega)

/-- ... the step back ... -/
theorem stepBack_eq (h : Inv q s) (hsane : q.Sane) {last : Nat} {rest : List Nat}
    (hselection : s.indexSelection = last :: rest) : stepBack q s = .ok (.next (back q s last rest)) := by
  have hlast : last < s.index := by
    have hdescending := h.descending
    rw [hselection] at hdescending
    exact (List.pairwise_cons.mp hdescending).1 last List.mem_cons_self
  have hindex := h.index_le
  unfold stepBack
  rw [hselection]
  dsimp only
  rw [h.available, unwind_eq hsane hlast hindex]
  dsimp only [bind, Except.bind]
  rw [if_pos rfl, get_utxos (by omega)]
  rfl

/-- ... and the step forward. -/
theorem stepForward_eq (h : Inv q s) (hsane : q.Sane) (hopen : Open q s) :
    s.index < q.utxos.length ∧ stepForward q s = .ok (.next (forward q s)) := by
  obtain ⟨hreach, hunmet, -⟩ := hopen
  have hlt : s.index < q.utxos.length := by
    by_contra hge
    have havailable := h.available
    rw [List.drop_eq_nil_of_le (by omega), List.sum_nil] at havailable
    omega
  refine ⟨hlt, ?_⟩
  have hsum := h.sum_le hsane
  have hdrop := sum_drop hlt
  have havailable := h.available
  unfold stepForward
  rw [get_utxos hlt]
  show (add s.value (coin q s.index) >>= _) = _
  rw [add_of_le (by omega)]
  show Except.ok (Iteration.next _) = _
  unfold forward
  rw [show s.availableValue - coin q s.index = (q.utxos.drop (s.index + 1)).sum by omega]

theorem noted_indexSelection (q : RangeQuery) (s : SearchState) : (noted q s).indexSelection = s.indexSelection := by
  unfold noted recorded
  split
  · split
    · rfl
    · rfl
  · rfl

open Classical in
/-- **One step.** Forward in an open branch, and else back, with a better selection noted. -/
theorem step_eq (h : Inv q s) (hsane : q.Sane) :
    step q s = if Open q s then stepForward q s else stepBack q (noted q s) := by
  unfold step
  rw [exceeds_eq h hsane]
  dsimp only [bind, Except.bind]
  -- the branch is cut, or it hits the target, or the number of inputs decides
  by_cases hcut : s.availableValue + s.value < q.targetValue ∨ q.upperBound < s.value
  · have htrue : (decide (s.availableValue + s.value < q.targetValue) || decide (q.upperBound < s.value)) = true := by
      rw [Bool.or_eq_true, decide_eq_true_iff, decide_eq_true_iff]
      exact hcut
    have hnoted : noted q s = s := by
      unfold noted
      rw [if_neg (by omega)]
    have hclosed : ¬ Open q s := by
      rintro ⟨hreach, hunmet, -⟩
      have hrange := hsane.range
      omega
    rw [htrue, hnoted, if_neg hclosed]
    rfl
  · have hfalse : (decide (s.availableValue + s.value < q.targetValue) || decide (q.upperBound < s.value)) = false := by
      rw [Bool.or_eq_false_iff, decide_eq_false_iff_not, decide_eq_false_iff_not]
      omega
    rw [hfalse]
    by_cases hhit : q.targetValue ≤ s.value
    · have hnoted : noted q s = recorded q s := by
        unfold noted
        rw [if_pos (by omega)]
      have hclosed : ¬ Open q s := fun hopen => absurd hopen.2.1 (by omega)
      rw [decide_eq_true hhit, hnoted, if_neg hclosed]
      show (record q s >>= _) = _
      rw [record_eq h hsane hhit]
      rfl
    · have hnoted : noted q s = s := by
        unfold noted
        rw [if_neg (by omega)]
      rw [decide_eq_false hhit, hnoted]
      show (if (decide (q.targetUtxoCount ≠ 0) && decide (q.targetUtxoCount ≤ s.indexSelection.length)) = true
        then stepBack q s else stepForward q s) = _
      by_cases hroom : q.targetUtxoCount = 0 ∨ s.indexSelection.length < q.targetUtxoCount
      · have hopen : Open q s := ⟨by omega, by omega, hroom⟩
        rw [if_pos hopen, if_neg]
        rw [Bool.and_eq_true, decide_eq_true_iff, decide_eq_true_iff]
        omega
      · have hclosed : ¬ Open q s := fun hopen => hroom hopen.2.2
        rw [if_neg hclosed, if_pos]
        rw [Bool.and_eq_true, decide_eq_true_iff, decide_eq_true_iff]
        omega

theorem Inv.below (h : Inv q s) : (q.utxos.length :: s.indexSelection).Pairwise (· > ·) := by
  obtain ⟨habove, hrest⟩ := List.pairwise_cons.mp h.descending
  have hindex := h.index_le
  refine List.pairwise_cons.mpr ⟨?_, hrest⟩
  intro i hi
  have hlt := habove i hi
  omega

/-- A selection of the wrong size is no better. -/
theorem count_of_isBetter {currentChange : Nat} (h : isBetter q s currentChange = true)
    (hcount : q.targetUtxoCount ≠ 0) : s.indexSelection.length = q.targetUtxoCount := by
  unfold isBetter at h
  rw [Bool.and_eq_true, Bool.or_eq_true, Bool.and_eq_true, decide_eq_true_iff, decide_eq_true_iff,
    decide_eq_true_iff] at h
  rcases h.2 with ⟨hzero, -⟩ | hlength
  · exact absurd hzero hcount
  · exact hlength

/-- The invariant is kept by each of them: by the record ... -/
theorem Inv.noted (h : Inv q s) : Inv q (noted q s) := by
  unfold Payjoin.noted
  split
  · rename_i hhit
    unfold recorded
    split
    · rename_i hbetter
      refine ⟨h.index_le, h.descending, h.value, h.available, h.change, h.needed, ?_, ?_⟩
      · intro best hbest
        cases hbest
        exact ⟨h.below, h.value ▸ hhit.1, h.value ▸ hhit.2, count_of_isBetter hbetter, h.needed⟩
      · intro hnone
        cases hnone
    · exact h
  · exact h

/-- ... by the step forward ... -/
theorem Inv.forward (h : Inv q s) (hopen : Open q s) (hlt : s.index < q.utxos.length) : Inv q (forward q s) := by
  refine ⟨by exact hlt, ?_, ?_, rfl, h.change, ?_, h.best, h.unset⟩
  · refine List.pairwise_cons.mpr ⟨?_, h.descending⟩
    intro i hi
    show s.index + 1 > i
    rcases List.mem_cons.mp hi with rfl | hi
    · omega
    · have hbelow := (List.pairwise_cons.mp h.descending).1 i hi
      omega
  · show s.value + coin q s.index = (coins q (s.index :: s.indexSelection)).sum
    rw [sum_coins_cons, h.value]
  · intro last rest heq
    cases heq
    rw [← h.value]
    exact hopen.2.1

theorem needed_tail {last : Nat} {rest : List Nat} (h : Needed q (last :: rest)) : Needed q rest := by
  intro last' rest' heq
  have hsum := h last rest rfl
  rw [heq, sum_coins_cons] at hsum
  omega

/-- ... and by the step back. -/
theorem Inv.back (h : Inv q s) {last : Nat} {rest : List Nat} (hselection : s.indexSelection = last :: rest) :
    Inv q (back q s last rest) := by
  have hdescending := h.descending
  rw [hselection] at hdescending
  obtain ⟨hindex, hrest⟩ := List.pairwise_cons.mp hdescending
  have hlast : last < s.index := hindex last List.mem_cons_self
  have hle := h.index_le
  refine ⟨?_, ?_, ?_, rfl, h.change, ?_, h.best, h.unset⟩
  · show last + 1 ≤ q.utxos.length
    omega
  · obtain ⟨hbelow, htail⟩ := List.pairwise_cons.mp hrest
    refine List.pairwise_cons.mpr ⟨?_, htail⟩
    intro i hi
    have hlt := hbelow i hi
    show last + 1 > i
    omega
  · show s.value - coin q last = (coins q rest).sum
    rw [h.value, hselection, sum_coins_cons, Nat.add_sub_cancel]
  · have hneeded := h.needed
    rw [hselection] at hneeded
    exact needed_tail hneeded

/-- An iteration selects the next coin, or notes a hit and steps back, or ends the search. -/
theorem step_cases (h : Inv q s) (hsane : q.Sane) :
    (Open q s ∧ step q s = .ok (.next (forward q s)) ∧ Inv q (forward q s)) ∨
    (¬ Open q s ∧ s.indexSelection = [] ∧ step q s = .ok (.done (noted q s))) ∨
    (¬ Open q s ∧ ∃ last rest, s.indexSelection = last :: rest ∧
      step q s = .ok (.next (back q (noted q s) last rest)) ∧ Inv q (back q (noted q s) last rest)) := by
  classical
  rw [step_eq h hsane]
  by_cases hopen : Open q s
  · obtain ⟨hlt, hforward⟩ := stepForward_eq h hsane hopen
    rw [if_pos hopen]
    exact .inl ⟨hopen, hforward, h.forward hopen hlt⟩
  · rw [if_neg hopen]
    right
    cases hselection : s.indexSelection with
    | nil =>
        refine .inl ⟨hopen, rfl, ?_⟩
        unfold stepBack
        rw [noted_indexSelection, hselection]
    | cons last rest =>
        have hnoted := (noted_indexSelection q s).trans hselection
        exact .inr ⟨hopen, last, rest, rfl, stepBack_eq h.noted hsane hnoted, h.noted.back hnoted⟩

end Step

/-! ## Runs -/

/-- The state at the head of some iteration. -/
inductive Reached (q : RangeQuery) (start : SearchState) : SearchState → Prop where
  | start : Reached q start start
  | next {s s' : SearchState} (h : Reached q start s) (hstep : step q s = .ok (.next s')) : Reached q start s'

section Run

variable {q : RangeQuery} {start s : SearchState}

/-- It holds at the start ... -/
theorem inv_start (q : RangeQuery) : Inv q { availableValue := q.utxos.sum } := by
  refine ⟨Nat.zero_le _, ?_, rfl, ?_, rfl, ?_, ?_, fun _ => rfl⟩
  · exact List.pairwise_singleton _ _
  · show q.utxos.sum = (q.utxos.drop 0).sum
    rw [List.drop_zero]
  · intro last rest heq
    cases heq
  · intro best hbest
    cases hbest

/-- ... and so in every state the loop reaches. -/
theorem Inv.reached (h : Inv q start) (hsane : q.Sane) (hreached : Reached q start s) : Inv q s := by
  induction hreached with
  | start => exact h
  | next _ hstep ih =>
      rcases step_cases ih hsane with ⟨-, heq, hinv⟩ | ⟨-, -, heq⟩ | ⟨-, last, rest, -, heq, hinv⟩
      · cases hstep.symm.trans heq
        exact hinv
      · cases hstep.symm.trans heq
      · cases hstep.symm.trans heq
        exact hinv

/-- The rule for the loop: what an iteration keeps, or ends with, holds where the loop is left. -/
theorem search_rule {Kept Ended : SearchState → Prop}
    (hstep : ∀ s, Kept s →
      (∃ s', step q s = .ok (.next s') ∧ Kept s' ∧ s'.iteration = s.iteration + 1) ∨
      ∃ s', step q s = .ok (.done s') ∧ Ended s')
    (n : Nat) (h : Kept s) :
    ∃ s', search q n s = .ok s' ∧ (Kept s' ∧ s'.iteration = s.iteration + n ∨ Ended s') := by
  induction n generalizing s with
  | zero => exact ⟨s, rfl, .inl ⟨h, rfl⟩⟩
  | succ n ih =>
      unfold search
      rcases hstep s h with ⟨s', heq, hkept, hiteration⟩ | ⟨s', heq, hended⟩
      · rw [heq]
        obtain ⟨s'', hsearch, hcases⟩ := ih hkept
        refine ⟨s'', hsearch, ?_⟩
        rcases hcases with ⟨hkept'', hiteration''⟩ | hended
        · left
          refine ⟨hkept'', ?_⟩
          omega
        · exact .inr hended
      · rw [heq]
        exact ⟨s', rfl, .inr hended⟩

end Run

/-! ## What has not been given up -/

/-- A sublist of the coins in the range, of the required number. -/
structure Solution (q : RangeQuery) (T : List Nat) : Prop where
  sublist : T.Sublist q.utxos
  ge : q.targetValue ≤ T.sum
  le : T.sum ≤ q.upperBound
  count : q.targetUtxoCount ≠ 0 → T.length = q.targetUtxoCount

/-- No coin of the selection can be left out. -/
def Tight (targetValue : Nat) (T : List Nat) : Prop := ∀ v ∈ T, T.sum < targetValue + v

instance (targetValue : Nat) (T : List Nat) : Decidable (Tight targetValue T) :=
  inferInstanceAs (Decidable (∀ v ∈ T, T.sum < targetValue + v))

section Unexplored

variable (q : RangeQuery) (T : List Nat)

/-- The selection is the stack, and coins from `index` on. -/
def Extends (selection : List Nat) (index : Nat) : Prop :=
  ∃ R, R.Sublist (q.utxos.drop index) ∧ T = coins q selection ++ R

/-- The selections that the search has not given up: those that extend the stack, and those that it comes to by dropping
the top of the stack. -/
def Unexplored : List Nat → Nat → Prop
  | [], index => Extends q T [] index
  | last :: rest, index => Extends q T (last :: rest) index ∨ Unexplored rest (last + 1)

/-- A selection as good as `T` is known. -/
def Superseded (bestSelection : Option (List Nat)) : Prop :=
  ∃ best, bestSelection = some best ∧
    (q.targetUtxoCount = 0 → q.upperBound = q.targetValue → best.length ≤ T.length)

end Unexplored

def Covered (q : RangeQuery) (s : SearchState) : Prop :=
  ∀ T, Solution q T → Tight q.targetValue T →
    Unexplored q T s.indexSelection s.index ∨ Superseded q T s.bestSelection

section Exhaustive

variable {q : RangeQuery} {s : SearchState} {T : List Nat}

/-- Selecting the next coin gives nothing up: a selection has that coin, or has it not. -/
theorem Unexplored.forward {selection : List Nat} {index : Nat} (hlt : index < q.utxos.length)
    (h : Unexplored q T selection index) : Unexplored q T (index :: selection) (index + 1) := by
  have split : Extends q T selection index →
      Extends q T (index :: selection) (index + 1) ∨ Extends q T selection (index + 1) := by
    rintro ⟨R, hsublist, heq⟩
    rw [drop_eq_coin_cons hlt] at hsublist
    rcases List.sublist_cons_iff.mp hsublist with hwithout | ⟨R', rfl, hwith⟩
    · exact .inr ⟨R, hwithout, heq⟩
    · refine .inl ⟨R', hwith, ?_⟩
      rw [coins_cons, List.append_assoc]
      exact heq
  cases selection with
  | nil => exact split h
  | cons last rest =>
      rcases h with hextends | hrest
      · rcases split hextends with hwith | hwithout
        · exact .inl hwith
        · exact .inr (.inl hwithout)
      · exact .inr (.inr hrest)

/-- Where no coin may be selected, the only tight solution that extends the stack is a hit. -/
theorem eq_coins_of_extends (h : Inv q s) (hclosed : ¬ Open q s) (hsolution : Solution q T)
    (htight : Tight q.targetValue T) (hextends : Extends q T s.indexSelection s.index) :
    T = coins q s.indexSelection ∧ q.targetValue ≤ s.value ∧ s.value ≤ q.upperBound := by
  obtain ⟨R, hsublist, heq⟩ := hextends
  have hsum : T.sum = s.value + R.sum := by rw [heq, List.sum_append, h.value]
  have hlength : T.length = s.indexSelection.length + R.length := by
    rw [heq, List.length_append, coins_length]
  have havailable : R.sum ≤ s.availableValue := by
    rw [h.available]
    exact hsublist.sum_le_sum fun _ _ => Nat.zero_le _
  have hge := hsolution.ge
  have hle := hsolution.le
  cases R with
  | nil =>
      rw [List.append_nil] at heq
      rw [List.sum_nil] at hsum
      exact ⟨heq, by omega, by omega⟩
  | cons v R =>
      have hv : T.sum < q.targetValue + v := htight v (heq ▸ List.mem_append_right _ List.mem_cons_self)
      rw [List.sum_cons] at hsum havailable
      rw [List.length_cons] at hlength
      exfalso
      apply hclosed
      refine ⟨by omega, by omega, ?_⟩
      by_cases hcount : q.targetUtxoCount = 0
      · exact .inl hcount
      · have hexact := hsolution.count hcount
        right
        omega

/-- A better selection supersedes what the last one did. -/
theorem Superseded.noted (h : Superseded q T s.bestSelection) : Superseded q T (noted q s).bestSelection := by
  obtain ⟨best, hbest, hfewest⟩ := h
  unfold Payjoin.noted recorded
  split
  · split
    · rename_i hbetter
      refine ⟨s.indexSelection, rfl, ?_⟩
      intro hzero hexact
      have hlength := hfewest hzero hexact
      unfold isBetter at hbetter
      rw [Bool.and_eq_true, Bool.or_eq_true, Bool.and_eq_true, hbest, Option.all_some, decide_eq_true_iff,
        decide_eq_true_iff, decide_eq_true_iff, decide_eq_true_iff] at hbetter
      omega
    · exact ⟨best, hbest, hfewest⟩
  · exact ⟨best, hbest, hfewest⟩

/-- A hit that is a solution is recorded, unless one as good is known. -/
theorem superseded_of_hit (h : Inv q s) (hsane : q.Sane) (hsolution : Solution q (coins q s.indexSelection))
    (hge : q.targetValue ≤ s.value) (hle : s.value ≤ q.upperBound) :
    Superseded q (coins q s.indexSelection) (noted q s).bestSelection := by
  unfold noted recorded Superseded
  rw [if_pos ⟨hge, hle⟩, coins_length]
  split
  · exact ⟨s.indexSelection, rfl, fun _ _ => Nat.le_refl _⟩
  · rename_i hnot
    cases hbest : s.bestSelection with
    | none =>
        exfalso
        apply hnot
        have hsum := h.sum_le hsane
        have hunset := h.unset hbest
        unfold isBetter
        rw [Bool.and_eq_true, Bool.or_eq_true, Bool.and_eq_true, hbest, Option.all_none, decide_eq_true_iff,
          decide_eq_true_iff, decide_eq_true_iff]
        refine ⟨by omega, ?_⟩
        by_cases hcount : q.targetUtxoCount = 0
        · exact .inl ⟨hcount, rfl⟩
        · right
          rw [← coins_length q s.indexSelection]
          exact hsolution.count hcount
    | some best =>
        refine ⟨best, rfl, ?_⟩
        intro hzero hexact
        by_contra hlonger
        apply hnot
        unfold isBetter
        rw [Bool.and_eq_true, Bool.or_eq_true, Bool.and_eq_true, hbest, Option.all_some, decide_eq_true_iff,
          decide_eq_true_iff, decide_eq_true_iff, decide_eq_true_iff]
        exact ⟨by omega, .inl ⟨hzero, by omega⟩⟩

/-- What extends the stack where no coin may be selected is given up, and is known then. -/
theorem Covered.noted (h : Covered q s) (hinv : Inv q s) (hsane : q.Sane) (hclosed : ¬ Open q s)
    (hsolution : Solution q T) (htight : Tight q.targetValue T) :
    (∃ last rest, s.indexSelection = last :: rest ∧ Unexplored q T rest (last + 1)) ∨
      Superseded q T (noted q s).bestSelection := by
  have hit : Extends q T s.indexSelection s.index → Superseded q T (Payjoin.noted q s).bestSelection := by
    intro hextends
    obtain ⟨heq, hge, hle⟩ := eq_coins_of_extends hinv hclosed hsolution htight hextends
    rw [heq] at hsolution ⊢
    exact superseded_of_hit hinv hsane hsolution hge hle
  rcases h T hsolution htight with hunexplored | hsuperseded
  · cases hselection : s.indexSelection with
    | nil =>
        rw [hselection] at hunexplored hit
        exact .inr (hit hunexplored)
    | cons last rest =>
        rw [hselection] at hunexplored hit
        rcases hunexplored with hextends | hrest
        · exact .inr (hit hextends)
        · exact .inl ⟨last, rest, rfl, hrest⟩
  · exact .inr hsuperseded.noted

/-- At the start everything is still to be explored. -/
theorem covered_start (q : RangeQuery) : Covered q { availableValue := q.utxos.sum } := by
  intro T hsolution _
  left
  refine ⟨T, ?_, rfl⟩
  rw [List.drop_zero]
  exact hsolution.sublist

/-- An iteration keeps the two invariants, or ends the search with every tight solution superseded. -/
theorem step_covered (hsane : q.Sane) (s : SearchState) (h : Inv q s ∧ Covered q s) :
    (∃ s', step q s = .ok (.next s') ∧ (Inv q s' ∧ Covered q s') ∧ s'.iteration = s.iteration + 1) ∨
    ∃ s', step q s = .ok (.done s') ∧ Inv q s' ∧
      ∀ T, Solution q T → Tight q.targetValue T → Superseded q T s'.bestSelection := by
  obtain ⟨hinv, hcovered⟩ := h
  rcases step_cases hinv hsane with ⟨hopen, heq, hinv'⟩ | ⟨hclosed, hempty, heq⟩ |
    ⟨hclosed, last, rest, hselection, heq, hinv'⟩
  · refine .inl ⟨_, heq, ⟨hinv', ?_⟩, rfl⟩
    obtain ⟨hlt, -⟩ := stepForward_eq hinv hsane hopen
    intro T hsolution htight
    rcases hcovered T hsolution htight with hunexplored | hsuperseded
    · exact .inl (hunexplored.forward hlt)
    · exact .inr hsuperseded
  · refine .inr ⟨_, heq, hinv.noted, ?_⟩
    intro T hsolution htight
    rcases hcovered.noted hinv hsane hclosed hsolution htight with ⟨last, rest, hselection, -⟩ | hsuperseded
    · rw [hempty] at hselection
      cases hselection
    · exact hsuperseded
  · refine .inl ⟨_, heq, ⟨hinv', ?_⟩, ?_⟩
    · intro T hsolution htight
      rcases hcovered.noted hinv hsane hclosed hsolution htight with ⟨last', rest', hselection', hrest⟩ | hsuperseded
      · rw [hselection] at hselection'
        cases hselection'
        exact .inl hrest
      · exact .inr hsuperseded
    · show (Payjoin.noted q s).iteration + 1 = s.iteration + 1
      unfold Payjoin.noted recorded
      split
      · split
        · rfl
        · rfl
      · rfl

end Exhaustive

/-! ## The result -/

/-- Sorting changes no coins. -/
theorem sortedUtxos_perm (utxos : List Nat) : (sortedUtxos utxos).Perm utxos :=
  (List.reverse_perm _).trans (List.mergeSort_perm _ _)

theorem sum_sortedUtxos (utxos : List Nat) : (sortedUtxos utxos).sum = utxos.sum := (sortedUtxos_perm utxos).sum_eq

theorem sortedUtxos_descending (utxos : List Nat) : (sortedUtxos utxos).Pairwise (· ≥ ·) := by
  unfold sortedUtxos
  rw [List.pairwise_reverse]
  refine (List.pairwise_mergeSort ?_ ?_ utxos).imp ?_
  · intro a b c hab hbc
    rw [decide_eq_true_iff] at hab hbc ⊢
    exact Nat.le_trans hab hbc
  · intro a b
    rw [Bool.or_eq_true, decide_eq_true_iff, decide_eq_true_iff]
    exact Nat.le_total a b
  · intro a b hab
    exact of_decide_eq_true hab

/-- The coins that may be returned: their sum is in the range, and they are of the required number. -/
structure InRange (targetValue upperBoundDelta targetUtxoCount : Nat) (utxos selected : List Nat) : Prop where
  subperm : selected.Subperm utxos
  ge : targetValue ≤ selected.sum
  le : selected.sum ≤ targetValue + upperBoundDelta
  count : targetUtxoCount ≠ 0 → selected.length = targetUtxoCount

section Result

variable {q : RangeQuery} {selection T : List Nat}

/-- A found selection is a solution of the query ... -/
theorem Found.solution (h : Found q selection) : Solution q (coins q selection) := by
  refine ⟨?_, h.ge, h.le, ?_⟩
  · have hsublist := coins_sublist h.descending (Nat.le_refl _)
    rwa [List.take_length] at hsublist
  · intro hcount
    rw [coins_length]
    exact h.count hcount

/-- The last coin of a selection is the smallest. -/
theorem Found.tight (h : Found q selection) (hsorted : q.utxos.Pairwise (· ≥ ·)) :
    Tight q.targetValue (coins q selection) := by
  intro v hv
  cases selection with
  | nil => exact absurd hv (List.not_mem_nil)
  | cons last rest =>
      have hdescending := hsorted.sublist h.solution.sublist
      have hneeded := h.needed last rest rfl
      rw [coins_cons] at hv hdescending
      rw [sum_coins_cons]
      have hle : coin q last ≤ v := by
        rcases List.mem_append.mp hv with hv | hv
        · exact (List.pairwise_append.mp hdescending).2.2 v hv _ (List.mem_singleton.mpr rfl)
        · rw [List.mem_singleton.mp hv]
      omega

/-- The coins of a selection can be looked up. -/
theorem mapM_get (hdescending : (q.utxos.length :: selection).Pairwise (· > ·)) :
    selection.reverse.mapM (get q.utxos) = .ok (coins q selection) := by
  rw [mapM_eq_ok]
  unfold coins
  rw [List.forall₂_map_right_iff, List.forall₂_same]
  intro i hi
  exact get_utxos ((List.pairwise_cons.mp hdescending).1 i (List.mem_reverse.mp hi))

variable {targetValue upperBoundDelta targetUtxoCount : Nat} {utxos : List Nat} {s : SearchState}

/-- ... and so lies in the range. -/
theorem Solution.inRange (h : Solution (rangeQuery targetValue upperBoundDelta targetUtxoCount utxos) T) :
    InRange targetValue upperBoundDelta targetUtxoCount utxos T :=
  ⟨(sortedUtxos_perm utxos).subperm_left.mp h.sublist.subperm, h.ge, h.le, h.count⟩

/-- In some order, the coins of a selection are a sublist of the sorted ones. -/
theorem InRange.exists_solution (h : InRange targetValue upperBoundDelta targetUtxoCount utxos T) :
    ∃ T', T'.Perm T ∧ Solution (rangeQuery targetValue upperBoundDelta targetUtxoCount utxos) T' := by
  obtain ⟨T', hperm, hsublist⟩ := (sortedUtxos_perm utxos).subperm_left.mpr h.subperm
  refine ⟨T', hperm, hsublist, ?_, ?_, ?_⟩
  · rw [hperm.sum_eq]
    exact h.ge
  · rw [hperm.sum_eq]
    exact h.le
  · intro hcount
    rw [hperm.length_eq]
    exact h.count hcount

/-- Tightness is about the coins, not their order. -/
theorem Tight.perm {T' : List Nat} (h : Tight targetValue T) (hperm : T'.Perm T) : Tight targetValue T' := by
  intro v hv
  rw [hperm.sum_eq]
  exact h v (hperm.mem_iff.mp hv)

/-- The query is sane if the coins and the bound fit. -/
theorem sane_rangeQuery (targetValue upperBoundDelta targetUtxoCount : Nat) (hsum : utxos.sum ≤ u64Max) :
    (rangeQuery targetValue upperBoundDelta targetUtxoCount utxos).Sane :=
  ⟨(sum_sortedUtxos utxos).trans_le hsum, Nat.le_add_right _ _⟩

/-- What the search comes to: the invariant holds of its last state, and if it has not run out of iterations then no
tight solution is better than what it has found. -/
theorem searchInRange_spec (targetUtxoCount : Nat) (hsum : utxos.sum ≤ u64Max)
    (hfits : targetValue + upperBoundDelta ≤ u64Max) :
    ∃ s, searchInRange targetValue upperBoundDelta targetUtxoCount utxos = .ok s ∧
      Inv (rangeQuery targetValue upperBoundDelta targetUtxoCount utxos) s ∧
      (s.iteration < UTXO_SELECTION_ITERATION_LIMIT →
        ∀ T, Solution (rangeQuery targetValue upperBoundDelta targetUtxoCount utxos) T → Tight targetValue T →
          Superseded (rangeQuery targetValue upperBoundDelta targetUtxoCount utxos) T s.bestSelection) := by
  have hsum' : (sortedUtxos utxos).sum ≤ u64Max := (sum_sortedUtxos utxos).trans_le hsum
  unfold searchInRange
  rw [add_of_le hfits, sum_of_le hsum']
  dsimp only [bind, Except.bind]
  by_cases hshort : (sortedUtxos utxos).sum < targetValue
  · rw [if_pos hshort]
    refine ⟨_, rfl, inv_start _, ?_⟩
    intro _ T hsolution _
    have hle := hsolution.sublist.sum_le_sum fun _ _ => Nat.zero_le _
    have hge := hsolution.ge
    exact absurd (Nat.le_trans hge hle) (Nat.not_le.mpr hshort)
  · rw [if_neg hshort]
    obtain ⟨s, heq, hcases⟩ := search_rule (step_covered (sane_rangeQuery _ _ _ hsum)) UTXO_SELECTION_ITERATION_LIMIT
      ⟨inv_start (rangeQuery targetValue upperBoundDelta targetUtxoCount utxos), covered_start _⟩
    refine ⟨s, heq, ?_⟩
    rcases hcases with ⟨⟨hinv, -⟩, hiteration⟩ | ⟨hinv, hsuperseded⟩
    · refine ⟨hinv, ?_⟩
      intro hended
      rw [hiteration] at hended
      exact absurd hended (Nat.not_lt.mpr (Nat.le_add_left _ _))
    · exact ⟨hinv, fun _ => hsuperseded⟩

/-- The result is the best selection of the search. -/
theorem utxoSelectInRange_eq (h : searchInRange targetValue upperBoundDelta targetUtxoCount utxos = .ok s)
    (hinv : Inv (rangeQuery targetValue upperBoundDelta targetUtxoCount utxos) s) :
    utxoSelectInRange targetValue upperBoundDelta targetUtxoCount utxos =
      .ok (s.bestSelection.map (coins (rangeQuery targetValue upperBoundDelta targetUtxoCount utxos))) := by
  unfold utxoSelectInRange
  rw [h]
  dsimp only [bind, Except.bind]
  cases hbest : s.bestSelection with
  | none => rfl
  | some best =>
      have hget := mapM_get (hinv.best best hbest).descending
      change best.reverse.mapM (get (sortedUtxos utxos)) = _ at hget
      dsimp only
      rw [hget]
      rfl

/-- No iteration stops at a fault, the running sums are those of the coins, and what is returned is in the range. -/
theorem utxoSelectInRange_safe (targetValue upperBoundDelta targetUtxoCount : Nat) (utxos : List Nat)
    (hsum : utxos.sum ≤ u64Max) (hfits : targetValue + upperBoundDelta ≤ u64Max) :
    (∀ s, Reached (rangeQuery targetValue upperBoundDelta targetUtxoCount utxos) { availableValue := utxos.sum } s →
      (∃ outcome, step (rangeQuery targetValue upperBoundDelta targetUtxoCount utxos) s = .ok outcome) ∧
      s.index ≤ utxos.length ∧ (∀ i ∈ s.indexSelection, i < s.index) ∧
      s.availableValue = ((sortedUtxos utxos).drop s.index).sum ∧
      s.value = (s.indexSelection.map fun i => (sortedUtxos utxos).getD i 0).sum) ∧
    ∃ r, utxoSelectInRange targetValue upperBoundDelta targetUtxoCount utxos = .ok r ∧
      ∀ selected, r = some selected → InRange targetValue upperBoundDelta targetUtxoCount utxos selected := by
  have hsane := sane_rangeQuery targetValue upperBoundDelta targetUtxoCount hsum
  constructor
  · -- the invariant holds of every state that the loop reaches, and excludes a fault
    intro s hreached
    rw [← sum_sortedUtxos] at hreached
    have hinv := (inv_start _).reached hsane hreached
    refine ⟨?_, ?_, (List.pairwise_cons.mp hinv.descending).1, hinv.available, ?_⟩
    · rcases step_cases hinv hsane with ⟨-, heq, -⟩ | ⟨-, -, heq⟩ | ⟨-, last, rest, -, heq, -⟩
      · exact ⟨_, heq⟩
      · exact ⟨_, heq⟩
      · exact ⟨_, heq⟩
    · rw [← (sortedUtxos_perm utxos).length_eq]
      exact hinv.index_le
    · rw [hinv.value]
      unfold coins
      rw [List.map_reverse, List.sum_reverse]
      rfl
  · obtain ⟨s, heq, hinv, -⟩ := searchInRange_spec targetUtxoCount hsum hfits
    refine ⟨_, utxoSelectInRange_eq heq hinv, ?_⟩
    intro selected hselected
    obtain ⟨best, hbest, rfl⟩ := Option.map_eq_some_iff.mp hselected
    exact (hinv.best best hbest).solution.inRange

theorem sortedUtxos_three : sortedUtxos [1, 10, 3] = [10, 3, 1] := by
  simp [sortedUtxos, List.mergeSort]

/-- The search for 4 among three coins, with two of them. -/
theorem utxoSelectInRange_three : utxoSelectInRange 4 0 2 [1, 10, 3] = .ok (some [3, 1]) := by
  unfold utxoSelectInRange searchInRange rangeQuery
  rw [sortedUtxos_three]
  rfl

/-- Of three coins the two smaller ones are selected; the loop that finds them keeps its sums all along. -/
theorem utxoSelectInRange_safe_three :
    (∀ s, Reached (rangeQuery 4 0 2 [1, 10, 3]) { availableValue := 14 } s →
      (∃ outcome, step (rangeQuery 4 0 2 [1, 10, 3]) s = .ok outcome) ∧ s.index ≤ 3 ∧
        (∀ i ∈ s.indexSelection, i < s.index) ∧ s.availableValue = ([10, 3, 1].drop s.index).sum ∧
        s.value = (s.indexSelection.map fun i => [10, 3, 1].getD i 0).sum) ∧
      InRange 4 0 2 [1, 10, 3] [3, 1] := by
  obtain ⟨hloop, r, hr, hrange⟩ := utxoSelectInRange_safe 4 0 2 [1, 10, 3] (by decide) (by decide)
  rw [sortedUtxos_three] at hloop
  cases utxoSelectInRange_three.symm.trans hr
  exact ⟨hloop, hrange _ rfl⟩

/-- A search that returns has computed both sums. -/
theorem fits_of_searchInRange (h : searchInRange targetValue upperBoundDelta targetUtxoCount utxos = .ok s) :
    utxos.sum ≤ u64Max ∧ targetValue + upperBoundDelta ≤ u64Max := by
  unfold searchInRange at h
  cases hadd : add targetValue upperBoundDelta with
  | error fault =>
      rw [hadd] at h
      cases h
  | ok upperBound =>
      rw [hadd] at h
      dsimp only [bind, Except.bind] at h
      cases hsum : sum (sortedUtxos utxos) with
      | error fault =>
          rw [hsum] at h
          cases h
      | ok availableValue =>
          rw [← sum_sortedUtxos]
          exact ⟨(sum_eq_ok.mp hsum).1, (add_eq_ok.mp hadd).1⟩

theorem sum_filter_ne_zero (l : List Nat) : (l.filter (· ≠ 0)).sum = l.sum := by
  induction l with
  | nil => rfl
  | cons v l ih =>
      by_cases hv : v = 0
      · rw [List.filter_cons_of_neg (by simp [hv]), ih, List.sum_cons, hv, Nat.zero_add]
      · rw [List.filter_cons_of_pos (by simp [hv]), List.sum_cons, List.sum_cons, ih]

/-- A selection that meets the target exactly needs no coin without value. -/
theorem InRange.exists_tight (h : InRange targetValue 0 0 utxos T) :
    ∃ T', InRange targetValue 0 0 utxos T' ∧ Tight targetValue T' ∧ T'.length ≤ T.length := by
  have hsum := sum_filter_ne_zero T
  refine ⟨T.filter (· ≠ 0), ⟨?_, ?_, ?_, ?_⟩, ?_, List.length_filter_le _ _⟩
  · exact List.filter_sublist.subperm.trans h.subperm
  · rw [hsum]
    exact h.ge
  · rw [hsum]
    exact h.le
  · intro hcount
    exact absurd rfl hcount
  · intro v hv
    have hpositive : v ≠ 0 := of_decide_eq_true (List.mem_filter.mp hv).2
    have hle := h.le
    rw [hsum]
    omega

/-- If the loop ends by itself, then the search finds some coins whenever there are any, and for an exact match the
fewest, unless each selection of coins has one that it could do without. -/
theorem utxoSelectInRange_exhaustive_iff (targetValue upperBoundDelta targetUtxoCount : Nat) (utxos : List Nat)
    (s : SearchState) (hended : searchInRange targetValue upperBoundDelta targetUtxoCount utxos = .ok s)
    (hlimit : s.iteration < UTXO_SELECTION_ITERATION_LIMIT) :
    (((∃ T, InRange targetValue upperBoundDelta targetUtxoCount utxos T) →
        ∃ selected, utxoSelectInRange targetValue upperBoundDelta targetUtxoCount utxos = .ok (some selected)) ∧
      (targetUtxoCount = 0 → upperBoundDelta = 0 →
        ∀ selected, utxoSelectInRange targetValue upperBoundDelta targetUtxoCount utxos = .ok (some selected) →
          ∀ T, InRange targetValue upperBoundDelta targetUtxoCount utxos T → selected.length ≤ T.length)) ↔
    ((∃ T, InRange targetValue upperBoundDelta targetUtxoCount utxos T) →
      ∃ T, InRange targetValue upperBoundDelta targetUtxoCount utxos T ∧ Tight targetValue T) := by
  obtain ⟨hsum, hfits⟩ := fits_of_searchInRange hended
  obtain ⟨s', heq, hinv, hsuperseded⟩ := searchInRange_spec targetUtxoCount hsum hfits
  cases hended.symm.trans heq
  rw [utxoSelectInRange_eq hended hinv]
  -- a tight solution is superseded by what is returned
  have known : ∀ T, InRange targetValue upperBoundDelta targetUtxoCount utxos T → Tight targetValue T →
      ∃ best, s.bestSelection = some best ∧ (targetUtxoCount = 0 → upperBoundDelta = 0 → best.length ≤ T.length) := by
    intro T hrange htight
    obtain ⟨T', hperm, hsolution⟩ := hrange.exists_solution
    obtain ⟨best, hbest, hfewest⟩ := hsuperseded hlimit T' hsolution (htight.perm hperm)
    refine ⟨best, hbest, ?_⟩
    intro hcount hdelta
    rw [← hperm.length_eq]
    apply hfewest hcount
    show targetValue + upperBoundDelta = targetValue
    rw [hdelta, Nat.add_zero]
  constructor
  · rintro ⟨hfound, -⟩ hsolvable
    obtain ⟨selected, hselected⟩ := hfound hsolvable
    rw [Except.ok.injEq] at hselected
    obtain ⟨best, hbest, rfl⟩ := Option.map_eq_some_iff.mp hselected
    have hfound := hinv.best best hbest
    exact ⟨_, hfound.solution.inRange, hfound.tight (sortedUtxos_descending utxos)⟩
  · intro htight
    constructor
    · intro hsolvable
      obtain ⟨T, hrange, htight⟩ := htight hsolvable
      obtain ⟨best, hbest, -⟩ := known T hrange htight
      rw [hbest]
      exact ⟨_, rfl⟩
    · rintro rfl rfl selected hselected T hrange
      rw [Except.ok.injEq] at hselected
      obtain ⟨best, hbest, rfl⟩ := Option.map_eq_some_iff.mp hselected
      obtain ⟨T', hrange', htight', hlength⟩ := hrange.exists_tight
      obtain ⟨best', hbest', hfewest⟩ := known T' hrange' htight'
      cases hbest.symm.trans hbest'
      rw [coins_length]
      exact Nat.le_trans (hfewest rfl rfl) hlength

theorem sortedUtxos_pair : sortedUtxos [10, 1] = [10, 1] := by
  simp [sortedUtxos, List.mergeSort]

theorem searchInRange_pair :
    searchInRange 10 1 2 [10, 1] = .ok { iteration := 2, index := 1, availableValue := 1 } := by
  unfold searchInRange rangeQuery
  rw [sortedUtxos_pair]
  rfl

/-- The two coins are in the range, but their selection is not found. -/
theorem utxoSelectInRange_pair : utxoSelectInRange 10 1 2 [10, 1] = .ok none := by
  unfold utxoSelectInRange
  rw [searchInRange_pair]
  rfl

theorem inRange_pair : InRange 10 1 2 [10, 1] [10, 1] :=
  ⟨List.Subperm.refl _, by decide, by decide, fun _ => rfl⟩

/-- The large coin meets the target alone, so the search never adds the second one that it is asked for. -/
theorem utxoSelectInRange_misses_pair :
    searchInRange 10 1 2 [10, 1] = .ok { iteration := 2, index := 1, availableValue := 1 } ∧
      2 < UTXO_SELECTION_ITERATION_LIMIT ∧ InRange 10 1 2 [10, 1] [10, 1] ∧
      utxoSelectInRange 10 1 2 [10, 1] = .ok none :=
  ⟨searchInRange_pair, by decide, inRange_pair, utxoSelectInRange_pair⟩

theorem sortedUtxos_four : sortedUtxos [3, 1, 4, 1] = [4, 3, 1, 1] := by
  simp [sortedUtxos, List.mergeSort]

/-- The search for 5 among four coins. -/
theorem searchInRange_four : searchInRange 5 0 0 [3, 1, 4, 1] =
    .ok { iteration := 14, index := 2, bestChange := 0, bestSelection := some [3, 0], availableValue := 2 } := by
  unfold searchInRange rangeQuery
  rw [sortedUtxos_four]
  rfl

/-- An exact match of four coins is found with the fewest coins; the large coin of a pair that is to be spent
together leaves no selection without a coin too many. -/
theorem utxoSelectInRange_exhaustive_four :
    (∃ selected, utxoSelectInRange 5 0 0 [3, 1, 4, 1] = .ok (some selected) ∧
      ∀ T, InRange 5 0 0 [3, 1, 4, 1] T → selected.length ≤ T.length) ∧
      ¬ ∃ T, InRange 10 1 2 [10, 1] T ∧ Tight 10 T := by
  constructor
  · have hrange : InRange 5 0 0 [3, 1, 4, 1] [4, 1] :=
      ⟨by decide, by decide, by decide, fun h => absurd rfl h⟩
    obtain ⟨hfound, hfewest⟩ := (utxoSelectInRange_exhaustive_iff 5 0 0 [3, 1, 4, 1] _ searchInRange_four
      (by decide)).mpr fun _ => ⟨_, hrange, by decide⟩
    obtain ⟨selected, hselected⟩ := hfound ⟨_, hrange⟩
    exact ⟨selected, hselected, hfewest rfl rfl selected hselected⟩
  · intro h
    obtain ⟨hfound, -⟩ :=
      (utxoSelectInRange_exhaustive_iff 10 1 2 [10, 1] _ searchInRange_pair (by decide)).mpr fun _ => h
    obtain ⟨selected, hselected⟩ := hfound ⟨_, inRange_pair⟩
    cases utxoSelectInRange_pair.symm.trans hselected

end Result

end BreezLiquid.Payjoin
