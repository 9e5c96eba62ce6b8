/-
# BreezLiquid.Payjoin.Balanced — what is selected for a payjoin passes the validation.

Each asset balances for a reason of its own: the fee asset and the policy asset by what the selectors guarantee, any other
by `asset_select`. Values are positive on both sides, so that sums that agree also agree on which assets occur. The fee
bounds come from the ranges: a fee exceeds its minimum by at most the price of an output, and the minimum is at least
that, because the transaction has outputs.
-/
import BreezLiquid.Payjoin.InRange
import BreezLiquid.Payjoin.Selection

namespace BreezLiquid.Payjoin

open Checked Interleaving

/-! ## Values and totals -/

section Values

variable {a b : AssetId} {l l' : List InOut} {vs : List Nat}

/-- The total of an asset. -/
def amountOf (a : AssetId) (l : List InOut) : Nat := (valuesOf a l).sum

/-- Values and amounts of one asset, along lists. -/
theorem valuesOf_append (a : AssetId) (l l' : List InOut) : valuesOf a (l ++ l') = valuesOf a l ++ valuesOf a l' := by
  unfold valuesOf
  rw [List.filter_append, List.map_append]

theorem amountOf_append (a : AssetId) (l l' : List InOut) : amountOf a (l ++ l') = amountOf a l + amountOf a l' := by
  unfold amountOf
  rw [valuesOf_append, List.sum_append]

theorem valuesOf_cons_self (v : Nat) (l : List InOut) : valuesOf a (⟨a, v⟩ :: l) = v :: valuesOf a l := by
  simp [valuesOf]

theorem valuesOf_cons_ne (v : Nat) (l : List InOut) (h : b ≠ a) : valuesOf a (⟨b, v⟩ :: l) = valuesOf a l := by
  simp [valuesOf, h]

theorem valuesOf_map_self (a : AssetId) (vs : List Nat) : valuesOf a (vs.map (InOut.mk a)) = vs := by
  induction vs with
  | nil => rfl
  | cons v vs ih => rw [List.map_cons, valuesOf_cons_self, ih]

theorem valuesOf_map_ne (vs : List Nat) (h : b ≠ a) : valuesOf a (vs.map (InOut.mk b)) = [] := by
  induction vs with
  | nil => rfl
  | cons v vs ih => rw [List.map_cons, valuesOf_cons_ne v _ h, ih]

theorem amountOf_map_self (a : AssetId) (vs : List Nat) : amountOf a (vs.map (InOut.mk a)) = vs.sum :=
  congrArg List.sum (valuesOf_map_self a vs)

theorem amountOf_map_ne (vs : List Nat) (h : b ≠ a) : amountOf a (vs.map (InOut.mk b)) = 0 :=
  congrArg List.sum (valuesOf_map_ne vs h)

theorem mem_valuesOf {v : Nat} : v ∈ valuesOf a l ↔ ⟨a, v⟩ ∈ l := by
  unfold valuesOf
  rw [List.mem_map]
  constructor
  · rintro ⟨⟨b, w⟩, hmem, rfl⟩
    obtain ⟨hin, heq⟩ := List.mem_filter.mp hmem
    have heq : b = a := of_decide_eq_true heq
    rwa [heq] at hin
  · intro hin
    exact ⟨⟨a, v⟩, List.mem_filter.mpr ⟨hin, decide_eq_true rfl⟩, rfl⟩

/-- With positive values, an asset occurs where its total is not zero. -/
theorem valuesOf_eq_nil_iff (hpositive : ∀ inOut ∈ l, 0 < inOut.value) : valuesOf a l = [] ↔ amountOf a l = 0 := by
  unfold amountOf
  constructor
  · intro hnil
    rw [hnil, List.sum_nil]
  · intro hsum
    by_contra hne
    obtain ⟨v, hv⟩ := List.exists_mem_of_ne_nil _ hne
    have hle := List.single_le_sum (fun _ _ => Nat.zero_le _) v hv
    have hpos : 0 < v := hpositive _ (mem_valuesOf.mp hv)
    omega

end Values

/-! ## Tallies -/

section Tally

variable {l : List InOut} {m m' : Amounts}

/-- What is credited is added to its asset. -/
theorem credit_eq_ok {inOut : InOut} (h : credit m inOut = .ok m') :
    m' = m.insert inOut.assetId (m.getD inOut.assetId 0 + inOut.value) := by
  obtain ⟨total, htotal, hinsert⟩ := except_bind_eq_ok.mp h
  obtain ⟨-, rfl⟩ := add_eq_ok.mp htotal
  cases hinsert
  rfl

theorem getD_insert (m : Amounts) (a b : AssetId) (v : Nat) :
    (m.insert b v).getD a 0 = if b = a then v else m.getD a 0 := by
  rw [Std.ExtTreeMap.getD_insert]
  by_cases h : b = a
  · rw [if_pos h, if_pos (Std.LawfulEqCmp.compare_eq_iff_eq.mpr h)]
  · rw [if_neg h, if_neg (fun heq => h (Std.LawfulEqCmp.compare_eq_iff_eq.mp heq))]

theorem getElem?_insert (m : Amounts) (a b : AssetId) (v : Nat) :
    (m.insert b v)[a]? = if b = a then some v else m[a]? := by
  rw [Std.ExtTreeMap.getElem?_insert]
  by_cases h : b = a
  · rw [if_pos h, if_pos (Std.LawfulEqCmp.compare_eq_iff_eq.mpr h)]
  · rw [if_neg h, if_neg (fun heq => h (Std.LawfulEqCmp.compare_eq_iff_eq.mp heq))]

/-- What a tally holds of an asset: its total, if it occurs. -/
theorem foldlM_credit_eq_ok (h : l.foldlM credit m = .ok m') (a : AssetId) :
    m'[a]? = if valuesOf a l = [] then m[a]? else some (m.getD a 0 + amountOf a l) := by
  induction l generalizing m with
  | nil =>
      cases h
      rfl
  | cons inOut l ih =>
      obtain ⟨b, v⟩ := inOut
      rw [List.foldlM_cons] at h
      obtain ⟨m₁, hcredit, hrest⟩ := except_bind_eq_ok.mp h
      have heq := credit_eq_ok hcredit
      dsimp only at heq
      rw [ih hrest, heq, getD_insert, getElem?_insert]
      unfold amountOf
      by_cases hb : b = a
      · rw [if_pos hb, if_pos hb, hb, valuesOf_cons_self, if_neg (List.cons_ne_nil _ _), List.sum_cons]
        split
        · rename_i hnil
          rw [hnil, List.sum_nil, Nat.add_zero]
        · rw [Nat.add_assoc]
      · rw [if_neg hb, if_neg hb, valuesOf_cons_ne v l hb]

/-- Sums that fit are tallied. -/
theorem foldlM_credit_of_le (h : ∀ a, m.getD a 0 + amountOf a l ≤ u64Max) : ∃ m', l.foldlM credit m = .ok m' := by
  induction l generalizing m with
  | nil => exact ⟨m, rfl⟩
  | cons inOut l ih =>
      obtain ⟨b, v⟩ := inOut
      have hb := h b
      unfold amountOf at hb
      rw [valuesOf_cons_self, List.sum_cons] at hb
      have hfits : m.getD b 0 + v ≤ u64Max := by omega
      have hcredit : credit m ⟨b, v⟩ = .ok (m.insert b (m.getD b 0 + v)) := by
        unfold credit
        rw [add_of_le hfits]
        rfl
      obtain ⟨m', hm'⟩ := ih (m := m.insert b (m.getD b 0 + v)) (by
        intro a
        have ha := h a
        unfold amountOf at ha ⊢
        rw [getD_insert]
        split
        · rename_i heq
          subst heq
          omega
        · rename_i hne
          rwa [valuesOf_cons_ne v l hne] at ha)
      refine ⟨m', ?_⟩
      rw [List.foldlM_cons, hcredit]
      exact hm'

/-- Tallies agree if the totals do, all values being positive. -/
theorem tally_eq {l' : List InOut} (h : tally l = .ok m) (h' : tally l' = .ok m')
    (hamount : ∀ a, amountOf a l = amountOf a l') (hpositive : ∀ inOut ∈ l, 0 < inOut.value)
    (hpositive' : ∀ inOut ∈ l', 0 < inOut.value) : m = m' := by
  apply Std.ExtTreeMap.ext_getElem?
  intro a
  rw [foldlM_credit_eq_ok h a, foldlM_credit_eq_ok h' a]
  by_cases hzero : amountOf a l = 0
  · rw [if_pos ((valuesOf_eq_nil_iff hpositive).mpr hzero),
      if_pos ((valuesOf_eq_nil_iff hpositive').mpr ((hamount a).symm.trans hzero))]
  · rw [if_neg (mt (valuesOf_eq_nil_iff hpositive).mp hzero),
      if_neg (mt (valuesOf_eq_nil_iff hpositive').mp (hamount a ▸ hzero)), hamount a]

theorem tally_of_le (h : ∀ a, amountOf a l ≤ u64Max) : ∃ m, tally l = .ok m := by
  apply foldlM_credit_of_le
  intro a
  rw [Std.ExtTreeMap.getD_empty, Nat.zero_add]
  exact h a

end Tally

/-! ## The selectors -/

section Selectors

variable {targetValue upperBoundDelta count : Nat} {utxos selected : List Nat}

/-- A selection in a range is in the range, by the result about the search. -/
theorem inRange_of_utxoSelectInRange
    (h : utxoSelectInRange targetValue upperBoundDelta count utxos = .ok (some selected)) :
    InRange targetValue upperBoundDelta count utxos selected := by
  obtain ⟨s, hs, -⟩ := except_bind_eq_ok.mp h
  obtain ⟨hsum, hfits⟩ := fits_of_searchInRange hs
  obtain ⟨s', heq, hinv, -⟩ := searchInRange_spec count hsum hfits
  cases hs.symm.trans heq
  rw [utxoSelectInRange_eq hs hinv, Except.ok.injEq] at h
  obtain ⟨best, hbest, rfl⟩ := Option.map_eq_some_iff.mp h
  exact (hinv.best best hbest).solution.inRange

/-- Whatever the sums, the search does not underflow: it stops at an overflow before. -/
theorem utxoSelectInRange_avoids_underflow (targetValue upperBoundDelta count : Nat) (utxos : List Nat) :
    Avoids .underflow (utxoSelectInRange targetValue upperBoundDelta count utxos) := by
  by_cases hfits : targetValue + upperBoundDelta ≤ u64Max
  · by_cases hsum : utxos.sum ≤ u64Max
    · obtain ⟨s, heq, hinv, -⟩ := searchInRange_spec count hsum hfits
      rw [utxoSelectInRange_eq heq hinv]
      exact avoids_ok _ _
    · have hsum' : ¬ (sortedUtxos utxos).sum ≤ u64Max := by rwa [sum_sortedUtxos]
      unfold utxoSelectInRange searchInRange
      rw [add_of_le hfits]
      dsimp only [bind, Except.bind]
      cases heq : sum (sortedUtxos utxos) with
      | error fault =>
          intro h
          cases h
          exact sum_avoids_underflow _ heq
      | ok availableValue => exact absurd (sum_eq_ok.mp heq).1 hsum'
  · unfold utxoSelectInRange searchInRange
    cases heq : add targetValue upperBoundDelta with
    | error fault =>
        intro h
        cases h
        exact add_avoids_underflow _ _ heq
    | ok upperBound => exact absurd (add_eq_ok.mp heq).1 hfits

/-- The loop takes outputs in their order. -/
theorem basicLoop_eq_ok {start value : Nat} (h : basicLoop targetValue start utxos = .ok (value, selected)) :
    selected.Sublist utxos ∧ value = start + selected.sum := by
  induction utxos generalizing start value selected with
  | nil =>
      cases h
      exact ⟨List.Sublist.refl _, rfl⟩
  | cons utxo utxos ih =>
      obtain ⟨next, hnext, h⟩ := except_bind_eq_ok.mp h
      obtain ⟨-, rfl⟩ := add_eq_ok.mp hnext
      dsimp only at h
      split at h
      · cases h
        refine ⟨List.cons_sublist_cons.mpr (List.nil_sublist _), ?_⟩
        rw [List.sum_singleton]
      · obtain ⟨⟨value', selected'⟩, hloop, h⟩ := except_bind_eq_ok.mp h
        cases h
        obtain ⟨hsublist, rfl⟩ := ih hloop
        refine ⟨List.cons_sublist_cons.mpr hsublist, ?_⟩
        rw [List.sum_cons, Nat.add_assoc]

/-- A basic selection reaches the amount ... -/
theorem utxoSelectBasic_eq_ok (h : utxoSelectBasic targetValue utxos = .ok (some selected)) :
    selected.Sublist utxos ∧ targetValue ≤ selected.sum := by
  obtain ⟨⟨value, selected'⟩, hloop, h⟩ := except_bind_eq_ok.mp h
  dsimp only at h
  split at h
  · cases h
  · rename_i hge
    cases h
    unfold basicSelection at hloop
    split at hloop
    · obtain ⟨hsublist, rfl⟩ := basicLoop_eq_ok hloop
      refine ⟨hsublist, ?_⟩
      omega
    · cases hloop
      refine ⟨List.nil_sublist _, ?_⟩
      rw [List.sum_nil]
      omega

/-- ... and so does the best one. -/
theorem utxoSelectBest_eq_ok (h : utxoSelectBest targetValue utxos = .ok (some selected)) :
    selected.Subperm utxos ∧ targetValue ≤ selected.sum := by
  obtain ⟨found, hfound, h⟩ := except_bind_eq_ok.mp h
  cases found with
  | none =>
      obtain ⟨hsublist, hge⟩ := utxoSelectBasic_eq_ok h
      exact ⟨hsublist.subperm, hge⟩
  | some selected' =>
      cases h
      have hrange := inRange_of_utxoSelectInRange hfound
      exact ⟨hrange.subperm, hrange.ge⟩

/-- The selectors subtract only where it fits ... -/
theorem basicLoop_avoids_underflow (targetValue start : Nat) (utxos : List Nat) :
    Avoids .underflow (basicLoop targetValue start utxos) := by
  induction utxos generalizing start with
  | nil => exact avoids_ok _ _
  | cons utxo utxos ih =>
      refine (add_avoids_underflow _ _).bind fun next _ => ?_
      split
      · exact avoids_ok _ _
      · exact (ih next).bind fun _ _ => avoids_ok _ _

theorem utxoSelectBest_avoids_underflow (targetValue : Nat) (utxos : List Nat) :
    Avoids .underflow (utxoSelectBest targetValue utxos) := by
  refine (utxoSelectInRange_avoids_underflow _ _ _ _).bind fun found _ => ?_
  cases found with
  | some selected => exact avoids_ok _ _
  | none =>
      show Avoids _ (utxoSelectBasic targetValue utxos)
      refine Avoids.bind ?_ fun _ _ => avoids_ok _ _
      unfold basicSelection
      split
      · exact basicLoop_avoids_underflow _ _ _
      · exact avoids_ok _ _

/-- What `selectInputs` guarantees, of a number of inputs that there are. -/
theorem selectInputs_eq_ok {withChange : Bool} (hcount : 0 < count) (hle : count ≤ utxos.length)
    (h : selectInputs withChange targetValue upperBoundDelta count utxos = .ok (some selected)) :
    selected.Subperm utxos ∧ selected.length = count ∧
      (withChange = true → targetValue < selected.sum) ∧
      (withChange = false → targetValue ≤ selected.sum ∧ selected.sum ≤ targetValue + upperBoundDelta) := by
  unfold selectInputs at h
  cases withChange with
  | false =>
      rw [if_neg (by decide)] at h
      have hrange := inRange_of_utxoSelectInRange h
      refine ⟨hrange.subperm, hrange.count (by omega), ?_, fun _ => ⟨hrange.ge, hrange.le⟩⟩
      intro heq
      cases heq
  | true =>
      rw [if_pos rfl] at h
      obtain ⟨target, htarget, h⟩ := except_bind_eq_ok.mp h
      obtain ⟨-, rfl⟩ := add_eq_ok.mp htarget
      obtain ⟨value, hvalue, h⟩ := except_bind_eq_ok.mp h
      obtain ⟨-, rfl⟩ := sum_eq_ok.mp hvalue
      have h := Except.ok.inj h
      split at h
      · cases h
      · rename_i hge
        cases h
        refine ⟨(List.take_sublist _ _).subperm, ?_, fun _ => by omega, ?_⟩
        · rw [List.length_take, Nat.min_eq_left hle]
        · intro heq
          cases heq

/-- ... with and without change. -/
theorem selectInputs_avoids_underflow (withChange : Bool) (targetValue upperBoundDelta count : Nat)
    (utxos : List Nat) : Avoids .underflow (selectInputs withChange targetValue upperBoundDelta count utxos) := by
  unfold selectInputs
  split
  · refine (add_avoids_underflow _ _).bind fun _ _ => ?_
    exact (sum_avoids_underflow _).bind fun _ _ => avoids_ok _ _
  · exact utxoSelectInRange_avoids_underflow _ _ _ _

end Selectors

/-! ## Checks and faults -/

section Checks

variable {α : Type} {p : Prop} [Decidable p] {err : SelectError} {x : Except Fault α} {a : α}

theorem ensure_eq_ok : ensure p err = .ok () ↔ p := by
  unfold ensure
  rw [ite_eq_ok, and_iff_left rfl]

theorem ensure_of (h : p) : ensure p err = .ok () := if_pos h

theorem lift_eq_ok : lift x = .ok a ↔ x = .ok a := mapError_eq_ok

/-- Lifting a fault lifts its absence. -/
theorem lift_avoids (h : Avoids .underflow x) : Avoids (.fault .underflow) (lift x) :=
  h.mapError fun _ _ => SelectError.fault.inj

/-- A check fails with its own error. -/
theorem ensure_avoids (h : err ≠ .fault .underflow) : Avoids (.fault .underflow) (ensure p err) := by
  unfold ensure
  split
  · exact avoids_ok _ _
  · intro heq
    exact h (Except.error.inj heq)

end Checks

/-! ## `asset_select` -/

section AssetSelect

variable {req : AssetSelectRequest} {res : AssetSelectResult} {a : AssetId}

/-- An asset is left alone, or gets inputs that cover what is to be paid and the change. -/
theorem selectAsset_eq_ok {soFar next : List InOut × List InOut} {target : Nat}
    (h : selectAsset req soFar (a, target) = .ok next) :
    (a = req.feeAsset ∧ next = soFar) ∨
    (a ≠ req.feeAsset ∧ ∃ selected change : List Nat,
      next = (soFar.1 ++ selected.map (InOut.mk a), soFar.2 ++ change.map (InOut.mk a)) ∧
      selected.Subperm (valuesOf a req.walletUtxos) ∧ selected.sum = target + change.sum ∧ ∀ v ∈ change, 0 < v) := by
  unfold selectAsset at h
  split at h
  · rename_i heq
    cases h
    exact .inl ⟨heq, rfl⟩
  · rename_i hne
    obtain ⟨available, -, h⟩ := except_bind_eq_ok.mp h
    obtain ⟨-, -, h⟩ := except_bind_eq_ok.mp h
    obtain ⟨found, hfound, h⟩ := except_bind_eq_ok.mp h
    cases found with
    | none => cases h
    | some selected =>
        obtain ⟨hsubperm, hge⟩ := utxoSelectBest_eq_ok (lift_eq_ok.mp hfound)
        obtain ⟨total, htotal, h⟩ := except_bind_eq_ok.mp h
        obtain ⟨-, rfl⟩ := sum_eq_ok.mp (lift_eq_ok.mp htotal)
        obtain ⟨-, -, h⟩ := except_bind_eq_ok.mp h
        obtain ⟨changeAmount, hchange, h⟩ := except_bind_eq_ok.mp h
        obtain ⟨-, rfl⟩ := sub_eq_ok.mp (lift_eq_ok.mp hchange)
        refine .inr ⟨hne, selected, _, (Except.ok.inj h).symm, hsubperm, ?_, ?_⟩
        · split
          · rw [List.sum_singleton]
            omega
          · rw [List.sum_nil]
            omega
        · intro v hv
          split at hv
          · rename_i hpositive
            rw [List.mem_singleton.mp hv]
            exact hpositive
          · cases hv

/-- What the loop over the amounts has added for an asset that is not the fee asset. -/
structure Covers (req : AssetSelectRequest) (a : AssetId) (target : Nat) (inputs change : List Nat) : Prop where
  subperm : inputs.Subperm (valuesOf a req.walletUtxos)
  balanced : inputs.sum = target + change.sum
  positive : ∀ v ∈ change, 0 < v

/-- The assets that are not in the entries, and the fee asset, are left alone. -/
theorem foldlM_selectAsset_frame {entries : List (AssetId × Nat)} {soFar next : List InOut × List InOut}
    (h : entries.foldlM (selectAsset req) soFar = .ok next)
    (hout : a = req.feeAsset ∨ ∀ entry ∈ entries, entry.1 ≠ a) :
    valuesOf a next.1 = valuesOf a soFar.1 ∧ valuesOf a next.2 = valuesOf a soFar.2 := by
  induction entries generalizing soFar with
  | nil =>
      cases h
      exact ⟨rfl, rfl⟩
  | cons entry entries ih =>
      obtain ⟨b, target⟩ := entry
      rw [List.foldlM_cons] at h
      obtain ⟨mid, hentry, hrest⟩ := except_bind_eq_ok.mp h
      have hih := ih hrest (hout.imp id fun hall entry hentry => hall entry (List.mem_cons_of_mem _ hentry))
      rw [hih.1, hih.2]
      rcases selectAsset_eq_ok hentry with ⟨-, rfl⟩ | ⟨hne, selected, change, rfl, -⟩
      · exact ⟨rfl, rfl⟩
      · have hb : b ≠ a := by
          rcases hout with rfl | hall
          · exact hne
          · exact hall (b, target) List.mem_cons_self
        rw [valuesOf_append, valuesOf_append, valuesOf_map_ne _ hb, valuesOf_map_ne _ hb, List.append_nil,
          List.append_nil]
        exact ⟨rfl, rfl⟩

/-- An asset that is in the entries, once, is covered. -/
theorem foldlM_selectAsset_covers {entries : List (AssetId × Nat)} {soFar next : List InOut × List InOut}
    {target : Nat} (h : entries.foldlM (selectAsset req) soFar = .ok next)
    (hdistinct : entries.Pairwise fun entry entry' => entry.1 ≠ entry'.1) (hmem : (a, target) ∈ entries)
    (hne : a ≠ req.feeAsset) :
    ∃ inputs change, valuesOf a next.1 = valuesOf a soFar.1 ++ inputs ∧
      valuesOf a next.2 = valuesOf a soFar.2 ++ change ∧ Covers req a target inputs change := by
  induction entries generalizing soFar with
  | nil => cases hmem
  | cons entry entries ih =>
      obtain ⟨b, target'⟩ := entry
      obtain ⟨hfirst, hdistinct⟩ := List.pairwise_cons.mp hdistinct
      rw [List.foldlM_cons] at h
      obtain ⟨mid, hentry, hrest⟩ := except_bind_eq_ok.mp h
      rcases List.mem_cons.mp hmem with heq | hmem
      · cases heq
        have hframe := foldlM_selectAsset_frame hrest (a := a) (.inr fun entry hentry heq => hfirst entry hentry heq.symm)
        rcases selectAsset_eq_ok hentry with ⟨heq, -⟩ | ⟨-, selected, change, rfl, hsubperm, hsum, hpositive⟩
        · exact absurd heq hne
        · refine ⟨selected, change, ?_, ?_, hsubperm, hsum, hpositive⟩
          · rw [hframe.1, valuesOf_append, valuesOf_map_self]
          · rw [hframe.2, valuesOf_append, valuesOf_map_self]
      · have hb : b ≠ a := hfirst _ hmem
        obtain ⟨inputs, change, hinputs, hchange, hcovers⟩ := ih hrest hdistinct hmem
        refine ⟨inputs, change, ?_, ?_, hcovers⟩
        · rw [hinputs]
          rcases selectAsset_eq_ok hentry with ⟨-, rfl⟩ | ⟨-, selected, change', rfl, -⟩
          · rfl
          · rw [valuesOf_append, valuesOf_map_ne _ hb, List.append_nil]
        · rw [hchange]
          rcases selectAsset_eq_ok hentry with ⟨-, rfl⟩ | ⟨-, selected, change', rfl, -⟩
          · rfl
          · rw [valuesOf_append, valuesOf_map_ne _ hb, List.append_nil]

/-- Outputs are credited if they are positive. -/
theorem foldlM_creditOutput_eq_ok {outputs : List InOut} {m m' : Amounts}
    (h : outputs.foldlM creditOutput m = .ok m') :
    outputs.foldlM credit m = .ok m' ∧ ∀ output ∈ outputs, 0 < output.value := by
  induction outputs generalizing m with
  | nil =>
      cases h
      refine ⟨rfl, ?_⟩
      intro output houtput
      cases houtput
  | cons output outputs ih =>
      rw [List.foldlM_cons] at h
      obtain ⟨mid, houtput, hrest⟩ := except_bind_eq_ok.mp h
      obtain ⟨⟨⟩, hpositive, hcredit⟩ := except_bind_eq_ok.mp houtput
      obtain ⟨hfold, hall⟩ := ih hrest
      constructor
      · rw [List.foldlM_cons, lift_eq_ok.mp hcredit]
        exact hfold
      · exact List.forall_mem_cons.mpr ⟨ensure_eq_ok.mp hpositive, hall⟩

/-- What `asset_select` guarantees. -/
structure AssetSelected (req : AssetSelectRequest) (res : AssetSelectResult) : Prop where
  userOutputs : res.userOutputs = req.userOutputs
  amounts : ∀ a, res.userOutputAmounts.getD a 0 = amountOf a req.userOutputs
  outputsPositive : ∀ output ∈ req.userOutputs, 0 < output.value
  feeInputs : valuesOf req.feeAsset res.assetInputs = []
  feeChange : valuesOf req.feeAsset res.changeOutputs = []
  covers : ∀ a, a ≠ req.feeAsset →
    Covers req a (amountOf a req.userOutputs) (valuesOf a res.assetInputs) (valuesOf a res.changeOutputs)

theorem assetSelect_eq_ok (h : assetSelect req = .ok res) : AssetSelected req res := by
  obtain ⟨-, -, h⟩ := except_bind_eq_ok.mp h
  obtain ⟨amounts, hamounts, h⟩ := except_bind_eq_ok.mp h
  obtain ⟨⟨inputs, change⟩, hfold, h⟩ := except_bind_eq_ok.mp h
  cases h
  obtain ⟨hcredit, hpositive⟩ := foldlM_creditOutput_eq_ok hamounts
  -- the map has the assets of the outputs, each with its sum and once
  have hlookup : ∀ a, amounts[a]? = if valuesOf a req.userOutputs = [] then none
      else some (amountOf a req.userOutputs) := by
    intro a
    rw [foldlM_credit_eq_ok hcredit a, Std.ExtTreeMap.getElem?_empty, Std.ExtTreeMap.getD_empty, Nat.zero_add]
  have hdistinct : amounts.toList.Pairwise fun entry entry' => entry.1 ≠ entry'.1 := by
    refine Std.ExtTreeMap.distinct_keys_toList.imp ?_
    intro entry entry' hne heq
    exact hne (Std.LawfulEqCmp.compare_eq_iff_eq.mpr heq)
  have hfee := foldlM_selectAsset_frame hfold (a := req.feeAsset) (.inl rfl)
  refine ⟨rfl, ?_, hpositive, hfee.1, hfee.2, ?_⟩
  · intro a
    rw [Std.ExtTreeMap.getD_eq_getD_getElem?, hlookup a]
    split
    · rename_i hnil
      unfold amountOf
      rw [hnil]
      rfl
    · rfl
  · intro a hne
    dsimp only
    by_cases hnil : valuesOf a req.userOutputs = []
    · -- an asset without an output is not selected
      have hframe := foldlM_selectAsset_frame hfold (a := a) (by
        right
        rintro ⟨b, target⟩ hentry rfl
        have hsome := Std.ExtTreeMap.mem_toList_iff_getElem?_eq_some.mp hentry
        rw [hlookup, if_pos hnil] at hsome
        cases hsome)
      have hinputs : valuesOf a inputs = [] := hframe.1
      have hchange : valuesOf a change = [] := hframe.2
      rw [hinputs, hchange]
      unfold amountOf
      rw [hnil]
      refine ⟨List.nil_subperm, rfl, ?_⟩
      intro v hv
      cases hv
    · have hmem : (a, amountOf a req.userOutputs) ∈ amounts.toList := by
        rw [Std.ExtTreeMap.mem_toList_iff_getElem?_eq_some, hlookup, if_neg hnil]
      obtain ⟨inputs', change', hinputs, hchange, hcovers⟩ := foldlM_selectAsset_covers hfold hdistinct hmem hne
      have hinputs : valuesOf a inputs = inputs' := hinputs
      have hchange : valuesOf a change = change' := hchange
      rw [hinputs, hchange]
      exact hcovers

/-- The selection of the assets does not underflow: each of them reaches its amount. -/
theorem assetSelect_avoids_underflow (req : AssetSelectRequest) : Avoids (.fault .underflow) (assetSelect req) := by
  refine Avoids.bind ?_ fun _ _ => Avoids.bind ?_ fun amounts _ => Avoids.bind ?_ fun _ _ => avoids_ok _ _
  · induction req.walletUtxos with
    | nil => exact avoids_ok _ _
    | cons input inputs ih =>
        refine Avoids.bind (ensure_avoids ?_) fun _ _ => ih
        intro heq
        cases heq
  · refine avoids_foldlM (fun amounts output _ => ?_) _
    refine Avoids.bind (ensure_avoids ?_) fun _ _ => lift_avoids ?_
    · intro heq
      cases heq
    · exact (add_avoids_underflow _ _).bind fun _ _ => avoids_ok _ _
  · refine avoids_foldlM (fun soFar entry _ => ?_) _
    unfold selectAsset
    split
    · exact avoids_ok _ _
    · refine (lift_avoids (sum_avoids_underflow _)).bind fun available _ => ?_
      refine Avoids.bind (ensure_avoids ?_) fun _ _ => ?_
      · intro heq
        cases heq
      · refine (lift_avoids (utxoSelectBest_avoids_underflow _ _)).bind fun found hfound => ?_
        cases found with
        | none =>
            intro heq
            cases heq
        | some selected =>
            refine (lift_avoids (sum_avoids_underflow _)).bind fun total _ => ?_
            refine Avoids.bind (ensure_avoids ?_) fun _ hge => ?_
            · intro heq
              cases heq
            · refine (lift_avoids (sub_avoids_underflow ?_)).bind fun _ _ => avoids_ok _ _
              exact ensure_eq_ok.mp hge

end AssetSelect

/-! ## A candidate -/

section Candidate

variable {req : UtxoSelectRequest} {asset : AssetSelectResult} {feeUtxos serverUtxos : List Nat}
  {res : UtxoSelectResult}

/-- What is left of the inputs after the change is the target, or more by at most the delta. -/
theorem changeOf_eq_ok {withChange : Bool} {targetValue upperBoundDelta input change : Nat}
    (hmore : withChange = true → targetValue < input)
    (hrange : withChange = false → targetValue ≤ input ∧ input ≤ targetValue + upperBoundDelta)
    (h : changeOf withChange input targetValue = .ok change) :
    change ≤ input ∧ targetValue ≤ input - change ∧ input - change ≤ targetValue + upperBoundDelta ∧
      ∀ a, ∃ values : List Nat, (if withChange then some (InOut.mk a change) else none).toList =
        values.map (InOut.mk a) ∧ values.sum = change ∧ ∀ v ∈ values, 0 < v := by
  unfold changeOf at h
  cases withChange with
  | false =>
      rw [if_neg (by decide)] at h
      cases h
      obtain ⟨hge, hle⟩ := hrange rfl
      refine ⟨Nat.zero_le _, hge, hle, ?_⟩
      intro a
      refine ⟨[], rfl, rfl, ?_⟩
      intro v hv
      cases hv
  | true =>
      rw [if_pos rfl] at h
      obtain ⟨-, rfl⟩ := sub_eq_ok.mp h
      have hlt := hmore rfl
      refine ⟨by omega, by omega, by omega, ?_⟩
      intro a
      refine ⟨[input - targetValue], rfl, List.sum_singleton, ?_⟩
      intro v hv
      rw [List.mem_singleton.mp hv]
      omega

theorem isSome_ite {α : Type} (b : Bool) (x : α) : (if b then some x else none).isSome = b := by
  cases b with
  | false => rfl
  | true => rfl

/-- One side of a selection: its inputs and its change are of one asset, and what is left is `spent`. -/
structure Spends (a : AssetId) (utxos : List Nat) (inputs change : List InOut) (spent : Nat) : Prop where
  taken : ∃ values : List Nat, inputs = values.map (InOut.mk a) ∧ values.Subperm utxos
  returned : ∃ values : List Nat, change = values.map (InOut.mk a) ∧ ∀ v ∈ values, 0 < v
  balanced : amountOf a inputs = spent + amountOf a change

def minServerFee (req : UtxoSelectRequest) (res : UtxoSelectResult) : Nat :=
  req.price.scaled res.networkFee.value + req.fixedFee

def feeDelta : Nat := weightToFee WEIGHT_VOUT_NESTED MIN_FEE_RATE

/-- What a candidate guarantees. -/
structure Selected (req : UtxoSelectRequest) (asset : AssetSelectResult) (feeUtxos serverUtxos : List Nat)
    (res : UtxoSelectResult) : Prop where
  userInputs : res.userInputs = asset.assetInputs
  userOutputs : res.userOutputs = asset.userOutputs
  changeOutputs : res.changeOutputs = asset.changeOutputs
  server : Spends req.policyAsset serverUtxos res.serverInputs res.serverChange.toList res.networkFee.value
  client : Spends req.feeAsset feeUtxos res.clientInputs res.feeChange.toList
    (asset.userOutputAmounts.getD req.feeAsset 0 + res.serverFee.value)
  networkFeeAsset : res.networkFee.assetId = req.policyAsset
  serverFeeAsset : res.serverFee.assetId = req.feeAsset
  networkFee_ge : res.minNetworkFee ≤ res.networkFee.value
  networkFee_le : res.networkFee.value ≤ res.minNetworkFee + feeDelta
  serverFee_ge : minServerFee req res ≤ res.serverFee.value
  serverFee_le : res.serverFee.value ≤ minServerFee req res + req.price.scaled feeDelta
  fits : minServerFee req res ≤ u64Max

theorem selectCandidate_eq_ok {withFeeChange withServerChange : Bool} {serverInputCount feeInputCount : Nat}
    (hserverCount : 0 < serverInputCount ∧ serverInputCount ≤ serverUtxos.length)
    (hfeeCount : 0 < feeInputCount ∧ feeInputCount ≤ feeUtxos.length)
    (h : selectCandidate req asset feeUtxos serverUtxos withFeeChange withServerChange serverInputCount
      feeInputCount = .ok (some res)) : Selected req asset feeUtxos serverUtxos res := by
  unfold selectCandidate at h
  split at h
  · cases h
  · dsimp only at h
    obtain ⟨found, hfound, h⟩ := except_bind_eq_ok.mp h
    cases found with
    | none => cases h
    | some serverInputs =>
        obtain ⟨hserverSubperm, hserverLength, hserverMore, hserverRange⟩ :=
          selectInputs_eq_ok hserverCount.1 hserverCount.2 (lift_eq_ok.mp hfound)
        obtain ⟨serverInput, hserverInput, h⟩ := except_bind_eq_ok.mp h
        obtain ⟨-, rfl⟩ := sum_eq_ok.mp (lift_eq_ok.mp hserverInput)
        obtain ⟨serverChange, hserverChange, h⟩ := except_bind_eq_ok.mp h
        obtain ⟨hserverLe, hnetworkGe, hnetworkLe, hserverValues⟩ :=
          changeOf_eq_ok hserverMore hserverRange (lift_eq_ok.mp hserverChange)
        obtain ⟨networkFee, hnetworkFee, h⟩ := except_bind_eq_ok.mp h
        obtain ⟨-, rfl⟩ := sub_eq_ok.mp (lift_eq_ok.mp hnetworkFee)
        obtain ⟨minAssetFee, hminAssetFee, h⟩ := except_bind_eq_ok.mp h
        obtain ⟨hfits, rfl⟩ := add_eq_ok.mp (lift_eq_ok.mp hminAssetFee)
        obtain ⟨feeAssetTarget, htarget, h⟩ := except_bind_eq_ok.mp h
        obtain ⟨-, rfl⟩ := add_eq_ok.mp (lift_eq_ok.mp htarget)
        obtain ⟨found', hfound', h⟩ := except_bind_eq_ok.mp h
        cases found' with
        | none => cases h
        | some feeAssetInputs =>
            obtain ⟨hfeeSubperm, hfeeLength, hfeeMore, hfeeRange⟩ :=
              selectInputs_eq_ok hfeeCount.1 hfeeCount.2 (lift_eq_ok.mp hfound')
            obtain ⟨feeInput, hfeeInput, h⟩ := except_bind_eq_ok.mp h
            obtain ⟨-, rfl⟩ := sum_eq_ok.mp (lift_eq_ok.mp hfeeInput)
            obtain ⟨feeChange, hfeeChange, h⟩ := except_bind_eq_ok.mp h
            obtain ⟨hfeeLe, hkeptGe, hkeptLe, hfeeValues⟩ :=
              changeOf_eq_ok hfeeMore hfeeRange (lift_eq_ok.mp hfeeChange)
            obtain ⟨kept, hkept, h⟩ := except_bind_eq_ok.mp h
            obtain ⟨-, rfl⟩ := sub_eq_ok.mp (lift_eq_ok.mp hkept)
            obtain ⟨serverFee, hserverFee, h⟩ := except_bind_eq_ok.mp h
            obtain ⟨-, rfl⟩ := sub_eq_ok.mp (lift_eq_ok.mp hserverFee)
            cases h
            obtain ⟨serverValues, hserverEq, hserverSum, hserverPositive⟩ := hserverValues req.policyAsset
            obtain ⟨feeValues, hfeeEq, hfeeSum, hfeePositive⟩ := hfeeValues req.feeAsset
            -- the validation counts the inputs and the outputs of the result, and finds the same numbers
            have hmin : TxFee.fee ⟨serverInputCount, asset.assetInputs.length + feeInputCount,
                  asset.userOutputs.length + asset.changeOutputs.length + withFeeChange.toNat +
                    withServerChange.toNat + 1⟩ =
                TxFee.fee ⟨(serverInputs.map (InOut.mk req.policyAsset)).length,
                  asset.assetInputs.length + (feeAssetInputs.map (InOut.mk req.feeAsset)).length,
                  asset.userOutputs.length + asset.changeOutputs.length + 1 +
                    (if withServerChange then some (InOut.mk req.policyAsset serverChange) else none).isSome.toNat +
                    (if withFeeChange then some (InOut.mk req.feeAsset feeChange) else none).isSome.toNat⟩ := by
              rw [List.length_map, List.length_map, hserverLength, hfeeLength, isSome_ite, isSome_ite]
              congr 2
              omega
            refine ⟨rfl, rfl, rfl, ⟨⟨_, rfl, hserverSubperm⟩, ⟨_, hserverEq, hserverPositive⟩, ?_⟩,
              ⟨⟨_, rfl, hfeeSubperm⟩, ⟨_, hfeeEq, hfeePositive⟩, ?_⟩, rfl, rfl, ?_, ?_, ?_, ?_, hfits⟩
            · dsimp only
              rw [hserverEq, amountOf_map_self, amountOf_map_self, hserverSum]
              omega
            · dsimp only
              rw [hfeeEq, amountOf_map_self, amountOf_map_self, hfeeSum]
              omega
            · rw [hmin] at hnetworkGe
              exact hnetworkGe
            · rw [hmin] at hnetworkLe
              exact hnetworkLe
            · unfold minServerFee
              dsimp only
              omega
            · unfold minServerFee feeDelta
              dsimp only
              omega

/-- Change is made of a selection that is worth more than the target. -/
theorem changeOf_avoids_underflow {withChange : Bool} {targetValue upperBoundDelta count : Nat}
    {utxos selected : List Nat} (hcount : 0 < count ∧ count ≤ utxos.length)
    (hselect : lift (selectInputs withChange targetValue upperBoundDelta count utxos) = .ok (some selected)) :
    Avoids .underflow (changeOf withChange selected.sum targetValue) := by
  obtain ⟨-, -, hmore, -⟩ := selectInputs_eq_ok hcount.1 hcount.2 (lift_eq_ok.mp hselect)
  unfold changeOf
  split
  · rename_i hwith
    exact sub_avoids_underflow (hmore hwith).le
  · exact avoids_ok _ _

/-- Nor does a candidate: what is subtracted was selected for. -/
theorem selectCandidate_avoids_underflow (req : UtxoSelectRequest) (asset : AssetSelectResult)
    {feeUtxos serverUtxos : List Nat} (withFeeChange withServerChange : Bool) {serverInputCount feeInputCount : Nat}
    (hserverCount : 0 < serverInputCount ∧ serverInputCount ≤ serverUtxos.length)
    (hfeeCount : 0 < feeInputCount ∧ feeInputCount ≤ feeUtxos.length) :
    Avoids (.fault .underflow) (selectCandidate req asset feeUtxos serverUtxos withFeeChange withServerChange
      serverInputCount feeInputCount) := by
  unfold selectCandidate
  split
  · exact avoids_ok _ _
  · dsimp only
    refine (lift_avoids (selectInputs_avoids_underflow _ _ _ _ _)).bind fun found hfound => ?_
    cases found with
    | none => exact avoids_ok _ _
    | some serverInputs =>
        obtain ⟨-, -, hserverMore, hserverRange⟩ :=
          selectInputs_eq_ok hserverCount.1 hserverCount.2 (lift_eq_ok.mp hfound)
        refine (lift_avoids (sum_avoids_underflow _)).bind fun serverInput hserverInput => ?_
        obtain ⟨-, rfl⟩ := sum_eq_ok.mp (lift_eq_ok.mp hserverInput)
        refine (lift_avoids (changeOf_avoids_underflow hserverCount hfound)).bind fun serverChange hserverChange => ?_
        obtain ⟨hserverLe, -⟩ := changeOf_eq_ok hserverMore hserverRange (lift_eq_ok.mp hserverChange)
        refine (lift_avoids (sub_avoids_underflow hserverLe)).bind fun networkFee _ => ?_
        refine (lift_avoids (add_avoids_underflow _ _)).bind fun minAssetFee _ => ?_
        refine (lift_avoids (add_avoids_underflow _ _)).bind fun feeAssetTarget htarget => ?_
        obtain ⟨-, rfl⟩ := add_eq_ok.mp (lift_eq_ok.mp htarget)
        refine (lift_avoids (selectInputs_avoids_underflow _ _ _ _ _)).bind fun found' hfound' => ?_
        cases found' with
        | none => exact avoids_ok _ _
        | some feeAssetInputs =>
            obtain ⟨-, -, hfeeMore, hfeeRange⟩ := selectInputs_eq_ok hfeeCount.1 hfeeCount.2 (lift_eq_ok.mp hfound')
            refine (lift_avoids (sum_avoids_underflow _)).bind fun feeInput hfeeInput => ?_
            obtain ⟨-, rfl⟩ := sum_eq_ok.mp (lift_eq_ok.mp hfeeInput)
            refine (lift_avoids (changeOf_avoids_underflow hfeeCount hfound')).bind fun feeChange hfeeChange => ?_
            obtain ⟨hfeeLe, hkept, -⟩ := changeOf_eq_ok hfeeMore hfeeRange (lift_eq_ok.mp hfeeChange)
            refine (lift_avoids (sub_avoids_underflow hfeeLe)).bind fun kept heq => ?_
            obtain ⟨-, rfl⟩ := sub_eq_ok.mp (lift_eq_ok.mp heq)
            refine (lift_avoids (sub_avoids_underflow ?_)).bind fun _ _ => avoids_ok _ _
            omega

/-- A candidate has an input of each kind, and no more than there are. -/
theorem mem_candidates {candidate : Bool × Bool × Nat × Nat} (h : candidate ∈ candidates feeUtxos serverUtxos) :
    (0 < candidate.2.2.1 ∧ candidate.2.2.1 ≤ serverUtxos.length) ∧
      (0 < candidate.2.2.2 ∧ candidate.2.2.2 ≤ feeUtxos.length) := by
  unfold candidates at h
  simp only [List.bind_eq_flatMap, List.pure_def, List.mem_flatMap, List.mem_range'_1, List.mem_singleton] at h
  obtain ⟨withFeeChange, -, withServerChange, -, serverInputCount, hserver, feeInputCount, hfee, rfl⟩ := h
  dsimp only
  omega

/-- The best selection is what some candidate came to. -/
theorem foldlM_tryCandidate_eq_ok {l : List (Bool × Bool × Nat × Nat)} {best best' : Option UtxoSelectResult}
    (h : l.foldlM (tryCandidate req asset feeUtxos serverUtxos) best = .ok best')
    (hl : ∀ candidate ∈ l, candidate ∈ candidates feeUtxos serverUtxos)
    (hbest : ∀ res, best = some res → Selected req asset feeUtxos serverUtxos res) :
    ∀ res, best' = some res → Selected req asset feeUtxos serverUtxos res := by
  induction l generalizing best with
  | nil =>
      cases h
      exact hbest
  | cons candidate l ih =>
      rw [List.foldlM_cons] at h
      obtain ⟨mid, hmid, hrest⟩ := except_bind_eq_ok.mp h
      refine ih hrest (fun candidate' hmem => hl candidate' (List.mem_cons_of_mem _ hmem)) ?_
      obtain ⟨found, hfound, hmid⟩ := except_bind_eq_ok.mp hmid
      cases found with
      | none =>
          cases hmid
          exact hbest
      | some selection =>
          cases hmid
          obtain ⟨hserverCount, hfeeCount⟩ := mem_candidates (hl candidate List.mem_cons_self)
          have hselected := selectCandidate_eq_ok hserverCount hfeeCount hfound
          intro res hres
          unfold better at hres
          split at hres
          · cases hres
            exact hselected
          · rename_i previous
            split at hres
            · cases hres
              exact hselected
            · exact hbest res hres

end Candidate

/-! ## The fees -/

/-- A larger transaction does not pay less. -/
theorem weightToFee_mono {weight weight' : Nat} (h : weight ≤ weight') :
    weightToFee weight MIN_FEE_RATE ≤ weightToFee weight' MIN_FEE_RATE := by
  unfold weightToFee vsizeToFee
  apply Int.toNat_le_toNat
  apply Int.ceil_le_ceil
  apply mul_le_mul_of_nonneg_right
  · unfold weightToVsize
    exact_mod_cast Nat.div_le_div_right (by omega : weight + 3 ≤ weight' + 3)
  · unfold MIN_FEE_RATE
    norm_num

theorem feeDelta_pos : 0 < feeDelta := by decide +kernel

/-- A transaction with an output costs at least what an output costs. -/
theorem feeDelta_le_minNetworkFee (res : UtxoSelectResult) : feeDelta ≤ res.minNetworkFee := by
  apply weightToFee_mono
  unfold TxFee.txWeight WEIGHT_VOUT_NESTED
  dsimp only
  omega

/-! ## The result -/

section Result

variable {req : UtxoSelectRequest} {asset : AssetSelectResult} {res : UtxoSelectResult}

/-- What a request is checked for. -/
structure Wellformed (req : UtxoSelectRequest) : Prop where
  assets : req.feeAsset ≠ req.policyAsset
  fixedFee : 0 < req.fixedFee
  wallet : ∀ utxo ∈ req.walletUtxos, 0 < utxo.value
  server : ∀ utxo ∈ req.serverUtxos, utxo.assetId = req.policyAsset ∧ 0 < utxo.value

/-- A selection, with what each part of it guarantees. -/
structure Sound (req : UtxoSelectRequest) (asset : AssetSelectResult) (res : UtxoSelectResult) : Prop where
  wellformed : Wellformed req
  assets : AssetSelected ⟨req.feeAsset, req.walletUtxos, req.userOutputs⟩ asset
  selected : Selected req asset (valuesOf req.feeAsset req.walletUtxos) (sortedUtxos (req.serverUtxos.map (·.value)))
    res

/-- A selection that is returned is one of the candidates, so it is sound. -/
theorem utxoSelectInner_eq_ok (h : utxoSelectInner req = .ok res) : ∃ asset, Sound req asset res := by
  obtain ⟨⟨⟩, hassets, h⟩ := except_bind_eq_ok.mp h
  obtain ⟨⟨⟩, -, h⟩ := except_bind_eq_ok.mp h
  obtain ⟨⟨⟩, hfixedFee, h⟩ := except_bind_eq_ok.mp h
  obtain ⟨⟨⟩, hwallet, h⟩ := except_bind_eq_ok.mp h
  obtain ⟨⟨⟩, hserver, h⟩ := except_bind_eq_ok.mp h
  obtain ⟨asset, hasset, h⟩ := except_bind_eq_ok.mp h
  obtain ⟨best, hbest, h⟩ := except_bind_eq_ok.mp h
  cases best with
  | none => cases h
  | some selection =>
      cases h
      refine ⟨asset, ⟨ensure_eq_ok.mp hassets, ensure_eq_ok.mp hfixedFee, ensure_eq_ok.mp hwallet,
        ensure_eq_ok.mp hserver⟩, assetSelect_eq_ok hasset, ?_⟩
      refine foldlM_tryCandidate_eq_ok hbest (fun _ hmem => hmem) ?_ res rfl
      intro res hres
      cases hres

/-- The search does not underflow. -/
theorem utxoSelectInner_avoids_underflow (req : UtxoSelectRequest) :
    Avoids (.fault .underflow) (utxoSelectInner req) := by
  have condition_avoids : ∀ {p : Prop} [Decidable p] (text : String),
      Avoids (.fault .underflow) (ensure p (.condition text)) := by
    intro p _ text
    apply ensure_avoids
    intro heq
    cases heq
  refine (condition_avoids _).bind fun _ _ => (condition_avoids _).bind fun _ _ =>
    (condition_avoids _).bind fun _ _ => (condition_avoids _).bind fun _ _ => (condition_avoids _).bind fun _ _ => ?_
  refine (assetSelect_avoids_underflow _).bind fun asset _ => Avoids.bind ?_ fun best _ => ?_
  · refine avoids_foldlM (fun best candidate hmem => ?_) _
    obtain ⟨hserverCount, hfeeCount⟩ := mem_candidates hmem
    refine (selectCandidate_avoids_underflow req asset _ _ hserverCount hfeeCount).bind fun found _ => ?_
    cases found with
    | none => exact avoids_ok _ _
    | some selection => exact avoids_ok _ _
  · cases best with
    | none =>
        intro heq
        cases heq
    | some selection => exact avoids_ok _ _

theorem singleton_eq_map {inOut : InOut} {a : AssetId} (h : inOut.assetId = a) :
    [inOut] = [inOut.value].map (InOut.mk a) := by
  rw [← h]
  rfl

/-- A selection in one asset has nothing of another. -/
theorem Spends.amountOf_ne {a b : AssetId} {utxos : List Nat} {inputs change : List InOut} {spent : Nat}
    (h : Spends b utxos inputs change spent) (hne : b ≠ a) : amountOf a inputs = 0 ∧ amountOf a change = 0 := by
  obtain ⟨values, hvalues, -⟩ := h.taken
  obtain ⟨values', hvalues', -⟩ := h.returned
  rw [hvalues, hvalues', amountOf_map_ne _ hne, amountOf_map_ne _ hne]
  exact ⟨rfl, rfl⟩

/-- What goes in comes out, of every asset. -/
theorem Sound.balanced (h : Sound req asset res) (a : AssetId) : amountOf a res.inputs = amountOf a res.outputs := by
  have hselected := h.selected
  have hasset := h.assets
  have hdistinct := h.wellformed.assets
  have hclient := hselected.client.balanced
  have hserver := hselected.server.balanced
  have houtputs : asset.userOutputs = req.userOutputs := hasset.userOutputs
  have hamounts : asset.userOutputAmounts.getD req.feeAsset 0 = amountOf req.feeAsset req.userOutputs :=
    hasset.amounts _
  rw [hamounts] at hclient
  unfold UtxoSelectResult.inputs UtxoSelectResult.outputs
  rw [amountOf_append, amountOf_append, amountOf_append, amountOf_append, amountOf_append, amountOf_append,
    amountOf_append, hselected.userInputs, hselected.userOutputs, hselected.changeOutputs, houtputs,
    singleton_eq_map hselected.serverFeeAsset, singleton_eq_map hselected.networkFeeAsset]
  by_cases hfee : a = req.feeAsset
  · subst hfee
    have hinputs : amountOf req.feeAsset asset.assetInputs = 0 := congrArg List.sum hasset.feeInputs
    have hchange : amountOf req.feeAsset asset.changeOutputs = 0 := congrArg List.sum hasset.feeChange
    obtain ⟨hserverInputs, hserverChange⟩ := hselected.server.amountOf_ne (Ne.symm hdistinct)
    rw [hinputs, hchange, hserverInputs, hserverChange, hclient, amountOf_map_self,
      amountOf_map_ne _ (Ne.symm hdistinct), List.sum_singleton]
    omega
  · have hcovers : amountOf a asset.assetInputs = amountOf a req.userOutputs + amountOf a asset.changeOutputs :=
      (hasset.covers a hfee).balanced
    obtain ⟨hclientInputs, hclientChange⟩ := hselected.client.amountOf_ne (Ne.symm hfee)
    rw [hclientInputs, hclientChange, hcovers, amountOf_map_ne [res.serverFee.value] (Ne.symm hfee)]
    by_cases hpolicy : a = req.policyAsset
    · subst hpolicy
      rw [hserver, amountOf_map_self, List.sum_singleton]
      omega
    · obtain ⟨hserverInputs, hserverChange⟩ := hselected.server.amountOf_ne (Ne.symm hpolicy)
      rw [hserverInputs, hserverChange, amountOf_map_ne _ (Ne.symm hpolicy)]

/-- The inputs are coins that there are. -/
theorem Sound.subperm (h : Sound req asset res) (a : AssetId) :
    (valuesOf a (res.userInputs ++ res.clientInputs)).Subperm (valuesOf a req.walletUtxos) ∧
      (valuesOf a res.serverInputs).Subperm (valuesOf a req.serverUtxos) := by
  have hselected := h.selected
  have hasset := h.assets
  obtain ⟨clientValues, hclient, hclientSubperm⟩ := hselected.client.taken
  obtain ⟨serverValues, hserver, hserverSubperm⟩ := hselected.server.taken
  rw [valuesOf_append, hselected.userInputs, hclient, hserver]
  constructor
  · by_cases hfee : a = req.feeAsset
    · have hnil : valuesOf a asset.assetInputs = [] := hfee ▸ hasset.feeInputs
      rw [hnil, List.nil_append, ← hfee, valuesOf_map_self, hfee]
      exact hclientSubperm
    · rw [valuesOf_map_ne _ (Ne.symm hfee), List.append_nil]
      exact (hasset.covers a hfee).subperm
  · by_cases hpolicy : a = req.policyAsset
    · have hall : valuesOf a req.serverUtxos = req.serverUtxos.map (·.value) := by
        unfold valuesOf
        rw [List.filter_eq_self.mpr]
        intro utxo hutxo
        rw [decide_eq_true_iff, hpolicy]
        exact (h.wellformed.server utxo hutxo).1
      rw [hall, ← hpolicy, valuesOf_map_self]
      exact (sortedUtxos_perm _).subperm_left.mp hserverSubperm
    · rw [valuesOf_map_ne _ (Ne.symm hpolicy)]
      exact List.nil_subperm

/-- What goes in is positive ... -/
theorem Sound.inputs_pos (h : Sound req asset res) : ∀ inOut ∈ res.inputs, 0 < inOut.value := by
  rintro ⟨a, v⟩ hmem
  obtain ⟨hwallet, hserver⟩ := h.subperm a
  unfold UtxoSelectResult.inputs at hmem
  rcases List.mem_append.mp hmem with hmem | hmem
  · exact h.wellformed.wallet ⟨a, v⟩ (mem_valuesOf.mp (hwallet.subset (mem_valuesOf.mpr hmem)))
  · exact (h.wellformed.server ⟨a, v⟩ (mem_valuesOf.mp (hserver.subset (mem_valuesOf.mpr hmem)))).2

/-- ... and so is the change ... -/
theorem Spends.change_pos {a : AssetId} {utxos : List Nat} {inputs change : List InOut} {spent : Nat}
    (h : Spends a utxos inputs change spent) : ∀ inOut ∈ change, 0 < inOut.value := by
  obtain ⟨values, rfl, hpositive⟩ := h.returned
  intro inOut hmem
  obtain ⟨v, hv, rfl⟩ := List.mem_map.mp hmem
  exact hpositive v hv

/-- ... and everything that comes out. -/
theorem Sound.outputs_pos (h : Sound req asset res) : ∀ inOut ∈ res.outputs, 0 < inOut.value := by
  have hselected := h.selected
  have hasset := h.assets
  have hfixedFee := h.wellformed.fixedFee
  have hserverFee := hselected.serverFee_ge
  have hnetworkFee := hselected.networkFee_ge
  have hdelta := feeDelta_le_minNetworkFee res
  have hpositive := feeDelta_pos
  rintro ⟨a, v⟩ hmem
  unfold UtxoSelectResult.outputs at hmem
  rw [List.mem_append, List.mem_append, List.mem_append, List.mem_append, List.mem_append, List.mem_singleton,
    List.mem_singleton, hselected.userOutputs, hselected.changeOutputs, hasset.userOutputs] at hmem
  rcases hmem with ((((hmem | hmem) | hmem) | hmem) | hmem) | hmem
  · exact hasset.outputsPositive _ hmem
  · have hv := mem_valuesOf.mpr hmem
    by_cases hfee : a = req.feeAsset
    · have hnil : valuesOf a asset.changeOutputs = [] := hfee ▸ hasset.feeChange
      rw [hnil] at hv
      cases hv
    · exact (hasset.covers a hfee).positive v hv
  · rw [hmem]
    unfold minServerFee at hserverFee
    omega
  · exact hselected.server.change_pos _ hmem
  · exact hselected.client.change_pos _ hmem
  · rw [hmem]
    omega

/-- The network fee is at least what the size asks for, and at most twice that ... -/
theorem Sound.networkFee (h : Sound req asset res) :
    res.minNetworkFee ≤ res.networkFee.value ∧ res.networkFee.value ≤ 2 * res.minNetworkFee := by
  have hge := h.selected.networkFee_ge
  have hle := h.selected.networkFee_le
  have hdelta := feeDelta_le_minNetworkFee res
  omega

/-- ... and so is the fee of the server. -/
theorem Sound.serverFee (h : Sound req asset res) :
    minServerFee req res ≤ res.serverFee.value ∧ res.serverFee.value ≤ 2 * minServerFee req res := by
  have hge := h.selected.serverFee_ge
  have hle := h.selected.serverFee_le
  -- the price of an output is at most that of the whole network fee
  have hscaled : req.price.scaled feeDelta ≤ req.price.scaled res.networkFee.value :=
    req.price.monotone ((feeDelta_le_minNetworkFee res).trans h.selected.networkFee_ge)
  have hmin : req.price.scaled res.networkFee.value ≤ minServerFee req res := Nat.le_add_right _ _
  omega

theorem Sound.validateSelection (h : Sound req asset res)
    (hsums : ∀ a, amountOf a req.walletUtxos + amountOf a req.serverUtxos ≤ u64Max)
    (hnetworkFee : 2 * res.minNetworkFee ≤ u64Max) (hserverFee : 2 * minServerFee req res ≤ u64Max) :
    validateSelection req res = .ok () := by
  have hfits : ∀ a, amountOf a res.inputs ≤ u64Max := by
    intro a
    obtain ⟨⟨wallet, hwalletPerm, hwallet⟩, ⟨server, hserverPerm, hserver⟩⟩ := h.subperm a
    have hwalletLe : amountOf a (res.userInputs ++ res.clientInputs) ≤ amountOf a req.walletUtxos := by
      unfold amountOf
      rw [← hwalletPerm.sum_eq]
      exact hwallet.sum_le_sum fun _ _ => Nat.zero_le _
    have hserverLe : amountOf a res.serverInputs ≤ amountOf a req.serverUtxos := by
      unfold amountOf
      rw [← hserverPerm.sum_eq]
      exact hserver.sum_le_sum fun _ _ => Nat.zero_le _
    have ha := hsums a
    unfold UtxoSelectResult.inputs
    rw [amountOf_append]
    omega
  obtain ⟨inputs, hinputs⟩ := tally_of_le hfits
  obtain ⟨outputs, houtputs⟩ := tally_of_le (l := res.outputs) fun a => h.balanced a ▸ hfits a
  have heq : inputs = outputs := tally_eq hinputs houtputs h.balanced h.inputs_pos h.outputs_pos
  obtain ⟨hnetworkGe, hnetworkLe⟩ := h.networkFee
  obtain ⟨hserverGe, hserverLe⟩ := h.serverFee
  have hmin : add (req.price.scaled res.networkFee.value) req.fixedFee = .ok (minServerFee req res) :=
    add_of_le h.selected.fits
  unfold Payjoin.validateSelection
  rw [hinputs, houtputs, hmin, mul_of_le hnetworkFee]
  dsimp only [lift, Except.mapError, bind, Except.bind]
  rw [ensure_of heq, ensure_of hnetworkGe, mul_of_le hserverFee]
  dsimp only
  rw [ensure_of hnetworkLe]
  dsimp only
  rw [ensure_of hserverGe]
  exact ensure_of hserverLe

/-- A selection balances, keeps both fees within twice their minimum, takes coins that there are, and passes the
validation; on the way to it nothing underflows. -/
theorem utxoSelectInner_valid (req : UtxoSelectRequest) :
    utxoSelectInner req ≠ .error (.fault .underflow) ∧
    ∀ res, utxoSelectInner req = .ok res →
      (∀ a, amountOf a res.inputs = amountOf a res.outputs) ∧
      (res.minNetworkFee ≤ res.networkFee.value ∧ res.networkFee.value ≤ 2 * res.minNetworkFee) ∧
      (minServerFee req res ≤ res.serverFee.value ∧ res.serverFee.value ≤ 2 * minServerFee req res) ∧
      (∀ a, (valuesOf a (res.userInputs ++ res.clientInputs)).Subperm (valuesOf a req.walletUtxos) ∧
        (valuesOf a res.serverInputs).Subperm (valuesOf a req.serverUtxos)) ∧
      ((∀ a, amountOf a req.walletUtxos + amountOf a req.serverUtxos ≤ u64Max) → 2 * res.minNetworkFee ≤ u64Max →
        2 * minServerFee req res ≤ u64Max → validateSelection req res = .ok ()) := by
  constructor
  · exact utxoSelectInner_avoids_underflow req
  · intro res h
    obtain ⟨asset, hsound⟩ := utxoSelectInner_eq_ok h
    exact ⟨hsound.balanced, hsound.networkFee, hsound.serverFee, hsound.subperm, hsound.validateSelection⟩

/-- A payment of 100, with change for both sides. -/
def payment : UtxoSelectRequest where
  policyAsset := "lbtc"
  feeAsset := "usdt"
  price := Price.ofRat (1 / 2) (by norm_num)
  fixedFee := 10
  walletUtxos := [⟨"usdt", 1000⟩]
  serverUtxos := [⟨"lbtc", 1000⟩]
  userOutputs := [⟨"usdt", 100⟩]

def paymentSelection : UtxoSelectResult where
  userInputs := []
  clientInputs := [⟨"usdt", 1000⟩]
  serverInputs := [⟨"lbtc", 1000⟩]
  userOutputs := [⟨"usdt", 100⟩]
  changeOutputs := []
  serverFee := ⟨"usdt", 34⟩
  serverChange := some ⟨"lbtc", 951⟩
  feeChange := some ⟨"usdt", 866⟩
  networkFee := ⟨"lbtc", 49⟩
  cost := 34

/-- The selection for the payment ... -/
theorem utxoSelectInner_payment : utxoSelectInner payment = .ok paymentSelection := by decide +kernel

/-- ... is valid. -/
theorem utxoSelectInner_valid_payment : validateSelection payment paymentSelection = .ok () := by
  obtain ⟨-, -, -, -, hvalid⟩ := (utxoSelectInner_valid payment).2 paymentSelection utxoSelectInner_payment
  refine hvalid ?_ (by decide +kernel) (by decide +kernel)
  intro a
  by_cases husdt : "usdt" = a
  · subst husdt
    decide +kernel
  · by_cases hlbtc : "lbtc" = a
    · subst hlbtc
      decide +kernel
    · unfold amountOf payment
      rw [valuesOf_cons_ne _ _ husdt, valuesOf_cons_ne _ _ hlbtc]
      exact Nat.zero_le _

end Result

end BreezLiquid.Payjoin
