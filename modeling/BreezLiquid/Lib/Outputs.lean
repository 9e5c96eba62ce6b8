/-
# BreezLiquid.Lib.Outputs — the unspent outputs of a list of transactions.

A `View` says how a type of transactions is read: its id, the outpoints it spends, and its outputs. `Unspent` is
what is left of the outputs that satisfy a test, when the transactions that count have spent theirs. A list that has
exactly these, each once, is unique up to its order.
-/
import Mathlib.Data.List.Nodup

namespace Ledgers

/-- An output of a transaction, by its position. -/
structure OutPoint (κ : Type) where
  txid : κ
  vout : Nat
  deriving DecidableEq, Repr, Inhabited

structure View (τ κ ω : Type) where
  txid : τ → κ
  spends : τ → List (OutPoint κ)
  outputs : τ → List ω

namespace View

variable {τ κ ω : Type} (v : View τ κ ω)

/-- The outputs of a transaction with their outpoints. -/
def outputsOf (tx : τ) : List (OutPoint κ × ω) :=
  (v.outputs tx).zipIdx.map fun o => (⟨v.txid tx, o.2⟩, o.1)

/-- An output that satisfies the test, and that no transaction that counts spends. -/
def Unspent (txs : List τ) (counts : τ → Prop) (test : ω → Prop) (u : OutPoint κ × ω) : Prop :=
  (∃ tx ∈ txs, u ∈ v.outputsOf tx) ∧ test u.2 ∧ ∀ tx ∈ txs, counts tx → u.1 ∉ v.spends tx

/-- The list has exactly the unspent outputs, each once. -/
structure Lists (txs : List τ) (counts : τ → Prop) (test : ω → Prop) (l : List (OutPoint κ × ω)) : Prop where
  nodup : (l.map Prod.fst).Nodup
  mem_iff : ∀ u, u ∈ l ↔ v.Unspent txs counts test u

variable {v}

theorem mem_outputsOf {tx : τ} {u : OutPoint κ × ω} :
    u ∈ v.outputsOf tx ↔ u.1.txid = v.txid tx ∧ (v.outputs tx)[u.1.vout]? = some u.2 := by
  obtain ⟨⟨txid, vout⟩, out⟩ := u
  unfold outputsOf
  rw [List.mem_map]
  constructor
  · rintro ⟨⟨out', vout'⟩, hmem, heq⟩
    cases heq
    exact ⟨rfl, List.mem_zipIdx_iff_getElem?.mp hmem⟩
  · rintro ⟨rfl, hget⟩
    exact ⟨(out, vout), List.mem_zipIdx_iff_getElem?.mpr hget, rfl⟩

theorem exists_outputsOf_of_mem {tx : τ} {out : ω} (h : out ∈ v.outputs tx) :
    ∃ vout, (⟨v.txid tx, vout⟩, out) ∈ v.outputsOf tx := by
  obtain ⟨vout, hget⟩ := List.getElem?_of_mem h
  exact ⟨vout, mem_outputsOf.mpr ⟨rfl, hget⟩⟩

theorem nodup_outputsOf (tx : τ) : ((v.outputsOf tx).map Prod.fst).Nodup := by
  have hmap : (v.outputsOf tx).map Prod.fst =
      (List.range' 0 (v.outputs tx).length).map fun vout => ⟨v.txid tx, vout⟩ := by
    unfold outputsOf
    rw [List.map_map, ← List.zipIdx_map_snd 0 (v.outputs tx), List.map_map]
    rfl
  rw [hmap]
  refine List.Nodup.map ?_ List.nodup_range'
  intro vout vout' heq
  exact congrArg OutPoint.vout heq

/-- Transactions with different ids have different outpoints. -/
theorem nodup_flatMap_outputsOf {txs : List τ} (h : (txs.map v.txid).Nodup) :
    ((txs.flatMap v.outputsOf).map Prod.fst).Nodup := by
  induction txs with
  | nil => exact List.nodup_nil
  | cons tx txs ih =>
      rw [List.map_cons, List.nodup_cons] at h
      rw [List.flatMap_cons, List.map_append, List.nodup_append]
      refine ⟨nodup_outputsOf tx, ih h.2, ?_⟩
      rintro point hpoint point' hpoint' rfl
      obtain ⟨u, hu, rfl⟩ := List.mem_map.mp hpoint
      obtain ⟨u', hu', heq⟩ := List.mem_map.mp hpoint'
      obtain ⟨tx', htx', hu'⟩ := List.mem_flatMap.mp hu'
      have hsame : v.txid tx = v.txid tx' := by
        rw [← (mem_outputsOf.mp hu).1, ← (mem_outputsOf.mp hu').1, heq]
      exact h.1 (List.mem_map.mpr ⟨tx', htx', hsame.symm⟩)

/-- Picking the unspent ones out of all outputs gives an exact list. -/
theorem lists_filter {txs : List τ} {counts : τ → Prop} {test : ω → Prop} {p : OutPoint κ × ω → Bool}
    (h : (txs.map v.txid).Nodup)
    (hp : ∀ u ∈ txs.flatMap v.outputsOf, p u = true ↔
      test u.2 ∧ ∀ tx ∈ txs, counts tx → u.1 ∉ v.spends tx) :
    v.Lists txs counts test ((txs.flatMap v.outputsOf).filter p) where
  nodup := (nodup_flatMap_outputsOf h).sublist (List.filter_sublist.map Prod.fst)
  mem_iff u := by
    rw [List.mem_filter]
    unfold Unspent
    rw [← List.mem_flatMap]
    constructor
    · rintro ⟨hmem, hu⟩
      exact ⟨hmem, (hp u hmem).mp hu⟩
    · rintro ⟨hmem, hu⟩
      exact ⟨hmem, (hp u hmem).mpr hu⟩

/-- All outputs are the unspent ones exactly if each satisfies the test and none is spent. -/
theorem lists_all_iff {txs : List τ} {counts : τ → Prop} {test : ω → Prop} (h : (txs.map v.txid).Nodup) :
    v.Lists txs counts test (txs.flatMap v.outputsOf) ↔
      ∀ u ∈ txs.flatMap v.outputsOf, test u.2 ∧ ∀ tx ∈ txs, counts tx → u.1 ∉ v.spends tx := by
  constructor
  · intro hlists u hmem
    exact ((hlists.mem_iff u).mp hmem).2
  · intro hall
    refine ⟨nodup_flatMap_outputsOf h, ?_⟩
    intro u
    unfold Unspent
    rw [← List.mem_flatMap]
    constructor
    · intro hmem
      exact ⟨hmem, hall u hmem⟩
    · intro hu
      exact hu.1

/-- Two exact lists are the same up to the order. -/
theorem Lists.perm {txs : List τ} {counts : τ → Prop} {test : ω → Prop} {l l' : List (OutPoint κ × ω)}
    (h : v.Lists txs counts test l) (h' : v.Lists txs counts test l') : l.Perm l' := by
  rw [List.perm_ext_iff_of_nodup h.nodup.of_map h'.nodup.of_map]
  intro u
  rw [h.mem_iff, h'.mem_iff]

end View

end Ledgers
