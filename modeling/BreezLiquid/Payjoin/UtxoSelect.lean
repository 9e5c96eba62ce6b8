/-
# BreezLiquid.Payjoin.UtxoSelect — selecting coins by their values.

`utxo_select_in_range` searches for coins whose sum lies between a target and an upper bound, by branch and bound with a
manual stack: the coins are taken from the largest on, and a step back drops the coin that was selected last. The search
ends when the stack is empty, or after a number of iterations. The other selectors take the first coins.
-/
import BreezLiquid.Lib.Checked

namespace BreezLiquid.Payjoin

open Checked

/-- The search stops after so many combinations. -/
def UTXO_SELECTION_ITERATION_LIMIT : Nat := 100000

/-- `utxo_select_fixed`: the first outputs, by their number. -/
def utxoSelectFixed (targetValue targetUtxoCount : Nat) (utxos : List Nat) : Except Fault (Option (List Nat)) := do
  let selectedUtxos := utxos.take targetUtxoCount
  let selectedValue ← sum selectedUtxos
  return if selectedValue < targetValue then none else some selectedUtxos

/-- The loop of `utxo_select_basic`: the value and the coins that are selected, from a value on. -/
def basicLoop (targetValue : Nat) : Nat → List Nat → Except Fault (Nat × List Nat)
  | selectedValue, [] => .ok (selectedValue, [])
  | selectedValue, utxo :: utxos => do
      let selectedValue ← add selectedValue utxo
      if targetValue ≤ selectedValue then return (selectedValue, [utxo])
      else do
        let (selectedValue, selectedUtxos) ← basicLoop targetValue selectedValue utxos
        return (selectedValue, utxo :: selectedUtxos)

/-- The coins before the check; the loop is not entered for a target of zero. -/
def basicSelection (targetValue : Nat) (utxos : List Nat) : Except Fault (Nat × List Nat) :=
  if 0 < targetValue then basicLoop targetValue 0 utxos else .ok (0, [])

/-- `utxo_select_basic`: outputs from the front until the amount is reached. -/
def utxoSelectBasic (targetValue : Nat) (utxos : List Nat) : Except Fault (Option (List Nat)) := do
  let (selectedValue, selectedUtxos) ← basicSelection targetValue utxos
  return if selectedValue < targetValue then none else some selectedUtxos

/-! ## The search -/

/-- What the search is for, and the coins, the largest first. -/
structure RangeQuery where
  utxos : List Nat
  targetValue : Nat
  upperBound : Nat
  targetUtxoCount : Nat
  deriving DecidableEq, Repr

/-- The variables of the loop. The selection is a stack, with the index that was pushed last at its head. -/
structure SearchState where
  iteration : Nat := 0
  index : Nat := 0
  value : Nat := 0
  currentChange : Nat := 0
  bestChange : Nat := u64Max
  indexSelection : List Nat := []
  bestSelection : Option (List Nat) := none
  availableValue : Nat
  deriving DecidableEq, Repr

/-- What an iteration comes to: another one, or a `break`. -/
inductive Iteration where
  | next (s : SearchState)
  | done (s : SearchState)
  deriving DecidableEq, Repr

section Search

variable (q : RangeQuery)

/-- The conditions under which nothing below the selection is of use. -/
def exceeds (s : SearchState) : Except Fault Bool := do
  let reachable ← add s.availableValue s.value
  return reachable < q.targetValue || q.upperBound < s.value || s.bestChange < s.currentChange

/-- No more change than the best selection so far, and of the right size: the given one, or else no larger
than the best. -/
def isBetter (s : SearchState) (currentChange : Nat) : Bool :=
  currentChange ≤ s.bestChange &&
    ((q.targetUtxoCount = 0 && s.bestSelection.all fun best => s.indexSelection.length ≤ best.length) ||
      s.indexSelection.length = q.targetUtxoCount)

/-- The selection has met the target: it is recorded if it is better than the best before. -/
def record (s : SearchState) : Except Fault SearchState := do
  let change ← sub s.value q.targetValue
  let currentChange ← add s.currentChange change
  let s := if isBetter q s currentChange then
      { s with bestSelection := some s.indexSelection, bestChange := currentChange }
    else s
  return { s with currentChange := currentChange - change }

/-- The inner loop of a step back: `index` goes down to the coin that was selected last, and the values on the way are
available again. -/
def unwind (last : Option Nat) : Nat → Nat → Except Fault (Nat × Nat)
  | 0, _ => .error .underflow
  | index + 1, availableValue =>
      if last.all fun last => index ≤ last then .ok (index, availableValue)
      else do
        let utxoValue ← get q.utxos index
        let availableValue ← add availableValue utxoValue
        unwind last index availableValue

/-- The coin that was selected last is left out; without one, the search is over. -/
def stepBack (s : SearchState) : Except Fault Iteration :=
  match s.indexSelection with
  | [] => .ok (.done s)
  | last :: rest => do
      let (index, availableValue) ← unwind q (some last) s.index s.availableValue
      let s := { s with index, availableValue }
      let s ← if index = last then do
          let utxoValue ← get q.utxos index
          pure { s with value := s.value - utxoValue, indexSelection := rest }
        else pure s
      return .next { s with index := s.index + 1, iteration := s.iteration + 1 }

/-- The next coin is selected. -/
def stepForward (s : SearchState) : Except Fault Iteration := do
  let utxoValue ← get q.utxos s.index
  let value ← add s.value utxoValue
  return .next { s with
    indexSelection := s.index :: s.indexSelection
    value
    availableValue := s.availableValue - utxoValue
    index := s.index + 1
    iteration := s.iteration + 1 }

/-- The body of the loop. -/
def step (s : SearchState) : Except Fault Iteration := do
  let cut ← exceeds q s
  let hit := !cut && q.targetValue ≤ s.value
  let s ← if hit then record q s else pure s
  let full := q.targetUtxoCount ≠ 0 && q.targetUtxoCount ≤ s.indexSelection.length
  if cut || hit || full then stepBack q s else stepForward q s

/-- The loop, with a number of iterations left. -/
def search : Nat → SearchState → Except Fault SearchState
  | 0, s => .ok s
  | n + 1, s => do
      match ← step q s with
      | .done s => return s
      | .next s => search n s

end Search

/-- The coins, the largest first. -/
def sortedUtxos (utxos : List Nat) : List Nat := (utxos.mergeSort fun a b => a ≤ b).reverse

/-- The arguments of a search, the outputs sorted. -/
def rangeQuery (targetValue upperBoundDelta targetUtxoCount : Nat) (utxos : List Nat) : RangeQuery where
  utxos := sortedUtxos utxos
  targetValue
  upperBound := targetValue + upperBoundDelta
  targetUtxoCount

/-- The state in which the loop is left; it is not entered if all coins together are worth less than the target. -/
def searchInRange (targetValue upperBoundDelta targetUtxoCount : Nat) (utxos : List Nat) :
    Except Fault SearchState := do
  let _ ← add targetValue upperBoundDelta
  let availableValue ← sum (sortedUtxos utxos)
  let s : SearchState := { availableValue }
  if availableValue < targetValue then return s
  else search (rangeQuery targetValue upperBoundDelta targetUtxoCount utxos) UTXO_SELECTION_ITERATION_LIMIT s

/-- `utxo_select_in_range`. -/
def utxoSelectInRange (targetValue upperBoundDelta targetUtxoCount : Nat) (utxos : List Nat) :
    Except Fault (Option (List Nat)) := do
  let s ← searchInRange targetValue upperBoundDelta targetUtxoCount utxos
  match s.bestSelection with
  | none => return none
  | some best => do
      let selected ← best.reverse.mapM (get (sortedUtxos utxos))
      return some selected

/-- `utxo_select_best`: an exact match if there is one. -/
def utxoSelectBest (targetValue : Nat) (utxos : List Nat) : Except Fault (Option (List Nat)) := do
  match ← utxoSelectInRange targetValue 0 0 utxos with
  | some selected => return some selected
  | none => utxoSelectBasic targetValue utxos

end BreezLiquid.Payjoin
