/-
# BreezLiquid.Payjoin.Selection — choosing the inputs and the outputs of a payjoin.

The assets that the user pays with, other than the fee asset, are selected one by one (`asset_select`). For the fee asset
and for the coins of the server, `utxo_select_inner` goes through the numbers of inputs, with and without change, and
keeps the cheapest selection. `validate_selection` checks the result on its own terms: what goes in comes out, and the
two fees are at least what they have to be and at most twice that.

The price is a floating-point number. What the code does with it is to scale amounts, so it stands here for that map,
of which nothing but that it is monotone is known.

The definitions follow the calls from the bottom up: the fee of a transaction with so many inputs and outputs, sums of
amounts by asset, `asset_select`, one candidate of the search, the search over all candidates, the validation.

Sums and differences of amounts are the operations of `BreezLiquid.Lib.Checked`. Where the 64-bit operation overflows or
underflows they stop with a fault, and a fault ends the whole search. It is an error of its own beside those the code
returns, so a result about returned selections, and one about faults, can be stated on the same definition.
-/
import Std.Data.ExtTreeMap
import BreezLiquid.Model.Types
import BreezLiquid.Payjoin.UtxoSelect

namespace BreezLiquid.Payjoin

open Checked

/-! ## Network fees -/

/-- The fee rate of every payjoin, in sat/vB. -/
def MIN_FEE_RATE : ℚ := 1 / 10

/-- The weights of `network_fee.rs`: the fixed part of a transaction ... -/
def WEIGHT_FIXED : Nat := 222

/-- ... an input of the server ... -/
def WEIGHT_VIN_SINGLE_SIG_NATIVE : Nat := 275

/-- ... an input of the user ... -/
def WEIGHT_VIN_SINGLE_SIG_NESTED : Nat := 367

/-- ... and an output. -/
def WEIGHT_VOUT_NESTED : Nat := 270

/-- `weight_to_vsize`, rounded up. -/
def weightToVsize (weight : Nat) : Nat := (weight + 3) / 4

/-- `vsize_to_fee`, rounded up. -/
def vsizeToFee (vsize : Nat) (feeRate : ℚ) : Nat := ⌈vsize * feeRate⌉.toNat

def weightToFee (weight : Nat) (feeRate : ℚ) : Nat := vsizeToFee (weightToVsize weight) feeRate

/-- The numbers of inputs and outputs that the network fee depends on. -/
structure TxFee where
  serverInputs : Nat
  userInputs : Nat
  outputs : Nat
  deriving DecidableEq, Repr

def TxFee.txWeight (t : TxFee) : Nat :=
  WEIGHT_FIXED + WEIGHT_VIN_SINGLE_SIG_NATIVE * t.serverInputs + WEIGHT_VIN_SINGLE_SIG_NESTED * t.userInputs +
    WEIGHT_VOUT_NESTED * t.outputs

/-- `TxFee::fee`. -/
def TxFee.fee (t : TxFee) : Nat := weightToFee t.txWeight MIN_FEE_RATE

/-! ## Amounts by asset -/

/-- `InOut`, an input or an output: its asset and its value. -/
structure InOut where
  assetId : AssetId
  value : Nat
  deriving DecidableEq, Repr

/-- `price`, with `(n as f64 * price) as u64` as `scaled n`. -/
structure Price where
  positive : Bool
  scaled : Nat → Nat
  monotone : Monotone scaled

/-- A price that is a number: the map is saturating, as the cast is. -/
def Price.ofRat (price : ℚ) (h : 0 ≤ price) : Price where
  positive := 0 < price
  scaled n := min ⌊n * price⌋.toNat u64Max
  monotone := by
    intro n n' hle
    apply min_le_min_right
    apply Int.toNat_le_toNat
    apply Int.floor_le_floor
    exact mul_le_mul_of_nonneg_right (by exact_mod_cast hle) h

/-- The errors of a selection, each with what its text names. -/
inductive SelectError where
  /-- `ensure!` without a message: the text of the condition. -/
  | condition (text : String)
  | invalidAmount (inOut : InOut)
  | notEnoughUtxos (assetId : AssetId) (required available : Nat)
  | noUtxosSelected
  | belowTarget (totalValue targetValue : Nat)
  | selectionFailed
  | checkFailed (inputs outputs : List (AssetId × Nat))
  | fault (fault : Fault)
  deriving DecidableEq, Repr

/-- `ensure!`. -/
def ensure (p : Prop) [Decidable p] (err : SelectError) : Except SelectError Unit := if p then .ok () else .error err

/-- The arithmetic of the selector panics; here it fails with the fault. -/
def lift {α : Type} (x : Except Fault α) : Except SelectError α := x.mapError .fault

/-- `BTreeMap<AssetId, u64>`. -/
abbrev Amounts : Type := Std.ExtTreeMap AssetId Nat

/-- `*amounts.entry(asset_id).or_default() += value`. -/
def credit (amounts : Amounts) (inOut : InOut) : Except Fault Amounts := do
  let total ← add (amounts.getD inOut.assetId 0) inOut.value
  return amounts.insert inOut.assetId total

/-- The amounts of a list, by asset. -/
def tally (l : List InOut) : Except Fault Amounts := l.foldlM credit ∅

/-- The values of the coins of an asset. -/
def valuesOf (assetId : AssetId) (l : List InOut) : List Nat := (l.filter (·.assetId = assetId)).map (·.value)

/-! ## The other assets -/

/-- `AssetSelectRequest`. -/
structure AssetSelectRequest where
  feeAsset : AssetId
  walletUtxos : List InOut
  userOutputs : List InOut
  deriving DecidableEq, Repr

/-- `AssetSelectResult`, with the amounts that the outputs of the user come to. -/
structure AssetSelectResult where
  assetInputs : List InOut
  userOutputs : List InOut
  changeOutputs : List InOut
  userOutputAmounts : Amounts
  deriving DecidableEq

/-- The body of the loop over the user outputs. -/
def creditOutput (amounts : Amounts) (userOutput : InOut) : Except SelectError Amounts := do
  ensure (0 < userOutput.value) (.invalidAmount userOutput)
  lift (credit amounts userOutput)

/-- The body of the loop over the amounts, with the inputs and the change outputs so far. -/
def selectAsset (req : AssetSelectRequest) (soFar : List InOut × List InOut) (entry : AssetId × Nat) :
    Except SelectError (List InOut × List InOut) :=
  if entry.1 = req.feeAsset then .ok soFar
  else do
    let walletUtxo := valuesOf entry.1 req.walletUtxos
    let available ← lift (sum walletUtxo)
    ensure (entry.2 ≤ available) (.notEnoughUtxos entry.1 entry.2 available)
    match ← lift (utxoSelectBest entry.2 walletUtxo) with
    | none => throw .noUtxosSelected
    | some selected => do
        let totalValue ← lift (sum selected)
        ensure (entry.2 ≤ totalValue) (.belowTarget totalValue entry.2)
        let changeAmount ← lift (sub totalValue entry.2)
        let change := if 0 < changeAmount then [changeAmount] else []
        return (soFar.1 ++ selected.map (InOut.mk entry.1), soFar.2 ++ change.map (InOut.mk entry.1))

/-- `asset_select`: each asset that the user pays with is selected on its own. The amounts are a map, so
this goes in the order of the assets. -/
def assetSelect (req : AssetSelectRequest) : Except SelectError AssetSelectResult := do
  req.walletUtxos.forM fun input => ensure (0 < input.value) (.invalidAmount input)
  let userOutputAmounts ← req.userOutputs.foldlM creditOutput ∅
  let (assetInputs, changeOutputs) ← userOutputAmounts.toList.foldlM (selectAsset req) ([], [])
  return { assetInputs, userOutputs := req.userOutputs, changeOutputs, userOutputAmounts }

/-! ## The fee asset and the coins of the server -/

/-- `UtxoSelectRequest`. -/
structure UtxoSelectRequest where
  policyAsset : AssetId
  feeAsset : AssetId
  price : Price
  fixedFee : Nat
  walletUtxos : List InOut
  serverUtxos : List InOut
  userOutputs : List InOut

/-- `UtxoSelectResult`. -/
structure UtxoSelectResult where
  userInputs : List InOut
  clientInputs : List InOut
  serverInputs : List InOut
  userOutputs : List InOut
  changeOutputs : List InOut
  serverFee : InOut
  serverChange : Option InOut
  feeChange : Option InOut
  networkFee : InOut
  cost : Nat
  deriving DecidableEq, Repr

/-- The inputs for a target, of a number: with change they are worth more than the target, without it they are in the
range. -/
def selectInputs (withChange : Bool) (targetValue upperBoundDelta count : Nat) (utxos : List Nat) :
    Except Fault (Option (List Nat)) :=
  if withChange then do
    let targetValue ← add targetValue 1
    utxoSelectFixed targetValue count utxos
  else utxoSelectInRange targetValue upperBoundDelta count utxos

/-- The change of a selection, none where the selection is made without change. -/
def changeOf (withChange : Bool) (input targetValue : Nat) : Except Fault Nat :=
  if withChange then sub input targetValue else .ok 0

/-- The body of the innermost loop, up to the comparison with the best selection; `none` is `continue`. -/
def selectCandidate (req : UtxoSelectRequest) (asset : AssetSelectResult) (feeUtxos serverUtxos : List Nat)
    (withFeeChange withServerChange : Bool) (serverInputCount feeInputCount : Nat) :
    Except SelectError (Option UtxoSelectResult) :=
  if feeInputCount ≠ feeUtxos.length then .ok none
  else do
    let userInputCount := asset.assetInputs.length + feeInputCount
    let outputCount := asset.userOutputs.length + asset.changeOutputs.length + withFeeChange.toNat +
      withServerChange.toNat + 1
    let minNetworkFee :=
      TxFee.fee { serverInputs := serverInputCount, userInputs := userInputCount, outputs := outputCount }
    let delta := weightToFee WEIGHT_VOUT_NESTED MIN_FEE_RATE
    match ← lift (selectInputs withServerChange minNetworkFee delta serverInputCount serverUtxos) with
    | none => return none
    | some serverInputs => do
        let serverInput ← lift (sum serverInputs)
        let serverChange ← lift (changeOf withServerChange serverInput minNetworkFee)
        let networkFee ← lift (sub serverInput serverChange)
        let minAssetFee ← lift (add (req.price.scaled networkFee) req.fixedFee)
        let userAssetOutput := asset.userOutputAmounts.getD req.feeAsset 0
        let feeAssetTarget ← lift (add userAssetOutput minAssetFee)
        match ← lift (selectInputs withFeeChange feeAssetTarget (req.price.scaled delta) feeInputCount feeUtxos) with
        | none => return none
        | some feeAssetInputs => do
            let feeInput ← lift (sum feeAssetInputs)
            let feeChange ← lift (changeOf withFeeChange feeInput feeAssetTarget)
            let kept ← lift (sub feeInput feeChange)
            let serverFee ← lift (sub kept userAssetOutput)
            return some {
              userInputs := asset.assetInputs
              clientInputs := feeAssetInputs.map (InOut.mk req.feeAsset)
              serverInputs := serverInputs.map (InOut.mk req.policyAsset)
              userOutputs := asset.userOutputs
              changeOutputs := asset.changeOutputs
              serverFee := ⟨req.feeAsset, serverFee⟩
              serverChange := if withServerChange then some ⟨req.policyAsset, serverChange⟩ else none
              feeChange := if withFeeChange then some ⟨req.feeAsset, feeChange⟩ else none
              networkFee := ⟨req.policyAsset, networkFee⟩
              cost := serverFee }

/-- The four loops. -/
def candidates (feeUtxos serverUtxos : List Nat) : List (Bool × Bool × Nat × Nat) := do
  let withFeeChange ← [false, true]
  let withServerChange ← [false, true]
  let serverInputCount ← List.range' 1 serverUtxos.length
  let feeInputCount ← List.range' 1 feeUtxos.length
  return (withFeeChange, withServerChange, serverInputCount, feeInputCount)

/-- A selection replaces the best so far if it costs less. -/
def better (best : Option UtxoSelectResult) (selection : UtxoSelectResult) : Option UtxoSelectResult :=
  match best with
  | none => some selection
  | some best => if selection.cost < best.cost then some selection else some best

/-- One candidate of the search: it replaces the best one so far if it is cheaper. -/
def tryCandidate (req : UtxoSelectRequest) (asset : AssetSelectResult) (feeUtxos serverUtxos : List Nat)
    (best : Option UtxoSelectResult) (candidate : Bool × Bool × Nat × Nat) :
    Except SelectError (Option UtxoSelectResult) := do
  let (withFeeChange, withServerChange, serverInputCount, feeInputCount) := candidate
  match ← selectCandidate req asset feeUtxos serverUtxos withFeeChange withServerChange serverInputCount
      feeInputCount with
  | none => return best
  | some selection => return better best selection

/-- `utxo_select_inner`: the candidates are tried in the order of the nested loops of the source. -/
def utxoSelectInner (req : UtxoSelectRequest) : Except SelectError UtxoSelectResult := do
  ensure (req.feeAsset ≠ req.policyAsset) (.condition "fee_asset != policy_asset")
  ensure (req.price.positive = true) (.condition "price > 0.0")
  ensure (0 < req.fixedFee) (.condition "fixed_fee > 0")
  ensure (∀ utxo ∈ req.walletUtxos, 0 < utxo.value) (.condition "wallet_utxos.iter().all(|utxo| utxo.value > 0)")
  ensure (∀ utxo ∈ req.serverUtxos, utxo.assetId = req.policyAsset ∧ 0 < utxo.value)
    (.condition "server_utxos.iter().all(|utxo| utxo.asset_id == policy_asset && utxo.value > 0)")
  let feeUtxos := valuesOf req.feeAsset req.walletUtxos
  let serverUtxos := sortedUtxos (req.serverUtxos.map (·.value))
  let asset ← assetSelect { feeAsset := req.feeAsset, walletUtxos := req.walletUtxos, userOutputs := req.userOutputs }
  match ← (candidates feeUtxos serverUtxos).foldlM (tryCandidate req asset feeUtxos serverUtxos) none with
  | none => throw .selectionFailed
  | some selection => return selection

/-! ## Validation -/

/-- All inputs of the transaction ... -/
def UtxoSelectResult.inputs (res : UtxoSelectResult) : List InOut :=
  res.userInputs ++ res.clientInputs ++ res.serverInputs

/-- ... and all its outputs, with the network fee, which is an output on Liquid. -/
def UtxoSelectResult.outputs (res : UtxoSelectResult) : List InOut :=
  res.userOutputs ++ res.changeOutputs ++ [res.serverFee] ++ res.serverChange.toList ++ res.feeChange.toList ++
    [res.networkFee]

/-- The network fee of a transaction of this size. -/
def UtxoSelectResult.minNetworkFee (res : UtxoSelectResult) : Nat :=
  TxFee.fee {
    serverInputs := res.serverInputs.length
    userInputs := res.userInputs.length + res.clientInputs.length
    outputs := res.userOutputs.length + res.changeOutputs.length + 1 + res.serverChange.isSome.toNat +
      res.feeChange.isSome.toNat }

/-- `validate_selection`. -/
def validateSelection (req : UtxoSelectRequest) (res : UtxoSelectResult) : Except SelectError Unit := do
  let inputs ← lift (tally res.inputs)
  let outputs ← lift (tally res.outputs)
  ensure (inputs = outputs) (.checkFailed inputs.toList outputs.toList)
  ensure (res.minNetworkFee ≤ res.networkFee.value) (.condition "actual_network_fee >= min_network_fee")
  let maxNetworkFee ← lift (mul 2 res.minNetworkFee)
  ensure (res.networkFee.value ≤ maxNetworkFee) (.condition "actual_network_fee <= 2 * min_network_fee")
  let minServerFee ← lift (add (req.price.scaled res.networkFee.value) req.fixedFee)
  ensure (minServerFee ≤ res.serverFee.value) (.condition "actual_server_fee >= min_server_fee")
  let maxServerFee ← lift (mul 2 minServerFee)
  ensure (res.serverFee.value ≤ maxServerFee) (.condition "actual_server_fee <= 2 * min_server_fee")

/-- `utxo_select`. -/
def utxoSelect (req : UtxoSelectRequest) : Except SelectError UtxoSelectResult := do
  let res ← utxoSelectInner req
  validateSelection req res
  return res

end BreezLiquid.Payjoin
