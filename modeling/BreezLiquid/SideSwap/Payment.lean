/-
# BreezLiquid.SideSwap.Payment — payments that exchange assets.

`pay_sideswap` asks the SideSwap server for a quote, checks its fees and the balance, and starts the swap. The server's
answer to the start names the amounts again. It is this answer that the inputs are selected for and that the PSET of the
server is verified against. So whatever is signed pays what the start says and returns the change. But the start is
never compared with the quote, and the amounts of the quote are what is recorded.

The answers that matter are noted next to the database, and every PSET that is signed with what it was signed for.

The module has three parts.

* The translation. `executeSwap` and `paySideswap` are tasks over a `Ledger`. What they call is the SideSwap server, its
  HTTP endpoint and the wallet, and `Call.Answer` gives each call the type of its answer.
* What holds whatever is answered. `selectInputs_eq` says which coins are taken and `verifyPset_eq_ok` what a PSET pays
  that passes. `swapProtocol` demands both of all that is signed, `swap_sound` goes through the task call by call, and
  `signed_verified` is the result for all runs.
* What is not compared. Given a quote within the approved fees, the server can start the swap with any amounts that the
  coins are enough for, and its PSET is signed (`signed_unbound`). Its answers are fixed in a `Server`, and the run is
  executed call by call.
-/
import Mathlib.Data.Rat.Defs
import Mathlib.Algebra.Order.Ring.Int
import BreezLiquid.Lib.Pool
import BreezLiquid.Persist.WalletTxs

namespace BreezLiquid.SideSwap

open Interleaving

/-! ## Messages -/

/-- `as i64`. -/
def asI64 (n : Nat) : Int := if n < 2 ^ 63 then n else n - 2 ^ 64

/-- `as u64`. -/
def asU64 (i : Int) : Nat := (i % 2 ^ 64).toNat

/-- The request for a quote. Amounts are `i64` in the API of the server. -/
structure SubscribePriceStreamRequest where
  asset : AssetId
  recvAmount : Int
  sendBitcoins : Bool
  deriving DecidableEq, Repr

/-- The quote, or what went wrong. -/
structure SubscribePriceStreamResponse where
  asset : AssetId
  sendAmount : Option Int
  recvAmount : Option Int
  fixedFee : Option Int
  price : Option ℚ
  errorMsg : Option String
  deriving DecidableEq, Repr

/-- The request to start a swap at the quote. -/
structure StartSwapWebRequest where
  asset : AssetId
  price : ℚ
  sendAmount : Int
  recvAmount : Int
  sendBitcoins : Bool
  deriving DecidableEq, Repr

/-- The answer to the start. It names the assets and the amounts once more. -/
structure StartSwapWebResponse where
  orderId : String
  sendAsset : AssetId
  sendAmount : Int
  recvAsset : AssetId
  recvAmount : Int
  uploadUrl : String
  deriving DecidableEq, Repr

/-- The answers of the server that a payment reads. -/
inductive Response where
  | ping
  | subscribePriceStream (res : SubscribePriceStreamResponse)
  | unsubscribePriceStream
  | startSwapWeb (res : StartSwapWebResponse)
  | loginClient
  deriving DecidableEq, Repr

/-- An unspent output of the wallet, unblinded. -/
structure WalletTxOut where
  txid : TxId
  vout : Nat
  isSpent : Bool
  asset : AssetId
  assetBf : String
  value : Nat
  valueBf : String
  deriving DecidableEq, Repr

/-- An input that is offered to the server. -/
structure Utxo where
  txid : TxId
  vout : Nat
  asset : AssetId
  assetBf : String
  value : Nat
  valueBf : String
  deriving DecidableEq, Repr

/-- The inputs and the two addresses, as they are uploaded. -/
structure SwapStartRequest where
  orderId : String
  inputs : List Utxo
  recvAddr : Address
  changeAddr : Address
  sendAsset : AssetId
  sendAmount : Int
  recvAsset : AssetId
  recvAmount : Int
  deriving DecidableEq, Repr

/-- An output of a PSET, as it is unblinded. -/
structure PsetOutput where
  scriptPubkey : Script
  amount : Option Nat
  asset : Option AssetId
  deriving DecidableEq, Repr

/-- The outputs of a PSET. Its inputs are not looked at. -/
structure Pset where
  outputs : List PsetOutput
  deriving DecidableEq, Repr

/-- The signed PSET, as it is uploaded. -/
structure SwapSignRequest where
  orderId : String
  submitId : String
  pset : String
  deriving DecidableEq, Repr

/-- A response of the HTTP API. The text of a PSET is parsed, or is not one. -/
inductive HttpResponse where
  | swapStart (submitId : String) (pset : Except Err Pset)
  | swapSign (txid : TxId)

/-! ## Quotes -/

/-- `AssetSwap`, the quote as a payment uses it. -/
structure AssetSwap where
  fromAsset : AssetId
  toAsset : AssetId
  exchangeRate : ℚ
  feesSat : Nat
  receiverAmountSat : Nat
  payerAmountSat : Nat
  deriving DecidableEq, Repr

/-- `AssetSwap::try_from_price_stream_res`. -/
def AssetSwap.tryFromPriceStreamRes (fromAsset : AssetId) (res : SubscribePriceStreamResponse) :
    Except Err AssetSwap := do
  if let some err := res.errorMsg then
    throw (.generic ("Could not convert SideSwap price - received error message from stream: " ++ err))
  let payerAmount ← okOr res.sendAmount "Expected send amount when creating side swap"
  let receiverAmount ← okOr res.recvAmount "Expected receive amount when creating side swap"
  let fees ← okOr res.fixedFee "Expected fees when creating side swap"
  let exchangeRate ← okOr res.price "Expected price when creating side swap"
  return {
    fromAsset
    toAsset := res.asset
    payerAmountSat := asU64 payerAmount
    receiverAmountSat := asU64 receiverAmount
    feesSat := asU64 fees
    exchangeRate }

/-! ## Inputs -/

/-- An output of the wallet, as the server is told of it. -/
def WalletTxOut.asUtxo (u : WalletTxOut) : Utxo where
  txid := u.txid
  vout := u.vout
  asset := u.asset
  assetBf := u.assetBf
  value := u.value
  valueBf := u.valueBf

/-- The loop that gathers inputs until they are worth what is sent. The outputs are in L-BTC, whose supply keeps their sum
within 64 bits. -/
def selectInputs (fromAsset : AssetId) (sendAmount : Int) : List WalletTxOut → List Utxo → Int → List Utxo × Int
  | [], inputs, sendValue => (inputs, sendValue)
  | u :: utxos, inputs, sendValue =>
      if u.isSpent || u.asset ≠ fromAsset then selectInputs fromAsset sendAmount utxos inputs sendValue
      else
        let sendValue := sendValue + u.value
        let inputs := inputs ++ [u.asUtxo]
        if sendAmount ≤ sendValue then (inputs, sendValue)
        else selectInputs fromAsset sendAmount utxos inputs sendValue

/-! ## Verification -/

/-- How `{:?}` prints an option. -/
def debugOption : Option String → String
  | some s => "Some(" ++ s ++ ")"
  | none => "None"

/-- The output has exactly an amount and an asset. -/
def verifyOutput (name : String) (amount : Nat) (amountText : String) (asset : AssetId) (output : PsetOutput) :
    Except Err Unit :=
  if output.amount = some amount ∧ output.asset = some asset then .ok ()
  else .error (.generic ("PSET verification error: (" ++ name ++ " output) expected amount: " ++ amountText ++
    ", asset: " ++ asset ++ " / received: amount: " ++ debugOption (output.amount.map toString) ++
    ", asset: " ++ debugOption output.asset))

/-- The first output to a script. -/
def findOutput (name : String) (scriptPubkey : Script) (pset : Pset) : Except Err PsetOutput :=
  okOr (pset.outputs.find? fun o => o.scriptPubkey = scriptPubkey)
    ("PSET verification error: Could not find " ++ name ++ " address script pubkey among outputs")

/-- The output to the receiver and the change are as the start of the swap says. -/
def verifyPset (lbtcAssetId : AssetId) (startRes : StartSwapWebResponse) (sendValue : Int)
    (receiverScript changeScript : Script) (pset : Pset) : Except Err Unit := do
  let recvOutput ← findOutput "receive" receiverScript pset
  verifyOutput "receive" (asU64 startRes.recvAmount) (toString startRes.recvAmount) startRes.recvAsset recvOutput
  let changeOutput ← findOutput "change" changeScript pset
  let changeAmount := asU64 (sendValue - startRes.sendAmount)
  verifyOutput "change" changeAmount (toString changeAmount) lbtcAssetId changeOutput

/-! ## Payments -/

/-- `PaySideSwapRequest`. -/
structure PaySideSwapRequest where
  addressData : LiquidAddressData
  toAsset : String
  /-- The asset to send from, if the amount of the request names one. -/
  fromAsset : Option String
  receiverAmountSat : Nat
  feesSat : Nat
  deriving DecidableEq, Repr

/-- What a PSET was signed for. -/
structure Signing where
  req : PaySideSwapRequest
  swap : AssetSwap
  startRes : StartSwapWebResponse
  utxos : List WalletTxOut
  inputs : List Utxo
  receiverAddress : Address
  changeAddress : Address
  pset : Pset
  deriving DecidableEq, Repr

/-- What a payment asks of the server, the wallet and the signer. -/
inductive Call where
  | subscribePriceStream (req : SubscribePriceStreamRequest)
  | startSwapWeb (req : StartSwapWebRequest)
  | swapStart (uploadUrl : String) (req : SwapStartRequest)
  | swapSign (uploadUrl : String) (req : SwapSignRequest)
  | getInfo
  | nextUnusedChangeAddress
  | utxos
  | signPset (signing : Signing)
  | now
  | emitPaymentUpdated (txId : TxId)
  | getPayment (txId : TxId)

/-- A signed PSET is its text. -/
def Call.Answer : Call → Type
  | subscribePriceStream _ | startSwapWeb _ => Except Err Response
  | swapStart .. | swapSign .. => Except Err HttpResponse
  | getInfo => Except Err WalletInfo
  | nextUnusedChangeAddress => Except Err Address
  | utxos => Except Err (List WalletTxOut)
  | signPset _ => Except Err String
  | now => Nat
  | emitPaymentUpdated _ => Except Err Unit
  | getPayment _ => Except Err (Option Payment)

/-- What was answered to a payment. -/
inductive Heard where
  | start (res : StartSwapWebResponse)
  | changeAddress (changeAddress : Address)
  | utxos (utxos : List WalletTxOut)
  /-- The PSET for an offer. -/
  | pset (uploadUrl : String) (offer : SwapStartRequest) (pset : Pset)
  deriving DecidableEq

/-- The database, the PSETs that were signed, and what was heard. -/
structure Ledger where
  db : Payments.PaymentDb := {}
  signed : List Signing := []
  heard : List Heard := []

/-- A payment, over the ledger and these calls. -/
abbrev SwapAsync (α : Type) := Task Ledger Call Call.Answer Err α

/-- The configuration, and what the library makes of texts. -/
structure Elements where
  lbtcAssetId : AssetId
  assetId : String → Except Err AssetId
  address : String → Except Err Address
  scriptPubkey : Address → Script
  persister : Persister

section Payment

variable (elements : Elements)

/-- Whether L-BTC is what is sent. -/
def sendBitcoins (fromAsset : AssetId) : Bool := fromAsset = elements.lbtcAssetId

def invalidResponse : Err := .generic "Received invalid response from the server"

/-- `get_asset_swap`: the quote for an amount to be received. -/
def getAssetSwap (fromAsset toAsset : AssetId) (receiverAmountSat : Nat) : SwapAsync AssetSwap := do
  let res ← Task.askOk (.subscribePriceStream {
    asset := toAsset
    recvAmount := asI64 receiverAmountSat
    sendBitcoins := sendBitcoins elements fromAsset }) rfl
  match res with
  | .subscribePriceStream res => Task.ofExcept (AssetSwap.tryFromPriceStreamRes fromAsset res)
  | _ => Task.throw invalidResponse

/-- `start_swap`. What the server answers is not compared with the quote. -/
def startSwap (swap : AssetSwap) : SwapAsync StartSwapWebResponse := do
  let res ← Task.askOk (.startSwapWeb {
    asset := swap.toAsset
    price := swap.exchangeRate
    sendAmount := asI64 swap.payerAmountSat
    recvAmount := asI64 swap.receiverAmountSat
    sendBitcoins := sendBitcoins elements swap.fromAsset }) rfl
  match res with
  | .startSwapWeb res => return res
  | _ => Task.throw invalidResponse

/-- The outputs of the wallet in one asset. -/
def assetUtxos (asset : AssetId) : SwapAsync (List WalletTxOut) := do
  let utxos ← Task.askOk .utxos rfl
  return utxos.filter fun utxo => utxo.asset = asset

/-- What is posted to start the swap. -/
def swapStartRequest (startRes : StartSwapWebResponse) (inputs : List Utxo) (receiverAddress changeAddress : Address) :
    SwapStartRequest where
  orderId := startRes.orderId
  inputs
  recvAddr := receiverAddress
  changeAddr := changeAddress
  sendAsset := startRes.sendAsset
  sendAmount := startRes.sendAmount
  recvAsset := startRes.recvAsset
  recvAmount := startRes.recvAmount

/-- `execute_swap`. The request is passed on for the record of what is signed. -/
def executeSwap (req : PaySideSwapRequest) (receiverAddress : Address) (swap : AssetSwap) : SwapAsync TxId := do
  let startRes ← startSwap elements swap
  let changeAddress ← Task.askOk .nextUnusedChangeAddress rfl
  let utxos ← assetUtxos elements.lbtcAssetId
  if utxos.isEmpty then Task.throw .insufficientFunds
  else do
    let selected := selectInputs swap.fromAsset startRes.sendAmount utxos [] 0
    if selected.2 < startRes.sendAmount then Task.throw .insufficientFunds
    else do
      let response ← Task.askOk
        (.swapStart startRes.uploadUrl (swapStartRequest startRes selected.1 receiverAddress changeAddress)) rfl
      match response with
      | .swapSign _ => Task.throw (.generic "Received unexpected response from SideSwap API.")
      | .swapStart submitId pset => do
          let pset ← Task.ofExcept pset
          Task.ofExcept (verifyPset elements.lbtcAssetId startRes selected.2 (elements.scriptPubkey receiverAddress)
            (elements.scriptPubkey changeAddress) pset)
          let signed ← Task.askOk (.signPset
            { req, swap, startRes, utxos, inputs := selected.1, receiverAddress, changeAddress, pset }) rfl
          let response ← Task.askOk (.swapSign startRes.uploadUrl
            { orderId := startRes.orderId, submitId, pset := signed }) rfl
          match response with
          | .swapStart .. => Task.throw (.generic "Received unexpected response from SideSwap API.")
          | .swapSign txid => return txid

/-- `insert_or_update_payment` for a payment that the wallet has not seen yet. -/
def insertOrUpdatePayment (now : Nat) (ptx : PaymentTxData) (balances : List Payments.PaymentTxBalance)
    (details : PaymentTxDetails) (db : Payments.PaymentDb) : Payments.PaymentDb :=
  let db := { db with toDb := db.toDb.insertOrUpdatePayment now ptx }
  let db := balances.foldl (fun db balance => db.insertOrUpdatePaymentBalance ptx.txId balance) db
  { db with toDb := db.toDb.insertOrUpdatePaymentDetails elements.persister now details }

/-- The payment as it is recorded: with the amounts of the quote. -/
def insertPseudoTx (now : Nat) (req : PaySideSwapRequest) (toAddress : Address) (swap : AssetSwap) (txId : TxId)
    (s : Ledger) : Ledger :=
  { s with
    db := insertOrUpdatePayment elements now
      { txId, timestamp := some now, feesSat := swap.feesSat, isConfirmed := false, unblindingData := none }
      [{ assetId := elements.lbtcAssetId, amount := swap.payerAmountSat, paymentType := .send }]
      { txId, destination := toAddress, description := req.addressData.message } s.db }

/-- `pay_sideswap`: the quote, the checks of the fees and the balance, and the swap. -/
def paySideswap (req : PaySideSwapRequest) : SwapAsync Payment := do
  let fromAsset ← Task.ofExcept (elements.assetId (req.fromAsset.getD req.toAsset))
  let toAsset ← Task.ofExcept (elements.assetId req.toAsset)
  let toAddress ← Task.ofExcept (elements.address req.addressData.address)
  let swap ← getAssetSwap elements fromAsset toAsset req.receiverAmountSat
  if req.feesSat < swap.feesSat then Task.throw .invalidOrExpiredFees
  else do
    let walletInfo ← Task.askOk .getInfo rfl
    if walletInfo.balanceSat < swap.payerAmountSat then Task.throw .insufficientFunds
    else do
      let txId ← executeSwap elements req toAddress swap
      let now ← (Task.ask Call.now : SwapAsync Nat)
      Task.modify (insertPseudoTx elements now req toAddress swap txId)
      Task.askOk (.emitPaymentUpdated txId) rfl
      let payment ← Task.askOk (.getPayment txId) rfl
      Task.ofExcept (okOr payment "Payment not found")

/-- What an answer leaves in the ledger: what was signed and what was heard, newest first. -/
def Ledger.effect : (q : Call) → q.Answer → Ledger → Ledger
  | .signPset signing, .ok _, s => { s with signed := signing :: s.signed }
  | .startSwapWeb _, .ok (.startSwapWeb res), s => { s with heard := .start res :: s.heard }
  | .nextUnusedChangeAddress, .ok changeAddress, s => { s with heard := .changeAddress changeAddress :: s.heard }
  | .utxos, .ok utxos, s => { s with heard := .utxos utxos :: s.heard }
  | .swapStart uploadUrl offer, .ok (.swapStart _ (.ok pset)), s =>
      { s with heard := .pset uploadUrl offer pset :: s.heard }
  | _, _, s => s

/-- Payments run together. The wallet, the server and the clock may answer anything. -/
def swapSystem : System Ledger Call Call.Answer Err PaySideSwapRequest where
  effect := Ledger.effect
  spawns _ _ req t := t = (paySideswap elements req).bind fun _ => .done (.ok ())
  env s s' := s'.signed = s.signed ∧ s'.heard = s.heard

/-! ## What is signed -/

/-- The outputs that may be inputs of a swap, in the order of the wallet. -/
def spendable (fromAsset : AssetId) (utxos : List WalletTxOut) : List WalletTxOut :=
  utxos.filter fun u => !(u.isSpent || u.asset ≠ fromAsset)

/-- What the outputs come to. -/
def totalValue (utxos : List WalletTxOut) : Int := (utxos.map fun u => (u.value : Int)).sum

theorem totalValue_cons (u : WalletTxOut) (utxos : List WalletTxOut) :
    totalValue (u :: utxos) = u.value + totalValue utxos := by
  unfold totalValue
  rw [List.map_cons, List.sum_cons]

/-- The inputs are the first spendable outputs that are worth enough, or all of them. -/
structure Taken (fromAsset : AssetId) (sendAmount : Int) (utxos taken : List WalletTxOut) : Prop where
  front : taken <+: spendable fromAsset utxos
  needed : taken.dropLast ≠ [] → totalValue taken.dropLast < sendAmount
  all : totalValue taken < sendAmount → taken = spendable fromAsset utxos

/-- The loop takes outputs from the front, until they come to the amount or there are none left. The
induction is on the outputs, with what was taken before in the accumulator. -/
theorem selectInputs_eq (fromAsset : AssetId) (sendAmount : Int) (utxos : List WalletTxOut) (inputs : List Utxo)
    (value : Int) : ∃ taken, taken <+: spendable fromAsset utxos ∧
      selectInputs fromAsset sendAmount utxos inputs value =
        (inputs ++ taken.map WalletTxOut.asUtxo, value + totalValue taken) ∧
      (taken.dropLast ≠ [] → value + totalValue taken.dropLast < sendAmount) ∧
      (value + totalValue taken < sendAmount → taken = spendable fromAsset utxos) := by
  induction utxos generalizing inputs value with
  | nil => exact ⟨[], List.nil_prefix, by simp [selectInputs, totalValue], by simp, fun _ => rfl⟩
  | cons u utxos ih =>
      by_cases hskip : (u.isSpent || decide (u.asset ≠ fromAsset)) = true
      · have hspendable : spendable fromAsset (u :: utxos) = spendable fromAsset utxos := by
          unfold spendable
          rw [List.filter_cons_of_neg (by rw [hskip]; simp)]
        obtain ⟨taken, htaken⟩ := ih inputs value
        refine ⟨taken, ?_⟩
        rw [hspendable, selectInputs, if_pos hskip]
        exact htaken
      · have hspendable : spendable fromAsset (u :: utxos) = u :: spendable fromAsset utxos := by
          unfold spendable
          rw [List.filter_cons_of_pos (by simpa using hskip)]
        rw [hspendable, selectInputs, if_neg hskip]
        dsimp only
        by_cases henough : sendAmount ≤ value + u.value
        · refine ⟨[u], ⟨_, rfl⟩, ?_, by simp, fun hlt => ?_⟩
          · rw [if_pos henough]
            simp [totalValue]
          · simp only [totalValue, List.map_cons, List.map_nil, List.sum_cons, List.sum_nil] at hlt
            omega
        · -- the output is taken and more are needed
          obtain ⟨taken, hfront, hselect, hneeded, hall⟩ := ih (inputs ++ [u.asUtxo]) (value + u.value)
          refine ⟨u :: taken, List.cons_prefix_cons.mpr ⟨rfl, hfront⟩, ?_, fun _ => ?_, fun hlt => ?_⟩
          · rw [if_neg henough, hselect, totalValue_cons, List.map_cons, List.append_assoc, Int.add_assoc]
            rfl
          · cases taken with
            | nil =>
                rename_i hne
                exact absurd rfl hne
            | cons u' taken =>
                rw [List.dropLast_cons_cons, totalValue_cons]
                by_cases hlast : (u' :: taken).dropLast = []
                · rw [hlast]
                  simp only [totalValue, List.map_nil, List.sum_nil]
                  omega
                · have := hneeded hlast
                  omega
          · rw [totalValue_cons] at hlt
            rw [hall (by omega)]

/-- A PSET whose first output to a script has an amount and an asset. -/
def Pays (pset : Pset) (scriptPubkey : Script) (amount : Nat) (asset : AssetId) : Prop :=
  ∃ output, pset.outputs.find? (fun o => o.scriptPubkey = scriptPubkey) = some output ∧
    output.amount = some amount ∧ output.asset = some asset

theorem findOutput_eq_ok {name : String} {scriptPubkey : Script} {pset : Pset} {output : PsetOutput}
    (h : findOutput name scriptPubkey pset = .ok output) :
    pset.outputs.find? (fun o => o.scriptPubkey = scriptPubkey) = some output := okOr_eq_ok.mp h

/-- An output that is verified has the amount and the asset. -/
theorem verifyOutput_eq_ok {name amountText : String} {amount : Nat} {asset : AssetId} {output : PsetOutput} {u : Unit}
    (h : verifyOutput name amount amountText asset output = .ok u) :
    output.amount = some amount ∧ output.asset = some asset := by
  unfold verifyOutput at h
  split at h
  · assumption
  · cases h

/-- A PSET that is verified pays the receiver what the start says, and returns the rest. -/
theorem verifyPset_eq_ok {lbtcAssetId : AssetId} {startRes : StartSwapWebResponse} {sendValue : Int}
    {receiverScript changeScript : Script} {pset : Pset} {u : Unit}
    (h : verifyPset lbtcAssetId startRes sendValue receiverScript changeScript pset = .ok u) :
    Pays pset receiverScript (asU64 startRes.recvAmount) startRes.recvAsset ∧
      Pays pset changeScript (asU64 (sendValue - startRes.sendAmount)) lbtcAssetId := by
  unfold verifyPset at h
  obtain ⟨recvOutput, hrecv, h⟩ := except_bind_eq_ok.mp h
  obtain ⟨_, hrecvPays, h⟩ := except_bind_eq_ok.mp h
  obtain ⟨changeOutput, hchange, h⟩ := except_bind_eq_ok.mp h
  exact ⟨⟨recvOutput, findOutput_eq_ok hrecv, verifyOutput_eq_ok hrecvPays⟩,
    ⟨changeOutput, findOutput_eq_ok hchange, verifyOutput_eq_ok h⟩⟩

/-- What holds of all that is signed, after these answers: the quote charges no more than was approved, the inputs are
the first spendable L-BTC outputs that are worth what is sent, it is these that were offered for the PSET, and the PSET
pays the receiver and returns the change of that. -/
structure Verified (heard : List Heard) (signing : Signing) : Prop where
  fees : signing.swap.feesSat ≤ signing.req.feesSat
  receiver : elements.address signing.req.addressData.address = .ok signing.receiverAddress
  started : .start signing.startRes ∈ heard
  change : .changeAddress signing.changeAddress ∈ heard
  listed : ∃ utxos, .utxos utxos ∈ heard ∧ signing.utxos = utxos.filter fun u => u.asset = elements.lbtcAssetId
  offered : .pset signing.startRes.uploadUrl
    (swapStartRequest signing.startRes signing.inputs signing.receiverAddress signing.changeAddress) signing.pset ∈ heard
  inputs : ∃ taken, Taken signing.swap.fromAsset signing.startRes.sendAmount signing.utxos taken ∧
    signing.inputs = taken.map WalletTxOut.asUtxo ∧ signing.startRes.sendAmount ≤ totalValue taken ∧
    Pays signing.pset (elements.scriptPubkey signing.receiverAddress) (asU64 signing.startRes.recvAmount)
      signing.startRes.recvAsset ∧
    Pays signing.pset (elements.scriptPubkey signing.changeAddress)
      (asU64 (totalValue taken - signing.startRes.sendAmount)) elements.lbtcAssetId

variable {elements}

/-- What was heard stays. -/
theorem Verified.mono {heard heard' : List Heard} {signing : Signing} (hsub : heard ⊆ heard')
    (h : Verified elements heard signing) : Verified elements heard' signing := by
  obtain ⟨utxos, hutxos, hlisted⟩ := h.listed
  exact ⟨h.fees, h.receiver, hsub h.started, hsub h.change, ⟨utxos, hsub hutxos, hlisted⟩, hsub h.offered, h.inputs⟩

/-- Nothing that was heard is forgotten. -/
theorem heard_effect (q : Call) (a : q.Answer) (s : Ledger) : s.heard ⊆ (Ledger.effect q a s).heard := by
  unfold Ledger.effect
  split
  · exact List.Subset.refl _
  · exact List.subset_cons_self _ _
  · exact List.subset_cons_self _ _
  · exact List.subset_cons_self _ _
  · exact List.subset_cons_self _ _
  · exact List.Subset.refl _

/-- The one call that signs. -/
def Call.signs : Call → Bool
  | .signPset _ => true
  | _ => false

/-- A call signs what it is asked to sign, or nothing. -/
theorem signed_effect (q : Call) (a : q.Answer) (s : Ledger) : (Ledger.effect q a s).signed = s.signed ∨
    ∃ signing, q = .signPset signing ∧ (Ledger.effect q a s).signed = signing :: s.signed := by
  unfold Ledger.effect
  split
  · exact .inr ⟨_, rfl, rfl⟩
  · exact .inl rfl
  · exact .inl rfl
  · exact .inl rfl
  · exact .inl rfl
  · exact .inl rfl

variable (elements) in
/-- Everything that is signed is verified, and what was heard stays. -/
def swapProtocol : Protocol Ledger PaySideSwapRequest :=
  .uniform (fun s => ∀ signing ∈ s.signed, Verified elements s.heard signing) (fun s s' => s.heard ⊆ s'.heard)
    (fun _ => List.Subset.refl _) fun h h' => List.Subset.trans h h'

/-- A part of a payment, and what holds of a result. -/
abbrev SwapSafe {α : Type} (elements : Elements) (r : PaySideSwapRequest) (t : SwapAsync α) (post : α → Ledger → Prop)
    (s : Ledger) : Prop :=
  Safe (swapSystem elements) .any (swapProtocol elements) r t (OnOk post) s

section Steps

variable {r : PaySideSwapRequest}

/-- A call keeps what was signed verified, as long as it signs nothing else. -/
theorem safe_call {α : Type} {q : Call} {k : q.Answer → SwapAsync α} {post : α → Ledger → Prop} {s : Ledger}
    (hsign : ∀ signing, q = .signPset signing → Verified elements s.heard signing)
    (hk : ∀ a s₁, s.heard ⊆ s₁.heard → SwapSafe elements r (k a) post (Ledger.effect q a s₁)) :
    SwapSafe elements r (.call q k) post s := by
  intro s₁ h₁ hi a _ _
  have hheard := heard_effect q a s₁
  refine ⟨?_, hheard, hk a s₁ h₁⟩
  have hkept : ∀ signing ∈ s₁.signed, Verified elements (Ledger.effect q a s₁).heard signing :=
    fun signing hsigned => (hi signing hsigned).mono hheard
  show ∀ signing ∈ (Ledger.effect q a s₁).signed, Verified elements (Ledger.effect q a s₁).heard signing
  rcases signed_effect q a s₁ with hsigned | ⟨signing, hq, hsigned⟩
  · rw [hsigned]
    exact hkept
  · rw [hsigned]
    exact List.forall_mem_cons.mpr ⟨((hsign signing hq).mono h₁).mono hheard, hkept⟩

/-- An answer is noted. -/
theorem safe_askOk_bind {α β : Type} {q : Call} {h : q.Answer = Except Err α} {g : α → SwapAsync β}
    {post : β → Ledger → Prop} {s : Ledger} (hsign : ∀ signing, q = .signPset signing → Verified elements s.heard signing)
    (hg : ∀ a s₁, s.heard ⊆ s₁.heard →
      SwapSafe elements r (g a) post (Ledger.effect q (cast h.symm (.ok a)) s₁)) :
    SwapSafe elements r ((Task.askOk q h).bind g) post s := by
  refine safe_call hsign fun a s₁ h₁ => ?_
  show SwapSafe elements r ((Task.done (cast h a)).bind g) post _
  rcases hresult : cast h a with err | res
  · exact safe_error
  · have ha : a = cast h.symm (.ok res) := by
      rw [← hresult, cast_cast, cast_eq]
    rw [ha]
    exact hg res s₁ h₁

/-- The answer of a call that signs nothing is noted. -/
theorem safe_answer_bind {α β : Type} {q : Call} {h : q.Answer = Except Err α} {g : α → SwapAsync β}
    {post : β → Ledger → Prop} {s : Ledger} (hq : q.signs = false)
    (hg : ∀ a s₁, s.heard ⊆ s₁.heard →
      SwapSafe elements r (g a) post (Ledger.effect q (cast h.symm (.ok a)) s₁)) :
    SwapSafe elements r ((Task.askOk q h).bind g) post s := by
  refine safe_askOk_bind (fun signing heq => ?_) hg
  rw [heq] at hq
  cases hq

/-- A result signs nothing. -/
theorem safe_result {α : Type} (x : Except Err α) (s : Ledger) :
    SwapSafe elements r (.done x) (fun _ _ => True) s := by
  cases x with
  | ok a => exact safe_ok fun _ _ _ => trivial
  | error err => exact safe_error

/-- What is known of what was heard stays known during a part of a payment. -/
theorem safe_bind {α β : Type} {t : SwapAsync α} {g : α → SwapAsync β} {post : α → Ledger → Prop}
    {post' : β → Ledger → Prop} {s : Ledger} (ht : SwapSafe elements r t post s)
    (hg : ∀ a s₁, s.heard ⊆ s₁.heard → post a s₁ → SwapSafe elements r (g a) post' s₁) :
    SwapSafe elements r (t.bind g) post' s :=
  Safe.bind_ok (fun _ _ h => h) ht fun a s₁ h₁ _ ha => hg a s₁ h₁ ha

theorem safe_getAssetSwap (fromAsset toAsset : AssetId) (receiverAmountSat : Nat) (s : Ledger) :
    SwapSafe elements r (getAssetSwap elements fromAsset toAsset receiverAmountSat) (fun _ _ => True) s := by
  refine safe_answer_bind rfl fun res s₁ _ => ?_
  cases res <;> exact safe_result _ _

/-- The answer to the start is heard ... -/
theorem safe_startSwap (swap : AssetSwap) (s : Ledger) :
    SwapSafe elements r (startSwap elements swap) (fun startRes s => .start startRes ∈ s.heard) s := by
  refine safe_answer_bind rfl fun res s₁ _ => ?_
  cases res with
  | startSwapWeb res => exact safe_ok fun s₂ h₂ _ => h₂ List.mem_cons_self
  | ping => exact safe_error
  | unsubscribePriceStream => exact safe_error
  | subscribePriceStream res => exact safe_error
  | loginClient => exact safe_error

/-- ... and so are the outputs that are selected from. -/
theorem safe_assetUtxos (asset : AssetId) (s : Ledger) :
    SwapSafe elements r (assetUtxos asset)
      (fun listed s => ∃ utxos, .utxos utxos ∈ s.heard ∧ listed = utxos.filter fun u => u.asset = asset) s := by
  refine safe_answer_bind rfl fun utxos s₁ _ => ?_
  exact safe_ok fun s₂ h₂ _ => ⟨utxos, h₂ List.mem_cons_self, rfl⟩

/-- Before the signature everything it depends on has been heard, and the PSET was verified. -/
theorem safe_executeSwap {req : PaySideSwapRequest} {receiverAddress : Address} {swap : AssetSwap}
    (hfees : swap.feesSat ≤ req.feesSat) (hreceiver : elements.address req.addressData.address = .ok receiverAddress)
    (s : Ledger) :
    SwapSafe elements r (executeSwap elements req receiverAddress swap) (fun _ _ => True) s := by
  refine safe_bind (safe_startSwap swap s) fun startRes s _ hstarted => ?_
  refine safe_answer_bind rfl fun changeAddress s₁ h₁ => ?_
  have hstarted := List.mem_cons_of_mem (Heard.changeAddress changeAddress) (h₁ hstarted)
  refine safe_bind (safe_assetUtxos _ _) fun utxos s₂ h₂ hlisted => ?_
  have hstarted := h₂ hstarted
  have hchange : Heard.changeAddress changeAddress ∈ s₂.heard := h₂ List.mem_cons_self
  by_cases hempty : utxos.isEmpty
  · rw [if_pos hempty]
    exact safe_error
  rw [if_neg hempty]
  obtain ⟨taken, hfront, hselect, hneeded, hall⟩ :=
    selectInputs_eq swap.fromAsset startRes.sendAmount utxos [] 0
  rw [List.nil_append, Int.zero_add] at hselect
  rw [Int.zero_add] at hneeded hall
  rw [hselect]
  dsimp only
  by_cases hless : totalValue taken < startRes.sendAmount
  · rw [if_pos hless]
    exact safe_error
  rw [if_neg hless]
  refine safe_answer_bind rfl fun response s₃ h₃ => ?_
  cases response with
  | swapSign _ => exact safe_error
  | swapStart submitId pset =>
      refine Safe.ofExcept_bind fun pset hpset => Safe.ofExcept_bind fun _ hverified => ?_
      subst hpset
      obtain ⟨hreceived, hreturned⟩ := verifyPset_eq_ok hverified
      refine safe_askOk_bind ?_ fun signed s₄ _ => ?_
      · intro signing heq
        obtain rfl := Call.signPset.inj heq
        obtain ⟨all, hheard, hall'⟩ := hlisted
        refine ⟨hfees, hreceiver, ?_, ?_, ⟨all, ?_, hall'⟩, List.mem_cons_self, taken, ⟨hfront, hneeded, hall⟩, rfl,
          Int.not_lt.mp hless, hreceived, hreturned⟩
        · exact List.mem_cons_of_mem _ (h₃ hstarted)
        · exact List.mem_cons_of_mem _ (h₃ hchange)
        · exact List.mem_cons_of_mem _ (h₃ hheard)
      refine safe_answer_bind rfl fun response s₅ _ => ?_
      cases response with
      | swapStart _ _ => exact safe_error
      | swapSign txid => exact safe_result _ _

/-- A payment signs only what was verified: the swap is executed after its fees were checked. -/
theorem safe_paySideswap (req : PaySideSwapRequest) (s : Ledger) :
    SwapSafe elements r (paySideswap elements req) (fun _ _ => True) s := by
  refine Safe.ofExcept_bind fun fromAsset _ => Safe.ofExcept_bind fun toAsset _ => ?_
  refine Safe.ofExcept_bind fun toAddress hreceiver => ?_
  refine safe_bind (safe_getAssetSwap fromAsset toAsset _ s) fun swap s₁ _ _ => ?_
  by_cases hfees : req.feesSat < swap.feesSat
  · rw [if_pos hfees]
    exact safe_error
  rw [if_neg hfees]
  refine safe_answer_bind rfl fun walletInfo s₂ _ => ?_
  split
  · exact safe_error
  refine safe_bind (safe_executeSwap (Nat.not_lt.mp hfees) hreceiver _) fun txId s₃ _ _ => ?_
  refine safe_call (fun _ h => by cases h) fun now s₄ _ => ?_
  intro s₅ _ hi _
  refine ⟨hi, List.Subset.refl _, ?_⟩
  refine safe_answer_bind rfl fun _ s₆ _ => ?_
  refine safe_answer_bind rfl fun payment s₇ _ => ?_
  exact safe_result _ _

end Steps

/-- Payments meet the protocol, whatever else runs. -/
theorem swap_sound : Sound (swapSystem elements) .any (swapProtocol elements) (fun _ _ => True) where
  compat _ _ _ _ _ h := h
  spawn roles s r t hspawn _ _ _ := by
    refine ⟨fun _ _ => ⟨trivial, trivial⟩, ?_⟩
    rw [show t = _ from hspawn]
    refine Safe.bind ((safe_paySideswap r s).mono fun x s₁ _ _ => ?_)
    cases x with
    | ok payment => exact fun _ _ _ => trivial
    | error err => trivial
  abort _ _ _ _ := trivial
  env s s' henv hi _ := by
    obtain ⟨hsigned, hheard⟩ := henv
    refine ⟨?_, fun _ => ?_⟩
    · show ∀ signing ∈ s'.signed, Verified elements s'.heard signing
      rw [hsigned, hheard]
      exact hi
    · show s.heard ⊆ s'.heard
      rw [hheard]
      exact List.Subset.refl _

/-! ## A server -/

/-- A server that starts swaps as it likes, and what the wallet answers it. -/
structure Server where
  quote : SubscribePriceStreamResponse
  startRes : StartSwapWebResponse
  balanceSat : Nat
  utxos : List WalletTxOut
  changeAddress : Address
  pset : Pset

/-- A server and a wallet that give the same answers every time. -/
def Server.answer (server : Server) (_ : Nat) : (q : Call) → q.Answer
  | .subscribePriceStream _ => .ok (.subscribePriceStream server.quote)
  | .startSwapWeb _ => .ok (.startSwapWeb server.startRes)
  | .swapStart _ _ => .ok (.swapStart "submit" (.ok server.pset))
  | .swapSign _ _ => .ok (.swapSign "txid")
  | .getInfo => .ok { balanceSat := server.balanceSat }
  | .nextUnusedChangeAddress => .ok server.changeAddress
  | .utxos => .ok server.utxos
  | .signPset _ => .ok "signed"
  | .now => (0 : Nat)
  | .emitPaymentUpdated _ => .ok ()
  | .getPayment _ => .ok none

/-- What is signed on this server, with these outputs in L-BTC. -/
def Server.signing (server : Server) (req : PaySideSwapRequest) (swap : AssetSwap) (listed : List WalletTxOut)
    (receiverAddress : Address) : Signing where
  req
  swap
  startRes := server.startRes
  utxos := listed
  inputs := (selectInputs swap.fromAsset server.startRes.sendAmount listed [] 0).1
  receiverAddress
  changeAddress := server.changeAddress
  pset := server.pset

/-- The PSET that a start of a swap asks for, on inputs of a value. -/
def fittingPset (elements : Elements) (startRes : StartSwapWebResponse) (sendValue : Int)
    (receiverAddress changeAddress : Address) : Pset where
  outputs := [
    { scriptPubkey := elements.scriptPubkey receiverAddress
      amount := some (asU64 startRes.recvAmount)
      asset := some startRes.recvAsset },
    { scriptPubkey := elements.scriptPubkey changeAddress
      amount := some (asU64 (sendValue - startRes.sendAmount))
      asset := some elements.lbtcAssetId }]

/-- The PSET that is made up from the start passes its verification. -/
theorem verifyPset_fitting (startRes : StartSwapWebResponse) (sendValue : Int) {receiverAddress changeAddress : Address}
    (hne : elements.scriptPubkey receiverAddress ≠ elements.scriptPubkey changeAddress) :
    verifyPset elements.lbtcAssetId startRes sendValue (elements.scriptPubkey receiverAddress)
      (elements.scriptPubkey changeAddress)
      (fittingPset elements startRes sendValue receiverAddress changeAddress) = .ok () := by
  have hrecv : findOutput "receive" (elements.scriptPubkey receiverAddress)
      (fittingPset elements startRes sendValue receiverAddress changeAddress) = .ok _ :=
    okOr_eq_ok.mpr (List.find?_cons_of_pos (decide_eq_true rfl))
  have hchange : findOutput "change" (elements.scriptPubkey changeAddress)
      (fittingPset elements startRes sendValue receiverAddress changeAddress) = .ok _ :=
    okOr_eq_ok.mpr ((List.find?_cons_of_neg (by simpa using hne)).trans (List.find?_cons_of_pos (decide_eq_true rfl)))
  unfold verifyPset
  rw [hrecv]
  refine except_bind_eq_ok.mpr ⟨_, rfl, except_bind_eq_ok.mpr ⟨(), if_pos ⟨rfl, rfl⟩, ?_⟩⟩
  rw [hchange]
  exact except_bind_eq_ok.mpr ⟨_, rfl, if_pos ⟨rfl, rfl⟩⟩

section Served

variable {req : PaySideSwapRequest} {swap : AssetSwap} {server : Server} {receiverAddress : Address}

/-- One step of a payment with such a server. -/
theorem run_askOk_bind {α β : Type} {q : Call} {h : q.Answer = Except Err α} {a : α} {n : Nat} {s : Ledger}
    {g : α → SwapAsync β} (hanswer : server.answer n q = cast h.symm (.ok a)) :
    ((Task.askOk q h).bind g).run Ledger.effect server.answer (n, s) =
      (g a).run Ledger.effect server.answer (n + 1, Ledger.effect q (server.answer n q) s) := by
  unfold Task.askOk
  rw [Task.call_bind, Task.run_call, hanswer, cast_cast, cast_eq]
  rfl

theorem run_startSwap (n : Nat) (s : Ledger) : (startSwap elements swap).run Ledger.effect server.answer (n, s) =
    (.ok server.startRes, (n + 1, { s with heard := .start server.startRes :: s.heard })) := rfl

theorem run_assetUtxos (asset : AssetId) (n : Nat) (s : Ledger) :
    (assetUtxos asset).run Ledger.effect server.answer (n, s) =
      (.ok (server.utxos.filter fun u => u.asset = asset),
        (n + 1, { s with heard := .utxos server.utxos :: s.heard })) := rfl

/-- The server's PSET fits the start of the swap, on the inputs that are selected for it. -/
theorem run_executeSwap {listed : List WalletTxOut}
    (hlisted : listed = server.utxos.filter fun u => u.asset = elements.lbtcAssetId) (hsome : listed ≠ [])
    (hfrom : swap.fromAsset = elements.lbtcAssetId)
    (henough : server.startRes.sendAmount ≤ totalValue (spendable elements.lbtcAssetId listed))
    (hne : elements.scriptPubkey receiverAddress ≠ elements.scriptPubkey server.changeAddress)
    (hpset : server.pset = fittingPset elements server.startRes
      (selectInputs swap.fromAsset server.startRes.sendAmount listed [] 0).2 receiverAddress
        server.changeAddress) (n : Nat) (s : Ledger) :
    ∃ heard, (executeSwap elements req receiverAddress swap).run Ledger.effect server.answer (n, s) =
      (.ok "txid", (n + 6, { s with signed := server.signing req swap listed receiverAddress :: s.signed, heard })) := by
  have hempty : ¬ listed.isEmpty = true := by simpa using hsome
  have hless : ¬ (selectInputs swap.fromAsset server.startRes.sendAmount listed [] 0).2 <
      server.startRes.sendAmount := by
    obtain ⟨taken, -, hselect, -, hall⟩ :=
      selectInputs_eq swap.fromAsset server.startRes.sendAmount listed [] 0
    rw [hselect]
    dsimp only
    intro hlt
    rw [hall hlt, hfrom] at hlt
    omega
  have hverified := verifyPset_fitting server.startRes
    (selectInputs swap.fromAsset server.startRes.sendAmount listed [] 0).2 hne
  rw [← hpset] at hverified
  refine ⟨.pset server.startRes.uploadUrl (swapStartRequest server.startRes
    (selectInputs swap.fromAsset server.startRes.sendAmount listed [] 0).1 receiverAddress server.changeAddress)
      server.pset :: .utxos server.utxos :: .changeAddress server.changeAddress :: .start server.startRes :: s.heard, ?_⟩
  unfold executeSwap
  rw [Task.bind_eq, Task.run_bind, run_startSwap]
  refine (run_askOk_bind (a := server.changeAddress) rfl).trans ?_
  rw [Task.bind_eq, Task.run_bind, run_assetUtxos, ← hlisted]
  dsimp only
  rw [if_neg hempty, if_neg hless]
  refine (run_askOk_bind (a := HttpResponse.swapStart "submit" (.ok server.pset)) rfl).trans ?_
  dsimp only
  rw [Task.bind_eq, Task.ofExcept_ok_bind, hverified, Task.bind_eq, Task.ofExcept_ok_bind]
  refine (run_askOk_bind (a := "signed") rfl).trans ?_
  exact run_askOk_bind (a := HttpResponse.swapSign "txid") rfl

/-- A quote is for the asset that is sent. -/
theorem fromAsset_eq {fromAsset : AssetId} {quote : SubscribePriceStreamResponse}
    (h : AssetSwap.tryFromPriceStreamRes fromAsset quote = .ok swap) : swap.fromAsset = fromAsset := by
  unfold AssetSwap.tryFromPriceStreamRes at h
  cases herror : quote.errorMsg with
  | some err =>
      rw [herror] at h
      cases h
  | none =>
      rw [herror] at h
      obtain ⟨payerAmount, -, h⟩ := except_bind_eq_ok.mp h
      obtain ⟨receiverAmount, -, h⟩ := except_bind_eq_ok.mp h
      obtain ⟨fees, -, h⟩ := except_bind_eq_ok.mp h
      obtain ⟨exchangeRate, -, h⟩ := except_bind_eq_ok.mp h
      cases h
      rfl

/-- The payment is recorded, and nothing else is signed. -/
theorem run_paySideswap {listed : List WalletTxOut} (hfrom : elements.assetId (req.fromAsset.getD req.toAsset) = .ok
      elements.lbtcAssetId) {toAsset : AssetId} (hto : elements.assetId req.toAsset = .ok toAsset)
    (hreceiver : elements.address req.addressData.address = .ok receiverAddress)
    (hswap : AssetSwap.tryFromPriceStreamRes elements.lbtcAssetId server.quote = .ok swap)
    (hfees : swap.feesSat ≤ req.feesSat) (hbalance : swap.payerAmountSat ≤ server.balanceSat)
    (hexecute : ∀ n s, ∃ heard, (executeSwap elements req receiverAddress swap).run Ledger.effect server.answer (n, s) =
      (.ok "txid", (n + 6, { s with signed := server.signing req swap listed receiverAddress :: s.signed, heard })))
    (s : Ledger) :
    ((paySideswap elements req).run Ledger.effect server.answer (0, s)).2.2.signed =
      server.signing req swap listed receiverAddress :: s.signed := by
  have hget : ∀ n s, (getAssetSwap elements elements.lbtcAssetId toAsset req.receiverAmountSat).run Ledger.effect
      server.answer (n, s) = (.ok swap, (n + 1, s)) := by
    intro n s
    show (AssetSwap.tryFromPriceStreamRes elements.lbtcAssetId server.quote, (n + 1, s)) = _
    rw [hswap]
  unfold paySideswap
  rw [hfrom, hto, hreceiver]
  show (((getAssetSwap elements elements.lbtcAssetId toAsset req.receiverAmountSat).bind _).run Ledger.effect
    server.answer (0, s)).2.2.signed = _
  rw [Task.run_bind, hget]
  dsimp only
  rw [if_neg (Nat.not_lt.mpr hfees)]
  have hinfo {β : Type} (g : WalletInfo → SwapAsync β) (n : Nat) (s : Ledger) :
      ((Task.askOk .getInfo rfl).bind g).run Ledger.effect server.answer (n, s) =
        (g { balanceSat := server.balanceSat }).run Ledger.effect server.answer (n + 1, s) := run_askOk_bind rfl
  rw [Task.bind_eq, hinfo]
  dsimp only
  obtain ⟨heard, hrun⟩ := hexecute (1 + 1) s
  rw [if_neg (Nat.not_lt.mpr hbalance), Task.bind_eq, Task.run_bind, hrun]
  rfl

end Served

/-! ## Whole runs -/

/-- **What is signed.** However many payments run together, and whatever the server answers: all that is signed is
verified. -/
theorem signed_verified (db : Payments.PaymentDb) {c : Pool Ledger Call Call.Answer Err PaySideSwapRequest}
    (hrun : Runs (swapSystem elements) .any ⟨{ db }, []⟩ c) :
    ∀ signing ∈ c.state.signed, Verified elements c.state.heard signing := by
  have hstart : ∀ signing ∈ ({ db } : Ledger).signed, Verified elements ({ db } : Ledger).heard signing :=
    List.forall_mem_nil _
  have hinit : Kept (swapSystem elements) .any (swapProtocol elements) (fun _ _ => True)
      (⟨{ db }, []⟩ : Pool Ledger Call Call.Answer Err PaySideSwapRequest) :=
    { inv := hstart, roles := .nil, safe := List.forall_mem_nil _, idle := fun _ _ => trivial }
  exact (Runs.keep swap_sound hinit hrun).inv

/-- The state after a payment that this server and the wallet answer to. -/
def Server.afterPayment (server : Server) (elements : Elements) (req : PaySideSwapRequest) (db : Payments.PaymentDb) :
    Ledger :=
  (((paySideswap elements req).bind fun _ => Task.done (.ok ())).run Ledger.effect server.answer (0, { db })).2.2

/-- The state after a payment is reached by a run of the system. -/
theorem Server.runs_afterPayment (server : Server) (req : PaySideSwapRequest) (db : Payments.PaymentDb) :
    Runs (swapSystem elements) .any ⟨{ db }, []⟩ ⟨server.afterPayment elements req db, []⟩ :=
  runs_spawn_any (S := swapSystem elements) (fun _ _ _ => trivial) server.answer (r := req) rfl

/-- A quote of 1000 sat is approved, and 5000 sat are signed away for one unit of the asset. -/
def regtest : Elements where
  lbtcAssetId := "lbtc"
  assetId := .ok
  address := .ok
  scriptPubkey := id
  persister := { codec := .table fun _ => none }

/-- A payment of 900 units of USDT, from L-BTC ... -/
def usdtRequest : PaySideSwapRequest where
  addressData := { address := "receiver", network := .regtest }
  toAsset := "usdt"
  fromAsset := some "lbtc"
  receiverAmountSat := 900
  feesSat := 10

/-- ... out of coins of this form ... -/
def walletCoin (txid : TxId) (asset : AssetId) (value : Nat) : WalletTxOut where
  txid
  vout := 0
  isSpent := false
  asset
  assetBf := ""
  value
  valueBf := ""

/-- The wallet has coins of 3000, 5000 and 7000 sat, and one of an asset. -/
def greedyServer : Server where
  quote :=
    { asset := "usdt", sendAmount := some 1000, recvAmount := some 900, fixedFee := some 10, price := some 1,
      errorMsg := none }
  startRes :=
    { orderId := "order", sendAsset := "lbtc", sendAmount := 5000, recvAsset := "usdt", recvAmount := 1,
      uploadUrl := "upload" }
  balanceSat := 15000
  utxos := [walletCoin "coin1" "lbtc" 3000, walletCoin "coin2" "usdt" 400, walletCoin "coin3" "lbtc" 5000,
    walletCoin "coin4" "lbtc" 7000]
  changeAddress := "change"
  pset := ⟨[
    { scriptPubkey := "receiver", amount := some 1, asset := some "usdt" },
    { scriptPubkey := "change", amount := some 3000, asset := some "lbtc" }]⟩

/-- ... at a quote of a fee of 10. -/
def greedyQuote : AssetSwap where
  fromAsset := "lbtc"
  toAsset := "usdt"
  exchangeRate := 1
  feesSat := 10
  receiverAmountSat := 900
  payerAmountSat := 1000

/-- The first two coins in L-BTC are signed for. -/
theorem signed_verified_greedy :
    (greedyServer.afterPayment regtest usdtRequest {}).signed.map (fun signing => signing.inputs.map Utxo.txid) =
        [["coin1", "coin3"]] ∧
      ∀ signing ∈ (greedyServer.afterPayment regtest usdtRequest {}).signed,
        Verified regtest (greedyServer.afterPayment regtest usdtRequest {}).heard signing :=
  ⟨by decide +kernel, signed_verified {} (greedyServer.runs_afterPayment usdtRequest {})⟩

/-! ## What is not compared -/

/-- **What is not compared.** Whatever quote within the approved fees the server has given, on a payment from L-BTC by a
wallet whose balance is enough for the quote, it can then start the swap with any amounts that the wallet's L-BTC outputs
are enough for, and a PSET with these is signed. -/
theorem signed_unbound (db : Payments.PaymentDb) {req : PaySideSwapRequest} {server : Server} {swap : AssetSwap}
    {toAsset : AssetId} {receiverAddress : Address} {listed : List WalletTxOut}
    (hfrom : elements.assetId (req.fromAsset.getD req.toAsset) = .ok elements.lbtcAssetId)
    (hto : elements.assetId req.toAsset = .ok toAsset)
    (hreceiver : elements.address req.addressData.address = .ok receiverAddress)
    (hswap : AssetSwap.tryFromPriceStreamRes elements.lbtcAssetId server.quote = .ok swap)
    (hfees : swap.feesSat ≤ req.feesSat) (hbalance : swap.payerAmountSat ≤ server.balanceSat)
    (hlisted : listed = server.utxos.filter fun u => u.asset = elements.lbtcAssetId) (hsome : listed ≠ [])
    (hne : elements.scriptPubkey receiverAddress ≠ elements.scriptPubkey server.changeAddress) :
    ∀ startRes : StartSwapWebResponse, startRes.sendAmount ≤ totalValue (spendable elements.lbtcAssetId listed) →
      ∃ pset signing,
        Runs (swapSystem elements) .any ⟨{ db }, []⟩
          ⟨({ server with startRes, pset } : Server).afterPayment elements req db, []⟩ ∧
        (({ server with startRes, pset } : Server).afterPayment elements req db).signed = [signing] ∧
          signing.req = req ∧ signing.swap = swap ∧ signing.startRes = startRes ∧ signing.utxos = listed ∧
          signing.changeAddress = server.changeAddress ∧ signing.pset = pset := by
  intro startRes henough
  have hasset : swap.fromAsset = elements.lbtcAssetId := fromAsset_eq hswap
  let pset := fittingPset elements startRes (selectInputs swap.fromAsset startRes.sendAmount listed [] 0).2
    receiverAddress server.changeAddress
  let started : Server := { server with startRes, pset }
  have hexecute (n : Nat) (s : Ledger) : ∃ heard, (executeSwap elements req receiverAddress swap).run Ledger.effect
      started.answer (n, s) = (.ok "txid", (n + 6,
        { s with signed := started.signing req swap listed receiverAddress :: s.signed, heard })) :=
    @run_executeSwap elements req swap started receiverAddress listed hlisted hsome hasset henough hne rfl n s
  have hrun := @run_paySideswap elements req swap started receiverAddress listed hfrom toAsset hto hreceiver hswap hfees
    hbalance hexecute { db }
  refine ⟨pset, started.signing req swap listed receiverAddress, started.runs_afterPayment req db, ?_, rfl, rfl, rfl,
    rfl, rfl, rfl⟩
  show (started.afterPayment elements req db).signed = _
  unfold Server.afterPayment
  rw [Task.run_bind]
  rcases hresult : (paySideswap elements req).run Ledger.effect started.answer (0, { db }) with ⟨res, w⟩
  rw [hresult] at hrun
  rcases res with err | payment
  · exact hrun
  · exact hrun

/-- The quote is 1000 sat for 900; the server starts the swap at 5000 sat for 1, and the PSET of that is
signed. -/
theorem signed_unbound_greedy : ∃ pset signing,
    Runs (swapSystem regtest) .any ⟨{}, []⟩
      ⟨({ greedyServer with pset } : Server).afterPayment regtest usdtRequest {}, []⟩ ∧
    (({ greedyServer with pset } : Server).afterPayment regtest usdtRequest {}).signed = [signing] ∧
      signing.req = usdtRequest ∧ signing.swap = greedyQuote ∧ signing.startRes = greedyServer.startRes ∧
      signing.utxos = greedyServer.utxos.filter (fun u => u.asset = "lbtc") ∧ signing.changeAddress = "change" ∧
      signing.pset = pset :=
  signed_unbound {}
    rfl rfl rfl rfl (by decide) (by decide) rfl (by decide) (by decide) greedyServer.startRes (by decide)

end Payment

end BreezLiquid.SideSwap
