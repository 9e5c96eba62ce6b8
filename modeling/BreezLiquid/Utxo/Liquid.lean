/-
# BreezLiquid.Utxo.Liquid — the outputs a refund on Liquid is built from.

`get_script_utxos` of the two Liquid backends fetches the history of a script and returns all outputs of its
transactions. It neither looks at the script an output pays nor at what spends it, as the Bitcoin backends do. The
refund takes the first of them.
-/
import BreezLiquid.Model.Types
import BreezLiquid.Lib.Task

namespace BreezLiquid.Utxos

open Ledgers

/-- `Utxo`. -/
inductive Utxo where
  | liquid (outpoint : OutPoint) (txOut : LBtcTxOut)
  | bitcoin (outpoint : OutPoint) (txOut : BtcTxOut)
  deriving DecidableEq, Repr

namespace Utxo

def asBitcoin : Utxo → Option (OutPoint × BtcTxOut)
  | liquid _ _ => none
  | bitcoin outpoint txOut => some (outpoint, txOut)

def asLiquid : Utxo → Option (OutPoint × LBtcTxOut)
  | liquid outpoint txOut => some (outpoint, txOut)
  | bitcoin _ _ => none

end Utxo

/-- How a Liquid transaction is read. -/
def lbtcView : View LBtcTransaction TxId LBtcTxOut where
  txid := LBtcTransaction.txid
  spends tx := tx.input.map TxIn.previousOutput
  outputs := LBtcTransaction.output

/-! ## The Liquid chain services -/

/-- What the client of a Liquid backend answers; a history may be different when it is asked for again. -/
structure LiquidClient where
  getScriptsHistory : (attempt : Nat) → List Script → Except Err (List (List LBtcHistory))
  getTransactions : List TxId → Except Err (List LBtcTransaction)

namespace LiquidChainService

variable (client : LiquidClient)

def getTransactions (txids : List TxId) : Except Err (List LBtcTransaction) := client.getTransactions txids

def getTransactionHex (txid : TxId) : Except Err (Option LBtcTransaction) :=
  (getTransactions client [txid]).map List.head?

def getScriptsHistory (attempt : Nat) (scripts : List Script) : Except Err (List (List LBtcHistory)) :=
  client.getScriptsHistory attempt scripts

def getScriptHistory (attempt : Nat) (script : Script) : Except Err (List LBtcHistory) := do
  okOr (← getScriptsHistory client attempt [script])[0]? "History not found"

/-- The loop of `get_script_history_with_retry`, with the attempts that are left. -/
def retryScriptHistory (script : Script) : (left attempt : Nat) → Except Err (List LBtcHistory)
  | 0, _ => .ok []
  | left + 1, attempt => do
      let scriptHistory ← getScriptHistory client attempt script
      if scriptHistory.isEmpty then retryScriptHistory script left (attempt + 1) else return scriptHistory

def getScriptHistoryWithRetry (script : Script) (retries : Nat) : Except Err (List LBtcHistory) :=
  retryScriptHistory client script (retries + 1) 0

/-- `get_script_utxos`. A transaction that cannot be retrieved is left out. -/
def getScriptUtxos (script : Script) : Except Err (List Utxo) := do
  let history ← getScriptHistoryWithRetry client script 10
  return history.flatMap fun historyItem =>
    match getTransactionHex client historyItem.txid with
    | .ok (some tx) => tx.output.zipIdx.map fun o => .liquid ⟨historyItem.txid, o.2⟩ o.1
    | _ => []

end LiquidChainService

/-- The two backends differ in their clients. -/
def ElectrumLiquidChainService.getScriptUtxos (client : LiquidClient) (script : Script) : Except Err (List Utxo) :=
  LiquidChainService.getScriptUtxos client script

def EsploraLiquidChainService.getScriptUtxos (client : LiquidClient) (script : Script) : Except Err (List Utxo) :=
  LiquidChainService.getScriptUtxos client script

/-! ## The refund -/

/-- The part of an `LBtcSwapTx` of kind `Refund` that is chosen here. -/
structure LBtcSwapTx where
  swapScript : SwapScript
  outputAddress : Script
  fundingOutpoint : OutPoint
  fundingUtxo : LBtcTxOut
  deriving DecidableEq, Repr

/-- The script and the key in `new_lbtc_refund_tx`. -/
def refundScriptAndKey (bz : BoltzClient) : Swap → Except Err (SwapScript × String)
  | .chain swap => do
      if swap.direction ≠ .outgoing then
        .error (.generic "Cannot create LBTC refund tx for incoming Chain swaps")
      let script ← swap.getLockupSwapScript bz >>= SwapScriptV2.asLiquidScript
      return (script, ← okOr (bz.decodeKeypair swap.refundPrivateKey) "Could not decode refund key")
  | .send swap => do
      let script ← swap.getSwapScript bz
      return (script, ← okOr (bz.decodeKeypair swap.refundPrivateKey) "Could not decode refund key")
  | .receive _ => .error (.generic "Cannot create LBTC refund tx for Receive swaps.")

/-- `new_lbtc_refund_tx`, up to its size, its fees and its signature. -/
def newLbtcRefundTx (bz : BoltzClient) (swap : Swap) (refundAddress : Address) (utxos : List Utxo) :
    Except Err LBtcSwapTx := do
  let (swapScript, _) ← refundScriptAndKey bz swap
  let address ← okOr (bz.elementsAddress refundAddress) "Could not parse address"
  let (fundingOutpoint, fundingTxOut) ← okOr (utxos.head?.bind Utxo.asLiquid) "No refundable UTXOs found"
  return { swapScript, outputAddress := address, fundingOutpoint, fundingUtxo := fundingTxOut }

/-- The refund spends the first of the outputs. -/
theorem newLbtcRefundTx_funding {bz : BoltzClient} {swap : Swap} {refundAddress : Address} {utxos : List Utxo}
    {tx : LBtcSwapTx} (h : newLbtcRefundTx bz swap refundAddress utxos = .ok tx) :
    utxos.head? = some (.liquid tx.fundingOutpoint tx.fundingUtxo) := by
  unfold newLbtcRefundTx at h
  obtain ⟨⟨swapScript, key⟩, -, h⟩ := Interleaving.except_bind_eq_ok.mp h
  obtain ⟨address, -, h⟩ := Interleaving.except_bind_eq_ok.mp h
  obtain ⟨⟨outpoint, txOut⟩, hfirst, h⟩ := Interleaving.except_bind_eq_ok.mp h
  cases h
  rw [okOr_eq_ok] at hfirst
  obtain ⟨utxo, hhead, hliquid⟩ := Option.bind_eq_some_iff.mp hfirst
  cases utxo with
  | liquid outpoint' txOut' =>
      cases hliquid
      exact hhead
  | bitcoin outpoint' txOut' => cases hliquid

/-! ## What is listed -/

/-- The backend knows the transactions of a script, each under its own id: it lists them in the history and returns
them by id. -/
structure Serves (client : LiquidClient) (script : Script) (txs : List LBtcTransaction) : Prop where
  history : ∃ history : List LBtcHistory, history.map History.txid = txs.map LBtcTransaction.txid ∧
    ∀ attempt, client.getScriptsHistory attempt [script] = .ok [history]
  transactions : ∀ tx ∈ txs, client.getTransactions [tx.txid] = .ok [tx]
  nodup : (txs.map LBtcTransaction.txid).Nodup

/-- An output that pays the script and that no transaction of its history spends. -/
def Unspent (script : Script) (txs : List LBtcTransaction) (u : OutPoint × LBtcTxOut) : Prop :=
  lbtcView.Unspent txs (fun _ => True) (fun out => out.scriptPubkey = script) u

/-- Exactly the unspent outputs are listed, each once; and a refund built from the list, for whatever swap, spends
one of them, and has one to spend if there is one. -/
structure ListsUnspent (bz : BoltzClient) (script : Script) (txs : List LBtcTransaction) (utxos : List Utxo) :
    Prop where
  lists : ∃ l : List (OutPoint × LBtcTxOut), utxos = l.map (fun u => .liquid u.1 u.2) ∧
    lbtcView.Lists txs (fun _ => True) (fun out => out.scriptPubkey = script) l
  refund : ∀ swap refundAddress tx, newLbtcRefundTx bz swap refundAddress utxos = .ok tx →
    Unspent script txs (tx.fundingOutpoint, tx.fundingUtxo)
  funded : (∃ u, Unspent script txs u) → (utxos.head?.bind Utxo.asLiquid).isSome

/-- Every output of the transactions pays the script, and none of the transactions spends one. -/
def AllUnspent (script : Script) (txs : List LBtcTransaction) : Prop :=
  ∀ tx ∈ txs, (∀ out ∈ tx.output, out.scriptPubkey = script) ∧
    ∀ input ∈ tx.input, ∀ tx' ∈ txs, ∀ vout < tx'.output.length, input.previousOutput ≠ ⟨tx'.txid, vout⟩

instance (script : Script) (txs : List LBtcTransaction) : Decidable (AllUnspent script txs) :=
  inferInstanceAs (Decidable (∀ tx ∈ txs, (∀ out ∈ tx.output, out.scriptPubkey = script) ∧
    ∀ input ∈ tx.input, ∀ tx' ∈ txs, ∀ vout < tx'.output.length, input.previousOutput ≠ ⟨tx'.txid, vout⟩))

namespace LiquidChainService

variable {client : LiquidClient} {script : Script} {txs : List LBtcTransaction}

theorem retryScriptHistory_of_const {history : List LBtcHistory}
    (h : ∀ attempt, client.getScriptsHistory attempt [script] = .ok [history]) (left attempt : Nat) :
    retryScriptHistory client script (left + 1) attempt = .ok history := by
  induction left generalizing attempt with
  | zero =>
      unfold retryScriptHistory getScriptHistory getScriptsHistory
      rw [h]
      cases history with
      | nil => rfl
      | cons entry history => rfl
  | succ left ih =>
      unfold retryScriptHistory getScriptHistory getScriptsHistory
      rw [h]
      cases history with
      | nil => exact ih (attempt + 1)
      | cons entry history => rfl

/-- All outputs of all transactions are returned. -/
theorem getScriptUtxos_of_serves (h : Serves client script txs) :
    getScriptUtxos client script = .ok ((txs.flatMap lbtcView.outputsOf).map fun u => .liquid u.1 u.2) := by
  obtain ⟨history, hids, hhistory⟩ := h.history
  have hfetched : getScriptHistoryWithRetry client script 10 = .ok history :=
    retryScriptHistory_of_const hhistory 10 0
  unfold getScriptUtxos
  rw [hfetched]
  show Except.ok _ = _
  congr 1
  have htransactions := h.transactions
  clear hfetched hhistory h
  induction txs generalizing history with
  | nil =>
      rw [List.map_nil, List.map_eq_nil_iff] at hids
      rw [hids]
      rfl
  | cons tx txs ih =>
      obtain ⟨entry, rest, rfl, hid, hrest⟩ := List.map_eq_cons_iff.mp hids
      have hhex : getTransactionHex client entry.txid = .ok (some tx) := by
        unfold getTransactionHex getTransactions
        rw [hid, htransactions tx List.mem_cons_self]
        rfl
      rw [List.flatMap_cons, List.flatMap_cons, List.map_append, hhex,
        ih rest hrest fun tx' hmem => htransactions tx' (List.mem_cons_of_mem _ hmem), hid]
      unfold View.outputsOf
      rw [List.map_map]
      rfl

end LiquidChainService

theorem allUnspent_iff {script : Script} {txs : List LBtcTransaction} :
    AllUnspent script txs ↔ ∀ u ∈ txs.flatMap lbtcView.outputsOf,
      u.2.scriptPubkey = script ∧ ∀ tx ∈ txs, True → u.1 ∉ lbtcView.spends tx := by
  constructor
  · intro h u hu
    obtain ⟨tx, htx, hu⟩ := List.mem_flatMap.mp hu
    obtain ⟨hid, hget⟩ := View.mem_outputsOf.mp hu
    refine ⟨(h tx htx).1 u.2 (List.mem_of_getElem? hget), ?_⟩
    intro tx' htx' _ hspends
    obtain ⟨input, hinput, hprevious⟩ := List.mem_map.mp hspends
    have hvout : u.1.vout < tx.output.length := (List.getElem?_eq_some_iff.mp hget).1
    apply (h tx' htx').2 input hinput tx htx u.1.vout hvout
    rw [hprevious]
    exact congrArg (fun id => (⟨id, u.1.vout⟩ : OutPoint)) hid
  · intro h tx htx
    constructor
    · intro out hout
      obtain ⟨vout, hu⟩ := View.exists_outputsOf_of_mem (v := lbtcView) hout
      exact (h _ (List.mem_flatMap.mpr ⟨tx, htx, hu⟩)).1
    · intro input hinput tx' htx' vout hvout hprevious
      have hu : ((⟨tx'.txid, vout⟩, tx'.output[vout]) : OutPoint × LBtcTxOut) ∈ lbtcView.outputsOf tx' :=
        View.mem_outputsOf.mpr ⟨rfl, List.getElem?_eq_getElem hvout⟩
      have hunspent := (h _ (List.mem_flatMap.mpr ⟨tx', htx', hu⟩)).2 tx htx trivial
      exact hunspent (List.mem_map.mpr ⟨input, hinput, hprevious⟩)

theorem LiquidChainService.getScriptUtxos_listsUnspent_iff {bz : BoltzClient} {client : LiquidClient}
    {script : Script} {txs : List LBtcTransaction} (h : Serves client script txs) :
    (∃ utxos, getScriptUtxos client script = .ok utxos ∧ ListsUnspent bz script txs utxos) ↔
      AllUnspent script txs := by
  have hnodup : (txs.map lbtcView.txid).Nodup := h.nodup
  have hall : lbtcView.Lists txs (fun _ => True) (fun out => out.scriptPubkey = script)
      (txs.flatMap lbtcView.outputsOf) ↔ AllUnspent script txs :=
    (View.lists_all_iff hnodup).trans allUnspent_iff.symm
  rw [getScriptUtxos_of_serves h, ← hall]
  constructor
  · rintro ⟨utxos, hutxos, hlists⟩
    cases hutxos
    obtain ⟨l, hl, hexact⟩ := hlists.lists
    have hinj : Function.Injective fun u : OutPoint × LBtcTxOut => Utxo.liquid u.1 u.2 := by
      rintro ⟨outpoint, out⟩ ⟨outpoint', out'⟩ heq
      cases heq
      rfl
    rw [List.map_injective_iff.mpr hinj hl]
    exact hexact
  · intro hexact
    refine ⟨_, rfl, ⟨_, rfl, hexact⟩, ?_, ?_⟩
    · intro swap refundAddress tx htx
      have hhead := newLbtcRefundTx_funding htx
      have hmem := List.mem_of_head? hhead
      obtain ⟨u, hu, heq⟩ := List.mem_map.mp hmem
      obtain ⟨houtpoint, htxOut⟩ := Utxo.liquid.inj heq
      rw [← houtpoint, ← htxOut]
      exact (hexact.mem_iff u).mp hu
    · rintro ⟨u, hu⟩
      have hmem := (hexact.mem_iff u).mpr hu
      cases hall : txs.flatMap lbtcView.outputsOf with
      | nil =>
          rw [hall] at hmem
          exact absurd hmem List.not_mem_nil
      | cons first rest => rfl

/-- For every history of a script and its transactions: the two Liquid backends list exactly the unspent outputs, and
the refund spends one of them, exactly if there are no other outputs. -/
theorem getScriptUtxos_exact_iff {bz : BoltzClient} {client : LiquidClient} {script : Script}
    {txs : List LBtcTransaction} (h : Serves client script txs) :
    ((∃ utxos, ElectrumLiquidChainService.getScriptUtxos client script = .ok utxos ∧
        ListsUnspent bz script txs utxos) ↔ AllUnspent script txs) ∧
      ((∃ utxos, EsploraLiquidChainService.getScriptUtxos client script = .ok utxos ∧
        ListsUnspent bz script txs utxos) ↔ AllUnspent script txs) :=
  ⟨LiquidChainService.getScriptUtxos_listsUnspent_iff h, LiquidChainService.getScriptUtxos_listsUnspent_iff h⟩

/-- A backend with the given transactions of one script. -/
def LiquidClient.ofTransactions (txs : List LBtcTransaction) : LiquidClient where
  getScriptsHistory _ scripts := .ok (scripts.map fun _ => txs.map fun tx => ⟨tx.txid, 10⟩)
  getTransactions txids := .ok (txids.filterMap fun txid => txs.find? fun tx => tx.txid = txid)

/-- A payment to the script, with its fee output. -/
def payment (txid : TxId) : LBtcTransaction where
  txid := txid
  output := [⟨"script", some ("lbtc", 1000)⟩, ⟨"", some ("lbtc", 20)⟩]

def refundOfFirst : LBtcTransaction where
  txid := "refund"
  input := [⟨false, [], ⟨"first", 0⟩⟩]
  output := [⟨"wallet", some ("lbtc", 980)⟩, ⟨"", some ("lbtc", 20)⟩]

/-- A first payment and its refund, and a second payment. -/
def paidAgain : List LBtcTransaction := [payment "first", refundOfFirst, payment "second"]

/-- Two payments, and nothing else. -/
def unspentPayments : List LBtcTransaction :=
  [{ txid := "first", output := [⟨"script", some ("lbtc", 1000)⟩, ⟨"script", some ("lbtc", 500)⟩] },
    { txid := "second", output := [⟨"script", some ("lbtc", 2000)⟩] }]

/-- With nothing but two payments, all that they pay is listed. -/
theorem getScriptUtxos_twoPayments :
    (∃ utxos, ElectrumLiquidChainService.getScriptUtxos (.ofTransactions unspentPayments) "script" = .ok utxos ∧
        ListsUnspent (.byAddress 0) "script" unspentPayments utxos) ∧
      ∃ utxos, EsploraLiquidChainService.getScriptUtxos (.ofTransactions unspentPayments) "script" = .ok utxos ∧
        ListsUnspent (.byAddress 0) "script" unspentPayments utxos := by
  have hserves : Serves (.ofTransactions unspentPayments) "script" unspentPayments := by
    refine ⟨⟨[⟨"first", 10⟩, ⟨"second", 10⟩], rfl, fun _ => rfl⟩, ?_, by decide⟩
    intro tx htx
    rcases List.mem_cons.mp htx with rfl | htx
    · rfl
    · rw [List.mem_singleton.mp htx]
      rfl
  have hunspent : AllUnspent "script" unspentPayments := by decide
  exact ⟨(getScriptUtxos_exact_iff hserves).1.mpr hunspent, (getScriptUtxos_exact_iff hserves).2.mpr hunspent⟩

/-- The spent output, the fees and the payment to the wallet are listed too, and the refund is built from the spent
output, while the second payment stays where it is. -/
theorem getScriptUtxos_spent :
    ElectrumLiquidChainService.getScriptUtxos (.ofTransactions paidAgain) "script" =
        EsploraLiquidChainService.getScriptUtxos (.ofTransactions paidAgain) "script" ∧
      (∃ utxos, ElectrumLiquidChainService.getScriptUtxos (.ofTransactions paidAgain) "script" = .ok utxos ∧
        utxos.length = 6 ∧ ¬ ListsUnspent (.byAddress 0) "script" paidAgain utxos ∧
        ∃ tx, newLbtcRefundTx (.byAddress 0) (.send { id := "s", createResponseJson := "script" }) "wallet" utxos =
            .ok tx ∧ tx.fundingOutpoint = ⟨"first", 0⟩) ∧
      Unspent "script" paidAgain (⟨"second", 0⟩, ⟨"script", some ("lbtc", 1000)⟩) := by
  refine ⟨rfl, ⟨_, rfl, rfl, ?_, ⟨_, rfl, rfl⟩⟩, ?_⟩
  · intro hlists
    have hunspent := hlists.refund (.send { id := "s", createResponseJson := "script" }) "wallet" _ rfl
    exact hunspent.2.2 refundOfFirst (by decide) trivial (by decide)
  · refine ⟨⟨payment "second", by decide, by decide⟩, rfl, ?_⟩
    intro tx htx _
    revert tx
    decide

end BreezLiquid.Utxos
