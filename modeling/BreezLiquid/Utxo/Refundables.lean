/-
# BreezLiquid.Utxo.Refundables — the failed incoming chain swaps and what is left in their lockup scripts.

`get_scripts_utxos` of the Bitcoin backends fetches the histories of all scripts at once and returns the unspent
outputs of each, in the order a hash map happens to have. `list_refundables` finds the list of a script again by the
script its first output pays. That works for all histories and orders; what does not is a swap of the other
direction, which is listed as well and whose lockup script is not a Bitcoin script.
-/
import BreezLiquid.Utxo.Liquid
import BreezLiquid.Persist.Swaps

namespace BreezLiquid

/-! ## The swaps -/

namespace Db

def listRefundableChainSwaps (db : Db) : List ChainSwap := db.listChainSwapsByState [.refundable, .refundPending]

end Db

/-- `RefundableSwap`. -/
structure RefundableSwap where
  swapAddress : Address
  timestamp : Nat
  amountSat : Nat
  lastRefundTxId : Option TxId
  deriving DecidableEq, Repr

namespace ChainSwap

def getReceiveLockupSwapScriptPubkey (bz : BoltzClient) (swap : ChainSwap) : Except Err Script := do
  let swapScript ← swap.getLockupSwapScript bz >>= SwapScriptV2.asBitcoinScript
  okOr swapScript.toAddress "Error getting script address"

def toRefundable (swap : ChainSwap) (amountSat : Nat) : RefundableSwap where
  swapAddress := swap.lockupAddress
  timestamp := swap.createdAt
  amountSat := amountSat
  lastRefundTxId := swap.refundTxId

end ChainSwap

namespace Utxos

open Collections Ledgers

/-! ## The Bitcoin chain services -/

/-- What the two backends answer. -/
structure BitcoinChainService where
  getScriptsHistory : List Script → Except Err (List (List BtcHistory))
  getTransactions : List TxId → Except Err (List BtcTransaction)

/-- The Electrum client answers in batches; an unconfirmed transaction has height 0 or −1. -/
structure ElectrumClient where
  batchScriptGetHistory : List Script → Except Err (List (List (TxId × Int)))
  batchTransactionGetRaw : List TxId → Except Err (List BtcTransaction)

/-- The Esplora client answers one request at a time; an unconfirmed transaction has no height. -/
structure EsploraClient where
  scripthashTxs : Script → Except Err (List (TxId × Option Nat))
  getTx : TxId → Except Err (Option BtcTransaction)

def ElectrumBitcoinChainService (client : ElectrumClient) : BitcoinChainService where
  getScriptsHistory scripts := do
    return (← client.batchScriptGetHistory scripts).map fun history => history.map fun h => ⟨h.1, h.2⟩
  getTransactions := client.batchTransactionGetRaw

def EsploraBitcoinChainService (client : EsploraClient) : BitcoinChainService where
  getScriptsHistory scripts := scripts.mapM fun script => do
    let txs ← client.scripthashTxs script
    -- `h as i32`
    return txs.map fun tx => ⟨tx.1, (tx.2.map fun height => (height : Int).bmod (2 ^ 32)).getD (-1)⟩
  getTransactions txids := txids.mapM fun txid => do
    okOr (← client.getTx txid) "Transaction not found"

inductive Backend where
  | electrum (client : ElectrumClient)
  | esplora (client : EsploraClient)

def Backend.service : Backend → BitcoinChainService
  | electrum client => ElectrumBitcoinChainService client
  | esplora client => EsploraBitcoinChainService client

/-- The orders of the hash maps in `get_scripts_utxos`. -/
structure MapOrders where
  confirmed : HashMap.Order TxId Bool
  scripts : HashMap.Order Script (List BtcTransaction)

/-- A confirmed transaction of the list spends the output. -/
def isSpentByConfirmed (txConfirmedMap : HashMap TxId Bool) (txs : List BtcTransaction) (outpoint : OutPoint) : Bool :=
  txs.any fun spendingTx =>
    let spendsOurOutput := spendingTx.input.any fun input => input.previousOutput = outpoint
    if spendsOurOutput then (txConfirmedMap.lookup spendingTx.txid).getD false else false

/-- The outputs of the transactions that pay the script and are not spent by a confirmed one. -/
def scriptUtxos (txConfirmedMap : HashMap TxId Bool) (script : Script) (txs : List BtcTransaction) : List Utxo :=
  txs.flatMap fun tx =>
    ((tx.output.zipIdx.filter fun o => o.1.scriptPubkey = script).filter fun o =>
      !isSpentByConfirmed txConfirmedMap txs ⟨tx.txid, o.2⟩).map fun o => .bitcoin ⟨tx.txid, o.2⟩ o.1

/-- `get_scripts_utxos`, which is the same in both backends. -/
def getScriptsUtxos (service : BitcoinChainService) (orders : MapOrders) (scripts : List Script) :
    Except Err (List (List Utxo)) := do
  let scriptsHistory ← service.getScriptsHistory scripts
  let txConfirmedMap := HashMap.ofList (scriptsHistory.flatten.map fun h => (h.txid, decide (0 < h.height)))
  let txs ← service.getTransactions ((orders.confirmed.entries txConfirmedMap).map Prod.fst)
  let scriptTxsMap := HashMap.ofList <| (scripts.zip scriptsHistory).map fun e =>
    (e.1, e.2.filterMap fun h => txs.find? fun tx => tx.txid = h.txid)
  return (orders.scripts.entries scriptTxsMap).map fun e => scriptUtxos txConfirmedMap e.1 e.2

/-- `get_script_utxos` of the Bitcoin backends. -/
def getScriptUtxos (service : BitcoinChainService) (orders : MapOrders) (script : Script) : Except Err (List Utxo) := do
  return (← getScriptsUtxos service orders [script]).head?.getD []

/-! ## The refundable swaps -/

/-- The lists by the script their first output pays. -/
def scriptToUtxosMap (scriptsUtxos : List (List Utxo)) : HashMap Script (List Utxo) :=
  HashMap.ofList <| scriptsUtxos.filterMap fun scriptUtxos =>
    (scriptUtxos.head?.bind Utxo.asBitcoin).map fun first => (first.2.scriptPubkey, scriptUtxos)

/-- What the outputs of a script sum to. There are less than `2 ^ 51` sat, so the sum of `u64`s does not wrap. -/
def amountSat (scriptUtxos : List Utxo) : Nat :=
  ((scriptUtxos.filterMap Utxo.asBitcoin).map fun utxo => utxo.2.value).sum

/-- `list_refundables`, for the chain swaps that `list_refundable_chain_swaps` returned. -/
def listRefundablesOf (bz : BoltzClient) (service : BitcoinChainService) (orders : MapOrders)
    (chainSwaps : List ChainSwap) : Except Err (List RefundableSwap) := do
  let chainSwapsWithScripts ← chainSwaps.mapM fun swap => do
    return (swap, ← swap.getReceiveLockupSwapScriptPubkey bz)
  let scriptsUtxos ← getScriptsUtxos service orders (chainSwapsWithScripts.map Prod.snd)
  let utxosMap := scriptToUtxosMap scriptsUtxos
  return chainSwapsWithScripts.filterMap fun e =>
    (utxosMap.lookup e.2).map fun scriptUtxos => e.1.toRefundable (amountSat scriptUtxos)

def listRefundables (bz : BoltzClient) (service : BitcoinChainService) (orders : MapOrders) (db : Db) :
    Except Err (List RefundableSwap) :=
  listRefundablesOf bz service orders db.listRefundableChainSwaps

/-! ## The chain behind a backend -/

/-- Transactions with different ids, and whether they are confirmed. -/
structure BtcLedger where
  txs : List (BtcTransaction × Bool)
  nodup : (txs.map fun t => t.1.txid).Nodup

/-- How a transaction of a ledger is read. -/
def btcView : View (BtcTransaction × Bool) TxId BtcTxOut where
  txid t := t.1.txid
  spends t := t.1.input.map TxIn.previousOutput
  outputs t := t.1.output

namespace BtcLedger

variable (ledger : BtcLedger)

/-- The transaction pays the script, or spends an output that does. -/
def Touches (script : Script) (t : BtcTransaction × Bool) : Prop :=
  ∃ t' ∈ ledger.txs, ∃ u ∈ btcView.outputsOf t', u.2.scriptPubkey = script ∧ (t' = t ∨ u.1 ∈ btcView.spends t)

/-- An output that pays the script and is not spent by a confirmed transaction. -/
def Unspent (script : Script) (u : OutPoint × BtcTxOut) : Prop :=
  btcView.Unspent ledger.txs (fun t => t.2 = true) (fun out => out.scriptPubkey = script) u

/-- Exactly these outputs, each once. -/
def ListsUnspent (script : Script) (l : List (OutPoint × BtcTxOut)) : Prop :=
  btcView.Lists ledger.txs (fun t => t.2 = true) (fun out => out.scriptPubkey = script) l

/-- A history of the script: its transactions, each once and in any order, with a height above zero if they are
confirmed. -/
structure HistoryOf (script : Script) (history : List BtcHistory) : Prop where
  nodup : (history.map History.txid).Nodup
  complete : ∀ t ∈ ledger.txs, ledger.Touches script t → t.1.txid ∈ history.map History.txid
  sound : ∀ h ∈ history, ∃ t ∈ ledger.txs, t.1.txid = h.txid ∧ t.2 = h.confirmed

/-- The backend answers from the ledger. Of Esplora this asks that no script has more than 25 confirmed transactions: it
answers a history page by page, and only the first page is asked for. -/
structure Serves (service : BitcoinChainService) : Prop where
  history : ∀ scripts, ∃ histories, service.getScriptsHistory scripts = .ok histories ∧
    List.Forall₂ ledger.HistoryOf scripts histories
  transactions : ∀ txids, (∀ txid ∈ txids, ∃ t ∈ ledger.txs, t.1.txid = txid) →
    ∃ txs, service.getTransactions txids = .ok txs ∧
      List.Forall₂ (fun txid tx => tx.txid = txid ∧ ∃ t ∈ ledger.txs, t.1 = tx) txids txs

variable {ledger}

theorem eq_of_txid {t t' : BtcTransaction × Bool} (ht : t ∈ ledger.txs) (ht' : t' ∈ ledger.txs)
    (h : t.1.txid = t'.1.txid) : t = t' :=
  List.inj_on_of_nodup_map ledger.nodup ht ht' h

/-- What is unspent among the transactions of a script is unspent. -/
theorem listsUnspent_of_history {script : Script} {ts : List (BtcTransaction × Bool)}
    {l : List (OutPoint × BtcTxOut)} (hsub : ∀ t ∈ ts, t ∈ ledger.txs)
    (hcomplete : ∀ t ∈ ledger.txs, ledger.Touches script t → t ∈ ts)
    (h : btcView.Lists ts (fun t => t.2 = true) (fun out => out.scriptPubkey = script) l) :
    ledger.ListsUnspent script l := by
  refine ⟨h.nodup, ?_⟩
  intro u
  rw [h.mem_iff]
  constructor
  · rintro ⟨⟨t, ht, hu⟩, hpays, hunspent⟩
    refine ⟨⟨t, hsub t ht, hu⟩, hpays, ?_⟩
    intro t' ht' hconfirmed hspends
    exact hunspent t' (hcomplete t' ht' ⟨t, hsub t ht, u, hu, hpays, .inr hspends⟩) hconfirmed hspends
  · rintro ⟨⟨t, ht, hu⟩, hpays, hunspent⟩
    refine ⟨⟨t, hcomplete t ht ⟨t, ht, u, hu, hpays, .inl rfl⟩, hu⟩, hpays, ?_⟩
    intro t' ht' hconfirmed
    exact hunspent t' (hsub t' ht') hconfirmed

/-- The transactions of a history, in its order. -/
theorem exists_txs_of_history {script : Script} {history : List BtcHistory} (h : ledger.HistoryOf script history)
    {txs : List BtcTransaction} (htxs : ∀ tx ∈ txs, ∃ t ∈ ledger.txs, t.1 = tx)
    (hfetched : ∀ entry ∈ history, ∃ tx ∈ txs, tx.txid = entry.txid) :
    ∃ ts : List (BtcTransaction × Bool), (∀ t ∈ ts, t ∈ ledger.txs) ∧
      List.Forall₂ (fun t entry => t.1.txid = entry.txid ∧ t.2 = entry.confirmed) ts history ∧
      (history.filterMap fun entry => txs.find? fun tx => tx.txid = entry.txid) = ts.map Prod.fst := by
  have hsound := h.sound
  clear h
  induction history with
  | nil => exact ⟨[], fun t ht => absurd ht List.not_mem_nil, .nil, rfl⟩
  | cons entry history ih =>
      obtain ⟨ts, hsub, hforall, hfound⟩ := ih (fun e he => hfetched e (List.mem_cons_of_mem _ he))
        fun e he => hsound e (List.mem_cons_of_mem _ he)
      obtain ⟨t, ht, hid, hconfirmed⟩ := hsound entry List.mem_cons_self
      have hfind : (txs.find? fun tx => tx.txid = entry.txid) = some t.1 := by
        cases hfind : txs.find? fun tx => tx.txid = entry.txid with
        | none =>
            obtain ⟨tx, htx, htxid⟩ := hfetched entry List.mem_cons_self
            exact absurd (decide_eq_true htxid) (List.find?_eq_none.mp hfind tx htx)
        | some tx =>
            obtain ⟨t', ht', rfl⟩ := htxs tx (List.mem_of_find?_eq_some hfind)
            have hfirst := List.find?_some hfind
            have htxid : t'.1.txid = entry.txid := by simpa using hfirst
            rw [eq_of_txid ht' ht (htxid.trans hid.symm)]
      refine ⟨t :: ts, ?_, .cons ⟨hid, hconfirmed⟩ hforall, ?_⟩
      · intro t' ht'
        rcases List.mem_cons.mp ht' with rfl | ht'
        · exact ht
        · exact hsub t' ht'
      · rw [List.filterMap_cons, hfind, hfound, List.map_cons]

end BtcLedger

/-! ## The lists of the scripts -/

section Scripts

variable {ledger : BtcLedger} {confirmedMap : HashMap TxId Bool}

/-- An output as an element of a list. -/
def bitcoinUtxo (u : OutPoint × BtcTxOut) : Utxo := .bitcoin u.1 u.2

theorem scriptUtxos_eq (script : Script) (ts : List (BtcTransaction × Bool)) :
    scriptUtxos confirmedMap script (ts.map Prod.fst) =
      ((ts.flatMap btcView.outputsOf).filter fun u =>
        decide (u.2.scriptPubkey = script) && !isSpentByConfirmed confirmedMap (ts.map Prod.fst) u.1).map
          bitcoinUtxo := by
  have hstep : ∀ t : BtcTransaction × Bool,
      ((t.1.output.zipIdx.filter fun o => o.1.scriptPubkey = script).filter fun o =>
        !isSpentByConfirmed confirmedMap (ts.map Prod.fst) ⟨t.1.txid, o.2⟩).map
          (fun o => Utxo.bitcoin ⟨t.1.txid, o.2⟩ o.1) =
      ((btcView.outputsOf t).filter fun u => decide (u.2.scriptPubkey = script) &&
        !isSpentByConfirmed confirmedMap (ts.map Prod.fst) u.1).map bitcoinUtxo := by
    intro t
    unfold View.outputsOf
    rw [List.filter_map, List.map_map, List.filter_filter]
    have hpred : (fun o : BtcTxOut × Nat =>
          !isSpentByConfirmed confirmedMap (ts.map Prod.fst) ⟨t.1.txid, o.2⟩ &&
            decide (o.1.scriptPubkey = script)) =
        fun o => decide (o.1.scriptPubkey = script) &&
          !isSpentByConfirmed confirmedMap (ts.map Prod.fst) ⟨t.1.txid, o.2⟩ := by
      funext o
      rw [Bool.and_comm]
    rw [hpred]
    rfl
  unfold scriptUtxos
  rw [List.flatMap_map, List.filter_flatMap, List.map_flatMap]
  exact List.flatMap_congr fun t _ => hstep t

theorem isSpentByConfirmed_iff {ts : List (BtcTransaction × Bool)}
    (hmap : ∀ t ∈ ts, (confirmedMap.lookup t.1.txid).getD false = t.2) {outpoint : OutPoint} :
    isSpentByConfirmed confirmedMap (ts.map Prod.fst) outpoint = true ↔
      ∃ t ∈ ts, t.2 = true ∧ outpoint ∈ btcView.spends t := by
  unfold isSpentByConfirmed
  rw [List.any_map, List.any_eq_true]
  have hstep : ∀ t ∈ ts, ((if (t.1.input.any fun input => decide (input.previousOutput = outpoint)) = true
      then (confirmedMap.lookup t.1.txid).getD false else false) = true ↔
        t.2 = true ∧ outpoint ∈ btcView.spends t) := by
    intro t ht
    rw [hmap t ht]
    have hspends : (t.1.input.any fun input => decide (input.previousOutput = outpoint)) = true ↔
        outpoint ∈ btcView.spends t := by
      rw [List.any_eq_true]
      constructor
      · rintro ⟨input, hinput, heq⟩
        exact List.mem_map.mpr ⟨input, hinput, of_decide_eq_true heq⟩
      · intro hmem
        obtain ⟨input, hinput, heq⟩ := List.mem_map.mp hmem
        exact ⟨input, hinput, decide_eq_true heq⟩
    rw [← hspends]
    split
    · rename_i hspent
      rw [hspent]
      simp
    · rename_i hspent
      simp [hspent]
  constructor
  · rintro ⟨t, ht, hspent⟩
    exact ⟨t, ht, (hstep t ht).mp hspent⟩
  · rintro ⟨t, ht, hspent⟩
    exact ⟨t, ht, (hstep t ht).mpr hspent⟩

/-- The list of a script has exactly its unspent outputs. -/
theorem scriptUtxos_listsUnspent {script : Script} {ts : List (BtcTransaction × Bool)}
    (hsub : ∀ t ∈ ts, t ∈ ledger.txs) (hnodup : (ts.map btcView.txid).Nodup)
    (hcomplete : ∀ t ∈ ledger.txs, ledger.Touches script t → t ∈ ts)
    (hmap : ∀ t ∈ ts, (confirmedMap.lookup t.1.txid).getD false = t.2) :
    ∃ l, scriptUtxos confirmedMap script (ts.map Prod.fst) = l.map bitcoinUtxo ∧ ledger.ListsUnspent script l := by
  refine ⟨_, scriptUtxos_eq script ts, BtcLedger.listsUnspent_of_history hsub hcomplete ?_⟩
  apply View.lists_filter hnodup
  intro u _
  rw [Bool.and_eq_true, decide_eq_true_iff, Bool.not_eq_true', ← Bool.not_eq_true, isSpentByConfirmed_iff hmap]
  apply and_congr_right
  intro _
  constructor
  · intro h t ht hconfirmed hspends
    exact h ⟨t, ht, hconfirmed, hspends⟩
  · rintro h ⟨t, ht, hconfirmed, hspends⟩
    exact h t ht hconfirmed hspends

/-- Every entry of every history has its confirmation in the map. -/
theorem lookup_confirmed {scripts : List Script} {histories : List (List BtcHistory)}
    (h : List.Forall₂ ledger.HistoryOf scripts histories) {history : List BtcHistory} (hmem : history ∈ histories)
    {entry : BtcHistory} (hentry : entry ∈ history) :
    (HashMap.ofList (histories.flatten.map fun h => (h.txid, decide (0 < h.height)))).lookup entry.txid =
      some entry.confirmed := by
  have hsound : ∀ history ∈ histories, ∀ entry ∈ history, ∃ t ∈ ledger.txs, t.1.txid = entry.txid ∧
      t.2 = entry.confirmed := by
    intro history hmem entry hentry
    obtain ⟨script, -, hhistory⟩ := exists_partner h hmem
    exact hhistory.sound entry hentry
  apply HashMap.lookup_ofList_of_forall
  · exact List.mem_map.mpr ⟨entry, List.mem_flatten.mpr ⟨history, hmem, hentry⟩, rfl⟩
  · intro confirmed hother
    obtain ⟨entry', hentry', heq⟩ := List.mem_map.mp hother
    obtain ⟨hid, hconfirmed⟩ := Prod.mk.inj heq
    obtain ⟨history', hmem', hentry'⟩ := List.mem_flatten.mp hentry'
    obtain ⟨t, ht, htxid, ht2⟩ := hsound history hmem entry hentry
    obtain ⟨t', ht', htxid', ht2'⟩ := hsound history' hmem' entry' hentry'
    have hsame : t' = t := BtcLedger.eq_of_txid ht' ht (by rw [htxid', htxid, hid])
    rw [← ht2, ← hsame, ht2']
    exact hconfirmed.symm

/-- One list for each script, in some order. -/
structure ListsByScript (ledger : BtcLedger) (scripts ss : List Script) (lists : List (List Utxo)) : Prop where
  nodup : ss.Nodup
  mem_iff : ∀ script, script ∈ ss ↔ script ∈ scripts
  lists : List.Forall₂ (fun script utxos => ∃ l, utxos = l.map bitcoinUtxo ∧ ledger.ListsUnspent script l) ss lists

theorem getScriptsUtxos_of_serves {service : BitcoinChainService} (h : ledger.Serves service) (orders : MapOrders)
    (scripts : List Script) :
    ∃ lists, getScriptsUtxos service orders scripts = .ok lists ∧ ∃ ss, ListsByScript ledger scripts ss lists := by
  obtain ⟨histories, hhistories, hforall⟩ := h.history scripts
  have hconfirmed : ∀ history ∈ histories, ∀ entry ∈ history, _ :=
    fun history hmem entry hentry => lookup_confirmed hforall hmem hentry
  -- the ids that are asked for
  have hkeys : ∀ txid ∈ (orders.confirmed.entries (HashMap.ofList
      (histories.flatten.map fun h => (h.txid, decide (0 < h.height))))).map Prod.fst,
      ∃ t ∈ ledger.txs, t.1.txid = txid := by
    intro txid hmem
    obtain ⟨⟨txid, confirmed⟩, hentry, rfl⟩ := List.mem_map.mp hmem
    have hcollected := HashMap.mem_of_lookup_ofList (HashMap.Order.mem_entries.mp hentry)
    obtain ⟨entry, hentry, heq⟩ := List.mem_map.mp hcollected
    obtain ⟨history, hhistory, hentry⟩ := List.mem_flatten.mp hentry
    obtain ⟨script, -, hof⟩ := exists_partner hforall hhistory
    obtain ⟨t, ht, htxid, -⟩ := hof.sound entry hentry
    exact ⟨t, ht, htxid.trans (congrArg Prod.fst heq)⟩
  obtain ⟨txs, htxs, hfetched⟩ := h.transactions _ hkeys
  unfold getScriptsUtxos
  rw [hhistories]
  dsimp only [bind, Except.bind]
  rw [htxs]
  refine ⟨_, rfl, ?_⟩
  generalize hmap : HashMap.ofList (histories.flatten.map fun h => (h.txid, decide (0 < h.height))) = confirmedMap
    at hconfirmed hfetched
  generalize hscripts : HashMap.ofList ((scripts.zip histories).map fun e =>
    (e.1, e.2.filterMap fun h => txs.find? fun tx => tx.txid = h.txid)) = scriptTxsMap
  have hzip := List.forall₂_iff_zip.mp hforall
  refine ⟨(orders.scripts.entries scriptTxsMap).map Prod.fst, orders.scripts.nodup_keys _, ?_, ?_⟩
  · intro script
    have hkeys : script ∈ (orders.scripts.entries scriptTxsMap).map Prod.fst ↔ script ∈ scriptTxsMap := by
      rw [List.mem_map, ← AList.lookup_isSome, Option.isSome_iff_exists]
      constructor
      · rintro ⟨⟨script, found⟩, hentry, rfl⟩
        exact ⟨found, HashMap.Order.mem_entries.mp hentry⟩
      · rintro ⟨found, hlookup⟩
        exact ⟨(script, found), HashMap.Order.mem_entries.mpr hlookup, rfl⟩
    rw [hkeys, ← hscripts, HashMap.mem_ofList]
    constructor
    · rintro ⟨e, he, rfl⟩
      obtain ⟨pair, hpair, rfl⟩ := List.mem_map.mp he
      exact (List.of_mem_zip hpair).1
    · intro hmem
      have hfst : scripts = (scripts.zip histories).map Prod.fst :=
        (List.map_fst_zip hzip.1.le).symm
      rw [hfst] at hmem
      obtain ⟨pair, hpair, rfl⟩ := List.mem_map.mp hmem
      exact ⟨_, List.mem_map.mpr ⟨pair, hpair, rfl⟩, rfl⟩
  · rw [List.forall₂_map_left_iff, List.forall₂_map_right_iff, List.forall₂_same]
    rintro ⟨script, found⟩ hentry
    have hlookup := HashMap.Order.mem_entries.mp hentry
    rw [← hscripts] at hlookup
    obtain ⟨⟨script', history⟩, hpair, heq⟩ := List.mem_map.mp (HashMap.mem_of_lookup_ofList hlookup)
    obtain ⟨rfl, rfl⟩ := Prod.mk.inj heq
    have hof := hzip.2 hpair
    have hhistory : history ∈ histories := (List.of_mem_zip hpair).2
    have hledger : ∀ tx ∈ txs, ∃ t ∈ ledger.txs, t.1 = tx := by
      intro tx htx
      obtain ⟨txid, -, -, hknown⟩ := exists_partner hfetched htx
      exact hknown
    have hfound : ∀ entry ∈ history, ∃ tx ∈ txs, tx.txid = entry.txid := by
      intro entry hentry
      have hkey : entry.txid ∈ (orders.confirmed.entries confirmedMap).map Prod.fst :=
        List.mem_map.mpr ⟨_, HashMap.Order.mem_entries.mpr (hconfirmed history hhistory entry hentry), rfl⟩
      obtain ⟨tx, htx, htxid, -⟩ := exists_partner hfetched.flip hkey
      exact ⟨tx, htx, htxid⟩
    obtain ⟨ts, hsub, hforall, hts⟩ := BtcLedger.exists_txs_of_history hof hledger hfound
    have hids : ts.map btcView.txid = history.map History.txid := by
      rw [← List.forall₂_eq_eq_eq, List.forall₂_map_left_iff, List.forall₂_map_right_iff]
      exact hforall.imp fun t entry heq => heq.1
    show ∃ l, scriptUtxos confirmedMap script' (history.filterMap _) = _ ∧ _
    rw [hts]
    apply scriptUtxos_listsUnspent hsub
    · rw [hids]
      exact hof.nodup
    · intro t ht htouches
      have hmem := hof.complete t ht htouches
      rw [← hids] at hmem
      obtain ⟨t', ht', heq⟩ := List.mem_map.mp hmem
      rw [← BtcLedger.eq_of_txid (hsub t' ht') ht heq]
      exact ht'
    · intro t ht
      obtain ⟨entry, hentry, hid, hconf⟩ := exists_partner hforall.flip ht
      rw [hid, hconfirmed history hhistory entry hentry, hconf]
      rfl

/-! ## The map of the lists -/

/-- A list with an output is found under its own script. -/
theorem mem_zip_of_first {scripts ss : List Script} {lists : List (List Utxo)}
    (h : ListsByScript ledger scripts ss lists) {utxos : List Utxo} (hmem : utxos ∈ lists)
    {first : OutPoint × BtcTxOut} (hfirst : utxos.head?.bind Utxo.asBitcoin = some first) :
    (first.2.scriptPubkey, utxos) ∈ ss.zip lists := by
  have hlength : ss.length = lists.length := h.lists.length_eq
  have hsnd : lists = (ss.zip lists).map Prod.snd := (List.map_snd_zip hlength.ge).symm
  rw [hsnd] at hmem
  obtain ⟨⟨script, utxos⟩, hpair, rfl⟩ := List.mem_map.mp hmem
  obtain ⟨l, hl, hlists⟩ := (List.forall₂_iff_zip.mp h.lists).2 hpair
  cases l with
  | nil =>
      rw [hl] at hfirst
      cases hfirst
  | cons u l =>
      rw [hl] at hfirst
      cases hfirst
      have hpays : u.2.scriptPubkey = script := ((hlists.mem_iff u).mp List.mem_cons_self).2.1
      show (u.2.scriptPubkey, utxos) ∈ _
      rw [hpays]
      exact hpair

theorem lookup_scriptToUtxosMap {scripts ss : List Script} {lists : List (List Utxo)}
    (h : ListsByScript ledger scripts ss lists) {script : Script} {l : List (OutPoint × BtcTxOut)}
    (hpair : (script, l.map bitcoinUtxo) ∈ ss.zip lists) (hl : ledger.ListsUnspent script l) :
    (scriptToUtxosMap lists).lookup script = if l = [] then none else some (l.map bitcoinUtxo) := by
  have hmem : l.map bitcoinUtxo ∈ lists := (List.of_mem_zip hpair).2
  -- the scripts are different, so only this list can be under the script
  have hunique : ∀ utxos, (script, utxos) ∈ ss.zip lists → utxos = l.map bitcoinUtxo := by
    intro utxos hother
    have hnodup : ((ss.zip lists).map Prod.fst).Nodup := by
      rw [List.map_fst_zip h.lists.length_eq.le]
      exact h.nodup
    have hsame := List.inj_on_of_nodup_map hnodup hother hpair rfl
    exact congrArg Prod.snd hsame
  have hentries : ∀ e ∈ lists.filterMap fun scriptUtxos => (scriptUtxos.head?.bind Utxo.asBitcoin).map
      fun first => (first.2.scriptPubkey, scriptUtxos), e ∈ ss.zip lists ∧ e.2 ≠ [] := by
    intro e he
    obtain ⟨utxos, hutxos, heq⟩ := List.mem_filterMap.mp he
    obtain ⟨first, hfirst, rfl⟩ := Option.map_eq_some_iff.mp heq
    refine ⟨mem_zip_of_first h hutxos hfirst, ?_⟩
    rintro rfl
    cases hfirst
  unfold scriptToUtxosMap
  cases l with
  | nil =>
      rw [if_pos rfl, HashMap.lookup_ofList_eq_none]
      rintro ⟨script', utxos⟩ he rfl
      obtain ⟨hzip, hne⟩ := hentries _ he
      exact hne (hunique utxos hzip)
  | cons u l =>
      rw [if_neg (List.cons_ne_nil u l)]
      have hpays : u.2.scriptPubkey = script := ((hl.mem_iff u).mp List.mem_cons_self).2.1
      apply HashMap.lookup_ofList_of_forall
      · refine List.mem_filterMap.mpr ⟨_, hmem, ?_⟩
        show some (u.2.scriptPubkey, (u :: l).map bitcoinUtxo) = _
        rw [hpays]
      · intro utxos he
        exact hunique utxos (hentries _ he).1

theorem amountSat_eq (l : List (OutPoint × BtcTxOut)) :
    amountSat (l.map bitcoinUtxo) = (l.map fun u => u.2.value).sum := by
  unfold amountSat
  rw [List.filterMap_map]
  congr 2
  exact List.filterMap_some

end Scripts

/-! ## What is listed -/

/-- The swaps with an unspent output in their scripts, each once and in the order of the swaps, with the sums of
these outputs. Every swap has a script. -/
def ListsRefundables (ledger : BtcLedger) (bz : BoltzClient) (chainSwaps : List ChainSwap)
    (refundables : List RefundableSwap) : Prop :=
  ∃ (scripts : List Script) (unspent : Script → List (OutPoint × BtcTxOut)),
    List.Forall₂ (fun swap script => swap.getReceiveLockupSwapScriptPubkey bz = .ok script) chainSwaps scripts ∧
    (∀ script ∈ scripts, ledger.ListsUnspent script (unspent script)) ∧
    refundables = ((chainSwaps.zip scripts).filter fun e => unspent e.2 ≠ []).map fun e =>
      e.1.toRefundable ((unspent e.2).map fun u => u.2.value).sum

theorem listRefundablesOf_of_serves {ledger : BtcLedger} {bz : BoltzClient} {service : BitcoinChainService}
    (h : ledger.Serves service) (orders : MapOrders) {chainSwaps : List ChainSwap} {scripts : List Script}
    (hscripts : List.Forall₂ (fun swap script => swap.getReceiveLockupSwapScriptPubkey bz = .ok script) chainSwaps
      scripts) :
    ∃ refundables, listRefundablesOf bz service orders chainSwaps = .ok refundables ∧
      ListsRefundables ledger bz chainSwaps refundables := by
  have hmapM : (chainSwaps.mapM fun swap => do
      return (swap, ← swap.getReceiveLockupSwapScriptPubkey bz) : Except Err (List (ChainSwap × Script))) =
      .ok (chainSwaps.zip scripts) := by
    rw [Interleaving.mapM_eq_ok]
    clear h
    induction hscripts with
    | nil => exact .nil
    | cons hscript _ ih =>
        refine .cons ?_ ih
        rw [hscript]
        rfl
  obtain ⟨lists, hlists, ss, hby⟩ := getScriptsUtxos_of_serves h orders scripts
  have hsnd : (chainSwaps.zip scripts).map Prod.snd = scripts := List.map_snd_zip hscripts.length_eq.ge
  unfold listRefundablesOf
  rw [hmapM]
  dsimp only [bind, Except.bind]
  rw [hsnd, hlists]
  refine ⟨_, rfl, ?_⟩
  -- a script that several swaps share is looked up once, and each of its results is what the ledger has unspent
  have hexists : ∀ script ∈ scripts, ∃ l, (script, l.map bitcoinUtxo) ∈ ss.zip lists ∧
      ledger.ListsUnspent script l := by
    intro script hmem
    rw [← hby.mem_iff, ← List.map_fst_zip hby.lists.length_eq.le] at hmem
    obtain ⟨⟨script, utxos⟩, hpair, rfl⟩ := List.mem_map.mp hmem
    obtain ⟨l, rfl, hl⟩ := (List.forall₂_iff_zip.mp hby.lists).2 hpair
    exact ⟨l, hpair, hl⟩
  choose! unspent hpair hunspent using hexists
  refine ⟨scripts, unspent, hscripts, hunspent, ?_⟩
  rw [← List.filterMap_eq_map, List.filterMap_filter]
  apply List.filterMap_congr
  rintro ⟨swap, script⟩ hmem
  have hscript : script ∈ scripts := (List.of_mem_zip hmem).2
  rw [lookup_scriptToUtxosMap hby (hpair script hscript) (hunspent script hscript)]
  by_cases hnil : unspent script = []
  · rw [if_pos hnil, if_neg (by simpa using hnil)]
    rfl
  · rw [if_neg hnil, if_pos (by simpa using hnil), Option.map_some, amountSat_eq]
    rfl

/-- A swap without a Bitcoin lockup script fails the call. -/
theorem scripts_of_listRefundablesOf {bz : BoltzClient} {service : BitcoinChainService} {orders : MapOrders}
    {chainSwaps : List ChainSwap} {refundables : List RefundableSwap}
    (h : listRefundablesOf bz service orders chainSwaps = .ok refundables) :
    ∀ swap ∈ chainSwaps, ∃ script, swap.getReceiveLockupSwapScriptPubkey bz = .ok script := by
  unfold listRefundablesOf at h
  obtain ⟨swapsScripts, hscripts, -⟩ := Interleaving.except_bind_eq_ok.mp h
  rw [Interleaving.mapM_eq_ok] at hscripts
  intro swap hmem
  obtain ⟨e, -, he⟩ := exists_partner hscripts.flip hmem
  obtain ⟨script, hscript, -⟩ := Interleaving.except_bind_eq_ok.mp he
  exact ⟨script, hscript⟩

/-- For every list of swaps, every chain behind either backend and all orders of the maps: the refundable swaps are
listed exactly, if and only if each of the swaps has a Bitcoin lockup script; what the call returns is that list; and the
outputs are listed by script. -/
theorem listRefundables_exact_iff {ledger : BtcLedger} {bz : BoltzClient} {backend : Backend}
    (h : ledger.Serves backend.service) (orders : MapOrders) (chainSwaps : List ChainSwap) :
    ((∃ refundables, listRefundablesOf bz backend.service orders chainSwaps = .ok refundables ∧
        ListsRefundables ledger bz chainSwaps refundables) ↔
      ∀ swap ∈ chainSwaps, ∃ script, swap.getReceiveLockupSwapScriptPubkey bz = .ok script) ∧
      (∀ refundables, listRefundablesOf bz backend.service orders chainSwaps = .ok refundables →
        ListsRefundables ledger bz chainSwaps refundables) ∧
      ∀ scripts, ∃ lists, getScriptsUtxos backend.service orders scripts = .ok lists ∧
        ∃ ss, ListsByScript ledger scripts ss lists := by
  have hlisted : (∀ swap ∈ chainSwaps, ∃ script, swap.getReceiveLockupSwapScriptPubkey bz = .ok script) →
      ∃ refundables, listRefundablesOf bz backend.service orders chainSwaps = .ok refundables ∧
        ListsRefundables ledger bz chainSwaps refundables := by
    intro hall
    choose! lockupScript hlockup using hall
    have hscripts : List.Forall₂ (fun swap script => swap.getReceiveLockupSwapScriptPubkey bz = .ok script)
        chainSwaps (chainSwaps.map lockupScript) := by
      rw [List.forall₂_map_right_iff, List.forall₂_same]
      exact hlockup
    exact listRefundablesOf_of_serves h orders hscripts
  refine ⟨⟨?_, hlisted⟩, fun refundables hok => ?_, getScriptsUtxos_of_serves h orders⟩
  · rintro ⟨refundables, hok, -⟩
    exact scripts_of_listRefundablesOf hok
  · obtain ⟨refundables', hok', hlists⟩ := hlisted (scripts_of_listRefundablesOf hok)
    rw [hok] at hok'
    cases hok'
    exact hlists

/-- One confirmed payment to the lockup script of the swap `a`. -/
def lockupPayment : BtcTransaction := { txid := "lockup", output := [⟨1000, "a-lockup"⟩] }

def paidLedger : BtcLedger := ⟨[(lockupPayment, true)], by decide⟩

def paidClient : EsploraClient where
  scripthashTxs script := .ok (if script = "a-lockup" then [("lockup", some 10)] else [])
  getTx txid := .ok (if txid = "lockup" then some lockupPayment else none)

def insertionOrders : MapOrders := ⟨.insertion, .insertion⟩

theorem paidLedger_serves : paidLedger.Serves (Backend.esplora paidClient).service := by
  have hhistory : ∀ script, paidLedger.HistoryOf script (if script = "a-lockup" then [⟨"lockup", 10⟩] else []) := by
    intro script
    by_cases hscript : script = "a-lockup"
    · rw [if_pos hscript]
      refine ⟨by decide, ?_, ?_⟩
      · intro t ht _
        rw [List.mem_singleton.mp ht]
        decide
      · intro entry hentry
        rw [List.mem_singleton.mp hentry]
        exact ⟨(lockupPayment, true), List.mem_singleton.mpr rfl, rfl, rfl⟩
    · rw [if_neg hscript]
      refine ⟨List.nodup_nil, ?_, fun entry hentry => absurd hentry List.not_mem_nil⟩
      rintro t ht ⟨t', ht', u, hu, hpays, -⟩
      rw [List.mem_singleton.mp ht'] at hu
      have hout : u = (⟨"lockup", 0⟩, ⟨1000, "a-lockup"⟩) := List.mem_singleton.mp hu
      rw [hout] at hpays
      exact absurd hpays.symm hscript
  constructor
  · intro scripts
    refine ⟨scripts.map fun script => if script = "a-lockup" then [⟨"lockup", 10⟩] else [], ?_, ?_⟩
    · show scripts.mapM _ = _
      rw [Interleaving.mapM_eq_ok, List.forall₂_map_right_iff, List.forall₂_same]
      intro script _
      by_cases hscript : script = "a-lockup"
      · rw [if_pos hscript, hscript]
        rfl
      · rw [if_neg hscript]
        show (Except.ok (if script = "a-lockup" then _ else _) >>= _ : Except Err (List BtcHistory)) = _
        rw [if_neg hscript]
        rfl
    · rw [List.forall₂_map_right_iff, List.forall₂_same]
      intro script _
      exact hhistory script
  · intro txids hknown
    refine ⟨txids.map fun _ => lockupPayment, ?_, ?_⟩
    · show txids.mapM _ = _
      rw [Interleaving.mapM_eq_ok, List.forall₂_map_right_iff, List.forall₂_same]
      intro txid hmem
      obtain ⟨t, ht, rfl⟩ := hknown txid hmem
      rw [List.mem_singleton.mp ht]
      rfl
    · rw [List.forall₂_map_right_iff, List.forall₂_same]
      intro txid hmem
      obtain ⟨t, ht, rfl⟩ := hknown txid hmem
      rw [List.mem_singleton.mp ht]
      exact ⟨rfl, _, List.mem_singleton.mpr rfl, rfl⟩

/-- Incoming swaps that failed, two of them with one lockup script. -/
def failedIncoming (id : SwapId) (createResponseJson : String) : ChainSwap where
  id := id
  direction := .incoming
  lockupAddress := "address"
  createResponseJson := createResponseJson
  state := .refundable

/-- A refund on Liquid that is not confirmed yet. -/
def refundingOutgoing : ChainSwap where
  id := "d"
  direction := .outgoing
  createResponseJson := "d"
  state := .refundPending

/-- Three failed swaps, of which two share a script. -/
theorem listRefundables_shared :
    ∃ refundables, listRefundablesOf (.byAddress 0) (Backend.esplora paidClient).service insertionOrders
        [failedIncoming "a" "a", failedIncoming "b" "b", failedIncoming "c" "a"] = .ok refundables ∧
      ListsRefundables paidLedger (.byAddress 0)
        [failedIncoming "a" "a", failedIncoming "b" "b", failedIncoming "c" "a"] refundables := by
  refine (listRefundables_exact_iff paidLedger_serves insertionOrders _).1.mpr ?_
  intro swap hmem
  rcases List.mem_cons.mp hmem with rfl | hmem
  · exact ⟨_, rfl⟩
  · rcases List.mem_cons.mp hmem with rfl | hmem
    · exact ⟨_, rfl⟩
    · rw [List.mem_singleton.mp hmem]
      exact ⟨_, rfl⟩

/-- The swaps of a wallet with one failed swap of each direction. -/
def bothDirections : Db where
  chainSwaps := (∅ : Tables.Table ChainSwap.id).insertNew (failedIncoming "a" "a") |>.insertNew refundingOutgoing

/-- The swap of the other direction is listed as refundable, and the call fails for all. -/
theorem listRefundables_outgoing :
    paidLedger.Serves (Backend.esplora paidClient).service ∧
      listRefundables (.byAddress 0) (Backend.esplora paidClient).service insertionOrders bothDirections =
        .error (.generic "Invalid chain") ∧
      paidLedger.Unspent "a-lockup" (⟨"lockup", 0⟩, ⟨1000, "a-lockup"⟩) ∧
      ¬ ∃ refundables, listRefundables (.byAddress 0) (Backend.esplora paidClient).service insertionOrders
          bothDirections = .ok refundables ∧
        ListsRefundables paidLedger (.byAddress 0) bothDirections.listRefundableChainSwaps refundables := by
  have herror : listRefundables (.byAddress 0) (Backend.esplora paidClient).service insertionOrders bothDirections =
      .error (.generic "Invalid chain") := by rfl
  refine ⟨paidLedger_serves, herror, ?_, ?_⟩
  · refine ⟨⟨(lockupPayment, true), List.mem_singleton.mpr rfl, by decide⟩, rfl, ?_⟩
    intro t ht _
    rw [List.mem_singleton.mp ht]
    decide
  · rintro ⟨refundables, hok, -⟩
    rw [herror] at hok
    cases hok

end Utxos

end BreezLiquid
