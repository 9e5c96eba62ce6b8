/-
# BreezLiquid.Recover.HistoryOrder — recovery from a history in another order.

Electrum lists the history of a script oldest first, Esplora newest first. The handlers take the first entry in each
role, so two entries that fit one role are told apart by the order alone. For each handler the histories whose order
does not matter are described here.
-/
import BreezLiquid.Lib.AnyOrder
import BreezLiquid.Recover.LatestRefund

namespace BreezLiquid.Recover

open AnyOrder Collections

/-- Whether anything is found does not depend on the order. -/
theorem isSome_find?_perm {p : History → Bool} {l₁ l₂ : List History} (h : l₁.Perm l₂) :
    (l₁.find? p).isSome = (l₂.find? p).isSome := by
  rw [Bool.eq_iff_iff, List.find?_isSome, List.find?_isSome]
  constructor
  · rintro ⟨a, ha, hp⟩
    exact ⟨a, h.mem_iff.mp ha, hp⟩
  · rintro ⟨a, ha, hp⟩
    exact ⟨a, h.mem_iff.mpr ha, hp⟩

/-! ## Send swaps -/

/-- At most one entry is known as outgoing, at most one as incoming, and with a lockup at most one is unknown. -/
def SendUnambiguous (m : TxMap) (history : List LBtcHistory) : Prop :=
  Single (m.isOutgoing ∘ History.txid) history ∧ Single (m.isIncoming ∘ History.txid) history ∧
    ((∃ h ∈ history, m.isOutgoing h.txid = true) → Single (m.isUnknown ∘ History.txid) history)

namespace SendSwapHandler

/-- The three transactions of a send swap are found in any order exactly if no two entries compete for one
of them. -/
theorem orderFree_iff (m : TxMap) (history : List LBtcHistory) :
    OrderFree (recoverOnchainData m) history ↔ SendUnambiguous m history := by
  have hlockup : (history.find? (m.isOutgoing ∘ History.txid)).isSome = true ↔
      ∃ h ∈ history, m.isOutgoing h.txid = true := List.find?_isSome
  have hparts := orderFree_congr (f := recoverOnchainData m) (l := history)
    (g := fun l => (l.find? (m.isOutgoing ∘ History.txid), l.find? (m.isIncoming ∘ History.txid),
      if (history.find? (m.isOutgoing ∘ History.txid)).isSome = true
      then l.find? (m.isUnknown ∘ History.txid) else none)) <| by
    intro l₁ l₂ h₁ h₂
    have hdata : ∀ l, recoverOnchainData m l = ⟨l.find? (m.isOutgoing ∘ History.txid),
        (recoverOnchainData m l).claimTxId, l.find? (m.isIncoming ∘ History.txid), none⟩ := fun _ => rfl
    rw [hdata l₁, hdata l₂, recoverOnchainData_claimTxId, recoverOnchainData_claimTxId,
      isSome_find?_perm h₁, isSome_find?_perm h₂, RecoveredOnchainDataSend.mk.injEq, Prod.mk.injEq, Prod.mk.injEq]
    constructor
    · rintro ⟨hout, hunknown, hin, -⟩
      exact ⟨hout, hin, hunknown⟩
    · rintro ⟨hout, hin, hunknown⟩
      exact ⟨hout, hunknown, hin, rfl⟩
  rw [hparts, orderFree_and, orderFree_and, orderFree_find?_iff, orderFree_find?_iff, orderFree_ite_iff,
    orderFree_find?_iff, hlockup]
  rfl

end SendSwapHandler

/-! ## The lockup and claim of an incoming swap -/

/-- Two entries that the claim script history does not tell apart: both known as ours, or both unknown and confirmed
at one height. -/
def Indistinct (m : TxMap) (first second : LBtcHistory) : Prop :=
  first ≠ second ∧ ((m.isIncoming first.txid = true ∧ m.isIncoming second.txid = true) ∨
    (bothUnknown m first second = true ∧ first.confirmed = true ∧ first.height = second.height))

/-- The claim script history tells its entries apart. -/
def ClaimUnambiguous (m : TxMap) : List LBtcHistory → Prop
  | [first, second] => ¬ Indistinct m first second
  | _ => True

/-- Two entries can be exchanged exactly if the map tells them apart. -/
theorem determineIncoming_swap_iff (m : TxMap) (first second : LBtcHistory) :
    determineIncomingLockupAndClaimTxs [first, second] m = determineIncomingLockupAndClaimTxs [second, first] m ↔
      ¬ Indistinct m first second := by
  unfold Indistinct
  rw [determineIncoming_pair, determineIncoming_pair]
  by_cases heq : first = second
  · subst heq
    simp
  have hne : second ≠ first := fun h => heq h.symm
  cases hf : m.isIncoming first.txid with
  | true =>
      cases hs : m.isIncoming second.txid with
      | true => simp [heq, hne]
      | false => simp [bothUnknown, hf]
  | false =>
      cases hs : m.isIncoming second.txid with
      | true => simp [bothUnknown, hs]
      | false =>
          -- neither is ours: the heights decide
          have hconfirmed : ∀ h : LBtcHistory, h.confirmed = decide (0 < h.height) := fun _ => rfl
          simp only [bothUnknown, hf, hs, firstIsLockup, secondIsLockup, hconfirmed]
          by_cases h1 : 0 < first.height <;> by_cases h2 : 0 < second.height
          · rcases lt_trichotomy first.height second.height with hlt | hheight | hgt
            · simp [h1, h2, hlt, heq, hlt.le, hlt.ne]
            · simp [h2, hheight, heq, hne]
            · simp [h1, h2, hgt, heq, hgt.le, hgt.ne']
          · have hheight : first.height ≠ second.height := by omega
            simp [h1, h2, heq, hheight]
          · simp [h1, h2]
          · simp [h1, h2]

/-- The lockup and the claim are found in any order exactly if the history tells its entries apart. -/
theorem claim_orderFree_iff (m : TxMap) (history : List LBtcHistory) :
    OrderFree (fun l => determineIncomingLockupAndClaimTxs l m) history ↔ ClaimUnambiguous m history := by
  have hlong : ∀ l₁ l₂ : List LBtcHistory, 2 < l₁.length → 2 < l₂.length →
      determineIncomingLockupAndClaimTxs l₁ m = determineIncomingLockupAndClaimTxs l₂ m := by
    intro l₁ l₂ h₁ h₂
    match l₁, l₂ with
    | _ :: _ :: _ :: _, _ :: _ :: _ :: _ => rfl
  match history with
  | [] => exact iff_of_true (orderFree_of_length_ne_two hlong (by simp)) trivial
  | [_] => exact iff_of_true (orderFree_of_length_ne_two hlong (by simp)) trivial
  | _ :: _ :: _ :: _ => exact iff_of_true (orderFree_of_length_ne_two hlong (by simp)) trivial
  | [first, second] =>
      rw [orderFree_pair_iff, determineIncoming_swap_iff]
      rfl

/-! ## Receive swaps -/

/-- The claim script history tells its entries apart, and without a lockup at most one entry of the routing-hint
script is known as a payment. -/
def ReceiveUnambiguous (m : TxMap) (swapTimestamp receiverAmountSat : Nat) (lbtcAssetId : AssetId)
    (claimHistory mrhHistory : List LBtcHistory) : Prop :=
  ClaimUnambiguous m claimHistory ∧ (lockupUndetermined m claimHistory = true →
    Single (isMrhId m swapTimestamp receiverAmountSat lbtcAssetId ∘ History.txid) mrhHistory)

namespace ReceiveSwapHandler

variable (swapTimestamp receiverAmountSat : Nat) (lbtcAssetId : AssetId)

/-- Whether the lockup is left open does not depend on the order. -/
theorem lockupUndetermined_perm (m : TxMap) {l₁ l₂ : List LBtcHistory} (h : l₁.Perm l₂) :
    lockupUndetermined m l₁ = lockupUndetermined m l₂ := by
  have hlen := h.length_eq
  match l₁, l₂ with
  | [], [] => rfl
  | [_], [_] => rfl
  | [first, second], [first', second'] =>
      rcases List.perm_pair.mp h with heq | heq
      · rw [heq]
      · cases heq
        show (!m.isIncoming first.txid && !m.isIncoming second.txid && !first.confirmed && !second.confirmed) =
          (!m.isIncoming second.txid && !m.isIncoming first.txid && !second.confirmed && !first.confirmed)
        ac_rfl
  | _ :: _ :: _ :: _, _ :: _ :: _ :: _ => rfl

/-- What a payment to the routing-hint address brought. -/
def mrhAmount (m : TxMap) (mrhTxId : Option LBtcHistory) : Option Nat := do
  let tx ← m.incomingTxMap.lookup (← mrhTxId).txid
  return (← tx.balance.lookup lbtcAssetId).natAbs

/-- The collected payments answer with the wallet's own transactions. -/
theorem incomingTxMap_lookup_of_mrhTxs (raw : RawTxMap) (history : List LBtcHistory) {id : TxId} {tx : WalletTx}
    (h : (HashMap.ofList
      (((history.filterMap fun h => (TxMap.fromRawTxMap raw).incomingTxMap.lookup h.txid).filter
        (isMrhTx swapTimestamp receiverAmountSat lbtcAssetId)).map fun tx => (tx.txid, tx))).lookup id = some tx) :
    (TxMap.fromRawTxMap raw).incomingTxMap.lookup id = some tx := by
  obtain ⟨tx', hmem, heq⟩ := List.mem_map.mp (HashMap.mem_of_lookup_ofList h)
  obtain ⟨rfl, rfl⟩ := Prod.mk.inj heq
  obtain ⟨h', -, hlook⟩ := List.mem_filterMap.mp (List.mem_filter.mp hmem).1
  have hkeyed := hlook
  rw [TxMap.incomingTxMap_lookup, Option.filter_eq_some_iff] at hkeyed
  rw [raw.keyed _ _ hkeyed.1]
  exact hlook

/-- The amount is that of the MRH transaction ... -/
theorem recoverOnchainData_mrhAmountSat (raw : RawTxMap) (history : ReceiveSwapHistory) :
    let r := recoverOnchainData (.fromRawTxMap raw) history swapTimestamp receiverAmountSat lbtcAssetId
    r.mrhAmountSat = mrhAmount lbtcAssetId (.fromRawTxMap raw) r.mrhTxId := by
  have hlookup := @incomingTxMap_lookup_of_mrhTxs swapTimestamp receiverAmountSat lbtcAssetId raw
    history.lbtcMrhScriptHistory
  unfold recoverOnchainData
  dsimp only
  generalize (HashMap.ofList _ : HashMap TxId WalletTx) = mrhTxs at hlookup ⊢
  rcases determineIncomingLockupAndClaimTxs history.lbtcClaimScriptHistory _ with ⟨_ | lockup, claim⟩
  · dsimp only
    unfold mrhAmount
    cases hfind : history.lbtcMrhScriptHistory.find? fun tx => (mrhTxs.lookup tx.txid).isSome with
    | none => rfl
    | some h =>
        have hfound : (mrhTxs.lookup h.txid).isSome = true :=
          List.find?_some (p := fun tx : LBtcHistory => (mrhTxs.lookup tx.txid).isSome) hfind
        obtain ⟨tx, hlook⟩ := Option.isSome_iff_exists.mp hfound
        show ((mrhTxs.lookup h.txid).bind _) = ((TxMap.fromRawTxMap raw).incomingTxMap.lookup h.txid).bind _
        rw [hlook, hlookup hlook]
  · rfl

/-- The recovered payment to the routing-hint address. -/
def mrhTxId (m : TxMap) (claimHistory mrhHistory : List LBtcHistory) : Option LBtcHistory :=
  if lockupUndetermined m claimHistory = true
  then mrhHistory.find? (isMrhId m swapTimestamp receiverAmountSat lbtcAssetId ∘ History.txid) else none

/-- ... and the rest is found in one of the two histories. -/
theorem recoverOnchainData_parts (raw : RawTxMap) (claimHistory mrhHistory : List LBtcHistory) :
    let d := determineIncomingLockupAndClaimTxs claimHistory (.fromRawTxMap raw)
    let mrh := mrhTxId swapTimestamp receiverAmountSat lbtcAssetId (.fromRawTxMap raw) claimHistory mrhHistory
    recoverOnchainData (.fromRawTxMap raw) ⟨claimHistory, mrhHistory⟩ swapTimestamp receiverAmountSat lbtcAssetId =
      ⟨d.1, d.2, mrh, mrhAmount lbtcAssetId (.fromRawTxMap raw) mrh⟩ := by
  obtain ⟨hlockup, hclaim, hmrh⟩ :=
    recoverOnchainData_eq swapTimestamp receiverAmountSat lbtcAssetId raw ⟨claimHistory, mrhHistory⟩
  have hamount :=
    recoverOnchainData_mrhAmountSat swapTimestamp receiverAmountSat lbtcAssetId raw ⟨claimHistory, mrhHistory⟩
  have hext : ∀ r : RecoveredOnchainDataReceive, r = ⟨r.lockupTxId, r.claimTxId, r.mrhTxId, r.mrhAmountSat⟩ :=
    fun _ => rfl
  dsimp only at hamount
  rw [hmrh] at hamount
  refine (hext _).trans ?_
  rw [hlockup, hclaim, hmrh, hamount]
  rfl

/-- Likewise for receive swaps, over both histories. -/
theorem orderFree_iff (raw : RawTxMap) (claimHistory mrhHistory : List LBtcHistory) :
    OrderFree₂ (fun claim mrh => recoverOnchainData (.fromRawTxMap raw) ⟨claim, mrh⟩ swapTimestamp
        receiverAmountSat lbtcAssetId) claimHistory mrhHistory ↔
      ReceiveUnambiguous (.fromRawTxMap raw) swapTimestamp receiverAmountSat lbtcAssetId claimHistory mrhHistory := by
  rw [orderFree₂_iff (a := fun l => determineIncomingLockupAndClaimTxs l (.fromRawTxMap raw))
    (b := mrhTxId swapTimestamp receiverAmountSat lbtcAssetId (.fromRawTxMap raw) claimHistory), claim_orderFree_iff]
  · have hmrh : OrderFree
        (mrhTxId swapTimestamp receiverAmountSat lbtcAssetId (.fromRawTxMap raw) claimHistory) mrhHistory ↔ _ :=
      orderFree_ite_iff
    rw [hmrh, orderFree_find?_iff]
    rfl
  · intro l₁ l₂ m₁ m₂ hl₁ hl₂ _ _
    -- whether a lockup is told apart does not depend on the order
    have hmrh : ∀ l m, l.Perm claimHistory →
        mrhTxId swapTimestamp receiverAmountSat lbtcAssetId (.fromRawTxMap raw) l m =
          mrhTxId swapTimestamp receiverAmountSat lbtcAssetId (.fromRawTxMap raw) claimHistory m := by
      intro l m hl
      unfold mrhTxId
      rw [lockupUndetermined_perm _ hl]
    rw [recoverOnchainData_parts, recoverOnchainData_parts, hmrh l₁ m₁ hl₁, hmrh l₂ m₂ hl₂,
      RecoveredOnchainDataReceive.mk.injEq]
    constructor
    · rintro ⟨hlockup, hclaim, hmrh, -⟩
      exact ⟨Prod.ext hlockup hclaim, hmrh⟩
    · rintro ⟨hd, hmrh⟩
      rw [hd, hmrh]
      exact ⟨rfl, rfl, rfl, rfl⟩

end ReceiveSwapHandler

/-! ## Outgoing chain swaps -/

/-- The Bitcoin transactions by id. They are fetched in the order of the history they are fetched for. -/
structure BtcTransactions where
  tx : TxId → BtcTransaction
  txid : ∀ id, (tx id).txid = id

namespace BtcTransactions

variable (txs : BtcTransactions)

def ofHistory (history : List BtcHistory) : List BtcTransaction := history.map fun h => txs.tx h.txid

/-- The transaction of the entry pays the script. -/
def paysTo (script : Script) (h : BtcHistory) : Bool := pays script (txs.tx h.txid)

end BtcTransactions

/-- Of the two entries of a claim script history, one and only one pays the script. -/
def ServerUnambiguous (txs : BtcTransactions) (claimScript : Script) : List BtcHistory → Prop
  | [first, second] => first = second ∨ txs.paysTo claimScript first ≠ txs.paysTo claimScript second
  | _ => True

/-- At most one Liquid entry is known as outgoing and at most one as incoming, and the Bitcoin entries are told
apart. -/
def ChainSendUnambiguous (m : TxMap) (txs : BtcTransactions) (claimScript : Script) (lbtcHistory : List LBtcHistory)
    (btcHistory : List BtcHistory) : Prop :=
  (Single (m.isOutgoing ∘ History.txid) lbtcHistory ∧ Single (m.isIncoming ∘ History.txid) lbtcHistory) ∧
    ServerUnambiguous txs claimScript btcHistory

namespace ChainSendSwapHandler

/-- The server lockup and our claim, recovered from the history of the claim script. -/
def serverLockupAndClaim (txs : BtcTransactions) (claimScript : Script) (btcHistory : List BtcHistory) :
    Option BtcHistory × Option BtcHistory :=
  match btcHistory with
  | [only] => (some only, none)
  | [first, second] =>
      if txs.paysTo claimScript first then (some first, some second) else (some second, some first)
  | _ => (none, none)

/-- Each part of an outgoing swap is found in one of its histories. -/
theorem recoverOnchainData_parts (m : TxMap) (txs : BtcTransactions) (claimScript : Script)
    (lbtcHistory : List LBtcHistory) (btcHistory : List BtcHistory) :
    let d := serverLockupAndClaim txs claimScript btcHistory
    recoverOnchainData m ⟨lbtcHistory, btcHistory, txs.ofHistory btcHistory⟩ claimScript =
      ⟨lbtcHistory.find? (m.isOutgoing ∘ History.txid), lbtcHistory.find? (m.isIncoming ∘ History.txid), d.1, d.2⟩ := by
  match btcHistory with
  | [] => rfl
  | [_] => rfl
  | [first, second] =>
      show RecoveredOnchainDataChainSend.mk _ _
        (if txs.paysTo claimScript first then (some first, some second) else (some second, some first)).1
        (if txs.paysTo claimScript first then (some first, some second) else (some second, some first)).2 = _
      rfl
  | _ :: _ :: _ :: _ => rfl

/-- On Bitcoin the lockup and the claim depend on the order of one history. -/
theorem serverLockupAndClaim_orderFree_iff (txs : BtcTransactions) (claimScript : Script)
    (btcHistory : List BtcHistory) :
    OrderFree (serverLockupAndClaim txs claimScript) btcHistory ↔ ServerUnambiguous txs claimScript btcHistory := by
  have hlong : ∀ l₁ l₂ : List BtcHistory, 2 < l₁.length → 2 < l₂.length →
      serverLockupAndClaim txs claimScript l₁ = serverLockupAndClaim txs claimScript l₂ := by
    intro l₁ l₂ h₁ h₂
    match l₁, l₂ with
    | _ :: _ :: _ :: _, _ :: _ :: _ :: _ => rfl
  match btcHistory with
  | [] => exact iff_of_true (orderFree_of_length_ne_two hlong (by simp)) trivial
  | [_] => exact iff_of_true (orderFree_of_length_ne_two hlong (by simp)) trivial
  | _ :: _ :: _ :: _ => exact iff_of_true (orderFree_of_length_ne_two hlong (by simp)) trivial
  | [first, second] =>
      rw [orderFree_pair_iff]
      show (if txs.paysTo claimScript first = true then (some first, some second) else (some second, some first)) =
          (if txs.paysTo claimScript second = true then (some second, some first) else (some first, some second)) ↔
        first = second ∨ txs.paysTo claimScript first ≠ txs.paysTo claimScript second
      cases txs.paysTo claimScript first <;> cases txs.paysTo claimScript second
      · simp [eq_comm]
      · simp
      · simp
      · simp [eq_comm]

/-- Likewise for outgoing chain swaps. -/
theorem orderFree_iff (m : TxMap) (txs : BtcTransactions) (claimScript : Script) (lbtcHistory : List LBtcHistory)
    (btcHistory : List BtcHistory) :
    OrderFree₂ (fun lbtc btc => recoverOnchainData m ⟨lbtc, btc, txs.ofHistory btc⟩ claimScript) lbtcHistory
        btcHistory ↔
      ChainSendUnambiguous m txs claimScript lbtcHistory btcHistory := by
  rw [orderFree₂_iff
    (a := fun l => (l.find? (m.isOutgoing ∘ History.txid), l.find? (m.isIncoming ∘ History.txid)))
    (b := serverLockupAndClaim txs claimScript), orderFree_and, orderFree_find?_iff, orderFree_find?_iff,
    serverLockupAndClaim_orderFree_iff]
  · rfl
  · intro l₁ l₂ m₁ m₂ _ _ _ _
    rw [recoverOnchainData_parts, recoverOnchainData_parts, RecoveredOnchainDataChainSend.mk.injEq, Prod.mk.injEq]
    constructor
    · rintro ⟨hout, hin, hlockup, hclaim⟩
      exact ⟨⟨hout, hin⟩, Prod.ext hlockup hclaim⟩
    · rintro ⟨⟨hout, hin⟩, hserver⟩
      rw [hserver]
      exact ⟨hout, hin, rfl, rfl⟩

end ChainSendSwapHandler

/-! ## Incoming chain swaps -/

/-- The entries, each in place of the first one with its id. -/
def firstEntries (history : List BtcHistory) : List BtcHistory :=
  history.filterMap fun e => history.find? fun h => h.txid == e.txid

/-- One entry is the only one of height 0 and of its id, or none has height 0 and there is at most one. -/
def LastUnambiguous (history : List BtcHistory) : Prop :=
  (∃ zero ∈ history, zero.height = 0 ∧ ∀ h ∈ history, h.height = 0 ∨ h.txid = zero.txid → h = zero) ∨
    (∀ h ∈ history, h.height ≠ 0) ∧ ∀ a ∈ history, ∀ b ∈ history, a = b

namespace ChainReceiveSwapHandler

theorem mem_firstEntries {history : List BtcHistory} {h : BtcHistory} (hmem : h ∈ firstEntries history) :
    h ∈ history := by
  obtain ⟨e, -, hfind⟩ := List.mem_filterMap.mp hmem
  exact List.mem_of_find?_eq_some hfind

/-- An entry at height 0 is the last one wherever it stands, if there is just one. -/
theorem lastOutgoing_of_zero {ids : List BtcHistory} {zero : BtcHistory} (hmem : zero ∈ ids) (hzero : zero.height = 0)
    (honly : ∀ h ∈ ids, h.height = 0 → h = zero) : lastOutgoing ids = some zero := by
  unfold lastOutgoing
  have hfound : (ids.reverse.find? fun h => h.height == 0).isSome = true := by
    rw [List.find?_isSome]
    exact ⟨zero, List.mem_reverse.mpr hmem, by simpa using hzero⟩
  obtain ⟨h, hfind⟩ := Option.isSome_iff_exists.mp hfound
  have hheight : h.height = 0 := by simpa using List.find?_some hfind
  rw [hfind, honly h (List.mem_reverse.mp (List.mem_of_find?_eq_some hfind)) hheight]
  rfl

/-- An entry can be put so that it comes last and stands for all entries with its id. -/
theorem exists_perm_last {history : List BtcHistory} {e : BtcHistory} (hmem : e ∈ history) :
    ∃ order front, order.Perm history ∧ firstEntries order = front ++ [e] ∧
      ∀ h ∈ firstEntries order, h.txid = e.txid → h = e := by
  -- the entries with other ids, then this one, then the others with its id
  obtain ⟨rest, hrest⟩ := exists_perm_cons (List.mem_filter.mpr ⟨hmem, beq_self_eq_true e.txid⟩ :
    e ∈ history.filter fun h => h.txid == e.txid)
  have hsame : ∀ x ∈ e :: rest, x.txid = e.txid := by
    intro x hx
    exact eq_of_beq (List.mem_filter.mp (hrest.mem_iff.mp hx)).2
  have hfirst : ((history.filter fun h => !(h.txid == e.txid)) ++ e :: rest).find? (fun h => h.txid == e.txid) =
      some e := by
    have hhead : (e :: rest).find? (fun h => h.txid == e.txid) = some e :=
      List.find?_cons_of_pos (beq_self_eq_true e.txid)
    rw [List.find?_append, hhead]
    have hnone : (history.filter fun h => !(h.txid == e.txid)).find? (fun h => h.txid == e.txid) = none := by
      rw [List.find?_eq_none]
      intro h hother
      simpa using (List.mem_filter.mp hother).2
    rw [hnone]
    rfl
  generalize hothers : (history.filter fun h => !(h.txid == e.txid)) = others at hfirst
  have hperm : (others ++ e :: rest).Perm history := by
    rw [← hothers]
    exact (hrest.append_left _).trans
      (List.perm_append_comm.trans (List.filter_append_perm (fun h : BtcHistory => h.txid == e.txid) history))
  have hstands : ∀ x : BtcHistory, x.txid = e.txid →
      (others ++ e :: rest).find? (fun h => h.txid == x.txid) = some e := by
    intro x hx
    rw [hx]
    exact hfirst
  refine ⟨others ++ e :: rest,
    others.filterMap (fun x => (others ++ e :: rest).find? fun h => h.txid == x.txid) ++
      List.replicate rest.length e, hperm, ?_, ?_⟩
  · have hsuffix : (e :: rest).filterMap (fun x => (others ++ e :: rest).find? fun h => h.txid == x.txid) =
        List.replicate rest.length e ++ [e] := by
      rw [← List.replicate_succ', List.filterMap_congr (g := fun _ => some e) fun x hx => hstands x (hsame x hx)]
      show (e :: rest).filterMap (some ∘ fun _ => e) = _
      rw [List.filterMap_eq_map, List.map_const']
      rfl
    show (others ++ e :: rest).filterMap _ = _
    rw [List.filterMap_append, hsuffix, List.append_assoc]
  · intro h hmem hid
    obtain ⟨x, -, hfind⟩ := List.mem_filterMap.mp hmem
    have hx : h.txid = x.txid := by simpa using List.find?_some hfind
    rw [hstands x (hx.symm.trans hid)] at hfind
    exact (Option.some.inj hfind).symm

/-- The last of the list is taken if it is at height 0, or if nothing is. -/
theorem lastOutgoing_append {front : List BtcHistory} {e : BtcHistory}
    (h : e.height = 0 ∨ ∀ h ∈ front ++ [e], h.height ≠ 0) : lastOutgoing (front ++ [e]) = some e := by
  unfold lastOutgoing
  rw [List.reverse_append, List.getLast?_append]
  rcases h with hzero | hnone
  · show ((e :: front.reverse).find? _).or _ = _
    rw [List.find?_cons_of_pos (by simpa using hzero)]
    rfl
  · have hfind : ([e].reverse ++ front.reverse).find? (fun h => h.height == 0) = none := by
      rw [List.find?_eq_none]
      intro h hmem
      have hmem' : h ∈ front ++ [e] := by
        rw [← List.mem_reverse, List.reverse_append]
        exact hmem
      simpa using hnone h hmem'
    rw [hfind]
    rfl

/-- An entry stands for itself if no other one has its id. -/
theorem mem_firstEntries_of_only {history : List BtcHistory} {e : BtcHistory} (hmem : e ∈ history)
    (honly : ∀ h ∈ history, h.txid = e.txid → h = e) : e ∈ firstEntries history := by
  have hfound : (history.find? fun h => h.txid == e.txid).isSome = true := by
    rw [List.find?_isSome]
    exact ⟨e, hmem, beq_self_eq_true e.txid⟩
  obtain ⟨h, hfind⟩ := Option.isSome_iff_exists.mp hfound
  have hid : h.txid = e.txid := by simpa using List.find?_some hfind
  rw [honly h (List.mem_of_find?_eq_some hfind) hid] at hfind
  exact List.mem_filterMap.mpr ⟨e, hmem, hfind⟩

/-- So the refund depends on the order unless there is one candidate, or one at height 0. -/
theorem lastOutgoing_firstEntries_orderFree_iff (history : List BtcHistory) :
    OrderFree (fun l => lastOutgoing (firstEntries l)) history ↔ LastUnambiguous history := by
  constructor
  · intro hfree
    by_cases hzero : ∃ zero ∈ history, zero.height = 0
    · obtain ⟨zero, hmem, hheight⟩ := hzero
      obtain ⟨order, front, hperm, hlast, -⟩ := exists_perm_last hmem
      have hres : lastOutgoing (firstEntries order) = some zero := by
        rw [hlast]
        exact lastOutgoing_append (.inl hheight)
      refine .inl ⟨zero, hmem, hheight, ?_⟩
      intro h hmem' hor
      obtain ⟨order', front', hperm', hlast', hstands⟩ := exists_perm_last hmem'
      have hsame : lastOutgoing (firstEntries order') = some zero := (hfree _ _ hperm' hperm).trans hres
      rcases hor with hheight' | hid
      · rw [hlast', lastOutgoing_append (.inl hheight')] at hsame
        exact Option.some.inj hsame
      · exact (hstands zero (lastOutgoing_mem hsame) hid.symm).symm
    · push Not at hzero
      refine .inr ⟨hzero, ?_⟩
      -- put last, each entry is the one recovered
      have hres : ∀ e ∈ history, ∃ order, order.Perm history ∧ lastOutgoing (firstEntries order) = some e := by
        intro e hmem
        obtain ⟨order, front, hperm, hlast, -⟩ := exists_perm_last hmem
        refine ⟨order, hperm, ?_⟩
        rw [hlast]
        refine lastOutgoing_append (.inr ?_)
        intro h hh
        exact hzero h (hperm.mem_iff.mp (mem_firstEntries (hlast ▸ hh)))
      intro a ha b hb
      obtain ⟨ordera, hperma, hresa⟩ := hres a ha
      obtain ⟨orderb, hpermb, hresb⟩ := hres b hb
      have hsame := hfree _ _ hperma hpermb
      dsimp only at hsame
      rw [hresa, hresb] at hsame
      exact Option.some.inj hsame
  · rintro (⟨zero, hmem, hheight, honly⟩ | ⟨-, hall⟩)
    · have hres : ∀ l : List BtcHistory, l.Perm history → lastOutgoing (firstEntries l) = some zero := by
        intro l hperm
        refine lastOutgoing_of_zero ?_ hheight ?_
        · refine mem_firstEntries_of_only (hperm.mem_iff.mpr hmem) ?_
          intro h hh hid
          exact honly h (hperm.mem_iff.mp hh) (.inr hid)
        · intro h hh hzero
          exact honly h (hperm.mem_iff.mp (mem_firstEntries hh)) (.inl hzero)
      intro l₁ l₂ h₁ h₂
      exact (hres l₁ h₁).trans (hres l₂ h₂).symm
    · intro l₁ l₂ h₁ h₂
      have hres : ∀ l : List BtcHistory, l.Perm history → ∀ a ∈ history, lastOutgoing (firstEntries l) = some a := by
        intro l hperm a ha
        have hstands := mem_firstEntries_of_only (hperm.mem_iff.mpr ha) fun h hh _ => hall h (hperm.mem_iff.mp hh) a ha
        cases hlast : lastOutgoing (firstEntries l) with
        | none =>
            rw [lastOutgoing_eq_none.mp hlast] at hstands
            cases hstands
        | some b =>
            rw [hall b (hperm.mem_iff.mp (mem_firstEntries (lastOutgoing_mem hlast))) a ha]
      dsimp only
      cases history with
      | nil => rw [h₁.eq_nil, h₂.eq_nil]
      | cons a _ => rw [hres l₁ h₁ a List.mem_cons_self, hres l₂ h₂ a List.mem_cons_self]

/-- The address our claim pays to. -/
def claimAddress (addressFromScript : Script → Option Address) (m : TxMap) (claimTxId : Option LBtcHistory) :
    Option Address := do
  let tx ← m.incomingTxMap.lookup (← claimTxId).txid
  addressFromScript (← (← tx.outputs.find? Option.isSome))

/-- What the user lockup pays to the script. -/
def lockupAmountSat (txs : BtcTransactions) (lockupScript : Script) (userLockupTxId : Option BtcHistory) : Nat :=
  (userLockupTxId.bind fun h =>
    ((txs.tx h.txid).output.find? fun out => out.scriptPubkey == lockupScript).map fun out => out.value).getD 0

section Parts

variable (txs : BtcTransactions) (lockupScript : Script) (btcHistory : List BtcHistory)

/-- The transactions follow the history: what is filtered there is filtered here ... -/
theorem filter_ofHistory (p : BtcTransaction → Bool) :
    (txs.ofHistory btcHistory).filter p = txs.ofHistory (btcHistory.filter fun h => p (txs.tx h.txid)) :=
  List.filter_map

/-- ... and the entry of a transaction is found by its id. -/
theorem historyOf_tx (id : TxId) :
    historyOf btcHistory (txs.tx id) = btcHistory.find? fun h => h.txid == id := by
  unfold historyOf
  rw [txs.txid]

/-- The first entry that pays the script is the first one with its id. -/
theorem find?_txid_of_find?_paysTo {h : BtcHistory} (hfind : btcHistory.find? (txs.paysTo lockupScript) = some h) :
    (btcHistory.find? fun h' => h'.txid == h.txid) = some h := by
  obtain ⟨hpays, front, back, rfl, hfront⟩ := List.find?_eq_some_iff_append.mp hfind
  rw [List.find?_eq_some_iff_append]
  refine ⟨beq_self_eq_true h.txid, front, back, rfl, ?_⟩
  intro h' hmem
  have hnot := hfront h' hmem
  by_contra heq
  have hid : h'.txid = h.txid := by simpa using heq
  unfold BtcTransactions.paysTo at hpays hnot
  rw [hid, hpays] at hnot
  cases hnot

/-- The user lockup is the first entry that pays the script ... -/
theorem userLockup_ofHistory :
    ((txs.ofHistory btcHistory).filter (pays lockupScript)).head?.bind (historyOf btcHistory) =
      btcHistory.find? (txs.paysTo lockupScript) := by
  rw [filter_ofHistory]
  show (List.map _ (btcHistory.filter (txs.paysTo lockupScript))).head?.bind _ = _
  rw [List.head?_map, List.head?_filter]
  cases hfind : btcHistory.find? (txs.paysTo lockupScript) with
  | none => rfl
  | some h =>
      show historyOf btcHistory (txs.tx h.txid) = some h
      rw [historyOf_tx, find?_txid_of_find?_paysTo txs lockupScript btcHistory hfind]

/-- ... and the candidates for the refund are the others. -/
theorem outgoing_ofHistory :
    ((txs.ofHistory btcHistory).filter fun tx => !pays lockupScript tx).filterMap (historyOf btcHistory) =
      firstEntries (btcHistory.filter fun h => !txs.paysTo lockupScript h) := by
  rw [filter_ofHistory]
  unfold BtcTransactions.ofHistory firstEntries
  rw [List.filterMap_map]
  refine List.filterMap_congr fun e hmem => ?_
  have hpays := (List.mem_filter.mp hmem).2
  show historyOf btcHistory (txs.tx e.txid) = _
  rw [historyOf_tx, List.find?_filter]
  refine List.find?_congr fun h _ => ?_
  rw [Bool.eq_iff_iff]
  constructor
  · intro hid
    have hid' : h.txid = e.txid := eq_of_beq hid
    refine decide_eq_true ⟨?_, hid⟩
    show (!pays lockupScript (txs.tx h.txid)) = true
    rw [hid']
    exact hpays
  · intro h
    exact (of_decide_eq_true h).2

end Parts

/-- The entries of the lockup script history that spend the lockup. -/
def spendingEntries (txs : BtcTransactions) (lockupScript : Script) (btcHistory : List BtcHistory) :
    List BtcHistory :=
  btcHistory.filter fun h => !txs.paysTo lockupScript h

/-- The refund, as a function of whether a claim was recovered. -/
def refundOf (claimed : Bool) (outgoing : List BtcHistory) : Option BtcHistory :=
  if (!claimed || 1 < outgoing.length) = true then lastOutgoing (firstEntries outgoing) else none

/-- Each part of an incoming swap is found in one of its histories. -/
theorem recoverOnchainData_parts (addressFromScript : Script → Option Address) (m : TxMap) (txs : BtcTransactions)
    (lockupScript : Script) (balance : Option BtcScriptBalance) (lbtcHistory : List LBtcHistory)
    (btcHistory : List BtcHistory) :
    let d := determineIncomingLockupAndClaimTxs lbtcHistory m
    let lockup := btcHistory.find? (txs.paysTo lockupScript)
    recoverOnchainData addressFromScript m ⟨lbtcHistory, btcHistory, txs.ofHistory btcHistory, balance⟩ lockupScript =
      ⟨d.1, d.2, claimAddress addressFromScript m d.2, lockup, (balance.map BtcScriptBalance.confirmed).getD 0,
        lockupAmountSat txs lockupScript lockup,
        refundOf d.2.isSome (spendingEntries txs lockupScript btcHistory)⟩ := by
  have hamount : ((do
      let out ← (← ((txs.ofHistory btcHistory).filter (pays lockupScript)).head?).output.find?
        fun out => out.scriptPubkey == lockupScript
      return out.value) : Option Nat) =
      ((btcHistory.find? (txs.paysTo lockupScript)).bind fun h =>
        ((txs.tx h.txid).output.find? fun out => out.scriptPubkey == lockupScript).map fun out => out.value) := by
    rw [filter_ofHistory]
    show ((List.map _ (btcHistory.filter (txs.paysTo lockupScript))).head?).bind _ = _
    rw [List.head?_map, List.head?_filter]
    cases btcHistory.find? (txs.paysTo lockupScript) with
    | none => rfl
    | some h =>
        show ((txs.tx h.txid).output.find? _).bind _ = ((txs.tx h.txid).output.find? _).map _
        rw [Option.map_eq_bind]
        rfl
  -- the refund is looked for among the entries that do not pay the lockup script
  have hlength : ((txs.ofHistory btcHistory).filter fun tx => !pays lockupScript tx).length =
      (spendingEntries txs lockupScript btcHistory).length := by
    rw [filter_ofHistory]
    exact List.length_map ..
  have hrefund : ∀ claimed : Bool,
      (if claimed = true then
          if 1 < ((txs.ofHistory btcHistory).filter fun tx => !pays lockupScript tx).length
          then lastOutgoing (((txs.ofHistory btcHistory).filter fun tx => !pays lockupScript tx).filterMap
            (historyOf btcHistory)) else none
        else lastOutgoing (((txs.ofHistory btcHistory).filter fun tx => !pays lockupScript tx).filterMap
          (historyOf btcHistory))) =
      refundOf claimed (spendingEntries txs lockupScript btcHistory) := by
    intro claimed
    rw [hlength, outgoing_ofHistory]
    unfold refundOf
    cases claimed with
    | false => rfl
    | true =>
        by_cases hmany : 1 < (spendingEntries txs lockupScript btcHistory).length
        · rw [if_pos rfl, if_pos hmany, if_pos (by simpa using hmany)]
          rfl
        · rw [if_pos rfl, if_neg hmany, if_neg (by simpa using hmany)]
  unfold recoverOnchainData
  dsimp only
  rw [userLockup_ofHistory, hamount, hrefund]
  rfl

/-- The claim script history tells its entries apart, at most one Bitcoin entry pays the lockup script, and with a
refund to be recovered the last of the spending ones is told apart. -/
def ChainReceiveUnambiguous (m : TxMap) (txs : BtcTransactions) (lockupScript : Script)
    (lbtcHistory : List LBtcHistory) (btcHistory : List BtcHistory) : Prop :=
  ClaimUnambiguous m lbtcHistory ∧ Single (txs.paysTo lockupScript) btcHistory ∧
    (((determineIncomingLockupAndClaimTxs lbtcHistory m).2.isSome = true →
        1 < (spendingEntries txs lockupScript btcHistory).length) →
      LastUnambiguous (spendingEntries txs lockupScript btcHistory))

/-- Whether a claim is found does not depend on the order. -/
theorem claimed_perm (m : TxMap) {l₁ l₂ : List LBtcHistory} (h : l₁.Perm l₂) :
    (determineIncomingLockupAndClaimTxs l₁ m).2.isSome = (determineIncomingLockupAndClaimTxs l₂ m).2.isSome := by
  rw [determineIncoming_snd_isSome, determineIncoming_snd_isSome]
  have hlen := h.length_eq
  match l₁, l₂ with
  | [], [] => rfl
  | [_], [_] => rfl
  | [first, second], [first', second'] =>
      rcases List.perm_pair.mp h with heq | heq
      · rw [heq]
      · cases heq
        show (!(!m.isIncoming first.txid && !m.isIncoming second.txid)) =
          (!(!m.isIncoming second.txid && !m.isIncoming first.txid))
        rw [Bool.and_comm]
  | _ :: _ :: _ :: _, _ :: _ :: _ :: _ => rfl

/-- Likewise for incoming chain swaps. -/
theorem orderFree_iff (addressFromScript : Script → Option Address) (m : TxMap) (txs : BtcTransactions)
    (lockupScript : Script) (balance : Option BtcScriptBalance) (lbtcHistory : List LBtcHistory)
    (btcHistory : List BtcHistory) :
    OrderFree₂ (fun lbtc btc => recoverOnchainData addressFromScript m ⟨lbtc, btc, txs.ofHistory btc, balance⟩
        lockupScript) lbtcHistory btcHistory ↔
      ChainReceiveUnambiguous m txs lockupScript lbtcHistory btcHistory := by
  -- whether a claim is found is the same on every order, so the condition on the refund can be taken out
  have hrefund : OrderFree (fun btc => refundOf (determineIncomingLockupAndClaimTxs lbtcHistory m).2.isSome
      (spendingEntries txs lockupScript btc)) btcHistory ↔
      (((determineIncomingLockupAndClaimTxs lbtcHistory m).2.isSome = true →
        1 < (spendingEntries txs lockupScript btcHistory).length) →
      LastUnambiguous (spendingEntries txs lockupScript btcHistory)) := by
    have hlength := orderFree_congr (l := btcHistory)
      (f := fun btc => refundOf (determineIncomingLockupAndClaimTxs lbtcHistory m).2.isSome
        (spendingEntries txs lockupScript btc))
      (g := fun btc => if (!(determineIncomingLockupAndClaimTxs lbtcHistory m).2.isSome ||
          1 < (spendingEntries txs lockupScript btcHistory).length) = true
        then lastOutgoing (firstEntries (spendingEntries txs lockupScript btc)) else none) <| by
      intro l₁ l₂ h₁ h₂
      have hlen₁ : (spendingEntries txs lockupScript l₁).length =
          (spendingEntries txs lockupScript btcHistory).length :=
        (h₁.filter _).length_eq
      have hlen₂ : (spendingEntries txs lockupScript l₂).length =
          (spendingEntries txs lockupScript btcHistory).length :=
        (h₂.filter _).length_eq
      unfold refundOf
      rw [hlen₁, hlen₂]
    have hfilter : OrderFree (fun btc => lastOutgoing (firstEntries (spendingEntries txs lockupScript btc)))
        btcHistory ↔ OrderFree (fun l => lastOutgoing (firstEntries l)) (spendingEntries txs lockupScript btcHistory) :=
      orderFree_filter_iff (f := fun l => lastOutgoing (firstEntries l))
    rw [hlength, orderFree_ite_iff, hfilter, lastOutgoing_firstEntries_orderFree_iff]
    cases (determineIncomingLockupAndClaimTxs lbtcHistory m).2.isSome
    · simp
    · simp
  rw [orderFree₂_iff (a := fun l => determineIncomingLockupAndClaimTxs l m)
    (b := fun l => (l.find? (txs.paysTo lockupScript),
      refundOf (determineIncomingLockupAndClaimTxs lbtcHistory m).2.isSome (spendingEntries txs lockupScript l))),
    claim_orderFree_iff, orderFree_and, orderFree_find?_iff, hrefund]
  · rfl
  · intro l₁ l₂ m₁ m₂ hl₁ hl₂ _ _
    rw [recoverOnchainData_parts, recoverOnchainData_parts, claimed_perm m hl₁, claimed_perm m hl₂,
      RecoveredOnchainDataChainReceive.mk.injEq]
    constructor
    · rintro ⟨hserver, hclaim, -, hlockup, -, -, hrefund⟩
      exact ⟨Prod.ext hserver hclaim, Prod.ext hlockup hrefund⟩
    · rintro ⟨hd, hbtc⟩
      obtain ⟨hlockup, hrefund⟩ := Prod.mk.inj hbtc
      rw [hd, hlockup]
      exact ⟨rfl, rfl, rfl, rfl, rfl, rfl, hrefund⟩

end ChainReceiveSwapHandler

end BreezLiquid.Recover
