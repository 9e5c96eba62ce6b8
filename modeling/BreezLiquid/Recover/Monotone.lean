/-
# BreezLiquid.Recover.Monotone — recovery with an older wallet map.

The handlers promise to tolerate a wallet map that is older than the script history: "transactions
that are missing from `tx_map` are simply not recovered". Here that promise is measured. For an older
map `m ≤ m'` every id recovered with `m` should be absent or the id recovered with `m'`. Each handler
keeps the promise exactly on the histories described by its `…Stable` predicate; outside of it, a
transaction the older map misses is reported in another role.
-/
import Mathlib.Data.List.Find
import BreezLiquid.Recover.Handlers

namespace BreezLiquid.Recover

open Collections

/-! ## The split map grows with the raw one -/

namespace TxMap

/-- The two maps split the raw one by the sign of the balance. -/
theorem incomingTxMap_lookup (raw : RawTxMap) (id : TxId) :
    (fromRawTxMap raw).incomingTxMap.lookup id =
      (raw.txs.lookup id).filter fun tx => !decide (tx.balanceSum < 0) :=
  HashMap.lookup_filter _ _ _

theorem outgoingTxMap_lookup (raw : RawTxMap) (id : TxId) :
    (fromRawTxMap raw).outgoingTxMap.lookup id =
      (raw.txs.lookup id).filter fun tx => decide (tx.balanceSum < 0) :=
  HashMap.lookup_filter _ _ _

variable {raw raw' : RawTxMap}

theorem incomingTxMap_lookup_mono (hle : raw ≤ raw') {id : TxId} {tx : WalletTx}
    (h : (fromRawTxMap raw).incomingTxMap.lookup id = some tx) :
    (fromRawTxMap raw').incomingTxMap.lookup id = some tx := by
  rw [incomingTxMap_lookup, Option.filter_eq_some_iff] at h ⊢
  exact ⟨hle id tx h.1, h.2⟩

/-- A transaction known as ours stays known ... -/
theorem isIncoming_mono (hle : raw ≤ raw') {id : TxId}
    (h : (fromRawTxMap raw).isIncoming id = true) : (fromRawTxMap raw').isIncoming id = true := by
  obtain ⟨tx, htx⟩ := Option.isSome_iff_exists.mp h
  exact Option.isSome_iff_exists.mpr ⟨tx, incomingTxMap_lookup_mono hle htx⟩

theorem isOutgoing_mono (hle : raw ≤ raw') {id : TxId}
    (h : (fromRawTxMap raw).isOutgoing id = true) : (fromRawTxMap raw').isOutgoing id = true := by
  obtain ⟨tx, htx⟩ := Option.isSome_iff_exists.mp h
  rw [outgoingTxMap_lookup, Option.filter_eq_some_iff] at htx
  refine Option.isSome_iff_exists.mpr ⟨tx, ?_⟩
  rw [outgoingTxMap_lookup, Option.filter_eq_some_iff]
  exact ⟨hle id tx htx.1, htx.2⟩

/-- The transaction is neither a known incoming nor a known outgoing one. -/
def isUnknown (m : TxMap) (id : TxId) : Bool := !m.isIncoming id && !m.isOutgoing id

/-- ... so one that is unknown later was unknown before. -/
theorem isUnknown_anti (hle : raw ≤ raw') {id : TxId}
    (h : (fromRawTxMap raw').isUnknown id = true) : (fromRawTxMap raw).isUnknown id = true := by
  simp only [isUnknown, Bool.and_eq_true, Bool.not_eq_true'] at h ⊢
  constructor
  · by_contra hin
    rw [Bool.not_eq_false] at hin
    simp [isIncoming_mono hle hin] at h
  · by_contra hout
    rw [Bool.not_eq_false] at hout
    simp [isOutgoing_mono hle hout] at h

end TxMap

/-! ## What is compared -/

/-- The ids of two recovered roles: absent in the first, or equal. -/
def SameIdOrNone (o o' : Option History) : Prop :=
  AbsentOrEqual (o.map History.txid) (o'.map History.txid)

instance (o o' : Option History) : Decidable (SameIdOrNone o o') :=
  inferInstanceAs (Decidable (AbsentOrEqual _ _))

theorem SameIdOrNone.refl (o : Option History) : SameIdOrNone o o := AbsentOrEqual.refl _

/-- Where nothing is found later, nothing was found before. -/
theorem sameIdOrNone_none {o : Option History} : SameIdOrNone o none ↔ o = none := by
  simp [SameIdOrNone, AbsentOrEqual]

def RecoveredOnchainDataSend.IdsFrom (r r' : RecoveredOnchainDataSend) : Prop :=
  SameIdOrNone r.lockupTxId r'.lockupTxId ∧ SameIdOrNone r.claimTxId r'.claimTxId ∧
    SameIdOrNone r.refundTxId r'.refundTxId

def RecoveredOnchainDataReceive.IdsFrom (r r' : RecoveredOnchainDataReceive) : Prop :=
  SameIdOrNone r.lockupTxId r'.lockupTxId ∧ SameIdOrNone r.claimTxId r'.claimTxId ∧
    SameIdOrNone r.mrhTxId r'.mrhTxId

def RecoveredOnchainDataChainSend.IdsFrom (r r' : RecoveredOnchainDataChainSend) : Prop :=
  SameIdOrNone r.lbtcUserLockupTxId r'.lbtcUserLockupTxId ∧
    SameIdOrNone r.lbtcRefundTxId r'.lbtcRefundTxId ∧
    SameIdOrNone r.btcServerLockupTxId r'.btcServerLockupTxId ∧
    SameIdOrNone r.btcClaimTxId r'.btcClaimTxId

def RecoveredOnchainDataChainReceive.IdsFrom (r r' : RecoveredOnchainDataChainReceive) : Prop :=
  SameIdOrNone r.lbtcServerLockupTxId r'.lbtcServerLockupTxId ∧
    SameIdOrNone r.lbtcClaimTxId r'.lbtcClaimTxId ∧
    SameIdOrNone r.btcUserLockupTxId r'.btcUserLockupTxId ∧
    SameIdOrNone r.btcRefundTxId r'.btcRefundTxId

instance (r r' : RecoveredOnchainDataSend) : Decidable (r.IdsFrom r') :=
  inferInstanceAs (Decidable (_ ∧ _))

instance (r r' : RecoveredOnchainDataReceive) : Decidable (r.IdsFrom r') :=
  inferInstanceAs (Decidable (_ ∧ _))

instance (r r' : RecoveredOnchainDataChainReceive) : Decidable (r.IdsFrom r') :=
  inferInstanceAs (Decidable (_ ∧ _))

/-! ## First known entries

The lockup of a send or outgoing chain swap is the first outgoing entry of its history, the refund the
first incoming one. -/

/-- The lockup is kept exactly if no earlier entry becomes known as outgoing ... -/
theorem lockup_sameIdOrNone_iff {raw raw' : RawTxMap} (hle : raw ≤ raw')
    (history : List LBtcHistory) :
    SameIdOrNone (history.find? ((TxMap.fromRawTxMap raw).isOutgoing ∘ History.txid))
        (history.find? ((TxMap.fromRawTxMap raw').isOutgoing ∘ History.txid)) ↔
      Undisplaced ((TxMap.fromRawTxMap raw).isOutgoing ∘ History.txid)
        ((TxMap.fromRawTxMap raw').isOutgoing ∘ History.txid) history :=
  find?_absentOrEqual_iff History.txid (TxMap.fromRawTxMap raw).isOutgoing
    (TxMap.fromRawTxMap raw').isOutgoing (fun _ => TxMap.isOutgoing_mono hle) history

/-- ... and the refund exactly if none becomes known as incoming. -/
theorem refund_sameIdOrNone_iff {raw raw' : RawTxMap} (hle : raw ≤ raw')
    (history : List LBtcHistory) :
    SameIdOrNone (history.find? ((TxMap.fromRawTxMap raw).isIncoming ∘ History.txid))
        (history.find? ((TxMap.fromRawTxMap raw').isIncoming ∘ History.txid)) ↔
      Undisplaced ((TxMap.fromRawTxMap raw).isIncoming ∘ History.txid)
        ((TxMap.fromRawTxMap raw').isIncoming ∘ History.txid) history :=
  find?_absentOrEqual_iff History.txid (TxMap.fromRawTxMap raw).isIncoming
    (TxMap.fromRawTxMap raw').isIncoming (fun _ => TxMap.isIncoming_mono hle) history

/-! ## Send swaps -/

/-- No entry ahead of the first known outgoing (incoming) one becomes known as outgoing (incoming),
and with a known lockup the first unknown entry stays unknown. -/
def SendStable (m m' : TxMap) (history : List LBtcHistory) : Prop :=
  Undisplaced (m.isOutgoing ∘ History.txid) (m'.isOutgoing ∘ History.txid) history ∧
    ((∃ h ∈ history, m.isOutgoing h.txid = true) →
      ∀ h, history.find? (m.isUnknown ∘ History.txid) = some h → m'.isUnknown h.txid = true) ∧
    Undisplaced (m.isIncoming ∘ History.txid) (m'.isIncoming ∘ History.txid) history

namespace SendSwapHandler

theorem recoverOnchainData_claimTxId (m : TxMap) (history : List LBtcHistory) :
    (recoverOnchainData m history).claimTxId =
      if (history.find? (m.isOutgoing ∘ History.txid)).isSome
      then history.find? (m.isUnknown ∘ History.txid) else none := by
  have hunknown : ∀ h : LBtcHistory,
      decide ((!m.isIncoming h.txid) = true ∧ (!m.isOutgoing h.txid) = true) =
        m.isUnknown h.txid := by
    intro h
    simp [TxMap.isUnknown]
  simp only [recoverOnchainData, List.find?_filter, hunknown]
  rfl

/-- A claim is kept exactly if it stays unknown. -/
theorem claim_sameIdOrNone_iff {raw raw' : RawTxMap} (hle : raw ≤ raw')
    (history : List LBtcHistory) :
    SameIdOrNone (recoverOnchainData (.fromRawTxMap raw) history).claimTxId
        (recoverOnchainData (.fromRawTxMap raw') history).claimTxId ↔
      ((∃ h ∈ history, (TxMap.fromRawTxMap raw).isOutgoing h.txid = true) →
        ∀ h, history.find? ((TxMap.fromRawTxMap raw).isUnknown ∘ History.txid) = some h →
          (TxMap.fromRawTxMap raw').isUnknown h.txid = true) := by
  rw [recoverOnchainData_claimTxId, recoverOnchainData_claimTxId]
  by_cases hlock : ∃ h ∈ history, (TxMap.fromRawTxMap raw).isOutgoing h.txid = true
  · have hlock' : ∃ h ∈ history, (TxMap.fromRawTxMap raw').isOutgoing h.txid = true := by
      obtain ⟨h, hmem, hout⟩ := hlock
      exact ⟨h, hmem, TxMap.isOutgoing_mono hle hout⟩
    have hsome : (history.find? ((TxMap.fromRawTxMap raw).isOutgoing ∘ History.txid)).isSome := by
      simpa [List.find?_isSome] using hlock
    have hsome' : (history.find? ((TxMap.fromRawTxMap raw').isOutgoing ∘ History.txid)).isSome := by
      simpa [List.find?_isSome] using hlock'
    rw [if_pos hsome, if_pos hsome']
    simp only [SameIdOrNone, hlock, true_implies]
    exact find?_absentOrEqual_iff_of_narrower History.txid _ _
      (fun _ => TxMap.isUnknown_anti hle) history
  · have hnone : ¬ (history.find? ((TxMap.fromRawTxMap raw).isOutgoing ∘ History.txid)).isSome := by
      simpa [List.find?_isSome] using hlock
    rw [if_neg hnone]
    simp only [hlock, false_implies, iff_true]
    exact AbsentOrEqual.none _

/-- Send swaps: each of the three transactions, together. -/
theorem recoverOnchainData_idsFrom_iff {raw raw' : RawTxMap} (hle : raw ≤ raw')
    (history : List LBtcHistory) :
    (recoverOnchainData (.fromRawTxMap raw) history).IdsFrom
        (recoverOnchainData (.fromRawTxMap raw') history) ↔
      SendStable (.fromRawTxMap raw) (.fromRawTxMap raw') history := by
  refine and_congr ?_ (and_congr (claim_sameIdOrNone_iff hle history) ?_)
  · exact lockup_sameIdOrNone_iff hle history
  · exact refund_sameIdOrNone_iff hle history

end SendSwapHandler

/-! ## Outgoing chain swaps -/

/-- No entry ahead of the first known outgoing (incoming) one becomes known as outgoing (incoming). -/
def ChainSendStable (m m' : TxMap) (history : SendChainSwapHistory) : Prop :=
  Undisplaced (m.isOutgoing ∘ History.txid) (m'.isOutgoing ∘ History.txid)
      history.lbtcLockupScriptHistory ∧
    Undisplaced (m.isIncoming ∘ History.txid) (m'.isIncoming ∘ History.txid)
      history.lbtcLockupScriptHistory

namespace ChainSendSwapHandler

/-- The Bitcoin half of the recovered data does not read the wallet map. -/
theorem recoverOnchainData_btc_eq (m m' : TxMap) (history : SendChainSwapHistory)
    (claimScript : Script) :
    (recoverOnchainData m history claimScript).btcServerLockupTxId =
        (recoverOnchainData m' history claimScript).btcServerLockupTxId ∧
      (recoverOnchainData m history claimScript).btcClaimTxId =
        (recoverOnchainData m' history claimScript).btcClaimTxId := ⟨rfl, rfl⟩

/-- Outgoing chain swaps: only the Liquid side depends on the map. -/
theorem recoverOnchainData_idsFrom_iff {raw raw' : RawTxMap} (hle : raw ≤ raw')
    (history : SendChainSwapHistory) (claimScript : Script) :
    (recoverOnchainData (.fromRawTxMap raw) history claimScript).IdsFrom
        (recoverOnchainData (.fromRawTxMap raw') history claimScript) ↔
      ChainSendStable (.fromRawTxMap raw) (.fromRawTxMap raw') history := by
  obtain ⟨hlockup, hclaim⟩ := recoverOnchainData_btc_eq (.fromRawTxMap raw) (.fromRawTxMap raw')
    history claimScript
  rw [RecoveredOnchainDataChainSend.IdsFrom, hlockup, hclaim]
  refine Iff.trans ?_ (and_congr
    (lockup_sameIdOrNone_iff hle history.lbtcLockupScriptHistory)
    (refund_sameIdOrNone_iff hle history.lbtcLockupScriptHistory))
  exact ⟨fun h => ⟨h.1, h.2.1⟩, fun h => ⟨h.1, h.2, .refl _, .refl _⟩⟩

end ChainSendSwapHandler

/-! ## The lockup and claim of an incoming swap -/

/-- Two entries, neither of which the map knows as ours. -/
def bothUnknown (m : TxMap) (first second : LBtcHistory) : Bool :=
  !m.isIncoming first.txid && !m.isIncoming second.txid

/-- By the confirmation heights the first entry is the lockup. -/
def firstIsLockup (first second : LBtcHistory) : Bool :=
  first.confirmed && (!second.confirmed || first.height < second.height)

/-- By the confirmation heights the second entry is the lockup. -/
def secondIsLockup (first second : LBtcHistory) : Bool :=
  second.confirmed && !(firstIsLockup first second)

/-- The conditions on a two-entry claim script history under which an older map reports no wrong
lockup or claim. If the older map knows the second entry as our claim, the newer one must not know
the first. If it knows neither and the heights choose a lockup, the chosen entry must not turn out
to be our claim. -/
def IncomingStable (m m' : TxMap) : List LBtcHistory → Prop
  | [first, second] =>
      (!m.isIncoming first.txid ∧ m.isIncoming second.txid → !m'.isIncoming first.txid) ∧
      (bothUnknown m first second ∧ firstIsLockup first second →
        m'.isIncoming first.txid → first.txid = second.txid) ∧
      (bothUnknown m first second ∧ secondIsLockup first second →
        m'.isIncoming second.txid → m'.isIncoming first.txid)
  | _ => True

/-- The cases of a history of two entries, in the order they are tried. -/
theorem determineIncoming_pair (m : TxMap) (first second : LBtcHistory) :
    determineIncomingLockupAndClaimTxs [first, second] m =
      if m.isIncoming first.txid then (some second, some first)
      else if m.isIncoming second.txid then (some first, some second)
      else if firstIsLockup first second then (some first, none)
      else if secondIsLockup first second then (some second, none)
      else (none, none) := by
  simp only [determineIncomingLockupAndClaimTxs, firstIsLockup, secondIsLockup]
  rcases Bool.eq_false_or_eq_true first.confirmed with h1 | h1 <;>
    rcases Bool.eq_false_or_eq_true second.confirmed with h2 | h2 <;>
    by_cases hh : first.height < second.height
  all_goals simp [h1, h2, hh]

/-- Split as the code splits: on which of the two entries the maps know, then on the heights. -/
theorem pair_sameIdOrNone_iff {m m' : TxMap}
    (hmono : ∀ id, m.isIncoming id = true → m'.isIncoming id = true) (first second : LBtcHistory) :
    SameIdOrNone (determineIncomingLockupAndClaimTxs [first, second] m).1
          (determineIncomingLockupAndClaimTxs [first, second] m').1 ∧
        SameIdOrNone (determineIncomingLockupAndClaimTxs [first, second] m).2
          (determineIncomingLockupAndClaimTxs [first, second] m').2 ↔
      IncomingStable m m' [first, second] := by
  simp only [determineIncoming_pair, IncomingStable, bothUnknown, SameIdOrNone]
  by_cases hf : m.isIncoming first.txid = true
  · simp [hf, hmono _ hf, AbsentOrEqual]
  rw [Bool.not_eq_true] at hf
  by_cases hs : m.isIncoming second.txid = true
  · have hne : first.txid ≠ second.txid := by
      intro heq
      rw [heq, hs] at hf
      cases hf
    cases m'.isIncoming first.txid <;> simp [hf, hs, hmono _ hs, hne, hne.symm]
  rw [Bool.not_eq_true] at hs
  by_cases h1 : firstIsLockup first second = true
  · have h2 : secondIsLockup first second = false := by simp [secondIsLockup, h1]
    cases m'.isIncoming first.txid <;> cases m'.isIncoming second.txid <;>
      simp [hf, hs, h1, h2, AbsentOrEqual, eq_comm]
  rw [Bool.not_eq_true] at h1
  by_cases h2 : secondIsLockup first second = true
  · cases hf' : m'.isIncoming first.txid
    · cases hs' : m'.isIncoming second.txid
      · simp [hf, hs, h1, h2, AbsentOrEqual]
      · have hne : first.txid ≠ second.txid := by
          intro heq
          rw [heq, hs'] at hf'
          cases hf'
        simp [hf, hs, h1, h2, hne]
    · simp [hf, hs, h1, h2, AbsentOrEqual]
  · rw [Bool.not_eq_true] at h2
    simp [hf, hs, h1, h2, AbsentOrEqual]

/-- The lockup and the claim of an incoming swap, by these cases. -/
theorem determineIncoming_sameIdOrNone_iff {raw raw' : RawTxMap} (hle : raw ≤ raw')
    (history : List LBtcHistory) :
    SameIdOrNone (determineIncomingLockupAndClaimTxs history (.fromRawTxMap raw)).1
          (determineIncomingLockupAndClaimTxs history (.fromRawTxMap raw')).1 ∧
        SameIdOrNone (determineIncomingLockupAndClaimTxs history (.fromRawTxMap raw)).2
          (determineIncomingLockupAndClaimTxs history (.fromRawTxMap raw')).2 ↔
      IncomingStable (.fromRawTxMap raw) (.fromRawTxMap raw') history := by
  match history with
  | [] => simp [determineIncomingLockupAndClaimTxs, IncomingStable, SameIdOrNone, AbsentOrEqual]
  | [only] => simp [determineIncomingLockupAndClaimTxs, IncomingStable, SameIdOrNone, AbsentOrEqual]
  | _ :: _ :: _ :: _ =>
      simp [determineIncomingLockupAndClaimTxs, IncomingStable, SameIdOrNone, AbsentOrEqual]
  | [first, second] =>
      exact pair_sameIdOrNone_iff (fun _ => TxMap.isIncoming_mono hle) first second

/-! ## Receive swaps -/

/-- The map knows an incoming transaction under the id that can be a payment to the routing-hint
address of the swap. -/
def isMrhId (m : TxMap) (swapTimestamp receiverAmountSat : Nat) (lbtcAssetId : AssetId)
    (id : TxId) : Bool :=
  (m.incomingTxMap.lookup id).any
    (ReceiveSwapHandler.isMrhTx swapTimestamp receiverAmountSat lbtcAssetId)

/-- From this claim script history no lockup is told apart: it has neither one nor two entries, or two
unconfirmed ones the map does not know. -/
def lockupUndetermined (m : TxMap) : List LBtcHistory → Bool
  | [_] => false
  | [first, second] => bothUnknown m first second && !first.confirmed && !second.confirmed
  | _ => true

/-- The claim script history is stable, and when no lockup is told apart but a routing-hint payment is
known, no lockup comes up and no entry ahead of the payment becomes known as one. -/
def ReceiveStable (m m' : TxMap) (history : ReceiveSwapHistory)
    (swapTimestamp receiverAmountSat : Nat) (lbtcAssetId : AssetId) : Prop :=
  IncomingStable m m' history.lbtcClaimScriptHistory ∧
    (lockupUndetermined m history.lbtcClaimScriptHistory →
      (∃ h ∈ history.lbtcMrhScriptHistory,
        isMrhId m swapTimestamp receiverAmountSat lbtcAssetId h.txid = true) →
        lockupUndetermined m' history.lbtcClaimScriptHistory) ∧
    (lockupUndetermined m history.lbtcClaimScriptHistory →
      Undisplaced (isMrhId m swapTimestamp receiverAmountSat lbtcAssetId ∘ History.txid)
        (isMrhId m' swapTimestamp receiverAmountSat lbtcAssetId ∘ History.txid)
        history.lbtcMrhScriptHistory)

/-- An MRH payment stays one. -/
theorem isMrhId_mono {raw raw' : RawTxMap} (hle : raw ≤ raw')
    {swapTimestamp receiverAmountSat : Nat} {lbtcAssetId : AssetId} {id : TxId}
    (h : isMrhId (.fromRawTxMap raw) swapTimestamp receiverAmountSat lbtcAssetId id = true) :
    isMrhId (.fromRawTxMap raw') swapTimestamp receiverAmountSat lbtcAssetId id = true := by
  simp only [isMrhId, Option.any_eq_true] at h ⊢
  obtain ⟨tx, htx, hmrh⟩ := h
  exact ⟨tx, TxMap.incomingTxMap_lookup_mono hle htx, hmrh⟩

/-- Where the lockup is left open, the MRH history is looked at. -/
theorem determineIncoming_fst_isNone (m : TxMap) (history : List LBtcHistory) :
    (determineIncomingLockupAndClaimTxs history m).1 = none ↔
      lockupUndetermined m history = true := by
  match history with
  | [] => simp [determineIncomingLockupAndClaimTxs, lockupUndetermined]
  | [only] => simp [determineIncomingLockupAndClaimTxs, lockupUndetermined]
  | _ :: _ :: _ :: _ => simp [determineIncomingLockupAndClaimTxs, lockupUndetermined]
  | [first, second] =>
      rw [determineIncoming_pair, lockupUndetermined, bothUnknown]
      by_cases hf : m.isIncoming first.txid = true
      · simp [hf]
      by_cases hs : m.isIncoming second.txid = true
      · simp [hs]
        split <;> simp
      by_cases h1 : first.confirmed = true <;> by_cases h2 : second.confirmed = true
      all_goals simp [hf, hs, h1, h2, firstIsLockup, secondIsLockup]
      split <;> simp_all

/-- A claim is only told apart together with its lockup. -/
theorem determineIncoming_snd_of_fst (m : TxMap) (history : List LBtcHistory)
    (h : (determineIncomingLockupAndClaimTxs history m).1 = none) :
    (determineIncomingLockupAndClaimTxs history m).2 = none := by
  match history with
  | [] => rfl
  | [only] => rfl
  | _ :: _ :: _ :: _ => rfl
  | [first, second] =>
      rw [determineIncoming_pair] at h ⊢
      split at h
      · cases h
      split at h
      · cases h
      split at h
      · cases h
      split at h
      · cases h
      · simp_all

namespace ReceiveSwapHandler

variable (swapTimestamp receiverAmountSat : Nat) (lbtcAssetId : AssetId)

/-- The transactions collected for the routing-hint script are keyed by their own ids, so an entry of
the history is found among them exactly when it is a payment itself. -/
theorem mrhTxs_find? (raw : RawTxMap) (history : List LBtcHistory) :
    (history.find? fun h => ((HashMap.ofList
        (((history.filterMap fun h => (TxMap.fromRawTxMap raw).incomingTxMap.lookup h.txid).filter
          (isMrhTx swapTimestamp receiverAmountSat lbtcAssetId)).map fun tx =>
            (tx.txid, tx))).lookup h.txid).isSome) =
      history.find?
        (isMrhId (.fromRawTxMap raw) swapTimestamp receiverAmountSat lbtcAssetId ∘ History.txid) := by
  have hkeyed : ∀ id tx, (TxMap.fromRawTxMap raw).incomingTxMap.lookup id = some tx →
      tx.txid = id := by
    intro id tx h
    rw [TxMap.incomingTxMap_lookup, Option.filter_eq_some_iff] at h
    exact raw.keyed id tx h.1
  refine List.find?_congr fun h hmem => ?_
  rw [Bool.eq_iff_iff, AList.lookup_isSome, HashMap.mem_ofList, Function.comp_apply, isMrhId,
    Option.any_eq_true]
  constructor
  · rintro ⟨e, he, hid⟩
    obtain ⟨tx, htx, rfl⟩ := List.mem_map.mp he
    obtain ⟨hfetched, hmrh⟩ := List.mem_filter.mp htx
    obtain ⟨h', -, hlook⟩ := List.mem_filterMap.mp hfetched
    have : h'.txid = h.txid := (hkeyed _ _ hlook).symm.trans hid
    exact ⟨tx, this ▸ hlook, hmrh⟩
  · rintro ⟨tx, hlook, hmrh⟩
    refine ⟨(tx.txid, tx), List.mem_map.mpr ⟨tx, ?_, rfl⟩, hkeyed _ _ hlook⟩
    exact List.mem_filter.mpr ⟨List.mem_filterMap.mpr ⟨h, hmem, hlook⟩, hmrh⟩

theorem recoverOnchainData_eq (raw : RawTxMap) (history : ReceiveSwapHistory) :
    let r := recoverOnchainData (.fromRawTxMap raw) history swapTimestamp receiverAmountSat
      lbtcAssetId
    let d := determineIncomingLockupAndClaimTxs history.lbtcClaimScriptHistory (.fromRawTxMap raw)
    r.lockupTxId = d.1 ∧ r.claimTxId = d.2 ∧
      r.mrhTxId = if lockupUndetermined (.fromRawTxMap raw) history.lbtcClaimScriptHistory
        then history.lbtcMrhScriptHistory.find?
          (isMrhId (.fromRawTxMap raw) swapTimestamp receiverAmountSat lbtcAssetId ∘ History.txid)
        else none := by
  have hlockup := determineIncoming_fst_isNone (.fromRawTxMap raw) history.lbtcClaimScriptHistory
  have hclaim := determineIncoming_snd_of_fst (.fromRawTxMap raw) history.lbtcClaimScriptHistory
  simp only [recoverOnchainData, mrhTxs_find?]
  generalize determineIncomingLockupAndClaimTxs history.lbtcClaimScriptHistory _ = d at *
  obtain ⟨_ | lockup, claim⟩ := d
  · simp_all
  · simp_all

/-- The MRH transaction is kept as long as the lockup is left open and no other payment comes to displace
it. -/
theorem mrh_sameIdOrNone_iff {raw raw' : RawTxMap} (hle : raw ≤ raw')
    (history : ReceiveSwapHistory) :
    SameIdOrNone
        (recoverOnchainData (.fromRawTxMap raw) history swapTimestamp receiverAmountSat
          lbtcAssetId).mrhTxId
        (recoverOnchainData (.fromRawTxMap raw') history swapTimestamp receiverAmountSat
          lbtcAssetId).mrhTxId ↔
      (lockupUndetermined (.fromRawTxMap raw) history.lbtcClaimScriptHistory →
        (∃ h ∈ history.lbtcMrhScriptHistory,
          isMrhId (.fromRawTxMap raw) swapTimestamp receiverAmountSat lbtcAssetId h.txid = true) →
          lockupUndetermined (.fromRawTxMap raw') history.lbtcClaimScriptHistory) ∧
      (lockupUndetermined (.fromRawTxMap raw) history.lbtcClaimScriptHistory →
        Undisplaced
          (isMrhId (.fromRawTxMap raw) swapTimestamp receiverAmountSat lbtcAssetId ∘ History.txid)
          (isMrhId (.fromRawTxMap raw') swapTimestamp receiverAmountSat lbtcAssetId ∘ History.txid)
          history.lbtcMrhScriptHistory) := by
  rw [(recoverOnchainData_eq _ _ _ raw history).2.2, (recoverOnchainData_eq _ _ _ raw' history).2.2]
  by_cases hu : lockupUndetermined (.fromRawTxMap raw) history.lbtcClaimScriptHistory = true
  · have hfind := find?_absentOrEqual_iff History.txid
      (isMrhId (.fromRawTxMap raw) swapTimestamp receiverAmountSat lbtcAssetId)
      (isMrhId (.fromRawTxMap raw') swapTimestamp receiverAmountSat lbtcAssetId)
      (fun _ => isMrhId_mono hle) history.lbtcMrhScriptHistory
    by_cases hu' : lockupUndetermined (.fromRawTxMap raw') history.lbtcClaimScriptHistory = true
    · simpa [SameIdOrNone, hu, hu'] using hfind
    · -- a lockup came up, so the older map must not have reported a payment
      rw [if_pos hu, if_neg hu', sameIdOrNone_none, List.find?_eq_none]
      constructor
      · intro h
        exact ⟨fun _ ⟨x, hx, hp⟩ => absurd hp (h x hx), fun _ ⟨x, hx, hp⟩ => absurd hp (h x hx)⟩
      · intro h x hx hp
        exact hu' (h.1 hu ⟨x, hx, hp⟩)
  · simp [SameIdOrNone, AbsentOrEqual, hu]

/-- Receive swaps: both histories, together. -/
theorem recoverOnchainData_idsFrom_iff {raw raw' : RawTxMap} (hle : raw ≤ raw')
    (history : ReceiveSwapHistory) :
    (recoverOnchainData (.fromRawTxMap raw) history swapTimestamp receiverAmountSat
        lbtcAssetId).IdsFrom
        (recoverOnchainData (.fromRawTxMap raw') history swapTimestamp receiverAmountSat
          lbtcAssetId) ↔
      ReceiveStable (.fromRawTxMap raw) (.fromRawTxMap raw') history swapTimestamp
        receiverAmountSat lbtcAssetId := by
  obtain ⟨hlockup, hclaim, -⟩ := recoverOnchainData_eq swapTimestamp receiverAmountSat lbtcAssetId
    raw history
  obtain ⟨hlockup', hclaim', -⟩ := recoverOnchainData_eq swapTimestamp receiverAmountSat lbtcAssetId
    raw' history
  rw [RecoveredOnchainDataReceive.IdsFrom, ReceiveStable, hlockup, hlockup', hclaim, hclaim',
    ← and_assoc]
  exact and_congr (determineIncoming_sameIdOrNone_iff hle _)
    (mrh_sameIdOrNone_iff swapTimestamp receiverAmountSat lbtcAssetId hle history)

end ReceiveSwapHandler

/-! ## Incoming chain swaps -/

/-- The map has come to know the claim of a two-entry history. -/
def claimNewlyKnown (m m' : TxMap) : List LBtcHistory → Bool
  | [first, second] =>
      bothUnknown m first second && (m'.isIncoming first.txid || m'.isIncoming second.txid)
  | _ => false

/-- A claim is found in a history of two entries that are not both unknown. -/
theorem determineIncoming_snd_isSome (m : TxMap) (history : List LBtcHistory) :
    (determineIncomingLockupAndClaimTxs history m).2.isSome =
      match history with
      | [first, second] => !bothUnknown m first second
      | _ => false := by
  match history with
  | [] => rfl
  | [only] => rfl
  | _ :: _ :: _ :: _ => rfl
  | [first, second] =>
      rw [determineIncoming_pair]
      cases hf : m.isIncoming first.txid <;> cases hs : m.isIncoming second.txid
      · simp only [bothUnknown, hf, hs, Bool.false_eq_true, if_false, Bool.not_false, Bool.and_self, Bool.not_true]
        split
        · rfl
        · split <;> rfl
      all_goals simp [bothUnknown, hf, hs]

theorem claimNewlyKnown_eq (m m' : TxMap) (history : List LBtcHistory) :
    claimNewlyKnown m m' history =
      (!(determineIncomingLockupAndClaimTxs history m).2.isSome &&
        (determineIncomingLockupAndClaimTxs history m').2.isSome) := by
  rw [determineIncoming_snd_isSome, determineIncoming_snd_isSome]
  match history with
  | [] => rfl
  | [_] => rfl
  | _ :: _ :: _ :: _ => rfl
  | [first, second] => simp [claimNewlyKnown, bothUnknown]

/-- A claim that is found is found with a larger map. -/
theorem determineIncoming_snd_mono {m m' : TxMap}
    (hmono : ∀ id, m.isIncoming id = true → m'.isIncoming id = true) (history : List LBtcHistory)
    (h : (determineIncomingLockupAndClaimTxs history m).2.isSome = true) :
    (determineIncomingLockupAndClaimTxs history m').2.isSome = true := by
  rw [determineIncoming_snd_isSome] at h ⊢
  match history with
  | [] => cases h
  | [_] => cases h
  | _ :: _ :: _ :: _ => cases h
  | [first, second] =>
      simp only [bothUnknown, Bool.not_and, Bool.not_not, Bool.or_eq_true] at h ⊢
      exact h.imp (hmono _) (hmono _)

namespace ChainReceiveSwapHandler

/-- The fetched transactions that spend the lockup script. -/
def btcLockupOutgoingTxs (history : ReceiveChainSwapHistory) (lockupScript : Script) :
    List BtcTransaction :=
  history.btcLockupScriptTxs.filter fun tx => !pays lockupScript tx

/-- The refund, as a function of whether a claim was recovered. -/
def refundTxId (history : ReceiveChainSwapHistory) (lockupScript : Script) (claimed : Bool) :
    Option BtcHistory :=
  let last := lastOutgoing ((btcLockupOutgoingTxs history lockupScript).filterMap
    (historyOf history.btcLockupScriptHistory))
  if claimed then if 1 < (btcLockupOutgoingTxs history lockupScript).length then last else none
  else last

theorem recoverOnchainData_btcRefundTxId (addressFromScript : Script → Option Address) (m : TxMap)
    (history : ReceiveChainSwapHistory) (lockupScript : Script) :
    (recoverOnchainData addressFromScript m history lockupScript).btcRefundTxId =
      refundTxId history lockupScript
        (determineIncomingLockupAndClaimTxs history.lbtcClaimScriptHistory m).2.isSome := rfl

/-- The claim script history is stable, and when the map comes to know the claim, more than one fetched
transaction spends the lockup or none of them is in the history. -/
def ChainReceiveStable (m m' : TxMap) (history : ReceiveChainSwapHistory)
    (lockupScript : Script) : Prop :=
  IncomingStable m m' history.lbtcClaimScriptHistory ∧
    (claimNewlyKnown m m' history.lbtcClaimScriptHistory →
      (btcLockupOutgoingTxs history lockupScript).length ≤ 1 →
        ∀ tx ∈ btcLockupOutgoingTxs history lockupScript,
          historyOf history.btcLockupScriptHistory tx = none)

/-- The refund is lost exactly where a claim becomes known and there is just one outgoing transaction, now
the swapper's. -/
theorem refund_sameIdOrNone_iff {m m' : TxMap}
    (hmono : ∀ id, m.isIncoming id = true → m'.isIncoming id = true)
    (history : ReceiveChainSwapHistory) (lockupScript : Script) :
    SameIdOrNone
        (refundTxId history lockupScript
          (determineIncomingLockupAndClaimTxs history.lbtcClaimScriptHistory m).2.isSome)
        (refundTxId history lockupScript
          (determineIncomingLockupAndClaimTxs history.lbtcClaimScriptHistory m').2.isSome) ↔
      (claimNewlyKnown m m' history.lbtcClaimScriptHistory →
        (btcLockupOutgoingTxs history lockupScript).length ≤ 1 →
          ∀ tx ∈ btcLockupOutgoingTxs history lockupScript,
            historyOf history.btcLockupScriptHistory tx = none) := by
  rw [claimNewlyKnown_eq]
  have hclaim := determineIncoming_snd_mono hmono history.lbtcClaimScriptHistory
  generalize (determineIncomingLockupAndClaimTxs history.lbtcClaimScriptHistory m).2.isSome = c at *
  generalize (determineIncomingLockupAndClaimTxs history.lbtcClaimScriptHistory m').2.isSome = c'
    at *
  cases c with
  | true =>
      rw [hclaim rfl]
      exact iff_of_true (.refl _) (by simp)
  | false =>
      cases c' with
      | false => exact iff_of_true (.refl _) (by simp)
      | true =>
          by_cases hlen : 1 < (btcLockupOutgoingTxs history lockupScript).length
          · simp only [refundTxId, hlen, if_true]
            exact iff_of_true (.refl _) fun _ h => by omega
          · simp only [refundTxId, hlen, if_false, Bool.false_eq_true, if_true, sameIdOrNone_none,
              lastOutgoing_eq_none, List.filterMap_eq_nil_iff, Bool.not_false, Bool.and_self,
              true_implies, not_lt.mp hlen]

/-- Incoming chain swaps: the Liquid side as above, and the refund. -/
theorem recoverOnchainData_idsFrom_iff (addressFromScript : Script → Option Address)
    {raw raw' : RawTxMap} (hle : raw ≤ raw') (history : ReceiveChainSwapHistory)
    (lockupScript : Script) :
    (recoverOnchainData addressFromScript (.fromRawTxMap raw) history lockupScript).IdsFrom
        (recoverOnchainData addressFromScript (.fromRawTxMap raw') history lockupScript) ↔
      ChainReceiveStable (.fromRawTxMap raw) (.fromRawTxMap raw') history lockupScript := by
  have hpair := determineIncoming_sameIdOrNone_iff hle history.lbtcClaimScriptHistory
  have hrefund := refund_sameIdOrNone_iff (fun _ => TxMap.isIncoming_mono hle) history lockupScript
  rw [RecoveredOnchainDataChainReceive.IdsFrom, recoverOnchainData_btcRefundTxId,
    recoverOnchainData_btcRefundTxId, hrefund, ChainReceiveStable, ← hpair]
  constructor
  · rintro ⟨hlockup, hclaim, -, hrefund⟩
    exact ⟨⟨hlockup, hclaim⟩, hrefund⟩
  · rintro ⟨⟨hlockup, hclaim⟩, hrefund⟩
    -- the user lockup is read off the Bitcoin history alone
    exact ⟨hlockup, hclaim, .refl _, hrefund⟩

end ChainReceiveSwapHandler

/-! ## An older and a newer map

The older map has our lockup but not yet the transaction that brought the funds home. -/

/-- More transactions of other ids give a larger map. -/
theorem transactionsByTxId_le (txs more : List WalletTx)
    (h : ∀ tx ∈ more, ∀ tx' ∈ txs, tx.txid ≠ tx'.txid) :
    transactionsByTxId txs ≤ transactionsByTxId (txs ++ more) := by
  intro id tx hlook
  have hold : (HashMap.ofList (txs.map fun tx => (tx.txid, tx))).lookup id = some tx := hlook
  obtain ⟨tx', hmem, heq⟩ := List.mem_map.mp (HashMap.mem_of_lookup_ofList hold)
  simp only [Prod.mk.injEq] at heq
  change (HashMap.ofList ((txs ++ more).map fun tx => (tx.txid, tx))).lookup id = some tx
  rw [HashMap.lookup_ofList] at hold ⊢
  rw [List.map_append, List.reverse_append, List.find?_append]
  have hnone : ((more.map fun tx => (tx.txid, tx)).reverse.find? fun e => e.1 = id) = none := by
    simp only [List.find?_eq_none, List.mem_reverse, List.mem_map, decide_eq_true_eq]
    rintro e ⟨tx'', hmore, rfl⟩ hid
    exact h tx'' hmore tx' hmem (hid.trans heq.1.symm)
  rw [hnone, Option.none_or]
  exact hold

/-- Our lockup of 1000 sat. -/
def lockupTx : WalletTx := { txid := "lockup", balance := HashMap.ofList [("lbtc", -1000)] }

/-- The transaction that brings 900 sat back: a refund of a send swap, a claim of an incoming one. -/
def returnTx : WalletTx := { txid := "return", balance := HashMap.ofList [("lbtc", 900)] }

theorem older_le_newer : transactionsByTxId [lockupTx] ≤ transactionsByTxId [lockupTx, returnTx] :=
  transactionsByTxId_le [lockupTx] [returnTx] (by decide)

/-! ## All four handlers -/

/-- **Recovery with an older wallet map, measured.** In each of the four handlers the ids recovered with
an older map are absent or the ids recovered with the newer one exactly on the stable histories. -/
theorem recoverOnchainData_idsFrom_iff_stable {raw raw' : RawTxMap} (hle : raw ≤ raw') :
    (∀ history,
      (SendSwapHandler.recoverOnchainData (.fromRawTxMap raw) history).IdsFrom
          (SendSwapHandler.recoverOnchainData (.fromRawTxMap raw') history) ↔
        SendStable (.fromRawTxMap raw) (.fromRawTxMap raw') history) ∧
    (∀ history swapTimestamp receiverAmountSat lbtcAssetId,
      (ReceiveSwapHandler.recoverOnchainData (.fromRawTxMap raw) history swapTimestamp
          receiverAmountSat lbtcAssetId).IdsFrom
          (ReceiveSwapHandler.recoverOnchainData (.fromRawTxMap raw') history swapTimestamp
            receiverAmountSat lbtcAssetId) ↔
        ReceiveStable (.fromRawTxMap raw) (.fromRawTxMap raw') history swapTimestamp
          receiverAmountSat lbtcAssetId) ∧
    (∀ history claimScript,
      (ChainSendSwapHandler.recoverOnchainData (.fromRawTxMap raw) history claimScript).IdsFrom
          (ChainSendSwapHandler.recoverOnchainData (.fromRawTxMap raw') history claimScript) ↔
        ChainSendStable (.fromRawTxMap raw) (.fromRawTxMap raw') history) ∧
    (∀ addressFromScript history lockupScript,
      (ChainReceiveSwapHandler.recoverOnchainData addressFromScript (.fromRawTxMap raw) history
          lockupScript).IdsFrom
          (ChainReceiveSwapHandler.recoverOnchainData addressFromScript (.fromRawTxMap raw') history
            lockupScript) ↔
        ChainReceiveSwapHandler.ChainReceiveStable (.fromRawTxMap raw) (.fromRawTxMap raw') history
          lockupScript) :=
  ⟨SendSwapHandler.recoverOnchainData_idsFrom_iff hle,
    fun history swapTimestamp receiverAmountSat lbtcAssetId =>
      ReceiveSwapHandler.recoverOnchainData_idsFrom_iff swapTimestamp receiverAmountSat lbtcAssetId
        hle history,
    ChainSendSwapHandler.recoverOnchainData_idsFrom_iff hle,
    fun addressFromScript =>
      ChainReceiveSwapHandler.recoverOnchainData_idsFrom_iff addressFromScript hle⟩

/-- A lockup that the swapper claimed is stable, since neither map knows the claim; one that came back is not, nor is
an incoming lockup that was claimed in its own block. -/
theorem recoverOnchainData_idsFrom_iff_stable_return :
    SendStable (.fromRawTxMap (transactionsByTxId [lockupTx]))
      (.fromRawTxMap (transactionsByTxId [lockupTx, returnTx])) [⟨"lockup", 100⟩, ⟨"claim", 101⟩] ∧
    ¬ SendStable (.fromRawTxMap (transactionsByTxId [lockupTx]))
      (.fromRawTxMap (transactionsByTxId [lockupTx, returnTx])) [⟨"lockup", 100⟩, ⟨"return", 0⟩] ∧
    ReceiveStable (.fromRawTxMap (transactionsByTxId [lockupTx]))
      (.fromRawTxMap (transactionsByTxId [lockupTx, returnTx]))
      ⟨[⟨"server", 100⟩, ⟨"return", 101⟩], []⟩ 0 900 "lbtc" ∧
    ¬ ReceiveStable (.fromRawTxMap (transactionsByTxId [lockupTx]))
      (.fromRawTxMap (transactionsByTxId [lockupTx, returnTx]))
      ⟨[⟨"server", 100⟩, ⟨"return", 100⟩], []⟩ 0 900 "lbtc" := by
  obtain ⟨hsend, hreceive, -⟩ := recoverOnchainData_idsFrom_iff_stable older_le_newer
  refine ⟨(hsend _).mp (by decide +kernel), fun h => ?_, (hreceive _ _ _ _).mp (by decide +kernel), fun h => ?_⟩
  · exact absurd ((hsend _).mpr h) (by decide +kernel)
  · exact absurd ((hreceive _ _ _ _).mpr h) (by decide +kernel)

/-- With the older map the refund of a send swap is reported as the swapper's claim, our claim of a
receive swap mined in the lockup's block as the lockup, and the swapper's claim of an incoming chain
swap as our refund. -/
theorem recoverOnchainData_other_role :
    transactionsByTxId [lockupTx] ≤ transactionsByTxId [lockupTx, returnTx] ∧
    ¬ (SendSwapHandler.recoverOnchainData (.fromRawTxMap (transactionsByTxId [lockupTx]))
          [⟨"lockup", 100⟩, ⟨"return", 0⟩]).IdsFrom
        (SendSwapHandler.recoverOnchainData
          (.fromRawTxMap (transactionsByTxId [lockupTx, returnTx]))
          [⟨"lockup", 100⟩, ⟨"return", 0⟩]) ∧
    ¬ (ReceiveSwapHandler.recoverOnchainData (.fromRawTxMap (transactionsByTxId [lockupTx]))
          ⟨[⟨"server", 100⟩, ⟨"return", 100⟩], []⟩ 0 900 "lbtc").IdsFrom
        (ReceiveSwapHandler.recoverOnchainData
          (.fromRawTxMap (transactionsByTxId [lockupTx, returnTx]))
          ⟨[⟨"server", 100⟩, ⟨"return", 100⟩], []⟩ 0 900 "lbtc") ∧
    ¬ (ChainReceiveSwapHandler.recoverOnchainData (fun _ => none)
          (.fromRawTxMap (transactionsByTxId [lockupTx]))
          ⟨[⟨"server", 100⟩, ⟨"return", 0⟩], [⟨"user", 90⟩, ⟨"swapper", 0⟩],
            [⟨"user", [], [⟨1000, "script"⟩]⟩, ⟨"swapper", [], [⟨990, "other"⟩]⟩], none⟩
          "script").IdsFrom
        (ChainReceiveSwapHandler.recoverOnchainData (fun _ => none)
          (.fromRawTxMap (transactionsByTxId [lockupTx, returnTx]))
          ⟨[⟨"server", 100⟩, ⟨"return", 0⟩], [⟨"user", 90⟩, ⟨"swapper", 0⟩],
            [⟨"user", [], [⟨1000, "script"⟩]⟩, ⟨"swapper", [], [⟨990, "other"⟩]⟩], none⟩
          "script") :=
  ⟨older_le_newer, by decide +kernel, by decide +kernel, by decide +kernel⟩

end BreezLiquid.Recover
