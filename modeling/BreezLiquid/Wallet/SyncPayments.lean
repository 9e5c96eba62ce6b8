/-
# BreezLiquid.Wallet.SyncPayments — the wallet's transactions are entered into the payments.

`sync_payments_with_chain_data` first writes the transactions of the recovered swaps, then those that no payment is
found for, and those that were unconfirmed. A payment is found by the transaction of its swap as well as by its refund
transaction; what a payment is found for is taken to be stored already. So the refund transaction of a swap that is not
recovered any more is never entered.

At last, unconfirmed transactions that the wallet does not know are deleted, unless they are young.
-/
import BreezLiquid.Chain.Monitoring
import BreezLiquid.Persist.WalletTxs

namespace BreezLiquid.Payments

open Interleaving Tables Collections Query

/-! ## The code -/

/-- In seconds. -/
def NETWORK_PROPAGATION_GRACE_PERIOD : Nat := 120

/-- What is around a sync, with the time of it. -/
structure SyncEnv where
  sdk : Sdk
  reader : PaymentReader := {}
  now : Nat := 0
  /-- `Txid::from_str`. -/
  txidFromStr : String → Option TxId := some
  /-- `emit_payment_updated`, which writes none of the payments. -/
  emitPaymentUpdated : PaymentDb → TxId → Except Err Unit := fun _ _ => .ok ()
  updateWalletInfo : PaymentDb → Except Err Unit := fun _ => .ok ()

/-- The wallet's transactions by id. -/
def walletTxMapOf (txs : List UnblindedTx) : HashMap TxId UnblindedTx :=
  HashMap.ofList (txs.map fun tx => (tx.txid, tx))

/-- The wallet transactions of a recovered swap. -/
def historyUpdates : Swap → List (Option TxId)
  | .receive receiveSwap => [receiveSwap.claimTxId, receiveSwap.mrhTxId]
  | .send sendSwap => [sendSwap.lockupTxId, sendSwap.refundTxId]
  | .chain chainSwap =>
      match chainSwap.direction with
      | .incoming => [chainSwap.claimTxId]
      | .outgoing => [chainSwap.userLockupTxId, chainSwap.refundTxId]

def PaymentDetails.getRefundTxId : PaymentDetails → Option TxId
  | .lightning details => details.refundTxId
  | .bitcoin details => details.refundTxId
  | .liquid _ => none

/-- `get_payments_by_tx_id`, with the payments it has read. -/
def getPaymentsByTxId (payments : List Payment) : HashMap TxId Payment :=
  HashMap.ofList <| payments.flatMap fun payment =>
    payment.txId.toList.map (fun txId => (txId, payment)) ++
      payment.details.getRefundTxId.toList.map fun refundTxId => (refundTxId, payment)

/-- The transactions that are left, and the database. -/
structure Progress where
  walletTxMap : HashMap TxId UnblindedTx
  db : PaymentDb

section Sync

variable (env : SyncEnv)

def insertTx (tx : UnblindedTx) (db : PaymentDb) : PaymentDb :=
  db.insertOrUpdatePaymentWithWalletTx env.reader.lbtcAssetId env.now tx

/-- `update_swap` of its handler. -/
def updateSwap (swap : Swap) (db : PaymentDb) : PaymentDb :=
  { db with
    toDb := ((Chain.persistRecoveredSwap env.sdk swap).run (World.effect env.sdk) (fun _ => Call.offline)
      (0, { db := db.toDb, now := env.now })).2.2.db }

def persistHistoryTx (progress : Progress) (txId : TxId) : Except Err Progress :=
  match env.txidFromStr txId with
  | none => .error (.generic "Invalid txid")
  | some txid =>
      match progress.walletTxMap.lookup txid with
      | some tx => .ok ⟨progress.walletTxMap.erase txid, insertTx env tx progress.db⟩
      | none => .ok progress

def persistSwap (progress : Progress) (swap : Swap) : Except Err Progress := do
  let progress ← ((historyUpdates swap).filterMap id).foldlM (persistHistoryTx env) progress
  return { progress with db := updateSwap env swap progress.db }

/-- No payment is found, or a pending direct payment whose transaction is confirmed now. -/
def updateNeeded (maybePayment : Option Payment) (tx : UnblindedTx) : Bool :=
  match maybePayment with
  | none => true
  | some payment =>
      match payment.details with
      | .liquid _ => payment.status = .pending && tx.isTxConfirmed
      | _ => false

def persistOtherTx (payments : HashMap TxId Payment) (unconfirmedTxs : List PaymentTxData) (db : PaymentDb)
    (tx : UnblindedTx) : Except Err PaymentDb :=
  if updateNeeded (payments.lookup tx.txid) tx then do
    let db := insertTx env tx db
    env.emitPaymentUpdated db tx.txid
    return db
  else if unconfirmedTxs.any (·.txId = tx.txid) && tx.isTxConfirmed then .ok (insertTx env tx db)
  else .ok db

/-- The transaction had its time to get around. -/
def overdue (now : Nat) (ptx : PaymentTxData) : Bool :=
  ptx.timestamp.any fun t => NETWORK_PROPAGATION_GRACE_PERIOD < now - t

def deleteUnknown (db : PaymentDb) (ptx : PaymentTxData) : PaymentDb :=
  if overdue env.now ptx then db.deletePaymentTxData ptx.txId else db

/-- The part after the recovered swaps, with the payments read. -/
def persistOthers (allWalletTxIds : List TxId) (progress : Progress) (payments : List Payment) :
    Except Err PaymentDb := do
  let unconfirmedTxs := progress.db.listUnconfirmedPaymentTxsData
  let db ← (progress.walletTxMap.entries.map Sigma.snd).foldlM
    (persistOtherTx env (getPaymentsByTxId payments) unconfirmedTxs) progress.db
  let db := (unconfirmedTxs.filter fun ptx => ptx.txId ∉ allWalletTxIds).foldl (deleteUnknown env) db
  env.updateWalletInfo db
  return db

/-- `sync_payments_with_chain_data` returns: with the wallet's transactions and the swaps that were recovered, and the
payments that the query was answered with. -/
def SyncPaymentsWithChainData (txs : List UnblindedTx) (recoveredSwaps : List Swap) (db : PaymentDb)
    (payments : List Payment) (db' : PaymentDb) : Prop :=
  ∃ progress, recoveredSwaps.foldlM (persistSwap env) ⟨walletTxMapOf txs, db⟩ = .ok progress ∧
    GetPayments env.reader env.now progress.db {} (some payments) ∧
    persistOthers env (walletTxMapOf txs).keys progress payments = .ok db'

end Sync

/-! ## What should be stored -/

/-- Every transaction of the wallet with a balance is recorded. -/
def NothingLost (env : SyncEnv) (txs : List UnblindedTx) (db' : PaymentDb) : Prop :=
  ∀ txId tx, (walletTxMapOf txs).lookup txId = some tx → tx.txBalances.entries ≠ [] →
    Recorded env.reader.lbtcAssetId tx db'

/-- Of the unconfirmed transactions that the wallet does not know, exactly the overdue ones are deleted. -/
def Pruned (env : SyncEnv) (txs : List UnblindedTx) (db db' : PaymentDb) : Prop :=
  ∀ ptx ∈ db.paymentTxData.rows, ptx.isConfirmed = false → (walletTxMapOf txs).lookup ptx.txId = none →
    (db'.paymentTxData.get? ptx.txId = none ↔ overdue env.now ptx = true)

/-- The transaction is one of a recovered swap. -/
def swapTxIds (env : SyncEnv) (recoveredSwaps : List Swap) : List TxId :=
  recoveredSwaps.flatMap fun swap => ((historyUpdates swap).filterMap id).filterMap env.txidFromStr

/-- Its row waits for the confirmation that it has now. -/
def Awaited (tx : UnblindedTx) (db : PaymentDb) : Prop :=
  (∃ row, db.paymentTxData.get? tx.txid = some row ∧ row.isConfirmed = false) ∧ tx.isTxConfirmed = true

/-- A transaction of the wallet that is none of a recovered swap's, that a payment is found for, and that is not just
confirmed, is recorded already. `payments` are those of the database that the recovered swaps are entered in. -/
def Settled (env : SyncEnv) (txs : List UnblindedTx) (recoveredSwaps : List Swap) (payments : List Payment)
    (db : PaymentDb) : Prop :=
  ∀ txId tx, (walletTxMapOf txs).lookup txId = some tx → tx.txBalances.entries ≠ [] →
    txId ∉ swapTxIds env recoveredSwaps → updateNeeded ((getPaymentsByTxId payments).lookup txId) tx = false →
    ¬ Awaited tx db → Recorded env.reader.lbtcAssetId tx db

/-! ## The recovered swaps -/

theorem txid_of_lookup {txs : List UnblindedTx} {txId : TxId} {tx : UnblindedTx}
    (h : (walletTxMapOf txs).lookup txId = some tx) : tx.txid = txId := by
  unfold walletTxMapOf at h
  rw [HashMap.lookup_ofList, Option.map_eq_some_iff] at h
  obtain ⟨e, hfind, rfl⟩ := h
  obtain ⟨tx, -, rfl⟩ := List.mem_map.mp (List.mem_reverse.mp (List.mem_of_find?_eq_some hfind))
  simpa using List.find?_some hfind

section Frame

variable {env : SyncEnv}

theorem tryWrite_keeps {f : Nat → Db → Except Err Db}
    (h : ∀ {now db db'}, f now db = .ok db' → db'.paymentTxData = db.paymentTxData) (w : World) :
    (w.tryWrite f).db.paymentTxData = w.db.paymentTxData := by
  rcases World.tryWrite_cases f w with ⟨db, hdb, hw⟩ | hw
  · rw [hw]
    exact h hdb
  · rw [hw]

/-- The updating of a swap writes no transaction. -/
theorem sameTx_updateSwap (txId : TxId) (swap : Swap) (db : PaymentDb) : SameTx txId db (updateSwap env swap db) := by
  refine ⟨?_, fun _ => rfl⟩
  have hwithin : (Chain.persistRecoveredSwap env.sdk swap).Within
      (fun f => ∀ w : World, (f w).db.paymentTxData = w.db.paymentTxData) Call.Quiet := by
    refine Chain.within_persistRecoveredSwap_of env.sdk swap (fun _ => rfl) ?_ fun details w => ?_
    · cases swap with
      | receive s => exact fun read => tryWrite_keeps fun h => (Chain.insertOrUpdateReceiveSwap_others h).2.2
      | send s => exact fun read => tryWrite_keeps fun h => (Chain.insertOrUpdateSendSwap_others h).2.2
      | chain s => exact fun read => tryWrite_keeps fun h => (Chain.insertOrUpdateChainSwap_others h).2.2
    · exact Db.commitOutgoing_paymentTxData ..
  have hquiet : ∀ q : Call, q.Quiet → ∀ (a : q.Answer) (w : World),
      (World.effect env.sdk q a w).db.paymentTxData = w.db.paymentTxData := by
    intro q hq a w
    rw [effect_of_quiet env.sdk hq a w]
  have hrun := Task.run_preserves _ (fun _ => Call.offline) (fun w : World => w.db.paymentTxData)
    (fun _ hf w => hf w) hquiet hwithin (0, { db := db.toDb, now := env.now })
  exact congrArg (fun t => Table.get? t txId) hrun

end Frame

/-- What is left of the wallet's transactions, and what is stored, when some ids were looked at. -/
structure Persisted (env : SyncEnv) (txs : List UnblindedTx) (db : PaymentDb) (seen : List TxId)
    (progress : Progress) : Prop where
  left : ∀ txId tx, progress.walletTxMap.lookup txId = some tx ↔
    (walletTxMapOf txs).lookup txId = some tx ∧ txId ∉ seen
  recorded : ∀ txId tx, (walletTxMapOf txs).lookup txId = some tx → txId ∈ seen → tx.txBalances.entries ≠ [] →
    Recorded env.reader.lbtcAssetId tx progress.db
  kept : ∀ txId, (txId ∈ seen → (walletTxMapOf txs).lookup txId = none) → SameTx txId db progress.db

section Swaps

variable {env : SyncEnv} {txs : List UnblindedTx} {db : PaymentDb} {seen : List TxId} {progress progress' : Progress}

theorem persisted_start (env : SyncEnv) (txs : List UnblindedTx) (db : PaymentDb) :
    Persisted env txs db [] ⟨walletTxMapOf txs, db⟩ where
  left _ _ := ⟨fun h => ⟨h, List.not_mem_nil⟩, And.left⟩
  recorded _ _ _ hseen := absurd hseen List.not_mem_nil
  kept txId _ := SameTx.refl txId db

theorem persisted_updateSwap (h : Persisted env txs db seen progress) (swap : Swap) :
    Persisted env txs db seen { progress with db := updateSwap env swap progress.db } where
  left := h.left
  recorded txId tx hlookup hseen hbalance :=
    (h.recorded txId tx hlookup hseen hbalance).of_same (sameTx_updateSwap tx.txid swap progress.db)
  kept txId hnot := (h.kept txId hnot).trans (sameTx_updateSwap txId swap progress.db)

/-- A transaction that is looked up and still there is written. -/
theorem persisted_insert (h : Persisted env txs db seen progress) {txid : TxId} {tx : UnblindedTx}
    (hlookup : progress.walletTxMap.lookup txid = some tx) :
    Persisted env txs db (seen ++ [txid]) ⟨progress.walletTxMap.erase txid, insertTx env tx progress.db⟩ := by
  obtain ⟨hall, hunseen⟩ := (h.left txid tx).mp hlookup
  have hid : tx.txid = txid := txid_of_lookup hall
  refine ⟨fun txId tx' => ?_, fun txId tx' hlookup' hseen hbalance => ?_, fun txId hnot => ?_⟩
  · rw [List.mem_append, List.mem_singleton, not_or]
    by_cases heq : txId = txid
    · subst heq
      rw [AList.lookup_erase]
      exact ⟨nofun, fun h => absurd rfl h.2.2⟩
    · rw [AList.lookup_erase_ne heq, h.left]
      exact ⟨fun h => ⟨h.1, h.2, heq⟩, fun h => ⟨h.1, h.2.1⟩⟩
  · rcases List.mem_append.mp hseen with hseen | hseen
    · have hne : tx.txid ≠ tx'.txid := by
        rw [hid, txid_of_lookup hlookup']
        rintro rfl
        exact hunseen hseen
      exact (h.recorded txId tx' hlookup' hseen hbalance).of_same (sameTx_insert hne)
    · obtain rfl := List.mem_singleton.mp hseen
      obtain rfl := Option.some.inj (hall.symm.trans hlookup')
      exact recorded_insert hbalance
  · have hne : tx.txid ≠ txId := by
      rw [hid]
      rintro rfl
      rw [hnot (List.mem_append_right _ List.mem_cons_self)] at hall
      cases hall
    exact (h.kept txId fun hseen => hnot (List.mem_append_left _ hseen)).trans (sameTx_insert hne)

/-- An id that is not there was seen before, or is none of the wallet's. -/
theorem persisted_skip (h : Persisted env txs db seen progress) {txid : TxId}
    (hlookup : progress.walletTxMap.lookup txid = none) : Persisted env txs db (seen ++ [txid]) progress := by
  have hbefore : ∀ {tx}, (walletTxMapOf txs).lookup txid = some tx → txid ∈ seen := by
    intro tx hall
    by_contra hunseen
    rw [(h.left txid tx).mpr ⟨hall, hunseen⟩] at hlookup
    cases hlookup
  have hseen : ∀ {txId tx}, (walletTxMapOf txs).lookup txId = some tx → txId ∈ seen ++ [txid] → txId ∈ seen := by
    intro txId tx hall hmem
    rcases List.mem_append.mp hmem with hmem | hmem
    · exact hmem
    · obtain rfl := List.mem_singleton.mp hmem
      exact hbefore hall
  refine ⟨fun txId tx => ?_, fun txId tx hall hmem => h.recorded txId tx hall (hseen hall hmem), fun txId hnot => ?_⟩
  · rw [h.left]
    exact ⟨fun h => ⟨h.1, fun hmem => h.2 (hseen h.1 hmem)⟩, fun h => ⟨h.1, fun hmem => h.2 (List.mem_append_left _ hmem)⟩⟩
  · exact h.kept txId fun hmem => hnot (List.mem_append_left _ hmem)

theorem persisted_historyTx (h : Persisted env txs db seen progress) {txId : TxId}
    (hstep : persistHistoryTx env progress txId = .ok progress') :
    Persisted env txs db (seen ++ [txId].filterMap env.txidFromStr) progress' := by
  unfold persistHistoryTx at hstep
  cases hparse : env.txidFromStr txId with
  | none =>
      rw [hparse] at hstep
      cases hstep
  | some txid =>
      rw [hparse] at hstep
      dsimp only at hstep
      rw [List.filterMap_cons_some hparse, List.filterMap_nil]
      cases hlookup : progress.walletTxMap.lookup txid with
      | some tx =>
          rw [hlookup] at hstep
          cases hstep
          exact persisted_insert h hlookup
      | none =>
          rw [hlookup] at hstep
          cases hstep
          exact persisted_skip h hlookup

theorem persisted_historyTxs (h : Persisted env txs db seen progress) {txIds : List TxId}
    (hsteps : txIds.foldlM (persistHistoryTx env) progress = .ok progress') :
    Persisted env txs db (seen ++ txIds.filterMap env.txidFromStr) progress' := by
  induction txIds generalizing seen progress with
  | nil =>
      cases hsteps
      rw [List.filterMap_nil, List.append_nil]
      exact h
  | cons txId txIds ih =>
      rw [List.foldlM_cons] at hsteps
      obtain ⟨progress₁, hstep, hsteps⟩ := except_bind_eq_ok.mp hsteps
      have hrest := ih (persisted_historyTx h hstep) hsteps
      rw [List.append_assoc, ← List.filterMap_append, List.singleton_append] at hrest
      exact hrest

/-- All swaps: their transactions are recorded, the others are left. -/
theorem persisted_swaps {recoveredSwaps : List Swap} (h : Persisted env txs db seen progress)
    (hsteps : recoveredSwaps.foldlM (persistSwap env) progress = .ok progress') :
    Persisted env txs db (seen ++ swapTxIds env recoveredSwaps) progress' := by
  induction recoveredSwaps generalizing seen progress with
  | nil =>
      cases hsteps
      unfold swapTxIds
      rw [List.flatMap_nil, List.append_nil]
      exact h
  | cons swap recoveredSwaps ih =>
      rw [List.foldlM_cons] at hsteps
      obtain ⟨progress₁, hstep, hsteps⟩ := except_bind_eq_ok.mp hsteps
      obtain ⟨progress₂, hhistory, hupdated⟩ := except_bind_eq_ok.mp hstep
      cases hupdated
      have hrest := ih (persisted_updateSwap (persisted_historyTxs h hhistory) swap) hsteps
      unfold swapTxIds at hrest ⊢
      rw [List.append_assoc] at hrest
      rw [List.flatMap_cons]
      exact hrest

end Swaps

/-! ## The other transactions -/

/-- The transaction is written after the swaps. -/
def Written (payments : HashMap TxId Payment) (unconfirmedTxs : List PaymentTxData) (tx : UnblindedTx) : Prop :=
  updateNeeded (payments.lookup tx.txid) tx = true ∨
    unconfirmedTxs.any (·.txId = tx.txid) = true ∧ tx.isTxConfirmed = true

section Others

variable {env : SyncEnv} {payments : HashMap TxId Payment} {unconfirmedTxs : List PaymentTxData} {db db' : PaymentDb}

theorem persistOtherTx_cases {tx : UnblindedTx} (h : persistOtherTx env payments unconfirmedTxs db tx = .ok db') :
    (Written payments unconfirmedTxs tx ∧ db' = insertTx env tx db) ∨
      (¬ Written payments unconfirmedTxs tx ∧ db' = db) := by
  unfold persistOtherTx at h
  split at h
  · rename_i hneeded
    obtain ⟨-, -, hok⟩ := except_bind_eq_ok.mp h
    cases hok
    exact .inl ⟨.inl hneeded, rfl⟩
  · rename_i hneeded
    split at h
    · rename_i hawaited
      cases h
      exact .inl ⟨.inr (Bool.and_eq_true_iff.mp hawaited), rfl⟩
    · rename_i hawaited
      cases h
      refine .inr ⟨?_, rfl⟩
      rintro (hwritten | hwritten)
      · exact hneeded hwritten
      · exact hawaited (Bool.and_eq_true_iff.mpr hwritten)

theorem others_kept {l : List UnblindedTx} (h : l.foldlM (persistOtherTx env payments unconfirmedTxs) db = .ok db')
    {txId : TxId} (hnot : ∀ tx ∈ l, tx.txid ≠ txId) : SameTx txId db db' := by
  induction l generalizing db with
  | nil =>
      cases h
      exact SameTx.refl txId _
  | cons tx l ih =>
      rw [List.foldlM_cons] at h
      obtain ⟨db₁, hstep, hrest⟩ := except_bind_eq_ok.mp h
      have hkept := ih hrest fun tx' hmem => hnot tx' (List.mem_cons_of_mem _ hmem)
      rcases persistOtherTx_cases hstep with ⟨-, rfl⟩ | ⟨-, rfl⟩
      · exact (sameTx_insert (hnot tx List.mem_cons_self)).trans hkept
      · exact hkept

/-- A transaction is recorded when it is written, and otherwise left as it was. -/
theorem others_written {l : List UnblindedTx} (h : l.foldlM (persistOtherTx env payments unconfirmedTxs) db = .ok db')
    (hnodup : (l.map UnblindedTx.txid).Nodup) {tx : UnblindedTx} (hmem : tx ∈ l) :
    (Written payments unconfirmedTxs tx → tx.txBalances.entries ≠ [] →
        Recorded env.reader.lbtcAssetId tx db') ∧
      (¬ Written payments unconfirmedTxs tx → SameTx tx.txid db db') := by
  induction l generalizing db with
  | nil => exact absurd hmem List.not_mem_nil
  | cons tx' l ih =>
      obtain ⟨hfresh, hnodup⟩ := List.nodup_cons.mp hnodup
      rw [List.foldlM_cons] at h
      obtain ⟨db₁, hstep, hrest⟩ := except_bind_eq_ok.mp h
      rcases List.mem_cons.mp hmem with rfl | hmem
      · have hne : ∀ tx' ∈ l, tx'.txid ≠ tx.txid := by
          intro tx' hmem' heq
          rw [← heq] at hfresh
          exact hfresh (List.mem_map_of_mem hmem')
        have hkept := others_kept hrest hne
        rcases persistOtherTx_cases hstep with ⟨hwritten, rfl⟩ | ⟨hnot, rfl⟩
        · exact ⟨fun _ hbalance => (recorded_insert hbalance).of_same hkept, fun hnot => absurd hwritten hnot⟩
        · exact ⟨fun hwritten => absurd hwritten hnot, fun _ => hkept⟩
      · obtain ⟨hrecorded, hsame⟩ := ih hrest hnodup hmem
        refine ⟨hrecorded, fun hnot => ?_⟩
        have hne : tx'.txid ≠ tx.txid := by
          intro heq
          rw [heq] at hfresh
          exact hfresh (List.mem_map_of_mem hmem)
        rcases persistOtherTx_cases hstep with ⟨-, rfl⟩ | ⟨-, rfl⟩
        · exact (sameTx_insert hne).trans (hsame hnot)
        · exact hsame hnot

/-! ## The transactions that the wallet does not know -/

theorem deleteUnknown_kept {l : List PaymentTxData} {txId : TxId}
    (h : ∀ ptx ∈ l, ptx.txId = txId → overdue env.now ptx = false) (db : PaymentDb) :
    SameTx txId db (l.foldl (deleteUnknown env) db) := by
  induction l generalizing db with
  | nil => exact SameTx.refl txId db
  | cons ptx l ih =>
      rw [List.foldl_cons]
      refine SameTx.trans ?_ (ih (fun ptx' hmem => h ptx' (List.mem_cons_of_mem _ hmem)) _)
      unfold deleteUnknown
      split
      · rename_i hoverdue
        refine sameTx_delete fun heq => ?_
        rw [h ptx List.mem_cons_self heq] at hoverdue
        cases hoverdue
      · exact SameTx.refl txId db

theorem deleteUnknown_gone {l : List PaymentTxData} {txId : TxId} {db : PaymentDb}
    (h : db.paymentTxData.get? txId = none ∨ ∃ ptx ∈ l, ptx.txId = txId ∧ overdue env.now ptx = true) :
    (l.foldl (deleteUnknown env) db).paymentTxData.get? txId = none := by
  induction l generalizing db with
  | nil =>
      rcases h with h | ⟨ptx, hmem, -⟩
      · exact h
      · exact absurd hmem List.not_mem_nil
  | cons ptx l ih =>
      rw [List.foldl_cons]
      apply ih
      unfold deleteUnknown
      by_cases hoverdue : overdue env.now ptx = true
      · rw [if_pos hoverdue]
        by_cases heq : ptx.txId = txId
        · subst heq
          exact .inl (get?_delete db ptx.txId)
        · rcases h with h | ⟨ptx', hmem, hid, hold⟩
          · exact .inl ((sameTx_delete heq).txData.trans h)
          · rcases List.mem_cons.mp hmem with rfl | hmem
            · exact absurd hid heq
            · exact .inr ⟨ptx', hmem, hid, hold⟩
      · rw [if_neg hoverdue]
        rcases h with h | ⟨ptx', hmem, hid, hold⟩
        · exact .inl h
        · rcases List.mem_cons.mp hmem with rfl | hmem
          · exact absurd hold hoverdue
          · exact .inr ⟨ptx', hmem, hid, hold⟩

end Others

/-! ## The whole sync -/

theorem any_unconfirmed_iff {db : PaymentDb} {txId : TxId} :
    db.listUnconfirmedPaymentTxsData.any (·.txId = txId) = true ↔
      ∃ row, db.paymentTxData.get? txId = some row ∧ row.isConfirmed = false := by
  unfold PaymentDb.listUnconfirmedPaymentTxsData
  rw [List.any_eq_true]
  constructor
  · rintro ⟨row, hmem, hid⟩
    obtain ⟨hrow, hconfirmed⟩ := List.mem_filter.mp hmem
    refine ⟨row, ?_, by simpa using hconfirmed⟩
    rw [← of_decide_eq_true hid]
    exact Table.get?_of_mem hrow
  · rintro ⟨row, hrow, hconfirmed⟩
    refine ⟨row, List.mem_filter.mpr ⟨Table.mem_of_get? hrow, by simp [hconfirmed]⟩, ?_⟩
    exact decide_eq_true (Table.get?_some_key hrow)

section Whole

variable {env : SyncEnv} {txs : List UnblindedTx} {recoveredSwaps : List Swap} {payments : List Payment}
  {db db' : PaymentDb} {progress : Progress}

/-- The transactions that are left have different ids. -/
theorem left_nodup {seen : List TxId} (h : Persisted env txs db seen progress) :
    ((progress.walletTxMap.entries.map Sigma.snd).map UnblindedTx.txid).Nodup := by
  have hkeys : (progress.walletTxMap.entries.map Sigma.snd).map UnblindedTx.txid =
      progress.walletTxMap.entries.map Sigma.fst := by
    rw [List.map_map]
    refine List.map_congr_left fun e hmem => ?_
    have hlookup := AList.mem_lookup_iff.mpr hmem
    exact txid_of_lookup ((h.left e.1 e.2).mp hlookup).1
  rw [hkeys]
  exact progress.walletTxMap.nodupKeys

theorem mem_left_iff {seen : List TxId} (h : Persisted env txs db seen progress) {tx : UnblindedTx} :
    tx ∈ progress.walletTxMap.entries.map Sigma.snd ↔
      (walletTxMapOf txs).lookup tx.txid = some tx ∧ tx.txid ∉ seen := by
  rw [← h.left tx.txid tx]
  constructor
  · intro hmem
    obtain ⟨e, he, rfl⟩ := List.mem_map.mp hmem
    have hlookup : progress.walletTxMap.lookup e.1 = some e.2 := AList.mem_lookup_iff.mpr he
    rw [txid_of_lookup ((h.left e.1 e.2).mp hlookup).1]
    exact hlookup
  · intro hlookup
    exact List.mem_map.mpr ⟨⟨tx.txid, tx⟩, AList.mem_lookup_iff.mp hlookup, rfl⟩

/-- A sync in its three parts. -/
theorem sync_parts (h : SyncPaymentsWithChainData env txs recoveredSwaps db payments db') :
    ∃ progress db₁, Persisted env txs db (swapTxIds env recoveredSwaps) progress ∧
      (progress.walletTxMap.entries.map Sigma.snd).foldlM (persistOtherTx env (getPaymentsByTxId payments)
        progress.db.listUnconfirmedPaymentTxsData) progress.db = .ok db₁ ∧
      db' = (progress.db.listUnconfirmedPaymentTxsData.filter fun ptx =>
        ptx.txId ∉ (walletTxMapOf txs).keys).foldl (deleteUnknown env) db₁ := by
  obtain ⟨progress, hswaps, -, hothers⟩ := h
  obtain ⟨db₁, hloop, hrest⟩ := except_bind_eq_ok.mp hothers
  obtain ⟨-, -, hok⟩ := except_bind_eq_ok.mp hrest
  cases hok
  have hpersisted := persisted_swaps (persisted_start env txs db) hswaps
  rw [List.nil_append] at hpersisted
  exact ⟨progress, db₁, hpersisted, hloop, rfl⟩

/-- The wallet's own transactions are not deleted. -/
theorem deleteUnknown_known {txId : TxId} {tx : UnblindedTx} (hlookup : (walletTxMapOf txs).lookup txId = some tx)
    (unconfirmedTxs : List PaymentTxData) (db : PaymentDb) :
    SameTx txId db ((unconfirmedTxs.filter fun ptx =>
      ptx.txId ∉ (walletTxMapOf txs).keys).foldl (deleteUnknown env) db) := by
  refine deleteUnknown_kept (fun ptx hmem hid => ?_) db
  have hunknown := of_decide_eq_true (List.mem_filter.mp hmem).2
  rw [hid] at hunknown
  refine absurd (AList.mem_keys.mp ?_) hunknown
  exact AList.lookup_isSome.mp (by rw [hlookup]; rfl)

/-- What is recorded of a transaction in the end. -/
theorem recorded_sync_iff (h : SyncPaymentsWithChainData env txs recoveredSwaps db payments db') {txId : TxId}
    {tx : UnblindedTx} (hlookup : (walletTxMapOf txs).lookup txId = some tx) (hbalance : tx.txBalances.entries ≠ []) :
    Recorded env.reader.lbtcAssetId tx db' ↔
      txId ∈ swapTxIds env recoveredSwaps ∨ updateNeeded ((getPaymentsByTxId payments).lookup txId) tx = true ∨
        Awaited tx db ∨ Recorded env.reader.lbtcAssetId tx db := by
  obtain ⟨progress, db₁, hpersisted, hloop, rfl⟩ := sync_parts h
  obtain rfl := txid_of_lookup hlookup
  have hknown := @deleteUnknown_known env txs tx.txid tx hlookup progress.db.listUnconfirmedPaymentTxsData db₁
  by_cases hswap : tx.txid ∈ swapTxIds env recoveredSwaps
  · -- written with its swap, and left alone since
    have hrecorded := hpersisted.recorded tx.txid tx hlookup hswap hbalance
    have hothers : SameTx tx.txid progress.db db₁ := by
      refine others_kept hloop fun tx' hmem heq => ?_
      have hunseen := ((mem_left_iff hpersisted).mp hmem).2
      rw [heq] at hunseen
      exact hunseen hswap
    exact ⟨fun _ => .inl hswap, fun _ => (hrecorded.of_same hothers).of_same hknown⟩
  · have hmem := (mem_left_iff hpersisted).mpr ⟨hlookup, hswap⟩
    have hsame : SameTx tx.txid db progress.db := hpersisted.kept tx.txid fun hseen => absurd hseen hswap
    have hawaited : progress.db.listUnconfirmedPaymentTxsData.any (·.txId = tx.txid) = true ∧
        tx.isTxConfirmed = true ↔ Awaited tx db := by
      rw [any_unconfirmed_iff, hsame.txData]
      exact Iff.rfl
    obtain ⟨hwritten, hleft⟩ := others_written hloop (left_nodup hpersisted) hmem
    by_cases hwrite : Written (getPaymentsByTxId payments) progress.db.listUnconfirmedPaymentTxsData tx
    · refine ⟨fun _ => .inr ?_, fun _ => (hwritten hwrite hbalance).of_same hknown⟩
      rcases hwrite with hneeded | hwaiting
      · exact .inl hneeded
      · exact .inr (.inl (hawaited.mp hwaiting))
    · have hwhole := (hsame.trans (hleft hwrite)).trans hknown
      refine ⟨fun hrecorded => .inr (.inr (.inr (hrecorded.of_same hwhole.symm))), ?_⟩
      rintro (hseen | hneeded | hwaiting | hrecorded)
      · exact absurd hseen hswap
      · exact absurd (.inl hneeded) hwrite
      · exact absurd (.inr (hawaited.mpr hwaiting)) hwrite
      · exact hrecorded.of_same hwhole

theorem pruned_sync (h : SyncPaymentsWithChainData env txs recoveredSwaps db payments db') :
    Pruned env txs db db' := by
  obtain ⟨progress, db₁, hpersisted, hloop, rfl⟩ := sync_parts h
  intro ptx hmem hunconfirmed hunknown
  have hsame : SameTx ptx.txId db progress.db := hpersisted.kept ptx.txId fun _ => hunknown
  have hothers : SameTx ptx.txId progress.db db₁ := by
    refine others_kept hloop fun tx hmem heq => ?_
    have hlookup := ((mem_left_iff hpersisted).mp hmem).1
    rw [heq, hunknown] at hlookup
    cases hlookup
  have hrow : progress.db.paymentTxData.get? ptx.txId = some ptx := hsame.txData.trans (Table.get?_of_mem hmem)
  have hlisted : ptx ∈ progress.db.listUnconfirmedPaymentTxsData.filter fun ptx =>
      ptx.txId ∉ (walletTxMapOf txs).keys := by
    refine List.mem_filter.mpr ⟨List.mem_filter.mpr ⟨Table.mem_of_get? hrow, by simp [hunconfirmed]⟩, ?_⟩
    refine decide_eq_true fun hkey => ?_
    have hsome := AList.lookup_isSome.mpr (AList.mem_keys.mpr hkey)
    rw [hunknown] at hsome
    cases hsome
  constructor
  · intro hgone
    by_contra hyoung
    have hkept := @deleteUnknown_kept env (progress.db.listUnconfirmedPaymentTxsData.filter fun ptx =>
      ptx.txId ∉ (walletTxMapOf txs).keys) ptx.txId (fun ptx' hmem' hid => ?_) db₁
    · rw [hkept.txData, hothers.txData, hrow] at hgone
      cases hgone
    · -- another row with the id is the same row
      have hmem'' := List.mem_of_mem_filter (List.mem_of_mem_filter hmem')
      have hrow' := Table.get?_of_mem hmem''
      rw [hid, hrow] at hrow'
      cases hrow'
      simpa using hyoung
  · intro hoverdue
    exact deleteUnknown_gone (.inr ⟨ptx, hlisted, rfl, hoverdue⟩)

end Whole

/-! ## A refund that is never entered -/

def lostEnv : SyncEnv where
  sdk := Chain.chainSdk

/-- What all payments are read as. -/
def allPayments (env : SyncEnv) (db : PaymentDb) : List Payment :=
  (listedRows db {}).filterMap (sqlRowToPayment env.reader env.now)

/-- The value of a computation that returns one. -/
def valueOr {α : Type} (default : α) : Except Err α → α
  | .ok a => a
  | .error _ => default

theorem eq_ok_valueOr {α : Type} {default : α} {x : Except Err α} (h : x.toBool = true) : x = .ok (valueOr default x) := by
  cases x with
  | ok a => rfl
  | error err => cases h

/-- What is left after the recovered swaps. -/
def recovered (env : SyncEnv) (txs : List UnblindedTx) (swaps : List Swap) (db : PaymentDb) : Progress :=
  valueOr ⟨walletTxMapOf txs, db⟩ (swaps.foldlM (persistSwap env) ⟨walletTxMapOf txs, db⟩)

/-- The database after a sync. -/
def synced (env : SyncEnv) (txs : List UnblindedTx) (swaps : List Swap) (db : PaymentDb) : PaymentDb :=
  valueOr db (persistOthers env (walletTxMapOf txs).keys (recovered env txs swaps db)
    (allPayments env (recovered env txs swaps db).db))

/-- A sync that returns, whose query is answered with all rows. -/
theorem sync_synced {env : SyncEnv} {txs : List UnblindedTx} {swaps : List Swap} {db : PaymentDb}
    (hswaps : (swaps.foldlM (persistSwap env) ⟨walletTxMapOf txs, db⟩).toBool = true)
    (hsorted : (listedRows (recovered env txs swaps db).db {}).Pairwise (Before false JoinedRow.orderKey))
    (hall : (listedRows (recovered env txs swaps db).db {}).length ≤ u32Max)
    (hread : (listedRows (recovered env txs swaps db).db {}).mapM (sqlRowToPayment env.reader env.now) =
      some (allPayments env (recovered env txs swaps db).db))
    (hothers : (persistOthers env (walletTxMapOf txs).keys (recovered env txs swaps db)
      (allPayments env (recovered env txs swaps db).db)).toBool = true) :
    SyncPaymentsWithChainData env txs swaps db (allPayments env (recovered env txs swaps db).db)
      (synced env txs swaps db) := by
  refine ⟨recovered env txs swaps db, eq_ok_valueOr hswaps, ⟨_, ?_, hread.symm⟩, eq_ok_valueOr hothers⟩
  exact selectPaymentQuery_listedRows hsorted hall

/-- The lockup of a send swap, and its refund. -/
def swapTxs : List UnblindedTx :=
  [{ txid := "lockup", height := some 1, fee := 10, inputs := [some { assetId := "lbtc", value := 1010 }] },
    { txid := "refund", height := some 2, fee := 10, outputs := [some { assetId := "lbtc", value := 990 }] }]

/-- A failed send swap, whose lockup is stored. -/
def refundedDb : PaymentDb where
  sendSwaps :=
    ⟨[{ id := "s", lockupTxId := some "lockup", refundTxId := some "refund", state := .failed }], List.nodup_singleton _⟩
  paymentTxData := ⟨[{ txId := "lockup", timestamp := some 1, feesSat := 10, isConfirmed := true }], List.nodup_singleton _⟩
  paymentBalance :=
    ⟨[{ txId := "lockup", assetId := "lbtc", amount := 1000, paymentType := .send }], List.nodup_singleton _⟩

/-- A transaction that pays us, without any swap. -/
def deposit : UnblindedTx where
  txid := "deposit"
  height := some 1
  outputs := [some { assetId := "lbtc", value := 500 }]

/-- The swap is still refunded, and a transaction is stored that the wallet has never heard of. -/
def refundingDb : PaymentDb where
  sendSwaps :=
    ⟨[{ id := "s", lockupTxId := some "lockup", refundTxId := some "refund", createdAt := 5, state := .refundPending }],
      List.nodup_singleton _⟩
  paymentTxData :=
    ⟨[{ txId := "lockup", timestamp := some 1, feesSat := 10, isConfirmed := true },
      { txId := "unheard", timestamp := some 1, feesSat := 10, isConfirmed := false }], by decide⟩
  paymentBalance :=
    ⟨[{ txId := "lockup", assetId := "lbtc", amount := 1000, paymentType := .send },
      { txId := "unheard", assetId := "lbtc", amount := 40, paymentType := .send }], by decide⟩

def laterEnv : SyncEnv := { lostEnv with now := 1000 }

def recoverableSwaps : List Swap := refundingDb.sendSwaps.rows.map .send

theorem mem_of_lookup {txs : List UnblindedTx} {txId : TxId} {tx : UnblindedTx}
    (h : (walletTxMapOf txs).lookup txId = some tx) : tx ∈ txs := by
  unfold walletTxMapOf at h
  rw [HashMap.lookup_ofList, Option.map_eq_some_iff] at h
  obtain ⟨e, hfind, rfl⟩ := h
  obtain ⟨tx, htx, rfl⟩ := List.mem_map.mp (List.mem_reverse.mp (List.mem_of_find?_eq_some hfind))
  exact htx

end BreezLiquid.Payments
