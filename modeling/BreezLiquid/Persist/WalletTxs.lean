/-
# BreezLiquid.Persist.WalletTxs — the wallet's transactions in the tables of payments.

`insert_or_update_payment_with_wallet_tx` writes a transaction's row and a balance for each of its assets. It writes
what belongs to that transaction only.
-/
import BreezLiquid.Persist.Payments

namespace BreezLiquid.Payments

open Tables Collections

/-! ## Transactions -/

/-- An input or output of ours, unblinded. -/
structure WalletTxOut where
  assetId : AssetId
  value : Nat
  /-- Its address, if that has a blinding key. -/
  address : Option Address := none
  deriving DecidableEq, Repr, Inhabited

/-- `WalletTx`, with what is persisted of it. Inputs and outputs of others are not set. -/
structure UnblindedTx where
  txid : TxId
  height : Option Nat := none
  timestamp : Option Nat := none
  fee : Nat := 0
  inputs : List (Option WalletTxOut) := []
  outputs : List (Option WalletTxOut) := []
  unblindingData : String := ""
  deriving DecidableEq, Repr, Inhabited

namespace UnblindedTx

variable (tx : UnblindedTx)

def isTxConfirmed : Bool := tx.height.isSome

/-- Add to the balance of an asset. -/
def addValue (acc : HashMap AssetId Int) (assetId : AssetId) (value : Int) : HashMap AssetId Int :=
  acc.insert assetId ((acc.lookup assetId).getD 0 + value)

def txBalances : HashMap AssetId Int :=
  let spent := tx.inputs.foldl (fun acc input => input.elim acc fun i => addValue acc i.assetId (-i.value)) ∅
  tx.outputs.foldl (fun acc output => output.elim acc fun o => addValue acc o.assetId o.value) spent

/-- What is stored of the balance of an asset: the fee is not part of what is sent. -/
def paymentBalance (lbtcAssetId assetId : AssetId) (balance : Int) : PaymentTxBalance :=
  if 0 ≤ balance then { assetId, amount := balance.natAbs, paymentType := .receive }
  else
    { assetId
      amount := if assetId = lbtcAssetId then balance.natAbs - tx.fee else balance.natAbs
      paymentType := .send }

def paymentBalances (lbtcAssetId : AssetId) : List PaymentTxBalance :=
  tx.txBalances.entries.map fun e => tx.paymentBalance lbtcAssetId e.1 e.2

/-- The address of the first output of ours. -/
def maybeAddress : Option Address := (tx.outputs.findSome? id).bind WalletTxOut.address

def paymentTxData : PaymentTxData where
  txId := tx.txid
  timestamp := tx.timestamp
  feesSat := tx.fee
  isConfirmed := tx.isTxConfirmed
  unblindingData := some tx.unblindingData

end UnblindedTx

/-! ## Writing and deleting them -/

namespace PaymentDb

def insertOrUpdatePaymentBalance (txId : TxId) (balance : PaymentTxBalance) (db : PaymentDb) : PaymentDb :=
  { db with paymentBalance := db.paymentBalance.insertOrReplace { toPaymentTxBalance := balance, txId } }

/-- `insert_or_update_payment` with what a wallet transaction tells; the destination of a payment is kept. -/
def insertOrUpdatePayment (now : Nat) (ptx : PaymentTxData) (balances : List PaymentTxBalance)
    (destination : Option Address) (db : PaymentDb) : PaymentDb :=
  let db := { db with toDb := db.toDb.insertOrUpdatePayment now ptx }
  let db := balances.foldl (fun db balance => db.insertOrUpdatePaymentBalance ptx.txId balance) db
  match destination with
  | some destination =>
      { db with toDb := db.toDb.insertOrUpdatePaymentDetailsInner { txId := ptx.txId, destination } true }
  | none => db

/-- `insert_or_update_payment_with_wallet_tx`. -/
def insertOrUpdatePaymentWithWalletTx (lbtcAssetId : AssetId) (now : Nat) (tx : UnblindedTx) (db : PaymentDb) :
    PaymentDb :=
  if tx.txBalances.entries.isEmpty then db
  else db.insertOrUpdatePayment now tx.paymentTxData (tx.paymentBalances lbtcAssetId) tx.maybeAddress

def listUnconfirmedPaymentTxsData (db : PaymentDb) : List PaymentTxData :=
  db.paymentTxData.rows.filter fun ptx => !ptx.isConfirmed

/-- `delete_payment_tx_data`; the balances go with their transaction. -/
def deletePaymentTxData (txId : TxId) (db : PaymentDb) : PaymentDb :=
  { db with
    paymentTxData := db.paymentTxData.deleteWhere fun ptx => ptx.txId = txId
    paymentBalance := db.paymentBalance.deleteWhere fun balance => balance.txId = txId }

end PaymentDb

/-! ## What is stored of one transaction -/

/-- The row and the balances of a transaction are the same. -/
structure SameTx (txId : TxId) (db db' : PaymentDb) : Prop where
  txData : db'.paymentTxData.get? txId = db.paymentTxData.get? txId
  balances : ∀ assetId, db'.paymentBalance.get? (txId, assetId) = db.paymentBalance.get? (txId, assetId)

theorem SameTx.refl (txId : TxId) (db : PaymentDb) : SameTx txId db db := ⟨rfl, fun _ => rfl⟩

theorem SameTx.trans {txId : TxId} {db db' db'' : PaymentDb} (h : SameTx txId db db') (h' : SameTx txId db' db'') :
    SameTx txId db db'' :=
  ⟨h'.txData.trans h.txData, fun assetId => (h'.balances assetId).trans (h.balances assetId)⟩

theorem SameTx.symm {txId : TxId} {db db' : PaymentDb} (h : SameTx txId db db') : SameTx txId db' db :=
  ⟨h.txData.symm, fun assetId => (h.balances assetId).symm⟩

/-- The transaction has a row, confirmed if it is, and all its balances. -/
structure Recorded (lbtcAssetId : AssetId) (tx : UnblindedTx) (db : PaymentDb) : Prop where
  row : ∃ row, db.paymentTxData.get? tx.txid = some row ∧ (tx.isTxConfirmed = true → row.isConfirmed = true)
  balances : ∀ balance ∈ tx.paymentBalances lbtcAssetId, db.paymentBalance.get? (tx.txid, balance.assetId) =
    some { toPaymentTxBalance := balance, txId := tx.txid }

/-- What is recorded of a transaction depends on its own rows. -/
theorem Recorded.of_same {lbtcAssetId : AssetId} {tx : UnblindedTx} {db db' : PaymentDb}
    (hsame : SameTx tx.txid db db') (h : Recorded lbtcAssetId tx db) : Recorded lbtcAssetId tx db' := by
  obtain ⟨row, hrow, hconfirmed⟩ := h.row
  refine ⟨⟨row, hsame.txData.trans hrow, hconfirmed⟩, fun balance hbalance => ?_⟩
  rw [hsame.balances]
  exact h.balances balance hbalance

section Writes

variable {lbtcAssetId : AssetId} {now : Nat} {tx : UnblindedTx} {db : PaymentDb}

theorem foldl_insertBalance_paymentTxData (txId : TxId) (balances : List PaymentTxBalance) (db : PaymentDb) :
    (balances.foldl (fun db balance => db.insertOrUpdatePaymentBalance txId balance) db).paymentTxData =
      db.paymentTxData := by
  induction balances generalizing db with
  | nil => rfl
  | cons balance balances ih =>
      rw [List.foldl_cons, ih]
      rfl

/-- Each balance of the list is stored; there is one for an asset. -/
theorem foldl_insertBalance_get? (txId : TxId) {balances : List PaymentTxBalance}
    (hnodup : (balances.map PaymentTxBalance.assetId).Nodup) (db : PaymentDb) (key : TxId × AssetId) :
    (balances.foldl (fun db balance => db.insertOrUpdatePaymentBalance txId balance) db).paymentBalance.get? key =
      match balances.find? fun balance => (txId, balance.assetId) = key with
      | some balance => some { toPaymentTxBalance := balance, txId }
      | none => db.paymentBalance.get? key := by
  induction balances generalizing db with
  | nil => rfl
  | cons balance balances ih =>
      obtain ⟨hnot, hnodup⟩ := List.nodup_cons.mp hnodup
      rw [List.foldl_cons, ih hnodup]
      have hinsert : (db.insertOrUpdatePaymentBalance txId balance).paymentBalance.get? key =
          if (txId, balance.assetId) = key then some { toPaymentTxBalance := balance, txId }
          else db.paymentBalance.get? key := Table.get?_insertOrReplace ..
      by_cases hkey : (txId, balance.assetId) = key
      · have hnone : balances.find? (fun balance => (txId, balance.assetId) = key) = none := by
          refine List.find?_eq_none.mpr fun balance' hmem => ?_
          simp only [decide_eq_true_eq]
          intro heq
          rw [← hkey, Prod.mk.injEq] at heq
          exact hnot (heq.2 ▸ List.mem_map_of_mem hmem)
        rw [hnone, List.find?_cons_of_pos (by simpa using hkey), hinsert, if_pos hkey]
      · rw [List.find?_cons_of_neg (by simpa using hkey), hinsert, if_neg hkey]

/-- A transaction has one balance for each asset. -/
theorem nodup_paymentBalances (tx : UnblindedTx) (lbtcAssetId : AssetId) :
    ((tx.paymentBalances lbtcAssetId).map PaymentTxBalance.assetId).Nodup := by
  have hkeys : (tx.paymentBalances lbtcAssetId).map PaymentTxBalance.assetId = tx.txBalances.entries.map Sigma.fst := by
    unfold UnblindedTx.paymentBalances
    rw [List.map_map]
    refine List.map_congr_left fun e _ => ?_
    show (tx.paymentBalance lbtcAssetId e.1 e.2).assetId = e.1
    unfold UnblindedTx.paymentBalance
    split <;> rfl
  rw [hkeys]
  exact tx.txBalances.nodupKeys

theorem insertOrUpdatePayment_paymentTxData (ptx : PaymentTxData) (balances : List PaymentTxBalance)
    (destination : Option Address) :
    (db.insertOrUpdatePayment now ptx balances destination).paymentTxData =
      (db.toDb.insertOrUpdatePayment now ptx).paymentTxData := by
  unfold PaymentDb.insertOrUpdatePayment
  cases destination with
  | none => exact foldl_insertBalance_paymentTxData ..
  | some destination => exact foldl_insertBalance_paymentTxData ..

theorem insertOrUpdatePayment_paymentBalance (ptx : PaymentTxData) (balances : List PaymentTxBalance)
    (destination : Option Address) :
    (db.insertOrUpdatePayment now ptx balances destination).paymentBalance =
      (balances.foldl (fun db balance => PaymentDb.insertOrUpdatePaymentBalance ptx.txId balance db)
        { db with toDb := db.toDb.insertOrUpdatePayment now ptx }).paymentBalance := by
  unfold PaymentDb.insertOrUpdatePayment
  cases destination <;> rfl

/-- The row of the transaction, as it is now. -/
theorem get?_insertOrUpdatePayment (db : Db) (now : Nat) (ptx : PaymentTxData) :
    ∃ row, (db.insertOrUpdatePayment now ptx).paymentTxData.get? ptx.txId = some row ∧
      row.isConfirmed = ptx.isConfirmed := by
  unfold Db.insertOrUpdatePayment
  dsimp only
  cases hrow : db.paymentTxData.get? ptx.txId with
  | none =>
      refine ⟨{ ptx with timestamp := ptx.timestamp.or (some now) }, ?_, rfl⟩
      rw [Table.get?_insertNew, hrow]
      simp
  | some row =>
      rw [Table.get?_updateWhere, hrow, Option.map_some, if_pos (by simpa using Table.get?_some_key hrow)]
      exact ⟨_, rfl, rfl⟩

/-- Writing one transaction leaves the others alone ... -/
theorem get?_insertOrUpdatePayment_of_ne {db : Db} {now : Nat} {ptx : PaymentTxData} {txId : TxId}
    (hne : ptx.txId ≠ txId) :
    (db.insertOrUpdatePayment now ptx).paymentTxData.get? txId = db.paymentTxData.get? txId := by
  unfold Db.insertOrUpdatePayment
  dsimp only
  split
  · rw [Table.get?_insertNew, if_neg hne, Option.or_none]
  · rw [Table.get?_updateWhere]
    cases hrow : db.paymentTxData.get? txId with
    | none => rfl
    | some row =>
        have hother : ¬ row.txId = ptx.txId := fun heq => hne (heq.symm.trans (Table.get?_some_key hrow))
        rw [Option.map_some, if_neg (by simpa using hother)]

/-- Persisting a transaction with a balance records it. -/
theorem recorded_insert (hbalance : tx.txBalances.entries ≠ []) :
    Recorded lbtcAssetId tx (db.insertOrUpdatePaymentWithWalletTx lbtcAssetId now tx) := by
  unfold PaymentDb.insertOrUpdatePaymentWithWalletTx
  rw [if_neg (by simpa using hbalance)]
  refine ⟨?_, fun balance hmem => ?_⟩
  · rw [insertOrUpdatePayment_paymentTxData]
    obtain ⟨row, hrow, hconfirmed⟩ := get?_insertOrUpdatePayment db.toDb now tx.paymentTxData
    exact ⟨row, hrow, fun h => hconfirmed.trans h⟩
  · have hnodup := nodup_paymentBalances tx lbtcAssetId
    have hfind : (tx.paymentBalances lbtcAssetId).find?
        (fun b => (tx.paymentTxData.txId, b.assetId) = (tx.txid, balance.assetId)) = some balance := by
      cases hfound : (tx.paymentBalances lbtcAssetId).find?
          (fun b => (tx.paymentTxData.txId, b.assetId) = (tx.txid, balance.assetId)) with
      | none => exact absurd (decide_eq_true rfl) (List.find?_eq_none.mp hfound balance hmem)
      | some balance' =>
          have hkept := List.find?_some hfound
          have heq := of_decide_eq_true hkept
          have hsame := List.inj_on_of_nodup_map hnodup (List.mem_of_find?_eq_some hfound) hmem (Prod.mk.inj heq).2
          exact congrArg some hsame
    rw [insertOrUpdatePayment_paymentBalance, foldl_insertBalance_get? _ hnodup, hfind]
    rfl

/-- It leaves the other transactions alone. -/
theorem sameTx_insert {txId : TxId} (hne : tx.txid ≠ txId) :
    SameTx txId db (db.insertOrUpdatePaymentWithWalletTx lbtcAssetId now tx) := by
  unfold PaymentDb.insertOrUpdatePaymentWithWalletTx
  split
  · exact SameTx.refl txId db
  · refine ⟨?_, fun assetId => ?_⟩
    · rw [insertOrUpdatePayment_paymentTxData]
      exact get?_insertOrUpdatePayment_of_ne hne
    · rw [insertOrUpdatePayment_paymentBalance, foldl_insertBalance_get? _ (nodup_paymentBalances tx lbtcAssetId)]
      have hnone : (tx.paymentBalances lbtcAssetId).find?
          (fun b => ((tx.paymentTxData.txId, b.assetId) : TxId × AssetId) = (txId, assetId)) = none := by
        refine List.find?_eq_none.mpr fun balance _ => ?_
        simp only [decide_eq_true_eq, Prod.mk.injEq]
        exact fun heq => hne heq.1
      rw [hnone]

/-- ... and so does deleting one. -/
theorem sameTx_delete {txId txId' : TxId} (hne : txId' ≠ txId) :
    SameTx txId db (db.deletePaymentTxData txId') := by
  refine ⟨?_, fun assetId => ?_⟩
  · show (db.paymentTxData.deleteWhere _).get? txId = _
    rw [Table.get?_deleteWhere]
    cases hrow : db.paymentTxData.get? txId with
    | none => rfl
    | some row =>
        have hkey : row.txId = txId := Table.get?_some_key hrow
        have hother : ¬ row.txId = txId' := fun heq => hne (heq.symm.trans hkey)
        simp [Option.filter, hother]
  · show (db.paymentBalance.deleteWhere _).get? (txId, assetId) = _
    rw [Table.get?_deleteWhere]
    cases hrow : db.paymentBalance.get? (txId, assetId) with
    | none => rfl
    | some row =>
        have hkey : (row.txId, row.assetId) = (txId, assetId) :=
          @Table.get?_some_key _ _ _ _ db.paymentBalance _ _ hrow
        have hother : ¬ row.txId = txId' := fun heq => hne (heq.symm.trans (Prod.mk.inj hkey).1)
        simp [Option.filter, hother]

theorem get?_delete (db : PaymentDb) (txId : TxId) : (db.deletePaymentTxData txId).paymentTxData.get? txId = none := by
  show (db.paymentTxData.deleteWhere _).get? txId = none
  rw [Table.get?_deleteWhere]
  cases hrow : db.paymentTxData.get? txId with
  | none => rfl
  | some row =>
      have hkey : row.txId = txId := Table.get?_some_key hrow
      simp [Option.filter, hkey]

end Writes

end BreezLiquid.Payments
