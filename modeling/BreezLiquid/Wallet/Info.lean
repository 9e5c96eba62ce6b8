/-
# BreezLiquid.Wallet.Info — the balances that are stored after a sync.

`update_wallet_info` sums up the wallet's transactions asset by asset, takes from the L-BTC balance what was sent by
transactions the wallet does not know yet, and adds up what is pending. The pending payments are the rows of a join, so
a transaction with balances in two assets is two payments, both with its fee; a balance below zero loses its sign; and
the balances of other assets are not reduced.

All sums wrap around, the balances as signed numbers of 64 bits and what is pending as unsigned ones. `AddsUp` says for
every wallet and every list of payments when the stored numbers are right nevertheless, `Accountable` what is left of it
where the sums fit.
-/
import BreezLiquid.Lib.Once
import BreezLiquid.Lib.Wrapping
import BreezLiquid.Persist.Payments

namespace BreezLiquid.Payments

open Tables Query Once Collections Wrapping

/-! ## What is stored -/

structure AssetBalance where
  assetId : AssetId
  balanceSat : Nat
  name : Option String
  ticker : Option String
  balance : Option ℚ
  deriving DecidableEq, Repr, Inhabited

/-- `WalletInfo`, with all fields. -/
structure WalletInfo where
  balanceSat : Nat
  pendingSendSat : Nat
  pendingReceiveSat : Nat
  fingerprint : String
  pubkey : String
  assetBalances : List AssetBalance
  deriving DecidableEq, Repr, Inhabited

/-- What the wallet answers with. -/
structure OnchainWallet where
  transactions : List WalletTx
  fingerprint : String := ""
  pubkey : String := ""

/-- The payments that are asked for. -/
def pendingRequest : ListPaymentsRequest :=
  { states := some [.pending, .refundPending, .waitingFeeAcceptance] }

/-! ## The code -/

def PaymentDetails.isLbtcAssetId (lbtcAssetId : AssetId) : PaymentDetails → Bool
  | .liquid details => details.assetId = lbtcAssetId
  | _ => true

def PaymentDetails.getRefundTxAmountSat : PaymentDetails → Option Nat
  | .lightning details => details.refundTxAmountSat
  | .bitcoin details => details.refundTxAmountSat
  | .liquid _ => none

/-- Only confirmed outputs are considered, reduced by what unconfirmed transactions spend. -/
def addTx (acc : HashMap AssetId Int) (tx : WalletTx) : HashMap AssetId Int :=
  tx.balance.entries.foldl (fun acc e =>
    if tx.height.isSome || e.2 < 0 then acc.insert e.1 (i64Add ((acc.lookup e.1).getD 0) e.2) else acc) acc

/-- The sums by asset. Their order, that of the asset ids, is left open. -/
def assetSums (transactions : List WalletTx) : HashMap AssetId Int := transactions.foldl addTx ∅

/-- `unsigned_abs` of a sum. -/
def assetBalance (db : PaymentDb) (assetId : AssetId) (balance : Int) : AssetBalance where
  assetId
  balanceSat := balance.natAbs
  name := (db.assetMetadata.get? assetId).map AssetMetadata.name
  ticker := (db.assetMetadata.get? assetId).map AssetMetadata.ticker
  balance := (db.assetMetadata.get? assetId).map fun am => am.amountFromSat balance.natAbs

/-- The variables of the loop over the payments. -/
structure Totals where
  balanceSat : Nat
  pendingSendSat : Nat := 0
  pendingReceiveSat : Nat := 0
  deriving DecidableEq, Repr

/-- What a payment that is being sent takes from the wallet. -/
def sendTotalSat (lbtcAssetId : AssetId) (payment : Payment) : Nat :=
  if payment.details.isLbtcAssetId lbtcAssetId then u64Add payment.amountSat payment.feesSat else payment.feesSat

/-- The transaction of the payment is not among those of the wallet. -/
def unseen (txIds : List TxId) (payment : Payment) : Bool := payment.txId.any fun txId => txId ∉ txIds

def addPayment (lbtcAssetId : AssetId) (txIds : List TxId) (totals : Totals) (payment : Payment) : Totals :=
  match payment.paymentType with
  | .send =>
      match payment.details.getRefundTxAmountSat with
      | some refundTxAmountSat =>
          { totals with pendingReceiveSat := u64Add totals.pendingReceiveSat refundTxAmountSat }
      | none =>
          { totals with
            balanceSat :=
              if unseen txIds payment then totals.balanceSat - sendTotalSat lbtcAssetId payment
              else totals.balanceSat
            pendingSendSat := u64Add totals.pendingSendSat (sendTotalSat lbtcAssetId payment) }
  | .receive =>
      if payment.details.isLbtcAssetId lbtcAssetId && payment.status ≠ .refundPending then
        { totals with pendingReceiveSat := u64Add totals.pendingReceiveSat payment.amountSat }
      else totals

/-- `update_wallet_info`, with the payments it has read. -/
def walletInfo (reader : PaymentReader) (db : PaymentDb) (wallet : OnchainWallet) (payments : List Payment) :
    WalletInfo :=
  let assetBalances := (assetSums wallet.transactions).entries.map fun e => assetBalance db e.1 e.2
  let balanceSat := ((assetBalances.find? fun ab => ab.assetId = reader.lbtcAssetId).map AssetBalance.balanceSat).getD 0
  let totals := payments.foldl (addPayment reader.lbtcAssetId (wallet.transactions.map WalletTx.txid)) { balanceSat }
  { balanceSat := totals.balanceSat
    pendingSendSat := totals.pendingSendSat
    pendingReceiveSat := totals.pendingReceiveSat
    fingerprint := wallet.fingerprint
    pubkey := wallet.pubkey
    assetBalances }

/-- `update_wallet_info` on a database, whose query is answered by these rows. -/
structure UpdateWalletInfo (reader : PaymentReader) (now : Nat) (db : PaymentDb) (wallet : OnchainWallet)
    (rows : List JoinedRow) (payments : List Payment) (info : WalletInfo) : Prop where
  answered : SelectPaymentQuery db (joinClauses (filterToWhereClause pendingRequest)) none none none none rows
  read : rows.mapM (sqlRowToPayment reader now) = some payments
  stored : info = walletInfo reader db wallet payments

/-! ## What should be stored -/

/-- What makes two rows one payment: its swap, or else its transaction and asset. -/
inductive PaymentKey where
  | swap (swapId : SwapId)
  | tx (txId : Option TxId) (assetId : AssetId)
  deriving DecidableEq, Repr

def Payment.key (payment : Payment) : PaymentKey :=
  match payment.details with
  | .lightning details => .swap details.swapId
  | .bitcoin details => .swap details.swapId
  | .liquid details => .tx payment.txId details.assetId

/-- What makes two fees one: the transaction, or else the payment. -/
def Payment.feeKey (payment : Payment) : TxId ⊕ PaymentKey :=
  match payment.txId with
  | some txId => .inl txId
  | none => .inr payment.key

section Entries

variable (lbtcAssetId : AssetId)

/-- It is being sent, and not being refunded by a known transaction. -/
def outgoing (payment : Payment) : Bool :=
  payment.paymentType = .send ∧ payment.details.getRefundTxAmountSat = none

def amountEntry (payment : Payment) : PaymentKey × Nat :=
  (payment.key, if payment.details.isLbtcAssetId lbtcAssetId then payment.amountSat else 0)

def feeEntry (payment : Payment) : (TxId ⊕ PaymentKey) × Nat := (payment.feeKey, payment.feesSat)

def amountEntries (payments : List Payment) : List (PaymentKey × Nat) :=
  (payments.filter outgoing).map (amountEntry lbtcAssetId)

def feeEntries (payments : List Payment) : List ((TxId ⊕ PaymentKey) × Nat) :=
  (payments.filter outgoing).map feeEntry

/-- What comes in with a payment: what it pays us, or what is refunded of it. -/
def incomingSat (payment : Payment) : Nat :=
  match payment.paymentType with
  | .send => payment.details.getRefundTxAmountSat.getD 0
  | .receive =>
      if payment.details.isLbtcAssetId lbtcAssetId && payment.status ≠ .refundPending then payment.amountSat else 0

def incomingEntries (payments : List Payment) : List (PaymentKey × Nat) :=
  payments.map fun payment => (payment.key, incomingSat lbtcAssetId payment)

/-- The payments in another asset: their rows have the whole amount, which payments in a known asset do not show. -/
def assetEntries (assetId : AssetId) (rows : List (JoinedRow × Payment)) : List (PaymentKey × Nat) :=
  (rows.filter fun e => outgoing e.2 ∧ e.1.pb.map (·.assetId) = some assetId).map fun e =>
    (e.2.key, (e.1.pb.map (·.amount)).getD 0)

/-- What was sent of an asset by transactions that the wallet does not know yet. -/
def unreflected (txIds : List TxId) (rows : List JoinedRow) (payments : List Payment) (assetId : AssetId) : Nat :=
  if assetId = lbtcAssetId then
    onceSum (amountEntries lbtcAssetId (payments.filter (unseen txIds))) +
      onceSum (feeEntries (payments.filter (unseen txIds)))
  else onceSum (assetEntries assetId ((rows.zip payments).filter fun e => unseen txIds e.2))

/-- What the loop takes from the L-BTC balance for them, each amount with its fee. -/
def takenSat (txIds : List TxId) (payments : List Payment) : Nat :=
  (((payments.filter (unseen txIds)).filter outgoing).map (sendTotalSat lbtcAssetId)).sum

/-- What a balance of a transaction adds to the confirmed one. -/
def countedPart (tx : WalletTx) : Option Int → Int
  | some balance => if tx.height.isSome || balance < 0 then balance else 0
  | none => 0

/-- The balance of an asset in the wallet, of confirmed outputs that no transaction spends. -/
def confirmedBalance (transactions : List WalletTx) (assetId : AssetId) : Int :=
  (transactions.map fun tx => countedPart tx (tx.balance.lookup assetId)).sum

/-- The stored balance of an asset; L-BTC has a field of its own. -/
def WalletInfo.balanceOf (info : WalletInfo) (assetId : AssetId) : Nat :=
  if assetId = lbtcAssetId then info.balanceSat
  else ((info.assetBalances.find? fun ab => ab.assetId = assetId).map AssetBalance.balanceSat).getD 0

/-- Every balance is the confirmed one without what was sent since, and every amount and every fee is counted once. -/
structure Accurate (wallet : OnchainWallet) (rows : List JoinedRow) (payments : List Payment) (info : WalletInfo) :
    Prop where
  balance : ∀ assetId, info.balanceOf lbtcAssetId assetId =
    (confirmedBalance wallet.transactions assetId -
      unreflected lbtcAssetId (wallet.transactions.map WalletTx.txid) rows payments assetId).toNat
  pendingSend : info.pendingSendSat = onceSum (amountEntries lbtcAssetId payments) + onceSum (feeEntries payments)
  pendingReceive : info.pendingReceiveSat = onceSum (incomingEntries lbtcAssetId payments)

/-- A confirmed balance, which is summed up in 64 bits and loses its sign, and what is taken from it leave what is left
of the exact one. -/
def Reflected (confirmed : Int) (taken unreflected : Nat) : Prop :=
  ((confirmed.bmod (2 ^ 64)).natAbs + unreflected = confirmed + taken ∧ unreflected ≤ confirmed) ∨
    ((confirmed.bmod (2 ^ 64)).natAbs ≤ taken ∧ confirmed ≤ unreflected)

/-- What is pending fits into 64 bits, what is counted beyond once is lost when the sum wraps, as nothing is, and every
balance is reflected. -/
structure AddsUp (wallet : OnchainWallet) (rows : List JoinedRow) (payments : List Payment) : Prop where
  sendFits : onceSum (amountEntries lbtcAssetId payments) + onceSum (feeEntries payments) < 2 ^ 64
  sendOnce : 2 ^ 64 ∣ excess (amountEntries lbtcAssetId payments) + excess (feeEntries payments)
  receiveFits : onceSum (incomingEntries lbtcAssetId payments) < 2 ^ 64
  receiveOnce : 2 ^ 64 ∣ excess (incomingEntries lbtcAssetId payments)
  lbtc : Reflected (confirmedBalance wallet.transactions lbtcAssetId)
    (takenSat lbtcAssetId (wallet.transactions.map WalletTx.txid) payments)
    (unreflected lbtcAssetId (wallet.transactions.map WalletTx.txid) rows payments lbtcAssetId)
  assets : ∀ assetId, assetId ≠ lbtcAssetId → Reflected (confirmedBalance wallet.transactions assetId) 0
    (unreflected lbtcAssetId (wallet.transactions.map WalletTx.txid) rows payments assetId)

/-- No sum needs more than its 64 bits. -/
structure Fits (wallet : OnchainWallet) (payments : List Payment) : Prop where
  send : ((amountEntries lbtcAssetId payments).map Prod.snd).sum + ((feeEntries payments).map Prod.snd).sum < 2 ^ 64
  receive : ((incomingEntries lbtcAssetId payments).map Prod.snd).sum < 2 ^ 64
  balances : ∀ assetId, -2 ^ 63 ≤ confirmedBalance wallet.transactions assetId ∧
    confirmedBalance wallet.transactions assetId < 2 ^ 63

/-- No payment and no transaction is met twice with an amount or a fee, the wallet spends no more L-BTC than was
confirmed and sent since, no less of the other assets than was confirmed, and of these none was sent since. -/
structure Accountable (wallet : OnchainWallet) (rows : List JoinedRow) (payments : List Payment) : Prop where
  amounts : CountedOnce (amountEntries lbtcAssetId payments)
  fees : CountedOnce (feeEntries payments)
  incoming : CountedOnce (incomingEntries lbtcAssetId payments)
  lbtc : 0 ≤ confirmedBalance wallet.transactions lbtcAssetId +
    unreflected lbtcAssetId (wallet.transactions.map WalletTx.txid) rows payments lbtcAssetId
  assets : ∀ assetId, assetId ≠ lbtcAssetId → 0 ≤ confirmedBalance wallet.transactions assetId ∧
    (confirmedBalance wallet.transactions assetId = 0 ∨
      unreflected lbtcAssetId (wallet.transactions.map WalletTx.txid) rows payments assetId = 0)

end Entries

/-! ## The wallet's transactions, summed up -/

/-- A sum of 64 bits stays the residue of the exact one. -/
theorem lookup_addEntries (tx : WalletTx) (assetId : AssetId) {entries : List (Sigma fun _ : AssetId => Int)}
    (hnodup : entries.NodupKeys) {acc : HashMap AssetId Int} {sum : Int}
    (hacc : (acc.lookup assetId).getD 0 = sum.bmod (2 ^ 64)) :
    ((entries.foldl (fun acc e => if tx.height.isSome || e.2 < 0 then
        acc.insert e.1 (i64Add ((acc.lookup e.1).getD 0) e.2) else acc) acc).lookup assetId).getD 0 =
      (sum + countedPart tx (entries.dlookup assetId)).bmod (2 ^ 64) := by
  induction entries generalizing acc sum with
  | nil =>
      rw [List.foldl_nil, hacc]
      exact congrArg (Int.bmod · _) (add_zero sum).symm
  | cons e entries ih =>
      obtain ⟨assetId', balance⟩ := e
      obtain ⟨hnot, hnodup⟩ := List.nodupKeys_cons.mp hnodup
      rw [List.foldl_cons]
      by_cases heq : assetId' = assetId
      · subst heq
        -- no further entry is of this asset
        have hrest := List.dlookup_eq_none.mpr hnot
        rw [List.dlookup_cons_eq]
        dsimp only
        split
        next hcounted =>
          have hadded : ((acc.insert assetId' (i64Add ((acc.lookup assetId').getD 0) balance)).lookup assetId').getD 0 =
              (sum + balance).bmod (2 ^ 64) := by
            rw [AList.lookup_insert, Option.getD_some, hacc, i64Add_bmod]
          rw [ih hnodup hadded, hrest]
          unfold countedPart
          dsimp only
          rw [if_pos hcounted, add_zero]
        next hskipped =>
          rw [ih hnodup hacc, hrest]
          unfold countedPart
          dsimp only
          rw [if_neg hskipped]
      · rw [List.dlookup_cons_ne _ _ (Ne.symm heq)]
        refine ih hnodup ?_
        dsimp only
        split
        · rw [AList.lookup_insert_ne (Ne.symm heq)]
          exact hacc
        · exact hacc

theorem lookup_addTx {acc : HashMap AssetId Int} {assetId : AssetId} {sum : Int}
    (hacc : (acc.lookup assetId).getD 0 = sum.bmod (2 ^ 64)) (tx : WalletTx) :
    ((addTx acc tx).lookup assetId).getD 0 =
      (sum + countedPart tx (tx.balance.lookup assetId)).bmod (2 ^ 64) :=
  lookup_addEntries tx assetId tx.balance.nodupKeys hacc

theorem lookup_assetSums (transactions : List WalletTx) (assetId : AssetId) :
    ((assetSums transactions).lookup assetId).getD 0 = (confirmedBalance transactions assetId).bmod (2 ^ 64) := by
  have hfold : ∀ {acc : HashMap AssetId Int} {sum : Int}, (acc.lookup assetId).getD 0 = sum.bmod (2 ^ 64) →
      ((transactions.foldl addTx acc).lookup assetId).getD 0 =
        (sum + confirmedBalance transactions assetId).bmod (2 ^ 64) := by
    induction transactions with
    | nil =>
        intro acc sum hacc
        rw [List.foldl_nil, hacc]
        exact congrArg (Int.bmod · _) (add_zero sum).symm
    | cons tx transactions ih =>
        intro acc sum hacc
        rw [List.foldl_cons, ih (lookup_addTx hacc tx)]
        unfold confirmedBalance
        rw [List.map_cons, List.sum_cons, add_assoc]
  rw [show assetSums transactions = transactions.foldl addTx ∅ from rfl, hfold (show _ = (0 : Int).bmod _ from rfl),
    zero_add]

/-- The entry of an asset has the amount of its sum, without the sign. -/
theorem find_assetBalance (db : PaymentDb) (sums : HashMap AssetId Int) (assetId : AssetId) :
    (((sums.entries.map fun e => assetBalance db e.1 e.2).find? fun ab => ab.assetId = assetId).map
      AssetBalance.balanceSat).getD 0 = ((sums.lookup assetId).getD 0).natAbs := by
  show _ = ((sums.entries.dlookup assetId).getD 0).natAbs
  induction sums.entries with
  | nil => rfl
  | cons e entries ih =>
      obtain ⟨assetId', balance⟩ := e
      by_cases heq : assetId' = assetId
      · subst heq
        rw [List.dlookup_cons_eq, List.map_cons, List.find?_cons_of_pos (by simp [assetBalance])]
        rfl
      · rw [List.dlookup_cons_ne _ _ (Ne.symm heq), List.map_cons,
          List.find?_cons_of_neg (by simp [assetBalance, heq])]
        exact ih

/-! ## The loop over the payments -/

section Loop

variable (lbtcAssetId : AssetId) (txIds : List TxId)

/-- What one payment adds to what is pending, in 64 bits, and takes from the balance. -/
theorem addPayment_eq {totals : Totals} (hsend : totals.pendingSendSat < 2 ^ 64)
    (hreceive : totals.pendingReceiveSat < 2 ^ 64) (payment : Payment) :
    addPayment lbtcAssetId txIds totals payment =
      { balanceSat := totals.balanceSat -
          if unseen txIds payment && outgoing payment then sendTotalSat lbtcAssetId payment else 0
        pendingSendSat :=
          u64Add totals.pendingSendSat (if outgoing payment then sendTotalSat lbtcAssetId payment else 0)
        pendingReceiveSat := u64Add totals.pendingReceiveSat (incomingSat lbtcAssetId payment) } := by
  have hsend' : u64Add totals.pendingSendSat 0 = totals.pendingSendSat := u64Add_of_lt hsend
  have hreceive' : u64Add totals.pendingReceiveSat 0 = totals.pendingReceiveSat := u64Add_of_lt hreceive
  unfold addPayment incomingSat outgoing
  cases payment.paymentType with
  | receive =>
      dsimp only
      split
      · simp [hsend']
      · simp [hsend', hreceive']
  | send =>
      cases hrefund : payment.details.getRefundTxAmountSat with
      | some refundTxAmountSat => simp [hsend']
      | none =>
          cases hunseen : unseen txIds payment with
          | true => simp [hreceive']
          | false => simp [hreceive']

/-- An amount and its fee, up to what does not fit. -/
theorem sendTotalSat_mod (payment : Payment) :
    sendTotalSat lbtcAssetId payment % 2 ^ 64 =
      ((amountEntry lbtcAssetId payment).2 + (feeEntry payment).2) % 2 ^ 64 := by
  unfold sendTotalSat amountEntry feeEntry u64Add
  dsimp only
  split
  · exact Nat.mod_mod _ _
  · rw [Nat.zero_add]

/-- Where the amounts and the fees of payments fit, so does each amount with its fee. -/
theorem sum_sendTotalSat {payments : List Payment}
    (hfits : ((payments.map (amountEntry lbtcAssetId)).map Prod.snd).sum +
      ((payments.map feeEntry).map Prod.snd).sum < 2 ^ 64) :
    (payments.map (sendTotalSat lbtcAssetId)).sum =
      ((payments.map (amountEntry lbtcAssetId)).map Prod.snd).sum + ((payments.map feeEntry).map Prod.snd).sum := by
  induction payments with
  | nil => rfl
  | cons payment payments ih =>
      simp only [List.map_cons, List.sum_cons] at hfits ⊢
      have htotal : sendTotalSat lbtcAssetId payment = (amountEntry lbtcAssetId payment).2 + (feeEntry payment).2 := by
        unfold sendTotalSat amountEntry feeEntry at *
        dsimp only at hfits ⊢
        split at hfits
        next hlbtc =>
          rw [if_pos hlbtc, if_pos hlbtc, u64Add_of_lt (by omega)]
        next hasset =>
          rw [if_neg hasset, if_neg hasset, Nat.zero_add]
      rw [ih (by omega), htotal]
      omega

theorem foldl_addPayment (payments : List Payment) {totals : Totals} (hsend : totals.pendingSendSat < 2 ^ 64)
    (hreceive : totals.pendingReceiveSat < 2 ^ 64) :
    payments.foldl (addPayment lbtcAssetId txIds) totals =
      { balanceSat := totals.balanceSat - takenSat lbtcAssetId txIds payments
        pendingSendSat := (totals.pendingSendSat + (((amountEntries lbtcAssetId payments).map Prod.snd).sum +
          ((feeEntries payments).map Prod.snd).sum)) % 2 ^ 64
        pendingReceiveSat := (totals.pendingReceiveSat +
          ((incomingEntries lbtcAssetId payments).map Prod.snd).sum) % 2 ^ 64 } := by
  induction payments generalizing totals with
  | nil =>
      obtain ⟨balanceSat, pendingSendSat, pendingReceiveSat⟩ := totals
      dsimp only at hsend hreceive
      simp [takenSat, amountEntries, feeEntries, incomingEntries]
      omega
  | cons payment payments ih =>
      have hmod := sendTotalSat_mod lbtcAssetId payment
      rw [List.foldl_cons, addPayment_eq lbtcAssetId txIds hsend hreceive,
        ih (Nat.mod_lt _ (by decide)) (Nat.mod_lt _ (by decide))]
      unfold takenSat amountEntries feeEntries incomingEntries u64Add
      cases houtgoing : outgoing payment with
      | false =>
          cases hunseen : unseen txIds payment with
          | false => simp [houtgoing, hunseen, Nat.add_assoc]
          | true => simp [houtgoing, hunseen, Nat.add_assoc]
      | true =>
          cases hunseen : unseen txIds payment with
          | false =>
              simp [houtgoing, hunseen, Nat.add_assoc]
              omega
          | true =>
              simp [houtgoing, hunseen, Nat.add_assoc, Nat.sub_sub]
              omega

end Loop

/-! ## When the stored balances are accurate -/

section Stored

variable (reader : PaymentReader) (db : PaymentDb) (wallet : OnchainWallet) (payments : List Payment)

theorem balanceOf_walletInfo_lbtc :
    (walletInfo reader db wallet payments).balanceOf reader.lbtcAssetId reader.lbtcAssetId =
      ((confirmedBalance wallet.transactions reader.lbtcAssetId).bmod (2 ^ 64)).natAbs -
        takenSat reader.lbtcAssetId (wallet.transactions.map WalletTx.txid) payments := by
  unfold WalletInfo.balanceOf walletInfo
  rw [if_pos rfl]
  dsimp only
  rw [foldl_addPayment _ _ _ (Nat.two_pow_pos 64) (Nat.two_pow_pos 64), find_assetBalance, lookup_assetSums]

theorem balanceOf_walletInfo_asset {assetId : AssetId} (h : assetId ≠ reader.lbtcAssetId) :
    (walletInfo reader db wallet payments).balanceOf reader.lbtcAssetId assetId =
      ((confirmedBalance wallet.transactions assetId).bmod (2 ^ 64)).natAbs := by
  unfold WalletInfo.balanceOf walletInfo
  rw [if_neg h]
  dsimp only
  rw [find_assetBalance, lookup_assetSums]

theorem pendingSendSat_walletInfo :
    (walletInfo reader db wallet payments).pendingSendSat =
      (((amountEntries reader.lbtcAssetId payments).map Prod.snd).sum +
        ((feeEntries payments).map Prod.snd).sum) % 2 ^ 64 := by
  unfold walletInfo
  dsimp only
  rw [foldl_addPayment _ _ _ (Nat.two_pow_pos 64) (Nat.two_pow_pos 64)]
  dsimp only
  rw [Nat.zero_add]

theorem pendingReceiveSat_walletInfo :
    (walletInfo reader db wallet payments).pendingReceiveSat =
      ((incomingEntries reader.lbtcAssetId payments).map Prod.snd).sum % 2 ^ 64 := by
  unfold walletInfo
  dsimp only
  rw [foldl_addPayment _ _ _ (Nat.two_pow_pos 64) (Nat.two_pow_pos 64)]
  dsimp only
  rw [Nat.zero_add]

/-- A balance is stored as it should be exactly if it is reflected. -/
theorem reflected_iff {confirmed : Int} {taken unreflected : Nat} :
    (confirmed.bmod (2 ^ 64)).natAbs - taken = (confirmed - unreflected).toNat ↔
      Reflected confirmed taken unreflected := by
  unfold Reflected
  omega

/-- Where all fees and amounts are counted once and fit, what is taken is what the wallet does not know yet. -/
theorem takenSat_eq {lbtcAssetId : AssetId} {payments : List Payment}
    (hfits : ((amountEntries lbtcAssetId payments).map Prod.snd).sum + ((feeEntries payments).map Prod.snd).sum < 2 ^ 64)
    (hamounts : CountedOnce (amountEntries lbtcAssetId payments)) (hfees : CountedOnce (feeEntries payments))
    (txIds : List TxId) (rows : List JoinedRow) :
    takenSat lbtcAssetId txIds payments = unreflected lbtcAssetId txIds rows payments lbtcAssetId := by
  have hsub : ((payments.filter (unseen txIds)).filter outgoing).Sublist (payments.filter outgoing) :=
    List.filter_sublist.filter _
  have hamountsSub : (amountEntries lbtcAssetId (payments.filter (unseen txIds))).Sublist
      (amountEntries lbtcAssetId payments) := hsub.map _
  have hfeesSub : (feeEntries (payments.filter (unseen txIds))).Sublist (feeEntries payments) := hsub.map _
  have hamountsLe := (hamountsSub.map Prod.snd).sum_le_sum fun _ _ => Nat.zero_le _
  have hfeesLe := (hfeesSub.map Prod.snd).sum_le_sum fun _ _ => Nat.zero_le _
  have htaken : takenSat lbtcAssetId txIds payments =
      ((amountEntries lbtcAssetId (payments.filter (unseen txIds))).map Prod.snd).sum +
        ((feeEntries (payments.filter (unseen txIds))).map Prod.snd).sum :=
    sum_sendTotalSat lbtcAssetId (Nat.lt_of_le_of_lt (Nat.add_le_add hamountsLe hfeesLe) hfits)
  rw [htaken, sum_eq_onceSum_iff.mpr (hamounts.sublist hamountsSub), sum_eq_onceSum_iff.mpr (hfees.sublist hfeesSub)]
  exact (if_pos rfl).symm

variable {reader db wallet payments}

/-- Where the sums fit, only what is counted twice, a balance below zero and an asset that is on its way are left to go
wrong. -/
theorem addsUp_iff_accountable {lbtcAssetId : AssetId} {rows : List JoinedRow}
    (hfits : Fits lbtcAssetId wallet payments) :
    AddsUp lbtcAssetId wallet rows payments ↔ Accountable lbtcAssetId wallet rows payments := by
  have hsend := hfits.send
  have hreceive := hfits.receive
  rw [← onceSum_add_excess, ← onceSum_add_excess] at hsend
  rw [← onceSum_add_excess] at hreceive
  have hbalance : ∀ assetId, (confirmedBalance wallet.transactions assetId).bmod (2 ^ 64) =
      confirmedBalance wallet.transactions assetId := fun assetId =>
    bmod_of_fits (hfits.balances assetId).1 (hfits.balances assetId).2
  constructor
  · rintro ⟨-, hsendOnce, -, hreceiveOnce, hlbtc, hassets⟩
    have hamounts : CountedOnce (amountEntries lbtcAssetId payments) := excess_eq_zero_iff.mp (by omega)
    have hfees : CountedOnce (feeEntries payments) := excess_eq_zero_iff.mp (by omega)
    refine ⟨hamounts, hfees, excess_eq_zero_iff.mp (by omega), ?_, fun assetId hne => ?_⟩
    · unfold Reflected at hlbtc
      rw [hbalance, takenSat_eq hfits.send hamounts hfees _ rows] at hlbtc
      omega
    · have hasset := hassets assetId hne
      unfold Reflected at hasset
      rw [hbalance] at hasset
      omega
  · rintro ⟨hamounts, hfees, hincoming, hlbtc, hassets⟩
    have hamounts' := excess_eq_zero_iff.mpr hamounts
    have hfees' := excess_eq_zero_iff.mpr hfees
    have hincoming' := excess_eq_zero_iff.mpr hincoming
    refine ⟨by omega, by omega, by omega, by omega, ?_, fun assetId hne => ?_⟩
    · unfold Reflected
      rw [hbalance, takenSat_eq hfits.send hamounts hfees _ rows]
      omega
    · have hasset := hassets assetId hne
      unfold Reflected
      rw [hbalance]
      omega

/-- **The stored balances are accurate** exactly if the sums add up in 64 bits. Where they fit, that is exactly if no
amount and no fee is met twice, no balance is below zero, and nothing of another asset was sent by a transaction that the
wallet does not know yet. -/
theorem updateWalletInfo_accurate_iff {now : Nat} {rows : List JoinedRow} {info : WalletInfo}
    (h : UpdateWalletInfo reader now db wallet rows payments info) :
    (Accurate reader.lbtcAssetId wallet rows payments info ↔ AddsUp reader.lbtcAssetId wallet rows payments) ∧
      (Fits reader.lbtcAssetId wallet payments →
        (Accurate reader.lbtcAssetId wallet rows payments info ↔
          Accountable reader.lbtcAssetId wallet rows payments)) := by
  have hinfo := h.stored
  subst hinfo
  have hiff : Accurate reader.lbtcAssetId wallet rows payments (walletInfo reader db wallet payments) ↔
      AddsUp reader.lbtcAssetId wallet rows payments := by
    -- what the sums count twice has to be zero
    have hamounts := onceSum_add_excess (amountEntries reader.lbtcAssetId payments)
    have hfees := onceSum_add_excess (feeEntries payments)
    have hincoming := onceSum_add_excess (incomingEntries reader.lbtcAssetId payments)
    constructor
    · rintro ⟨hbalance, hsend, hreceive⟩
      rw [pendingSendSat_walletInfo] at hsend
      rw [pendingReceiveSat_walletInfo] at hreceive
      refine ⟨by omega, by omega, by omega, by omega, ?_, fun assetId hne => ?_⟩
      · rw [← reflected_iff, ← hbalance, balanceOf_walletInfo_lbtc]
      · rw [← reflected_iff, ← hbalance, balanceOf_walletInfo_asset _ _ _ _ hne]
        exact Nat.sub_zero _
    · rintro ⟨hsendFits, hsendOnce, hreceiveFits, hreceiveOnce, hlbtc, hassets⟩
      refine ⟨fun assetId => ?_, ?_, ?_⟩
      · by_cases heq : assetId = reader.lbtcAssetId
        · subst heq
          rw [balanceOf_walletInfo_lbtc]
          exact reflected_iff.mpr hlbtc
        · rw [balanceOf_walletInfo_asset _ _ _ _ heq, ← reflected_iff.mpr (hassets assetId heq)]
          exact (Nat.sub_zero _).symm
      · rw [pendingSendSat_walletInfo]
        omega
      · rw [pendingReceiveSat_walletInfo]
        omega
  exact ⟨hiff, fun hfits => hiff.trans (addsUp_iff_accountable hfits)⟩

end Stored

/-! ## Payments that the wallet does not know yet -/

/-- The wallet has 100 satoshis and 5 of an asset. -/
def funded : OnchainWallet where
  transactions :=
    [{ txid := "t0", height := some 1, balance := HashMap.ofList [("lbtc", 100), ("asset", 5)] }]

/-- A transaction was sent that is not confirmed yet, with a fee of 10. -/
def sentDb (balances : Table fun b : PaymentBalance => (b.txId, b.assetId)) : PaymentDb where
  paymentTxData := ⟨[{ txId := "t", timestamp := some 1, feesSat := 10, isConfirmed := false }], List.nodup_singleton _⟩
  paymentBalance := balances

/-- It sends 50 satoshis. -/
def sentLbtc : PaymentDb :=
  sentDb ⟨[{ txId := "t", assetId := "lbtc", amount := 50, paymentType := .send }], List.nodup_singleton _⟩

/-- It sends the asset, and L-BTC for the fee. -/
def sentAsset : PaymentDb :=
  sentDb ⟨[{ txId := "t", assetId := "asset", amount := 5, paymentType := .send },
    { txId := "t", assetId := "lbtc", amount := 0, paymentType := .send }], by decide⟩

/-- The rows with pending payments, and what they are read as. -/
def pendingRows (db : PaymentDb) : List JoinedRow := listedRows db pendingRequest

def pendingPayments (db : PaymentDb) : List Payment := (pendingRows db).filterMap (sqlRowToPayment {} 0)

/-- What is stored. -/
def storedInfo (db : PaymentDb) (wallet : OnchainWallet) : WalletInfo := walletInfo {} db wallet (pendingPayments db)

theorem updateWalletInfo_pending {db : PaymentDb} {wallet : OnchainWallet}
    (hsorted : (pendingRows db).Pairwise (Before false JoinedRow.orderKey))
    (hall : (pendingRows db).length ≤ u32Max)
    (hread : (pendingRows db).mapM (sqlRowToPayment {} 0) = some (pendingPayments db)) :
    UpdateWalletInfo {} 0 db wallet (pendingRows db) (pendingPayments db) (storedInfo db wallet) :=
  ⟨selectPaymentQuery_listedRows hsorted hall, hread, rfl⟩

/-- What the wallet holds besides L-BTC is 5 of the one asset. -/
theorem confirmedBalance_funded {assetId : AssetId} (hne : assetId ≠ "lbtc") :
    confirmedBalance funded.transactions assetId = 5 ∨ confirmedBalance funded.transactions assetId = 0 := by
  by_cases hasset : assetId = "asset"
  · subst hasset
    exact .inl (by decide +kernel)
  · have hnone : (HashMap.ofList [("lbtc", 100), ("asset", 5)] : HashMap AssetId Int).lookup assetId = none := by
      rw [HashMap.lookup_ofList_eq_none]
      simp [Ne.symm hne, Ne.symm hasset]
    right
    unfold confirmedBalance funded
    rw [List.map_singleton, List.sum_singleton]
    dsimp only
    rw [hnone]
    rfl

theorem fits_funded : Fits "lbtc" funded (pendingPayments sentLbtc) := by
  refine ⟨by decide +kernel, by decide +kernel, fun assetId => ?_⟩
  by_cases hlbtc : assetId = "lbtc"
  · subst hlbtc
    decide +kernel
  · rcases confirmedBalance_funded hlbtc with h | h
    · rw [h]
      decide
    · rw [h]
      decide

/-- A payment of 50 satoshis leaves 40 of 100. -/
theorem updateWalletInfo_accurate_lbtc :
    Accurate "lbtc" funded (pendingRows sentLbtc) (pendingPayments sentLbtc) (storedInfo sentLbtc funded) ∧
      (storedInfo sentLbtc funded).balanceSat = 40 := by
  refine ⟨?_, by decide +kernel⟩
  have h := @updateWalletInfo_pending sentLbtc funded (List.pairwise_singleton _ _) (by decide +kernel)
    (by decide +kernel)
  refine ((updateWalletInfo_accurate_iff h).2 fits_funded).mpr ⟨by decide +kernel, by decide +kernel,
    by decide +kernel, by decide +kernel, fun assetId hne => ⟨?_, .inr ?_⟩⟩
  · have hfunded := confirmedBalance_funded hne
    omega
  · have hlbtc : ∀ e ∈ (pendingRows sentLbtc).zip (pendingPayments sentLbtc),
        e.1.pb.map (·.assetId) = some "lbtc" := by decide +kernel
    have hempty : assetEntries assetId (((pendingRows sentLbtc).zip (pendingPayments sentLbtc)).filter fun e =>
        unseen (funded.transactions.map WalletTx.txid) e.2) = [] := by
      unfold assetEntries
      rw [List.map_eq_nil_iff, List.filter_eq_nil_iff]
      intro e he
      rw [hlbtc e (List.mem_of_mem_filter he)]
      simp [Ne.symm hne]
    unfold unreflected
    rw [if_neg hne, hempty]
    rfl

/-- Nothing is confirmed yet of what the wallet has received, and it has sent 60 of it on. -/
def respent : OnchainWallet where
  transactions :=
    [{ txid := "t1", balance := HashMap.ofList [("lbtc", 100)] },
      { txid := "t2", balance := HashMap.ofList [("lbtc", -60)] }]

def respentDb : PaymentDb where
  paymentTxData :=
    ⟨[{ txId := "t1", timestamp := some 1, feesSat := 10, isConfirmed := false },
      { txId := "t2", timestamp := some 1, feesSat := 10, isConfirmed := false }], by decide⟩
  paymentBalance :=
    ⟨[{ txId := "t1", assetId := "lbtc", amount := 100, paymentType := .receive },
      { txId := "t2", assetId := "lbtc", amount := 50, paymentType := .send }], by decide⟩

/-- The wallet knows the transaction that sends the asset. -/
def assetSent : OnchainWallet where
  transactions := funded.transactions ++ [{ txid := "t", balance := HashMap.ofList [("lbtc", -10), ("asset", -5)] }]

/-- It was given an asset three times, more of it than 64 bits hold with a sign. -/
def hoarded : OnchainWallet where
  transactions := ["t1", "t2", "t3"].map fun txid =>
    { txid, height := some 1, balance := HashMap.ofList [("asset", 2 ^ 62)] }

/-- The fee of a payment in an asset is counted twice, 60 satoshis are stored of a balance below zero, and a third of a
balance that does not fit. -/
theorem updateWalletInfo_wrong :
    (UpdateWalletInfo {} 0 sentAsset assetSent (pendingRows sentAsset) (pendingPayments sentAsset)
        (storedInfo sentAsset assetSent) ∧
      (storedInfo sentAsset assetSent).pendingSendSat = 20 ∧
      ¬ Accurate "lbtc" assetSent (pendingRows sentAsset) (pendingPayments sentAsset)
        (storedInfo sentAsset assetSent)) ∧
    (UpdateWalletInfo {} 0 respentDb respent (pendingRows respentDb) (pendingPayments respentDb)
        (storedInfo respentDb respent) ∧
      (storedInfo respentDb respent).balanceSat = 60 ∧
      ¬ Accurate "lbtc" respent (pendingRows respentDb) (pendingPayments respentDb)
        (storedInfo respentDb respent)) ∧
    UpdateWalletInfo {} 0 {} hoarded [] [] (storedInfo {} hoarded) ∧
      (storedInfo {} hoarded).balanceOf "lbtc" "asset" = 2 ^ 62 ∧
      ¬ Accurate "lbtc" hoarded [] [] (storedInfo {} hoarded) := by
  refine ⟨⟨?_, by decide +kernel, fun h => ?_⟩, ⟨?_, by decide +kernel, fun h => ?_⟩, ?_, by decide +kernel,
    fun h => ?_⟩
  · exact updateWalletInfo_pending (by decide +kernel) (by decide +kernel) (by decide +kernel)
  · exact absurd h.pendingSend (by decide +kernel)
  · exact updateWalletInfo_pending (by decide +kernel) (by decide +kernel) (by decide +kernel)
  · exact absurd (h.balance "lbtc") (by decide +kernel)
  · exact updateWalletInfo_pending (by decide +kernel) (by decide +kernel) (by decide +kernel)
  · exact absurd (h.balance "asset") (by decide +kernel)

end BreezLiquid.Payments
