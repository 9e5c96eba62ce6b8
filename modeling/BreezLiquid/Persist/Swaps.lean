/-
# BreezLiquid.Persist.Swaps — the swap tables and their optimistic locking.

Every `UPDATE` of a swap row fires two triggers, one for the version and one for the update time; each of
them updates the row once more, so the version grows by two. `insert_or_update_*_swap` is guarded by the
version the caller read; the narrower setters are not.

The methods come by table: chain, send, then receive swaps. In each table they are of four kinds.

* Reads: `fetch_*` by one column, and `list_*`.
* Whole rows. `insertOrUpdate…SwapInner` inserts the swap if its id is new, then updates the row where the version is
  still the one that was read. If there is none, it is an error and nothing is written.
* Setters of a few columns, which go by the id alone, or by the id and what the column holds.
* `tryHandle…SwapUpdate`, the change of the state. An id that is already set wins over the new one, except that the
  refund of a chain swap may be replaced.

The lemmas at the end say what a lookup by id finds afterwards. The update time is an argument, so two updates may have
the same.
-/
import BreezLiquid.Persist.Db

namespace BreezLiquid

open Tables

/-- The two triggers after an `UPDATE`. -/
def SwapMetadata.touch (now : Nat) (m : SwapMetadata) : SwapMetadata :=
  { m with version := m.version + 2, lastUpdatedAt := now }

/-- `ORDER BY created_at`. -/
def orderByCreatedAt {ρ : Type} (createdAt : ρ → Nat) (rows : List ρ) : List ρ :=
  rows.insertionSort fun a b => createdAt a ≤ createdAt b

namespace Db

/-! ## Chain swaps -/

/-- `UPDATE chain_swaps SET g WHERE p`, triggers included. -/
def updateChainSwaps (now : Nat) (p : ChainSwap → Bool) (g : ChainSwap → ChainSwap) (db : Db)
    (hg : ∀ s, (g s).id = s.id := by intro _; rfl) : Db :=
  { db with
    chainSwaps := db.chainSwaps.updateWhere p
      (fun s => { g s with metadata := (g s).metadata.touch now }) hg }

/-- `list_chain_swaps`, by the time of creation. -/
def listChainSwaps (db : Db) : List ChainSwap :=
  (orderByCreatedAt ChainSwap.createdAt db.chainSwaps.rows).map fun s =>
    s.withIsLocal (db.isLocal s.id)

/-- `list_chain_swaps_by_state`. -/
def listChainSwapsByState (db : Db) (states : List PaymentState) : List ChainSwap :=
  db.listChainSwaps.filter fun s => states.contains s.state

/-- `list_pending_chain_swaps`. -/
def listPendingChainSwaps (db : Db) : List ChainSwap :=
  db.listChainSwapsByState [.pending, .refundPending, .waitingFeeAcceptance]

/-- `fetch_chain_swap_by_lockup_address`. -/
def fetchChainSwapByLockupAddress (db : Db) (lockupAddress : Address) : Option ChainSwap :=
  db.listChainSwaps.find? fun s => s.lockupAddress = lockupAddress

/-- The columns of the `INSERT`; the other ones start with their defaults. -/
def chainSwapInsert (s : ChainSwap) : ChainSwap where
  id := s.id
  direction := s.direction
  lockupAddress := s.lockupAddress
  timeoutBlockHeight := s.timeoutBlockHeight
  claimTimeoutBlockHeight := s.claimTimeoutBlockHeight
  preimage := s.preimage
  payerAmountSat := s.payerAmountSat
  receiverAmountSat := s.receiverAmountSat
  acceptZeroConf := s.acceptZeroConf
  createResponseJson := s.createResponseJson
  claimPrivateKey := s.claimPrivateKey
  refundPrivateKey := s.refundPrivateKey
  claimFeesSat := s.claimFeesSat
  createdAt := s.createdAt
  state := s.state

/-- The columns of the `UPDATE`. `auto_accepted_fees` is not among them. -/
def chainSwapUpdate (s row : ChainSwap) : ChainSwap :=
  { row with
    description := s.description
    acceptZeroConf := s.acceptZeroConf
    serverLockupTxId := s.serverLockupTxId
    userLockupTxId := s.userLockupTxId
    claimAddress := s.claimAddress
    claimTxId := s.claimTxId
    refundAddress := s.refundAddress
    refundTxId := s.refundTxId
    pairFeesJson := s.pairFeesJson
    state := s.state
    actualPayerAmountSat := s.actualPayerAmountSat
    acceptedReceiverAmountSat := s.acceptedReceiverAmountSat }

/-- `insert_or_update_chain_swap_inner`: insert on a free id, then update under the version guard. -/
def insertOrUpdateChainSwapInner (now : Nat) (s : ChainSwap) (db : Db) : Except Err Db :=
  let db := { db with chainSwaps := db.chainSwaps.insertNew (chainSwapInsert s) }
  let guard := fun (row : ChainSwap) =>
    decide (row.id = s.id) && decide (row.metadata.version = s.metadata.version)
  if db.chainSwaps.rows.any guard then .ok (db.updateChainSwaps now guard (chainSwapUpdate s))
  else .error (.generic ("Version mismatch for chain swap " ++ s.id))

/-- `insert_or_update_chain_swap`, given the swap read before the transaction. -/
def insertOrUpdateChainSwap (p : Persister) (now : Nat) (maybeSwap : Option ChainSwap)
    (s : ChainSwap) (db : Db) : Except Err Db := do
  let db ← db.insertOrUpdateChainSwapInner now s
  return db.commitUpdatedFields p now s.id .chain (ChainSyncData.updatedFields maybeSwap s)

/-- `update_chain_swap_accept_zero_conf`: the field is synced, so the change is committed. -/
def updateChainSwapAcceptZeroConf (p : Persister) (now : Nat) (swapId : SwapId)
    (acceptZeroConf : Bool) (db : Db) : Db :=
  (db.updateChainSwaps now (·.id = swapId) fun s => { s with acceptZeroConf }).commitOutgoing p now
    swapId .chain (some ["accept_zero_conf"])

/-- `update_actual_payer_amount`; this column is not synced. -/
def updateActualPayerAmount (now : Nat) (swapId : SwapId) (actualPayerAmountSat : Nat) (db : Db) : Db :=
  db.updateChainSwaps now (·.id = swapId) fun s =>
    { s with actualPayerAmountSat := some actualPayerAmountSat }

/-- `update_accepted_receiver_amount`. -/
def updateAcceptedReceiverAmount (p : Persister) (now : Nat) (swapId : SwapId)
    (acceptedReceiverAmountSat : Option Nat) (db : Db) : Db :=
  (db.updateChainSwaps now (·.id = swapId) fun s =>
    { s with acceptedReceiverAmountSat }).commitOutgoing p now swapId .chain
      (some ["accepted_receiver_amount_sat"])

/-- `set_chain_swap_refund_address`. -/
def setChainSwapRefundAddress (now : Nat) (swapId : SwapId) (refundAddress : Address) (db : Db) : Db :=
  db.updateChainSwaps now (·.id = swapId) fun s => { s with refundAddress := some refundAddress }

/-- `set_chain_swap_auto_accepted_fees`. -/
def setChainSwapAutoAcceptedFees (p : Persister) (now : Nat) (swapId : SwapId) (db : Db) : Db :=
  (db.updateChainSwaps now (·.id = swapId) fun s =>
    { s with autoAcceptedFees := true }).commitOutgoing p now swapId .chain
      (some ["auto_accepted_fees"])

/-- Only set the claim if none is set. -/
def setChainSwapClaim (now : Nat) (swapId : SwapId) (claimAddress : Option Address)
    (claimTxId : TxId) (db : Db) : Except Err Db :=
  let guard := fun (row : ChainSwap) => decide (row.id = swapId) && row.claimTxId.isNone
  if db.chainSwaps.rows.any guard then
    .ok (db.updateChainSwaps now guard fun s => { s with claimAddress, claimTxId := some claimTxId })
  else .error .alreadyClaimed

/-- Only unset the claim if it is the given one. -/
def unsetChainSwapClaimTxId (now : Nat) (swapId : SwapId) (claimTxId : TxId) (db : Db) : Db :=
  db.updateChainSwaps now (fun s => decide (s.id = swapId) && decide (s.claimTxId = some claimTxId))
    fun s => { s with claimTxId := none }

end Db

/-- `ChainSwapUpdate`. -/
structure ChainSwapUpdate where
  swapId : SwapId
  toState : PaymentState
  serverLockupTxId : Option TxId := none
  userLockupTxId : Option TxId := none
  claimAddress : Option Address := none
  claimTxId : Option TxId := none
  refundTxId : Option TxId := none
  deriving DecidableEq, Repr

namespace Db

/-- `try_handle_chain_swap_update`: ids already set win, except that a refund may be replaced. -/
def tryHandleChainSwapUpdate (now : Nat) (u : ChainSwapUpdate) (db : Db) : Db :=
  db.updateChainSwaps now (·.id = u.swapId) fun s =>
    { s with
      serverLockupTxId := s.serverLockupTxId.or u.serverLockupTxId
      userLockupTxId := s.userLockupTxId.or u.userLockupTxId
      claimAddress := s.claimAddress.or u.claimAddress
      claimTxId := s.claimTxId.or u.claimTxId
      refundTxId := u.refundTxId.or s.refundTxId
      state := u.toState }

/-! ## Send swaps -/

/-- `UPDATE send_swaps SET g WHERE p`, triggers included. -/
def updateSendSwaps (now : Nat) (p : SendSwap → Bool) (g : SendSwap → SendSwap) (db : Db)
    (hg : ∀ s, (g s).id = s.id := by intro _; rfl) : Db :=
  { db with
    sendSwaps := db.sendSwaps.updateWhere p
      (fun s => { g s with metadata := (g s).metadata.touch now }) hg }

/-- `list_send_swaps`. -/
def listSendSwaps (db : Db) : List SendSwap :=
  (orderByCreatedAt SendSwap.createdAt db.sendSwaps.rows).map fun s =>
    s.withIsLocal (db.isLocal s.id)

/-- `fetch_send_swap_by_invoice`. -/
def fetchSendSwapByInvoice (db : Db) (invoice : String) : Option SendSwap :=
  (db.sendSwaps.rows.find? fun s => s.invoice = invoice).map fun s => s.withIsLocal (db.isLocal s.id)

/-- `fetch_receive_swap_by_invoice`. -/
def fetchReceiveSwapByInvoice (db : Db) (invoice : String) : Option ReceiveSwap :=
  (db.receiveSwaps.rows.find? fun s => s.invoice = invoice).map fun s => s.withIsLocal (db.isLocal s.id)

/-- `list_send_swaps_by_state`. -/
def listSendSwapsByState (db : Db) (states : List PaymentState) : List SendSwap :=
  db.listSendSwaps.filter fun s => states.contains s.state

/-- `list_pending_send_swaps`. -/
def listPendingSendSwaps (db : Db) : List SendSwap :=
  db.listSendSwapsByState [.pending, .refundPending]

/-- `list_recoverable_send_swaps`, with the created ones: a lockup may have been sent for them. -/
def listRecoverableSendSwaps (db : Db) : List SendSwap :=
  db.listSendSwapsByState [.created, .pending, .refundPending]

/-- The columns an inserted send swap has ... -/
def sendSwapInsert (s : SendSwap) : SendSwap where
  id := s.id
  invoice := s.invoice
  bolt12Offer := s.bolt12Offer
  paymentHash := s.paymentHash
  destinationPubkey := s.destinationPubkey
  timeoutBlockHeight := s.timeoutBlockHeight
  payerAmountSat := s.payerAmountSat
  receiverAmountSat := s.receiverAmountSat
  createResponseJson := s.createResponseJson
  refundPrivateKey := s.refundPrivateKey
  createdAt := s.createdAt
  state := s.state
  pairFeesJson := s.pairFeesJson

/-- ... and those a later write of the swap replaces. -/
def sendSwapUpdate (s row : SendSwap) : SendSwap :=
  { row with
    description := s.description
    preimage := s.preimage
    lockupTxId := s.lockupTxId
    refundAddress := s.refundAddress
    refundTxId := s.refundTxId
    state := s.state }

/-- `insert_or_update_send_swap_inner`. Ids and invoices are unique. -/
def insertOrUpdateSendSwapInner (now : Nat) (s : SendSwap) (db : Db) : Except Err Db :=
  let db :=
    if db.sendSwaps.rows.any fun row => row.invoice = s.invoice then db
    else { db with sendSwaps := db.sendSwaps.insertNew (sendSwapInsert s) }
  let guard := fun (row : SendSwap) =>
    decide (row.id = s.id) && decide (row.metadata.version = s.metadata.version)
  if db.sendSwaps.rows.any guard then .ok (db.updateSendSwaps now guard (sendSwapUpdate s))
  else .error (.generic ("Version mismatch for send swap " ++ s.id))

/-- `insert_or_update_send_swap`: the write and the commit of what it changes are one transaction. -/
def insertOrUpdateSendSwap (p : Persister) (now : Nat) (maybeSwap : Option SendSwap)
    (s : SendSwap) (db : Db) : Except Err Db := do
  let db ← db.insertOrUpdateSendSwapInner now s
  return db.commitUpdatedFields p now s.id .send (SendSyncData.updatedFields maybeSwap s)

/-- `update_send_swaps_by_state`. -/
def updateSendSwapsByState (now : Nat) (fromState toState : PaymentState) (isLocal : Option Bool)
    (db : Db) : Db :=
  db.updateSendSwaps now
    (fun s => decide (s.state = fromState) &&
      match isLocal with | some isLocal => db.isLocal s.id == isLocal | none => true)
    fun s => { s with state := toState }

/-- `try_handle_send_swap_update`: what is already set wins. -/
def tryHandleSendSwapUpdate (p : Persister) (now : Nat) (swapId : SwapId) (toState : PaymentState)
    (preimage lockupTxId refundTxId : Option String) (db : Db) : Db :=
  (db.updateSendSwaps now (·.id = swapId) fun s =>
    { s with
      preimage := s.preimage.or preimage
      lockupTxId := s.lockupTxId.or lockupTxId
      refundTxId := s.refundTxId.or refundTxId
      state := toState }).commitOutgoing p now swapId .send (preimage.map fun _ => ["preimage"])

/-- `set_send_swap_refund_address`. -/
def setSendSwapRefundAddress (now : Nat) (swapId : SwapId) (refundAddress : Address) (db : Db) : Db :=
  db.updateSendSwaps now (·.id = swapId) fun s => { s with refundAddress := some refundAddress }

/-- Only set the lockup if none is set. -/
def setSendSwapLockupTxId (now : Nat) (swapId : SwapId) (lockupTxId : TxId) (db : Db) :
    Except Err Db :=
  let guard := fun (row : SendSwap) => decide (row.id = swapId) && row.lockupTxId.isNone
  if db.sendSwaps.rows.any guard then
    .ok (db.updateSendSwaps now guard fun s => { s with lockupTxId := some lockupTxId })
  else .error .paymentInProgress

/-- Only unset the lockup if it is the given one. -/
def unsetSendSwapLockupTxId (now : Nat) (swapId : SwapId) (lockupTxId : TxId) (db : Db) : Db :=
  db.updateSendSwaps now (fun s => decide (s.id = swapId) && decide (s.lockupTxId = some lockupTxId))
    fun s => { s with lockupTxId := none }

/-! ## Receive swaps -/

/-- `UPDATE receive_swaps SET g WHERE p`, triggers included. -/
def updateReceiveSwaps (now : Nat) (p : ReceiveSwap → Bool) (g : ReceiveSwap → ReceiveSwap) (db : Db)
    (hg : ∀ s, (g s).id = s.id := by intro _; rfl) : Db :=
  { db with
    receiveSwaps := db.receiveSwaps.updateWhere p
      (fun s => { g s with metadata := (g s).metadata.touch now }) hg }

/-- `list_receive_swaps`. -/
def listReceiveSwaps (db : Db) : List ReceiveSwap :=
  (orderByCreatedAt ReceiveSwap.createdAt db.receiveSwaps.rows).map fun s =>
    s.withIsLocal (db.isLocal s.id)

/-- `list_ongoing_receive_swaps`. -/
def listOngoingReceiveSwaps (db : Db) : List ReceiveSwap :=
  db.listReceiveSwaps.filter fun s => [PaymentState.created, .pending].contains s.state

/-- The columns an inserted receive swap has ... -/
def receiveSwapInsert (s : ReceiveSwap) : ReceiveSwap where
  id := s.id
  preimage := s.preimage
  createResponseJson := s.createResponseJson
  claimPrivateKey := s.claimPrivateKey
  invoice := s.invoice
  timeoutBlockHeight := s.timeoutBlockHeight
  paymentHash := s.paymentHash
  destinationPubkey := s.destinationPubkey
  payerAmountSat := s.payerAmountSat
  receiverAmountSat := s.receiverAmountSat
  createdAt := s.createdAt
  claimFeesSat := s.claimFeesSat
  mrhAddress := s.mrhAddress
  state := s.state
  pairFeesJson := s.pairFeesJson

/-- ... and those a later write of the swap replaces. -/
def receiveSwapUpdate (s row : ReceiveSwap) : ReceiveSwap :=
  { row with
    bolt12Offer := s.bolt12Offer
    description := s.description
    payerNote := s.payerNote
    claimAddress := s.claimAddress
    claimTxId := s.claimTxId
    lockupTxId := s.lockupTxId
    mrhTxId := s.mrhTxId
    payerAmountSat := s.payerAmountSat
    receiverAmountSat := s.receiverAmountSat
    state := s.state }

/-- Insert the row if there is none, then update it if its version is the one that was read. -/
def insertOrUpdateReceiveSwapInner (now : Nat) (s : ReceiveSwap) (db : Db) : Except Err Db :=
  let db := { db with receiveSwaps := db.receiveSwaps.insertNew (receiveSwapInsert s) }
  let guard := fun (row : ReceiveSwap) =>
    decide (row.id = s.id) && decide (row.metadata.version = s.metadata.version)
  if db.receiveSwaps.rows.any guard then
    let db := db.updateReceiveSwaps now guard (receiveSwapUpdate s)
    .ok (if s.mrhTxId.isSome then db.deleteReservedAddress s.mrhAddress else db)
  else .error (.generic ("Version mismatch for receive swap " ++ s.id))

/-- `insert_or_update_receive_swap`. -/
def insertOrUpdateReceiveSwap (p : Persister) (now : Nat) (maybeSwap : Option ReceiveSwap)
    (s : ReceiveSwap) (db : Db) : Except Err Db := do
  let db ← db.insertOrUpdateReceiveSwapInner now s
  return db.commitUpdatedFields p now s.id .receive (ReceiveSyncData.updatedFields maybeSwap)

/-- `set_receive_swap_claim_address`. -/
def setReceiveSwapClaimAddress (now : Nat) (swapId : SwapId) (claimAddress : Address) (db : Db) : Db :=
  db.updateReceiveSwaps now (·.id = swapId) fun s => { s with claimAddress := some claimAddress }

/-- `set_receive_swap_claim_tx_id`, which fails if there is a claim. -/
def setReceiveSwapClaimTxId (now : Nat) (swapId : SwapId) (claimTxId : TxId) (db : Db) :
    Except Err Db :=
  let guard := fun (row : ReceiveSwap) => decide (row.id = swapId) && row.claimTxId.isNone
  if db.receiveSwaps.rows.any guard then
    .ok (db.updateReceiveSwaps now guard fun s => { s with claimTxId := some claimTxId })
  else .error .alreadyClaimed

/-- Only unset the claim if it is the given one. -/
def unsetReceiveSwapClaimTxId (now : Nat) (swapId : SwapId) (claimTxId : TxId) (db : Db) : Db :=
  db.updateReceiveSwaps now
    (fun s => decide (s.id = swapId) && decide (s.claimTxId = some claimTxId))
    fun s => { s with claimTxId := none }

/-- `try_handle_receive_swap_update`; receive swaps have no synced fields to update. -/
def tryHandleReceiveSwapUpdate (now : Nat) (swapId : SwapId) (toState : PaymentState)
    (claimTxId lockupTxId mrhTxId : Option TxId) (mrhAmountSat : Option Nat) (db : Db) : Db :=
  db.updateReceiveSwaps now (·.id = swapId) fun s =>
    { s with
      claimTxId := s.claimTxId.or claimTxId
      lockupTxId := s.lockupTxId.or lockupTxId
      mrhTxId := s.mrhTxId.or mrhTxId
      payerAmountSat := mrhAmountSat.getD s.payerAmountSat
      receiverAmountSat := mrhAmountSat.getD s.receiverAmountSat
      state := toState }

/-! ## All swaps -/

/-- `fetch_swap_by_id`: the first of the three tables that has the id. -/
def fetchSwapById (db : Db) (id : SwapId) : Option Swap :=
  ((db.fetchSendSwapById id).map Swap.send).or <|
    ((db.fetchReceiveSwapById id).map Swap.receive).or ((db.fetchChainSwapById id).map Swap.chain)

/-- `insert_or_update_swap_inner`. -/
def insertOrUpdateSwapInner (now : Nat) : Swap → Db → Except Err Db
  | .receive s => insertOrUpdateReceiveSwapInner now s
  | .send s => insertOrUpdateSendSwapInner now s
  | .chain s => insertOrUpdateChainSwapInner now s

/-! ## Committing what was pulled -/

/-- `commit_incoming_swap`, one transaction. -/
def commitIncomingSwap (now : Nat) (swap : Swap) (syncState : SyncState)
    (lastCommitTime : Option Nat) (db : Db) : Except Err Db := do
  db.checkCommitUpdate syncState.recordId lastCommitTime
  let db ← db.insertOrUpdateSwapInner now swap
  return db.setSyncState syncState

/-- `commit_incoming_address_index`. The guard is that of the record; the index is written as it was pulled.
-/
def commitIncomingAddressIndex (p : Persister) (newAddressIndex : Nat) (syncState : SyncState)
    (lastCommitTime : Option Nat) (db : Db) : Except Err Db := do
  db.checkCommitUpdate
    (Record.getIdFromRecordType p.codec .lastDerivationIndex LAST_DERIVATION_INDEX_DATA_ID)
    lastCommitTime
  return ({ db with lastDerivationIndex := some newAddressIndex }).setSyncState syncState

/-- `commit_incoming_payment_details`. -/
def commitIncomingPaymentDetails (details : PaymentTxDetails) (syncState : SyncState)
    (lastCommitTime : Option Nat) (db : Db) : Except Err Db := do
  db.checkCommitUpdate syncState.recordId lastCommitTime
  return (db.insertOrUpdatePaymentDetailsInner details false).setSyncState syncState

/-- `commit_incoming_bolt12_offer`. -/
def commitIncomingBolt12Offer (offer : Bolt12Offer) (syncState : SyncState)
    (lastCommitTime : Option Nat) (db : Db) : Except Err Db := do
  db.checkCommitUpdate syncState.recordId lastCommitTime
  return (db.insertOrUpdateBolt12OfferInner offer).setSyncState syncState

/-! ## What a lookup finds after an update -/

section Lookup

/-- A row after an update: what the update sets, and the two triggers. -/
@[simp] theorem get?_updateChainSwaps (now : Nat) (p : ChainSwap → Bool) (g : ChainSwap → ChainSwap)
    (db : Db) (hg : ∀ s, (g s).id = s.id) (id : SwapId) :
    (db.updateChainSwaps now p g hg).chainSwaps.get? id =
      (db.chainSwaps.get? id).map fun s =>
        if p s then { g s with metadata := (g s).metadata.touch now } else s := by
  simp only [updateChainSwaps, Table.get?_updateWhere]

@[simp] theorem get?_updateSendSwaps (now : Nat) (p : SendSwap → Bool) (g : SendSwap → SendSwap)
    (db : Db) (hg : ∀ s, (g s).id = s.id) (id : SwapId) :
    (db.updateSendSwaps now p g hg).sendSwaps.get? id =
      (db.sendSwaps.get? id).map fun s =>
        if p s then { g s with metadata := (g s).metadata.touch now } else s := by
  simp only [updateSendSwaps, Table.get?_updateWhere]

@[simp] theorem get?_updateReceiveSwaps (now : Nat) (p : ReceiveSwap → Bool)
    (g : ReceiveSwap → ReceiveSwap) (db : Db) (hg : ∀ s, (g s).id = s.id) (id : SwapId) :
    (db.updateReceiveSwaps now p g hg).receiveSwaps.get? id =
      (db.receiveSwaps.get? id).map fun s =>
        if p s then { g s with metadata := (g s).metadata.touch now } else s := by
  simp only [updateReceiveSwaps, Table.get?_updateWhere]

/-- What a whole-row write leaves: an inserted row if there was none, the columns of the update where
the version is the one the caller read. -/
theorem get?_insertOrUpdateChainSwapInner {now : Nat} {s : ChainSwap} {db db' : Db}
    (h : db.insertOrUpdateChainSwapInner now s = .ok db') (id : SwapId) :
    db'.chainSwaps.get? id =
      ((db.chainSwaps.get? id).or (if s.id = id then some (chainSwapInsert s) else none)).map
        fun row => if row.id = s.id ∧ row.metadata.version = s.metadata.version
          then { chainSwapUpdate s row with metadata := row.metadata.touch now } else row := by
  unfold insertOrUpdateChainSwapInner at h
  dsimp only at h
  split at h
  · cases h
    refine (get?_updateChainSwaps now _ _ _ _ id).trans ?_
    rw [Table.get?_insertNew]
    congr 1
    funext row
    simp only [Bool.and_eq_true, decide_eq_true_eq]
    rfl
  · cases h

theorem get?_insertOrUpdateReceiveSwapInner {now : Nat} {s : ReceiveSwap} {db db' : Db}
    (h : db.insertOrUpdateReceiveSwapInner now s = .ok db') (id : SwapId) :
    db'.receiveSwaps.get? id =
      ((db.receiveSwaps.get? id).or (if s.id = id then some (receiveSwapInsert s) else none)).map
        fun row => if row.id = s.id ∧ row.metadata.version = s.metadata.version
          then { receiveSwapUpdate s row with metadata := row.metadata.touch now } else row := by
  have hupdated : ((({ db with receiveSwaps := db.receiveSwaps.insertNew (receiveSwapInsert s) } : Db).updateReceiveSwaps
      now (fun row => decide (row.id = s.id) && decide (row.metadata.version = s.metadata.version))
      (receiveSwapUpdate s)).receiveSwaps.get? id) = _ := get?_updateReceiveSwaps now _ _ _ _ id
  rw [Table.get?_insertNew] at hupdated
  simp only [Bool.and_eq_true, decide_eq_true_eq] at hupdated
  unfold insertOrUpdateReceiveSwapInner at h
  dsimp only at h
  split at h
  · cases h
    -- a reserved address is dropped from another table
    split
    · exact hupdated
    · exact hupdated
  · cases h

/-- A written swap was written by the guarded part; the commit does not touch the table. -/
theorem insertOrUpdateChainSwap_ok {p : Persister} {now : Nat} {maybeSwap : Option ChainSwap}
    {s : ChainSwap} {db db' : Db} (h : db.insertOrUpdateChainSwap p now maybeSwap s = .ok db') :
    ∃ db₁, db.insertOrUpdateChainSwapInner now s = .ok db₁ ∧ db'.chainSwaps = db₁.chainSwaps := by
  unfold insertOrUpdateChainSwap at h
  cases hinner : db.insertOrUpdateChainSwapInner now s with
  | error err => rw [hinner] at h; cases h
  | ok db₁ =>
      rw [hinner] at h
      cases h
      exact ⟨db₁, rfl, commitUpdatedFields_chainSwaps _ _ _ _ _ _⟩

/-- A whole-row write of a send swap over a row changes it where it is guarded by the row's version. -/
theorem get?_insertOrUpdateSendSwapInner {now : Nat} {s : SendSwap} {db db' : Db}
    (h : db.insertOrUpdateSendSwapInner now s = .ok db') {id : SwapId} {row : SendSwap}
    (hrow : db.sendSwaps.get? id = some row) :
    db'.sendSwaps.get? id = some (if row.id = s.id ∧ row.metadata.version = s.metadata.version
      then { sendSwapUpdate s row with metadata := row.metadata.touch now } else row) := by
  let guard := fun (row : SendSwap) =>
    decide (row.id = s.id) && decide (row.metadata.version = s.metadata.version)
  have hupdated : ∀ db₁ : Db, db₁.sendSwaps.get? id = some row →
      (db₁.updateSendSwaps now guard (sendSwapUpdate s)).sendSwaps.get? id =
        some (if row.id = s.id ∧ row.metadata.version = s.metadata.version
          then { sendSwapUpdate s row with metadata := row.metadata.touch now } else row) := by
    intro db₁ hrow₁
    refine (get?_updateSendSwaps now guard _ db₁ _ id).trans ((congrArg _ hrow₁).trans ?_)
    rw [Option.map_some]
    simp only [guard, Bool.and_eq_true, decide_eq_true_eq]
    rfl
  have hinserted : (db.sendSwaps.insertNew (sendSwapInsert s)).get? id = some row := by
    rw [Table.get?_insertNew, hrow]
    rfl
  unfold insertOrUpdateSendSwapInner at h
  dsimp only at h
  split at h
  · split at h
    · cases h
      exact hupdated db hrow
    · cases h
  · split at h
    · cases h
      exact hupdated { db with sendSwaps := db.sendSwaps.insertNew (sendSwapInsert s) } hinserted
    · cases h

/-- So it leaves the row, or the written swap over a row of its version. -/
theorem sendSwap_after_write {now : Nat} {s : SendSwap} {db db' : Db}
    (h : db.insertOrUpdateSendSwapInner now s = .ok db') {id : SwapId} {row : SendSwap}
    (hrow : db.sendSwaps.get? id = some row) :
    ∃ row', db'.sendSwaps.get? id = some row' ∧ (row' = row ∨
      row.id = s.id ∧ row.metadata.version = s.metadata.version ∧
        row' = { sendSwapUpdate s row with metadata := row.metadata.touch now }) := by
  refine ⟨_, get?_insertOrUpdateSendSwapInner h hrow, ?_⟩
  by_cases hguard : row.id = s.id ∧ row.metadata.version = s.metadata.version
  · rw [if_pos hguard]
    exact .inr ⟨hguard.1, hguard.2, rfl⟩
  · rw [if_neg hguard]
    exact .inl rfl

/-- A swap that is read is a row, but for whether it is local. -/
theorem fetchChainSwapById_eq_some {db : Db} {id : SwapId} {s : ChainSwap}
    (h : db.fetchChainSwapById id = some s) :
    ∃ row, db.chainSwaps.get? id = some row ∧ s = row.withIsLocal (db.isLocal row.id) := by
  obtain ⟨row, hrow, rfl⟩ := Option.map_eq_some_iff.mp h
  exact ⟨row, hrow, rfl⟩

theorem fetchSendSwapById_eq_some {db : Db} {id : SwapId} {s : SendSwap}
    (h : db.fetchSendSwapById id = some s) :
    ∃ row, db.sendSwaps.get? id = some row ∧ s = row.withIsLocal (db.isLocal row.id) := by
  obtain ⟨row, hrow, rfl⟩ := Option.map_eq_some_iff.mp h
  exact ⟨row, hrow, rfl⟩

theorem fetchReceiveSwapById_eq_some {db : Db} {id : SwapId} {s : ReceiveSwap}
    (h : db.fetchReceiveSwapById id = some s) :
    ∃ row, db.receiveSwaps.get? id = some row ∧ s = row.withIsLocal (db.isLocal row.id) := by
  obtain ⟨row, hrow, rfl⟩ := Option.map_eq_some_iff.mp h
  exact ⟨row, hrow, rfl⟩

/-- A listed swap is a row of the table. -/
theorem mem_listChainSwaps {db : Db} {s : ChainSwap} (h : s ∈ db.listChainSwaps) :
    ∃ row, db.chainSwaps.get? s.id = some row ∧ s = row.withIsLocal (db.isLocal row.id) := by
  obtain ⟨row, hrow, rfl⟩ := List.mem_map.mp h
  rw [orderByCreatedAt, List.mem_insertionSort] at hrow
  exact ⟨row, Table.get?_of_mem hrow, rfl⟩

/-- A listed swap is the row with its id. -/
theorem mem_listReceiveSwaps {db : Db} {s : ReceiveSwap} (h : s ∈ db.listReceiveSwaps) :
    ∃ row, db.receiveSwaps.get? s.id = some row ∧ s = row.withIsLocal (db.isLocal row.id) := by
  obtain ⟨row, hrow, rfl⟩ := List.mem_map.mp h
  rw [orderByCreatedAt, List.mem_insertionSort] at hrow
  exact ⟨row, Table.get?_of_mem hrow, rfl⟩

end Lookup

/-! ## What is loaded -/

/-- Loaded data is of the type it was asked for. -/
theorem loadSyncData_recordType {db : Db} {dataId : DataId} {recordType : RecordType} {data : SyncData}
    (h : db.loadSyncData dataId recordType = .ok data) : data.recordType = recordType := by
  cases recordType <;>
  · obtain ⟨a, -, rfl⟩ := okOr_map_eq_ok.mp h
    rfl

/-- Loaded data has the id it was asked for; there is only one derivation index. -/
theorem loadSyncData_id {db : Db} {dataId : DataId} {recordType : RecordType} {data : SyncData}
    (h : db.loadSyncData dataId recordType = .ok data) (hindex : recordType ≠ .lastDerivationIndex) :
    data.id = dataId := by
  cases recordType with
  | receive =>
      obtain ⟨s, hs, rfl⟩ := okOr_map_eq_ok.mp h
      obtain ⟨row, hrow, rfl⟩ := fetchReceiveSwapById_eq_some hs
      have hid : row.id = dataId := Table.get?_some_key hrow
      exact hid
  | send =>
      obtain ⟨s, hs, rfl⟩ := okOr_map_eq_ok.mp h
      obtain ⟨row, hrow, rfl⟩ := fetchSendSwapById_eq_some hs
      have hid : row.id = dataId := Table.get?_some_key hrow
      exact hid
  | chain =>
      obtain ⟨s, hs, rfl⟩ := okOr_map_eq_ok.mp h
      obtain ⟨row, hrow, rfl⟩ := fetchChainSwapById_eq_some hs
      have hid : row.id = dataId := Table.get?_some_key hrow
      exact hid
  | lastDerivationIndex => exact absurd rfl hindex
  | paymentDetails =>
      obtain ⟨details, hdetails, rfl⟩ := okOr_map_eq_ok.mp h
      have hkey : details.txId = dataId := Table.get?_some_key hdetails
      exact hkey
  | bolt12Offer =>
      obtain ⟨offer, hoffer, rfl⟩ := okOr_map_eq_ok.mp h
      have hkey : offer.id = dataId := Table.get?_some_key hoffer
      exact hkey

/-- What is loaded for a record is loaded again by its own id and kind. -/
theorem loadSyncData_self {db : Db} {dataId : DataId} {recordType : RecordType} {data : SyncData}
    (h : db.loadSyncData dataId recordType = .ok data) :
    db.loadSyncData data.id data.recordType = .ok data := by
  rw [loadSyncData_recordType h]
  by_cases hindex : recordType = .lastDerivationIndex
  · subst hindex
    exact h
  · rw [loadSyncData_id h hindex]
    exact h

end Db

end BreezLiquid
