/-
# BreezLiquid.Persist.Optimistic — optimistic locking of the swap rows.

Every method of the persister that writes swap rows is listed with the statements that it executes on the
three swap tables. A whole-row write of a swap that was fetched before succeeds exactly when none of the
statements since then has touched its row; committing an incoming swap also looks at its queued change.

The statements of a method depend on the database that it is executed on, since an insert of a send swap gives way to a
row with the same invoice. `Method.executed` says that a method that does not fail has executed its statements, and
`performAll_executed` the same of any number of methods in a row, those that fail leaving everything as it is. What a
row went through between a fetch and a write is then a list of statements, and `BreezLiquid.Lib.Versioned` says when
its version is still the one that was read.
-/
import BreezLiquid.Lib.Task
import BreezLiquid.Lib.Versioned
import BreezLiquid.Persist.Swaps

namespace BreezLiquid

open Tables Interleaving

/-! ## The methods -/

/-- The methods of the persister that write swap rows, and transactions that leave the swap tables alone. -/
inductive Method where
  | insertOrUpdateSendSwap (maybeSwap : Option SendSwap) (s : SendSwap)
  | updateSendSwapsByState (fromState toState : PaymentState) (isLocal : Option Bool)
  | tryHandleSendSwapUpdate (swapId : SwapId) (toState : PaymentState)
      (preimage lockupTxId refundTxId : Option String)
  | setSendSwapRefundAddress (swapId : SwapId) (refundAddress : Address)
  | setSendSwapLockupTxId (swapId : SwapId) (lockupTxId : TxId)
  | unsetSendSwapLockupTxId (swapId : SwapId) (lockupTxId : TxId)
  | insertOrUpdateReceiveSwap (maybeSwap : Option ReceiveSwap) (s : ReceiveSwap)
  | setReceiveSwapClaimAddress (swapId : SwapId) (claimAddress : Address)
  | setReceiveSwapClaimTxId (swapId : SwapId) (claimTxId : TxId)
  | unsetReceiveSwapClaimTxId (swapId : SwapId) (claimTxId : TxId)
  | tryHandleReceiveSwapUpdate (swapId : SwapId) (toState : PaymentState)
      (claimTxId lockupTxId mrhTxId : Option TxId) (mrhAmountSat : Option Nat)
  | insertOrUpdateChainSwap (maybeSwap : Option ChainSwap) (s : ChainSwap)
  | updateChainSwapAcceptZeroConf (swapId : SwapId) (acceptZeroConf : Bool)
  | updateActualPayerAmount (swapId : SwapId) (actualPayerAmountSat : Nat)
  | updateAcceptedReceiverAmount (swapId : SwapId) (acceptedReceiverAmountSat : Option Nat)
  | setChainSwapRefundAddress (swapId : SwapId) (refundAddress : Address)
  | setChainSwapAutoAcceptedFees (swapId : SwapId)
  | setChainSwapClaim (swapId : SwapId) (claimAddress : Option Address) (claimTxId : TxId)
  | unsetChainSwapClaimTxId (swapId : SwapId) (claimTxId : TxId)
  | tryHandleChainSwapUpdate (u : ChainSwapUpdate)
  | commitIncomingSwap (swap : Swap) (syncState : SyncState) (lastCommitTime : Option Nat)
  | other (f : Nat → Db → Except Err Db) (h : ∀ now db db', f now db = .ok db' →
      db'.sendSwaps = db.sendSwaps ∧ db'.receiveSwaps = db.receiveSwaps ∧ db'.chainSwaps = db.chainSwaps)

namespace Method

variable (p : Persister) (now : Nat)

/-- The transaction of the method. -/
def exec : Method → Db → Except Err Db
  | insertOrUpdateSendSwap maybeSwap s, db => db.insertOrUpdateSendSwap p now maybeSwap s
  | updateSendSwapsByState fromState toState isLocal, db =>
      .ok (db.updateSendSwapsByState now fromState toState isLocal)
  | tryHandleSendSwapUpdate swapId toState preimage lockupTxId refundTxId, db =>
      .ok (db.tryHandleSendSwapUpdate p now swapId toState preimage lockupTxId refundTxId)
  | setSendSwapRefundAddress swapId refundAddress, db =>
      .ok (db.setSendSwapRefundAddress now swapId refundAddress)
  | setSendSwapLockupTxId swapId lockupTxId, db => db.setSendSwapLockupTxId now swapId lockupTxId
  | unsetSendSwapLockupTxId swapId lockupTxId, db =>
      .ok (db.unsetSendSwapLockupTxId now swapId lockupTxId)
  | insertOrUpdateReceiveSwap maybeSwap s, db => db.insertOrUpdateReceiveSwap p now maybeSwap s
  | setReceiveSwapClaimAddress swapId claimAddress, db =>
      .ok (db.setReceiveSwapClaimAddress now swapId claimAddress)
  | setReceiveSwapClaimTxId swapId claimTxId, db => db.setReceiveSwapClaimTxId now swapId claimTxId
  | unsetReceiveSwapClaimTxId swapId claimTxId, db =>
      .ok (db.unsetReceiveSwapClaimTxId now swapId claimTxId)
  | tryHandleReceiveSwapUpdate swapId toState claimTxId lockupTxId mrhTxId mrhAmountSat, db =>
      .ok (db.tryHandleReceiveSwapUpdate now swapId toState claimTxId lockupTxId mrhTxId mrhAmountSat)
  | insertOrUpdateChainSwap maybeSwap s, db => db.insertOrUpdateChainSwap p now maybeSwap s
  | updateChainSwapAcceptZeroConf swapId acceptZeroConf, db =>
      .ok (db.updateChainSwapAcceptZeroConf p now swapId acceptZeroConf)
  | updateActualPayerAmount swapId actualPayerAmountSat, db =>
      .ok (db.updateActualPayerAmount now swapId actualPayerAmountSat)
  | updateAcceptedReceiverAmount swapId acceptedReceiverAmountSat, db =>
      .ok (db.updateAcceptedReceiverAmount p now swapId acceptedReceiverAmountSat)
  | setChainSwapRefundAddress swapId refundAddress, db =>
      .ok (db.setChainSwapRefundAddress now swapId refundAddress)
  | setChainSwapAutoAcceptedFees swapId, db => .ok (db.setChainSwapAutoAcceptedFees p now swapId)
  | setChainSwapClaim swapId claimAddress claimTxId, db =>
      db.setChainSwapClaim now swapId claimAddress claimTxId
  | unsetChainSwapClaimTxId swapId claimTxId, db =>
      .ok (db.unsetChainSwapClaimTxId now swapId claimTxId)
  | tryHandleChainSwapUpdate u, db => .ok (db.tryHandleChainSwapUpdate now u)
  | commitIncomingSwap swap syncState lastCommitTime, db =>
      db.commitIncomingSwap now swap syncState lastCommitTime
  | other f _, db => f now db

end Method

/-! ## Their statements -/

abbrev SendStatement := Statement SendSwap.id fun s => s.metadata.version
abbrev ReceiveStatement := Statement ReceiveSwap.id fun s => s.metadata.version
abbrev ChainStatement := Statement ChainSwap.id fun s => s.metadata.version

/-- `UPDATE send_swaps SET g WHERE p`, triggers included. -/
def updateSend (now : Nat) (p : SendSwap → Bool) (g : SendSwap → SendSwap)
    (hg : ∀ s, (g s).id = s.id ∧ (g s).metadata = s.metadata := by intro _; exact ⟨rfl, rfl⟩) :
    SendStatement :=
  .update p (fun s => { g s with metadata := (g s).metadata.touch now }) (fun s => (hg s).1)
    (by
      intro s
      show s.metadata.version < (g s).metadata.version + 2
      rw [(hg s).2]
      omega)

def updateReceive (now : Nat) (p : ReceiveSwap → Bool) (g : ReceiveSwap → ReceiveSwap)
    (hg : ∀ s, (g s).id = s.id ∧ (g s).metadata = s.metadata := by intro _; exact ⟨rfl, rfl⟩) :
    ReceiveStatement :=
  .update p (fun s => { g s with metadata := (g s).metadata.touch now }) (fun s => (hg s).1)
    (by
      intro s
      show s.metadata.version < (g s).metadata.version + 2
      rw [(hg s).2]
      omega)

def updateChain (now : Nat) (p : ChainSwap → Bool) (g : ChainSwap → ChainSwap)
    (hg : ∀ s, (g s).id = s.id ∧ (g s).metadata = s.metadata := by intro _; exact ⟨rfl, rfl⟩) :
    ChainStatement :=
  .update p (fun s => { g s with metadata := (g s).metadata.touch now }) (fun s => (hg s).1)
    (by
      intro s
      show s.metadata.version < (g s).metadata.version + 2
      rw [(hg s).2]
      omega)

/-- What a method executes on each of the swap tables. -/
structure Statements where
  send : List SendStatement := []
  receive : List ReceiveStatement := []
  chain : List ChainStatement := []

/-- The statements of `insert_or_update_send_swap_inner`: the insert gives way to a row with the id or the
invoice. -/
def wholeSend (now : Nat) (s : SendSwap) (db : Db) : List SendStatement :=
  (if db.sendSwaps.rows.any fun row => row.invoice = s.invoice then [] else [.insert (Db.sendSwapInsert s)]) ++
    [updateSend now
      (fun row => decide (row.id = s.id) && decide (row.metadata.version = s.metadata.version))
      (Db.sendSwapUpdate s)]

def wholeReceive (now : Nat) (s : ReceiveSwap) : List ReceiveStatement :=
  [.insert (Db.receiveSwapInsert s), updateReceive now
    (fun row => decide (row.id = s.id) && decide (row.metadata.version = s.metadata.version))
    (Db.receiveSwapUpdate s)]

def wholeChain (now : Nat) (s : ChainSwap) : List ChainStatement :=
  [.insert (Db.chainSwapInsert s), updateChain now
    (fun row => decide (row.id = s.id) && decide (row.metadata.version = s.metadata.version))
    (Db.chainSwapUpdate s)]

/-- The statements of a method that does not fail. -/
def Method.statements (now : Nat) : Method → Db → Statements
  | insertOrUpdateSendSwap _ s, db => { send := wholeSend now s db }
  | updateSendSwapsByState fromState toState isLocal, db =>
      { send := [updateSend now
          (fun s => decide (s.state = fromState) &&
            match isLocal with | some isLocal => db.isLocal s.id == isLocal | none => true)
          fun s => { s with state := toState }] }
  | tryHandleSendSwapUpdate swapId toState preimage lockupTxId refundTxId, _ =>
      { send := [updateSend now (·.id = swapId) fun s =>
          { s with
            preimage := s.preimage.or preimage
            lockupTxId := s.lockupTxId.or lockupTxId
            refundTxId := s.refundTxId.or refundTxId
            state := toState }] }
  | setSendSwapRefundAddress swapId refundAddress, _ =>
      { send := [updateSend now (·.id = swapId) fun s => { s with refundAddress := some refundAddress }] }
  | setSendSwapLockupTxId swapId lockupTxId, _ =>
      { send := [updateSend now (fun row => decide (row.id = swapId) && row.lockupTxId.isNone)
          fun s => { s with lockupTxId := some lockupTxId }] }
  | unsetSendSwapLockupTxId swapId lockupTxId, _ =>
      { send := [updateSend now
          (fun s => decide (s.id = swapId) && decide (s.lockupTxId = some lockupTxId))
          fun s => { s with lockupTxId := none }] }
  | insertOrUpdateReceiveSwap _ s, _ => { receive := wholeReceive now s }
  | setReceiveSwapClaimAddress swapId claimAddress, _ =>
      { receive := [updateReceive now (·.id = swapId) fun s => { s with claimAddress := some claimAddress }] }
  | setReceiveSwapClaimTxId swapId claimTxId, _ =>
      { receive := [updateReceive now (fun row => decide (row.id = swapId) && row.claimTxId.isNone)
          fun s => { s with claimTxId := some claimTxId }] }
  | unsetReceiveSwapClaimTxId swapId claimTxId, _ =>
      { receive := [updateReceive now
          (fun s => decide (s.id = swapId) && decide (s.claimTxId = some claimTxId))
          fun s => { s with claimTxId := none }] }
  | tryHandleReceiveSwapUpdate swapId toState claimTxId lockupTxId mrhTxId mrhAmountSat, _ =>
      { receive := [updateReceive now (·.id = swapId) fun s =>
          { s with
            claimTxId := s.claimTxId.or claimTxId
            lockupTxId := s.lockupTxId.or lockupTxId
            mrhTxId := s.mrhTxId.or mrhTxId
            payerAmountSat := mrhAmountSat.getD s.payerAmountSat
            receiverAmountSat := mrhAmountSat.getD s.receiverAmountSat
            state := toState }] }
  | insertOrUpdateChainSwap _ s, _ => { chain := wholeChain now s }
  | updateChainSwapAcceptZeroConf swapId acceptZeroConf, _ =>
      { chain := [updateChain now (·.id = swapId) fun s => { s with acceptZeroConf }] }
  | updateActualPayerAmount swapId actualPayerAmountSat, _ =>
      { chain := [updateChain now (·.id = swapId) fun s =>
          { s with actualPayerAmountSat := some actualPayerAmountSat }] }
  | updateAcceptedReceiverAmount swapId acceptedReceiverAmountSat, _ =>
      { chain := [updateChain now (·.id = swapId) fun s => { s with acceptedReceiverAmountSat }] }
  | setChainSwapRefundAddress swapId refundAddress, _ =>
      { chain := [updateChain now (·.id = swapId) fun s => { s with refundAddress := some refundAddress }] }
  | setChainSwapAutoAcceptedFees swapId, _ =>
      { chain := [updateChain now (·.id = swapId) fun s => { s with autoAcceptedFees := true }] }
  | setChainSwapClaim swapId claimAddress claimTxId, _ =>
      { chain := [updateChain now (fun row => decide (row.id = swapId) && row.claimTxId.isNone)
          fun s => { s with claimAddress, claimTxId := some claimTxId }] }
  | unsetChainSwapClaimTxId swapId claimTxId, _ =>
      { chain := [updateChain now
          (fun s => decide (s.id = swapId) && decide (s.claimTxId = some claimTxId))
          fun s => { s with claimTxId := none }] }
  | tryHandleChainSwapUpdate u, _ =>
      { chain := [updateChain now (·.id = u.swapId) fun s =>
          { s with
            serverLockupTxId := s.serverLockupTxId.or u.serverLockupTxId
            userLockupTxId := s.userLockupTxId.or u.userLockupTxId
            claimAddress := s.claimAddress.or u.claimAddress
            claimTxId := s.claimTxId.or u.claimTxId
            refundTxId := u.refundTxId.or s.refundTxId
            state := u.toState }] }
  | commitIncomingSwap (.send s) _ _, db => { send := wholeSend now s db }
  | commitIncomingSwap (.receive s) _ _, _ => { receive := wholeReceive now s }
  | commitIncomingSwap (.chain s) _ _, _ => { chain := wholeChain now s }
  | other _ _, _ => {}

/-! ## Methods execute their statements -/

section Exec

variable {p : Persister} {now : Nat} {db db' : Db}

/-- The swap tables after statements. -/
def Executed (statements : Statements) (db db' : Db) : Prop :=
  db'.sendSwaps = Statement.execAll statements.send db.sendSwaps ∧
    db'.receiveSwaps = Statement.execAll statements.receive db.receiveSwaps ∧
    db'.chainSwaps = Statement.execAll statements.chain db.chainSwaps

theorem executed_wholeSend {s : SendSwap} (h : db.insertOrUpdateSendSwapInner now s = .ok db') :
    Executed { send := wholeSend now s db } db db' := by
  unfold Db.insertOrUpdateSendSwapInner at h
  dsimp only at h
  unfold Executed wholeSend
  split at h
  · rename_i hinvoice
    split at h
    · cases h
      rw [if_pos hinvoice]
      exact ⟨rfl, rfl, rfl⟩
    · cases h
  · rename_i hinvoice
    split at h
    · cases h
      rw [if_neg hinvoice]
      exact ⟨rfl, rfl, rfl⟩
    · cases h

theorem executed_wholeReceive {s : ReceiveSwap} (h : db.insertOrUpdateReceiveSwapInner now s = .ok db') :
    Executed { receive := wholeReceive now s } db db' := by
  unfold Db.insertOrUpdateReceiveSwapInner at h
  dsimp only at h
  split at h
  · cases h
    split
    · exact ⟨rfl, rfl, rfl⟩
    · exact ⟨rfl, rfl, rfl⟩
  · cases h

theorem executed_wholeChain {s : ChainSwap} (h : db.insertOrUpdateChainSwapInner now s = .ok db') :
    Executed { chain := wholeChain now s } db db' := by
  unfold Db.insertOrUpdateChainSwapInner at h
  dsimp only at h
  split at h
  · cases h
    exact ⟨rfl, rfl, rfl⟩
  · cases h

/-- Queueing a change leaves the swap tables alone. -/
theorem Executed.commitUpdatedFields {statements : Statements} (h : Executed statements db db')
    (dataId : DataId) (recordType : RecordType) (updatedFields : Option (List String)) :
    Executed statements db (db'.commitUpdatedFields p now dataId recordType updatedFields) := by
  unfold Executed
  rw [Db.commitUpdatedFields_sendSwaps, Db.commitUpdatedFields_receiveSwaps, Db.commitUpdatedFields_chainSwaps]
  exact h

theorem Executed.commitOutgoing {statements : Statements} (db₁ : Db) (h : Executed statements db db₁)
    (dataId : DataId) (recordType : RecordType) (updatedFields : Option (List String)) :
    Executed statements db (db₁.commitOutgoing p now dataId recordType updatedFields) := by
  unfold Executed
  rw [Db.commitOutgoing_sendSwaps, Db.commitOutgoing_receiveSwaps, Db.commitOutgoing_chainSwaps]
  exact h

/-- A method that does not fail has executed its statements. -/
theorem Method.executed {m : Method} (h : m.exec p now db = .ok db') :
    Executed (m.statements now db) db db' := by
  cases m with
  -- the whole rows, whose change is queued afterwards, in a table of its own
  | insertOrUpdateSendSwap maybeSwap s =>
      obtain ⟨db₁, hinner, h⟩ := except_bind_eq_ok.mp h
      cases h
      exact (executed_wholeSend hinner).commitUpdatedFields ..
  | insertOrUpdateReceiveSwap maybeSwap s =>
      obtain ⟨db₁, hinner, h⟩ := except_bind_eq_ok.mp h
      cases h
      exact (executed_wholeReceive hinner).commitUpdatedFields ..
  | insertOrUpdateChainSwap maybeSwap s =>
      obtain ⟨db₁, hinner, h⟩ := except_bind_eq_ok.mp h
      cases h
      exact (executed_wholeChain hinner).commitUpdatedFields ..
  | commitIncomingSwap swap syncState lastCommitTime =>
      obtain ⟨_, -, h⟩ := except_bind_eq_ok.mp h
      obtain ⟨db₁, hinner, h⟩ := except_bind_eq_ok.mp h
      cases h
      cases swap with
      | send s =>
          have hexecuted : Executed _ db db₁ := executed_wholeSend hinner
          exact hexecuted
      | receive s =>
          have hexecuted : Executed _ db db₁ := executed_wholeReceive hinner
          exact hexecuted
      | chain s =>
          have hexecuted : Executed _ db db₁ := executed_wholeChain hinner
          exact hexecuted
  -- the setters that may fail: without an error the guard was met
  | setSendSwapLockupTxId swapId lockupTxId =>
      unfold Method.exec Db.setSendSwapLockupTxId at h
      dsimp only at h
      split at h
      · cases h
        exact ⟨rfl, rfl, rfl⟩
      · cases h
  | setReceiveSwapClaimTxId swapId claimTxId =>
      unfold Method.exec Db.setReceiveSwapClaimTxId at h
      dsimp only at h
      split at h
      · cases h
        exact ⟨rfl, rfl, rfl⟩
      · cases h
  | setChainSwapClaim swapId claimAddress claimTxId =>
      unfold Method.exec Db.setChainSwapClaim at h
      dsimp only at h
      split at h
      · cases h
        exact ⟨rfl, rfl, rfl⟩
      · cases h
  | other f hf => exact hf now db db' h
  -- single columns
  | tryHandleSendSwapUpdate swapId toState preimage lockupTxId refundTxId =>
      cases h
      exact Executed.commitOutgoing (db.updateSendSwaps now _ _) ⟨rfl, rfl, rfl⟩ ..
  | updateChainSwapAcceptZeroConf swapId acceptZeroConf =>
      cases h
      exact Executed.commitOutgoing (db.updateChainSwaps now _ _) ⟨rfl, rfl, rfl⟩ ..
  | updateAcceptedReceiverAmount swapId acceptedReceiverAmountSat =>
      cases h
      exact Executed.commitOutgoing (db.updateChainSwaps now _ _) ⟨rfl, rfl, rfl⟩ ..
  | setChainSwapAutoAcceptedFees swapId =>
      cases h
      exact Executed.commitOutgoing (db.updateChainSwaps now _ _) ⟨rfl, rfl, rfl⟩ ..
  | _ =>
      cases h
      exact ⟨rfl, rfl, rfl⟩

end Exec

/-! ## Runs of transactions -/

/-- A transaction at some time; when it fails, it is rolled back. -/
def Db.perform (p : Persister) (db : Db) (call : Nat × Method) : Db :=
  match call.2.exec p call.1 db with
  | .ok db' => db'
  | .error _ => db

def Db.performAll (p : Persister) (db : Db) (l : List (Nat × Method)) : Db := l.foldl (Db.perform p) db

def Statements.append (x y : Statements) : Statements where
  send := x.send ++ y.send
  receive := x.receive ++ y.receive
  chain := x.chain ++ y.chain

/-- What the transactions that do not fail execute. -/
def executedStatements (p : Persister) : List (Nat × Method) → Db → Statements
  | [], _ => {}
  | (now, m) :: l, db =>
      match m.exec p now db with
      | .ok db' => (m.statements now db).append (executedStatements p l db')
      | .error _ => executedStatements p l db

theorem Executed.append {x y : Statements} {db db' db'' : Db} (h : Executed x db db') (h' : Executed y db' db'') :
    Executed (x.append y) db db'' := by
  obtain ⟨hsend, hreceive, hchain⟩ := h
  obtain ⟨hsend', hreceive', hchain'⟩ := h'
  refine ⟨?_, ?_, ?_⟩
  · rw [hsend', hsend]
    exact (Statement.execAll_append ..).symm
  · rw [hreceive', hreceive]
    exact (Statement.execAll_append ..).symm
  · rw [hchain', hchain]
    exact (Statement.execAll_append ..).symm

theorem performAll_executed (p : Persister) (l : List (Nat × Method)) (db : Db) :
    Executed (executedStatements p l db) db (db.performAll p l) := by
  induction l generalizing db with
  | nil => exact ⟨rfl, rfl, rfl⟩
  | cons call l ih =>
      obtain ⟨now, m⟩ := call
      have hrest := ih (db.perform p (now, m))
      show Executed _ db ((db.perform p (now, m)).performAll p l)
      unfold executedStatements
      cases hexec : m.exec p now db with
      | ok db' =>
          have hdb : db.perform p (now, m) = db' := by
            unfold Db.perform
            rw [hexec]
          rw [hdb] at hrest ⊢
          exact (Method.executed hexec).append hrest
      | error err =>
          have hdb : db.perform p (now, m) = db := by
            unfold Db.perform
            rw [hexec]
          rw [hdb] at hrest ⊢
          exact hrest

/-! ## Whole-row writes -/

/-- The swap as a fetch returns it. -/
def Fetched (db : Db) : Swap → Prop
  | .send s => db.fetchSendSwapById s.id = some s
  | .receive s => db.fetchReceiveSwapById s.id = some s
  | .chain s => db.fetchChainSwapById s.id = some s

/-- Some other contents for the row and the version of a swap. -/
def SameRow (s s' : Swap) : Prop :=
  s'.recordType = s.recordType ∧ s'.id = s.id ∧ s'.version = s.version

/-- One of the transactions has written to the row of the swap. -/
def Touched (p : Persister) (l : List (Nat × Method)) (db : Db) : Swap → Prop
  | .send s => Statement.Touches (executedStatements p l db).send db.sendSwaps s.id
  | .receive s => Statement.Touches (executedStatements p l db).receive db.receiveSwaps s.id
  | .chain s => Statement.Touches (executedStatements p l db).chain db.chainSwaps s.id

/-- The row of the swap is the same. -/
def RowKept (db db' : Db) : Swap → Prop
  | .send s => db'.sendSwaps.get? s.id = db.sendSwaps.get? s.id
  | .receive s => db'.receiveSwaps.get? s.id = db.receiveSwaps.get? s.id
  | .chain s => db'.chainSwaps.get? s.id = db.chainSwaps.get? s.id

/-- `insert_or_update_{send,receive,chain}_swap`, where the swap is fetched again from `read` for its updated
fields. -/
def Db.insertOrUpdateSwap (p : Persister) (now : Nat) (read : Db) : Swap → Db → Except Err Db
  | .send s, db => db.insertOrUpdateSendSwap p now (read.fetchSendSwapById s.id) s
  | .receive s, db => db.insertOrUpdateReceiveSwap p now (read.fetchReceiveSwapById s.id) s
  | .chain s, db => db.insertOrUpdateChainSwap p now (read.fetchChainSwapById s.id) s

def Succeeds (x : Except Err Db) : Prop := ∃ db, x = .ok db

/-- The row has the version of the swap. -/
def Current (db : Db) : Swap → Prop
  | .send s => Statement.IsCurrent (fun s => s.metadata.version) db.sendSwaps s.id s.metadata.version
  | .receive s => Statement.IsCurrent (fun s => s.metadata.version) db.receiveSwaps s.id s.metadata.version
  | .chain s => Statement.IsCurrent (fun s => s.metadata.version) db.chainSwaps s.id s.metadata.version

theorem succeeds_bind_ok {x : Except Err Db} {f : Db → Db} : Succeeds (x >>= fun db => .ok (f db)) ↔ Succeeds x := by
  constructor
  · rintro ⟨db, h⟩
    obtain ⟨db₁, h₁, -⟩ := except_bind_eq_ok.mp h
    exact ⟨db₁, h₁⟩
  · rintro ⟨db, h⟩
    exact ⟨f db, except_bind_eq_ok.mpr ⟨db, h, rfl⟩⟩

theorem succeeds_ite {c : Prop} [Decidable c] {db : Db} {err : Err} :
    Succeeds (if c then .ok db else .error err) ↔ c := by
  by_cases hc : c
  · rw [if_pos hc]
    exact ⟨fun _ => hc, fun _ => ⟨db, rfl⟩⟩
  · rw [if_neg hc]
    refine ⟨?_, fun h => absurd h hc⟩
    rintro ⟨db', h⟩
    cases h

/-- There is a row for the swap. -/
def HasRow (db : Db) : Swap → Prop
  | .send s => (db.sendSwaps.get? s.id).isSome
  | .receive s => (db.receiveSwaps.get? s.id).isSome
  | .chain s => (db.chainSwaps.get? s.id).isSome

/-- A whole-row write over a row succeeds exactly when it knows the version. -/
theorem succeeds_inner_iff {now : Nat} {db : Db} {s : Swap} (h : HasRow db s) :
    Succeeds (db.insertOrUpdateSwapInner now s) ↔ Current db s := by
  cases s with
  | send s =>
      obtain ⟨row, hrow⟩ := Option.isSome_iff_exists.mp h
      have hinserted : ∀ t : Table SendSwap.id, (t = db.sendSwaps ∨ t = db.sendSwaps.insertNew (Db.sendSwapInsert s)) →
          (Statement.IsCurrent (fun s => s.metadata.version) t s.id s.metadata.version ↔ Current db (.send s)) := by
        rintro t (rfl | rfl)
        · exact Iff.rfl
        · exact Statement.isCurrent_insertNew hrow _
      show Succeeds (db.insertOrUpdateSendSwapInner now s) ↔ _
      unfold Db.insertOrUpdateSendSwapInner
      dsimp only
      rw [succeeds_ite]
      refine Statement.isCurrent_iff_any.symm.trans (hinserted _ ?_)
      split
      · exact .inl rfl
      · exact .inr rfl
  | receive s =>
      obtain ⟨row, hrow⟩ := Option.isSome_iff_exists.mp h
      show Succeeds (db.insertOrUpdateReceiveSwapInner now s) ↔ _
      unfold Db.insertOrUpdateReceiveSwapInner
      dsimp only
      rw [succeeds_ite]
      exact Statement.isCurrent_iff_any.symm.trans (Statement.isCurrent_insertNew hrow _)
  | chain s =>
      obtain ⟨row, hrow⟩ := Option.isSome_iff_exists.mp h
      show Succeeds (db.insertOrUpdateChainSwapInner now s) ↔ _
      unfold Db.insertOrUpdateChainSwapInner
      dsimp only
      rw [succeeds_ite]
      exact Statement.isCurrent_iff_any.symm.trans (Statement.isCurrent_insertNew hrow _)

/-! ## Writing a swap that was fetched before -/

section FullWrite

variable {p : Persister} {l : List (Nat × Method)} {db : Db} {s s' : Swap}

/-- A fetched swap has the version of its row. After the transactions the row is there still, and the version
is current exactly when none of them has touched it; then it is the same row. -/
theorem row_of_fetched (hfetched : Fetched db s) (hsame : SameRow s s') :
    HasRow (db.performAll p l) s' ∧ (Current (db.performAll p l) s' ↔ ¬ Touched p l db s) ∧
      (¬ Touched p l db s → RowKept db (db.performAll p l) s) := by
  obtain ⟨hsend, hreceive, hchain⟩ := performAll_executed p l db
  obtain ⟨htype, hid, hversion⟩ := hsame
  cases s with
  | send s =>
      obtain ⟨row, hrow, hs⟩ := Db.fetchSendSwapById_eq_some hfetched
      have hlocal : s.metadata.version = row.metadata.version := by
        rw [hs]
        rfl
      cases s' with
      | send s' =>
          exact Statement.row_after _ hsend hrow hid (Eq.trans hversion hlocal)
      | receive s' => cases htype
      | chain s' => cases htype
  | receive s =>
      obtain ⟨row, hrow, hs⟩ := Db.fetchReceiveSwapById_eq_some hfetched
      have hlocal : s.metadata.version = row.metadata.version := by
        rw [hs]
        rfl
      cases s' with
      | receive s' =>
          exact Statement.row_after _ hreceive hrow hid (Eq.trans hversion hlocal)
      | send s' => cases htype
      | chain s' => cases htype
  | chain s =>
      obtain ⟨row, hrow, hs⟩ := Db.fetchChainSwapById_eq_some hfetched
      have hlocal : s.metadata.version = row.metadata.version := by
        rw [hs]
        rfl
      cases s' with
      | chain s' =>
          exact Statement.row_after _ hchain hrow hid (Eq.trans hversion hlocal)
      | send s' => cases htype
      | receive s' => cases htype

/-- `insert_or_update_*_swap` is its inner write, and then only queues the change. -/
theorem succeeds_insertOrUpdateSwap {now : Nat} {read : Db} :
    Succeeds (Db.insertOrUpdateSwap p now read s db) ↔ Succeeds (db.insertOrUpdateSwapInner now s) := by
  cases s with
  | send s => exact succeeds_bind_ok
  | receive s => exact succeeds_bind_ok
  | chain s => exact succeeds_bind_ok

/-- `commit_incoming_swap` looks at the queued change first. -/
theorem succeeds_commitIncomingSwap {now : Nat} {syncState : SyncState} {lastCommitTime : Option Nat} :
    Succeeds (db.commitIncomingSwap now s syncState lastCommitTime) ↔
      db.checkCommitUpdate syncState.recordId lastCommitTime = .ok () ∧
        Succeeds (db.insertOrUpdateSwapInner now s) := by
  unfold Db.commitIncomingSwap
  cases hcheck : db.checkCommitUpdate syncState.recordId lastCommitTime with
  | ok _ =>
      show Succeeds (db.insertOrUpdateSwapInner now s >>= fun db => .ok (db.setSyncState syncState)) ↔ _
      rw [succeeds_bind_ok]
      exact ⟨fun h => ⟨rfl, h⟩, fun h => h.2⟩
  | error err =>
      constructor
      · rintro ⟨db', h⟩
        cases h
      · rintro ⟨h, -⟩
        cases h

end FullWrite

/-- A full-row write of a fetched swap, with whatever contents, succeeds exactly when no transaction since the
fetch has touched the row, and then over the very row that was fetched; committing an incoming swap moreover
wants no queued change that is newer than the last commit time it is given. A transaction that fails changes
nothing. -/
theorem fullWrite_iff (p : Persister) (l : List (Nat × Method)) (db : Db) (s s' : Swap)
    (hfetched : Fetched db s) (hsame : SameRow s s') :
    (∀ now read, Succeeds (Db.insertOrUpdateSwap p now read s' (db.performAll p l)) ↔
      ¬ Touched p l db s) ∧
    (∀ now syncState lastCommitTime,
      Succeeds ((db.performAll p l).commitIncomingSwap now s' syncState lastCommitTime) ↔
        ¬ Touched p l db s ∧
          (db.performAll p l).checkCommitUpdate syncState.recordId lastCommitTime = .ok ()) ∧
    (¬ Touched p l db s → RowKept db (db.performAll p l) s) ∧
    ∀ now m db₁, ¬ Succeeds (Method.exec p now m db₁) → db₁.perform p (now, m) = db₁ := by
  obtain ⟨hrow, hcurrent, hkept⟩ := row_of_fetched (p := p) (l := l) hfetched hsame
  refine ⟨?_, ?_, hkept, ?_⟩
  · intro now read
    rw [succeeds_insertOrUpdateSwap, succeeds_inner_iff hrow, hcurrent]
  · intro now syncState lastCommitTime
    rw [succeeds_commitIncomingSwap, succeeds_inner_iff hrow, hcurrent]
    exact And.comm
  · intro now m db₁ hfails
    unfold Db.perform
    cases hexec : m.exec p now db₁ with
    | ok db₂ => exact absurd ⟨db₂, hexec⟩ hfails
    | error err => rfl

/-! ## A change that is queued while its record is pulled -/

def persister : Persister := { codec := .table fun _ => none }

/-- A swap that was created at time 3. -/
def createdDb : Db :=
  ({} : Db).perform persister (3, .insertOrUpdateChainSwap none { id := "s", direction := .incoming })

/-- It is changed at time 5, after its record was looked up among the outgoing changes. -/
def changedDb : Db := createdDb.perform persister (5, .updateChainSwapAcceptZeroConf "s" true)

/-- The swap, read after the change. -/
def readSwap : ChainSwap where
  id := "s"
  direction := .incoming
  acceptZeroConf := true
  metadata := { version := 4, lastUpdatedAt := 5, isLocal := true }

/-- A later setter of the claim touches the row, and both whole-row writes fail. -/
theorem fullWrite_iff_setClaim :
    let after := changedDb.performAll persister [(6, .setChainSwapClaim "s" none "c")]
    (∀ now read, ¬ Succeeds (Db.insertOrUpdateSwap persister now read (.chain readSwap) after)) ∧
      ∀ now syncState lastCommitTime,
        ¬ Succeeds (after.commitIncomingSwap now (.chain readSwap) syncState lastCommitTime) := by
  have hfetched : Fetched changedDb (.chain readSwap) := by
    show changedDb.fetchChainSwapById "s" = some readSwap
    decide +kernel
  obtain ⟨hwrite, hincoming, -, -⟩ := fullWrite_iff persister [(6, .setChainSwapClaim "s" none "c")] changedDb
    (.chain readSwap) (.chain readSwap) hfetched ⟨rfl, rfl, rfl⟩
  have htouched : Touched persister [(6, .setChainSwapClaim "s" none "c")] changedDb (.chain readSwap) :=
    .inl ⟨{ readSwap with metadata := { version := 4, lastUpdatedAt := 5 } }, by decide +kernel, rfl⟩
  refine ⟨?_, ?_⟩
  · intro now read h
    exact (hwrite now read).mp h htouched
  · intro now syncState lastCommitTime h
    exact ((hincoming now syncState lastCommitTime).mp h).1 htouched

/-- Nothing has touched the row since it was read, but committing the pulled swap fails. -/
theorem fullWrite_queuedChange : ¬ ∀ (p : Persister) (l : List (Nat × Method)) (db : Db) (s s' : Swap),
    Fetched db s → SameRow s s' → ∀ now syncState lastCommitTime,
      Succeeds ((db.performAll p l).commitIncomingSwap now s' syncState lastCommitTime) ↔
        ¬ Touched p l db s := by
  intro h
  have hfetched : Fetched changedDb (.chain readSwap) := by
    show changedDb.fetchChainSwapById "s" = some readSwap
    decide +kernel
  obtain ⟨db, hcommit⟩ := (h persister [] changedDb (.chain readSwap) (.chain readSwap) hfetched ⟨rfl, rfl, rfl⟩
    6 { dataId := "s", recordId := "chain-swap:s", recordRevision := 1, isLocal := true } (some 3)).mpr id
  obtain ⟨hcheck, -⟩ := succeeds_commitIncomingSwap.mp ⟨db, hcommit⟩
  have hfails : (changedDb.checkCommitUpdate "chain-swap:s" (some 3)).isOk = false := by
    decide +kernel
  rw [show changedDb.checkCommitUpdate "chain-swap:s" (some 3) = .ok () from hcheck] at hfails
  cases hfails

end BreezLiquid
