/-
# BreezLiquid.Persist.Terms — what no transaction changes of a swap.

A swap is claimed and refunded with the keys, the preimage and the create response that its row was inserted with.
No method of the persister deletes a row of a swap table, and none updates these columns. So whatever the tasks of
the SDK write, and however they interleave, the scripts of a swap stay the ones it was created for.
-/
import BreezLiquid.Persist.Optimistic

namespace BreezLiquid

open Tables Interleaving

/-! ## The terms of a swap -/

/-- The columns that the insert sets and no update does. -/
def SendSwap.terms (s : SendSwap) : SendSwap := { Db.sendSwapInsert s with state := .created }

/-- The amounts are not among them: a direct payment to the address of the invoice replaces them. -/
def ReceiveSwap.terms (s : ReceiveSwap) : ReceiveSwap :=
  { Db.receiveSwapInsert s with payerAmountSat := 0, receiverAmountSat := 0, state := .created }

def ChainSwap.terms (s : ChainSwap) : ChainSwap :=
  { Db.chainSwapInsert s with acceptZeroConf := false, state := .created }

section Scripts

variable (bz : BoltzClient)

/-- The scripts depend on the terms only. -/
theorem SendSwap.getSwapScript_terms (s : SendSwap) : s.terms.getSwapScript bz = s.getSwapScript bz := rfl

theorem ReceiveSwap.getSwapScript_terms (s : ReceiveSwap) : s.terms.getSwapScript bz = s.getSwapScript bz := rfl

theorem ChainSwap.getClaimSwapScript_terms (s : ChainSwap) :
    s.terms.getClaimSwapScript bz = s.getClaimSwapScript bz := rfl

theorem ChainSwap.getLockupSwapScript_terms (s : ChainSwap) :
    s.terms.getLockupSwapScript bz = s.getLockupSwapScript bz := rfl

end Scripts

/-! ## Statements keep them -/

/-- The statements leave the terms of the rows. -/
structure Statements.KeepTerms (statements : Statements) : Prop where
  send : ∀ statement ∈ statements.send, statement.Respects fun s s' : SendSwap => s'.terms = s.terms
  receive : ∀ statement ∈ statements.receive, statement.Respects fun s s' : ReceiveSwap => s'.terms = s.terms
  chain : ∀ statement ∈ statements.chain, statement.Respects fun s s' : ChainSwap => s'.terms = s.terms

namespace Statements

theorem keepTerms_nil : ({} : Statements).KeepTerms := by
  refine ⟨?_, ?_, ?_⟩
  · intro statement hmem
    exact (List.not_mem_nil hmem).elim
  · intro statement hmem
    exact (List.not_mem_nil hmem).elim
  · intro statement hmem
    exact (List.not_mem_nil hmem).elim

/-- Statements that keep the terms, one after the other. -/
theorem KeepTerms.append {x y : Statements} (hx : x.KeepTerms) (hy : y.KeepTerms) : (x.append y).KeepTerms := by
  refine ⟨?_, ?_, ?_⟩
  · intro statement hmem
    exact (List.mem_append.mp hmem).elim (hx.send statement) (hy.send statement)
  · intro statement hmem
    exact (List.mem_append.mp hmem).elim (hx.receive statement) (hy.receive statement)
  · intro statement hmem
    exact (List.mem_append.mp hmem).elim (hx.chain statement) (hy.chain statement)

/-- Statements on the table of the send swaps alone. -/
theorem keepTerms_send {l : List SendStatement}
    (h : ∀ statement ∈ l, statement.Respects fun s s' : SendSwap => s'.terms = s.terms) :
    ({ send := l } : Statements).KeepTerms := ⟨h, keepTerms_nil.receive, keepTerms_nil.chain⟩

theorem keepTerms_receive {l : List ReceiveStatement}
    (h : ∀ statement ∈ l, statement.Respects fun s s' : ReceiveSwap => s'.terms = s.terms) :
    ({ receive := l } : Statements).KeepTerms := ⟨keepTerms_nil.send, h, keepTerms_nil.chain⟩

theorem keepTerms_chain {l : List ChainStatement}
    (h : ∀ statement ∈ l, statement.Respects fun s s' : ChainSwap => s'.terms = s.terms) :
    ({ chain := l } : Statements).KeepTerms := ⟨keepTerms_nil.send, keepTerms_nil.receive, h⟩

end Statements

section Methods

variable {now : Nat}

/-- A whole write of a row replaces none of its terms. -/
theorem respects_wholeSend (s : SendSwap) (db : Db) :
    ∀ statement ∈ wholeSend now s db, statement.Respects fun s s' : SendSwap => s'.terms = s.terms := by
  unfold wholeSend
  split
  · exact Statement.respects_update fun _ => rfl
  · exact Statement.respects_insert_update fun _ => rfl

/-- **Every method** of the persister leaves the terms. -/
theorem Method.keepTerms (m : Method) (now : Nat) (db : Db) : (m.statements now db).KeepTerms := by
  cases m with
  | insertOrUpdateSendSwap maybeSwap s => exact Statements.keepTerms_send (respects_wholeSend s db)
  | updateSendSwapsByState fromState toState isLocal =>
      exact Statements.keepTerms_send (Statement.respects_update fun _ => rfl)
  | tryHandleSendSwapUpdate swapId toState preimage lockupTxId refundTxId =>
      exact Statements.keepTerms_send (Statement.respects_update fun _ => rfl)
  | setSendSwapRefundAddress swapId refundAddress =>
      exact Statements.keepTerms_send (Statement.respects_update fun _ => rfl)
  | setSendSwapLockupTxId swapId lockupTxId => exact Statements.keepTerms_send (Statement.respects_update fun _ => rfl)
  | unsetSendSwapLockupTxId swapId lockupTxId => exact Statements.keepTerms_send (Statement.respects_update fun _ => rfl)
  | insertOrUpdateReceiveSwap maybeSwap s =>
      exact Statements.keepTerms_receive (Statement.respects_insert_update fun _ => rfl)
  | setReceiveSwapClaimAddress swapId claimAddress =>
      exact Statements.keepTerms_receive (Statement.respects_update fun _ => rfl)
  | setReceiveSwapClaimTxId swapId claimTxId =>
      exact Statements.keepTerms_receive (Statement.respects_update fun _ => rfl)
  | unsetReceiveSwapClaimTxId swapId claimTxId =>
      exact Statements.keepTerms_receive (Statement.respects_update fun _ => rfl)
  | tryHandleReceiveSwapUpdate swapId toState claimTxId lockupTxId mrhTxId mrhAmountSat =>
      exact Statements.keepTerms_receive (Statement.respects_update fun _ => rfl)
  | insertOrUpdateChainSwap maybeSwap s => exact Statements.keepTerms_chain (Statement.respects_insert_update fun _ => rfl)
  | updateChainSwapAcceptZeroConf swapId acceptZeroConf =>
      exact Statements.keepTerms_chain (Statement.respects_update fun _ => rfl)
  | updateActualPayerAmount swapId actualPayerAmountSat =>
      exact Statements.keepTerms_chain (Statement.respects_update fun _ => rfl)
  | updateAcceptedReceiverAmount swapId acceptedReceiverAmountSat =>
      exact Statements.keepTerms_chain (Statement.respects_update fun _ => rfl)
  | setChainSwapRefundAddress swapId refundAddress =>
      exact Statements.keepTerms_chain (Statement.respects_update fun _ => rfl)
  | setChainSwapAutoAcceptedFees swapId => exact Statements.keepTerms_chain (Statement.respects_update fun _ => rfl)
  | setChainSwapClaim swapId claimAddress claimTxId =>
      exact Statements.keepTerms_chain (Statement.respects_update fun _ => rfl)
  | unsetChainSwapClaimTxId swapId claimTxId => exact Statements.keepTerms_chain (Statement.respects_update fun _ => rfl)
  | tryHandleChainSwapUpdate u => exact Statements.keepTerms_chain (Statement.respects_update fun _ => rfl)
  | commitIncomingSwap swap syncState lastCommitTime =>
      cases swap with
      | send s => exact Statements.keepTerms_send (respects_wholeSend s db)
      | receive s => exact Statements.keepTerms_receive (Statement.respects_insert_update fun _ => rfl)
      | chain s => exact Statements.keepTerms_chain (Statement.respects_insert_update fun _ => rfl)
  | other f h => exact Statements.keepTerms_nil

end Methods

/-! ## Runs -/

/-- No sequence of methods does. -/
theorem keepTerms_executedStatements (p : Persister) (l : List (Nat × Method)) (db : Db) :
    (executedStatements p l db).KeepTerms := by
  induction l generalizing db with
  | nil => exact Statements.keepTerms_nil
  | cons call l ih =>
      obtain ⟨now, m⟩ := call
      unfold executedStatements
      split
      · exact (m.keepTerms now db).append (ih _)
      · exact ih _

/-- Every reverse and chain swap has been updated since its insert: the version of its row is not that of a new swap. -/
structure Db.Written (db : Db) : Prop where
  receive : Statement.Updated (fun s : ReceiveSwap => s.metadata.version) db.receiveSwaps
  chain : Statement.Updated (fun s : ChainSwap => s.metadata.version) db.chainSwaps

section Written

variable {p : Persister} {now : Nat} {db db' : Db}

/-- A whole-row write also updates the row that it inserts. -/
theorem updated_wholeReceive {s : ReceiveSwap} (hdb : db.Written)
    (h : db.insertOrUpdateReceiveSwapInner now s = .ok db') :
    Statement.Updated (fun s => s.metadata.version) (Statement.execAll (wholeReceive now s) db.receiveSwaps) := by
  obtain ⟨row, hrow, hversion⟩ := Statement.isCurrent_iff_any.mpr (succeeds_ite.mp ⟨db', h⟩)
  refine hdb.receive.insert_update ⟨row, hrow, ?_⟩
  simp [Table.get?_some_key hrow, hversion]

/-- A whole write that succeeds is an update of the row. -/
theorem updated_wholeChain {s : ChainSwap} (hdb : db.Written)
    (h : db.insertOrUpdateChainSwapInner now s = .ok db') :
    Statement.Updated (fun s => s.metadata.version) (Statement.execAll (wholeChain now s) db.chainSwaps) := by
  obtain ⟨row, hrow, hversion⟩ := Statement.isCurrent_iff_any.mpr (succeeds_ite.mp ⟨db', h⟩)
  refine hdb.chain.insert_update ⟨row, hrow, ?_⟩
  simp [Table.get?_some_key hrow, hversion]

theorem Method.written {m : Method} (h : m.exec p now db = .ok db') (hdb : db.Written) : db'.Written := by
  obtain ⟨-, hreceive, hchain⟩ := Method.executed h
  suffices hupdated :
      Statement.Updated (fun s => s.metadata.version)
        (Statement.execAll (m.statements now db).receive db.receiveSwaps) ∧
      Statement.Updated (fun s => s.metadata.version)
        (Statement.execAll (m.statements now db).chain db.chainSwaps) by
    rw [← hreceive, ← hchain] at hupdated
    exact ⟨hupdated.1, hupdated.2⟩
  cases m with
  | insertOrUpdateReceiveSwap maybeSwap s =>
      obtain ⟨db₁, hinner, -⟩ := except_bind_eq_ok.mp h
      exact ⟨updated_wholeReceive hdb hinner, hdb.chain⟩
  | insertOrUpdateChainSwap maybeSwap s =>
      obtain ⟨db₁, hinner, -⟩ := except_bind_eq_ok.mp h
      exact ⟨hdb.receive, updated_wholeChain hdb hinner⟩
  | commitIncomingSwap swap syncState lastCommitTime =>
      obtain ⟨_, -, h⟩ := except_bind_eq_ok.mp h
      obtain ⟨db₁, hinner, -⟩ := except_bind_eq_ok.mp h
      cases swap with
      | send s => exact ⟨hdb.receive, hdb.chain⟩
      | receive s => exact ⟨updated_wholeReceive hdb hinner, hdb.chain⟩
      | chain s => exact ⟨hdb.receive, updated_wholeChain hdb hinner⟩
  -- the other methods only update
  | _ => exact ⟨hdb.receive.execAll rfl, hdb.chain.execAll rfl⟩

/-- A new swap is only stored as a new row. -/
theorem Db.Written.newReceive {maybeSwap : Option ReceiveSwap} {s : ReceiveSwap} (hdb : db.Written)
    (hnew : s.metadata.version = 0) (h : db.insertOrUpdateReceiveSwap p now maybeSwap s = .ok db') :
    ∃ row, db'.receiveSwaps.get? s.id = some row ∧ row.terms = s.terms ∧ row.payerAmountSat = s.payerAmountSat := by
  obtain ⟨db₁, hinner, -⟩ := except_bind_eq_ok.mp h
  obtain ⟨-, hreceive, -⟩ := Method.executed (m := .insertOrUpdateReceiveSwap maybeSwap s) h
  have hcurrent := Statement.isCurrent_iff_any.mpr (succeeds_ite.mp ⟨db₁, hinner⟩)
  rw [hnew] at hcurrent
  have hget : (db.receiveSwaps.insertNew (receiveSwapInsert s)).get? s.id = some (receiveSwapInsert s) :=
    hdb.receive.isNew hcurrent
  rw [hreceive]
  have hupdated := Table.get?_updateWhere (db.receiveSwaps.insertNew (receiveSwapInsert s))
    (fun row => decide (row.id = s.id) && decide (row.metadata.version = s.metadata.version))
    (fun row => { receiveSwapUpdate s row with metadata := (receiveSwapUpdate s row).metadata.touch now })
    (fun _ => rfl) s.id
  rw [hget, Option.map_some] at hupdated
  refine ⟨_, hupdated, ?_⟩
  split
  · exact ⟨rfl, rfl⟩
  · exact ⟨rfl, rfl⟩

/-- A new swap is written with its terms. -/
theorem Db.Written.newChain {maybeSwap : Option ChainSwap} {s : ChainSwap} (hdb : db.Written)
    (hnew : s.metadata.version = 0) (h : db.insertOrUpdateChainSwap p now maybeSwap s = .ok db') :
    ∃ row, db'.chainSwaps.get? s.id = some row ∧ row.terms = s.terms := by
  obtain ⟨db₁, hinner, -⟩ := except_bind_eq_ok.mp h
  obtain ⟨-, -, hchain⟩ := Method.executed (m := .insertOrUpdateChainSwap maybeSwap s) h
  have hcurrent := Statement.isCurrent_iff_any.mpr (succeeds_ite.mp ⟨db₁, hinner⟩)
  rw [hnew] at hcurrent
  have hget : (db.chainSwaps.insertNew (chainSwapInsert s)).get? s.id = some (chainSwapInsert s) :=
    hdb.chain.isNew hcurrent
  rw [hchain]
  have hupdated := Table.get?_updateWhere (db.chainSwaps.insertNew (chainSwapInsert s))
    (fun row => decide (row.id = s.id) && decide (row.metadata.version = s.metadata.version))
    (fun row => { chainSwapUpdate s row with metadata := (chainSwapUpdate s row).metadata.touch now })
    (fun _ => rfl) s.id
  rw [hget, Option.map_some] at hupdated
  refine ⟨_, hupdated, ?_⟩
  split
  · rfl
  · rfl

theorem Db.Written.perform (hdb : db.Written) (call : Nat × Method) : (db.perform p call).Written := by
  unfold Db.perform
  cases hexec : call.2.exec p call.1 db with
  | ok db' => exact Method.written hexec hdb
  | error err => exact hdb

end Written

/-- What is left of a row, after some statements on a table: a row of the same terms, and the very row if no version
was added. -/
def Outlives {ρ : Type} (terms : ρ → ρ) (version : ρ → Nat) (before : ρ) (after : Option ρ) : Prop :=
  ∃ r, after = some r ∧ terms r = terms before ∧ version before ≤ version r ∧
    (version r = version before → r = before)

/-- A row outlives statements that keep its terms, with a version that does not fall. -/
theorem outlives_execAll {ρ κ : Type} [DecidableEq κ] {key : ρ → κ} {version : ρ → Nat} {terms : ρ → ρ}
    {l : List (Statement key version)} (hl : ∀ statement ∈ l, statement.Respects fun r r' => terms r' = terms r)
    {t : Table key} {k : κ} {row : ρ} (h : t.get? k = some row) :
    Outlives terms version row ((Statement.execAll l t).get? k) := by
  obtain ⟨r, hr, hterms⟩ := Statement.execAll_respects (R := fun r r' => terms r' = terms r) (fun _ => rfl)
    (fun h h' => h'.trans h) hl h
  obtain ⟨r', hr', hversion⟩ := Statement.execAll_row l h
  rw [hr] at hr'
  cases hr'
  refine ⟨r, hr, hterms, ?_, ?_⟩
  · rcases hversion with ⟨-, rfl⟩ | ⟨-, hlt⟩
    · exact Nat.le_refl _
    · omega
  · intro heq
    rcases hversion with ⟨-, hsame⟩ | ⟨-, hlt⟩
    · exact hsame
    · omega

/-- After any transactions of the persister, in any order and whoever makes them, every swap row is still there with
the terms it was inserted with; and a row whose version has not grown has not changed. -/
theorem outlives_performAll (p : Persister) (l : List (Nat × Method)) (db : Db) :
    (∀ {id row}, db.sendSwaps.get? id = some row →
      Outlives SendSwap.terms (fun s => s.metadata.version) row ((db.performAll p l).sendSwaps.get? id)) ∧
    (∀ {id row}, db.receiveSwaps.get? id = some row →
      Outlives ReceiveSwap.terms (fun s => s.metadata.version) row ((db.performAll p l).receiveSwaps.get? id)) ∧
    ∀ {id row}, db.chainSwaps.get? id = some row →
      Outlives ChainSwap.terms (fun s => s.metadata.version) row ((db.performAll p l).chainSwaps.get? id) := by
  obtain ⟨hsend, hreceive, hchain⟩ := performAll_executed p l db
  have hterms := keepTerms_executedStatements p l db
  rw [hsend, hreceive, hchain]
  refine ⟨?_, ?_, ?_⟩
  · intro id row hrow
    exact outlives_execAll hterms.send hrow
  · intro id row hrow
    exact outlives_execAll hterms.receive hrow
  · intro id row hrow
    exact outlives_execAll hterms.chain hrow

/-- The swap can be claimed and refunded as before: its scripts, its keys and its preimage are the same. -/
def SameAccess (bz : BoltzClient) : Swap → Swap → Prop
  | .send s, .send s' => s'.getSwapScript bz = s.getSwapScript bz ∧ s'.refundPrivateKey = s.refundPrivateKey
  | .receive s, .receive s' =>
      s'.getSwapScript bz = s.getSwapScript bz ∧ s'.claimPrivateKey = s.claimPrivateKey ∧ s'.preimage = s.preimage
  | .chain s, .chain s' =>
      s'.getClaimSwapScript bz = s.getClaimSwapScript bz ∧ s'.getLockupSwapScript bz = s.getLockupSwapScript bz ∧
        s'.claimPrivateKey = s.claimPrivateKey ∧ s'.refundPrivateKey = s.refundPrivateKey ∧ s'.preimage = s.preimage
  | _, _ => False

/-- The row of a swap, as it is in its table. -/
inductive RowOf (db : Db) : SwapId → Swap → Prop where
  | send {id : SwapId} {s : SendSwap} (h : db.sendSwaps.get? id = some s) : RowOf db id (.send s)
  | receive {id : SwapId} {s : ReceiveSwap} (h : db.receiveSwaps.get? id = some s) : RowOf db id (.receive s)
  | chain {id : SwapId} {s : ChainSwap} (h : db.chainSwaps.get? id = some s) : RowOf db id (.chain s)

/-- **No swap is lost.** Whatever transactions the persister makes of a database, each of its swaps keeps its row, with
the scripts, keys and preimage of before; its version never falls, and while it stays the same so does the row. -/
theorem swaps_outlive (bz : BoltzClient) (p : Persister) (l : List (Nat × Method)) {db : Db} {id : SwapId} {swap : Swap}
    (h : RowOf db id swap) : ∃ swap', RowOf (db.performAll p l) id swap' ∧ SameAccess bz swap swap' ∧
      swap.version ≤ swap'.version ∧ (swap'.version = swap.version → swap' = swap) := by
  -- scripts, keys and the preimage are functions of the terms, which no method changes
  obtain ⟨hsend, hreceive, hchain⟩ := outlives_performAll p l db
  cases h with
  | send h =>
      obtain ⟨s', hs', hterms, hversion, hsame⟩ := hsend h
      refine ⟨.send s', .send hs', ⟨?_, ?_⟩, hversion, fun heq => congrArg Swap.send (hsame heq)⟩
      · rw [← SendSwap.getSwapScript_terms bz s', hterms]
        rfl
      · exact (congrArg SendSwap.refundPrivateKey hterms :)
  | receive h =>
      obtain ⟨s', hs', hterms, hversion, hsame⟩ := hreceive h
      refine ⟨.receive s', .receive hs', ⟨?_, ?_, ?_⟩, hversion, fun heq => congrArg Swap.receive (hsame heq)⟩
      · rw [← ReceiveSwap.getSwapScript_terms bz s', hterms]
        rfl
      · exact (congrArg ReceiveSwap.claimPrivateKey hterms :)
      · exact (congrArg ReceiveSwap.preimage hterms :)
  | chain h =>
      obtain ⟨s', hs', hterms, hversion, hsame⟩ := hchain h
      refine ⟨.chain s', .chain hs', ⟨?_, ?_, ?_, ?_, ?_⟩, hversion, fun heq => congrArg Swap.chain (hsame heq)⟩
      · rw [← ChainSwap.getClaimSwapScript_terms bz s', hterms]
        rfl
      · rw [← ChainSwap.getLockupSwapScript_terms bz s', hterms]
        rfl
      · exact (congrArg ChainSwap.claimPrivateKey hterms :)
      · exact (congrArg ChainSwap.refundPrivateKey hterms :)
      · exact (congrArg ChainSwap.preimage hterms :)

/-- The row of the swap of `changedDb`. -/
def changedRow : ChainSwap :=
  { id := "s", direction := .incoming, acceptZeroConf := true, metadata := { version := 4, lastUpdatedAt := 5 } }

/-- The row of a swap that a claim, a refusal of a second claim and a new address have written to. -/
theorem swaps_outlive_claim :
    ∃ swap', RowOf (changedDb.performAll persister
        [(6, .setChainSwapClaim "s" none "claim"), (7, .setChainSwapClaim "s" none "other"),
          (8, .setChainSwapRefundAddress "s" "address")]) "s" swap' ∧
      SameAccess (.byAddress 0) (.chain changedRow) swap' := by
  have hrow : RowOf changedDb "s" (.chain changedRow) := .chain (by decide +kernel)
  obtain ⟨swap', hswap', haccess, -, -⟩ := swaps_outlive (.byAddress 0) persister
    [(6, .setChainSwapClaim "s" none "claim"), (7, .setChainSwapClaim "s" none "other"),
      (8, .setChainSwapRefundAddress "s" "address")] hrow
  exact ⟨swap', hswap', haccess⟩

end BreezLiquid
