/-
# BreezLiquid.Sync.FailedRecovery — pulled swaps whose recovery failed.

A pulled record becomes a created swap without any transaction, with the version of the local row. The recovery
from the chains is to bring it up to date, but its errors are only logged, and without a Bitcoin tip a chain swap is
skipped. Then the swap is committed as it is, and the version is no obstacle.

`pull_keepsProgress_iff` says what this does to the rows, for every action of every pull, whatever else is written in
between: a row keeps its state, transactions and amounts exactly if it has none to lose. All other actions of a pull
leave the rows alone, or write a swap that was recovered. Along a run the actions add up.
-/
import BreezLiquid.Sync.Origin
import BreezLiquid.Sync.Terms

namespace BreezLiquid.Sync

open Interleaving Recover Tables

/-! ## What a row may lose -/

/-- How far a swap is: its state, the ids of its lockup, claim and refund transactions, and its amounts. -/
structure Progress where
  recordType : RecordType
  state : PaymentState
  txIds : List (Option TxId)
  amounts : List (Option Nat)

def progress : Swap → Progress
  | .send s => ⟨.send, s.state, [s.lockupTxId, s.refundTxId], [some s.payerAmountSat, some s.receiverAmountSat]⟩
  | .receive s => ⟨.receive, s.state, [s.lockupTxId, s.claimTxId], [some s.payerAmountSat, some s.receiverAmountSat]⟩
  | .chain s =>
      ⟨.chain, s.state, [s.userLockupTxId, s.serverLockupTxId, s.claimTxId, s.refundTxId],
        [some s.payerAmountSat, s.actualPayerAmountSat, some s.receiverAmountSat, s.acceptedReceiverAmountSat]⟩

/-- The actual payer amount of a chain swap. -/
def actualPayerAmount : Swap → Option Nat
  | .chain s => s.actualPayerAmountSat
  | _ => none

/-- Nothing has happened to the row yet, and its amounts are those of the pulled swap. For an incoming chain swap
`found` is the amount that was seen on the Bitcoin chain before the recovery failed, if any. -/
def NothingToLose (fresh : Swap) (found : Option Nat) (row : Swap) : Prop :=
  match fresh, row with
  | .send _, .send row => row.state = .created ∧ row.lockupTxId = none ∧ row.refundTxId = none
  | .receive fresh, .receive row =>
      row.state = .created ∧ row.lockupTxId = none ∧ row.claimTxId = none ∧
        row.payerAmountSat = fresh.payerAmountSat ∧ row.receiverAmountSat = fresh.receiverAmountSat
  | .chain fresh, .chain row =>
      row.state = .created ∧ row.userLockupTxId = none ∧ row.serverLockupTxId = none ∧ row.claimTxId = none ∧
        row.refundTxId = none ∧ row.actualPayerAmountSat = found ∧
        row.acceptedReceiverAmountSat = fresh.acceptedReceiverAmountSat
  -- a row of another kind is not written
  | _, _ => True

/-- A pulled swap of this id and kind was written after it was recovered. -/
def RecoveredIn (w w' : World) (id : SwapId) (t : RecordType) : Prop :=
  ∃ fresh swap, Marks (.swapCommitted fresh swap true) w w' ∧ fresh.id = id ∧ fresh.recordType = t

/-- Every row keeps its progress, unless its swap was recovered. -/
def KeepsProgress (w w' : World) : Prop :=
  ∀ id row, RowOf w.db id row →
    RecoveredIn w w' id row.recordType ∨ ∃ row', RowOf w'.db id row' ∧ progress row' = progress row

/-- A swap whose recovery failed is only written over a row that has nothing to lose. -/
def LosesNothing (w w' : World) : Prop :=
  ∀ fresh swap, Marks (.swapCommitted fresh swap false) w w' →
    ∀ row, RowOf w.db fresh.id row → NothingToLose fresh (actualPayerAmount swap) row

theorem progress_recordType (s : Swap) : (progress s).recordType = s.recordType := by
  cases s <;> rfl

/-- The history is only added to. -/
def Longer (w w' : World) : Prop := ∃ newer, w'.trace = newer ++ w.trace

theorem Longer.trans {w w' w'' : World} (h : Longer w w') (h' : Longer w' w'') : Longer w w'' := by
  obtain ⟨newer, heq⟩ := h
  obtain ⟨newer', heq'⟩ := h'
  exact ⟨newer' ++ newer, by rw [heq', heq, List.append_assoc]⟩

theorem Marks.longer {e : Event} {w w' w'' : World} (h : Marks e w w') (hlonger : Longer w' w'') : Marks e w w'' := by
  obtain ⟨newer, heq, hmem⟩ := h
  obtain ⟨newer', heq'⟩ := hlonger
  exact ⟨newer' ++ newer, by rw [heq', heq, List.append_assoc], List.mem_append_right _ hmem⟩

theorem Marks.of_longer {e : Event} {w w' w'' : World} (hlonger : Longer w w') (h : Marks e w' w'') : Marks e w w'' := by
  obtain ⟨newer, heq⟩ := hlonger
  obtain ⟨newer', heq', hmem⟩ := h
  exact ⟨newer' ++ newer, by rw [heq', heq, List.append_assoc], List.mem_append_left _ hmem⟩

theorem KeepsProgress.refl (w : World) : KeepsProgress w w := fun _ row hrow => .inr ⟨row, hrow, rfl⟩

/-- Kept all the way, or recovered somewhere. -/
theorem KeepsProgress.trans {w w' w'' : World} (h : KeepsProgress w w') (h' : KeepsProgress w' w'')
    (hlonger : Longer w w') (hlonger' : Longer w' w'') : KeepsProgress w w'' := by
  intro id row hrow
  rcases h id row hrow with ⟨fresh, swap, hmarks, hname⟩ | ⟨row', hrow', hprogress⟩
  · exact .inl ⟨fresh, swap, hmarks.longer hlonger', hname⟩
  · have htype : row'.recordType = row.recordType := by
      rw [← progress_recordType, hprogress, progress_recordType]
    rcases h' id row' hrow' with ⟨fresh, swap, hmarks, hname⟩ | ⟨row'', hrow'', hprogress'⟩
    · exact .inl ⟨fresh, swap, hmarks.of_longer hlonger, htype ▸ hname⟩
    · exact .inr ⟨row'', hrow'', hprogress'.trans hprogress⟩

/-! ## A swap written over a row -/

section Written

variable {db db' : Db} {now : Nat} {id : SwapId}

/-- The row with the columns of a swap of its kind. -/
def writtenOver (now : Nat) (swap row : Swap) : Swap :=
  match swap, row with
  | .send s, .send row => .send { Db.sendSwapUpdate s row with metadata := row.metadata.touch now }
  | .receive s, .receive row => .receive { Db.receiveSwapUpdate s row with metadata := row.metadata.touch now }
  | .chain s, .chain row => .chain { Db.chainSwapUpdate s row with metadata := row.metadata.touch now }
  | _, row => row

/-- The guard of a write, over a row that has the version if it is the row of the swap. -/
theorem written_of_guard {α : Type} {row row' : α} {rowId swapId : SwapId} {rowVersion swapVersion : Nat}
    (hkey : rowId = id) (hversion : id = swapId → rowVersion = swapVersion) :
    (if rowId = swapId ∧ rowVersion = swapVersion then row' else row) = if id = swapId then row' else row := by
  by_cases heq : id = swapId
  · rw [if_pos ⟨hkey.trans heq, hversion heq⟩, if_pos heq]
  · rw [if_neg fun hguard => heq (hkey.symm.trans hguard.1), if_neg heq]

/-- A table whose version is current has it in its row. -/
theorem version_of_isCurrent {ρ : Type} {key : ρ → SwapId} {version : ρ → Nat} {t : Table key} {swapId : SwapId} {v : Nat}
    {row : ρ} (hrow : t.get? id = some row) (hcurrent : (t.get? swapId).isSome → Statement.IsCurrent version t swapId v) :
    id = swapId → version row = v := by
  rintro rfl
  obtain ⟨row', hrow', hversion⟩ := hcurrent (Option.isSome_iff_exists.mpr ⟨row, hrow⟩)
  obtain rfl : row' = row := Option.some.inj (hrow'.symm.trans hrow)
  exact hversion

/-- A write of a swap that succeeds meets the version of its row, and writes over no other row. -/
theorem rowOf_insertOrUpdateSwapInner {swap : Swap} (h : db.insertOrUpdateSwapInner now swap = .ok db') {row : Swap}
    (hrow : RowOf db id row) : RowOf db' id (if id = swap.id then writtenOver now swap row else row) := by
  have hcurrent : HasRow db swap → Current db swap := fun hhas => (succeeds_inner_iff hhas).mp ⟨db', h⟩
  cases swap with
  | send s =>
      replace h : db.insertOrUpdateSendSwapInner now s = .ok db' := h
      obtain ⟨-, hreceive, hchain⟩ := executed_wholeSend h
      cases hrow with
      | @send row hrow =>
          have hafter := Db.get?_insertOrUpdateSendSwapInner h hrow
          rw [written_of_guard (Table.get?_some_key hrow) (version_of_isCurrent hrow hcurrent)] at hafter
          have hwritten := RowOf.send hafter
          rw [apply_ite Swap.send] at hwritten
          exact hwritten
      | receive hrow =>
          simp only [writtenOver, ite_self]
          exact .receive ((congrArg (Table.get? · id) hreceive).trans hrow)
      | chain hrow =>
          simp only [writtenOver, ite_self]
          exact .chain ((congrArg (Table.get? · id) hchain).trans hrow)
  | receive s =>
      replace h : db.insertOrUpdateReceiveSwapInner now s = .ok db' := h
      obtain ⟨hsend, -, hchain⟩ := executed_wholeReceive h
      cases hrow with
      | send hrow =>
          simp only [writtenOver, ite_self]
          exact .send ((congrArg (Table.get? · id) hsend).trans hrow)
      | @receive row hrow =>
          have hafter := Db.get?_insertOrUpdateReceiveSwapInner h id
          rw [hrow, Option.some_or, Option.map_some,
            written_of_guard (Table.get?_some_key hrow) (version_of_isCurrent hrow hcurrent)] at hafter
          have hwritten := RowOf.receive hafter
          rw [apply_ite Swap.receive] at hwritten
          exact hwritten
      | chain hrow =>
          simp only [writtenOver, ite_self]
          exact .chain ((congrArg (Table.get? · id) hchain).trans hrow)
  | chain s =>
      replace h : db.insertOrUpdateChainSwapInner now s = .ok db' := h
      obtain ⟨hsend, hreceive, -⟩ := executed_wholeChain h
      cases hrow with
      | send hrow =>
          simp only [writtenOver, ite_self]
          exact .send ((congrArg (Table.get? · id) hsend).trans hrow)
      | receive hrow =>
          simp only [writtenOver, ite_self]
          exact .receive ((congrArg (Table.get? · id) hreceive).trans hrow)
      | @chain row hrow =>
          have hafter := Db.get?_insertOrUpdateChainSwapInner h id
          rw [hrow, Option.some_or, Option.map_some,
            written_of_guard (Table.get?_some_key hrow) (version_of_isCurrent hrow hcurrent)] at hafter
          have hwritten := RowOf.chain hafter
          rw [apply_ite Swap.chain] at hwritten
          exact hwritten

theorem writtenOver_recordType (swap row : Swap) : (writtenOver now swap row).recordType = row.recordType := by
  cases swap <;> cases row <;> rfl

/-- A row of another kind stays as it is. -/
theorem writtenOver_of_ne {swap row : Swap} (h : swap.recordType ≠ row.recordType) : writtenOver now swap row = row := by
  cases swap <;> cases row <;> first | rfl | exact absurd rfl h

/-- There is one row of an id and a kind. -/
theorem rowOf_unique {row row' : Swap} (h : RowOf db id row) (h' : RowOf db id row')
    (htype : row.recordType = row'.recordType) : row = row' := by
  cases h with
  | send h =>
      cases h' with
      | send h' => rw [Option.some.inj (h.symm.trans h')]
      | _ => cases htype
  | receive h =>
      cases h' with
      | receive h' => rw [Option.some.inj (h.symm.trans h')]
      | _ => cases htype
  | chain h =>
      cases h' with
      | chain h' => rw [Option.some.inj (h.symm.trans h')]
      | _ => cases htype

/-- The pulled swap has made no progress, so a row that it is written over keeps its own exactly if there is none. -/
theorem progress_writtenOver_iff (now : Nat) {bz : BoltzClient} {data : SyncData} {fresh swap row : Swap} {v : Nat}
    (hfresh : data.toSwap bz = .ok fresh) (hswap : Unrecovered (fresh.setVersion v) swap) :
    progress (writtenOver now swap row) = progress row ↔ NothingToLose fresh (actualPayerAmount swap) row := by
  cases data with
  | send data =>
      cases hfresh
      obtain rfl : swap = _ := hswap
      cases row with
      | send row =>
          simp only [Swap.setVersion, writtenOver, Db.sendSwapUpdate, progress, Progress.mk.injEq, List.cons.injEq,
            true_and, and_true]
          exact ⟨fun ⟨hstate, hlockup, hrefund⟩ => ⟨hstate.symm, hlockup.symm, hrefund.symm⟩,
            fun ⟨hstate, hlockup, hrefund⟩ => ⟨hstate.symm, hlockup.symm, hrefund.symm⟩⟩
      | receive row => exact ⟨fun _ => trivial, fun _ => rfl⟩
      | chain row => exact ⟨fun _ => trivial, fun _ => rfl⟩
  | receive data =>
      cases hfresh
      obtain rfl : swap = _ := hswap
      cases row with
      | receive row =>
          simp only [Swap.setVersion, writtenOver, Db.receiveSwapUpdate, progress, Progress.mk.injEq, List.cons.injEq,
            true_and, and_true, Option.some.injEq]
          exact ⟨fun ⟨hstate, ⟨hlockup, hclaim⟩, hpayer, hreceiver⟩ =>
              ⟨hstate.symm, hlockup.symm, hclaim.symm, hpayer.symm, hreceiver.symm⟩,
            fun ⟨hstate, hlockup, hclaim, hpayer, hreceiver⟩ =>
              ⟨hstate.symm, ⟨hlockup.symm, hclaim.symm⟩, hpayer.symm, hreceiver.symm⟩⟩
      | send row => exact ⟨fun _ => trivial, fun _ => rfl⟩
      | chain row => exact ⟨fun _ => trivial, fun _ => rfl⟩
  | chain data =>
      cases hfresh
      -- a recovery that failed may have set the actual payer amount
      cases swap with
      | chain s =>
          have hs : s = _ := hswap
          cases row with
          | chain row =>
              rw [hs]
              simp only [writtenOver, Db.chainSwapUpdate, progress, Progress.mk.injEq, List.cons.injEq, true_and,
                and_true]
              exact ⟨fun ⟨hstate, ⟨huser, hserver, hclaim, hrefund⟩, hactual, haccepted⟩ =>
                  ⟨hstate.symm, huser.symm, hserver.symm, hclaim.symm, hrefund.symm, hactual.symm, haccepted.symm⟩,
                fun ⟨hstate, huser, hserver, hclaim, hrefund, hactual, haccepted⟩ =>
                  ⟨hstate.symm, ⟨huser.symm, hserver.symm, hclaim.symm, hrefund.symm⟩, hactual.symm, haccepted.symm⟩⟩
          | send row => exact ⟨fun _ => trivial, fun _ => rfl⟩
          | receive row => exact ⟨fun _ => trivial, fun _ => rfl⟩
      | send s => cases hswap
      | receive s => cases hswap
  | lastDerivationIndex index => cases hfresh
  | paymentDetails data => cases hfresh
  | bolt12Offer data => cases hfresh

end Written

/-! ## The actions of a pull -/

section Actions

variable {sdk : Sdk}

/-- A transaction that loses progress exactly where a swap that was not recovered is written over some. -/
def Exact (f : World → World) : Prop :=
  ∀ w, Longer w (f w) ∧ (KeepsProgress w (f w) ↔ LosesNothing w (f w))

/-- Where no swap is written nothing is lost. -/
theorem exact_of_rows {w w' : World} (hsend : w'.db.sendSwaps = w.db.sendSwaps)
    (hreceive : w'.db.receiveSwaps = w.db.receiveSwaps) (hchain : w'.db.chainSwaps = w.db.chainSwaps)
    (newer : List Event) (htrace : w'.trace = newer ++ w.trace)
    (hnewer : ∀ fresh swap recovered, .swapCommitted fresh swap recovered ∉ newer) :
    Longer w w' ∧ (KeepsProgress w w' ↔ LosesNothing w w') := by
  refine ⟨⟨newer, htrace⟩, fun _ => ?_, fun _ id row hrow => ?_⟩
  · rintro fresh swap ⟨newer', heq, hmem⟩
    rw [htrace] at heq
    obtain rfl := List.append_cancel_right heq
    exact absurd hmem (hnewer _ _ _)
  · exact .inr ⟨row, rowOf_congr hsend.symm hreceive.symm hchain.symm hrow, rfl⟩

theorem exact_refl (w : World) : Longer w w ∧ (KeepsProgress w w ↔ LosesNothing w w) :=
  exact_of_rows rfl rfl rfl [] rfl fun _ _ _ => List.not_mem_nil

/-- A read, a look-up and a read of a version leave the rows alone. -/
theorem exact_id : Exact id := exact_refl

theorem exact_lookUp (recordId : RecordId) : Exact fun w => w.note (.lookedUp recordId
    ((w.db.getSyncOutgoingChangesById recordId).map SyncOutgoingChanges.commitTime) w.db.outgoingCommits.length) := fun w =>
  exact_of_rows rfl rfl rfl [_] rfl fun _ _ _ h => by cases List.mem_singleton.mp h

theorem exact_readVersion (recordId : RecordId) (swap : Swap) :
    Exact fun w => w.note (.versionRead recordId (withLocalVersion w.db swap)) := fun w =>
  exact_of_rows rfl rfl rfl [_] rfl fun _ _ _ h => by cases List.mem_singleton.mp h

/-- A write of other tables. -/
theorem exact_write {f : Nat → Db → Db} (hf : ∀ now db, (f now db).sendSwaps = db.sendSwaps ∧
    (f now db).receiveSwaps = db.receiveSwaps ∧ (f now db).chainSwaps = db.chainSwaps) : Exact (World.write f) :=
  fun w => exact_of_rows (hf w.now w.db).1 (hf w.now w.db).2.1 (hf w.now w.db).2.2 [] rfl
    fun _ _ _ => List.not_mem_nil

/-- A commit of what is no swap. -/
theorem exact_tryCommit {f : Nat → Db → Except Err Db} {info : DecryptionInfo}
    (hf : ∀ now db db', f now db = .ok db' → db'.sendSwaps = db.sendSwaps ∧ db'.receiveSwaps = db.receiveSwaps ∧
      db'.chainSwaps = db.chainSwaps) : Exact (World.tryCommit f (committed info)) := by
  intro w
  unfold World.tryCommit
  cases hcommit : f w.now w.db with
  | error err => exact exact_refl w
  | ok db' =>
      obtain ⟨hsend, hreceive, hchain⟩ := hf _ _ _ hcommit
      exact exact_of_rows hsend hreceive hchain (committed info w.db db') rfl
        fun _ _ _ h => by cases List.mem_singleton.mp h

/-- A swap was written over its row: where its recovery failed, the row keeps its progress exactly if it has none to
lose. -/
theorem exact_of_written {w w' : World} {data : SyncData} {bz : BoltzClient} {fresh swap : Swap} {v : Nat}
    (now : Nat) (recovered : Bool) (rest : List Event) (hfresh : data.toSwap bz = .ok fresh)
    (htype : swap.recordType = fresh.recordType)
    (hfailed : recovered = false → Unrecovered (fresh.setVersion v) swap)
    (hrows : ∀ id row, RowOf w.db id row → RowOf w'.db id (if id = fresh.id then writtenOver now swap row else row))
    (htrace : w'.trace = (.swapCommitted fresh swap recovered :: rest) ++ w.trace)
    (hrest : ∀ fresh swap recovered, .swapCommitted fresh swap recovered ∉ rest) :
    Longer w w' ∧ (KeepsProgress w w' ↔ LosesNothing w w') := by
  have hmarks : ∀ fresh' swap' recovered', Marks (.swapCommitted fresh' swap' recovered') w w' →
      fresh' = fresh ∧ swap' = swap ∧ recovered' = recovered := by
    rintro fresh' swap' recovered' ⟨newer, heq, hmem⟩
    rw [htrace] at heq
    obtain rfl := List.append_cancel_right heq
    rcases List.mem_cons.mp hmem with heq | hmem
    · cases heq
      exact ⟨rfl, rfl, rfl⟩
    · exact absurd hmem (hrest _ _ _)
  have hmarked : Marks (.swapCommitted fresh swap recovered) w w' :=
    ⟨_, htrace, List.mem_cons_self⟩
  refine ⟨⟨_, htrace⟩, fun hkeeps fresh' swap' hmark row hrow => ?_, fun hloses id row hrow => ?_⟩
  · obtain ⟨rfl, rfl, hrecovered⟩ := hmarks _ _ _ hmark
    have hwritten := hrows _ row hrow
    rw [if_pos rfl] at hwritten
    rw [← progress_writtenOver_iff now hfresh (hfailed hrecovered.symm)]
    rcases hkeeps _ row hrow with ⟨fresh'', swap'', hmark', -⟩ | ⟨row', hrow', hprogress⟩
    · obtain ⟨-, -, hrecovered'⟩ := hmarks _ _ _ hmark'
      exact absurd (hrecovered.trans hrecovered'.symm) (by decide)
    · have hsame : row'.recordType = (writtenOver now swap' row).recordType := by
        rw [writtenOver_recordType, ← progress_recordType, hprogress, progress_recordType]
      rw [← rowOf_unique hrow' hwritten hsame]
      exact hprogress
  · have hwritten := hrows id row hrow
    by_cases hid : id = fresh.id
    · subst hid
      rw [if_pos rfl] at hwritten
      by_cases hkind : swap.recordType = row.recordType
      · cases hr : recovered with
        | true => exact .inl ⟨fresh, _, hr ▸ hmarked, rfl, htype.symm.trans hkind⟩
        | false =>
            refine .inr ⟨_, hwritten, (progress_writtenOver_iff now hfresh (hfailed hr)).mpr ?_⟩
            exact hloses _ _ (hr ▸ hmarked) row hrow
      · rw [writtenOver_of_ne hkind] at hwritten
        exact .inr ⟨row, hwritten, rfl⟩
    · rw [if_neg hid] at hwritten
      exact .inr ⟨row, hwritten, rfl⟩

/-- The swap is the one of the record, before its recovery. -/
def ComesFrom (sdk : Sdk) (info : DecryptionInfo) (swap : Swap) : Prop :=
  ∃ fresh v, info.record.data.toSwap sdk.bz = .ok fresh ∧ swap = fresh.setVersion v

/-- **A commit** of a swap loses progress only where its recovery failed and there was some. -/
theorem exact_commitSwap {info : DecryptionInfo} {swap : Swap} {result : Swap × Outcome}
    (hswap : ComesFrom sdk info swap) (hrecovers : Recovers swap result) : Exact (World.tryCommit
      (fun now db => db.commitIncomingSwap now result.1 info.newSyncState info.lastCommitTime)
      (committedSwap sdk info result)) := by
  intro w
  obtain ⟨fresh, v, hfresh, rfl⟩ := hswap
  obtain ⟨⟨hid, -, htype⟩, hfailed⟩ := hrecovers
  have hnames := setVersion_names fresh v
  unfold World.tryCommit
  dsimp only
  cases hcommit : w.db.commitIncomingSwap w.now result.1 info.newSyncState info.lastCommitTime with
  | error err => exact exact_refl w
  | ok db' =>
      obtain ⟨_, -, hcommit⟩ := except_bind_eq_ok.mp hcommit
      obtain ⟨db₁, hinsert, hcommit⟩ := except_bind_eq_ok.mp hcommit
      cases hcommit
      -- the sync state is in another table
      have hrows : ∀ id row, RowOf w.db id row → RowOf (db₁.setSyncState info.newSyncState) id
          (if id = fresh.id then writtenOver w.now result.1 row else row) := by
        intro id row hrow
        have hwritten := rowOf_insertOrUpdateSwapInner hinsert hrow
        rw [hid.trans hnames.1] at hwritten
        have hsend : db₁.sendSwaps = (db₁.setSyncState info.newSyncState).sendSwaps := rfl
        have hreceive : db₁.receiveSwaps = (db₁.setSyncState info.newSyncState).receiveSwaps := rfl
        have hchain : db₁.chainSwaps = (db₁.setSyncState info.newSyncState).chainSwaps := rfl
        exact rowOf_congr hsend hreceive hchain hwritten
      refine exact_of_written w.now result.2.isOk (committed info w.db (db₁.setSyncState info.newSyncState)) hfresh
        (htype.trans hnames.2) (fun hr => hfailed fun hok => ?_) hrows ?_ ?_
      · rw [hok] at hr
        cases hr
      · unfold committedSwap
        rw [hfresh]
      · exact fun _ _ _ h => by cases List.mem_singleton.mp h

end Actions

/-! ## The parts of a pull -/

section Parts

variable {sdk : Sdk}

theorem toLocalSwap_comesFrom (info : DecryptionInfo) :
    (toLocalSwap sdk info.record).Yields fun x => ∀ swap, x = .ok swap → ComesFrom sdk info swap := by
  have herror : ∀ err : Err, ∀ swap, Except.error err = .ok swap → ComesFrom sdk info swap := by
    intro err swap h
    cases h
  unfold toLocalSwap
  refine Task.Yields.ofExcept_bind herror fun fresh hfresh w => ?_
  rintro swap ⟨⟩
  unfold withLocalVersion
  split
  · rename_i localSwap _
    exact ⟨fresh, localSwap.version, hfresh, rfl⟩
  · -- a swap of a record has the version 0
    refine ⟨fresh, 0, hfresh, ?_⟩
    cases hdata : info.record.data with
    | chain data =>
        rw [hdata] at hfresh
        cases hfresh
        rfl
    | send data =>
        rw [hdata] at hfresh
        cases hfresh
        rfl
    | receive data =>
        rw [hdata] at hfresh
        cases hfresh
        rfl
    | _ =>
        rw [hdata] at hfresh
        cases hfresh

/-- A part of a pull that loses progress only where a swap that was not recovered is written over some. -/
abbrev ExactPart {α : Type} (t : Async α) : Prop := t.Within Exact Call.Quiet

/-- A pulled swap with what its recovery made of it. -/
def Pulled (sdk : Sdk) (i : DecryptionInfo × Option (Swap × Outcome)) : Prop :=
  ∀ result, i.2 = some result → ∃ swap, ComesFrom sdk i.1 swap ∧ Recovers swap result

theorem exact_commitRecord {info : DecryptionInfo} {result : Option (Swap × Outcome)}
    (h : Pulled sdk (info, result)) : ExactPart (commitRecord sdk info result) := by
  have hswap : info.record.data.isSwap = true → ExactPart (commitRecord sdk info result) := by
    intro hisSwap
    cases result with
    | none =>
        obtain ⟨err, hnone⟩ := commitRecord_none sdk hisSwap
        rw [hnone]
        trivial
    | some result =>
        obtain ⟨swap, hcomes, hrecovers⟩ := h result rfl
        rw [commitRecord_swap sdk hisSwap]
        exact ⟨exact_commitSwap hcomes hrecovers, fun _ => trivial⟩
  cases hdata : info.record.data with
  | chain data => exact hswap (by rw [hdata]; rfl)
  | send data => exact hswap (by rw [hdata]; rfl)
  | receive data => exact hswap (by rw [hdata]; rfl)
  | lastDerivationIndex index =>
      unfold commitRecord
      rw [hdata]
      refine ⟨exact_tryCommit fun now db db' hok => ?_, fun _ => trivial⟩
      obtain ⟨_, -, hok⟩ := except_bind_eq_ok.mp hok
      cases hok
      exact ⟨rfl, rfl, rfl⟩
  | paymentDetails data =>
      unfold commitRecord
      rw [hdata]
      refine ⟨exact_tryCommit fun now db db' hok => ?_, fun _ => trivial⟩
      obtain ⟨_, -, hok⟩ := except_bind_eq_ok.mp hok
      cases hok
      exact ⟨rfl, rfl, rfl⟩
  | bolt12Offer data =>
      unfold commitRecord
      rw [hdata]
      refine ⟨exact_tryCommit fun now db db' hok => ?_, fun _ => trivial⟩
      obtain ⟨_, -, hok⟩ := except_bind_eq_ok.mp hok
      cases hok
      exact ⟨rfl, rfl, rfl⟩

theorem exact_commitRecords {infos : List (DecryptionInfo × Option (Swap × Outcome))}
    (h : ∀ i ∈ infos, Pulled sdk i) : ExactPart (commitRecords sdk infos) := by
  induction infos with
  | nil => trivial
  | cons i infos ih =>
      have hrest := ih fun i hi => h i (List.mem_cons_of_mem _ hi)
      refine Task.Within.bind (exact_commitRecord (h i List.mem_cons_self)).attempt fun res => ?_
      refine Task.Within.bind hrest fun succeded => ?_
      split <;> trivial

/-- **A pull** loses progress nowhere else. -/
theorem exact_pull : ExactPart (pull sdk) := by
  have hnone : ∀ infos : List DecryptionInfo, ∀ i ∈ infos.map fun info => (info, none), Pulled sdk i := by
    intro infos i hi result hresult
    obtain ⟨info, -, rfl⟩ := List.mem_map.mp hi
    cases hresult
  refine Task.Within.bind ?_ fun _ => ?_
  · refine Task.Within.bind (within_fetch exact_id _) fun settings => ?_
    refine Task.Within.bind (Task.within_askOk trivial rfl) fun records => ?_
    refine Task.Within.bind (within_write (exact_write fun now db => setIncomingRecords_swapTables records db)) fun _ => ?_
    split
    · exact within_write (exact_write fun now db => ⟨rfl, rfl, rfl⟩)
    · trivial
  refine Task.Within.bind (within_fetch exact_id _) fun records => ?_
  refine Task.Within.bind (within_decryptRecords exact_id exact_lookUp records) fun decrypted => ?_
  refine Task.Within.bind (exact_commitRecords (hnone _)) fun indexIds => ?_
  refine Task.Within.bind_yields (within_handleRecovery exact_id exact_readVersion (fun _ hq => hq) _)
    (handleRecovery_forall toLocalSwap_comesFrom (recoverSwap_recovers sdk) _) fun recovered hrecovered => ?_
  have hpulled : ∀ i ∈ recovered, Pulled sdk i := by
    intro i hi result hresult
    obtain ⟨swap, r, hr, hcomes, hrecovers⟩ := (hrecovered recovered rfl).2 i hi
    obtain rfl : r = result := Option.some.inj (hr.symm.trans hresult)
    exact ⟨swap, hcomes, hrecovers⟩
  refine Task.Within.bind (exact_commitRecords hpulled) fun swapIds => ?_
  refine Task.Within.bind (exact_commitRecords (hnone _)) fun otherIds => ?_
  dsimp only
  split
  · exact Task.Within.bind (within_write (exact_write fun now db => ⟨rfl, rfl, rfl⟩)) fun _ => trivial
  · trivial

end Parts

/-! ## Pulls among other writes -/

section Pulls

variable (sdk : Sdk)

def pullTask : Async Unit := do
  let _ ← pull sdk
  return ()

/-- Any number of pulls, and whatever else is written. -/
def pullSystem : System World Call Call.Answer Err Unit where
  effect := World.effect sdk
  spawns _ _ _ t := t = pullTask sdk
  env _ _ := True

/-- The pulls write swaps that were not recovered only over rows with nothing to lose, and the others keep the rows as
they are. -/
def LosesNoProgress : Cond World Unit
  | .own _, w, w' => LosesNothing w w'
  | .env, w, w' => Longer w w' ∧ KeepsProgress w w'
  | _, _, _ => True

variable {sdk}

/-- The pulls that are started are parts of a pull. -/
theorem exact_spawned {w : World} :
    (∀ roles s r t, (pullSystem sdk).spawns roles s r t → ExactPart t) ∧
      ∀ e ∈ (⟨w, []⟩ : Pool World Call Call.Answer Err Unit).tasks, ExactPart e.2 := by
  refine ⟨fun roles s r t h => ?_, fun e he => absurd he List.not_mem_nil⟩
  rw [show t = pullTask sdk from h]
  exact Task.Within.bind exact_pull fun _ => trivial

/-- Every action of a pull, in whatever run. -/
theorem exact_step {C : Cond World Unit} {w : World} {c c' : Pool World Call Call.Answer Err Unit}
    (hrun : Runs (pullSystem sdk) C ⟨w, []⟩ c) (hstep : Step (pullSystem sdk) c (.own ()) c') :
    Longer c.state c'.state ∧ (KeepsProgress c.state c'.state ↔ LosesNothing c.state c'.state) := by
  obtain ⟨hspawn, htasks⟩ := @exact_spawned sdk w
  rcases hstep.within hspawn htasks hrun with ⟨f, hf, heq⟩ | ⟨q, a, hq, heq⟩
  · rw [heq]
    exact hf c.state
  · rw [heq, show (pullSystem sdk).effect q a c.state = c.state from effect_of_quiet sdk hq a c.state]
    exact exact_refl c.state

/-- In every interleaving of pulls with whatever else is written: an action of a pull keeps the state, the lockup,
claim and refund transactions and the amounts of every row whose swap was not recovered, exactly if the swap that it
writes without a recovery, if any, meets a row with nothing to lose. And where all of them do, a row that the others keep
is kept to the end, or recovered. -/
theorem pull_keepsProgress_iff {w : World} {c : Pool World Call Call.Answer Err Unit} :
    (∀ c', Runs (pullSystem sdk) .any ⟨w, []⟩ c → Step (pullSystem sdk) c (.own ()) c' →
      (KeepsProgress c.state c'.state ↔ LosesNothing c.state c'.state)) ∧
    (Runs (pullSystem sdk) LosesNoProgress ⟨w, []⟩ c → KeepsProgress w c.state) := by
  refine ⟨fun c' hrun hstep => (exact_step hrun hstep).2, fun hrun => ?_⟩
  suffices h : Longer w c.state ∧ KeepsProgress w c.state from h.2
  induction hrun with
  | refl => exact ⟨⟨[], rfl⟩, .refl w⟩
  | @tail c₁ c₂ hrun hlast ih =>
      obtain ⟨hlonger, hkeeps⟩ := ih
      obtain ⟨l, hstep, hcond⟩ := hlast
      have hafter : Longer c₁.state c₂.state ∧ KeepsProgress c₁.state c₂.state := by
        cases l with
        | own r =>
            obtain ⟨hlonger', hexact⟩ := exact_step hrun hstep
            exact ⟨hlonger', hexact.mpr hcond⟩
        | env => exact hcond
        | spawn r =>
            cases hstep
            exact ⟨⟨[], rfl⟩, .refl _⟩
        | finish r =>
            cases hstep
            exact ⟨⟨[], rfl⟩, .refl _⟩
        | abort r =>
            cases hstep
            exact ⟨⟨[], rfl⟩, .refl _⟩
      obtain ⟨hlonger', hkeeps'⟩ := hafter
      exact ⟨hlonger.trans hlonger', hkeeps.trans hkeeps' hlonger hlonger'⟩

end Pulls

/-! ## A lockup that is forgotten -/

/-- The record of an incoming swap. -/
def chainData : ChainSyncData := { swapId := "c", direction := .incoming, payerAmountSat := 1000 }

def chainSdk : Sdk where
  bz := .byAddress 0
  persister := { codec := .table fun text => if text = "c" then some (.chain chainData) else none }

/-- The record is pulled while the Bitcoin tip cannot be fetched. -/
def noBitcoinTip : Nat → (q : Call) → q.Answer
  | _, .pull _ => .ok [{ id := "chain-swap:c", revision := 2, data := "c" }]
  | _, .liquidTip => .ok 0
  | _, .transactionsByTxId => .ok []
  | _, .liquidScriptsHistory scripts => .ok (scripts.map fun _ => [])
  | _, q => q.offline

/-- A wallet with the swap, as it is in the given row. -/
def holding (row : ChainSwap) : World where
  db := { chainSwaps := (∅ : Table ChainSwap.id).insertNew row }
  now := 1000

def pulled (w : World) : World := ((pullTask chainSdk).run (World.effect chainSdk) noBitcoinTip (0, w)).2.2

/-- The swap as it was created. -/
def createdRow : ChainSwap := { id := "c", direction := .incoming, payerAmountSat := 1000 }

/-- The swap after the user has locked up. -/
def lockedUpRow : ChainSwap :=
  { createdRow with state := .pending, userLockupTxId := some "lockup", actualPayerAmountSat := some 1000 }

instance (fresh row : ChainSwap) (found : Option Nat) : Decidable (NothingToLose (.chain fresh) found (.chain row)) :=
  inferInstanceAs (Decidable (row.state = .created ∧ row.userLockupTxId = none ∧ row.serverLockupTxId = none ∧
    row.claimTxId = none ∧ row.refundTxId = none ∧ row.actualPayerAmountSat = found ∧
      row.acceptedReceiverAmountSat = fresh.acceptedReceiverAmountSat))

/-- Whether the written swaps that were not recovered meet rows with nothing to lose. -/
def meetsNothing (w w' : World) : Bool :=
  w'.trace.all fun e => match e with
    | .swapCommitted (.chain fresh) swap false => (w.db.chainSwaps.get? fresh.id).all fun row =>
        decide (NothingToLose (.chain fresh) (actualPayerAmount swap) (.chain row))
    | .swapCommitted _ _ false => false
    | _ => true

theorem losesNothing_of_meets {w w' : World} (h : meetsNothing w w' = true) : LosesNothing w w' := by
  rintro fresh swap ⟨newer, heq, hmem⟩ row hrow
  have hevent := List.all_eq_true.mp h _ (heq ▸ List.mem_append_left _ hmem)
  cases fresh with
  | chain fresh =>
      cases hrow with
      | chain hrow =>
          replace hrow : w.db.chainSwaps.get? fresh.id = _ := hrow
          dsimp only at hevent
          rw [hrow, Option.all_some] at hevent
          exact of_decide_eq_true hevent
      | send hrow => trivial
      | receive hrow => trivial
  | send fresh => cases hevent
  | receive fresh => cases hevent

/-- The pull writes the created swap over the row as it was created, without a recovery, and the row is kept. -/
theorem pull_keepsProgress_created :
    ((pulled (holding createdRow)).trace.any fun e => match e with
      | .swapCommitted _ _ recovered => !recovered
      | _ => false) = true ∧ KeepsProgress (holding createdRow) (pulled (holding createdRow)) := by
  have hsteps : (pullTask chainSdk).Steps (pullSystem chainSdk).effect noBitcoinTip (LosesNoProgress (.own ()))
      (0, holding createdRow) := by
    refine Task.Steps.mono (p := fun w w' => meetsNothing w w' = true) _ _ ?_ fun w w' h => losesNothing_of_meets h
    decide +kernel
  have hrun := runs_spawn (fun _ _ _ => trivial) noBitcoinTip (r := ()) (show (pullSystem chainSdk).spawns []
    (holding createdRow) () (pullTask chainSdk) from rfl) (C := LosesNoProgress) (fun _ => ⟨trivial, trivial⟩) hsteps
  exact ⟨by decide +kernel, pull_keepsProgress_iff.2 hrun⟩

/-- Over the row of the locked-up swap: the lockup and the amount are gone, and the swap is a created one again. -/
theorem pull_forgets_lockup : ∃ c, Runs (pullSystem chainSdk) .any ⟨holding lockedUpRow, []⟩ c ∧
    (c.state.db.chainSwaps.get? "c").map (fun s => (s.state, s.userLockupTxId, s.actualPayerAmountSat)) =
      some (.created, none, none) ∧ ¬ KeepsProgress (holding lockedUpRow) c.state := by
  have hrun := runs_spawn (fun _ _ _ => trivial) noBitcoinTip (r := ()) (show (pullSystem chainSdk).spawns []
    (holding lockedUpRow) () (pullTask chainSdk) from rfl) (C := .any) (fun _ => ⟨trivial, trivial⟩)
    (Task.steps_of_forall _ _ (fun _ _ => trivial) _ _)
  have hafter : ((pulled (holding lockedUpRow)).db.chainSwaps.get? "c").map
      (fun s => (s.state, s.userLockupTxId, s.actualPayerAmountSat)) = some (.created, none, none) := by decide +kernel
  refine ⟨_, hrun, hafter, fun hkeeps => ?_⟩
  rcases hkeeps "c" (.chain lockedUpRow) (.chain (by decide +kernel)) with ⟨fresh, swap, ⟨newer, heq, hmem⟩, -⟩ | h
  · have hnone : ((pulled (holding lockedUpRow)).trace.all fun e => match e with
        | .swapCommitted _ _ recovered => !recovered
        | _ => true) = true := by decide +kernel
    have hevent := List.all_eq_true.mp hnone _ (heq ▸ List.mem_append_left _ hmem)
    cases hevent
  · obtain ⟨row', hrow', hprogress⟩ := h
    cases hrow' with
    | @chain s hrow' =>
        have hrow : (pulled (holding lockedUpRow)).db.chainSwaps.get? "c" = some s := hrow'
        rw [hrow] at hafter
        have hstate : s.state = .pending := congrArg Progress.state hprogress
        cases hstate.symm.trans (congrArg Prod.fst (Option.some.inj hafter))
    | send hrow' => cases congrArg Progress.recordType hprogress
    | receive hrow' => cases congrArg Progress.recordType hprogress

end BreezLiquid.Sync
