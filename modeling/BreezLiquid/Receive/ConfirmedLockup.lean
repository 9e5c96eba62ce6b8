/-
# BreezLiquid.Receive.ConfirmedLockup — confirmed lockups that are claimed on a later block.

A block rescans the ongoing receive swaps without a claim that have a lockup recorded. The handler of a
confirmed lockup records nothing: the id comes from the mempool status only. So the rescan retries the
claim if the id was there before, and not otherwise. This module has that, and the statement for all
swaps together with `BreezLiquid.Chain.ConfirmedLockup`.
-/
import BreezLiquid.Chain.ClaimSafety
import BreezLiquid.Chain.ConfirmedLockup
import BreezLiquid.Receive.CheckedLockup
import BreezLiquid.Receive.ClaimOnce

namespace BreezLiquid.Receive

open Interleaving Recover Tables Chain

/-! ## The rescan -/

/-- The row of a swap. -/
abbrev RowIs (w : World) (id : SwapId) (row : ReceiveSwap) : Prop := w.db.receiveSwaps.get? id = some row

/-- A block retries the claim of the swap with this lockup. -/
def Rescanned (id : SwapId) (txId : TxId) (db : Db) : Prop :=
  ∃ s ∈ rescannable db, s.id = id ∧ s.lockupTxId = some txId

/-- The reported transaction is a lockup that pays the swap. -/
def ReportsPaying (sdk : Sdk) (row : ReceiveSwap) (transaction : TransactionInfo) : Prop :=
  ∃ txHex tx, transaction.hex = some txHex ∧ sdk.deserializeTxHex txHex = some tx ∧
    checkLockupAmount sdk row tx = .ok ()

/-- The columns the rescan looks at. -/
structure Standing where
  state : PaymentState
  lockupTxId : Option TxId
  claimTxId : Option TxId
  deriving DecidableEq

def standing (s : ReceiveSwap) : Standing := ⟨s.state, s.lockupTxId, s.claimTxId⟩

/-- The swap's standing, and the claims broadcast for it. -/
def view (id : SwapId) (w : World) : Option Standing × List TxId :=
  ((w.db.receiveSwaps.get? id).map standing, (claimSlot id).published w)

theorem view_of_row {w : World} {id : SwapId} {row : ReceiveSwap} (hrow : RowIs w id row) :
    view id w = (some (standing row), (claimSlot id).published w) := by
  unfold view
  rw [hrow]
  rfl

theorem exists_row_of_view {w : World} {id : SwapId} {s : Standing} {claims : List TxId}
    (h : view id w = (some s, claims)) : ∃ row, RowIs w id row ∧ standing row = s :=
  Option.map_eq_some_iff.mp (congrArg Prod.fst h)

theorem contains_ongoing {state : PaymentState} :
    [PaymentState.created, .pending].contains state = true ↔ state = .created ∨ state = .pending := by
  cases state <;> decide

/-- Whether a swap is rescanned for a lockup is decided by its standing. -/
theorem rescanned_iff {w : World} {id : SwapId} {s : Standing} {claims : List TxId}
    (h : view id w = (some s, claims)) (txId : TxId) :
    Rescanned id txId w.db ↔ (s.state = .created ∨ s.state = .pending) ∧ s.claimTxId = none ∧
      s.lockupTxId = some txId := by
  obtain ⟨row, hrow, rfl⟩ := exists_row_of_view h
  constructor
  · rintro ⟨s, hmem, hid, hlockup⟩
    obtain ⟨hongoing, hselected⟩ := List.mem_filter.mp hmem
    obtain ⟨hlisted, hstate⟩ := List.mem_filter.mp hongoing
    obtain ⟨row', hrow', rfl⟩ := Db.mem_listReceiveSwaps hlisted
    rw [hid, hrow] at hrow'
    cases hrow'
    have hclaim := (Bool.and_eq_true_iff.mp hselected).2
    exact ⟨contains_ongoing.mp hstate, Option.isNone_iff_eq_none.mp hclaim, hlockup⟩
  · rintro ⟨hstate, hclaim, hlockup⟩
    have hid : row.id = id := Table.get?_some_key hrow
    refine ⟨row.withIsLocal (w.db.isLocal row.id), List.mem_filter.mpr ⟨List.mem_filter.mpr ⟨?_, ?_⟩, ?_⟩,
      hid, hlockup⟩
    · refine List.mem_map.mpr ⟨row, ?_, rfl⟩
      rw [orderByCreatedAt, List.mem_insertionSort]
      exact Table.mem_of_get? hrow
    · exact contains_ongoing.mpr hstate
    · show (row.lockupTxId.isSome && row.claimTxId.isNone) = true
      rw [show row.lockupTxId = some txId from hlockup, show row.claimTxId = none from hclaim]
      rfl

section Run

variable (sdk : Sdk) (ans : Nat → (q : Call) → q.Answer)

/-! ## Parts of the handler -/

theorem run_fetchReceiveSwapById (effect : (q : Call) → q.Answer → World → World) {w : Nat × World}
    {id : SwapId} {row : ReceiveSwap} (h : RowIs w.2 id row) :
    (fetchReceiveSwapById id).run effect ans w =
      (.ok (row.withIsLocal (w.2.db.isLocal row.id)), w) := by
  unfold fetchReceiveSwapById
  rw [Task.bind_eq, Task.run_bind, run_fetch]
  dsimp only
  rw [Db.fetchReceiveSwapById, h]
  rfl

theorem validateStateTransition_pending {state : PaymentState}
    (h : state = .created ∨ state = .pending) : validateStateTransition state .pending = .ok () := by
  rcases h with rfl | rfl
  · rfl
  · rfl

/-- The transition to `Pending` records no id. -/
theorem run_becomesPending {w : Nat × World} {id : SwapId} {s : Standing} {claims : List TxId}
    (hview : view id w.2 = (some s, claims)) (hstate : s.state = .created ∨ s.state = .pending) :
    ∃ w', (updateSwapInfo id .pending none none none none).run (World.effect sdk) ans w =
        (.ok (), (w.1, w')) ∧
      view id w' = (some { s with state := .pending }, claims) := by
  obtain ⟨row, hrow, rfl⟩ := exists_row_of_view hview
  have hclaims : (claimSlot id).published w.2 = claims := congrArg Prod.snd hview
  have hid : row.id = id := Table.get?_some_key hrow
  have hvalid : validateStateTransition (row.withIsLocal (w.2.db.isLocal row.id)).state .pending = .ok () :=
    validateStateTransition_pending hstate
  have hafter : ((w.2.db.tryHandleReceiveSwapUpdate w.2.now id .pending none none none
      none).receiveSwaps.get? id).map standing = some { standing row with state := .pending } := by
    rw [Db.tryHandleReceiveSwapUpdate, Db.get?_updateReceiveSwaps, hrow, Option.map_some,
      if_pos (decide_eq_true hid)]
    show some (Standing.mk _ _ _) = some (Standing.mk _ _ _)
    simp [standing]
  obtain ⟨row', hrow', hstanding⟩ := Option.map_eq_some_iff.mp hafter
  have hwritten : RowIs (w.2.write fun now db =>
      db.tryHandleReceiveSwapUpdate now id .pending none none none none) id row' := hrow'
  refine ⟨w.2.write fun now db => db.tryHandleReceiveSwapUpdate now id .pending none none none none,
    ?_, ?_⟩
  · unfold updateSwapInfo
    rw [Task.bind_eq, Task.run_bind, run_fetchReceiveSwapById ans _ hrow]
    dsimp only
    rw [Task.bind_eq, Task.run_bind, Task.run_ofExcept, hvalid]
    dsimp only
    rw [Task.bind_eq, Task.run_bind, run_write]
    dsimp only
    rw [Task.bind_eq, Task.run_bind, run_fetchReceiveSwapById ans _ hwritten]
    rfl
  · rw [← hstanding, ← hclaims]
    exact view_of_row hwritten

/-! ## A claim that comes to nothing -/

/-- What a claim leaves alone in the row. -/
def recordOf (id : SwapId) (w : World) : Option (PaymentState × Option TxId) :=
  (w.db.receiveSwaps.get? id).map fun s => (s.state, s.lockupTxId)

theorem recordOf_write_update {id : SwapId} {w : World} {p : ReceiveSwap → Bool}
    {g : ReceiveSwap → ReceiveSwap} {hg : ∀ s, (g s).id = s.id}
    (h : ∀ s, ((g s).state, (g s).lockupTxId) = (s.state, s.lockupTxId)) :
    recordOf id (w.write fun now db => db.updateReceiveSwaps now p g hg) = recordOf id w :=
  Table.map_get?_updateWhere w.db.receiveSwaps p (fun s => { g s with metadata := (g s).metadata.touch w.now })
    hg id (f := fun s => (s.state, s.lockupTxId)) fun s => h s

/-- No transaction of the claim changes the lockup. -/
abbrev SparesLockup (id : SwapId) {α : Type} (t : Async α) : Prop :=
  t.Within (fun f => ∀ w, recordOf id (f w) = recordOf id w) fun _ => True

/-- Setting the claim leaves the rest of the row. -/
theorem recordOf_setReceiveSwapClaimTxId (id swapId : SwapId) (txId : TxId) (w : World) :
    recordOf id (w.tryWrite fun now db => db.setReceiveSwapClaimTxId now swapId txId) =
      recordOf id w := by
  rcases World.tryWrite_cases (fun now db => db.setReceiveSwapClaimTxId now swapId txId) w with
    ⟨db, hdb, h⟩ | h
  · unfold Db.setReceiveSwapClaimTxId at hdb
    dsimp only at hdb
    split at hdb
    · cases hdb
      rw [h]
      exact recordOf_write_update (w := w) fun s => rfl
    · cases hdb
  · rw [h]

/-- So does the whole claim. -/
theorem sparesLockup_claim (id swapId : SwapId) : SparesLockup id (claim swapId) := by
  have hinner : SparesLockup id (claimInner swapId) :=
    within_claimInner (fun _ => rfl) trivial (fun _ _ => trivial)
      (fun _ _ w => recordOf_write_update (w := w) fun _ => rfl) (recordOf_setReceiveSwapClaimTxId id swapId)
      (fun _ w => recordOf_write_update (w := w) fun _ => rfl) (fun _ _ => rfl)
      fun tx => within_broadcastClaim (fun _ => trivial) (fun _ => trivial) (fun _ => trivial) (.liquid tx)
  exact within_claim (fun _ => rfl) (fun _ => rfl) hinner

/-- A claim that is not broadcast leaves the standing of the swap as it was. -/
theorem run_claim_noClaim {w : Nat × World} {id : SwapId} {s : Standing} {claims : List TxId}
    (hview : view id w.2 = (some s, claims))
    (hno : NoClaim id w.2 ((claim id).run (World.effect sdk) ans w).2.2) :
    view id ((claim id).run (World.effect sdk) ans w).2.2 = (some s, claims) := by
  have hlockup := Task.run_preserves (World.effect sdk) ans (recordOf id) (fun f hf => hf)
    (fun q _ a w => by unfold recordOf; rw [effect_db]) (sparesLockup_claim id id) w
  have hfollows : Follows (claimSystem sdk id) (claimSlot id) Any .free (claim id) Returned :=
    follows_claim
  have hsame : (claimSlot id).Outside w.2 ((claim id).run (World.effect sdk) ans w).2.2 :=
    hfollows.run_outside ans (fun _ _ _ => trivial) trivial hno
  unfold recordOf at hlockup
  rw [← hview]
  refine Prod.ext (hsame.map_row (fun w : World => w.db.receiveSwaps.get? id) (f := standing) (fun _ => rfl) ?_
    hlockup) hsame.2
  intro row row' hkept (hclaim : row'.claimTxId = row.claimTxId)
  obtain ⟨hstate, hrecorded⟩ := Prod.mk.inj hkept
  show Standing.mk _ _ _ = Standing.mk _ _ _
  rw [hstate, hrecorded, hclaim]

/-! ## The status -/

theorem readOnly_verifyLockupTxStatus (swap : ReceiveSwap) (txId : TxId) (txHex : String) (conf : Bool) :
    ReadOnly (verifyLockupTxStatus sdk swap txId txHex conf) := by
  have hhistory : ∀ script attempts, ReadOnly (getScriptHistoryWithRetry script attempts) := by
    intro script attempts
    induction attempts with
    | zero => exact Task.within_done _
    | succ attempts ih =>
        refine Task.Within.bind (Task.within_askOk (q := Call.liquidScriptHistory script) trivial rfl)
          fun history => ?_
        split
        · exact Task.Within.bind (Task.within_ask trivial) fun _ => ih
        · exact Task.within_done _
  refine Task.Within.bind (Task.within_done _) fun address => ?_
  refine Task.Within.bind (hhistory address 31) fun history => ?_
  exact Task.Within.bind (Task.within_done _) fun h => Task.within_done _

/-- A part that only reads leaves the world as it was. -/
theorem run_readOnly {α : Type} {t : Async α} (h : ReadOnly t) (w : Nat × World) :
    (t.run (World.effect sdk) ans w).2.2 = w.2 := by
  refine Task.run_preserves _ ans id (fun f hf w => by rw [hf]; rfl) (fun q hq a w => ?_) h w
  rw [effect_of_quiet sdk hq.quiet]

/-- The swap is still one to rescan, with the lockup it had. -/
def StillOngoing (id : SwapId) (row : ReceiveSwap) (w w' : World) : Prop :=
  ∃ s, view id w' = (some s, (claimSlot id).published w) ∧ (s.state = .created ∨ s.state = .pending) ∧
    s.claimTxId = none ∧ s.lockupTxId = row.lockupTxId

variable {w : Nat × World} {update : SwapStatus} {row : ReceiveSwap} {transaction : TransactionInfo}

/-- The amount check of a lockup that pays is only noted. -/
theorem run_requireLockupAmount {swap : ReceiveSwap} {tx : LBtcTransaction} {w : Nat × World}
    (hamount : checkLockupAmount sdk swap tx = .ok ()) (swapId : SwapId) :
    (requireLockupAmount sdk swap swapId transaction tx).run (World.effect sdk) ans w =
      (.ok (), (w.1, w.2.note (.receiveAmountChecked swap tx))) := by
  unfold requireLockupAmount verifyLockupTxAmount
  rw [Task.bind_eq, Task.run_bind, Task.run_attempt, Task.bind_eq, Task.run_bind, Task.run_ofExcept,
    hamount]
  rfl

/-- Without a claim, the confirmed status leaves an ongoing swap with the lockup it had. -/
theorem onTransactionConfirmed_stillOngoing {swap : ReceiveSwap} (hrow : RowIs w.2 update.id row)
    (hstate : row.state = .created ∨ row.state = .pending) (hclaim : row.claimTxId = none)
    (hid : swap.id = update.id) (hclaim' : swap.claimTxId = none)
    (htx : update.transaction = some transaction) (hpays : ReportsPaying sdk swap transaction)
    (hno : NoClaim update.id w.2
      ((onTransactionConfirmed sdk swap update).run (World.effect sdk) ans w).2.2) :
    StillOngoing update.id row w.2
      ((onTransactionConfirmed sdk swap update).run (World.effect sdk) ans w).2.2 := by
  obtain ⟨txHex, tx, hhex, hdecode, hamount⟩ := hpays
  have hview : view update.id w.2 = (some (standing row), (claimSlot update.id).published w.2) :=
    view_of_row hrow
  have hunchanged : StillOngoing update.id row w.2 w.2 := ⟨_, hview, hstate, hclaim, rfl⟩
  have hread := run_readOnly sdk ans (readOnly_verifyLockupTxStatus sdk swap transaction.id txHex true) w
  have hyields : ∀ tx', ((verifyLockupTxStatus sdk swap transaction.id txHex true).run
      (World.effect sdk) ans w).1 = .ok tx' →
      sdk.deserializeTxHex txHex = some tx' ∧ tx'.txid = transaction.id :=
    (yields_verifyLockupTxStatus swap transaction.id txHex true).run (World.effect sdk) ans w
  revert hno
  unfold onTransactionConfirmed
  rw [Task.bind_eq, Task.run_bind, serverTransaction, htx, okOr, Task.run_ofExcept]
  dsimp only
  rw [Task.bind_eq, Task.run_bind, refuseMrh]
  rcases swap.mrhTxId with _ | mrhTxId
  · dsimp only
    rw [Task.pure_eq, Task.run_done]
    dsimp only
    rw [Task.bind_eq, Task.run_bind, hhex, okOr, Task.run_ofExcept]
    dsimp only
    rw [Task.bind_eq, Task.run_bind, run_mapErr]
    generalize (verifyLockupTxStatus sdk swap transaction.id txHex true).run (World.effect sdk) ans w = r
      at hread hyields
    obtain ⟨err | tx', n, w₁⟩ := r
    · -- the lockup is not confirmed yet
      intro _
      cases hread
      exact hunchanged
    · have hsame : tx' = tx := by
        have hdecode' := (hyields tx' rfl).1
        rw [hdecode] at hdecode'
        exact (Option.some.inj hdecode').symm
      subst hsame
      cases hread
      dsimp only [Except.mapError]
      rw [Task.bind_eq, Task.run_bind, run_requireLockupAmount sdk ans hamount, hclaim', hid]
      dsimp only
      have hnoted : view update.id (w.2.note (.receiveAmountChecked swap tx')) =
        (some (standing row), (claimSlot update.id).published w.2) := hview
      obtain ⟨w₂, hrun, hpending⟩ := run_becomesPending sdk ans
        (w := (n, w.2.note (.receiveAmountChecked swap tx'))) hnoted hstate
      rw [Task.bind_eq, Task.run_bind, hrun]
      dsimp only
      unfold tryClaim
      rw [Task.bind_eq, Task.run_bind, Task.run_attempt]
      dsimp only
      rw [Task.pure_eq, Task.run_done]
      intro hno
      refine ⟨{ standing row with state := .pending }, ?_, .inr rfl, hclaim, rfl⟩
      refine run_claim_noClaim sdk ans (w := (n, w₂)) hpending ?_
      exact hno.trans (congrArg Prod.snd hpending).symm
  · intro _
    exact hunchanged

/-- **Confirmed lockups and the rescan.** If handling a confirmed lockup that pays an unclaimed swap ends
without a claim, the row left behind is rescanned for it exactly if its id was recorded before. -/
theorem transactionConfirmed_retries (hrow : RowIs w.2 update.id row)
    (hstate : row.state = .created ∨ row.state = .pending) (hclaim : row.claimTxId = none)
    (hstatus : sdk.bz.revSwapStates update.status = some .transactionConfirmed)
    (htx : update.transaction = some transaction) (hpays : ReportsPaying sdk row transaction)
    (hno : NoClaim update.id w.2 ((onNewStatus sdk update).run (World.effect sdk) ans w).2.2) :
    Rescanned update.id transaction.id
        ((onNewStatus sdk update).run (World.effect sdk) ans w).2.2.db ↔
      row.lockupTxId = some transaction.id := by
  have hid : row.id = update.id := Table.get?_some_key hrow
  have hrun : (onNewStatus sdk update).run (World.effect sdk) ans w =
      (onTransactionConfirmed sdk (row.withIsLocal (w.2.db.isLocal row.id)) update).run
        (World.effect sdk) ans w := by
    unfold onNewStatus
    rw [Task.bind_eq, Task.run_bind, Task.run_ofExcept, hstatus]
    dsimp only [okOr]
    rw [Task.bind_eq, Task.run_bind, run_fetchReceiveSwapById ans _ hrow]
  rw [hrun] at hno ⊢
  generalize hswap : row.withIsLocal (w.2.db.isLocal row.id) = swap at hno ⊢
  have hpays' : ReportsPaying sdk swap transaction := hswap ▸ hpays
  have hid' : swap.id = update.id := hswap ▸ hid
  have hclaim' : swap.claimTxId = none := hswap ▸ hclaim
  obtain ⟨s, hview, hs, hunclaimed, hlockup⟩ := onTransactionConfirmed_stillOngoing sdk ans hrow hstate
    hclaim hid' hclaim' htx hpays' hno
  rw [rescanned_iff hview, hlockup]
  constructor
  · rintro ⟨-, -, h⟩
    exact h
  · intro h
    exact ⟨hs, hunclaimed, h⟩

end Run

/-- **Confirmed lockups are retried.** What has to hold of a swap and of the answers for a confirmed lockup
to be retried on later blocks, when its handling ends without a claim: of a receive swap, that the id was
recorded before; of a chain swap, that it was and the swap is pending, or that the handler gets to record
it and no other one is recorded. -/
theorem confirmedLockup_retried_iff (sdk : Sdk) (ans : Nat → (q : Call) → q.Answer) (w : Nat × World)
    (update : SwapStatus) (transaction : TransactionInfo)
    (htx : update.transaction = some transaction) :
    (∀ row, RowIs w.2 update.id row → row.state = .created ∨ row.state = .pending →
      row.claimTxId = none → sdk.bz.revSwapStates update.status = some .transactionConfirmed →
      ReportsPaying sdk row transaction →
      NoClaim update.id w.2 ((onNewStatus sdk update).run (World.effect sdk) ans w).2.2 →
      (Rescanned update.id transaction.id
          ((onNewStatus sdk update).run (World.effect sdk) ans w).2.2.db ↔
        row.lockupTxId = some transaction.id)) ∧
    (∀ row, Chain.RowIs w.2 update.id row → row.state = .created ∨ row.state = .pending →
      row.claimTxId = none →
      sdk.bz.chainSwapStates update.status = some .transactionServerConfirmed →
      NoClaim update.id w.2 ((Chain.onNewStatus sdk update).run (World.effect sdk) ans w).2.2 →
      (Chain.Rescanned row.direction update.id transaction.id
          ((Chain.onNewStatus sdk update).run (World.effect sdk) ans w).2.2.db ↔
        AlreadyRecorded sdk ans w.1 row transaction.id ∨ GetsRecorded sdk ans w.1 row transaction)) := by
  constructor
  · intro row hrow hstate hclaim hstatus hpays hno
    exact transactionConfirmed_retries sdk ans hrow hstate hclaim hstatus htx hpays hno
  · intro row hrow hstate hclaim hstatus hno
    exact serverConfirmed_retries sdk ans hrow hstate hclaim hstatus htx hno

/-! ## Lockups that are retried, and lockups that are forgotten -/

/-- The swapper reports the lockup as confirmed. -/
def confirmedUpdate : SwapStatus :=
  { id := "s", status := "transaction.confirmed", transaction := some { id := "lockup", hex := some "hex" } }

/-- A chain service that does not show the confirmation yet. -/
def unconfirmedAnswers : Nat → (q : Call) → q.Answer
  | _, .liquidScriptHistory _ => .ok [⟨"lockup", 0⟩]
  | _, q => q.offline

def swapWorld (swap : ReceiveSwap) : World :=
  { db := { receiveSwaps := (∅ : Table ReceiveSwap.id).insertNew swap } }

def afterUnconfirmed (swap : ReceiveSwap) : World :=
  ((onNewStatus receiveSdk confirmedUpdate).run (World.effect receiveSdk) unconfirmedAnswers
    (0, swapWorld swap)).2.2

/-- A swap whose lockup was seen in the mempool. -/
def seenInMempool : ReceiveSwap := { receivingSwap with lockupTxId := some "lockup", state := .pending }

def lockedOutgoing : ChainSwap := { lockedIncoming with direction := .outgoing }

/-- An incoming swap whose server lockup was replaced. -/
def replacedIncoming : ChainSwap := { lockedIncoming with serverLockupTxId := some "old" }

/-- Services that know the user lockup, and nothing of the server's. -/
def userLockupAnswers : Nat → (q : Call) → q.Answer
  | _, .bitcoinScriptHistory _ => .ok [⟨"user", 10⟩]
  | _, .liquidScriptHistory _ => .ok [⟨"user", 10⟩]
  | _, q => q.offline

def afterServerUnconfirmed (swap : ChainSwap) : World :=
  ((Chain.onNewStatus chainSdk (serverUpdate "transaction.server.confirmed")).run (World.effect chainSdk)
    userLockupAnswers (0, chainWorld swap)).2.2

theorem reportsPaying_lockup (swap : ReceiveSwap) (h : checkLockupAmount receiveSdk swap payingLockup = .ok ()) :
    ReportsPaying receiveSdk swap { id := "lockup", hex := some "hex" } := ⟨"hex", payingLockup, rfl, rfl, h⟩

/-- A receive swap seen in the mempool, and an incoming swap whose lockup fails the verification, are
retried. -/
theorem confirmedLockup_retried_iff_recorded :
    Rescanned "s" "lockup" (afterUnconfirmed seenInMempool).db ∧
      Chain.Rescanned .incoming "s" "server" (afterServerUnconfirmed lockedIncoming).db := by
  have hrow : RowIs (swapWorld seenInMempool) "s" seenInMempool := rfl
  have hno : NoClaim "s" (swapWorld seenInMempool) (afterUnconfirmed seenInMempool) := by decide +kernel
  have hamount : checkLockupAmount receiveSdk seenInMempool payingLockup = .ok () := by decide +kernel
  have hrow' : Chain.RowIs (chainWorld lockedIncoming) "s" lockedIncoming := rfl
  have hno' : NoClaim "s" (chainWorld lockedIncoming) (afterServerUnconfirmed lockedIncoming) := by
    decide +kernel
  have hverified : UserLockupVerified chainSdk userLockupAnswers 0 lockedIncoming := by
    refine ⟨⟨.bitcoin ⟨some "s-lockup", some "s-lockup", .blocks 0⟩, [⟨"user", 10⟩], rfl, rfl, ?_⟩, ?_⟩
    · exact ⟨⟨"user", 10⟩, List.mem_cons_self, rfl⟩
    · exact fun _ => ⟨1000, .inl rfl, .inr rfl⟩
  constructor
  · exact ((confirmedLockup_retried_iff receiveSdk unconfirmedAnswers (0, swapWorld seenInMempool)
      confirmedUpdate _ rfl).1 seenInMempool hrow (.inr rfl) rfl rfl (reportsPaying_lockup _ hamount)
      hno).mpr rfl
  · refine ((confirmedLockup_retried_iff chainSdk userLockupAnswers (0, chainWorld lockedIncoming)
      (serverUpdate "transaction.server.confirmed") _ rfl).2 lockedIncoming hrow' (.inr rfl) rfl rfl
      hno').mpr (.inr ⟨.inl rfl, hverified, ?_⟩)
    intro h
    cases h

/-- A receive swap without a mempool status, an outgoing swap whose lockup is not confirmed yet, and an
incoming swap with the id of a replaced transaction are not. -/
theorem confirmedLockup_forgotten :
    (ReportsPaying receiveSdk receivingSwap { id := "lockup", hex := some "hex" } ∧
      NoClaim "s" (swapWorld receivingSwap) (afterUnconfirmed receivingSwap) ∧
      ¬ Rescanned "s" "lockup" (afterUnconfirmed receivingSwap).db) ∧
    (NoClaim "s" (chainWorld lockedOutgoing) (afterServerUnconfirmed lockedOutgoing) ∧
      ¬ Chain.Rescanned .outgoing "s" "server" (afterServerUnconfirmed lockedOutgoing).db) ∧
    NoClaim "s" (chainWorld replacedIncoming) (afterServerUnconfirmed replacedIncoming) ∧
      ¬ Chain.Rescanned .incoming "s" "server" (afterServerUnconfirmed replacedIncoming).db := by
  have hreceive : view "s" (afterUnconfirmed receivingSwap) = (some ⟨.created, none, none⟩, []) := by
    decide +kernel
  have houtgoing : Chain.view "s" (afterServerUnconfirmed lockedOutgoing) =
      (some ⟨.outgoing, .pending, none, none⟩, []) := by decide +kernel
  have hincoming : Chain.view "s" (afterServerUnconfirmed replacedIncoming) =
      (some ⟨.incoming, .pending, some "old", none⟩, []) := by decide +kernel
  refine ⟨⟨reportsPaying_lockup _ (by decide +kernel), by decide +kernel, fun h => ?_⟩,
    ⟨by decide +kernel, fun h => ?_⟩, by decide +kernel, fun h => ?_⟩
  · have hlockup := ((rescanned_iff hreceive "lockup").mp h).2.2
    cases hlockup
  · have hlockup := ((Chain.rescanned_iff houtgoing .outgoing "server").mp h).2.2.2
    cases hlockup
  · have hlockup := ((Chain.rescanned_iff hincoming .incoming "server").mp h).2.2.2
    exact absurd hlockup (by decide)

end BreezLiquid.Receive
