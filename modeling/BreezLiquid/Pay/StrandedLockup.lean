/-
# BreezLiquid.Pay.StrandedLockup — lockups that later blocks and recovery still find.

A send swap is refunded by a block when it is pending, and recovered when it is created or pending. Its
lockup id is set before the broadcast, while its state becomes `Pending` only after it. In between, a stop
and the sweep of the next start, a status handler with an old snapshot, or a timeout can put a created swap
into a state that no list has. This module says which steps these are: all others leave a swap whose lockup
was sent, and which is neither claimed nor refunded, in the lists.
-/
import BreezLiquid.Pay.Footprint
import BreezLiquid.Pay.LockupOnce

namespace BreezLiquid.Pay

open Interleaving Recover Tables Collections Send
open Chain (NoPush NoLockup effect_note)

/-! ## The system -/

/-- A payment, the handler, a task that writes recovered swaps, or the start of the SDK. -/
inductive Role where
  | payment
  | handler
  | recovery
  | start
  deriving DecidableEq

/-- The tasks of each role. A claimed swap is handled by recovering it. The SDK starts before anything
else runs; a stop aborts all tasks. -/
inductive Spawned (sdk : Sdk) : List Role → Role → Async Unit → Prop where
  | payment (roles : List Role) (req : SendPaymentViaSwapRequest) :
      Spawned sdk roles .payment (payment sdk req)
  | status (roles : List Role) (update : SwapStatus)
      (h : sdk.bz.subSwapStates update.status ≠ some .transactionClaimed) :
      Spawned sdk roles .handler (onNewStatus sdk update)
  | claimed (roles : List Role) (update : SwapStatus)
      (h : sdk.bz.subSwapStates update.status = some .transactionClaimed) :
      Spawned sdk roles .recovery (onNewStatus sdk update)
  | liquidBlock (roles : List Role) : Spawned sdk roles .handler (onLiquidBlock sdk)
  | syncRecoverable (roles : List Role) (swaps : List Swap) (tips : Option ChainTips)
      (h : ∀ s, .send s ∈ swaps → IsOngoing s.state) :
      Spawned sdk roles .recovery (syncRecoverableSwaps sdk swaps tips)
  | start : Spawned sdk [] .start start

/-- A row of a swap stays, and a changed row has a higher version. -/
def Versioned (id : SwapId) (w w' : World) : Prop :=
  ∀ row, RowIs w id row → ∃ row', RowIs w' id row' ∧
    (row' = row ∨ row.metadata.version < row'.metadata.version)

/-- The rest of the SDK may change anything but the history, and changes rows by updates, which raise
their version. -/
def sendSystem (sdk : Sdk) : System World Call Call.Answer Err Role where
  effect := World.effect sdk
  spawns roles _ r t := Spawned sdk roles r t
  env w w' := w'.trace = w.trace ∧ ∀ id, Versioned id w w'

/-! ## Lockups that are found -/

/-- The event hands a lockup of the swap to the network, whether or not the reply arrives. -/
def SendsLockup (id : SwapId) : Event → Prop
  | .lockupBroadcast swapId _ | .replyLost (.lockup swapId) _ => swapId = id
  | _ => False

/-- A lockup of the swap was handed to the network. -/
def LockupSent (id : SwapId) (w : World) : Prop := ∃ e ∈ w.trace, SendsLockup id e

/-- The swap is in one of the lists that refunds and recovery go through. -/
def Listed (id : SwapId) (db : Db) : Prop :=
  ∃ s ∈ db.listPendingSendSwaps ++ db.listRecoverableSendSwaps, s.id = id

/-- The row is listed, or its swap was claimed or refunded. -/
def Accounted (row : SendSwap) : Prop :=
  IsOngoing row.state ∨ row.preimage.isSome ∨ row.refundTxId.isSome

/-- A sent lockup is accounted for. -/
def SentAccounted (id : SwapId) (w : World) : Prop :=
  LockupSent id w → ∃ row, RowIs w id row ∧ Accounted row

/-- The step does not move the swap to the state, unless its lockup was not sent yet. -/
def NotMovedTo (target : PaymentState) (id : SwapId) (w w' : World) : Prop :=
  ∀ row row', RowIs w id row → RowIs w' id row' → row'.state = target → row.state ≠ target → ¬ LockupSent id w

/-- Steps that do not strand a lockup. A payment sends it while the row is listed; payments and the handler
do not time out or fail the swap after that; a start finds no created swap whose lockup was sent; recovery
does not overlook the lockup of a swap that it takes off the lists; and what the rest of the SDK writes is
accounted for. -/
def KeepsListed (id : SwapId) : Cond World Role
  | .own .payment, w, w' => NotMovedTo .timedOut id w w' ∧
      (∀ e, w'.trace = e :: w.trace → SendsLockup id e → ∃ row, RowIs w id row ∧ IsOngoing row.state)
  | .own .handler, w, w' => NotMovedTo .failed id w w'
  | .own .start, w, _ => ∀ row, RowIs w id row → row.state = .created → w.db.isLocal id = true →
      ¬ LockupSent id w
  | .own .recovery, w, w' => ∀ row row', RowIs w id row → RowIs w' id row' → row' ≠ row →
      row'.lockupTxId = none → IsOngoing row'.state ∨ ¬ LockupSent id w
  | .env, w, w' => ∀ row, RowIs w id row → LockupSent id w → Accounted row →
      ∃ row', RowIs w' id row' ∧ Accounted row'
  | _, _, _ => True

theorem versioned_refl (id : SwapId) (w : World) : Versioned id w w :=
  fun row hrow => ⟨row, hrow, .inl rfl⟩

theorem Versioned.trans {id : SwapId} {w w' w'' : World} (h : Versioned id w w') (h' : Versioned id w' w'') :
    Versioned id w w'' := by
  intro row hrow
  obtain ⟨row', hrow', hversion⟩ := h row hrow
  obtain ⟨row'', hrow'', hversion'⟩ := h' row' hrow'
  refine ⟨row'', hrow'', ?_⟩
  rcases hversion with rfl | hlt
  · exact hversion'
  · rcases hversion' with rfl | hlt'
    · exact .inr hlt
    · exact .inr (hlt.trans hlt')

/-- The ongoing states are the listed ones. -/
theorem isOngoing_contains {state : PaymentState} :
    IsOngoing state ↔ [PaymentState.created, .pending, .refundPending].contains state = true := by
  unfold IsOngoing
  cases state <;> decide

theorem listed_of_isOngoing {w : World} {id : SwapId} {row : SendSwap} (hrow : RowIs w id row)
    (h : IsOngoing row.state) : Listed id w.db := by
  have hid : row.id = id := Table.get?_some_key hrow
  refine ⟨row.withIsLocal (w.db.isLocal row.id), List.mem_append_right _ (List.mem_filter.mpr ⟨?_, ?_⟩), hid⟩
  · refine List.mem_map.mpr ⟨row, ?_, rfl⟩
    rw [orderByCreatedAt, List.mem_insertionSort]
    exact Table.mem_of_get? hrow
  · exact isOngoing_contains.mp h

/-! ## What a write may do to the row -/

/-- The history is the same, and the row of the swap is still there, with what is known of a claim or a
refund; its state is the same or `target`, or else it is accounted for. -/
structure Moves (target : PaymentState) (id : SwapId) (w w' : World) : Prop where
  trace : w'.trace = w.trace
  row : ∀ row, RowIs w id row → ∃ row', RowIs w' id row' ∧
    (row' = row ∨ row.metadata.version < row'.metadata.version) ∧
    (Accounted row' ∨ (row'.state = row.state ∨ row'.state = target) ∧
      (row.preimage.isSome → row'.preimage.isSome) ∧ (row.refundTxId.isSome → row'.refundTxId.isSome))

theorem moves_same {target : PaymentState} {id : SwapId} {w w' : World} (htrace : w'.trace = w.trace)
    (hrows : w'.db.sendSwaps = w.db.sendSwaps) : Moves target id w w' := by
  refine ⟨htrace, fun row hrow => ⟨row, ?_, .inl rfl, .inr ⟨.inl rfl, fun h => h, fun h => h⟩⟩⟩
  show w'.db.sendSwaps.get? id = some row
  rw [hrows]
  exact hrow

theorem moves_refl {target : PaymentState} {id : SwapId} (w : World) : Moves target id w w := moves_same rfl rfl

/-- An update of send swaps. -/
theorem moves_update {target : PaymentState} {id : SwapId} {w w' : World} (htrace : w'.trace = w.trace)
    {now : Nat} {p : SendSwap → Bool} {g : SendSwap → SendSwap} {hg : ∀ s, (g s).id = s.id}
    (hrows : w'.db.sendSwaps = (w.db.updateSendSwaps now p g hg).sendSwaps)
    (h : ∀ s, (g s).metadata = s.metadata ∧ (Accounted (g s) ∨ ((g s).state = s.state ∨ (g s).state = target) ∧
      (s.preimage.isSome → (g s).preimage.isSome) ∧ (s.refundTxId.isSome → (g s).refundTxId.isSome))) :
    Moves target id w w' := by
  refine ⟨htrace, fun row hrow => ?_⟩
  have hget : w'.db.sendSwaps.get? id =
      some (if p row then { g row with metadata := (g row).metadata.touch now } else row) := by
    rw [hrows, Db.get?_updateSendSwaps, hrow, Option.map_some]
  refine ⟨_, hget, ?_⟩
  split
  · refine ⟨.inr ?_, (h row).2⟩
    show row.metadata.version < (g row).metadata.version + 2
    rw [(h row).1]
    omega
  · exact ⟨.inl rfl, .inr ⟨.inl rfl, fun h => h, fun h => h⟩⟩

/-- A move of the row raises its version. -/
theorem Moves.versioned {target : PaymentState} {id : SwapId} {w w' : World} (h : Moves target id w w') :
    Versioned id w w' := by
  intro row hrow
  obtain ⟨row', hrow', hversion, -⟩ := h.row row hrow
  exact ⟨row', hrow', hversion⟩

/-- A step that moves the row only where it may keeps a sent lockup accounted for. -/
theorem Moves.sentAccounted {target : PaymentState} {id : SwapId} {w w' : World} (h : Moves target id w w')
    (hnot : NotMovedTo target id w w') (hw : SentAccounted id w) : SentAccounted id w' := by
  intro hsent
  have hsent' : LockupSent id w := by
    unfold LockupSent at hsent
    rw [h.trace] at hsent
    exact hsent
  obtain ⟨row, hrow, haccounted⟩ := hw hsent'
  obtain ⟨row', hrow', -, hmoved⟩ := h.row row hrow
  refine ⟨row', hrow', ?_⟩
  rcases hmoved with hmoved | ⟨hstate, hpreimage, hrefund⟩
  · exact hmoved
  · rcases haccounted with hongoing | hclaimed | hrefunded
    · rcases hstate with hstate | hstate
      · exact .inl (hstate ▸ hongoing)
      · -- the row has been in that state already
        have hsame : row.state = target := by
          by_contra hne
          exact hnot row row' hrow hrow' hstate hne hsent'
        exact .inl ((hstate.trans hsame.symm) ▸ hongoing)
    · exact .inr (.inl (hpreimage hclaimed))
    · exact .inr (.inr (hrefund hrefunded))

/-- A transaction on send swaps whose transitions lead to a listed state, to `target`, or bring a preimage. -/
theorem moves_sendWrite {sdk : Sdk} {target : PaymentState} {id : SwapId} {f : World → World}
    (h : SendWrite sdk (fun toState preimage => Leads target toState preimage ∨ preimage.isSome) f) (w : World) :
    Moves target id w (f w) := by
  cases h with
  | id => exact moves_refl w
  | transition swapId toState preimage lockupTxId refundTxId h =>
      refine moves_update rfl (Db.commitOutgoing_sendSwaps ..) fun s => ⟨rfl, ?_⟩
      rcases h with ⟨-, hongoing | htarget⟩ | hpreimage
      · exact .inl (.inl hongoing)
      · refine .inr ⟨.inr htarget, fun hs => ?_, fun hs => ?_⟩
        · show (s.preimage.or preimage).isSome = true
          rw [Option.isSome_or, hs, Bool.true_or]
        · show (s.refundTxId.or refundTxId).isSome = true
          rw [Option.isSome_or, hs, Bool.true_or]
      · refine .inl (.inr (.inl ?_))
        show (s.preimage.or preimage).isSome = true
        rw [Option.isSome_or, hpreimage, Bool.or_true]
  | details details => exact moves_same rfl (Db.commitOutgoing_sendSwaps ..)
  | refundAddress swapId address =>
      exact moves_update rfl rfl fun s => ⟨rfl, .inr ⟨.inl rfl, fun hs => hs, fun hs => hs⟩⟩
  | setLockup swapId txId =>
      rcases World.tryWrite_cases (fun now db => db.setSendSwapLockupTxId now swapId txId) w with
        ⟨db, hdb, h⟩ | h
      · unfold Db.setSendSwapLockupTxId at hdb
        dsimp only at hdb
        split at hdb
        · cases hdb
          rw [h]
          exact moves_update rfl rfl fun s => ⟨rfl, .inr ⟨.inl rfl, fun hs => hs, fun hs => hs⟩⟩
        · cases hdb
      · rw [h]
        exact moves_refl w
  | unsetLockup swapId txId =>
      exact moves_update rfl rfl fun s => ⟨rfl, .inr ⟨.inl rfl, fun hs => hs, fun hs => hs⟩⟩
  | payment ptx => exact moves_same rfl rfl
  | create maybeSwap swap hcreated =>
      rcases World.tryWrite_cases (fun now db => db.insertOrUpdateSendSwap sdk.persister now maybeSwap swap) w
        with ⟨db, hdb, h⟩ | h
      · obtain ⟨db₁, hinner, hdb⟩ := except_bind_eq_ok.mp hdb
        cases hdb
        rw [h]
        refine ⟨rfl, fun row hrow => ?_⟩
        obtain ⟨row', hrow', hwritten⟩ := Db.sendSwap_after_write hinner hrow
        refine ⟨row', ?_, ?_⟩
        · show (Db.commitUpdatedFields ..).sendSwaps.get? id = some row'
          rw [Db.commitUpdatedFields_sendSwaps]
          exact hrow'
        · rcases hwritten with rfl | ⟨-, -, rfl⟩
          · exact ⟨.inl rfl, .inr ⟨.inl rfl, fun hs => hs, fun hs => hs⟩⟩
          · exact ⟨.inr (Nat.lt_add_of_pos_right Nat.two_pos), .inl (.inl (.inl hcreated.1))⟩
      · rw [h]
        exact moves_refl w

/-! ## What the tasks write -/

section Tasks

variable {sdk : Sdk} {id : SwapId} {G : Call → Prop} {target : PaymentState}

/-- All transactions of the task move the row at most to the state. -/
abbrev MovesOnly (G : Call → Prop) (target : PaymentState) (id : SwapId) {α : Type} (t : Async α) : Prop :=
  t.Within (fun f => ∀ w, Moves target id w (f w)) G

/-- What the handler does to the row, from what it is made of ... -/
theorem movesOnly_of_footprint {α : Type} {t : Async α} (h : Footprint sdk (Leads target) G t) :
    MovesOnly G target id t :=
  h.mono (fun _ hf => moves_sendWrite (hf.mono fun _ _ => .inl)) fun _ hq => hq

/-- ... a payment ... -/
theorem movesOnly_payment (req : SendPaymentViaSwapRequest) :
    MovesOnly NoPush .timedOut id (payment sdk req) :=
  Task.Within.bind (movesOnly_of_footprint (footprint_sendPaymentViaSwap req)) fun _ => Task.within_done _

/-- ... and a status, unless it tells of the claim. -/
theorem movesOnly_onNewStatus {update : SwapStatus}
    (h : sdk.bz.subSwapStates update.status ≠ some .transactionClaimed) :
    MovesOnly NoLockup .failed id (onNewStatus sdk update) := by
  have hunrecoverable : ∀ swap, MovesOnly NoLockup .failed id (onUnrecoverable sdk swap) := fun swap =>
    movesOnly_of_footprint (footprint_onUnrecoverable swap)
  unfold onNewStatus
  rcases hstate : sdk.bz.subSwapStates update.status with _ | swapState
  · exact Task.within_done _
  · rw [hstate] at h
    rw [okOr, Task.bind_eq, Task.ofExcept_ok_bind]
    have hfetch : Footprint sdk (Leads .failed) NoLockup (fetchSendSwapById update.id) :=
      footprint_fetchSendSwapById update.id
    refine Task.Within.bind (movesOnly_of_footprint hfetch) fun swap => ?_
    cases swapState with
    | transactionClaimed => exact absurd rfl h
    | transactionClaimPending =>
        dsimp only
        split
        · have hpreimage : Footprint sdk (Leads .failed) NoLockup (claimPendingPreimage sdk swap) :=
            footprint_claimPendingPreimage swap
          refine Task.Within.bind (movesOnly_of_footprint hpreimage) fun preimage => ?_
          exact (footprint_updateSwapInfo swap.id _ _ (.inr rfl)).mono (fun _ hf => moves_sendWrite hf)
            fun _ hq => hq
        · exact Task.within_done _
    | transactionLockupFailed => exact hunrecoverable swap
    | invoiceFailedToPay => exact hunrecoverable swap
    | swapExpired => exact hunrecoverable swap
    | invoiceSet => exact Task.within_done _
    | unhandled => exact Task.within_done _

end Tasks

/-! ## Recovery -/

/-- With a lockup on chain, the derived state is listed, or there is a preimage or a refund. -/
theorem derivePartialState_found {r : RecoveredOnchainDataSend} {preimage : Option String} {isExpired : Bool}
    (h : r.lockupTxId ≠ none) : ∃ state,
      SendSwapHandler.derivePartialState r preimage isExpired = some state ∧
        (IsOngoing state ∨ preimage.isSome ∨ r.refundTxId.isSome) := by
  obtain ⟨lockupTx, hlockup⟩ := Option.ne_none_iff_exists'.mp h
  unfold SendSwapHandler.derivePartialState
  rw [hlockup]
  cases preimage with
  | some preimage => exact ⟨_, rfl, .inr (.inl rfl)⟩
  | none =>
      cases r.refundTxId with
      | some refundTx =>
          dsimp only
          split
          · exact ⟨_, rfl, .inr (.inr rfl)⟩
          · exact ⟨_, rfl, .inr (.inr rfl)⟩
      | none =>
          dsimp only
          split
          · exact ⟨_, rfl, .inl (.inr (.inr rfl))⟩
          · exact ⟨_, rfl, .inl (.inr (.inl rfl))⟩

/-- A swap in the state derived for it: its lockup was not found, or it is accounted for. -/
theorem derived_found {s : SendSwap} {r : RecoveredOnchainDataSend} (isExpired : Bool)
    (hlockup : s.lockupTxId = r.lockupTxId.map History.txid)
    (hrefund : s.refundTxId = r.refundTxId.map History.txid) {s' : SendSwap}
    (hs' : (match SendSwapHandler.derivePartialState r s.preimage isExpired with
      | some newState => { s with state := newState }
      | none => s) = s') : s'.lockupTxId = none ∨ Accounted s' := by
  subst hs'
  by_cases hr : r.lockupTxId = none
  · left
    rw [hr] at hlockup
    split
    · exact hlockup
    · exact hlockup
  · right
    obtain ⟨state, hstate, hfound⟩ := derivePartialState_found hr
    rw [hstate]
    rcases hfound with hongoing | hpreimage | hrefunded
    · exact .inl hongoing
    · exact .inr (.inl hpreimage)
    · refine .inr (.inr ?_)
      show s.refundTxId.isSome = true
      rw [hrefund, Option.isSome_map]
      exact hrefunded

/-- A recovered send swap is as it was, or its lockup was not found, or it is accounted for. -/
theorem updateSwap_found {verifyPaymentHash : String → String → Bool} {s : SendSwap}
    {r : RecoveredOnchainDataSend} {height : Nat} {grace : Bool} {s' : SendSwap}
    (hs' : SendSwapHandler.updateSwap verifyPaymentHash s r height grace = s') :
    s' = s ∨ s'.lockupTxId = none ∨ Accounted s' := by
  unfold SendSwapHandler.updateSwap at hs'
  split at hs'
  · exact .inl hs'.symm
  · refine .inr (derived_found _ ?_ ?_ hs')
    · dsimp only
      split
      · split
        · rfl
        · rfl
      · rfl
    · dsimp only
      split
      · split
        · rfl
        · rfl
      · rfl

/-- What a recovery returns for a send swap: the same row and version, found or not. -/
def Found : Swap → Swap × Outcome → Prop
  | .send s, (.send s', _) => s'.id = s.id ∧ s'.metadata.version = s.metadata.version ∧
      (s' = s ∨ s'.lockupTxId = none ∨ Accounted s')
  | .send _, _ | .receive _, (.send _, _) | .chain _, (.send _, _) => False
  | _, _ => True

/-- What a recovery finds keeps an ongoing swap listed. -/
theorem recoverSwap_found (sdk : Sdk) (swapContext : ReceiveOrSendSwapRecoveryContext)
    (chainContext : Option ChainSwapRecoveryContext) (startedAt : Nat) (swap : Swap) :
    (Recoverer.recoverSwap sdk swapContext chainContext startedAt swap).Yields fun x =>
      ∀ r, x = .ok r → Found swap r := by
  cases swap with
  | send s =>
      -- without a history the swap comes back as it was
      have hrecovered : ∀ grace, (SendSwapHandler.recoverSwap sdk swapContext s grace).Yields fun x =>
          ∀ r, x = .ok r → Found (.send s) (.send r.1, r.2) := by
        intro grace
        unfold SendSwapHandler.recoverSwap
        split
        · rintro r ⟨⟩
          exact ⟨rfl, rfl, .inl rfl⟩
        · refine Task.Yields.bind (Task.Yields.mono (Task.yields_true _) fun x _ => ?_)
          cases x with
          | error err => rintro r ⟨⟩
          | ok data =>
              rintro r ⟨⟩
              obtain ⟨hid, hmeta⟩ := SendSwapHandler.updateSwap_sameRow sdk.verifyPaymentHash s data
                swapContext.liquidTipHeight grace
              exact ⟨hid, congrArg SwapMetadata.version hmeta, updateSwap_found rfl⟩
      refine Task.Yields.bind (Task.Yields.mono (hrecovered _) fun x h => ?_)
      cases x with
      | error err => rintro r ⟨⟩
      | ok data =>
          rintro r ⟨⟩
          exact h data rfl
  | receive s =>
      rintro r ⟨⟩
      trivial
  | chain s =>
      simp only [Recoverer.recoverSwap]
      cases chainContext with
      | none =>
          rintro r ⟨⟩
          trivial
      | some context =>
          cases s.direction with
          | outgoing =>
              rintro r ⟨⟩
              trivial
          | incoming =>
              rintro r ⟨⟩
              trivial

/-- The swap may be written over its row: it is accounted for, its lockup was not found, or it is as the
row was in its version. -/
def Writable (id : SwapId) (s : SendSwap) (w : World) : Prop :=
  s.id = id → Accounted s ∨ s.lockupTxId = none ∨
    ∃ row, RowIs w id row ∧ s.metadata.version ≤ row.metadata.version ∧
      (row.metadata.version = s.metadata.version → Accounted row → Accounted s)

/-- A write that may come may come later: the version only rises. -/
theorem Writable.stable {id : SwapId} {s : SendSwap} {w w' : World} (h : Writable id s w)
    (hversioned : Versioned id w w') : Writable id s w' := by
  intro hid
  rcases h hid with haccounted | hnone | ⟨row, hrow, hle, hsame⟩
  · exact .inl haccounted
  · exact .inr (.inl hnone)
  · obtain ⟨row', hrow', hversion⟩ := hversioned row hrow
    refine .inr (.inr ⟨row', hrow', ?_⟩)
    rcases hversion with rfl | hlt
    · exact ⟨hle, hsame⟩
    · refine ⟨hle.trans hlt.le, fun hversion => ?_⟩
      omega

/-- Every role relies on the versions of the row. -/
def listedProtocol (id : SwapId) : Protocol World Role :=
  .uniform (SentAccounted id) (Versioned id) (versioned_refl id) fun h h' => h.trans h'

/-- The write of a recovered swap, under the version it was read in. -/
theorem keeps_insertOrUpdateSendSwap {sdk : Sdk} {id : SwapId} {maybeSwap : Option SendSwap} {s : SendSwap}
    {w w' : World} (hw' : w' = w.tryWrite fun now db => db.insertOrUpdateSendSwap sdk.persister now maybeSwap s)
    (hs : Writable id s w) (hcond : KeepsListed id (.own .recovery) w w') (hw : SentAccounted id w) :
    SentAccounted id w' ∧ Versioned id w w' := by
  rcases World.tryWrite_cases (fun now db => db.insertOrUpdateSendSwap sdk.persister now maybeSwap s) w
    with ⟨db, hdb, h⟩ | h
  · obtain ⟨db₁, hinner, hdb⟩ := except_bind_eq_ok.mp hdb
    cases hdb
    rw [h] at hw'
    -- the guard of the update lets it write only the version that was read
    have hrows : ∀ row, RowIs w id row → ∃ row', RowIs w' id row' ∧ (row' = row ∨
        row.id = s.id ∧ row.metadata.version = s.metadata.version ∧
          row' = { Db.sendSwapUpdate s row with metadata := row.metadata.touch w.now }) := by
      intro row hrow
      obtain ⟨row', hrow', hwritten⟩ := Db.sendSwap_after_write hinner hrow
      refine ⟨row', ?_, hwritten⟩
      rw [hw']
      show (Db.commitUpdatedFields ..).sendSwaps.get? id = some row'
      rw [Db.commitUpdatedFields_sendSwaps]
      exact hrow'
    have hversion : ∀ row : SendSwap, row.metadata.version < (row.metadata.touch w.now).version :=
      fun row => Nat.lt_add_of_pos_right Nat.two_pos
    constructor
    · intro hsent
      have hsent' : LockupSent id w := by
        rw [hw'] at hsent
        exact hsent
      obtain ⟨row, hrow, haccounted⟩ := hw hsent'
      obtain ⟨row', hrow', hwritten⟩ := hrows row hrow
      refine ⟨row', hrow', ?_⟩
      rcases hwritten with rfl | ⟨hid, hsame, hwritten⟩
      · exact haccounted
      · have hne : row' ≠ row := by
          rintro rfl
          exact absurd (congrArg (fun s => s.metadata.version) hwritten) (hversion row').ne
        have hfields : Accounted s → Accounted row' := by
          rw [hwritten]
          exact fun h => h
        -- what is written over an accounted row: an accounted swap, one without its lockup, or the same version of it
        rcases hs (hid.symm.trans (Table.get?_some_key hrow)) with haccounted' | hnone | ⟨row₁, hrow₁, -, h₁⟩
        · exact hfields haccounted'
        · have hlockup : row'.lockupTxId = none := by
            rw [hwritten]
            exact hnone
          rcases hcond row row' hrow hrow' hne hlockup with hongoing | hnot
          · exact .inl hongoing
          · exact absurd hsent' hnot
        · cases hrow.symm.trans hrow₁
          exact hfields (h₁ hsame haccounted)
    · intro row hrow
      obtain ⟨row', hrow', hwritten⟩ := hrows row hrow
      refine ⟨row', hrow', ?_⟩
      rcases hwritten with hsame | ⟨-, -, rfl⟩
      · exact .inl hsame
      · exact .inr (hversion row)
  · rw [hw', h]
    exact ⟨hw, versioned_refl id w⟩

section Recovery

variable {sdk : Sdk} {id : SwapId}

/-- The transactions of writing a recovered swap. -/
def RecoveryWrite (sdk : Sdk) (s : SendSwap) (f : World → World) : Prop :=
  (∀ w, (f w).trace = w.trace ∧ (f w).db.sendSwaps = w.db.sendSwaps) ∨
    ∃ maybeSwap, f = World.tryWrite fun now db => db.insertOrUpdateSendSwap sdk.persister now maybeSwap s

/-- Writing a recovered swap is one guarded write. -/
theorem within_updateSwap (s : SendSwap) :
    (updateSwap sdk s).Within (RecoveryWrite sdk s) Call.Quiet := by
  have hid : RecoveryWrite sdk s fun w => w := .inl fun w => ⟨rfl, rfl⟩
  have hdetails : ∀ details, RecoveryWrite sdk s
      (World.write fun now db => db.insertOrUpdatePaymentDetails sdk.persister now details) := fun details =>
    .inl fun w => ⟨rfl, Db.commitOutgoing_sendSwaps ..⟩
  refine Task.Within.bind ?_ fun before => ?_
  · exact Task.Within.bind (within_fetch hid _) fun _ => Task.within_done _
  · refine Task.Within.bind (within_updateSwapLnurlInfo hid hdetails before s) fun updated => ?_
    split
    · exact Task.Within.bind (within_fetch hid _) fun maybeSwap => within_tryWrite (.inr ⟨maybeSwap, rfl⟩)
    · exact Task.within_done _

/-- A part of a recovery. -/
abbrev Recovery {α : Type} (sdk : Sdk) (id : SwapId) (t : Async α) (post : α → World → Prop) (w : World) :
    Prop := Safe (sendSystem sdk) (KeepsListed id) (listedProtocol id) .recovery t (OnOk post) w

/-- It is harmless for a row that was read ... -/
theorem recovery_updateSwap {s : SendSwap} {w : World} (hs : Writable id s w) :
    Recovery sdk id (updateSwap sdk s) (fun _ _ => True) w := by
  have hsafe : Safe (sendSystem sdk) (KeepsListed id) (listedProtocol id) .recovery (updateSwap sdk s)
      (fun _ w => Writable id s w) w := by
    refine safe_of_within (fun w w' h _ hs => hs.stable h) (fun f hf w hw hs hcond => ?_)
      (fun q hq a w hw hs _ => ?_) (within_updateSwap s) hs
    · rcases hf with hsame | ⟨maybeSwap, rfl⟩
      · have hmoves : Moves .failed id w (f w) := moves_same (hsame w).1 (hsame w).2
        have hkept : SentAccounted id (f w) := by
          refine hmoves.sentAccounted (fun row row' hrow hrow' hstate hne => ?_) hw
          rw [RowIs, (hsame w).2, hrow] at hrow'
          cases hrow'
          exact absurd hstate hne
        exact ⟨hkept, hmoves.versioned, hs.stable hmoves.versioned⟩
      · obtain ⟨hkept, hversioned⟩ := keeps_insertOrUpdateSendSwap rfl hs hcond hw
        exact ⟨hkept, hversioned, hs.stable hversioned⟩
    · rw [show (sendSystem sdk).effect q a w = w from effect_of_quiet sdk hq a w]
      exact ⟨hw, versioned_refl id w, hs⟩
  exact hsafe.mono fun x w _ _ => by cases x <;> trivial

theorem recovery_readOnly {α : Type} {t : Async α} (h : ReadOnly t) {post : α → Prop}
    (hpost : t.Yields fun x => ∀ a, x = .ok a → post a) (w : World) :
    Recovery sdk id t (fun a _ => post a) w := by
  have hbenign : Benign (sendSystem sdk) (KeepsListed id) (listedProtocol id) .recovery t := by
    refine h.mono (fun f hf w hw _ => ?_) fun q hq a w _ hw _ => ?_
    · rw [hf]
      exact ⟨hw, versioned_refl id w⟩
    · rw [show (sendSystem sdk).effect q a w = w from effect_of_quiet sdk hq.quiet a w]
      exact ⟨hw, versioned_refl id w⟩
  have hsafe : Safe (sendSystem sdk) (KeepsListed id) (listedProtocol id) .recovery t (fun _ _ => True) w :=
    hbenign.safe_of (fun _ _ h => h) fun _ _ _ _ => trivial
  refine (hsafe.yields hpost).mono fun x w _ hx => ?_
  rcases x with err | a
  · trivial
  · exact hx.1 a rfl

/-- ... so a whole recovery is, of swaps that were ongoing when they were read. -/
theorem recovery_syncRecoverableSwaps {swaps : List Swap} {tips : Option ChainTips}
    (h : ∀ s, .send s ∈ swaps → IsOngoing s.state) (w : World) :
    Recovery sdk id (syncRecoverableSwaps sdk swaps tips) (fun _ _ => True) w := by
  have hrecover : Recovery sdk id (Recoverer.recoverFromOnchain sdk swaps tips)
      (fun res _ => List.Forall₂ Found swaps res.1) w :=
    recovery_readOnly (readOnly_recoverFromOnchain sdk swaps tips)
      ((recoverFromOnchain_forall₂ sdk (recoverSwap_found sdk) swaps tips).mono
        fun x hx res hres => hx _ _ hres) w
  refine hrecover.bind_ok (fun _ _ h => h) fun res w₁ _ _ hfound => ?_
  refine Safe.forEach (fun _ _ h => h) fun result hresult w₂ _ _ => ?_
  obtain ⟨swap, hswap, hswap'⟩ := exists_partner hfound hresult
  rcases result with ⟨_ | s | _, outcome⟩
  · exact safe_ok fun _ _ _ => trivial
  · -- the swap was listed, so it is ongoing unless the recovery changed it
    have hs : Writable id s w₂ := by
      intro _
      cases swap with
      | send s₀ =>
          rcases hswap'.2.2 with rfl | hnone | haccounted
          · exact .inl (.inl (h s hswap))
          · exact .inr (.inl hnone)
          · exact .inl haccounted
      | receive s₀ => exact hswap'.elim
      | chain s₀ => exact hswap'.elim
    exact (recovery_updateSwap hs).attempt_ok.bind_ok (fun _ _ h => h) fun _ _ _ _ _ =>
      safe_ok fun _ _ _ => trivial
  · exact safe_ok fun _ _ _ => trivial

/-- A claimed swap that is recovered has been read in the version it is written under. -/
theorem recovery_onNewStatus {update : SwapStatus}
    (h : sdk.bz.subSwapStates update.status = some .transactionClaimed) (w : World) :
    Recovery sdk id (onNewStatus sdk update) (fun _ _ => True) w := by
  unfold onNewStatus
  rw [h, okOr, Task.bind_eq, Task.ofExcept_ok_bind]
  intro w₁ _ hw₁ _
  refine ⟨hw₁, versioned_refl id w₁, ?_⟩
  refine Safe.ofExcept_bind fun swap hswap => ?_
  dsimp only
  cases hpreimage : swap.preimage with
  | some preimage => exact safe_ok fun _ _ _ => trivial
  | none =>
      have hrecover : Recovery sdk id (Recoverer.recoverFromOnchain sdk [.send swap] none)
          (fun res _ => List.Forall₂ Found [.send swap] res.1) w₁ :=
        recovery_readOnly (readOnly_recoverFromOnchain sdk _ none)
          ((recoverFromOnchain_forall₂ sdk (recoverSwap_found sdk) [.send swap] none).mono
            fun x hx res hres => hx _ _ hres) w₁
      refine hrecover.bind_ok (fun _ _ h => h) fun res w₂ h₂ _ hfound => ?_
      obtain ⟨results, txs⟩ := res
      cases hfound with
      | @cons _ result _ rest hfound _ =>
      rcases result with ⟨_ | s | _, outcome⟩
      · exact hfound.elim
      · have hs : Writable id s w₁ := by
          intro hid
          obtain ⟨row, hrow, rfl⟩ := Db.fetchSendSwapById_eq_some (okOr_eq_ok.mp hswap)
          obtain ⟨hsame, hversion, hfound⟩ := hfound
          rcases hfound with rfl | hnone | haccounted
          · have hupdate : update.id = id := (Table.get?_some_key hrow).symm.trans hid
            refine .inr (.inr ⟨row, ?_, le_refl _, fun _ h => h⟩)
            rw [← hupdate]
            exact hrow
          · exact .inr (.inl hnone)
          · exact .inl haccounted
        exact recovery_updateSwap (hs.stable h₂)
      · exact hfound.elim

end Recovery

/-! ## The start -/

section Results

variable {sdk : Sdk} {id : SwapId}

/-- A start sweeps no swap whose lockup was sent. -/
theorem keeps_start {w w' : World}
    (hw' : w' = w.write fun now db => db.updateSendSwapsByState now .created .timedOut (some true))
    (hcond : KeepsListed id (.own .start) w w') (hw : SentAccounted id w) :
    SentAccounted id w' ∧ Versioned id w w' := by
  have hget : ∀ row, RowIs w id row → RowIs w' id (if row.state = .created ∧ w.db.isLocal row.id = true
      then { row with state := .timedOut, metadata := row.metadata.touch w.now } else row) := by
    intro row hrow
    rw [hw']
    show ((w.db.updateSendSwapsByState w.now .created .timedOut (some true)).sendSwaps.get? id) = _
    rw [Db.updateSendSwapsByState, Db.get?_updateSendSwaps, hrow, Option.map_some]
    simp only [Bool.and_eq_true, decide_eq_true_eq, beq_iff_eq]
  constructor
  · intro hsent
    have hsent' : LockupSent id w := by
      rw [hw'] at hsent
      exact hsent
    obtain ⟨row, hrow, haccounted⟩ := hw hsent'
    refine ⟨_, hget row hrow, ?_⟩
    split
    · rename_i hswept
      have hid : row.id = id := Table.get?_some_key hrow
      exact absurd hsent' (hcond row hrow hswept.1 (hid ▸ hswept.2))
    · exact haccounted
  · intro row hrow
    refine ⟨_, hget row hrow, ?_⟩
    split
    · exact .inr (Nat.lt_add_of_pos_right Nat.two_pos)
    · exact .inl rfl

/-- A call adds to the history at most a broadcast. A lockup is sent while the row is listed. -/
theorem keeps_call {q : Call} (hq : NoPush q) {a : q.Answer} {w : World}
    (hsend : ∀ e, (World.effect sdk q a w).trace = e :: w.trace → SendsLockup id e →
      ∃ row, RowIs w id row ∧ IsOngoing row.state) (hw : SentAccounted id w) :
    SentAccounted id (World.effect sdk q a w) ∧ Versioned id w (World.effect sdk q a w) := by
  rcases effect_note sdk hq a w with h | ⟨e, -, h⟩
  · rw [h]
    exact ⟨hw, versioned_refl id w⟩
  · rw [h] at hsend ⊢
    refine ⟨fun hsent => ?_, versioned_refl id w⟩
    obtain ⟨e', hmem, hsends⟩ := hsent
    rcases List.mem_cons.mp hmem with rfl | hmem
    · obtain ⟨row, hrow, hongoing⟩ := hsend _ rfl hsends
      exact ⟨row, hrow, .inl hongoing⟩
    · exact hw ⟨e', hmem, hsends⟩

/-- A broadcast for another purpose sends no lockup. -/
theorem not_sendsLockup_broadcast {purpose : Purpose} (hpurpose : ∀ swapId, purpose ≠ .lockup swapId) (txId : TxId)
    (a : Except Err TxId) (w : World) {e : Event} (h : (w.broadcastEffect purpose txId a).trace = e :: w.trace) :
    ¬ SendsLockup id e := by
  have hevents : (∀ answered, ¬ SendsLockup id (w.broadcastEvent txId answered purpose)) ∧
      ¬ SendsLockup id (.replyLost purpose txId) := by
    cases purpose with
    | lockup swapId => exact absurd rfl (hpurpose swapId)
    | claim swapId => exact ⟨fun _ h => h, fun h => h⟩
    | refund swapId => exact ⟨fun _ h => h, fun h => h⟩
    | payment address => exact ⟨fun _ h => h, fun h => h⟩
    | reported swapId reportedId => exact ⟨fun _ h => h, fun h => h⟩
  rcases World.broadcastEffect_cases purpose txId a w with heffect | ⟨answered, heffect⟩ | heffect
  · rw [heffect] at h
    exact absurd h.symm (List.cons_ne_self _ _)
  · rw [heffect] at h
    cases h
    exact hevents.1 answered
  · rw [heffect] at h
    cases h
    exact hevents.2

/-- The handler sends no lockup. -/
theorem noLockup_effect {q : Call} (hq : NoLockup q) (a : q.Answer) (w : World) {e : Event}
    (h : (World.effect sdk q a w).trace = e :: w.trace) : ¬ SendsLockup id e := by
  have hsame : w.trace ≠ e :: w.trace := (List.cons_ne_self _ _).symm
  cases q with
  | push record => exact hq.elim
  | liquidBroadcast purpose tx =>
      refine not_sendsLockup_broadcast ?_ tx.txid a w h
      rintro swapId rfl
      exact hq
  | bitcoinBroadcast purpose tx =>
      refine not_sendsLockup_broadcast ?_ tx.txid a w h
      rintro swapId rfl
      exact hq
  | broadcastTx purpose tx =>
      refine not_sendsLockup_broadcast ?_ tx.txid a w h
      rintro swapId rfl
      exact hq
  | _ => exact absurd h hsame

theorem benign_payment (req : SendPaymentViaSwapRequest) :
    Benign (sendSystem sdk) (KeepsListed id) (listedProtocol id) .payment (payment sdk req) :=
  (movesOnly_payment req).mono (fun _ hf w hw hcond => ⟨(hf w).sentAccounted hcond.1 hw, (hf w).versioned⟩)
    fun _ hq _ _ _ hw hcond => keeps_call hq hcond.2 hw

theorem benign_handler {t : Async Unit} (h : MovesOnly NoLockup .failed id t) :
    Benign (sendSystem sdk) (KeepsListed id) (listedProtocol id) .handler t :=
  h.mono (fun _ hf w hw hcond => ⟨(hf w).sentAccounted hcond hw, (hf w).versioned⟩)
    fun _ hq a w _ hw _ => keeps_call hq.noPush (fun _ h hsends => absurd hsends (noLockup_effect hq a w h)) hw

/-- The tasks do not disturb each other. -/
theorem sendSystem_sound (id : SwapId) :
    Sound (sendSystem sdk) (KeepsListed id) (listedProtocol id) fun _ _ => True where
  compat _ _ _ _ _ h := h
  spawn roles w r t hspawn hw _ _ := by
    refine ⟨fun _ _ => ⟨trivial, trivial⟩, ?_⟩
    have hdone : ∀ (r : Role) (t : Async Unit), Safe (sendSystem sdk) (KeepsListed id) (listedProtocol id) r t
        (OnOk fun _ _ => True) w → Safe (sendSystem sdk) (KeepsListed id) (listedProtocol id) r t
        (fun _ s => (listedProtocol id).idle r s) w := fun _ _ h => h.mono fun _ _ _ _ => trivial
    cases hspawn with
    | payment _ req => exact (benign_payment req).safe_of (fun _ _ h => h) fun _ _ _ _ => trivial
    | status _ update h =>
        exact (benign_handler (movesOnly_onNewStatus h)).safe_of (fun _ _ h => h) fun _ _ _ _ => trivial
    | claimed _ update h => exact hdone _ _ (recovery_onNewStatus h w)
    | liquidBlock =>
        exact (benign_handler (movesOnly_of_footprint footprint_onLiquidBlock)).safe_of (fun _ _ h => h)
          fun _ _ _ _ => trivial
    | syncRecoverable _ swaps tips h => exact hdone _ _ (recovery_syncRecoverableSwaps h w)
    | start =>
        intro w₁ _ hw₁ hcond
        obtain ⟨hkept, hversioned⟩ := keeps_start rfl hcond hw₁
        exact ⟨hkept, hversioned, fun _ _ _ => trivial⟩
  abort _ _ _ _ := trivial
  env w w' henv hw hcond := by
    refine ⟨fun hsent => ?_, fun _ => henv.2 id⟩
    have hsent' : LockupSent id w := by
      unfold LockupSent at hsent
      rw [henv.1] at hsent
      exact hsent
    obtain ⟨row, hrow, haccounted⟩ := hw hsent'
    exact hcond row hrow hsent' haccounted

/-- **No stranded lockup.** A run without such steps, stops and starts included: a send swap whose lockup
was handed to the network, and which has no preimage and no refund, is in the lists. -/
theorem lockups_listed (id : SwapId) (w : World) (hw : ¬ LockupSent id w)
    (c : Pool World Call Call.Answer Err Role)
    (hrun : Runs (sendSystem sdk) (KeepsListed id) ⟨w, []⟩ c) (hsent : LockupSent id c.state) :
    ∃ row, RowIs c.state id row ∧
      (row.preimage = none → row.refundTxId = none → Listed id c.state.db) := by
  have hkept : Kept (sendSystem sdk) (KeepsListed id) (listedProtocol id) (fun _ _ => True) ⟨w, []⟩ := by
    refine ⟨fun hsent => absurd hsent hw, .nil, fun e he => absurd he List.not_mem_nil, fun r _ => trivial⟩
  obtain ⟨row, hrow, haccounted⟩ := (Runs.keep (sendSystem_sound id) hkept hrun).inv hsent
  refine ⟨row, hrow, fun hpreimage hrefund => ?_⟩
  rcases haccounted with hongoing | hclaimed | hrefunded
  · exact listed_of_isOngoing hrow hongoing
  · rw [hpreimage] at hclaimed
    cases hclaimed
  · rw [hrefund] at hrefunded
    cases hrefunded

end Results

/-- A lockup that was published was sent. -/
theorem lockupSent_of_published {id : SwapId} {w : World} {txId : TxId}
    (h : (lockupSlot id).published w = [txId]) : LockupSent id w := by
  have hmem : txId ∈ (lockupSlot id).published w := h ▸ List.mem_singleton_self txId
  obtain ⟨e, he, hevent⟩ := List.mem_filterMap.mp hmem
  cases e with
  | lockupBroadcast swapId txId' =>
      by_cases hswap : swapId = id
      · exact ⟨_, he, hswap⟩
      · have hnone : Event.lockupOf id (.lockupBroadcast swapId txId') = none := if_neg hswap
        rw [hnone] at hevent
        cases hevent
  | _ => cases hevent

/-- A payment on whose steps its swap is created or pending, from its lockup on. -/
theorem runs_paid : Runs (sendSystem paySdk) (KeepsListed "s") ⟨{}, []⟩
    ⟨World.after paySdk (payAnswers true) (payment paySdk payRequest) {}, []⟩ := by
  have hsteps : (payment paySdk payRequest).Steps (World.effect paySdk) (payAnswers true)
      (fun w w' => (∀ row ∈ w'.db.sendSwaps.get? "s", row.state ≠ .timedOut) ∧
        (w'.trace = [] ∨ ∃ row ∈ w.db.sendSwaps.get? "s", row.state = .created ∨ row.state = .pending))
      (0, {}) := by decide +kernel
  refine runs_spawn (fun _ _ _ => trivial) (payAnswers true) (.payment [] payRequest)
    (fun _ => ⟨trivial, trivial⟩) (hsteps.mono _ _ fun w w' h => ⟨?_, ?_⟩)
  · intro row row' _ hrow' hstate
    exact absurd hstate (h.1 row' hrow')
  · intro e htrace _
    rcases h.2 with hnil | ⟨row, hrow, hcreated | hpending⟩
    · rw [htrace] at hnil
      cases hnil
    · exact ⟨row, hrow, .inl hcreated⟩
    · exact ⟨row, hrow, .inr (.inl hpending)⟩

/-- The lockup of a payment is in the listing of the pending swaps. -/
theorem lockups_listed_paid :
    ∃ row, RowIs (World.after paySdk (payAnswers true) (payment paySdk payRequest) {}) "s" row ∧
      (row.preimage = none → row.refundTxId = none →
        Listed "s" (World.after paySdk (payAnswers true) (payment paySdk payRequest) {}).db) := by
  have hlockup : (lockupSlot "s").published
      (World.after paySdk (payAnswers true) (payment paySdk payRequest) {}) = ["lockup"] := by
    decide +kernel
  have hlisted := lockups_listed "s" {} (fun ⟨_, h, _⟩ => absurd h List.not_mem_nil) _ runs_paid
  dsimp only at hlisted
  exact hlisted (lockupSent_of_published hlockup)

/-! ## A start after a stop -/

/-- The payment is stopped right after the broadcast of its lockup. -/
def stoppedWorld : World :=
  ((payment paySdk payRequest).advance (World.effect paySdk) (payAnswers true) 11 (0, {})).2.2

/-- ... and the device starts again. -/
def restartedWorld : World := stoppedWorld.after paySdk (payAnswers true) start

/-- The start times the swap out, and its lockup is listed nowhere. -/
theorem lockups_listed_restart :
    ∃ w, Runs (sendSystem paySdk) .any ⟨{}, []⟩ ⟨w, []⟩ ∧ LockupSent "s" w ∧
      ∃ row, RowIs w "s" row ∧ row.preimage = none ∧ row.refundTxId = none ∧ row.state = .timedOut ∧
        ¬ Listed "s" w.db := by
  -- the payment is cut off right after the broadcast, so the swap is still taken for a new one
  have hstopped : Runs (sendSystem paySdk) .any ⟨{}, []⟩ ⟨stoppedWorld, []⟩ :=
    runs_stopped (S := sendSystem paySdk) (fun _ _ _ => trivial) (payAnswers true)
      (Spawned.payment [] payRequest) 11
  have hrestarted : Runs (sendSystem paySdk) .any ⟨stoppedWorld, []⟩ ⟨restartedWorld, []⟩ :=
    runs_spawn_any (S := sendSystem paySdk) (fun _ _ _ => trivial) (payAnswers true) Spawned.start
  have hlockup : (lockupSlot "s").published restartedWorld = ["lockup"] := by decide +kernel
  have hsent : LockupSent "s" restartedWorld := lockupSent_of_published hlockup
  have hrow : ∃ row ∈ restartedWorld.db.sendSwaps.get? "s",
      row.preimage = none ∧ row.refundTxId = none ∧ row.state = .timedOut := by decide +kernel
  have hunlisted : ¬ Listed "s" restartedWorld.db := by
    unfold Listed
    decide +kernel
  obtain ⟨row, hrow, hpreimage, hrefund, hstate⟩ := hrow
  refine ⟨restartedWorld, hstopped.trans hrestarted, hsent, row, hrow, hpreimage,
    hrefund, hstate, hunlisted⟩

end BreezLiquid.Pay
