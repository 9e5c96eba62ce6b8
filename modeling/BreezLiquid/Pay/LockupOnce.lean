/-
# BreezLiquid.Pay.LockupOnce — an invoice is paid with one lockup.

Concurrent lockups of one send swap exclude each other by the guarded write of the lockup id. Concurrent
payments of one invoice come down to that: invoices are unique in the table, so a payment uses the swap
that is there, or else inserts its own, and only the first insert succeeds.

The first system is of lockups of one swap, each from a snapshot of its own, the second of whole payments. `WellFormed`
is what the second one keeps besides: by it all lockups for one invoice are lockups of one swap
(`lockups_of_one_swap`), and the slot of this swap excludes the others.

`lockups_exclusive` is about both. The instance has three payments of one invoice, the first of which cannot broadcast.
-/
import BreezLiquid.Pay.Payment
import BreezLiquid.Send.LockupGuard

namespace BreezLiquid.Pay

open Interleaving Tables Send

/-! ## The systems -/

/-- A call of `try_lockup` for its effect. -/
def lockup (sdk : Sdk) (swap : SendSwap) (createResponse : InternalCreateSubmarineResponse) :
    Async Unit := do
  let _ ← tryLockup sdk swap createResponse
  return ()

/-- A payment for its effect. -/
def payment (sdk : Sdk) (req : SendPaymentViaSwapRequest) : Async Unit := do
  let _ ← sendPaymentViaSwap sdk req
  return ()

/-- Lockups of one swap, from any snapshots of it. Everything else may happen around them, except that the
lockup id is changed or a lockup of the swap is broadcast. -/
def lockupSystem (sdk : Sdk) (id : SwapId) : System World Call Call.Answer Err Unit where
  effect := World.effect sdk
  spawns _ _ _ t := ∃ swap createResponse, swap.id = id ∧ t = lockup sdk swap createResponse
  env := (lockupSlot id).Outside

/-- Invoices are unique, and every row has been updated: an insert is followed by an update in its
transaction. -/
structure WellFormed (w : World) : Prop where
  invoices : (w.db.sendSwaps.rows.map SendSwap.invoice).Nodup
  updated : ∀ row ∈ w.db.sendSwaps.rows, row.metadata.version ≠ 0

/-- Payments of invoices, next to lockups from any snapshots. -/
def paymentSystem (sdk : Sdk) : System World Call Call.Answer Err Unit where
  effect := World.effect sdk
  spawns _ _ _ t := (∃ req, t = payment sdk req) ∨ ∃ swap createResponse, t = lockup sdk swap createResponse
  env w w' := (∀ id, (lockupSlot id).Outside w w') ∧ WellFormed w'

/-! ## What the payments keep -/

theorem stableRows_true : StableRows fun _ => True := ⟨fun _ _ _ _ => trivial, fun _ _ _ _ _ _ _ _ _ => trivial⟩

theorem stableRows_wellFormed : StableRows WellFormed where
  same w w' hrows h := by
    refine ⟨?_, ?_⟩
    · rw [hrows]
      exact h.invoices
    · rw [hrows]
      exact h.updated
  update w w' now q g hg hinvoice hrows h := by
    refine ⟨?_, ?_⟩
    · rw [hrows]
      show ((w.db.sendSwaps.rows.map _).map SendSwap.invoice).Nodup
      have hsame : (w.db.sendSwaps.rows.map fun s =>
          if q s then { g s with metadata := (g s).metadata.touch now } else s).map SendSwap.invoice =
          w.db.sendSwaps.rows.map SendSwap.invoice := by
        rw [List.map_map]
        refine List.map_congr_left fun s _ => ?_
        show (if q s then _ else s : SendSwap).invoice = s.invoice
        split
        · exact hinvoice s
        · rfl
      rw [hsame]
      exact h.invoices
    · rw [hrows]
      intro row hrow
      obtain ⟨s, hs, rfl⟩ := List.mem_map.mp hrow
      dsimp only
      split
      · exact Nat.succ_ne_zero _
      · exact h.updated s hs

section Insert

variable {db db' : Db} {now : Nat} {s : SendSwap}

/-- The row of a new swap, after its insert and the update that follows. -/
def insertedRow (now : Nat) (s : SendSwap) : SendSwap :=
  { Db.sendSwapUpdate s (Db.sendSwapInsert s) with
    metadata := (Db.sendSwapInsert s).metadata.touch now }

/-- No row passes the guard of a swap that was never read, when all rows have been updated. -/
theorem guard_eq_false (hupdated : ∀ row ∈ db.sendSwaps.rows, row.metadata.version ≠ 0)
    (hversion : s.metadata.version = 0) {row : SendSwap} (hrow : row ∈ db.sendSwaps.rows) :
    (decide (row.id = s.id) && decide (row.metadata.version = s.metadata.version)) = false := by
  rw [hversion]
  exact Bool.and_eq_false_iff.mpr (.inr (decide_eq_false (hupdated row hrow)))

/-- Only a new id with a new invoice gets past the version guard; its row is appended. -/
theorem insertOrUpdateSendSwapInner_new
    (hupdated : ∀ row ∈ db.sendSwaps.rows, row.metadata.version ≠ 0)
    (hversion : s.metadata.version = 0) (h : db.insertOrUpdateSendSwapInner now s = .ok db') :
    s.invoice ∉ db.sendSwaps.rows.map SendSwap.invoice ∧
      db'.sendSwaps.rows = db.sendSwaps.rows ++ [insertedRow now s] := by
  have hnone : ¬ db.sendSwaps.rows.any (fun row =>
      decide (row.id = s.id) && decide (row.metadata.version = s.metadata.version)) = true := by
    intro hany
    obtain ⟨row, hrow, hguard⟩ := List.any_eq_true.mp hany
    rw [guard_eq_false hupdated hversion hrow] at hguard
    cases hguard
  unfold Db.insertOrUpdateSendSwapInner at h
  dsimp only at h
  split at h
  · -- the invoice is there already, so no row has the new id and version
    cases h
  · rename_i hinvoice
    split at h
    · rename_i hany
      cases h
      refine ⟨fun hmem => hinvoice ?_, ?_⟩
      · obtain ⟨row, hrow, hsame⟩ := List.mem_map.mp hmem
        exact List.any_eq_true.mpr ⟨row, hrow, decide_eq_true hsame⟩
      · have hrows : (db.sendSwaps.insertNew (Db.sendSwapInsert s)).rows =
            db.sendSwaps.rows ++ [Db.sendSwapInsert s] := by
          unfold Table.insertNew at hany ⊢
          split
          · rename_i hid
            rw [dif_pos hid] at hany
            exact absurd hany hnone
          · rfl
        show (Table.rows _).map _ = _
        rw [hrows, List.map_append, List.map_singleton]
        congr 1
        · refine (List.map_congr_left fun row hrow => ?_).trans (List.map_id _)
          refine if_neg fun hguard => ?_
          cases hguard.symm.trans (guard_eq_false hupdated hversion hrow)
        · refine congrArg (fun row => [row]) (if_pos ?_)
          refine Bool.and_eq_true_iff.mpr ⟨decide_eq_true rfl, decide_eq_true ?_⟩
          rw [hversion]
          rfl
    · cases h

end Insert

section Payment

variable {sdk : Sdk} {id : SwapId}

/-- The insert of a new swap brings no lockup id with it. -/
theorem idle_insertOrUpdateSendSwap {maybeSwap : Option SendSwap} {s : SendSwap} (hlockup : s.lockupTxId = none)
    (hversion : s.metadata.version = 0) (w : World) :
    Idle (lockupSlot id) WellFormed .free w
      (w.tryWrite fun now db => db.insertOrUpdateSendSwap sdk.persister now maybeSwap s) := by
  intro hi _
  rcases World.tryWrite_cases (fun now db => db.insertOrUpdateSendSwap sdk.persister now maybeSwap s) w
    with ⟨db, hdb, hw⟩ | hw
  · obtain ⟨db₁, hinner, hdb⟩ := except_bind_eq_ok.mp hdb
    cases hdb
    obtain ⟨hinvoice, hrows⟩ := insertOrUpdateSendSwapInner_new hi.updated hversion hinner
    have hrows' : (w.tryWrite fun now db => db.insertOrUpdateSendSwap sdk.persister now maybeSwap
        s).db.sendSwaps.rows = w.db.sendSwaps.rows ++ [insertedRow w.now s] := by
      rw [hw]
      show (Db.commitUpdatedFields ..).sendSwaps.rows = _
      rw [Db.commitUpdatedFields_sendSwaps]
      exact hrows
    refine ⟨⟨?_, ?_⟩, ?_, ?_⟩
    · rw [hrows', List.map_append, List.nodup_append]
      refine ⟨hi.invoices, List.nodup_singleton _, fun a ha b hb hab => hinvoice ?_⟩
      rw [List.mem_singleton.mp hb] at hab
      exact hab ▸ ha
    · rw [hrows']
      intro row hrow
      rcases List.mem_append.mp hrow with hrow | hrow
      · exact hi.updated row hrow
      · rw [List.mem_singleton.mp hrow]
        exact Nat.succ_ne_zero _
    · show Option.bind (List.find? _ (Table.rows _)) _ = Option.bind (List.find? _ (Table.rows _)) _
      rw [hrows', List.find?_append]
      cases w.db.sendSwaps.rows.find? fun r => decide (r.id = id) with
      | some row => rfl
      | none =>
          rw [Option.none_or, List.find?_singleton]
          split
          · exact hlockup
          · rfl
    · rw [hw]
      rfl
  · rw [hw]
    exact ⟨hi, .refl w⟩

theorem elsewhere_validateSubmarinePairs (amountSat : Nat) :
    Elsewhere sdk id WellFormed .free (validateSubmarinePairs amountSat) :=
  within_validateSubmarinePairs (idle_quiet (q := .getSubmarinePairs) trivial) amountSat

theorem elsewhere_estimate (amountSat : Nat) :
    Elsewhere sdk id WellFormed .free (estimateLockupTxOrDrainTxFee amountSat) :=
  within_estimateLockupTxOrDrainTxFee (idle_quiet trivial) (idle_quiet trivial)

theorem elsewhere_reuseSwap (swap : SendSwap) : Elsewhere sdk id WellFormed .free (reuseSwap sdk swap) :=
  within_reuseSwap (elsewhere_updateSwapInfo stableRows_wellFormed _ _ fun _ => .inl rfl)

theorem elsewhere_createSwap (req : SendPaymentViaSwapRequest) (lbtcPair : SubmarinePair) :
    Elsewhere sdk id WellFormed .free (createSwap sdk req lbtcPair) :=
  within_createSwap idle_refl (idle_quiet trivial) (fun _ => idle_quiet trivial)
    fun _ _ _ _ _ w => idle_insertOrUpdateSendSwap rfl rfl w

theorem elsewhere_wait {p : Phase TxId} (swap : SendSwap) (acceptZeroConf : Bool) :
    Elsewhere sdk id WellFormed p (waitForPaymentWithTimeout sdk (.send swap) acceptZeroConf) :=
  within_waitForPaymentWithTimeout idle_refl (idle_quiet (q := .paymentEvents) trivial)
    (elsewhere_updateSwapInfo stableRows_wellFormed _ _ fun _ => .inl rfl) acceptZeroConf

variable {S : System World Call Call.Answer Err Unit} (hS : S.effect = World.effect sdk)
  (hanswers : ∀ q a w, S.answers q a w)

include hS hanswers

/-- The lockup of a payment, then the wait. The slot is free or has the payment's lockup by then. -/
theorem follows_lockupAndWait (swap : SendSwap) :
    Follows S (lockupSlot id) WellFormed .free (lockupAndWait sdk swap) Returned := by
  refine follows_idle_bind rfl (Elsewhere.idle hS (elsewhere_done _)) (fun _ => rfl) fun createResponse => ?_
  refine Follows.bind ((follows_anyLockup hS hanswers stableRows_wellFormed swap createResponse).mono
    fun x p hp => ?_)
  rcases x with err | lockupTx
  · exact hp
  · exact follows_idle hp (Elsewhere.idle hS (elsewhere_wait swap _)) fun _ => hp

/-- A payment keeps to the slot of every swap. -/
theorem follows_payment (req : SendPaymentViaSwapRequest) :
    Follows S (lockupSlot id) WellFormed .free (payment sdk req) Returned := by
  have hsend : Follows S (lockupSlot id) WellFormed .free (sendPaymentViaSwap sdk req) Returned := by
    refine follows_idle_bind rfl (Elsewhere.idle hS (elsewhere_validateSubmarinePairs _)) (fun _ => rfl)
      fun lbtcPair => ?_
    refine follows_idle_bind rfl (Elsewhere.idle hS (elsewhere_estimate _)) (fun _ => rfl)
      fun lockupTxFeesSat => ?_
    split
    · refine follows_idle_bind rfl (Elsewhere.idle hS (elsewhere_fetch _)) (fun _ => rfl) fun swap => ?_
      split
      · exact follows_idle_bind rfl (Elsewhere.idle hS (elsewhere_reuseSwap _)) (fun _ => rfl)
          (follows_lockupAndWait hS hanswers)
      · exact follows_idle_bind rfl (Elsewhere.idle hS (elsewhere_createSwap req lbtcPair)) (fun _ => rfl)
          (follows_lockupAndWait hS hanswers)
    · rfl
  refine Follows.bind (hsend.mono fun x p hp => ?_)
  rcases x with err | result
  · exact hp
  · exact hp

theorem follows_lockup {inv : World → Prop} (hinv : StableRows inv) (swap : SendSwap)
    (createResponse : InternalCreateSubmarineResponse) :
    Follows S (lockupSlot id) inv .free (lockup sdk swap createResponse) Returned := by
  refine Follows.bind ((follows_anyLockup hS hanswers hinv swap createResponse).mono fun x p hp => ?_)
  rcases x with err | result
  · exact hp
  · exact hp

end Payment

/-! ## The results -/

section Results

variable (sdk : Sdk)

theorem lockupSystem_disciplined (id : SwapId) :
    Disciplined (lockupSystem sdk id) (lockupSlot id) fun _ => True where
  spawn := by
    rintro _ _ _ _ ⟨swap, createResponse, -, rfl⟩
    exact follows_lockup rfl (fun _ _ _ => trivial) stableRows_true swap createResponse
  env _ _ h _ := ⟨trivial, h⟩

theorem paymentSystem_disciplined (id : SwapId) :
    Disciplined (paymentSystem sdk) (lockupSlot id) WellFormed where
  spawn := by
    rintro _ _ _ _ (⟨req, rfl⟩ | ⟨swap, createResponse, rfl⟩)
    · exact follows_payment rfl (fun _ _ _ => trivial) req
    · exact follows_lockup rfl (fun _ _ _ => trivial) stableRows_wellFormed swap createResponse
  env _ _ h _ := ⟨h.2, h.1 id⟩

/-- The lockup of a swap for an invoice, as the table has it. -/
def lockupFor (db : Db) (invoice : String) : Event → Option TxId
  | .lockupBroadcast swapId txId =>
      if (db.sendSwaps.get? swapId).map SendSwap.invoice = some invoice then some txId else none
  | _ => none

/-- All lockups for an invoice are lockups of one swap. -/
theorem lockups_of_one_swap {w : World} (h : WellFormed w) (invoice : String) :
    w.trace.filterMap (lockupFor w.db invoice) = [] ∨
      ∃ id, w.trace.filterMap (lockupFor w.db invoice) = (lockupSlot id).published w := by
  by_cases hrow : ∃ row ∈ w.db.sendSwaps.rows, row.invoice = invoice
  · obtain ⟨row, hrow, hinvoice⟩ := hrow
    refine .inr ⟨row.id, List.filterMap_congr fun e _ => ?_⟩
    cases e with
    | lockupBroadcast swapId txId =>
        have hiff : (w.db.sendSwaps.get? swapId).map SendSwap.invoice = some invoice ↔ swapId = row.id := by
          constructor
          · intro hsome
            obtain ⟨row', hget, hsame⟩ := Option.map_eq_some_iff.mp hsome
            have hrows := List.inj_on_of_nodup_map h.invoices (Table.mem_of_get? hget) hrow
              (hsame.trans hinvoice.symm)
            exact hrows ▸ (Table.get?_some_key hget).symm
          · rintro rfl
            rw [Table.get?_of_mem hrow, Option.map_some, hinvoice]
        exact if_congr hiff rfl rfl
    | _ => rfl
  · refine .inl (List.filterMap_eq_nil_iff.mpr fun e _ => ?_)
    cases e with
    | lockupBroadcast swapId txId =>
        refine if_neg fun hsome => hrow ?_
        obtain ⟨row, hget, hinvoice⟩ := Option.map_eq_some_iff.mp hsome
        exact ⟨row, Table.mem_of_get? hget, hinvoice⟩
    | _ => rfl

/-- **One lockup.** However lockups of a send swap interleave, from whatever snapshots: at most one of them
is between setting the lockup id and the end of its broadcast, with the row having its id, and no other
changes that. However payments of an invoice interleave, at most one lockup is broadcast for it. -/
theorem lockups_exclusive (id : SwapId) (w : World) :
    (∀ c, (lockupSlot id).Settled w → Runs (lockupSystem sdk id) .any ⟨w, []⟩ c →
      Exclusive (lockupSystem sdk id) (lockupSlot id) c ∧
      ∀ e ∈ c.tasks, ∀ txId, Broadcasts (.lockup id) txId e.2 →
        (lockupSlot id).value c.state = some txId) ∧
    (∀ c, WellFormed w → (∀ id, (lockupSlot id).Settled w) → Runs (paymentSystem sdk) .any ⟨w, []⟩ c →
      Exclusive (paymentSystem sdk) (lockupSlot id) c ∧
      ∀ invoice, (c.state.trace.filterMap (lockupFor c.state.db invoice)).length ≤ 1) := by
  constructor
  · intro c hw hrun
    obtain ⟨hexclusive, hbroadcasts, -⟩ := disciplined_runs (lockupSystem_disciplined sdk id) rfl
      (fun _ _ _ => trivial) (publishes_lockup stableRows_true) trivial hw hrun
    exact ⟨hexclusive, hbroadcasts⟩
  · intro c hi hw hrun
    obtain ⟨_, htracked⟩ := Runs.tracked (paymentSystem_disciplined sdk id) hi (hw id)
      (fun _ _ _ _ => True.intro) hrun
    refine ⟨htracked.exclusive, fun invoice => ?_⟩
    -- the lockups for the invoice are those of one swap, whose slot is as exclusive
    rcases lockups_of_one_swap htracked.kept invoice with hnil | ⟨id', hsame⟩
    · rw [hnil]
      exact Nat.zero_le 1
    · obtain ⟨_, htracked'⟩ := Runs.tracked (paymentSystem_disciplined sdk id') hi (hw id')
        (fun _ _ _ _ => True.intro) hrun
      rw [hsame]
      rcases htracked'.exclusive.once with hnil | ⟨v, -, hone⟩
      · rw [hnil]
        exact Nat.zero_le 1
      · rw [hone]
        exact Nat.le_refl 1

end Results

/-! ## An invoice paid twice -/

/-- A swap from a create response for the invoice. -/
def paySdk : Sdk where
  bz := .byAddress 0
  persister := { codec := .table fun _ => none }

def payRequest : SendPaymentViaSwapRequest where
  invoice := "invoice"
  receiverAmountSat := 1000
  feesSat := 5

/-- A swapper without a service fee, and a wallet with transactions that cost five sat. -/
def payAnswers (broadcasts : Bool) : Nat → (q : Call) → q.Answer
  | _, .getSubmarinePairs => .ok (some (.exact (.between 1 1000000) 0 0))
  | _, .buildTx _ => .ok { txid := "estimate", feesSat := 5 }
  | _, .createSendSwap .. => .ok { id := "s", address := "address", expectedAmount := 1000 }
  | _, .buildTxOrDrainTx .. => .ok { txid := "lockup", feesSat := 5 }
  | _, .liquidBroadcast _ tx =>
      if broadcasts then .ok tx.txid else Call.offline (.liquidBroadcast (.lockup "s") tx)
  | _, q => q.offline

/-- The first payment cannot broadcast its lockup, the second one uses its swap, and the third one finds
the payment in progress. -/
def refusedPayment : World := World.after paySdk (payAnswers false) (payment paySdk payRequest) {}

def paidWorld : World := refusedPayment.after paySdk (payAnswers true) (payment paySdk payRequest)

def paidTwiceWorld : World := paidWorld.after paySdk (payAnswers true) (payment paySdk payRequest)

theorem runs_paidTwice : Runs (paymentSystem paySdk) .any ⟨{}, []⟩ ⟨paidTwiceWorld, []⟩ := by
  have hfirst : Runs (paymentSystem paySdk) .any ⟨{}, []⟩ ⟨refusedPayment, []⟩ :=
    runs_alone rfl (fun _ _ _ => trivial) (fun _ _ _ _ => trivial) (payAnswers false) (r := ())
      (payment paySdk payRequest) {} (.inl ⟨_, rfl⟩)
  have hsecond : Runs (paymentSystem paySdk) .any ⟨refusedPayment, []⟩ ⟨paidWorld, []⟩ :=
    runs_alone rfl (fun _ _ _ => trivial) (fun _ _ _ _ => trivial) (payAnswers true) (r := ())
      (payment paySdk payRequest) refusedPayment (.inl ⟨_, rfl⟩)
  have hthird : Runs (paymentSystem paySdk) .any ⟨paidWorld, []⟩ ⟨paidTwiceWorld, []⟩ :=
    runs_alone rfl (fun _ _ _ => trivial) (fun _ _ _ _ => trivial) (payAnswers true) (r := ())
      (payment paySdk payRequest) paidWorld (.inl ⟨_, rfl⟩)
  exact (hfirst.trans hsecond).trans hthird

/-- A lockup is refused, the invoice is paid then, and paying it once more locks nothing up. -/
theorem lockups_exclusive_paidTwice :
    (lockupSlot "s").value refusedPayment = none ∧ (lockupSlot "s").value paidWorld = some "lockup" ∧
      (paidTwiceWorld.trace.filterMap (lockupFor paidTwiceWorld.db "invoice")).length ≤ 1 := by
  have hi : WellFormed {} := by
    refine ⟨List.nodup_nil, fun row hrow => ?_⟩
    exact absurd hrow List.not_mem_nil
  obtain ⟨-, hone⟩ := (lockups_exclusive paySdk "s" {}).2 _ hi (fun _ => .inl ⟨rfl, rfl⟩) runs_paidTwice
  have hlength := hone "invoice"
  dsimp only at hlength
  exact ⟨by decide +kernel, by decide +kernel, hlength⟩

end BreezLiquid.Pay
