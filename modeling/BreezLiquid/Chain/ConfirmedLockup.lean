/-
# BreezLiquid.Chain.ConfirmedLockup — confirmed server lockups that are claimed on a later block.

A block rescans the pending swaps without a claim that have a server lockup recorded. When the swapper
reports a confirmed lockup and no claim comes of it, the swap depends on this rescan. The handler records
the id after it has seen the user lockup and, for an outgoing swap, after the verification of the server
lockup; and a recorded id is never replaced. Whether the row it leaves behind is rescanned for the lockup
that was reported is decided by the row and by what the chain services answered.
-/
import BreezLiquid.Chain.ClaimOnce
import BreezLiquid.Chain.Footprint
import BreezLiquid.Chain.Runs

namespace BreezLiquid.Chain

open Interleaving Recover Tables

/-! ## The rescan -/

/-- A block retries the claim of the swap with this server lockup. -/
def Rescanned (direction : Direction) (id : SwapId) (txId : TxId) (db : Db) : Prop :=
  ∃ s ∈ claimable direction db, s.id = id ∧ s.serverLockupTxId = some txId

/-- No claim of the swap was broadcast in between. -/
def NoClaim (id : SwapId) (w w' : World) : Prop :=
  (claimSlot id).published w' = (claimSlot id).published w

instance (id : SwapId) (w w' : World) : Decidable (NoClaim id w w') :=
  inferInstanceAs (Decidable ((claimSlot id).published w' = (claimSlot id).published w))

/-- The columns the rescan looks at. -/
structure Standing where
  direction : Direction
  state : PaymentState
  serverLockupTxId : Option TxId
  claimTxId : Option TxId
  deriving DecidableEq

def standing (s : ChainSwap) : Standing := ⟨s.direction, s.state, s.serverLockupTxId, s.claimTxId⟩

/-- The swap's standing, and the claims broadcast for it. -/
def view (id : SwapId) (w : World) : Option Standing × List TxId :=
  ((w.db.chainSwaps.get? id).map standing, (claimSlot id).published w)

/-- The view of a row, and back. -/
theorem view_of_row {w : World} {id : SwapId} {row : ChainSwap} (hrow : RowIs w id row) :
    view id w = (some (standing row), (claimSlot id).published w) := by
  unfold view
  rw [hrow]
  rfl

theorem exists_row_of_view {w : World} {id : SwapId} {s : Standing} {claims : List TxId}
    (h : view id w = (some s, claims)) : ∃ row, RowIs w id row ∧ standing row = s :=
  Option.map_eq_some_iff.mp (congrArg Prod.fst h)

/-- Whether a swap is rescanned for a lockup is decided by its standing. -/
theorem rescanned_iff {w : World} {id : SwapId} {s : Standing} {claims : List TxId}
    (h : view id w = (some s, claims)) (direction : Direction) (txId : TxId) :
    Rescanned direction id txId w.db ↔ s.direction = direction ∧ s.state = .pending ∧
      s.claimTxId = none ∧ s.serverLockupTxId = some txId := by
  obtain ⟨row, hrow, rfl⟩ := exists_row_of_view h
  constructor
  · rintro ⟨s, hmem, hid, hlockup⟩
    obtain ⟨hlisted, hselected⟩ := List.mem_filter.mp hmem
    obtain ⟨row', hrow', rfl⟩ := Db.mem_listChainSwaps hlisted
    rw [hid, hrow] at hrow'
    cases hrow'
    simp only [Bool.and_eq_true, decide_eq_true_eq] at hselected
    exact ⟨hselected.1.1, hselected.1.2, Option.isNone_iff_eq_none.mp hselected.2, hlockup⟩
  · rintro ⟨hdirection, hstate, hclaim, hlockup⟩
    have hid : row.id = id := rowIs_id hrow
    refine ⟨row.withIsLocal (w.db.isLocal row.id), List.mem_filter.mpr ⟨?_, ?_⟩, hid, hlockup⟩
    · refine List.mem_map.mpr ⟨row, ?_, rfl⟩
      rw [orderByCreatedAt, List.mem_insertionSort]
      exact Table.mem_of_get? hrow
    · show (decide (row.direction = direction) && decide (row.state = .pending) &&
        row.claimTxId.isNone) = true
      rw [show row.direction = direction from hdirection, show row.state = .pending from hstate,
        show row.claimTxId = none from hclaim]
      simp

/-! ## What the services answer -/

section Answers

variable (sdk : Sdk) (ans : Nat → (q : Call) → q.Answer)

/-- The history of a swap script, as the chain service answers it. -/
def answeredHistory (n : Nat) : SwapScriptV2 → Option (List History)
  | .liquid s => s.toAddress.bind fun script => (ans n (.liquidScriptHistory script)).toOption
  | .bitcoin s => s.toAddress.bind fun script => (ans n (.bitcoinScriptHistory script)).toOption

/-- The history of the lockup script has the recorded user lockup, or any transaction if none is
recorded. -/
def UserLockupSeen (n : Nat) (row : ChainSwap) : Prop :=
  ∃ swapScript history, row.getLockupSwapScript sdk.bz = .ok swapScript ∧
    answeredHistory ans n swapScript = some history ∧
      match row.userLockupTxId with
      | some txId => ∃ h ∈ history, h.txid = txId
      | none => history ≠ []

/-- The first transaction of the Bitcoin lockup script, as it is answered, pays the amount to it. -/
def AnsweredPayerAmount (n : Nat) (row : ChainSwap) (amount : Nat) : Prop :=
  ∃ swapScript script first rest userLockupTx txs out,
    row.getLockupSwapScript sdk.bz = .ok (.bitcoin swapScript) ∧ swapScript.toAddress = some script ∧
      ans n (.bitcoinScriptHistory script) = .ok (first :: rest) ∧
      ans (n + 1) (.bitcoinTransactions [first.txid]) = .ok (userLockupTx :: txs) ∧
      userLockupTx.output.find? (fun out => out.scriptPubkey = script) = some out ∧ out.value = amount

/-- The user lockup is seen and, for an incoming swap with an agreed amount, has that amount. -/
def UserLockupVerified (n : Nat) (row : ChainSwap) : Prop :=
  UserLockupSeen sdk ans n row ∧ (row.direction = .incoming →
    ∃ amount, (row.actualPayerAmountSat = some amount ∨
        row.actualPayerAmountSat = none ∧ AnsweredPayerAmount sdk ans (n + 1) row amount) ∧
      (row.payerAmountSat = 0 ∨ row.payerAmountSat = amount))

/-- The service verifies the reported lockup of an outgoing swap as confirmed, and it pays what the swap
expects. -/
def ServerLockupVerified (n : Nat) (row : ChainSwap) (transaction : TransactionInfo) : Prop :=
  ∃ swapScript script createResponse txHex tx,
    row.getClaimSwapScript sdk.bz = .ok (.bitcoin swapScript) ∧ swapScript.toAddress = some script ∧
      row.getBoltzCreateResponse sdk.bz = .ok createResponse ∧ transaction.hex = some txHex ∧
      ans n (.bitcoinVerifyTx script transaction.id txHex true) = .ok tx ∧
      expectedServerLockupAmountSat row createResponse.claimDetails ≤ bitcoinValueTo script tx.output

/-- The swap is already rescanned for the lockup, or will be once its user lockup is recorded. -/
def AlreadyRecorded (n : Nat) (row : ChainSwap) (txId : TxId) : Prop :=
  row.serverLockupTxId = some txId ∧
    (row.state = .pending ∨ row.userLockupTxId = none ∧ UserLockupSeen sdk ans n row)

/-- The handler gets to record the id, and no other one is recorded. -/
def GetsRecorded (n : Nat) (row : ChainSwap) (transaction : TransactionInfo) : Prop :=
  (row.serverLockupTxId = none ∨ row.serverLockupTxId = some transaction.id) ∧
    UserLockupVerified sdk ans n row ∧
    (row.direction = .outgoing → ServerLockupVerified sdk ans (n + 1) row transaction)

end Answers

section Run

variable (sdk : Sdk) (ans : Nat → (q : Call) → q.Answer)

/-! ## Parts that leave the standing alone -/

/-- No transaction changes the standing of the swap, no call broadcasts. -/
abbrev Aside (id : SwapId) {α : Type} (t : Async α) : Prop :=
  t.Within (fun f => ∀ w, view id (f w) = view id w) Call.Quiet

/-- A part that stands aside leaves the view as it was. -/
theorem Aside.run {id : SwapId} {α : Type} {t : Async α} (h : Aside id t) (w : Nat × World) :
    view id (t.run (World.effect sdk) ans w).2.2 = view id w.2 := by
  refine Task.run_preserves _ ans (view id) (fun f hf => hf) (fun q hq a w => ?_) h w
  rw [effect_of_quiet sdk hq]

theorem aside_ofReadOnly {id : SwapId} {α : Type} {t : Async α} (h : ReadOnly t) : Aside id t :=
  h.mono (fun _ hf _ => hf ▸ rfl) fun _ hq => hq.quiet

/-- An update of a row that keeps its standing. -/
theorem view_write_update {id : SwapId} {w : World} {p : ChainSwap → Bool} {g : ChainSwap → ChainSwap}
    {hg : ∀ s, (g s).id = s.id} (h : ∀ s, standing (g s) = standing s) :
    view id (w.write fun now db => db.updateChainSwaps now p g hg) = view id w := by
  refine Prod.ext ?_ rfl
  exact Table.map_get?_updateWhere w.db.chainSwaps p
    (fun s => { g s with metadata := (g s).metadata.touch w.now }) hg id (f := standing) fun s => h s

theorem readOnly_fetchIncomingSwapActualPayerAmount (chainSwap : ChainSwap) :
    ReadOnly (fetchIncomingSwapActualPayerAmount sdk chainSwap) := by
  refine Task.Within.bind (Task.within_done _) fun swapScript => ?_
  refine Task.Within.bind (Task.within_done _) fun bitcoinScript => ?_
  refine Task.Within.bind (Task.within_done _) fun script => ?_
  refine Task.Within.bind ?_ fun history => ?_
  · refine Task.Within.bind (Task.within_done _) fun bitcoinScript => ?_
    refine Task.Within.bind (Task.within_done _) fun script => ?_
    exact Task.within_askOk (q := Call.bitcoinScriptHistory script) trivial rfl
  · refine Task.Within.bind (Task.within_done _) fun first => ?_
    refine Task.Within.bind
      (Task.within_askOk (q := Call.bitcoinTransactions [first.txid]) trivial rfl) fun txs => ?_
    refine Task.Within.bind (Task.within_done _) fun userLockupTx => ?_
    exact Task.Within.bind (Task.within_done _) fun out => Task.within_done _

/-- The amount the user paid is looked up once and stored, which the standing does not tell. -/
theorem aside_actualPayerAmount (id : SwapId) (chainSwap : ChainSwap) :
    Aside id (actualPayerAmount sdk chainSwap) := by
  unfold actualPayerAmount
  split
  · exact Task.within_done _
  · refine Task.Within.bind
      (aside_ofReadOnly (readOnly_fetchIncomingSwapActualPayerAmount sdk chainSwap)) fun amount => ?_
    exact Task.Within.bind (within_write fun w => view_write_update fun s => rfl)
      fun _ => Task.within_done _

/-! ## The user lockup -/

/-- A history is fetched as it is answered, or nothing comes of it. -/
theorem run_fetchScriptHistory (swapScript : SwapScriptV2) (w : Nat × World) :
    (∃ history, answeredHistory ans w.1 swapScript = some history ∧
        (fetchScriptHistory swapScript).run (World.effect sdk) ans w =
          (.ok history, (w.1 + 1, w.2))) ∨
      answeredHistory ans w.1 swapScript = none ∧
        ∃ err n, (fetchScriptHistory swapScript).run (World.effect sdk) ans w =
          (.error err, (n, w.2)) := by
  rcases swapScript with s | s
  rotate_left
  · rcases hscript : s.toAddress with _ | script
    · right
      refine ⟨by rw [answeredHistory, hscript]; rfl, .generic "Failed to get swap script address", w.1, ?_⟩
      unfold fetchScriptHistory fetchLiquidScriptHistory scriptPubkey
      rw [Task.bind_eq, Task.run_bind, Task.run_ofExcept]
      dsimp only [SwapScriptV2.asLiquidScript]
      rw [Task.bind_eq, Task.run_bind, hscript]
      rfl
    · have hrun : (fetchScriptHistory (.liquid s)).run (World.effect sdk) ans w =
          (ans w.1 (.liquidScriptHistory script), (w.1 + 1, w.2)) := by
        unfold fetchScriptHistory fetchLiquidScriptHistory scriptPubkey
        rw [Task.bind_eq, Task.run_bind, Task.run_ofExcept]
        dsimp only [SwapScriptV2.asLiquidScript]
        rw [Task.bind_eq, Task.run_bind, hscript]
        rfl
      rw [hrun, answeredHistory, hscript, Option.bind_some]
      rcases ans w.1 (.liquidScriptHistory script) with err | history
      · exact .inr ⟨rfl, err, _, rfl⟩
      · exact .inl ⟨history, rfl, rfl⟩
  · rcases hscript : s.toAddress with _ | script
    · right
      refine ⟨by rw [answeredHistory, hscript]; rfl, .generic "Failed to get swap script address", w.1, ?_⟩
      unfold fetchScriptHistory fetchBitcoinScriptHistory scriptPubkey
      rw [Task.bind_eq, Task.run_bind, Task.run_ofExcept]
      dsimp only [SwapScriptV2.asBitcoinScript]
      rw [Task.bind_eq, Task.run_bind, hscript]
      rfl
    · have hrun : (fetchScriptHistory (.bitcoin s)).run (World.effect sdk) ans w =
          (ans w.1 (.bitcoinScriptHistory script), (w.1 + 1, w.2)) := by
        unfold fetchScriptHistory
        exact run_fetchBitcoinScriptHistory sdk ans hscript
      rw [hrun, answeredHistory, hscript, Option.bind_some]
      rcases ans w.1 (.bitcoinScriptHistory script) with err | history
      · exact .inr ⟨rfl, err, _, rfl⟩
      · exact .inl ⟨history, rfl, rfl⟩

theorem validateStateTransition_pending {state : PaymentState}
    (h : state = .created ∨ state = .pending) : validateStateTransition state .pending = .ok () := by
  rcases h with rfl | rfl
  · rfl
  · rfl

/-- The standing once the user lockup was seen: it is recorded if it was not. -/
def seenStanding (row : ChainSwap) : Standing :=
  { standing row with state := if row.userLockupTxId = none then .pending else row.state }

/-- The user lockup was seen, and is recorded. -/
def SeenIn (row : ChainSwap) (id : SwapId) (w w' : World) : Prop :=
  view id w' = (some (seenStanding row), (claimSlot id).published w)

/-- The user lockup is looked for in the history of its script. -/
theorem run_userLockupTxExists_cases {w : Nat × World} {id : SwapId} {row : ChainSwap}
    (hrow : RowIs w.2 id row) (hstate : row.state = .created ∨ row.state = .pending) (isLocal : Bool) :
    (UserLockupSeen sdk ans w.1 row ∧ ∃ w', SeenIn row id w.2 w' ∧
      (userLockupTxExists sdk (row.withIsLocal isLocal)).run (World.effect sdk) ans w =
        (.ok true, (w.1 + 1, w'))) ∨
    ¬ UserLockupSeen sdk ans w.1 row ∧ ∃ x n, x ≠ .ok true ∧
      (userLockupTxExists sdk (row.withIsLocal isLocal)).run (World.effect sdk) ans w =
        (x, (n, w.2)) := by
  have hview := view_of_row hrow
  have hid : row.id = id := rowIs_id hrow
  have hlockup : (row.withIsLocal isLocal).getLockupSwapScript sdk.bz =
      row.getLockupSwapScript sdk.bz := rfl
  have huser : (row.withIsLocal isLocal).userLockupTxId = row.userLockupTxId := rfl
  unfold userLockupTxExists UserLockupSeen SeenIn seenStanding
  rw [Task.bind_eq, Task.run_bind, Task.run_ofExcept, hlockup]
  rcases row.getLockupSwapScript sdk.bz with err | swapScript
  · right
    refine ⟨?_, _, _, ?_, rfl⟩
    · rintro ⟨swapScript, history, h, -⟩
      cases h
    · intro h
      cases h
  dsimp only
  rw [Task.bind_eq, Task.run_bind]
  -- the history is answered, or the call fails and nothing is written
  rcases run_fetchScriptHistory sdk ans swapScript w with ⟨history, hanswer, hrun⟩ | ⟨hanswer, err, n, hrun⟩
  · rw [hrun, huser]
    dsimp only
    -- with no id recorded the first transaction of the history is taken for the lockup, or else the recorded one is
    -- looked for
    rcases hrecorded : row.userLockupTxId with _ | txId
    · rcases history with _ | ⟨h, rest⟩
      · right
        refine ⟨?_, _, _, ?_, rfl⟩
        · rintro ⟨swapScript', history, h, hanswer', hne⟩
          cases h
          rw [hanswer] at hanswer'
          cases hanswer'
          exact hne rfl
        · intro h
          cases h
      · left
        have hid' : (row.withIsLocal isLocal).id = id := hid
        have hrow' : RowIs w.2 (row.withIsLocal isLocal).id row := hid ▸ hrow
        have hafter := rowIs_update (w := w.2)
          (u := { swapId := (row.withIsLocal isLocal).id, toState := .pending,
                  userLockupTxId := some h.txid }) hrow'
        rw [hid'] at hafter
        refine ⟨⟨swapScript, h :: rest, rfl, hanswer, List.cons_ne_nil _ _⟩,
          w.2.write fun now db => db.tryHandleChainSwapUpdate now
            { swapId := (row.withIsLocal isLocal).id, toState := .pending,
              userLockupTxId := some h.txid }, ?_, ?_⟩
        · rw [hid', view_of_row hafter]
          refine Prod.ext (congrArg some ?_) rfl
          show Standing.mk _ _ _ _ = Standing.mk _ _ _ _
          simp [ChainSwapUpdate.applyTo, standing]
        · dsimp only
          rw [Task.bind_eq, Task.run_bind, run_updateSwapInfo _ ans hrow']
          dsimp only
          rw [validateStateTransition_pending hstate]
          rfl
    · dsimp only
      cases hany : history.any fun h => h.txid = txId with
      | true =>
          left
          obtain ⟨h, hmem, htxid⟩ := List.any_eq_true.mp hany
          refine ⟨⟨swapScript, history, rfl, hanswer, h, hmem, of_decide_eq_true htxid⟩, w.2, hview, ?_⟩
          rfl
      | false =>
          right
          refine ⟨?_, .ok false, w.1 + 1, ?_, ?_⟩
          · rintro ⟨swapScript', history', h, hanswer', h', hmem, htxid⟩
            cases h
            rw [hanswer] at hanswer'
            cases hanswer'
            exact List.any_eq_false.mp hany h' hmem (decide_eq_true htxid)
          · intro h
            cases h
          · rfl
  · right
    rw [hrun]
    refine ⟨?_, _, _, ?_, rfl⟩
    · rintro ⟨swapScript', history, h, hanswer', -⟩
      cases h
      rw [hanswer] at hanswer'
      cases hanswer'
    · intro h
      cases h

/-- What the user locked up, as it is found on chain. -/
theorem run_fetchIncomingSwapActualPayerAmount_ok {n : Nat} {w : World} {row : ChainSwap}
    (isLocal : Bool) (amount : Nat) :
    ((fetchIncomingSwapActualPayerAmount sdk (row.withIsLocal isLocal)).run (World.effect sdk) ans
        (n, w)).1 = .ok amount ↔ AnsweredPayerAmount sdk ans n row amount := by
  have hlockup : (row.withIsLocal isLocal).getLockupSwapScript sdk.bz =
      row.getLockupSwapScript sdk.bz := rfl
  unfold fetchIncomingSwapActualPayerAmount AnsweredPayerAmount
  simp only [Task.bind_eq, Task.run_bind_ok, Task.run_ofExcept, hlockup, Prod.mk.injEq]
  constructor
  · rintro ⟨swapScript, _, ⟨hswap, rfl⟩, bitcoinScript, _, ⟨hbitcoin, rfl⟩, script, _, ⟨hscript, rfl⟩,
      history, _, hhistory, first, _, ⟨hfirst, rfl⟩, txs, _, htxs, userLockupTx, _, ⟨htx, rfl⟩, out, _,
      ⟨hout, rfl⟩, hamount⟩
    rcases swapScript with s | s
    · cases hbitcoin
      have hscript' := okOr_eq_ok.mp hscript
      rw [run_fetchBitcoinScriptHistory sdk ans hscript'] at hhistory
      obtain ⟨hanswer, rfl⟩ := Prod.mk.inj hhistory
      rcases history with _ | ⟨h, rest⟩
      · cases hfirst
      · cases hfirst
        obtain ⟨hanswer', -⟩ := Prod.mk.inj htxs
        rcases txs with _ | ⟨tx, txs⟩
        · cases htx
        · cases htx
          exact ⟨_, script, _, rest, _, txs, out, hswap, hscript', hanswer, hanswer', okOr_eq_ok.mp hout,
            Except.ok.inj hamount⟩
    · cases hbitcoin
  · rintro ⟨s, script, h, rest, tx, txs, out, hswap, hscript, hhistory, htxs, hout, hamount⟩
    refine ⟨.bitcoin s, _, ⟨hswap, rfl⟩, s, _, ⟨rfl, rfl⟩, script, _, ⟨okOr_eq_ok.mpr hscript, rfl⟩,
      h :: rest, (n + 1, w), ?_, h, _, ⟨rfl, rfl⟩, tx :: txs, (n + 1 + 1, w), ?_, tx, _, ⟨rfl, rfl⟩, out, _,
      ⟨okOr_eq_ok.mpr hout, rfl⟩, congrArg Except.ok hamount⟩
    · rw [run_fetchBitcoinScriptHistory sdk ans hscript, hhistory]
    · exact Prod.ext htxs rfl

/-- The amount is the stored one, or else the one that is found. -/
theorem run_actualPayerAmount_ok {n : Nat} {w : World} (row : ChainSwap) (isLocal : Bool) (amount : Nat) :
    ((actualPayerAmount sdk (row.withIsLocal isLocal)).run (World.effect sdk) ans (n, w)).1 =
        .ok amount ↔
      row.actualPayerAmountSat = some amount ∨
        row.actualPayerAmountSat = none ∧ AnsweredPayerAmount sdk ans n row amount := by
  have hactual : (row.withIsLocal isLocal).actualPayerAmountSat = row.actualPayerAmountSat := rfl
  unfold actualPayerAmount
  rw [hactual]
  rcases row.actualPayerAmountSat with _ | amount'
  · dsimp only
    rw [Task.bind_eq, Task.run_bind_ok]
    constructor
    · rintro ⟨a, w', hrun, hok⟩
      cases hok
      have hfst := congrArg Prod.fst hrun
      exact .inr ⟨rfl, (run_fetchIncomingSwapActualPayerAmount_ok sdk ans isLocal _).mp hfst⟩
    · rintro (h | ⟨-, h⟩)
      · cases h
      · have hfst := (run_fetchIncomingSwapActualPayerAmount_ok (w := w) sdk ans isLocal amount).mpr h
        exact ⟨amount, _, Prod.ext hfst rfl, rfl⟩
  · constructor
    · intro h
      cases h
      exact .inl rfl
    · rintro (h | ⟨h, -⟩)
      · cases h
        rfl
      · cases h

/-- What a verification of the user lockup came to, and what it left behind. -/
def UserLockupOutcome (w : Nat × World) (id : SwapId) (row : ChainSwap)
    (r : Except Err Unit × (Nat × World)) : Prop :=
  (r.1 = .ok () ↔ UserLockupVerified sdk ans w.1 row) ∧
    (row.direction = .outgoing → r.1 = .ok () → r.2.1 = w.1 + 1) ∧
    (UserLockupSeen sdk ans w.1 row → SeenIn row id w.2 r.2.2) ∧
    (¬ UserLockupSeen sdk ans w.1 row → r.2.2 = w.2)

theorem userLockupOutcome_refused {w : Nat × World} {id : SwapId} {row : ChainSwap} {err : Err} {n : Nat}
    {w' : World} (hnot : ¬ UserLockupVerified sdk ans w.1 row)
    (hseen : UserLockupSeen sdk ans w.1 row → SeenIn row id w.2 w')
    (hunseen : ¬ UserLockupSeen sdk ans w.1 row → w' = w.2) :
    UserLockupOutcome sdk ans w id row (.error err, (n, w')) := by
  refine ⟨iff_of_false (fun h => ?_) hnot, fun _ h => ?_, hseen, hunseen⟩
  · cases h
  · cases h

/-- The verification of the user lockup, case by case: seen or not, and of which amount. -/
theorem run_verifyUserLockupTx {w : Nat × World} {id : SwapId} {row : ChainSwap}
    (hrow : RowIs w.2 id row) (hstate : row.state = .created ∨ row.state = .pending) (isLocal : Bool) :
    UserLockupOutcome sdk ans w id row
      ((verifyUserLockupTx sdk (row.withIsLocal isLocal)).run (World.effect sdk) ans w) := by
  have hdirection : (row.withIsLocal isLocal).direction = row.direction := rfl
  have hpayer : (row.withIsLocal isLocal).payerAmountSat = row.payerAmountSat := rfl
  unfold verifyUserLockupTx
  rw [Task.bind_eq, Task.run_bind]
  -- the lockup is seen or not, and only an incoming swap has its amount compared
  rcases run_userLockupTxExists_cases sdk ans hrow hstate isLocal with
    ⟨hseen, w', hin, hrun⟩ | ⟨hunseen, x, n, hx, hrun⟩
  · rw [hrun]
    dsimp only
    rw [if_pos rfl, hdirection]
    cases hdir : row.direction with
    | outgoing =>
        refine ⟨iff_of_true rfl ⟨hseen, fun h => ?_⟩, fun _ _ => rfl, fun _ => hin, fun h => absurd hseen h⟩
        rw [hdir] at h
        cases h
    | incoming =>
        dsimp only
        have haside := (aside_actualPayerAmount sdk id (row.withIsLocal isLocal)).run sdk ans (w.1 + 1, w')
        have hok := run_actualPayerAmount_ok sdk ans (n := w.1 + 1) (w := w') row isLocal
        have hnotOutgoing : row.direction ≠ .outgoing := by
          rw [hdir]
          decide
        rw [Task.bind_eq, Task.run_bind]
        -- looking the amount up leaves the standing alone
        generalize (actualPayerAmount sdk (row.withIsLocal isLocal)).run (World.effect sdk) ans
          (w.1 + 1, w') = r at haside hok
        obtain ⟨err | amount, n, w''⟩ := r
        · refine userLockupOutcome_refused sdk ans ?_ (fun _ => haside.trans hin)
            (fun h => absurd hseen h)
          rintro ⟨-, h⟩
          obtain ⟨amount, hpaid, -⟩ := h hdir
          cases (hok amount).mpr hpaid
        · dsimp only
          rw [hpayer]
          split
          · rename_i hdiffers
            refine userLockupOutcome_refused sdk ans ?_ (fun _ => haside.trans hin)
              (fun h => absurd hseen h)
            rintro ⟨-, h⟩
            obtain ⟨amount', hpaid', hagreed⟩ := h hdir
            cases (hok amount').mpr hpaid'
            omega
          · rename_i hagrees
            have hagreed : row.payerAmountSat = 0 ∨ row.payerAmountSat = amount := by omega
            exact ⟨iff_of_true rfl ⟨hseen, fun _ => ⟨amount, (hok amount).mp rfl, hagreed⟩⟩,
              fun h => absurd h hnotOutgoing, fun _ => haside.trans hin, fun h => absurd hseen h⟩
  · have hnot : ¬ UserLockupVerified sdk ans w.1 row := fun h => hunseen h.1
    rw [hrun]
    rcases x with err | exists'
    · exact userLockupOutcome_refused sdk ans hnot (fun h => absurd h hunseen) fun _ => rfl
    · cases exists' with
      | true => exact absurd rfl hx
      | false => exact userLockupOutcome_refused sdk ans hnot (fun h => absurd h hunseen) fun _ => rfl

theorem run_requireUserLockup {w : Nat × World} {id : SwapId} {row : ChainSwap} (hrow : RowIs w.2 id row)
    (hstate : row.state = .created ∨ row.state = .pending) (isLocal : Bool) :
    UserLockupOutcome sdk ans w id row
      ((requireUserLockup sdk (row.withIsLocal isLocal)).run (World.effect sdk) ans w) := by
  have h := run_verifyUserLockupTx sdk ans hrow hstate isLocal
  unfold requireUserLockup
  rw [run_mapErr]
  generalize (verifyUserLockupTx sdk (row.withIsLocal isLocal)).run (World.effect sdk) ans w = r at h
  obtain ⟨err | _, n, w'⟩ := r
  · refine userLockupOutcome_refused sdk ans (fun hv => ?_) h.2.2.1 h.2.2.2
    cases h.1.mpr hv
  · exact h

/-! ## The server lockup -/

/-- The verification of the server lockup changes nothing. -/
theorem aside_requireServerLockup (id : SwapId) (swap : ChainSwap) (transaction : TransactionInfo)
    (verifyConfirmation : Bool) :
    Aside id (requireServerLockup sdk swap transaction verifyConfirmation) := by
  refine Task.Within.bind (Task.Within.attempt ?_) fun x => ?_
  · exact within_verifyServerLockupTx (fun _ _ => rfl) (fun _ _ _ _ => trivial) (fun _ _ _ _ => trivial) _ _
  · cases x with
    | ok _ => exact Task.within_done _
    | error err => exact Task.within_done _

theorem mapError_eq_ok {α : Type} {f : Err → Err} {x : Except Err α} {a : α} :
    x.mapError f = .ok a ↔ x = .ok a := by
  cases x with
  | ok a' => exact Iff.rfl
  | error err => exact iff_of_false (fun h => by cases h) (fun h => by cases h)

/-- The verification of the server lockup of an outgoing swap. -/
theorem run_requireServerLockup_ok {n : Nat} {w : World} {row : ChainSwap}
    (hdirection : row.direction = .outgoing) (isLocal : Bool) (transaction : TransactionInfo) :
    ((requireServerLockup sdk (row.withIsLocal isLocal) transaction true).run (World.effect sdk) ans
        (n, w)).1 = .ok () ↔ ServerLockupVerified sdk ans n row transaction := by
  have hdirection' : (row.withIsLocal isLocal).direction = .outgoing := hdirection
  have hscript : (row.withIsLocal isLocal).getClaimSwapScript sdk.bz = row.getClaimSwapScript sdk.bz := rfl
  have hresponse : (row.withIsLocal isLocal).getBoltzCreateResponse sdk.bz =
      row.getBoltzCreateResponse sdk.bz := rfl
  have hexpected : ∀ claimDetails, expectedServerLockupAmountSat (row.withIsLocal isLocal) claimDetails =
      expectedServerLockupAmountSat row claimDetails := fun _ => rfl
  unfold requireServerLockup
  rw [run_mapErr, mapError_eq_ok]
  unfold verifyServerLockupTx
  rw [hdirection']
  dsimp only
  unfold verifyOutgoingServerLockupTx ServerLockupVerified
  simp only [Task.bind_eq, Task.run_bind_ok, Task.run_ofExcept, hscript, hresponse, Prod.mk.injEq,
    Bool.not_true, Bool.false_and, Bool.false_eq_true, if_false, run_checkServerLockupAmount, hexpected]
  constructor
  · rintro ⟨swapScript, _, ⟨hswap, rfl⟩, createResponse, _, ⟨hcreate, rfl⟩, bitcoinScript, _,
      ⟨hbitcoin, rfl⟩, address, _, ⟨haddress, rfl⟩, txHex, _, ⟨hhex, rfl⟩, tx, _, htx, hamount⟩
    rcases swapScript with s | s
    · cases hbitcoin
      obtain ⟨hanswer, -⟩ := Prod.mk.inj htx
      exact ⟨_, address, createResponse, txHex, tx, hswap, okOr_eq_ok.mp haddress, hcreate,
        okOr_eq_ok.mp hhex, hanswer, hamount⟩
    · cases hbitcoin
  · rintro ⟨s, address, createResponse, txHex, tx, hswap, haddress, hcreate, hhex, htx, hamount⟩
    exact ⟨.bitcoin s, _, ⟨hswap, rfl⟩, createResponse, _, ⟨hcreate, rfl⟩, s, _, ⟨rfl, rfl⟩, address, _,
      ⟨okOr_eq_ok.mpr haddress, rfl⟩, txHex, _, ⟨okOr_eq_ok.mpr hhex, rfl⟩, tx, (n + 1, w),
      Prod.ext htx rfl, hamount⟩

/-! ## A claim that comes to nothing -/

/-- What a claim leaves alone in the row. -/
def recordOf (id : SwapId) (w : World) : Option (Direction × PaymentState × Option TxId) :=
  (w.db.chainSwaps.get? id).map fun s => (s.direction, s.state, s.serverLockupTxId)

theorem recordOf_write_update {id : SwapId} {w : World} {p : ChainSwap → Bool}
    {g : ChainSwap → ChainSwap} {hg : ∀ s, (g s).id = s.id}
    (h : ∀ s, ((g s).direction, (g s).state, (g s).serverLockupTxId) =
      (s.direction, s.state, s.serverLockupTxId)) :
    recordOf id (w.write fun now db => db.updateChainSwaps now p g hg) = recordOf id w :=
  Table.map_get?_updateWhere w.db.chainSwaps p (fun s => { g s with metadata := (g s).metadata.touch w.now })
    hg id (f := fun s => (s.direction, s.state, s.serverLockupTxId)) fun s => h s

/-- No transaction of the claim changes the lockup. -/
abbrev SparesLockup (id : SwapId) {α : Type} (t : Async α) : Prop :=
  t.Within (fun f => ∀ w, recordOf id (f w) = recordOf id w) fun _ => True

theorem recordOf_effect (id : SwapId) (q : Call) (a : q.Answer) (w : World) :
    recordOf id (World.effect sdk q a w) = recordOf id w := by
  unfold recordOf
  rw [effect_db]

/-- Setting the claim leaves the rest of the row. -/
theorem recordOf_setChainSwapClaim (id swapId : SwapId) (claimAddress : Option Address) (txId : TxId)
    (w : World) :
    recordOf id (w.tryWrite fun now db => db.setChainSwapClaim now swapId claimAddress txId) =
      recordOf id w := by
  rcases World.tryWrite_cases (fun now db => db.setChainSwapClaim now swapId claimAddress txId) w with
    ⟨db, hdb, h⟩ | h
  · unfold Db.setChainSwapClaim at hdb
    dsimp only at hdb
    split at hdb
    · cases hdb
      rw [h]
      exact recordOf_write_update (w := w) fun s => rfl
    · cases hdb
  · rw [h]

/-- So does the whole claim. -/
theorem sparesLockup_claim (id swapId : SwapId) : SparesLockup id (claim swapId) := by
  have hinner : SparesLockup id (claimInner swapId) :=
    within_claimInner (fun _ => rfl) trivial (fun _ _ => trivial) (recordOf_setChainSwapClaim id swapId)
      (fun _ w => recordOf_write_update (w := w) fun _ => rfl) (fun _ _ => rfl)
      (within_broadcastClaim (fun _ => trivial) (fun _ => trivial) fun _ => trivial)
  exact within_claim (fun _ => rfl) (fun _ => rfl) hinner

/-- A claim that is not broadcast leaves the standing of the swap as it was. -/
theorem run_claim_noClaim {w : Nat × World} {id : SwapId} {s : Standing} {claims : List TxId}
    (hview : view id w.2 = (some s, claims))
    (hno : NoClaim id w.2 ((claim id).run (World.effect sdk) ans w).2.2) :
    view id ((claim id).run (World.effect sdk) ans w).2.2 = (some s, claims) := by
  have hlockup := Task.run_preserves (World.effect sdk) ans (recordOf id) (fun f hf => hf)
    (fun q _ a w => recordOf_effect sdk id q a w) (sparesLockup_claim id id) w
  have hfollows : Follows (claimSystem sdk id) (claimSlot id) Any .free (claim id) Returned :=
    follows_claim
  have hsame : (claimSlot id).Outside w.2 ((claim id).run (World.effect sdk) ans w).2.2 :=
    hfollows.run_outside ans (fun _ _ _ => trivial) trivial hno
  unfold recordOf at hlockup
  rw [← hview]
  refine Prod.ext (hsame.map_row (fun w : World => w.db.chainSwaps.get? id) (f := standing) (fun _ => rfl) ?_
    hlockup) hsame.2
  intro row row' hkept (hclaim : row'.claimTxId = row.claimTxId)
  obtain ⟨hdirection, hkept⟩ := Prod.mk.inj hkept
  obtain ⟨hstate, hserver⟩ := Prod.mk.inj hkept
  show Standing.mk _ _ _ _ = Standing.mk _ _ _ _
  rw [hdirection, hstate, hserver, hclaim]

/-- Likewise for the claim after a status update. -/
theorem run_delayedClaim_noClaim {w : Nat × World} {id : SwapId} {s : Standing} {claims : List TxId}
    (hview : view id w.2 = (some s, claims)) (swap : ChainSwap)
    (hno : NoClaim id w.2 ((delayedClaim swap id).run (World.effect sdk) ans w).2.2) :
    view id ((delayedClaim swap id).run (World.effect sdk) ans w).2.2 = (some s, claims) := by
  have hrun : ∃ n, ((delayedClaim swap id).run (World.effect sdk) ans w).2.2 =
      ((claim id).run (World.effect sdk) ans (n, w.2)).2.2 := by
    unfold delayedClaim maybeDelayBeforeClaim
    rw [Task.bind_eq, Task.run_bind]
    by_cases hlocal : swap.metadata.isLocal = true
    · refine ⟨w.1, ?_⟩
      rw [if_pos hlocal, Task.pure_eq, Task.run_done]
      dsimp only
      rw [run_mapErr]
    · refine ⟨w.1 + 1, ?_⟩
      rw [if_neg hlocal, Task.ask, Task.run_call, Task.run_done]
      dsimp only
      rw [run_mapErr, effect_of_quiet sdk (q := .sleep 5) trivial]
  obtain ⟨n, hrun⟩ := hrun
  rw [hrun] at hno ⊢
  exact run_claim_noClaim sdk ans (w := (n, w.2)) hview hno

/-! ## Recording the id -/

/-- The standing once the id of a server lockup is recorded. -/
def recordedStanding (s : Standing) (txId : TxId) : Standing :=
  { s with state := .pending, serverLockupTxId := s.serverLockupTxId.or (some txId) }

/-- Recording the id makes the swap pending, with the id if there was none. -/
theorem run_recordServerLockup {w : Nat × World} {id : SwapId} {s : Standing} {claims : List TxId}
    (hview : view id w.2 = (some s, claims)) (hstate : s.state = .created ∨ s.state = .pending)
    (txId : TxId) :
    ∃ w', (updateSwapInfo
          { swapId := id, toState := .pending, serverLockupTxId := some txId }).run
        (World.effect sdk) ans w = (.ok (), (w.1, w')) ∧
      view id w' = (some (recordedStanding s txId), claims) := by
  obtain ⟨row, hrow, rfl⟩ := exists_row_of_view hview
  have hclaims : (claimSlot id).published w.2 = claims := congrArg Prod.snd hview
  have hafter := rowIs_update (w := w.2)
    (u := { swapId := id, toState := .pending, serverLockupTxId := some txId }) hrow
  have hvalid : validateStateTransition row.state .pending = .ok () := validateStateTransition_pending hstate
  refine ⟨w.2.write fun now db => db.tryHandleChainSwapUpdate now
    { swapId := id, toState := .pending, serverLockupTxId := some txId }, ?_, ?_⟩
  · rw [run_updateSwapInfo _ ans hrow]
    dsimp only
    rw [hvalid]
  · rw [view_of_row hafter, ← hclaims]
    refine Prod.ext (congrArg some ?_) rfl
    show Standing.mk _ _ _ _ = Standing.mk _ _ _ _
    simp [ChainSwapUpdate.applyTo, standing]

theorem or_some_eq {txId : TxId} {o : Option TxId} :
    o.or (some txId) = some txId ↔ o = none ∨ o = some txId := by
  rcases o with _ | txId'
  · simp
  · simp

/-- The rescan of a swap for which the id was recorded. -/
theorem rescanned_of_recorded {w : World} {id : SwapId} {s : Standing} {claims : List TxId} {txId : TxId}
    (h : view id w = (some (recordedStanding s txId), claims)) (hclaim : s.claimTxId = none) :
    Rescanned s.direction id txId w.db ↔
      s.serverLockupTxId = none ∨ s.serverLockupTxId = some txId := by
  rw [rescanned_iff h]
  constructor
  · rintro ⟨-, -, -, hlockup⟩
    exact or_some_eq.mp hlockup
  · intro hlockup
    exact ⟨rfl, rfl, hclaim, or_some_eq.mpr hlockup⟩

/-- The rescan of a swap for which the handler did not get that far. -/
theorem rescanned_of_unrecorded {w w' : World} {n : Nat} {id : SwapId} {row : ChainSwap} {txId : TxId}
    (hrow : RowIs w id row) (hclaim : row.claimTxId = none)
    (hseen : UserLockupSeen sdk ans n row → SeenIn row id w w')
    (hunseen : ¬ UserLockupSeen sdk ans n row → view id w' = view id w) :
    Rescanned row.direction id txId w'.db ↔ AlreadyRecorded sdk ans n row txId := by
  unfold AlreadyRecorded
  by_cases h : UserLockupSeen sdk ans n row
  · rw [rescanned_iff (hseen h)]
    unfold seenStanding
    by_cases huser : row.userLockupTxId = none
    · simp [standing, huser, hclaim, h]
    · simp [standing, huser, hclaim, h, and_comm]
  · rw [rescanned_iff ((hunseen h).trans (view_of_row hrow))]
    simp [standing, hclaim, h, and_comm]

theorem seenStanding_state {row : ChainSwap} (hstate : row.state = .created ∨ row.state = .pending) :
    (seenStanding row).state = .created ∨ (seenStanding row).state = .pending := by
  unfold seenStanding
  dsimp only
  split
  · exact .inr rfl
  · exact hstate

/-! ## The status -/

section Status

variable {w : Nat × World} {update : SwapStatus} {row : ChainSwap} {transaction : TransactionInfo}

/-- The result of handling a confirmed server lockup, seen from the rescan. -/
def Retries (w : Nat × World) (row : ChainSwap) (id : SwapId) (transaction : TransactionInfo)
    (r : Except Err Unit × (Nat × World)) : Prop :=
  NoClaim id w.2 r.2.2 → (Rescanned row.direction id transaction.id r.2.2.db ↔
    AlreadyRecorded sdk ans w.1 row transaction.id ∨ GetsRecorded sdk ans w.1 row transaction)

/-- The handler stopped before it recorded the id. -/
theorem retries_unrecorded {id : SwapId} (hrow : RowIs w.2 id row) (hclaim : row.claimTxId = none)
    (hnot : ¬ (UserLockupVerified sdk ans w.1 row ∧
      (row.direction = .outgoing → ServerLockupVerified sdk ans (w.1 + 1) row transaction)))
    {r : Except Err Unit × (Nat × World)}
    (hseen : UserLockupSeen sdk ans w.1 row → SeenIn row id w.2 r.2.2)
    (hunseen : ¬ UserLockupSeen sdk ans w.1 row → view id r.2.2 = view id w.2) :
    Retries sdk ans w row id transaction r := by
  intro _
  rw [rescanned_of_unrecorded sdk ans hrow hclaim hseen hunseen]
  exact (or_iff_left fun h => hnot h.2).symm

/-- The handler recorded the id. -/
theorem retries_recorded {id : SwapId} (hclaim : row.claimTxId = none)
    (hverified : UserLockupVerified sdk ans w.1 row)
    (hserver : row.direction = .outgoing → ServerLockupVerified sdk ans (w.1 + 1) row transaction)
    {r : Except Err Unit × (Nat × World)}
    (hview : NoClaim id w.2 r.2.2 → view id r.2.2 =
      (some (recordedStanding (seenStanding row) transaction.id), (claimSlot id).published w.2)) :
    Retries sdk ans w row id transaction r := by
  intro hno
  have hrescanned := rescanned_of_recorded (hview hno) (show (seenStanding row).claimTxId = none from hclaim)
  have hdirection : (seenStanding row).direction = row.direction := rfl
  have hlockup : (seenStanding row).serverLockupTxId = row.serverLockupTxId := rfl
  rw [hdirection, hlockup] at hrescanned
  rw [hrescanned]
  constructor
  · intro h
    exact .inr ⟨h, hverified, hserver⟩
  · rintro (⟨h, -⟩ | ⟨h, -⟩)
    · exact .inr h
    · exact h

/-- An outgoing swap: the server lockup is verified before its id is recorded ... -/
theorem onOutgoingServerConfirmed_retries (hrow : RowIs w.2 update.id row)
    (hdirection : row.direction = .outgoing) (hstate : row.state = .created ∨ row.state = .pending)
    (hclaim : row.claimTxId = none) (htx : update.transaction = some transaction) (isLocal : Bool) :
    Retries sdk ans w row update.id transaction
      ((onOutgoingServerConfirmed sdk (row.withIsLocal isLocal) update).run (World.effect sdk) ans w) := by
  have hclaim' : (row.withIsLocal isLocal).claimTxId = none := hclaim
  have huser := run_requireUserLockup sdk ans hrow hstate isLocal
  unfold onOutgoingServerConfirmed
  rw [hclaim']
  dsimp only
  rw [Task.bind_eq, Task.run_bind, serverTransaction, htx, okOr, Task.run_ofExcept]
  dsimp only
  rw [Task.bind_eq, Task.run_bind]
  generalize (requireUserLockup sdk (row.withIsLocal isLocal)).run (World.effect sdk) ans w = r at huser
  obtain ⟨hok, hcount, hseen, hunseen⟩ := huser
  obtain ⟨err | _, n, w₁⟩ := r
  · refine retries_unrecorded sdk ans hrow hclaim (fun h => ?_) hseen fun h => congrArg _ (hunseen h)
    cases hok.mpr h.1
  · have hverified := hok.mp rfl
    have hin : SeenIn row update.id w.2 w₁ := hseen hverified.1
    have hn : n = w.1 + 1 := hcount hdirection rfl
    subst hn
    have hserver := run_requireServerLockup_ok (n := w.1 + 1) (w := w₁) sdk ans hdirection isLocal transaction
    have haside := (aside_requireServerLockup sdk update.id (row.withIsLocal isLocal) transaction true).run
      sdk ans (w.1 + 1, w₁)
    dsimp only
    rw [Task.bind_eq, Task.run_bind]
    generalize (requireServerLockup sdk (row.withIsLocal isLocal) transaction true).run (World.effect sdk)
      ans (w.1 + 1, w₁) = r at hserver haside
    obtain ⟨err | _, n, w₂⟩ := r
    · refine retries_unrecorded sdk ans hrow hclaim (fun h => ?_) (fun _ => haside.trans hin)
        fun h => absurd hverified.1 h
      cases hserver.mpr (h.2 hdirection)
    · obtain ⟨w₃, hrun, hview⟩ := run_recordServerLockup sdk ans (w := (n, w₂)) (haside.trans hin)
        (seenStanding_state hstate) transaction.id
      dsimp only
      rw [Task.bind_eq, Task.run_bind, hrun]
      dsimp only
      refine retries_recorded sdk ans hclaim hverified (fun _ => hserver.mp rfl) fun hno => ?_
      refine run_delayedClaim_noClaim sdk ans (w := (n, w₃)) hview _ ?_
      exact hno.trans (congrArg Prod.snd hview).symm

/-- ... and an incoming one, whose id is recorded whatever the verification says. -/
theorem onIncomingServerConfirmed_retries (hrow : RowIs w.2 update.id row)
    (hdirection : row.direction = .incoming) (hstate : row.state = .created ∨ row.state = .pending)
    (hclaim : row.claimTxId = none) (htx : update.transaction = some transaction) (isLocal : Bool) :
    Retries sdk ans w row update.id transaction
      ((onIncomingServerConfirmed sdk (row.withIsLocal isLocal) update).run (World.effect sdk) ans w) := by
  have hclaim' : (row.withIsLocal isLocal).claimTxId = none := hclaim
  have huser := run_requireUserLockup sdk ans hrow hstate isLocal
  have hnotOutgoing : row.direction = .outgoing → ServerLockupVerified sdk ans (w.1 + 1) row transaction := by
    intro h
    rw [hdirection] at h
    cases h
  unfold onIncomingServerConfirmed
  rw [hclaim']
  dsimp only
  rw [Task.bind_eq, Task.run_bind, serverTransaction, htx, okOr, Task.run_ofExcept]
  dsimp only
  rw [Task.bind_eq, Task.run_bind]
  generalize (requireUserLockup sdk (row.withIsLocal isLocal)).run (World.effect sdk) ans w = r at huser
  obtain ⟨hok, -, hseen, hunseen⟩ := huser
  obtain ⟨err | _, n, w₁⟩ := r
  · refine retries_unrecorded sdk ans hrow hclaim (fun h => ?_) hseen fun h => congrArg _ (hunseen h)
    cases hok.mpr h.1
  · have hverified := hok.mp rfl
    have hin : SeenIn row update.id w.2 w₁ := hseen hverified.1
    have haside := (aside_requireServerLockup sdk update.id (row.withIsLocal isLocal) transaction true).run
      sdk ans (n, w₁)
    dsimp only
    rw [Task.bind_eq, Task.run_bind, Task.run_attempt]
    generalize (requireServerLockup sdk (row.withIsLocal isLocal) transaction true).run (World.effect sdk)
      ans (n, w₁) = r at haside
    obtain ⟨verifyRes, n₂, w₂⟩ := r
    have hnote : Aside update.id (noteUnverified update.id transaction.id verifyRes) := by
      unfold noteUnverified
      split
      · exact Task.within_done _
      · exact within_note fun w => rfl
    have haside' := hnote.run sdk ans (n₂, w₂)
    dsimp only
    rw [Task.bind_eq, Task.run_bind]
    have hdone : ((noteUnverified update.id transaction.id verifyRes).run (World.effect sdk) ans
        (n₂, w₂)).1 = .ok () := by
      unfold noteUnverified
      split
      · rfl
      · rfl
    generalize (noteUnverified update.id transaction.id verifyRes).run (World.effect sdk) ans (n₂, w₂) = r
      at haside' hdone
    obtain ⟨x, n₃, w₃⟩ := r
    subst hdone
    -- whether or not the verification succeeded, the id is recorded
    obtain ⟨w₄, hrun, hview⟩ := run_recordServerLockup sdk ans (w := (n₃, w₃))
      (haside'.trans (haside.trans hin)) (seenStanding_state hstate) transaction.id
    dsimp only
    rw [Task.bind_eq, Task.run_bind, hrun]
    dsimp only
    refine retries_recorded sdk ans hclaim hverified hnotOutgoing fun hno => ?_
    rcases verifyRes with err | _
    · exact hview
    · refine run_delayedClaim_noClaim sdk ans (w := (n₃, w₄)) hview _ ?_
      exact hno.trans (congrArg Prod.snd hview).symm

/-- **Confirmed server lockups and the rescan.** If handling a confirmed server lockup of an unclaimed swap
ends without a claim, the row left behind is rescanned for that lockup exactly if it was already, or the
handler got to record the id and no other one is recorded. -/
theorem serverConfirmed_retries (hrow : RowIs w.2 update.id row)
    (hstate : row.state = .created ∨ row.state = .pending) (hclaim : row.claimTxId = none)
    (hstatus : sdk.bz.chainSwapStates update.status = some .transactionServerConfirmed)
    (htx : update.transaction = some transaction) :
    Retries sdk ans w row update.id transaction
      ((onNewStatus sdk update).run (World.effect sdk) ans w) := by
  have hdirection : (row.withIsLocal (w.2.db.isLocal row.id)).direction = row.direction := rfl
  unfold onNewStatus
  rw [Task.bind_eq, Task.run_bind, run_fetchChainSwapById _ ans hrow]
  dsimp only
  rw [hdirection]
  cases hdir : row.direction with
  | incoming =>
      dsimp only
      unfold onNewIncomingStatus chainSwapState
      rw [Task.bind_eq, Task.run_bind, Task.run_ofExcept, hstatus]
      exact onIncomingServerConfirmed_retries sdk ans hrow hdir hstate hclaim htx _
  | outgoing =>
      dsimp only
      unfold onNewOutgoingStatus chainSwapState
      rw [Task.bind_eq, Task.run_bind, Task.run_ofExcept, hstatus]
      exact onOutgoingServerConfirmed_retries sdk ans hrow hdir hstate hclaim htx _

end Status

end Run

end BreezLiquid.Chain
