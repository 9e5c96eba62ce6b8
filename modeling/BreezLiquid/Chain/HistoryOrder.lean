/-
# BreezLiquid.Chain.HistoryOrder — the user lockup, looked up in a history in another order.

The user lockup is taken to be the first transaction of the lockup script's history. That is so on Electrum, which
lists the oldest first. Esplora lists the newest first, so the first one may be the transaction that spends the lockup.

The handler records the id of the user lockup, and looks up the amount that was paid to it. For both, the result on a
history is compared with those on its permutations by `OrderFree`. It is the same on all of them exactly if the entries
that may come first give the same, and no history is excluded.

`historyOrder_iff_unambiguous` adds the recovered data of the four handlers. The instance is a lockup with the swapper's
claim in the mempool, listed newest first.
-/
import BreezLiquid.Chain.ConfirmedLockup
import BreezLiquid.Chain.Unrecoverable
import BreezLiquid.Recover.HistoryOrder

namespace BreezLiquid.Chain

open AnyOrder Interleaving Recover Tables

/-- The address of a swap script on its chain. -/
def scriptAddress : SwapScriptV2 → Option Script
  | .liquid s => s.toAddress
  | .bitcoin s => s.toAddress

/-- The answers, with the history of the script asked for listed as given. -/
def withHistory (ans : Nat → (q : Call) → q.Answer) (history : List History) : Nat → (q : Call) → q.Answer
  | _, .bitcoinScriptHistory _ => .ok history
  | _, .liquidScriptHistory _ => .ok history
  | n, q => ans n q

section Run

variable (sdk : Sdk) (ans : Nat → (q : Call) → q.Answer)

/-! ## The user lockup's id -/

/-- The user lockup recorded for the swap. -/
def recordedUserLockup (id : SwapId) (w : World) : Option TxId :=
  (w.db.chainSwaps.get? id).bind ChainSwap.userLockupTxId

/-- Whether the user lockup was found, and the id that is recorded for it then. -/
def lookedUp (swap : ChainSwap) (w : Nat × World) : Except Err Bool × Option TxId :=
  let r := (userLockupTxExists sdk swap).run (World.effect sdk) ans w
  (r.1, recordedUserLockup swap.id r.2.2)

/-- An id is to be recorded for the user lockup: neither the swap nor its row has one, the row may become pending, and
the lockup script has an address. -/
def RecordsUserLockup (swap : ChainSwap) (w : World) : Prop :=
  swap.userLockupTxId = none ∧
    (∃ row, RowIs w swap.id row ∧ row.userLockupTxId = none ∧
      validateStateTransition row.state .pending = .ok ()) ∧
    ∃ swapScript script, swap.getLockupSwapScript sdk.bz = .ok swapScript ∧ scriptAddress swapScript = some script

theorem run_fetchScriptHistory_withHistory {swapScript : SwapScriptV2} {script : Script}
    (hscript : scriptAddress swapScript = some script) (history : List History) (w : Nat × World) :
    (fetchScriptHistory swapScript).run (World.effect sdk) (withHistory ans history) w =
      (.ok history, (w.1 + 1, w.2)) := by
  have hanswer : answeredHistory (withHistory ans history) w.1 swapScript = some history := by
    cases swapScript with
    | liquid s =>
        show s.toAddress.bind _ = some history
        rw [show s.toAddress = some script from hscript]
        rfl
    | bitcoin s =>
        show s.toAddress.bind _ = some history
        rw [show s.toAddress = some script from hscript]
        rfl
  rcases run_fetchScriptHistory sdk (withHistory ans history) swapScript w with
    ⟨history', hanswer', hrun⟩ | ⟨hnone, -⟩
  · rw [hanswer] at hanswer'
    cases hanswer'
    exact hrun
  · rw [hanswer] at hnone
    cases hnone

theorem run_fetchScriptHistory_of_no_address {swapScript : SwapScriptV2} (hscript : scriptAddress swapScript = none)
    (w : Nat × World) :
    (fetchScriptHistory swapScript).run (World.effect sdk) ans w =
      (.error (.generic "Failed to get swap script address"), w) := by
  cases swapScript with
  | liquid s =>
      unfold fetchScriptHistory fetchLiquidScriptHistory scriptPubkey
      rw [Task.bind_eq, Task.run_bind, Task.run_ofExcept]
      dsimp only [SwapScriptV2.asLiquidScript]
      rw [Task.bind_eq, Task.run_bind, show s.toAddress = none from hscript]
      rfl
  | bitcoin s =>
      unfold fetchScriptHistory fetchBitcoinScriptHistory scriptPubkey
      rw [Task.bind_eq, Task.run_bind, Task.run_ofExcept]
      dsimp only [SwapScriptV2.asBitcoinScript]
      rw [Task.bind_eq, Task.run_bind, show s.toAddress = none from hscript]
      rfl

/-- Without an address of the lockup script the history is not read. -/
theorem run_userLockupTxExists_of_no_script {swap : ChainSwap}
    (hscript : ¬ ∃ swapScript script, swap.getLockupSwapScript sdk.bz = .ok swapScript ∧
      scriptAddress swapScript = some script) (ans' : Nat → (q : Call) → q.Answer) (w : Nat × World) :
    (userLockupTxExists sdk swap).run (World.effect sdk) ans w =
      (userLockupTxExists sdk swap).run (World.effect sdk) ans' w := by
  unfold userLockupTxExists
  rw [Task.bind_eq, Task.run_bind, Task.run_bind, Task.run_ofExcept, Task.run_ofExcept]
  cases hlockup : swap.getLockupSwapScript sdk.bz with
  | error err => rfl
  | ok swapScript =>
      have hnone : scriptAddress swapScript = none := by
        cases haddress : scriptAddress swapScript with
        | none => rfl
        | some script => exact absurd ⟨swapScript, script, hlockup, haddress⟩ hscript
      dsimp only
      rw [Task.bind_eq, Task.run_bind, Task.run_bind, run_fetchScriptHistory_of_no_address sdk ans hnone,
        run_fetchScriptHistory_of_no_address sdk ans' hnone]

/-- What looking up comes to when the entry is the first of the history. -/
def lookedUpAt (swap : ChainSwap) (w : World) (h : History) : Except Err Bool × Option TxId :=
  match w.db.chainSwaps.get? swap.id with
  | none => (.error (.generic ("Chain Swap not found " ++ swap.id)), none)
  | some row =>
      match validateStateTransition row.state .pending with
      | .error err => (.error err, row.userLockupTxId)
      | .ok _ => (.ok true, row.userLockupTxId.or (some h.txid))

theorem run_updateSwapInfo_lookedUpAt (swap : ChainSwap) (w : Nat × World) (h : History) :
    let r := (updateSwapInfo { swapId := swap.id, toState := .pending, userLockupTxId := some h.txid }).run
      (World.effect sdk) ans w
    (r.1.map fun _ => true, recordedUserLockup swap.id r.2.2) = lookedUpAt swap w.2 h := by
  unfold lookedUpAt
  cases hrow : w.2.db.chainSwaps.get? swap.id with
  | none =>
      have hrun : (updateSwapInfo { swapId := swap.id, toState := .pending, userLockupTxId := some h.txid }).run
          (World.effect sdk) ans w = (.error (.generic ("Chain Swap not found " ++ swap.id)), w) := by
        unfold updateSwapInfo fetchChainSwapById
        rw [Task.bind_eq, Task.run_bind, Task.bind_eq, Task.run_bind, run_fetch]
        dsimp only
        rw [Db.fetchChainSwapById, hrow]
        rfl
      rw [hrun]
      show (Except.error _, recordedUserLockup swap.id w.2) = _
      unfold recordedUserLockup
      rw [hrow]
      rfl
  | some row =>
      have hafter := rowIs_update (w := w.2)
        (u := { swapId := swap.id, toState := .pending, userLockupTxId := some h.txid }) hrow
      rw [run_updateSwapInfo _ ans hrow]
      dsimp only
      cases validateStateTransition row.state .pending with
      | error err =>
          show (Except.error err, recordedUserLockup swap.id w.2) = _
          unfold recordedUserLockup
          rw [hrow]
          rfl
      | ok _ =>
          show (Except.ok true, recordedUserLockup swap.id (w.2.write _)) = _
          unfold recordedUserLockup
          rw [hafter]
          rfl

theorem lookedUp_withHistory {swap : ChainSwap} {swapScript : SwapScriptV2} {script : Script}
    (hlockup : swap.getLockupSwapScript sdk.bz = .ok swapScript) (hscript : scriptAddress swapScript = some script)
    (hrecorded : swap.userLockupTxId = none) (w : Nat × World) (history : List History) :
    lookedUp sdk (withHistory ans history) swap w =
      history.head?.elim (.ok false, recordedUserLockup swap.id w.2) (lookedUpAt swap w.2) := by
  unfold lookedUp
  rw [run_userLockupTxExists_of_history sdk _ hlockup
    (run_fetchScriptHistory_withHistory sdk ans hscript history w), hrecorded]
  cases history with
  | nil => rfl
  | cons h rest =>
      exact run_updateSwapInfo_lookedUpAt sdk (withHistory ans (h :: rest)) swap (w.1 + 1, w.2) h

/-- The row without an id gets the id of the entry, if it may become pending. -/
theorem lookedUpAt_eq_iff {swap : ChainSwap} {w : World} {a b : History} :
    lookedUpAt swap w a = lookedUpAt swap w b ↔
      ((∃ row, RowIs w swap.id row ∧ row.userLockupTxId = none ∧
        validateStateTransition row.state .pending = .ok ()) → a.txid = b.txid) := by
  unfold lookedUpAt
  cases hrow : w.db.chainSwaps.get? swap.id with
  | none =>
      refine iff_of_true rfl ?_
      rintro ⟨row, hrow', -⟩
      exact absurd (hrow.symm.trans hrow') (by simp)
  | some row =>
      dsimp only
      cases hvalid : validateStateTransition row.state .pending with
      | error err =>
          refine iff_of_true rfl ?_
          rintro ⟨row', hrow', -, hvalid'⟩
          cases hrow.symm.trans hrow'
          rw [hvalid] at hvalid'
          cases hvalid'
      | ok _ =>
          cases hrecorded : row.userLockupTxId with
          | some txId =>
              refine iff_of_true rfl ?_
              rintro ⟨row', hrow', hnone, -⟩
              cases hrow.symm.trans hrow'
              rw [hrecorded] at hnone
              cases hnone
          | none =>
              constructor
              · intro h _
                exact Option.some.inj (Prod.mk.inj h).2
              · intro h
                rw [h ⟨row, hrow, hrecorded, hvalid⟩]

/-- The order of the history does not matter for the id exactly if none is recorded, or all entries have one id. -/
theorem lookedUp_orderFree_iff (swap : ChainSwap) (w : Nat × World) (history : List History) :
    OrderFree (fun history => lookedUp sdk (withHistory ans history) swap w) history ↔
      (RecordsUserLockup sdk swap w.2 → ∀ a ∈ history, ∀ b ∈ history, a.txid = b.txid) := by
  by_cases hscript : ∃ swapScript script, swap.getLockupSwapScript sdk.bz = .ok swapScript ∧
      scriptAddress swapScript = some script
  · obtain ⟨swapScript, script, hlockup, haddress⟩ := hscript
    cases hrecorded : swap.userLockupTxId with
    | none =>
        simp only [lookedUp_withHistory sdk ans hlockup haddress hrecorded w]
        rw [orderFree_head?_elim_iff]
        constructor
        · rintro h ⟨-, hrow, -⟩ a ha b hb
          exact lookedUpAt_eq_iff.mp (h a ha b hb) hrow
        · intro h a ha b hb
          exact lookedUpAt_eq_iff.mpr fun hrow => h ⟨hrecorded, hrow, swapScript, script, hlockup, haddress⟩ a ha b hb
    | some txId =>
        refine iff_of_true ?_ ?_
        · -- the recorded id is in every order or in none
          intro l₁ l₂ h₁ h₂
          dsimp only [lookedUp]
          rw [run_userLockupTxExists_of_history sdk _ hlockup
              (run_fetchScriptHistory_withHistory sdk ans haddress l₁ w),
            run_userLockupTxExists_of_history sdk _ hlockup
              (run_fetchScriptHistory_withHistory sdk ans haddress l₂ w), hrecorded]
          dsimp only
          rw [(h₁.trans h₂.symm).any_eq]
        · rintro ⟨hnone, -⟩
          rw [hrecorded] at hnone
          cases hnone
  · refine iff_of_true ?_ ?_
    · intro l₁ l₂ _ _
      dsimp only [lookedUp]
      rw [run_userLockupTxExists_of_no_script sdk _ hscript (withHistory ans l₂)]
    · rintro ⟨-, -, hsome⟩
      exact absurd hsome hscript

/-! ## The actual payer amount -/

/-- What the transaction pays to the script, as it is answered. -/
def paidTo (n : Nat) (script : Script) (id : TxId) : Option Nat := do
  let txs ← (ans n (.bitcoinTransactions [id])).toOption
  let tx ← txs.head?
  let out ← tx.output.find? fun out => out.scriptPubkey = script
  return out.value

/-- The actual payer amount, if one is found. -/
def foundPayerAmount (swap : ChainSwap) (w : Nat × World) : Option Nat :=
  ((fetchIncomingSwapActualPayerAmount sdk swap).run (World.effect sdk) ans w).1.toOption

theorem foundPayerAmount_eq_some {swap : ChainSwap} {w : Nat × World} {amount : Nat} :
    foundPayerAmount sdk ans swap w = some amount ↔ AnsweredPayerAmount sdk ans w.1 swap amount := by
  rw [← run_fetchIncomingSwapActualPayerAmount_ok (w := w.2) sdk ans swap.metadata.isLocal amount]
  unfold foundPayerAmount
  show Except.toOption ((fetchIncomingSwapActualPayerAmount sdk swap).run (World.effect sdk) ans w).1 = some amount ↔
    ((fetchIncomingSwapActualPayerAmount sdk swap).run (World.effect sdk) ans w).1 = .ok amount
  cases ((fetchIncomingSwapActualPayerAmount sdk swap).run (World.effect sdk) ans w).1 with
  | error err => simp [Except.toOption]
  | ok a => simp [Except.toOption]

theorem foundPayerAmount_withHistory {swap : ChainSwap} {swapScript : SwapScript} {script : Script}
    (hlockup : swap.getLockupSwapScript sdk.bz = .ok (.bitcoin swapScript))
    (hscript : swapScript.toAddress = some script) (w : Nat × World) (history : List History) :
    foundPayerAmount sdk (withHistory ans history) swap w =
      history.head?.elim none fun h => paidTo ans (w.1 + 1) script h.txid := by
  refine Option.ext fun amount => ?_
  rw [foundPayerAmount_eq_some]
  constructor
  · rintro ⟨s, script', first, rest, tx, txs, out, hlockup', hscript', hhistory, htxs, hout, hvalue⟩
    cases hlockup.symm.trans hlockup'
    cases hscript.symm.trans hscript'
    cases hhistory
    have htxs' : ans (w.1 + 1) (.bitcoinTransactions [first.txid]) = .ok (tx :: txs) := htxs
    show paidTo ans (w.1 + 1) script first.txid = some amount
    unfold paidTo
    rw [htxs']
    show ((tx.output.find? _).bind _) = some amount
    rw [hout]
    exact congrArg some hvalue
  · intro h
    cases history with
    | nil => cases h
    | cons first rest =>
        have hpaid : paidTo ans (w.1 + 1) script first.txid = some amount := h
        unfold paidTo at hpaid
        cases htxs : ans (w.1 + 1) (.bitcoinTransactions [first.txid]) with
        | error err =>
            rw [htxs] at hpaid
            cases hpaid
        | ok txs =>
            rw [htxs] at hpaid
            cases txs with
            | nil => cases hpaid
            | cons tx txs =>
                have hout : ((tx.output.find? fun out => out.scriptPubkey = script).bind fun out =>
                    some out.value) = some amount := hpaid
                obtain ⟨out, hfind, hvalue⟩ := Option.bind_eq_some_iff.mp hout
                exact ⟨swapScript, script, first, rest, tx, txs, out, hlockup, hscript, rfl, htxs, hfind,
                  Option.some.inj hvalue⟩

/-- The order of the history does not matter for the amount exactly if all its transactions pay the same to the
script. -/
theorem foundPayerAmount_orderFree_iff (swap : ChainSwap) (w : Nat × World) (history : List History) :
    OrderFree (fun history => foundPayerAmount sdk (withHistory ans history) swap w) history ↔
      ∀ swapScript script, swap.getLockupSwapScript sdk.bz = .ok (.bitcoin swapScript) →
        swapScript.toAddress = some script →
        ∀ a ∈ history, ∀ b ∈ history,
          paidTo ans (w.1 + 1) script a.txid = paidTo ans (w.1 + 1) script b.txid := by
  by_cases hscript : ∃ swapScript script, swap.getLockupSwapScript sdk.bz = .ok (.bitcoin swapScript) ∧
      swapScript.toAddress = some script
  · obtain ⟨swapScript, script, hlockup, hscript⟩ := hscript
    simp only [foundPayerAmount_withHistory sdk ans hlockup hscript w]
    rw [orderFree_head?_elim_iff]
    constructor
    · intro h swapScript' script' hlockup' hscript'
      cases hlockup.symm.trans hlockup'
      cases hscript.symm.trans hscript'
      exact h
    · intro h
      exact h swapScript script hlockup hscript
  · refine iff_of_true ?_ ?_
    · have hnone : ∀ ans, foundPayerAmount sdk ans swap w = none := by
        intro ans
        rw [Option.eq_none_iff_forall_ne_some]
        intro amount hsome
        obtain ⟨s, script, -, -, -, -, -, hlockup, haddress, -⟩ := (foundPayerAmount_eq_some sdk ans).mp hsome
        exact hscript ⟨s, script, hlockup, haddress⟩
      intro l₁ l₂ _ _
      exact (hnone _).trans (hnone _).symm
    · intro swapScript script hlockup haddress
      exact absurd ⟨swapScript, script, hlockup, haddress⟩ hscript

end Run

/-! ## Recovery and the status handler -/

/-- **Independence of history order, measured.** For the recovered data of each handler, the user lockup that is
recorded and the payer amount that is found: two orders of a history give the same exactly if it is unambiguous. -/
theorem historyOrder_iff_unambiguous (raw : RawTxMap) (txs : BtcTransactions) (sdk : Sdk)
    (ans : Nat → (q : Call) → q.Answer) :
    (∀ history, OrderFree (SendSwapHandler.recoverOnchainData (.fromRawTxMap raw)) history ↔
      SendUnambiguous (.fromRawTxMap raw) history) ∧
    (∀ swapTimestamp receiverAmountSat lbtcAssetId claimHistory mrhHistory,
      OrderFree₂ (fun claim mrh => ReceiveSwapHandler.recoverOnchainData (.fromRawTxMap raw) ⟨claim, mrh⟩
          swapTimestamp receiverAmountSat lbtcAssetId) claimHistory mrhHistory ↔
        ReceiveUnambiguous (.fromRawTxMap raw) swapTimestamp receiverAmountSat lbtcAssetId claimHistory mrhHistory) ∧
    (∀ claimScript lbtcHistory btcHistory,
      OrderFree₂ (fun lbtc btc => ChainSendSwapHandler.recoverOnchainData (.fromRawTxMap raw)
          ⟨lbtc, btc, txs.ofHistory btc⟩ claimScript) lbtcHistory btcHistory ↔
        ChainSendUnambiguous (.fromRawTxMap raw) txs claimScript lbtcHistory btcHistory) ∧
    (∀ addressFromScript lockupScript balance lbtcHistory btcHistory,
      OrderFree₂ (fun lbtc btc => ChainReceiveSwapHandler.recoverOnchainData addressFromScript (.fromRawTxMap raw)
          ⟨lbtc, btc, txs.ofHistory btc, balance⟩ lockupScript) lbtcHistory btcHistory ↔
        ChainReceiveSwapHandler.ChainReceiveUnambiguous (.fromRawTxMap raw) txs lockupScript lbtcHistory
          btcHistory) ∧
    (∀ swap w history,
      OrderFree (fun history => lookedUp sdk (withHistory ans history) swap w) history ↔
        (RecordsUserLockup sdk swap w.2 → ∀ a ∈ history, ∀ b ∈ history, a.txid = b.txid)) ∧
    ∀ swap w history,
      OrderFree (fun history => foundPayerAmount sdk (withHistory ans history) swap w) history ↔
        ∀ swapScript script, swap.getLockupSwapScript sdk.bz = .ok (.bitcoin swapScript) →
          swapScript.toAddress = some script →
          ∀ a ∈ history, ∀ b ∈ history,
            paidTo ans (w.1 + 1) script a.txid = paidTo ans (w.1 + 1) script b.txid :=
  ⟨SendSwapHandler.orderFree_iff (.fromRawTxMap raw),
    fun swapTimestamp receiverAmountSat lbtcAssetId =>
      ReceiveSwapHandler.orderFree_iff swapTimestamp receiverAmountSat lbtcAssetId raw,
    ChainSendSwapHandler.orderFree_iff (.fromRawTxMap raw) txs,
    fun addressFromScript => ChainReceiveSwapHandler.orderFree_iff addressFromScript (.fromRawTxMap raw) txs,
    lookedUp_orderFree_iff sdk ans, foundPayerAmount_orderFree_iff sdk ans⟩

/-- The user lockup, spent by the swapper's claim. -/
def spentLockup : List History := [⟨"lockup", 100⟩, ⟨"claim", -1⟩]

/-- A service that knows the two transactions. -/
def spentLockupAnswers : Nat → (q : Call) → q.Answer
  | _, .bitcoinTransactions ids => .ok <| ids.map fun id =>
      { txid := id, output := [⟨1000, if id = "lockup" then "s-lockup" else "swapper"⟩] }
  | _, q => q.offline

def spentLockupWorld : Nat × World :=
  (0, { db := { chainSwaps := (∅ : Table ChainSwap.id).insertNew (expiredSwap .created none) } })

/-- Two refunds of two lockups, oldest first. -/
def refundedTwice : List History := [⟨"lockup1", 90⟩, ⟨"refund1", 100⟩, ⟨"lockup2", 110⟩, ⟨"refund2", 120⟩]

def refundedTwiceTxs : BtcTransactions where
  tx id := { txid := id, output := [⟨1000, if id = "lockup1" ∨ id = "lockup2" then "script" else "user"⟩] }
  txid _ := rfl

/-- Newest first, the swapper's claim is recorded as the user lockup, no payer amount is found, and the other lockup
and the other refund are recovered. -/
theorem historyOrder_newest_first :
    ¬ OrderFree (fun history => lookedUp expiredSdk (withHistory spentLockupAnswers history)
        (expiredSwap .created none) spentLockupWorld) spentLockup ∧
    ¬ OrderFree (fun history => foundPayerAmount expiredSdk (withHistory spentLockupAnswers history)
        (expiredSwap .created none) spentLockupWorld) spentLockup ∧
    ¬ OrderFree₂ (fun lbtc btc => ChainReceiveSwapHandler.recoverOnchainData (fun _ => none) ⟨∅, ∅⟩
        ⟨lbtc, btc, refundedTwiceTxs.ofHistory btc, none⟩ "script") [] refundedTwice := by
  refine ⟨?_, ?_, ?_⟩
  · intro h
    have hsame := h spentLockup spentLockup.reverse (.refl _) (List.reverse_perm _)
    exact absurd (congrArg Prod.snd hsame) (by decide +kernel)
  · intro h
    exact absurd (h spentLockup spentLockup.reverse (.refl _) (List.reverse_perm _)) (by decide +kernel)
  · intro h
    exact absurd (h [] [] refundedTwice refundedTwice.reverse (.refl _) (.refl _) (.refl _) (List.reverse_perm _))
      (by decide +kernel)

end BreezLiquid.Chain
