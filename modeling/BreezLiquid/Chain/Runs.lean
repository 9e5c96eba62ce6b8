/-
# BreezLiquid.Chain.Runs — the chain swap handler executed alone.

One lemma for each small part of the handler says what it returns and leaves behind when nothing else runs
at the same time, given the row of the swap. Bigger parts are then executed by chaining these.

The answers are a function of the number of the call and of the call, so a lemma names the answers it is about and
leaves all others open.
-/
import BreezLiquid.Chain.Handler

namespace BreezLiquid.Chain

open Interleaving Recover Tables

/-- The row of a swap. -/
abbrev RowIs (w : World) (id : SwapId) (row : ChainSwap) : Prop := w.db.chainSwaps.get? id = some row

/-- The row after `try_handle_chain_swap_update`. -/
def ChainSwapUpdate.applyTo (u : ChainSwapUpdate) (now : Nat) (s : ChainSwap) : ChainSwap :=
  { s with
    serverLockupTxId := s.serverLockupTxId.or u.serverLockupTxId
    userLockupTxId := s.userLockupTxId.or u.userLockupTxId
    claimAddress := s.claimAddress.or u.claimAddress
    claimTxId := s.claimTxId.or u.claimTxId
    refundTxId := u.refundTxId.or s.refundTxId
    state := u.toState
    metadata := s.metadata.touch now }

theorem rowIs_id {w : World} {id : SwapId} {row : ChainSwap} (h : RowIs w id row) : row.id = id :=
  Table.get?_some_key h

theorem rowIs_update {w : World} {u : ChainSwapUpdate} {row : ChainSwap} (h : RowIs w u.swapId row) :
    RowIs (w.write fun now db => db.tryHandleChainSwapUpdate now u) u.swapId
      (ChainSwapUpdate.applyTo u w.now row) := by
  have hid := rowIs_id h
  show (w.db.tryHandleChainSwapUpdate w.now u).chainSwaps.get? u.swapId = _
  rw [Db.tryHandleChainSwapUpdate, Db.get?_updateChainSwaps, h, Option.map_some]
  rw [if_pos (decide_eq_true hid)]
  rfl

section Run

variable (sdk : Sdk) (effect : (q : Call) → q.Answer → World → World) (ans : Nat → (q : Call) → q.Answer)

theorem run_mapErr {α : Type} (f : Err → Err) (t : Async α) (w : Nat × World) :
    (mapErr f t).run effect ans w =
      ((t.run effect ans w).1.mapError f, (t.run effect ans w).2) := by
  unfold mapErr
  rw [Task.bind_eq, Task.run_bind, Task.run_attempt]
  dsimp only
  cases (t.run effect ans w).1 with
  | ok a => rfl
  | error err => rfl

theorem run_fetchChainSwapById {w : Nat × World} {id : SwapId} {row : ChainSwap}
    (h : RowIs w.2 id row) :
    (fetchChainSwapById id).run effect ans w =
      (.ok (row.withIsLocal (w.2.db.isLocal row.id)), w) := by
  unfold fetchChainSwapById
  rw [Task.bind_eq, Task.run_bind, run_fetch]
  dsimp only
  rw [Db.fetchChainSwapById, h]
  rfl

/-- An update of a row that is there fails only at the transition table. -/
theorem run_updateSwapInfo {w : Nat × World} {u : ChainSwapUpdate} {row : ChainSwap}
    (h : RowIs w.2 u.swapId row) :
    (updateSwapInfo u).run effect ans w =
      match validateStateTransition row.state u.toState with
      | .ok _ => (.ok (), (w.1, w.2.write fun now db => db.tryHandleChainSwapUpdate now u))
      | .error err => (.error err, w) := by
  unfold updateSwapInfo
  rw [Task.bind_eq, Task.run_bind, run_fetchChainSwapById effect ans h]
  dsimp only
  have hstate : (row.withIsLocal (w.2.db.isLocal row.id)).state = row.state := rfl
  rw [Task.bind_eq, Task.run_bind, Task.run_ofExcept, hstate]
  cases validateStateTransition row.state u.toState with
  | error err => rfl
  | ok _ =>
      dsimp only
      rw [Task.bind_eq, Task.run_bind, run_write]
      dsimp only
      rw [Task.bind_eq, Task.run_bind, run_fetchChainSwapById effect ans (rowIs_update h)]
      rfl

/-- The history of a Bitcoin script, as the service answers it. -/
theorem run_fetchBitcoinScriptHistory {w : Nat × World} {swapScript : SwapScript} {script : Script}
    (hscript : swapScript.toAddress = some script) :
    (fetchBitcoinScriptHistory (.bitcoin swapScript)).run (World.effect sdk) ans w =
      (ans w.1 (.bitcoinScriptHistory script), (w.1 + 1, w.2)) := by
  unfold fetchBitcoinScriptHistory scriptPubkey
  rw [Task.bind_eq, Task.run_bind, Task.run_ofExcept]
  dsimp only [SwapScriptV2.asBitcoinScript]
  rw [Task.bind_eq, Task.run_bind, hscript]
  rfl

/-- Without a recorded user lockup the first transaction of the history is recorded. -/
theorem run_userLockupTxExists_of_history {w : Nat × World} {swap : ChainSwap} {lockupScript : SwapScriptV2}
    {history : List History} (hlockup : swap.getLockupSwapScript sdk.bz = .ok lockupScript)
    (hfetch : (fetchScriptHistory lockupScript).run (World.effect sdk) ans w = (.ok history, (w.1 + 1, w.2))) :
    (userLockupTxExists sdk swap).run (World.effect sdk) ans w =
      match swap.userLockupTxId, history.head? with
      | some txId, _ => (.ok (history.any fun h => h.txid = txId), (w.1 + 1, w.2))
      | none, none => (.ok false, (w.1 + 1, w.2))
      | none, some h =>
          let r := (updateSwapInfo { swapId := swap.id, toState := .pending, userLockupTxId := some h.txid }).run
            (World.effect sdk) ans (w.1 + 1, w.2)
          (r.1.map fun _ => true, r.2) := by
  unfold userLockupTxExists
  rw [Task.bind_eq, Task.run_bind, hlockup, Task.run_ofExcept]
  dsimp only
  rw [Task.bind_eq, Task.run_bind, hfetch]
  dsimp only
  rcases swap.userLockupTxId with _ | txId
  · rcases history with _ | ⟨h, rest⟩
    · rfl
    · dsimp only [List.head?_cons]
      rw [Task.bind_eq, Task.run_bind]
      rcases (updateSwapInfo _).run (World.effect sdk) ans (w.1 + 1, w.2) with ⟨err | _, w'⟩
      · rfl
      · rfl
  · rfl

end Run

end BreezLiquid.Chain
