/-
# BreezLiquid.Chain.ClaimSafety — a claim is reached only for a checked server lockup.

The amount check of `verify_server_lockup_tx` is the only thing that looks at what a server lockup pays.
Two places record an id without it: `on_new_incoming_status` for a confirmed lockup whose verification
failed, and the recovery, which takes the id from a script history. A later block then claims. Where both
only ever write ids that were checked, every claim of every run is one for a checked lockup.
-/
import BreezLiquid.Chain.ClaimGuard

namespace BreezLiquid.Chain

open Interleaving Recover Tables

section Safety

variable (sdk : Sdk)

/-- The amount check succeeded for a transaction with this id and for this swap: the outputs of the transaction to the
claim script hold what the terms ask for that the swap had then. -/
def Checked (trace : List Event) (id : SwapId) (txId : TxId) : Prop :=
  ∃ swap tx, swap.id = id ∧ tx.txid = txId ∧ .amountChecked swap tx ∈ trace ∧ AmountMet sdk swap tx

/-- The rows have no server lockup that is neither an old nor a checked one, and lose none. -/
def LockupsTrusted (w w' : World) : Prop :=
  ∀ id row', w'.db.chainSwaps.get? id = some row' →
    (∀ txId, row'.serverLockupTxId = some txId →
      (∃ row, w.db.chainSwaps.get? id = some row ∧ row.serverLockupTxId = some txId) ∨
        Checked sdk w.trace id txId) ∧
    (Recorded w id → row'.serverLockupTxId.isSome)

/-- A confirmed lockup whose verification failed is only recorded over another one or if it was checked
before, and what recovery and sync write is trusted. -/
def TrustsLockups : Cond World Role
  | .own .handler, w, w' => ∀ id txId, w'.trace = .lockupUnverified id txId :: w.trace →
      Recorded w id ∨ Checked sdk w.trace id txId
  | .own .recovery, w, w' => LockupsTrusted sdk w w'
  | .env, w, w' => LockupsTrusted sdk w w'
  | _, _, _ => True

/-- Checked lockups make a guard. -/
theorem checked_guard :
    ClaimGuard sdk (TrustsLockups sdk) fun trace s txId => Checked sdk trace s.id txId where
  terms hterms h := hterms.id ▸ h
  later e h := by
    obtain ⟨swap, tx, hid, htx, hmem, hmet⟩ := h
    exact ⟨swap, tx, hid, htx, List.mem_cons_of_mem e hmem, hmet⟩
  checked hmet _ hrow := ⟨_, _, (Table.get?_some_key hrow).symm, rfl, List.mem_cons_self, hmet⟩
  unverified {w id txId row} hc hrow := by
    have hid : row.id = id := Table.get?_some_key hrow
    rcases hc id txId rfl with ⟨row', hrow', hsome⟩ | h
    · rw [hrow] at hrow'
      cases hrow'
      exact .inl hsome
    · exact .inr (hid.symm ▸ h)
  accepted hc id row row' txId hrow hrow' h := by
    have hid : row.id = id := Table.get?_some_key hrow
    have hid' : row'.id = id := Table.get?_some_key hrow'
    rwa [hid', ← hid]
  elsewhere {l w w'} hl hc _ hready id row' hrow' := by
    have htrusted : LockupsTrusted sdk w w' := by rcases hl with rfl | rfl <;> exact hc
    have hid' : row'.id = id := Table.get?_some_key hrow'
    obtain ⟨hids, hkept⟩ := htrusted id row' hrow'
    refine ⟨fun txId hserver => ?_, fun row hrow => ⟨fun hs => hkept ⟨row, hrow, hs⟩, ?_⟩⟩
    · rcases hids txId hserver with ⟨row, hrow, hold⟩ | h
      · have hid : row.id = id := Table.get?_some_key hrow
        exact (hid'.trans hid.symm) ▸ hready id row txId hrow hold
      · exact hid'.symm ▸ h
    · have hid : row.id = id := Table.get?_some_key hrow
      exact fun txId h => (hid'.trans hid.symm) ▸ h

end Safety

/-! ## A verified claim and an unverified one -/

/-- An incoming swap of 1000 sat, locked up by the user; the swapper is to lock up 900 sat. -/
def lockedIncoming : ChainSwap where
  id := "s"
  direction := .incoming
  createResponseJson := "s"
  payerAmountSat := 1000
  actualPayerAmountSat := some 1000
  userLockupTxId := some "user"
  acceptZeroConf := true
  state := .pending

def chainSdk : Sdk where
  bz := .byAddress 900
  persister := { codec := .table fun _ => none }

def chainWorld (swap : ChainSwap) : World :=
  { db := { chainSwaps := (∅ : Table ChainSwap.id).insertNew swap } }

/-- Services that know a server lockup of some value, and accept what is broadcast. -/
def serverAnswers (value : Nat) : Nat → (q : Call) → q.Answer
  | _, .bitcoinScriptHistory _ => .ok [⟨"user", 10⟩]
  | _, .liquidScriptHistory _ => .ok [⟨"server", 10⟩]
  | _, .liquidVerifyTx address txId .. =>
      .ok { txid := txId, output := [⟨address, some ("lbtc", value)⟩] }
  | _, .nextUnusedAddress => .ok "address"
  | _, .createClaimTx .. => .ok (.liquid { txid := "claim" })
  | _, .liquidBroadcast _ tx => .ok tx.txid
  | _, q => q.offline

/-- The transaction has the id it was asked for under. -/
theorem serverAnswers_verifiesIds (value n : Nat) (q : Call) (w : World) : VerifiesIds q (serverAnswers value n q) w := by
  cases q with
  | liquidVerifyTx address txId txHex verifyConfirmation => exact rfl
  | _ => trivial

/-- An update about the server lockup. -/
def serverUpdate (status : String) : SwapStatus :=
  { id := "s", status, transaction := some { id := "server", hex := some "hex" } }

/-- The world after a task was run alone. -/
def runIn (sdk : Sdk) (ans : Nat → (q : Call) → q.Answer) (t : Async Unit) (w : World) : World :=
  (t.run (World.effect sdk) ans (0, w)).2.2

theorem fresh_lockedIncoming : Fresh (chainWorld lockedIncoming) := by
  refine ⟨rfl, fun id row hrow => ?_⟩
  rw [List.mem_singleton.mp (Table.mem_of_get? hrow)]
  rfl

/-- The newest event is not the mark of an unverified lockup. -/
def notUnverified : List Event → Bool
  | .lockupUnverified .. :: _ => false
  | _ => true

/-- A lockup of 900 sat in the mempool is verified and claimed. -/
def afterMempool : World :=
  runIn chainSdk (serverAnswers 900) (onNewStatus chainSdk (serverUpdate "transaction.server.mempool"))
    (chainWorld lockedIncoming)

def isClaim : Event → Bool
  | .claimReached .. => true
  | _ => false

/-- An event in a history, with what came after and before it. -/
theorem exists_split_of_any {p : Event → Bool} {trace : List Event} (h : trace.any p = true) :
    ∃ new e old, trace = new ++ e :: old ∧ p e = true := by
  obtain ⟨e, hmem, he⟩ := List.any_eq_true.mp h
  obtain ⟨new, old, hsplit⟩ := List.append_of_mem hmem
  exact ⟨new, e, old, hsplit, he⟩

theorem exists_claim {trace : List Event} (h : trace.any isClaim = true) :
    ∃ new old id row, trace = new ++ .claimReached id row :: old := by
  obtain ⟨new, e, old, hsplit, he⟩ := exists_split_of_any h
  cases e with
  | claimReached id row => exact ⟨new, old, id, row, hsplit⟩
  | _ => cases he

/-- A confirmed lockup of 10 sat fails the verification, and its id is recorded all the same. -/
def afterUnderfunded : World :=
  runIn chainSdk (serverAnswers 10) (onNewStatus chainSdk (serverUpdate "transaction.server.confirmed"))
    (chainWorld lockedIncoming)

/-- The next block claims it. -/
def afterRescan : World :=
  runIn chainSdk (serverAnswers 10) (onLiquidBlock chainSdk 100) afterUnderfunded

def isCheck : Event → Bool
  | .amountChecked .. => true
  | _ => false

end BreezLiquid.Chain
