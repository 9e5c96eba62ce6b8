/-
# BreezLiquid.Receive.ClaimOnce — concurrent claims of a swap.

The claim of a receive swap sets the claim id, broadcasts, and unsets its own id on a failure, as that of a
chain swap does. It also writes a claim address on its way. Here is the same account of it, and what the
two have in common: at any time at most one claim transaction of a swap is broadcast or about to be.

`claims_exclusive` is about both modules, each in a system of its own. The instance is a claim that is refused, then one
that is broadcast.
-/
import BreezLiquid.Chain.ClaimOnce
import BreezLiquid.Receive.Handler

namespace BreezLiquid.Receive

open Interleaving Tables Chain

/-- The claim id of a receive swap, and the claims broadcast for it. -/
def claimSlot (id : SwapId) : Slot World TxId where
  value w := (w.db.receiveSwaps.get? id).bind ReceiveSwap.claimTxId
  published w := w.trace.filterMap (Event.claimOf id)

/-- Claims of one swap. Everything else may happen around them, except that the claim id is changed or a
claim of the swap is broadcast. -/
def claimSystem (sdk : Sdk) (id : SwapId) : System World Call Call.Answer Err Unit where
  effect := World.effect sdk
  spawns _ _ _ t := t = claim id
  env := (claimSlot id).Outside

section Claim

variable {sdk : Sdk} {id : SwapId}

/-- The claim address is another column. -/
theorem idle_setReceiveSwapClaimAddress {p : Phase TxId} (swapId : SwapId) (address : Address)
    (w : World) :
    Idle (claimSlot id) Any p w
      (w.write fun now db => db.setReceiveSwapClaimAddress now swapId address) := by
  refine fun _ _ => ⟨trivial, ?_, rfl⟩
  show Option.bind (Table.get? _ id) _ = Option.bind (w.db.receiveSwaps.get? id) _
  rw [World.write, Db.setReceiveSwapClaimAddress, Db.get?_updateReceiveSwaps]
  cases w.db.receiveSwaps.get? id with
  | none => rfl
  | some row =>
      rw [Option.map_some]
      split <;> rfl

/-- `set_receive_swap_claim_tx_id` takes the slot. -/
theorem takes_setReceiveSwapClaimTxId {txId : TxId} (w : World) (db : Db)
    (h : w.db.setReceiveSwapClaimTxId w.now id txId = .ok db) :
    (claimSlot id).Takes txId w { w with db } := by
  unfold Db.setReceiveSwapClaimTxId at h
  dsimp only at h
  split at h
  · rename_i hany
    cases h
    exact ⟨Table.column_eq_none hany, Table.column_set hany, rfl⟩
  · cases h

/-- `unset_receive_swap_claim_tx_id` frees the slot that has its id. -/
theorem releases_unsetReceiveSwapClaimTxId {txId : TxId} (w : World)
    (h : (claimSlot id).value w = some txId) :
    (claimSlot id).Releases w (w.write fun now db => db.unsetReceiveSwapClaimTxId now id txId) :=
  ⟨Table.column_unset h, rfl⟩

/-- The broadcast of a claim publishes its id. -/
theorem publishes_claim : Publishing (claimSlot id) Any (.claim id) :=
  publishing_of_event (fun _ _ _ => trivial) (fun _ _ => rfl) (fun _ => rfl) (fun _ _ _ => if_pos rfl) fun _ => rfl

/-- The broadcasts are those of a Liquid claim of a chain swap. -/
theorem follows_broadcastClaim (tx : LBtcTransaction) :
    Follows (claimSystem sdk id) (claimSlot id) Any (.holds tx.txid) (broadcastClaim id tx)
      (Tried tx.txid) :=
  Chain.follows_broadcastClaim rfl (fun _ _ _ => trivial) publishes_claim (.liquid tx)

/-- From the guarded write on: the claim id is set, and unset again if the broadcast fails. -/
theorem follows_postClaim (claimTx : LBtcTransaction) :
    Follows (claimSystem sdk id) (claimSlot id) Any .free (postClaim id claimTx) Returned := by
  refine Follows.bind ((follows_take fun w db h _ => ⟨trivial, takes_setReceiveSwapClaimTxId w db h⟩).mono
    fun x p hx => ?_)
  rcases x with err | _
  · cases hx
    rfl
  · cases hx
    refine Follows.bind (Follows.attempt ((follows_broadcastClaim claimTx).mono fun x p hx => ?_))
    rcases x with err | answered
    · cases hx
      refine Follows.bind ((follows_release fun w _ hv =>
        ⟨trivial, releases_unsetReceiveSwapClaimTxId w hv⟩).mono fun x p hx => ?_)
      cases hx
      rcases x with err | _
      · rfl
      · rfl
    · cases hx
      exact follows_idle rfl (Apart.within rfl (apart_write fun w _ _ => ⟨trivial, rfl, rfl⟩)) fun _ => rfl

theorem apart_ensureClaimAddress {p : Phase TxId} (swap : ReceiveSwap) :
    Apart (claimSlot id) Any p (ensureClaimAddress swap) := by
  unfold ensureClaimAddress
  split
  · exact apart_done _
  · refine Task.Within.bind (apart_askOk (q := .nextUnusedAddress) trivial rfl) fun address => ?_
    exact Task.Within.bind (apart_write (idle_setReceiveSwapClaimAddress swap.id address)) fun _ =>
      apart_done _

theorem apart_createClaimTx {p : Phase TxId} (swap : ReceiveSwap) (claimAddress : Address) :
    Apart (claimSlot id) Any p (createClaimTx swap claimAddress) := by
  refine Task.Within.bind (apart_askOk (q := .createReceiveClaimTx swap claimAddress) trivial rfl)
    fun tx => ?_
  split
  · exact apart_done _
  · exact apart_done _

theorem follows_claimInner :
    Follows (claimSystem sdk id) (claimSlot id) Any .free (claimInner id) Returned := by
  refine follows_idle_bind rfl (Apart.within rfl ?_) (fun _ => rfl) fun swap => ?_
  · exact Task.Within.bind (apart_fetch _) fun _ => apart_done _
  · split
    · rfl
    · refine follows_idle_bind rfl ((apart_ensureClaimAddress swap).within rfl) (fun _ => rfl)
        fun claimAddress => ?_
      refine follows_idle_bind rfl ((apart_createClaimTx swap claimAddress).within rfl) (fun _ => rfl)
        fun claimTx => ?_
      exact follows_postClaim claimTx

/-- A claim keeps to the slot. -/
theorem follows_claim :
    Follows (claimSystem sdk id) (claimSlot id) Any .free (claim id) Returned := by
  intro w _ _
  refine ⟨trivial, nofun, _, .outside ⟨rfl, rfl⟩, ?_⟩
  dsimp only
  split
  · rfl
  · refine Follows.bind (Follows.attempt (follows_claimInner.mono fun result p hp => ?_))
    refine follows_idle hp (Apart.within rfl ?_) fun _ => hp
    refine Task.Within.bind (Task.within_modify fun w => ?_) fun _ => apart_done _
    exact fun _ _ => ⟨trivial, rfl, rfl⟩

theorem claimSystem_disciplined (sdk : Sdk) (id : SwapId) :
    Disciplined (claimSystem sdk id) (claimSlot id) Any where
  spawn _ _ _ _ h := h ▸ follows_claim
  env _ _ h _ := ⟨trivial, h⟩

end Claim

/-- **Claims exclude each other.** However claims of a receive swap, or of a chain swap, interleave: at most
one task is between setting the claim id and the end of its broadcasts, a claim is broadcast only while
the row has its id, and when all claims have returned the row has no claim id and nothing was broadcast,
or it has the id of the one claim that was. -/
theorem claims_exclusive (sdk : Sdk) (id : SwapId) (w : World) :
    (∀ c, (claimSlot id).Settled w → Runs (claimSystem sdk id) .any ⟨w, []⟩ c →
      Exclusive (claimSystem sdk id) (claimSlot id) c ∧
      (∀ e ∈ c.tasks, ∀ txId, Broadcasts (.claim id) txId e.2 →
        (claimSlot id).value c.state = some txId) ∧
      (Runs (claimSystem sdk id) NoAborts ⟨w, []⟩ c → c.tasks = [] → (claimSlot id).Settled c.state)) ∧
    (∀ c, (Chain.claimSlot id).Settled w → Runs (Chain.claimSystem sdk id) .any ⟨w, []⟩ c →
      Exclusive (Chain.claimSystem sdk id) (Chain.claimSlot id) c ∧
      (∀ e ∈ c.tasks, ∀ txId, Broadcasts (.claim id) txId e.2 →
        (Chain.claimSlot id).value c.state = some txId) ∧
      (Runs (Chain.claimSystem sdk id) NoAborts ⟨w, []⟩ c → c.tasks = [] →
        (Chain.claimSlot id).Settled c.state)) := by
  constructor
  · intro c hw hrun
    exact disciplined_runs (claimSystem_disciplined sdk id) rfl (fun _ _ _ => trivial)
      publishes_claim trivial hw hrun
  · intro c hw hrun
    exact disciplined_runs (Chain.claimSystem_disciplined sdk id) rfl (fun _ _ _ => trivial)
      Chain.publishes_claim trivial hw hrun

/-! ## A claim that is refused, and another one -/

/-- A receive swap and a chain swap under one id. -/
def claimWorld : World :=
  { db :=
      { receiveSwaps := (∅ : Table ReceiveSwap.id).insertNew { id := "s", state := .pending }
        chainSwaps := (∅ : Table ChainSwap.id).insertNew
          { id := "s", direction := .incoming, state := .pending } } }

def claimSdk : Sdk where
  bz := .byAddress 0
  persister := { codec := .table fun _ => none }

/-- Services that take a claim, or refuse to broadcast it. -/
def claimAnswers (broadcasts : Bool) : Nat → (q : Call) → q.Answer
  | _, .nextUnusedAddress => .ok "address"
  | _, .createReceiveClaimTx .. => .ok (.liquid { txid := "claim" })
  | _, .createClaimTx .. => .ok (.liquid { txid := "claim" })
  | _, .liquidBroadcast _ tx => if broadcasts then .ok tx.txid else Call.offline (.liquidBroadcast _ tx)
  | _, q => q.offline

/-- The first claim is refused and unset, the second one is broadcast. -/
def refusedWorld : World := claimWorld.after claimSdk (claimAnswers false) (claim "s")

def retriedWorld : World := refusedWorld.after claimSdk (claimAnswers true) (claim "s")

def chainClaimedWorld : World := claimWorld.after claimSdk (claimAnswers true) (Chain.claim "s")

theorem runs_retried {C : Cond World Unit} (hC : ∀ l w w', (∀ r, l ≠ .abort r) → C l w w') :
    Runs (claimSystem claimSdk "s") C ⟨claimWorld, []⟩ ⟨retriedWorld, []⟩ := by
  have hfirst : Runs (claimSystem claimSdk "s") C ⟨claimWorld, []⟩ ⟨refusedWorld, []⟩ :=
    runs_alone rfl (fun _ _ _ => trivial) hC (claimAnswers false) (r := ()) (claim "s") claimWorld rfl
  have hsecond : Runs (claimSystem claimSdk "s") C ⟨refusedWorld, []⟩ ⟨retriedWorld, []⟩ :=
    runs_alone rfl (fun _ _ _ => trivial) hC (claimAnswers true) (r := ()) (claim "s") refusedWorld rfl
  exact hfirst.trans hsecond

/-- The claim of a chain swap, as a run. -/
theorem runs_chainClaimed {C : Cond World Unit} (hC : ∀ l w w', (∀ r, l ≠ .abort r) → C l w w') :
    Runs (Chain.claimSystem claimSdk "s") C ⟨claimWorld, []⟩ ⟨chainClaimedWorld, []⟩ :=
  runs_alone rfl (fun _ _ _ => trivial) hC (claimAnswers true) (r := ()) (Chain.claim "s") claimWorld rfl

/-- A claim that is refused leaves the slot free, the next one claims; a chain swap is claimed at once. -/
theorem claims_exclusive_retried :
    (claimSlot "s").value refusedWorld = none ∧
    (claimSlot "s").Settled retriedWorld ∧ (claimSlot "s").published retriedWorld = ["claim"] ∧
    (Chain.claimSlot "s").Settled chainClaimedWorld ∧
    (Chain.claimSlot "s").published chainClaimedWorld = ["claim"] := by
  have hfresh : (claimSlot "s").value claimWorld = none ∧ (claimSlot "s").published claimWorld = [] := by
    decide +kernel
  have hfresh' : (Chain.claimSlot "s").value claimWorld = none ∧
      (Chain.claimSlot "s").published claimWorld = [] := by decide +kernel
  obtain ⟨hreceive, hchains⟩ := claims_exclusive claimSdk "s" claimWorld
  obtain ⟨-, -, hsettled⟩ := hreceive _ (.inl hfresh) (runs_retried fun _ _ _ _ => trivial)
  obtain ⟨-, -, hsettled'⟩ := hchains _ (.inl hfresh') (runs_chainClaimed fun _ _ _ _ => trivial)
  have hdone := hsettled (runs_retried fun _ _ _ h => h) rfl
  have hdone' := hsettled' (runs_chainClaimed fun _ _ _ h => h) rfl
  dsimp only at hdone hdone'
  exact ⟨by decide +kernel, hdone, by decide +kernel, hdone', by decide +kernel⟩

end BreezLiquid.Receive
