/-
# BreezLiquid.Chain.ClaimOnce — concurrent claims of a chain swap.

`claim_inner` sets the claim id where none is set, broadcasts, and unsets its own id when the broadcast
fails. The id column is a slot in the sense of `BreezLiquid.Lib.Slot`, so any number of claims of a swap
exclude each other, whether or not the set of claims in progress lets them pass.

Each call of `claim_inner` has one lemma that says what it does to the slot: it takes it, publishes its id, releases it,
or stays apart. `claimSystem_disciplined` puts them together, and exclusion itself is a result about slots.
-/
import BreezLiquid.Chain.Handler
import BreezLiquid.Model.Slots

namespace BreezLiquid

/-- The id of a claim that was broadcast for the swap. -/
def Event.claimOf (id : SwapId) : Event → Option TxId
  | .claimBroadcast swapId txId => if swapId = id then some txId else none
  | _ => none

end BreezLiquid

namespace BreezLiquid.Chain

open Interleaving Tables

/-- The claim id of a chain swap, and the claims broadcast for it. -/
def claimSlot (id : SwapId) : Slot World TxId where
  value w := (w.db.chainSwaps.get? id).bind ChainSwap.claimTxId
  published w := w.trace.filterMap (Event.claimOf id)

/-- Claims of one swap. Everything else may happen around them, except that the claim id is changed or a
claim of the swap is broadcast. -/
def claimSystem (sdk : Sdk) (id : SwapId) : System World Call Call.Answer Err Unit where
  effect := World.effect sdk
  spawns _ _ _ t := t = claim id
  env := (claimSlot id).Outside

section Claim

variable {sdk : Sdk} {id : SwapId}

/-- No more than the slot is asked of the state. -/
abbrev Any : World → Prop := fun _ => True

/-- `set_chain_swap_claim` takes the slot. -/
theorem takes_setChainSwapClaim {claimAddress : Option Address} {txId : TxId} (w : World) (db : Db)
    (h : w.db.setChainSwapClaim w.now id claimAddress txId = .ok db) :
    (claimSlot id).Takes txId w { w with db } := by
  unfold Db.setChainSwapClaim at h
  dsimp only at h
  split at h
  · rename_i hany
    cases h
    exact ⟨Table.column_eq_none hany, Table.column_set hany, rfl⟩
  · cases h

/-- `unset_chain_swap_claim_tx_id` frees the slot that has its id. -/
theorem releases_unsetChainSwapClaimTxId {txId : TxId} (w : World)
    (h : (claimSlot id).value w = some txId) :
    (claimSlot id).Releases w (w.write fun now db => db.unsetChainSwapClaimTxId now id txId) :=
  ⟨Table.column_unset h, rfl⟩

/-- The broadcast of a claim publishes its id. -/
theorem publishes_claim : Publishing (claimSlot id) Any (.claim id) :=
  publishing_of_event (fun _ _ _ => trivial) (fun _ _ => rfl) (fun _ => rfl) (fun _ _ _ => if_pos rfl) fun _ => rfl

/-- The chain service is tried first, then the swapper. -/
theorem follows_broadcastClaim {S : System World Call Call.Answer Err Unit} (hS : S.effect = World.effect sdk)
    (hanswers : ∀ q a w, S.answers q a w) {L : Slot World TxId} (hpublish : Publishing L Any (.claim id))
    (tx : SdkTransaction) : Follows S L Any (.holds tx.txid) (broadcastClaim id tx) (Tried tx.txid) := by
  cases tx with
  | bitcoin tx => exact follows_bitcoinBroadcast hS hanswers hpublish rfl
  | liquid tx =>
      refine Follows.bind (Follows.attempt ?_)
      refine (follows_liquidBroadcast hS hanswers hpublish rfl).mono fun x p hx => ?_
      rcases x with err | answered
      · cases hx
        dsimp only
        split
        · rfl
        · exact follows_broadcastTx hS hanswers hpublish rfl
      · exact hx

theorem apart_fetchChainSwapById {p : Phase TxId} (swapId : SwapId) :
    Apart (claimSlot id) Any p (fetchChainSwapById swapId) :=
  Task.Within.bind (apart_fetch _) fun _ => apart_done _

theorem apart_ensureClaimAddress {p : Phase TxId} (swap : ChainSwap) :
    Apart (claimSlot id) Any p (ensureClaimAddress swap) := by
  unfold ensureClaimAddress
  split
  · exact Task.Within.bind (apart_askOk (q := .nextUnusedAddress) trivial rfl) fun _ => apart_done _
  · exact apart_done _

theorem follows_claimInner :
    Follows (claimSystem sdk id) (claimSlot id) Any .free (claimInner id) Returned := by
  refine follows_idle_bind rfl ((apart_fetchChainSwapById id).within rfl) (fun _ => rfl) fun swap => ?_
  split
  · rfl
  · refine follows_idle_bind rfl ((apart_ensureClaimAddress swap).within rfl) (fun _ => rfl)
      fun claimAddress => ?_
    refine follows_idle_bind rfl ((apart_askOk (q := .createClaimTx swap claimAddress) trivial
      rfl).within rfl) (fun _ => rfl) fun claimTx => ?_
    -- the claim id is set ...
    refine Follows.bind ((follows_take fun w db h _ => ⟨trivial, takes_setChainSwapClaim w db h⟩).mono
      fun x p hx => ?_)
    rcases x with err | _
    · cases hx
      rfl
    · cases hx
      -- ... before the broadcast, and unset if that fails
      refine Follows.bind (Follows.attempt ((follows_broadcastClaim rfl (fun _ _ _ => trivial)
        publishes_claim claimTx).mono fun x p hx => ?_))
      rcases x with err | answered
      · cases hx
        refine Follows.bind ((follows_release fun w _ hv =>
          ⟨trivial, releases_unsetChainSwapClaimTxId w hv⟩).mono fun x p hx => ?_)
        cases hx
        rcases x with err | _
        · rfl
        · rfl
      · cases hx
        refine follows_idle rfl (Apart.within rfl ?_) fun _ => rfl
        cases swap.direction with
        | incoming => exact apart_write fun w => fun _ _ => ⟨trivial, rfl, rfl⟩
        | outgoing => exact apart_done _

/-- A claim keeps to the slot. -/
theorem follows_claim :
    Follows (claimSystem sdk id) (claimSlot id) Any .free (claim id) Returned := by
  intro w _ _
  refine ⟨trivial, nofun, _, .outside ⟨rfl, rfl⟩, ?_⟩
  dsimp only
  split
  · rfl
  · refine Follows.bind (Follows.attempt (follows_claimInner.mono fun result p hp => ?_))
    refine follows_idle hp (Apart.within rfl ?_) fun _ => hp
    refine Task.Within.bind (Task.within_modify fun w => ?_) fun _ => apart_done _
    exact fun _ _ => ⟨trivial, rfl, rfl⟩

theorem claimSystem_disciplined (sdk : Sdk) (id : SwapId) :
    Disciplined (claimSystem sdk id) (claimSlot id) Any where
  spawn _ _ _ _ h := h ▸ follows_claim
  env _ _ h _ := ⟨trivial, h⟩

end Claim

end BreezLiquid.Chain
