/-
# BreezLiquid.Send.Cooperation — whose claims the wallet signs.

The swapper may claim a lockup together with the wallet, once the invoice is paid. The handler of status updates
signs such a claim only for a swap that reads as local, since another device that cooperates as well would sign
a different claim. Nothing else that the handler does, the recovery of a claimed swap included, signs one.
-/
import BreezLiquid.Send.Footprint

namespace BreezLiquid.Send

open Interleaving Recover

variable {sdk : Sdk}

/-- Some handling of the update that begins in the world signs the swapper's claim of the swap, whatever it meets
afterwards. -/
def CooperatesOn (sdk : Sdk) (update : SwapStatus) (w : World) (swap : SendSwap) : Prop :=
  ∃ met x refundAddress answer, (onNewStatus sdk update).Executes (.found w :: met) x ∧
    .got (.claimSendSwapCooperative swap refundAddress) answer ∈ met

/-- Queries that sign no claim. -/
def SignsNothing (q : Call) : Prop := ∀ swap refundAddress, q ≠ .claimSendSwapCooperative swap refundAddress

theorem signsNothing_of_reads {q : Call} (h : q.Reads) : SignsNothing q := by
  rintro swap refundAddress rfl
  exact h

theorem signsNothing_of_refundCall {q : Call} (h : RefundCall q) : SignsNothing q := by
  rintro swap refundAddress rfl
  exact h

/-- Writing a recovered swap calls nobody. -/
theorem within_updateSwap_calls (G : Call → Prop) (s : SendSwap) :
    (updateSwap sdk s).Within (fun _ => True) G := by
  refine Task.Within.bind ?_ fun swap => ?_
  · exact Task.Within.bind (within_fetch trivial _) fun _ => Task.within_done _
  · refine Task.Within.bind (within_updateSwapLnurlInfo trivial (fun _ => trivial) swap s) fun updated => ?_
    split
    · exact Task.Within.bind (within_fetch trivial _) fun maybeSwap => within_tryWrite trivial
    · exact Task.within_done _

/-- A task that reads a swap first goes on with the swap that it finds. -/
theorem executes_fetchSendSwapById {α : Type} {id : SwapId} {g : SendSwap → Async α} {w : World}
    {met : List (Task.Met World Call Call.Answer)} {x : Except Err α} :
    ((fetchSendSwapById id).bind g).Executes (.found w :: met) x ↔
      ((Task.ofExcept (okOr (w.db.fetchSendSwapById id) ("Send Swap not found " ++ id))).bind g).Executes met x := by
  constructor
  · rintro ⟨found, rest, heq, h⟩
    cases heq
    exact h
  · exact fun h => ⟨w, met, rfl, h⟩

/-- A claim is signed only for a local swap that the swapper is about to claim. -/
theorem CooperatesOn.isLocal {update : SwapStatus} {w : World} {swap : SendSwap}
    (h : CooperatesOn sdk update w swap) :
    sdk.bz.subSwapStates update.status = some .transactionClaimPending ∧
      w.db.fetchSendSwapById update.id = some swap ∧ swap.metadata.isLocal = true := by
  obtain ⟨met, x, refundAddress, answer, hexec, hmem⟩ := h
  -- the execution has signed, so it cannot be one of a part that signs nothing
  have hnothing : ∀ {t : Async Unit}, t.Within (fun _ => True) SignsNothing → t.Executes met x → False :=
    fun hwithin hrun => hwithin.executes hrun hmem swap refundAddress rfl
  have hunrecoverable : ∀ swap, (onUnrecoverable sdk swap).Executes met x → False := fun swap =>
    hnothing ((calls_onUnrecoverable swap).mono (fun _ _ => trivial) fun _ hq => signsNothing_of_refundCall hq)
  unfold onNewStatus at hexec
  rcases hstate : sdk.bz.subSwapStates update.status with _ | swapState
  · rw [hstate] at hexec
    cases hexec.1
  · rw [hstate, okOr, Task.bind_eq, Task.ofExcept_ok_bind, Task.bind_eq, executes_fetchSendSwapById] at hexec
    rcases hfetch : w.db.fetchSendSwapById update.id with _ | read
    · rw [hfetch] at hexec
      exact (hnothing (Task.within_done _) hexec).elim
    · rw [hfetch, okOr, Task.ofExcept_ok_bind] at hexec
      cases swapState with
      | transactionClaimPending =>
          dsimp only at hexec
          split at hexec
          · next hlocal =>
              have hcalls : (claimPendingPreimage sdk read >>= fun preimage =>
                  updateSwapInfo sdk read.id .complete (some preimage) none none).Within
                    (SendWrite sdk fun _ _ => True) (ClaimCall read) :=
                Task.Within.bind (calls_claimPendingPreimage read) fun preimage =>
                  footprint_updateSwapInfo read.id _ _ trivial
              obtain rfl : swap = read := hcalls.executes hexec hmem
              exact ⟨rfl, rfl, hlocal⟩
          · exact (hnothing (Task.within_done _) hexec).elim
      | transactionClaimed =>
          refine (hnothing ?_ hexec).elim
          dsimp only
          split
          · exact Task.within_done _
          · refine Task.Within.bind ((readOnly_recoverFromOnchain sdk _ none).mono (fun _ _ => trivial)
              fun _ hq => signsNothing_of_reads hq) fun results => ?_
            split
            · exact within_updateSwap_calls _ _
            · exact Task.within_done _
      | transactionLockupFailed => exact (hunrecoverable read hexec).elim
      | invoiceFailedToPay => exact (hunrecoverable read hexec).elim
      | swapExpired => exact (hunrecoverable read hexec).elim
      | invoiceSet => exact (hnothing (Task.within_done _) hexec).elim
      | unhandled => exact (hnothing (Task.within_done _) hexec).elim

/-- With good answers the wallet signs the swapper's claim. -/
theorem claimPendingPreimage_signs (sdk : Sdk) (swap : SendSwap) : ∃ met refundAddress,
    (claimPendingPreimage sdk swap).Executes met (.ok "") ∧
      .got (.claimSendSwapCooperative swap refundAddress) (.ok ()) ∈ met := by
  obtain ⟨met, refundAddress, haddress⟩ : ∃ met refundAddress,
      (ensureRefundAddress swap).Executes met (.ok refundAddress) := by
    unfold ensureRefundAddress
    cases swap.refundAddress with
    | some refundAddress => exact ⟨[], refundAddress, rfl, rfl⟩
    | none => exact ⟨[.got .nextUnusedAddress (.ok ""), .found {}], "", _, _, rfl, _, _, rfl, rfl, rfl⟩
  have hcooperate : (cooperateClaim swap).Executes
      (met ++ [.got (.claimSendSwapCooperative swap refundAddress) (.ok ())]) (.ok ()) :=
    haddress.bind ⟨_, _, rfl, rfl, rfl⟩
  have hpreimage : (Task.askOk (.getSendClaimTxDetails swap) rfl : Async String).Executes
      [.got (.getSendClaimTxDetails swap) (.ok "")] (.ok "") := ⟨_, _, rfl, rfl, rfl⟩
  have hboth := hpreimage.bind (g := fun preimage => (cooperateClaim swap).bind fun _ => pure preimage)
    (hcooperate.bind ⟨rfl, rfl⟩)
  exact ⟨_, refundAddress, hboth.attempt.bind ⟨rfl, rfl⟩, by simp⟩

/-- **Cooperation.** The handler of an update may sign exactly the swapper's claim of the swap that it reads, when
this claim is pending and the swap reads as local. -/
theorem cooperatesOn_iff {update : SwapStatus} {w : World} {swap : SendSwap} :
    CooperatesOn sdk update w swap ↔ sdk.bz.subSwapStates update.status = some .transactionClaimPending ∧
      w.db.fetchSendSwapById update.id = some swap ∧ swap.metadata.isLocal = true := by
  refine ⟨CooperatesOn.isLocal, fun ⟨hstate, hfetch, hlocal⟩ => ?_⟩
  obtain ⟨met, refundAddress, hclaim, hmem⟩ := claimPendingPreimage_signs sdk swap
  -- the preimage is written whatever comes of it
  obtain ⟨met', x, hexec⟩ : ∃ met' x, (claimPendingPreimage sdk swap >>= fun preimage =>
      updateSwapInfo sdk swap.id .complete (some preimage) none none).Executes (met ++ met') x :=
    ⟨_, _, hclaim.bind ((updateSwapInfo sdk swap.id .complete (some "") none none).executes_alone
      (World.effect sdk) (fun _ => Call.offline) (0, w))⟩
  refine ⟨met ++ met', x, refundAddress, .ok (), ?_, List.mem_append_left _ hmem⟩
  unfold onNewStatus
  rw [hstate, okOr, Task.bind_eq, Task.ofExcept_ok_bind, Task.bind_eq, executes_fetchSendSwapById, hfetch, okOr,
    Task.ofExcept_ok_bind]
  dsimp only
  rw [if_pos hlocal]
  exact hexec

end BreezLiquid.Send
