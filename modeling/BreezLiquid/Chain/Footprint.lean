/-
# BreezLiquid.Chain.Footprint — what the chain swap handler writes.

Most of the handler's transactions do not touch what a claim depends on: the swap's direction, amounts and
server lockup. They are listed in `PlainWrite`, with one lemma about what they do to the rows
(`PlainWrite.rows`), and every part of the handler gets its footprint once (`…_plain`). What is left are
the writes the properties are about: recording a server lockup, changing the accepted amount, and writing
a recovered swap.
-/
import BreezLiquid.Chain.Handler

namespace BreezLiquid.Chain

open Interleaving Recover Tables

/-! ## Relating the rows before and after -/

/-- The history is the same, no row is gone or new, and every row is related to the one before. -/
def RowsRel (R : ChainSwap → ChainSwap → Prop) (w w' : World) : Prop :=
  w'.trace = w.trace ∧ ∀ id, Option.Rel R (w.db.chainSwaps.get? id) (w'.db.chainSwaps.get? id)

section RowsRel

variable {R R' : ChainSwap → ChainSwap → Prop} {w w' : World}

theorem RowsRel.mono (h : RowsRel R w w') (hR : ∀ s s', R s s' → R' s s') : RowsRel R' w w' := by
  refine ⟨h.1, fun id => ?_⟩
  have hrel := h.2 id
  generalize w.db.chainSwaps.get? id = o, w'.db.chainSwaps.get? id = o' at hrel ⊢
  cases hrel with
  | none => exact .none
  | some hr => exact .some (hR _ _ hr)

/-- Where a row went. -/
theorem RowsRel.row (h : RowsRel R w w') {id : SwapId} {s : ChainSwap}
    (hs : w.db.chainSwaps.get? id = some s) :
    ∃ s', w'.db.chainSwaps.get? id = some s' ∧ R s s' := by
  have hrel := h.2 id
  rw [hs] at hrel
  cases hget : w'.db.chainSwaps.get? id with
  | none => rw [hget] at hrel; cases hrel
  | some s' =>
      rw [hget] at hrel
      cases hrel with
      | some hr => exact ⟨s', rfl, hr⟩

/-- Where a row comes from. -/
theorem RowsRel.row_before (h : RowsRel R w w') {id : SwapId} {s' : ChainSwap}
    (hs' : w'.db.chainSwaps.get? id = some s') :
    ∃ s, w.db.chainSwaps.get? id = some s ∧ R s s' := by
  have hrel := h.2 id
  rw [hs'] at hrel
  cases hget : w.db.chainSwaps.get? id with
  | none => rw [hget] at hrel; cases hrel
  | some s =>
      rw [hget] at hrel
      cases hrel with
      | some hr => exact ⟨s, rfl, hr⟩

end RowsRel

/-- An update of a row relates it to its update, wherever it is. -/
theorem rel_map {α : Type} {R : α → α → Prop} {o : Option α} {g : α → α} (h : ∀ a ∈ o, R a (g a)) :
    Option.Rel R o (o.map g) := by
  cases o with
  | none => exact .none
  | some a => exact .some (h a rfl)

theorem rel_refl {α : Type} {R : α → α → Prop} (h : ∀ a, R a a) (o : Option α) : Option.Rel R o o := by
  cases o with
  | none => exact .none
  | some a => exact .some (h a)

/-- The terms a server lockup is checked against are the same. -/
structure SameTerms (s s' : ChainSwap) : Prop where
  id : s'.id = s.id
  direction : s'.direction = s.direction
  payerAmountSat : s'.payerAmountSat = s.payerAmountSat
  claimFeesSat : s'.claimFeesSat = s.claimFeesSat
  acceptedReceiverAmountSat : s'.acceptedReceiverAmountSat = s.acceptedReceiverAmountSat
  createResponseJson : s'.createResponseJson = s.createResponseJson
  claimPrivateKey : s'.claimPrivateKey = s.claimPrivateKey

theorem SameTerms.refl (s : ChainSwap) : SameTerms s s := ⟨rfl, rfl, rfl, rfl, rfl, rfl, rfl⟩

theorem SameTerms.symm {s s' : ChainSwap} (h : SameTerms s s') : SameTerms s' s :=
  ⟨h.id.symm, h.direction.symm, h.payerAmountSat.symm, h.claimFeesSat.symm,
    h.acceptedReceiverAmountSat.symm, h.createResponseJson.symm, h.claimPrivateKey.symm⟩

theorem SameTerms.trans {s s' s'' : ChainSwap} (h : SameTerms s s') (h' : SameTerms s' s'') :
    SameTerms s s'' :=
  ⟨h'.id.trans h.id, h'.direction.trans h.direction, h'.payerAmountSat.trans h.payerAmountSat,
    h'.claimFeesSat.trans h.claimFeesSat,
    h'.acceptedReceiverAmountSat.trans h.acceptedReceiverAmountSat,
    h'.createResponseJson.trans h.createResponseJson, h'.claimPrivateKey.trans h.claimPrivateKey⟩

instance (s s' : ChainSwap) : Decidable (SameTerms s s') :=
  decidable_of_iff (s'.id = s.id ∧ s'.direction = s.direction ∧
      s'.payerAmountSat = s.payerAmountSat ∧ s'.claimFeesSat = s.claimFeesSat ∧
      s'.acceptedReceiverAmountSat = s.acceptedReceiverAmountSat ∧
      s'.createResponseJson = s.createResponseJson ∧ s'.claimPrivateKey = s.claimPrivateKey)
    ⟨fun ⟨h₁, h₂, h₃, h₄, h₅, h₆, h₇⟩ => ⟨h₁, h₂, h₃, h₄, h₅, h₆, h₇⟩, fun h =>
      ⟨h.id, h.direction, h.payerAmountSat, h.claimFeesSat, h.acceptedReceiverAmountSat,
        h.createResponseJson, h.claimPrivateKey⟩⟩

/-- Whether a swap is local is not among its terms. -/
theorem SameTerms.withIsLocal (isLocal : Bool) (s : ChainSwap) :
    SameTerms s (s.withIsLocal isLocal) := ⟨rfl, rfl, rfl, rfl, rfl, rfl, rfl⟩

/-- What an update of a row leaves alone, and the user lockup, which it may only set. -/
structure PlainRow (s s' : ChainSwap) : Prop where
  terms : SameTerms s s'
  serverLockupTxId : s'.serverLockupTxId = s.serverLockupTxId
  userLockupTxId : s.userLockupTxId.isSome → s'.userLockupTxId = s.userLockupTxId

theorem PlainRow.refl (s : ChainSwap) : PlainRow s s := ⟨.refl s, rfl, fun _ => rfl⟩

theorem rowsRel_refl {R : ChainSwap → ChainSwap → Prop} (h : ∀ s, R s s) (w : World) :
    RowsRel R w w := ⟨rfl, fun _ => rel_refl h _⟩

/-- An update of some rows relates each row to its update. -/
theorem rel_updateChainSwaps {R : ChainSwap → ChainSwap → Prop} (hrefl : ∀ s, R s s) {now : Nat}
    {p : ChainSwap → Bool} {g : ChainSwap → ChainSwap} {db : Db} {hg : ∀ s, (g s).id = s.id}
    (h : ∀ s, p s → R s { g s with metadata := (g s).metadata.touch now }) (id : SwapId) :
    Option.Rel R (db.chainSwaps.get? id) ((db.updateChainSwaps now p g hg).chainSwaps.get? id) := by
  rw [Db.get?_updateChainSwaps]
  refine rel_map fun s _ => ?_
  split
  · exact h s ‹_›
  · exact hrefl s

/-! ## The plain writes -/

/-- Transactions of the handler that leave alone what a claim depends on. -/
inductive PlainWrite (p : Persister) : (World → World) → Prop where
  | id : PlainWrite p id
  | leaveClaim (swapId : SwapId) : PlainWrite p (leaveClaim swapId)
  | acceptZeroConf (swapId : SwapId) (acceptZeroConf : Bool) :
      PlainWrite p (World.write fun now db =>
        db.updateChainSwapAcceptZeroConf p now swapId acceptZeroConf)
  | actualPayerAmount (swapId : SwapId) (amount : Nat) :
      PlainWrite p (World.write fun now db => db.updateActualPayerAmount now swapId amount)
  | refundAddress (swapId : SwapId) (address : Address) :
      PlainWrite p (World.write fun now db => db.setChainSwapRefundAddress now swapId address)
  | autoAcceptedFees (swapId : SwapId) :
      PlainWrite p (World.write fun now db => db.setChainSwapAutoAcceptedFees p now swapId)
  | setClaim (swapId : SwapId) (claimAddress : Option Address) (claimTxId : TxId) :
      PlainWrite p (World.tryWrite fun now db =>
        db.setChainSwapClaim now swapId claimAddress claimTxId)
  | unsetClaim (swapId : SwapId) (claimTxId : TxId) :
      PlainWrite p (World.write fun now db => db.unsetChainSwapClaimTxId now swapId claimTxId)
  | payment (ptx : Nat → PaymentTxData) :
      PlainWrite p (World.write fun now db => db.insertOrUpdatePayment now (ptx now))
  | update (swapUpdate : ChainSwapUpdate) (h : swapUpdate.serverLockupTxId = none) :
      PlainWrite p (World.write fun now db => db.tryHandleChainSwapUpdate now swapUpdate)

/-- No plain write changes the terms or the server lockup; a recorded user lockup stays. -/
theorem PlainWrite.rows {p : Persister} {f : World → World} (h : PlainWrite p f) (w : World) :
    RowsRel PlainRow w (f w) := by
  have hrefl := PlainRow.refl
  cases h with
  | id => exact rowsRel_refl hrefl w
  | leaveClaim swapId => exact ⟨rfl, fun _ => rel_refl hrefl _⟩
  | acceptZeroConf swapId acceptZeroConf =>
      refine ⟨rfl, fun id => ?_⟩
      rw [World.write, Db.updateChainSwapAcceptZeroConf, Db.commitOutgoing_chainSwaps]
      refine rel_updateChainSwaps hrefl (fun s _ => ?_) id
      exact ⟨⟨rfl, rfl, rfl, rfl, rfl, rfl, rfl⟩, rfl, fun _ => rfl⟩
  | actualPayerAmount swapId amount =>
      exact ⟨rfl, rel_updateChainSwaps hrefl
        fun s _ => ⟨⟨rfl, rfl, rfl, rfl, rfl, rfl, rfl⟩, rfl, fun _ => rfl⟩⟩
  | refundAddress swapId address =>
      exact ⟨rfl, rel_updateChainSwaps hrefl
        fun s _ => ⟨⟨rfl, rfl, rfl, rfl, rfl, rfl, rfl⟩, rfl, fun _ => rfl⟩⟩
  | autoAcceptedFees swapId =>
      refine ⟨rfl, fun id => ?_⟩
      rw [World.write, Db.setChainSwapAutoAcceptedFees, Db.commitOutgoing_chainSwaps]
      refine rel_updateChainSwaps hrefl (fun s _ => ?_) id
      exact ⟨⟨rfl, rfl, rfl, rfl, rfl, rfl, rfl⟩, rfl, fun _ => rfl⟩
  | setClaim swapId claimAddress claimTxId =>
      unfold World.tryWrite Db.setChainSwapClaim
      dsimp only
      split
      · rename_i db hdb
        split at hdb
        · cases hdb
          exact ⟨rfl, rel_updateChainSwaps hrefl
            fun s _ => ⟨⟨rfl, rfl, rfl, rfl, rfl, rfl, rfl⟩, rfl, fun _ => rfl⟩⟩
        · cases hdb
      · exact rowsRel_refl hrefl w
  | unsetClaim swapId claimTxId =>
      exact ⟨rfl, rel_updateChainSwaps hrefl
        fun s _ => ⟨⟨rfl, rfl, rfl, rfl, rfl, rfl, rfl⟩, rfl, fun _ => rfl⟩⟩
  | payment ptx => exact ⟨rfl, fun _ => rel_refl hrefl _⟩
  | update swapUpdate h =>
      refine ⟨rfl, rel_updateChainSwaps hrefl fun s _ => ⟨⟨rfl, rfl, rfl, rfl, rfl, rfl, rfl⟩, ?_, ?_⟩⟩
      · simp [h]
      · intro hsome
        exact Option.or_of_isSome hsome

/-- A change of the accepted amount leaves the lockups alone. -/
theorem rows_updateAcceptedReceiverAmount (p : Persister) (id : SwapId) (amount : Option Nat)
    (w : World) : RowsRel (fun s s' => s'.serverLockupTxId = s.serverLockupTxId ∧
      s'.userLockupTxId = s.userLockupTxId) w
        (w.write fun now db => db.updateAcceptedReceiverAmount p now id amount) := by
  refine ⟨rfl, fun id' => ?_⟩
  rw [World.write, Db.updateAcceptedReceiverAmount, Db.commitOutgoing_chainSwaps]
  exact rel_updateChainSwaps (fun _ => ⟨rfl, rfl⟩) (fun _ _ => ⟨rfl, rfl⟩) id'

/-- What `try_handle_chain_swap_update` does to the rows. -/
theorem rows_tryHandleChainSwapUpdate (swapUpdate : ChainSwapUpdate) (w : World) :
    RowsRel (fun s s' => SameTerms s s' ∧
        s'.serverLockupTxId = if s.id = swapUpdate.swapId
          then s.serverLockupTxId.or swapUpdate.serverLockupTxId else s.serverLockupTxId) w
      (w.write fun now db => db.tryHandleChainSwapUpdate now swapUpdate) := by
  refine ⟨rfl, fun id => ?_⟩
  rw [World.write, Db.tryHandleChainSwapUpdate, Db.get?_updateChainSwaps]
  refine rel_map fun s _ => ?_
  split
  · have hid : s.id = swapUpdate.swapId := of_decide_eq_true ‹_›
    exact ⟨⟨rfl, rfl, rfl, rfl, rfl, rfl, rfl⟩, (if_pos hid).symm⟩
  · have hid : s.id ≠ swapUpdate.swapId := fun h => ‹¬ _› (decide_eq_true h)
    exact ⟨.refl s, (if_neg hid).symm⟩

/-! ## The calls -/

/-- Calls that neither lock funds up nor push a record. -/
def NoLockup : Call → Prop
  | .liquidBroadcast (.lockup _) _ | .bitcoinBroadcast (.lockup _) _ | .broadcastTx (.lockup _) _
  | .push _ => False
  | _ => True

/-- Calls other than pushes. -/
def NoPush (q : Call) : Prop := ∀ record, q ≠ .push record

/-- A call that locks nothing up pushes nothing. -/
theorem NoLockup.noPush {q : Call} (h : NoLockup q) : NoPush q := by
  rintro record rfl
  exact h

theorem quiet_noPush {q : Call} (h : q.Quiet) : NoPush q := by
  rintro record rfl
  exact h

/-- The events of a broadcast. -/
def IsBroadcast : Event → Prop
  | .lockupBroadcast .. | .claimBroadcast .. | .refundBroadcast .. | .paymentBroadcast ..
  | .reportedBroadcast .. | .replyLost .. => True
  | _ => False

/-- Whatever is broadcast is noted as a broadcast. -/
theorem broadcastEvent_isBroadcast (w : World) (txId answered : TxId) (purpose : Purpose) :
    IsBroadcast (w.broadcastEvent txId answered purpose) := by
  cases purpose <;> trivial

/-- Calls other than pushes add at most the event of a broadcast. -/
theorem effect_note (sdk : Sdk) {q : Call} (hq : NoPush q) (a : q.Answer)
    (w : World) : World.effect sdk q a w = w ∨
      ∃ e, IsBroadcast e ∧ World.effect sdk q a w = w.note e := by
  have hbroadcast : ∀ purpose txId answer, w.broadcastEffect purpose txId answer = w ∨
      ∃ e, IsBroadcast e ∧ w.broadcastEffect purpose txId answer = w.note e := by
    intro purpose txId answer
    rcases World.broadcastEffect_cases purpose txId answer w with h | ⟨answered, h⟩ | h
    · exact .inl h
    · exact .inr ⟨_, broadcastEvent_isBroadcast w _ _ purpose, h⟩
    · exact .inr ⟨.replyLost purpose txId, trivial, h⟩
  cases q with
  | push record => exact absurd rfl (hq record)
  | liquidBroadcast purpose tx => exact hbroadcast purpose tx.txid a
  | bitcoinBroadcast purpose tx => exact hbroadcast purpose tx.txid a
  | broadcastTx purpose tx => exact hbroadcast purpose tx.txid a
  | _ => exact .inl rfl

/-- The verification of a server lockup asks a chain service for the transaction, and marks that it succeeded. -/
theorem within_verifyServerLockupTx {sdk : Sdk} {F : (World → World) → Prop} {G : Call → Prop} {swap : ChainSwap}
    (hnote : ∀ tx, F (World.note (.amountChecked swap tx)))
    (hliquid : ∀ address txId txHex conf, G (.liquidVerifyTx address txId txHex conf))
    (hbitcoin : ∀ address txId txHex conf, G (.bitcoinVerifyTx address txId txHex conf))
    (transaction : TransactionInfo) (verifyConfirmation : Bool) :
    (verifyServerLockupTx sdk swap transaction verifyConfirmation).Within F G := by
  have hcheck : ∀ claimDetails tx value, (checkServerLockupAmount swap claimDetails tx value).Within F G := by
    intro claimDetails tx value
    unfold checkServerLockupAmount
    dsimp only
    split
    · exact Task.within_done _
    · exact within_note (hnote tx)
  unfold verifyServerLockupTx
  cases swap.direction with
  | incoming =>
      refine Task.Within.bind (Task.within_done _) fun swapScript => ?_
      refine Task.Within.bind (Task.within_done _) fun createResponse => ?_
      refine Task.Within.bind (Task.within_done _) fun liquidSwapScript => ?_
      refine Task.Within.bind (Task.within_done _) fun address => ?_
      refine Task.Within.bind (Task.within_done _) fun txHex => ?_
      refine Task.Within.bind (Task.within_askOk (hliquid _ _ _ _) rfl) fun tx => ?_
      split
      · exact Task.within_done _
      · exact Task.Within.bind (Task.within_done _) fun value => hcheck _ _ _
  | outgoing =>
      refine Task.Within.bind (Task.within_done _) fun swapScript => ?_
      refine Task.Within.bind (Task.within_done _) fun createResponse => ?_
      refine Task.Within.bind (Task.within_done _) fun bitcoinSwapScript => ?_
      refine Task.Within.bind (Task.within_done _) fun address => ?_
      refine Task.Within.bind (Task.within_done _) fun txHex => ?_
      refine Task.Within.bind (Task.within_askOk (hbitcoin _ _ _ _) rfl) fun tx => ?_
      split
      · exact Task.within_done _
      · exact hcheck _ _ _

/-- The amount check succeeds where the transaction was found to pay enough. -/
theorem run_checkServerLockupAmount {sdk : Sdk} {ans : Nat → (q : Call) → q.Answer} {swap : ChainSwap}
    {claimDetails : ChainSwapDetails} {tx : SdkTransaction} {value : Nat} {w : Nat × World} :
    ((checkServerLockupAmount swap claimDetails tx value).run (World.effect sdk) ans w).1 = .ok () ↔
      expectedServerLockupAmountSat swap claimDetails ≤ value := by
  unfold checkServerLockupAmount
  dsimp only
  split
  · rename_i hless
    exact iff_of_false (fun h => by cases h) (Nat.not_le.mpr hless)
  · rename_i hmet
    exact iff_of_true rfl (Nat.le_of_not_lt hmet)

/-- Replacing an error changes no state and no value. -/
theorem safe_mapErr {ρ : Type} {S : System World Call Call.Answer Err ρ} {C : Cond World ρ}
    {P : Protocol World ρ} {r : ρ} {α : Type} {f : Err → Err} {t : Async α} {φ : α → World → Prop}
    {w : World} (h : Safe S C P r t (OnOk φ) w) : Safe S C P r (mapErr f t) (OnOk φ) w := by
  induction t generalizing w with
  | done x =>
      cases x with
      | ok a => exact h
      | error err => exact safe_error
  | atomic f k ih =>
      intro w₁ h₁ hi hc
      obtain ⟨hi', hg, hk⟩ := h w₁ h₁ hi hc
      exact ⟨hi', hg, ih w₁ hk⟩
  | call q k ih =>
      intro w₁ h₁ hi a ha hc
      obtain ⟨hi', hg, hk⟩ := h w₁ h₁ hi a ha hc
      exact ⟨hi', hg, ih a hk⟩

/-- Ignoring the result does nothing. -/
theorem within_ignore {F : (World → World) → Prop} {G : Call → Prop} {α : Type} {t : Async α}
    (h : t.Within F G) : (t.attempt.bind fun _ => .done (.ok ()) : Async Unit).Within F G :=
  Task.Within.bind h.attempt fun _ => trivial

/-! ## The parts of the handler with a plain footprint -/

section Plain

variable (sdk : Sdk)

/-- All transactions are plain, no call locks funds up. -/
abbrev Plain {α : Type} (t : Async α) : Prop := t.Within (PlainWrite sdk.persister) NoLockup

variable {sdk}

/-- The parts of the handler that write plainly and lock nothing up: reading ... -/
theorem plain_fetch {α : Type} (g : Db → α) : Plain sdk (fetch g) := within_fetch .id g

theorem plain_fetchChainSwapById (swapId : SwapId) : Plain sdk (fetchChainSwapById swapId) :=
  Task.Within.bind (plain_fetch _) fun _ => Task.within_done _

/-- ... a transition without a server lockup ... -/
theorem plain_updateSwapInfo {swapUpdate : ChainSwapUpdate} (h : swapUpdate.serverLockupTxId = none) :
    Plain sdk (updateSwapInfo swapUpdate) := by
  refine Task.Within.bind (plain_fetchChainSwapById _) fun swap => ?_
  refine Task.Within.bind (Task.within_done _) fun _ => ?_
  refine Task.Within.bind (within_write (.update swapUpdate h)) fun _ => ?_
  exact Task.Within.bind (plain_fetchChainSwapById _) fun _ => trivial

theorem plain_fetchBitcoinScriptHistory (swapScript : SwapScriptV2) :
    Plain sdk (fetchBitcoinScriptHistory swapScript) := by
  refine Task.Within.bind (Task.within_done _) fun _ => ?_
  refine Task.Within.bind (Task.within_done _) fun _ => ?_
  exact Task.within_askOk trivial rfl

theorem plain_fetchScriptHistory (swapScript : SwapScriptV2) :
    Plain sdk (fetchScriptHistory swapScript) := by
  cases swapScript with
  | bitcoin script => exact plain_fetchBitcoinScriptHistory _
  | liquid script =>
      refine Task.Within.bind (Task.within_done _) fun _ => ?_
      refine Task.Within.bind (Task.within_done _) fun _ => ?_
      exact Task.within_askOk trivial rfl

theorem plain_fetchIncomingSwapActualPayerAmount (chainSwap : ChainSwap) :
    Plain sdk (fetchIncomingSwapActualPayerAmount sdk chainSwap) := by
  refine Task.Within.bind (Task.within_done _) fun swapScript => ?_
  refine Task.Within.bind (Task.within_done _) fun _ => ?_
  refine Task.Within.bind (Task.within_done _) fun _ => ?_
  refine Task.Within.bind (plain_fetchBitcoinScriptHistory swapScript) fun history => ?_
  refine Task.Within.bind (Task.within_done _) fun first => ?_
  refine Task.Within.bind (Task.within_askOk trivial rfl) fun txs => ?_
  refine Task.Within.bind (Task.within_done _) fun tx => ?_
  exact Task.Within.bind (Task.within_done _) fun _ => trivial

/-- ... looking for the user lockup, which may record it ... -/
theorem plain_userLockupTxExists (chainSwap : ChainSwap) :
    Plain sdk (userLockupTxExists sdk chainSwap) := by
  refine Task.Within.bind (Task.within_done _) fun lockupScript => ?_
  refine Task.Within.bind (plain_fetchScriptHistory lockupScript) fun history => ?_
  split
  · trivial
  · split
    · trivial
    · exact Task.Within.bind (plain_updateSwapInfo rfl) fun _ => trivial

/-- ... and verifying it ... -/
theorem plain_verifyUserLockupTx (chainSwap : ChainSwap) :
    Plain sdk (verifyUserLockupTx sdk chainSwap) := by
  refine Task.Within.bind (plain_userLockupTxExists chainSwap) fun lockupExists => ?_
  split
  · split
    · refine Task.Within.bind ?_ fun amount => ?_
      · unfold actualPayerAmount
        split
        · trivial
        · refine Task.Within.bind (plain_fetchIncomingSwapActualPayerAmount _) fun amount => ?_
          exact Task.Within.bind (within_write (.actualPayerAmount _ _)) fun _ => trivial
      · split <;> trivial
    · trivial
  · trivial

theorem plain_requireUserLockup (swap : ChainSwap) : Plain sdk (requireUserLockup sdk swap) :=
  within_mapErr (plain_verifyUserLockupTx swap)

/-- ... a claim, once it is entered ... -/
theorem plain_claimInner (swapId : SwapId) : Plain sdk (claimInner swapId) :=
  within_claimInner .id trivial (fun _ _ => trivial) (fun _ _ => .setClaim _ _ _) (fun _ => .unsetClaim _ _)
    (fun _ => .payment _)
    (within_broadcastClaim (fun _ => trivial) (fun _ => trivial) fun _ => trivial)

/-- ... a refund of an outgoing swap ... -/
theorem plain_refundOutgoingSwap (swap : ChainSwap) (isCooperative : Bool) :
    Plain sdk (refundOutgoingSwap sdk swap isCooperative) := by
  unfold refundOutgoingSwap
  split
  · trivial
  · refine Task.Within.bind (Task.within_done _) fun lockupScript => ?_
    split
    · trivial
    · refine Task.Within.bind (Task.within_done _) fun scriptPk => ?_
      refine Task.Within.bind (Task.within_askOk trivial rfl) fun utxos => ?_
      refine Task.Within.bind ?_ fun refundAddress => ?_
      · unfold ensureRefundAddress
        split
        · trivial
        · refine Task.Within.bind (Task.within_askOk trivial rfl) fun address => ?_
          exact Task.Within.bind (within_write (.refundAddress _ _)) fun _ => trivial
      · refine Task.Within.bind (Task.within_askOk trivial rfl) fun tx => ?_
        split
        · exact Task.within_askOk trivial rfl
        · trivial

/-- ... of an incoming one, at the user's request ... -/
theorem plain_refundIncomingSwap (lockupAddress refundAddress : Address) (isCooperative : Bool) :
    Plain sdk (refundIncomingSwap sdk lockupAddress refundAddress isCooperative) := by
  refine Task.Within.bind (plain_fetch _) fun swap => ?_
  refine Task.Within.bind (Task.within_done _) fun swap => ?_
  split
  · refine Task.Within.bind (Task.within_done _) fun lockupScript => ?_
    split
    · trivial
    · refine Task.Within.bind (Task.within_done _) fun scriptPk => ?_
      refine Task.Within.bind (Task.within_askOk trivial rfl) fun utxos => ?_
      refine Task.Within.bind (Task.within_askOk trivial rfl) fun tx => ?_
      split
      · trivial
      · refine Task.Within.bind (Task.within_askOk trivial rfl) fun refundTxId => ?_
        exact Task.Within.bind (plain_updateSwapInfo rfl) fun _ => trivial
  · trivial

/-- ... and all refunds of a block ... -/
theorem plain_refundOutgoing (height : Nat) : Plain sdk (refundOutgoing sdk height) := by
  have hrecord : ∀ swapId res, Plain sdk (recordRefund swapId res) := by
    intro swapId res
    cases res with
    | ok txId => exact within_ignore (plain_updateSwapInfo rfl)
    | error err => trivial
  refine Task.Within.bind (plain_fetch _) fun pendingSwaps => Task.Within.forEach fun swap _ => ?_
  refine Task.Within.bind (Task.within_done _) fun lockupScript => ?_
  refine Task.Within.bind (Task.within_done _) fun swapScript => ?_
  refine Task.Within.bind (Task.within_done _) fun locktime => ?_
  dsimp only
  split
  · split
    · exact Task.Within.bind (plain_refundOutgoingSwap _ _).attempt fun res => hrecord _ res
    · refine Task.Within.bind (Task.Within.attempt ?_) fun res => hrecord _ res
      unfold refundPendingSwap
      split
      · refine Task.Within.bind (plain_refundOutgoingSwap _ _).attempt fun res => ?_
        cases res with
        | ok txId => trivial
        | error err => exact plain_refundOutgoingSwap _ _
      · exact plain_refundOutgoingSwap _ _
    · trivial
  · trivial

theorem plain_updateAcceptZeroConf (update : SwapStatus) :
    Plain sdk (updateAcceptZeroConf sdk update) := by
  unfold updateAcceptZeroConf
  split
  · exact within_write (.acceptZeroConf _ _)
  · trivial

/-- ... and the statuses that tell of the user lockup or of a failure. -/
theorem plain_onIncomingUserLockup (swap : ChainSwap) (update : SwapStatus) :
    Plain sdk (onIncomingUserLockup sdk swap update) := by
  refine Task.Within.bind (plain_updateAcceptZeroConf update) fun _ => ?_
  split
  · refine Task.Within.bind (plain_fetchIncomingSwapActualPayerAmount swap) fun amount => ?_
    refine Task.Within.bind (within_write (.actualPayerAmount _ _)) fun _ => ?_
    exact plain_updateSwapInfo rfl
  · trivial

theorem plain_onOutgoingUserLockup (update : SwapStatus) :
    Plain sdk (onOutgoingUserLockup sdk update) := by
  refine Task.Within.bind (plain_updateAcceptZeroConf update) fun _ => ?_
  split
  · exact plain_updateSwapInfo rfl
  · trivial

theorem plain_onIncomingUnrecoverable (swap : ChainSwap) (swapId : SwapId) :
    Plain sdk (onIncomingUnrecoverable sdk swap swapId) := by
  unfold onIncomingUnrecoverable
  split
  · trivial
  · refine Task.Within.bind (within_mapErr (plain_userLockupTxExists swap)) fun lockupExists => ?_
    split
    · exact plain_updateSwapInfo rfl
    · exact plain_updateSwapInfo rfl

theorem plain_onOutgoingUnrecoverable (swap : ChainSwap) (swapId : SwapId) :
    Plain sdk (onOutgoingUnrecoverable sdk swap swapId) := by
  unfold onOutgoingUnrecoverable
  split
  · trivial
  · split
    · refine Task.Within.bind (plain_refundOutgoingSwap swap true).attempt fun refundTxId => ?_
      exact plain_updateSwapInfo rfl
    · exact plain_updateSwapInfo rfl

/-- Validating a quote writes the accepted fees only. -/
theorem plain_validateAmountlessSwap (swap : ChainSwap) (quote : Nat) :
    Plain sdk (validateAmountlessSwap sdk swap quote) := by
  unfold validateAmountlessSwap
  split
  · trivial
  · refine Task.Within.bind (Task.within_done _) fun lockupScript => ?_
    refine Task.Within.bind (Task.within_done _) fun _ => ?_
    refine Task.Within.bind (Task.within_done _) fun script => ?_
    refine Task.Within.bind (Task.within_askOk trivial rfl) fun balance => ?_
    dsimp only
    split
    · trivial
    · refine Task.Within.bind (Task.within_done _) fun pair => ?_
      split <;> trivial

end Plain

/-! ## The parts that change the accepted amount -/

/-- Plain writes and changes of the accepted amount. -/
inductive ChainWrite (p : Persister) : (World → World) → Prop where
  | plain {f : World → World} (h : PlainWrite p f) : ChainWrite p f
  | accepted (swapId : SwapId) (amount : Option Nat) :
      ChainWrite p (World.write fun now db => db.updateAcceptedReceiverAmount p now swapId amount)

section ChainWrite

variable {sdk : Sdk}

/-- Records no server lockup, locks nothing up. -/
abbrev Steady (sdk : Sdk) {α : Type} (t : Async α) : Prop :=
  t.Within (ChainWrite sdk.persister) NoLockup

/-- What is plain is steady: it records no server lockup. -/
theorem Plain.steady {α : Type} {t : Async α} (h : Plain sdk t) : Steady sdk t :=
  h.mono (fun _ hf => .plain hf) fun _ hq => hq

/-- An accepted quote is an event, and the amount goes to the row. -/
theorem steady_acceptQuote (swapId : SwapId) (quote : Nat) :
    Steady sdk (acceptQuote sdk swapId quote) := by
  refine Task.Within.bind (Task.Within.attempt (Task.within_askOk trivial rfl)) fun res => ?_
  cases res with
  | ok _ => trivial
  | error err => exact Task.Within.bind (within_write (.accepted _ _)) fun _ => trivial

/-- The lockup of a zero-amount swap changes the accepted amount, and no lockup ... -/
theorem steady_handleAmountlessUpdate (swap : ChainSwap) :
    Steady sdk (handleAmountlessUpdate sdk swap) := by
  refine Task.Within.bind ?_ fun _ => ?_
  · unfold eraseAcceptedReceiverAmount
    split
    · exact within_write (.accepted _ _)
    · trivial
  · refine Task.Within.bind (Task.within_askOk trivial rfl) fun quote => ?_
    refine Task.Within.bind (plain_validateAmountlessSwap swap quote).steady fun result => ?_
    cases result with
    | readyForAccepting userLockupAmountSat receiverAmountSat =>
        refine Task.Within.bind (within_write (.plain (.actualPayerAmount _ _))) fun _ => ?_
        refine Task.Within.bind (within_write (.accepted _ _)) fun _ => ?_
        refine Task.Within.bind (steady_acceptQuote _ _) fun _ => ?_
        exact within_write (.plain (.autoAcceptedFees _))
    | requiresUserAction userLockupAmountSat =>
        refine Task.Within.bind (within_write (.plain (.actualPayerAmount _ _))) fun _ => ?_
        exact (plain_updateSwapInfo rfl).steady

theorem steady_onIncomingLockupFailed (swap : ChainSwap) (swapId : SwapId) :
    Steady sdk (onIncomingLockupFailed sdk swap swapId) := by
  unfold onIncomingLockupFailed
  split
  · refine Task.Within.bind (steady_handleAmountlessUpdate swap).attempt fun res => ?_
    cases res with
    | ok _ => trivial
    | error err => exact (plain_onIncomingUnrecoverable swap swapId).steady
  · exact (plain_onIncomingUnrecoverable swap swapId).steady

/-- ... and so does the user's acceptance of its fees. -/
theorem steady_acceptPaymentProposedFees (swapId : SwapId) (feesSat payerAmountSat : Nat) :
    Steady sdk (acceptPaymentProposedFees sdk swapId feesSat payerAmountSat) := by
  refine Task.Within.bind (plain_fetch _).steady fun swap => ?_
  refine Task.Within.bind (Task.within_done _) fun swap => ?_
  split
  · refine Task.Within.bind (Task.within_askOk trivial rfl) fun quote => ?_
    split
    · refine Task.Within.bind (within_write (.accepted _ _)) fun _ => ?_
      refine Task.Within.bind (steady_acceptQuote _ _) fun _ => ?_
      exact (plain_updateSwapInfo rfl).steady
    · trivial
  · trivial

end ChainWrite

/-! ## The user lockup -/

/-- The writes of a part that may lock funds up. -/
inductive OrdinaryWrite (p : Persister) : (World → World) → Prop where
  | chain {f : World → World} (h : ChainWrite p f) : OrdinaryWrite p f
  | attempted (swapId : SwapId) : OrdinaryWrite p (World.note (.lockupAttempted swapId))

section OrdinaryWrite

variable {sdk : Sdk}

/-- Neither records a server lockup nor pushes. -/
abbrev Ordinary (sdk : Sdk) {α : Type} (t : Async α) : Prop :=
  t.Within (OrdinaryWrite sdk.persister) NoPush

/-- A steady task is ordinary. -/
theorem Steady.ordinary {α : Type} {t : Async α} (h : Steady sdk t) : Ordinary sdk t :=
  h.mono (fun _ hf => .chain hf) fun _ hq => hq.noPush

theorem Plain.ordinary {α : Type} {t : Async α} (h : Plain sdk t) : Ordinary sdk t :=
  h.steady.ordinary

/-- The one place where funds are locked up ... -/
theorem ordinary_lockupFunds (swapId : SwapId) (createResponse : InternalCreateChainResponse) :
    Ordinary sdk (lockupFunds swapId createResponse) := by
  refine Task.Within.bind (Task.within_askOk nofun rfl) fun lockupTx => ?_
  exact Task.Within.bind (Task.within_askOk nofun rfl) fun _ => trivial

/-- ... and the one status that leads there. -/
theorem ordinary_onCreated (swap : ChainSwap) (swapId : SwapId) :
    Ordinary sdk (onCreated sdk swap swapId) := by
  unfold onCreated
  split
  · trivial
  · refine Task.Within.bind (within_note (.attempted swapId)) fun _ => ?_
    refine Task.Within.bind (Task.within_done _) fun createResponse => ?_
    refine Task.Within.bind (ordinary_lockupFunds swapId createResponse) fun userLockupTx => ?_
    refine Task.Within.bind (within_write (.chain (.plain (.payment _)))) fun _ => ?_
    exact (plain_updateSwapInfo rfl).ordinary
  · trivial

end OrdinaryWrite

end BreezLiquid.Chain
