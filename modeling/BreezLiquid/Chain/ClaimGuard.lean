/-
# BreezLiquid.Chain.ClaimGuard — what holds whenever a claim is reached.

`claim` is called from three places for each direction, long after the checks that make it safe, and what
the checks found is only in the row by then. The argument is the same for every property of a claim, so it
is made once here, for a predicate `ready` (what the history and the terms of a row say about a server
lockup): if it holds when a lockup is recorded and nothing takes it away, then every claim of every run is
reached with a recorded lockup that is ready.

What a particular property has to supply is a `ClaimGuard`. The condition of the runs comes in there.
-/
import BreezLiquid.Chain.Footprint

namespace BreezLiquid.Chain

open Interleaving Recover Tables Wrapping

/-! ## The system of chain swap tasks -/

/-- The handler and its callers, or a task that writes recovered swaps. -/
inductive Role where
  | handler
  | recovery
  deriving DecidableEq

/-- The tasks of each role besides the handling of a status update. -/
inductive Besides (sdk : Sdk) : Role → Async Unit → Prop where
  | bitcoinBlock : Besides sdk .handler (onBitcoinBlock sdk)
  | liquidBlock (height : Nat) : Besides sdk .handler (onLiquidBlock sdk height)
  | acceptFees (swapId : SwapId) (feesSat payerAmountSat : Nat) :
      Besides sdk .handler (acceptPaymentProposedFees sdk swapId feesSat payerAmountSat)
  | refund (lockupAddress refundAddress : Address) (isCooperative : Bool) :
      Besides sdk .handler ((refundIncomingSwap sdk lockupAddress refundAddress isCooperative).bind
        fun _ => .done (.ok ()))
  | timeout (swapId : SwapId) : Besides sdk .handler (onPaymentTimeout swapId)
  | syncRecoverable (swaps : List Swap) (tips : Option ChainTips) :
      Besides sdk .recovery (syncRecoverableSwaps sdk swaps tips)
  | rescan : Besides sdk .recovery (rescanOnchainSwaps sdk)

/-- The tasks of each role. Any number of them may run at a time. -/
inductive Spawned (sdk : Sdk) : Role → Async Unit → Prop where
  | status (update : SwapStatus) : Spawned sdk .handler (onNewStatus sdk update)
  | besides {r : Role} {t : Async Unit} (h : Besides sdk r t) : Spawned sdk r t

/-- The row of a swap is there. -/
def Present (w : World) (id : SwapId) : Prop := (w.db.chainSwaps.get? id).isSome

/-- What the rest of the SDK does between two steps of these tasks: no chain swap is ever deleted. -/
def Elsewhere (w w' : World) : Prop := w'.trace = w.trace ∧ ∀ id, Present w id → Present w' id

/-- What `verify_tx` of the two chain services compares before it returns a transaction: it has the id it was asked for
under. -/
def VerifiesIds : (q : Call) → q.Answer → World → Prop
  | .liquidVerifyTx _ txId _ _, .ok tx, _ => tx.txid = txId
  | .bitcoinVerifyTx _ txId _ _, .ok tx, _ => tx.txid = txId
  | _, _, _ => True

def chainSystem (sdk : Sdk) : System World Call Call.Answer Err Role where
  answers := VerifiesIds
  effect := World.effect sdk
  spawns _ _ r t := Spawned sdk r t
  env := Elsewhere

/-! ## The guard -/

/-- The script pubkey that the server lockup of a swap pays to. -/
def claimScript (sdk : Sdk) (swap : ChainSwap) : Except Err Script := do
  let swapScript ← swap.getClaimSwapScript sdk.bz
  match swap.direction with
  | .incoming => swapScript.asLiquidScript >>= scriptPubkey
  | .outgoing => swapScript.asBitcoinScript >>= scriptPubkey

/-- The outputs of the transaction to the claim script hold at least what the terms of the swap ask for. -/
def AmountMet (sdk : Sdk) (swap : ChainSwap) (tx : SdkTransaction) : Prop :=
  ∃ script createResponse, claimScript sdk swap = .ok script ∧
    swap.getBoltzCreateResponse sdk.bz = .ok createResponse ∧
    expectedServerLockupAmountSat swap createResponse.claimDetails ≤ tx.paysTo script

/-- Wherever `claim` was called, the row had a recorded server lockup that was ready. -/
def ClaimsReady (ready : List Event → ChainSwap → TxId → Prop) (trace : List Event) : Prop :=
  ∀ new old id row, trace = new ++ .claimReached id row :: old →
    ∃ s txId, row = some s ∧ s.id = id ∧ s.serverLockupTxId = some txId ∧ ready old s txId

/-- What keeps a predicate about a row and a server lockup true from the time the lockup is recorded. -/
structure ClaimGuard (sdk : Sdk) (C : Cond World Role)
    (ready : List Event → ChainSwap → TxId → Prop) : Prop where
  /-- Only the terms of the row matter. -/
  terms : ∀ {trace s s' txId}, SameTerms s s' → ready trace s txId → ready trace s' txId
  /-- More history does no harm. -/
  later : ∀ {trace s txId} e, ready trace s txId → ready (e :: trace) s txId
  /-- A lockup is ready once its amount was checked. -/
  checked : ∀ {w swap tx row}, AmountMet sdk swap tx →
    C (.own .handler) w (w.note (.amountChecked swap tx)) →
    w.db.chainSwaps.get? swap.id = some row →
      ready (.amountChecked swap tx :: w.trace) row tx.txid
  /-- A lockup whose verification failed is only recorded over another one, or if it is ready. -/
  unverified : ∀ {w id txId row}, C (.own .handler) w (w.note (.lockupUnverified id txId)) →
    w.db.chainSwaps.get? id = some row → row.serverLockupTxId.isSome ∨ ready w.trace row txId
  /-- Changes of the accepted amount leave ready lockups ready. -/
  accepted : ∀ {w swapId amount}, C (.own .handler) w (w.write fun now db =>
      db.updateAcceptedReceiverAmount sdk.persister now swapId amount) →
    ∀ id row row' txId, w.db.chainSwaps.get? id = some row →
      (w.write fun now db => db.updateAcceptedReceiverAmount sdk.persister now swapId
        amount).db.chainSwaps.get? id = some row' →
      ready w.trace row txId → ready w.trace row' txId
  /-- Recovered and synced rows have lockups that are ready, and keep them. -/
  elsewhere : ∀ {l w w'}, l = .own .recovery ∨ l = .env → C l w w' → Elsewhere w w' →
    (∀ id row txId, w.db.chainSwaps.get? id = some row → row.serverLockupTxId = some txId →
      ready w.trace row txId) →
    ∀ id row', w'.db.chainSwaps.get? id = some row' →
      (∀ txId, row'.serverLockupTxId = some txId → ready w.trace row' txId) ∧
      ∀ row, w.db.chainSwaps.get? id = some row →
        (row.serverLockupTxId.isSome → row'.serverLockupTxId.isSome) ∧
        ∀ txId, ready w.trace row txId → ready w.trace row' txId

section Guard

variable {sdk : Sdk} {C : Cond World Role} {ready : List Event → ChainSwap → TxId → Prop}

/-- Recorded lockups are ready, and so was every claim. -/
structure GuardInv (ready : List Event → ChainSwap → TxId → Prop) (w : World) : Prop where
  recorded : ∀ {id row txId}, w.db.chainSwaps.get? id = some row →
    row.serverLockupTxId = some txId → ready w.trace row txId
  claims : ClaimsReady ready w.trace

/-- Rows stay, recorded lockups stay recorded, ready ones ready. -/
structure GuardKeep (ready : List Event → ChainSwap → TxId → Prop) (w w' : World) : Prop where
  row : ∀ {id row}, w.db.chainSwaps.get? id = some row →
    ∃ row', w'.db.chainSwaps.get? id = some row' ∧
      (row.serverLockupTxId.isSome → row'.serverLockupTxId.isSome) ∧
      ∀ {txId}, ready w.trace row txId → ready w'.trace row' txId

theorem GuardKeep.refl (w : World) : GuardKeep ready w w :=
  ⟨fun h => ⟨_, h, id, id⟩⟩

theorem GuardKeep.trans {w w' w'' : World} (h : GuardKeep ready w w') (h' : GuardKeep ready w' w'') :
    GuardKeep ready w w'' := by
  refine ⟨fun hrow => ?_⟩
  obtain ⟨row', hrow', hsome, hready⟩ := h.row hrow
  obtain ⟨row'', hrow'', hsome', hready'⟩ := h'.row hrow'
  exact ⟨row'', hrow'', fun hs => hsome' (hsome hs), fun hr => hready' (hready hr)⟩

/-- The protocol of the guard: all tasks keep the same. -/
def guardProtocol (ready : List Event → ChainSwap → TxId → Prop) : Protocol World Role :=
  .uniform (GuardInv ready) (GuardKeep ready) .refl fun h h' => h.trans h'

/-- An event more, and what is asked of it if it reaches a claim. -/
theorem claimsReady_cons {trace : List Event} (h : ClaimsReady ready trace) {e : Event}
    (he : ∀ id row, e = .claimReached id row →
      ∃ s txId, row = some s ∧ s.id = id ∧ s.serverLockupTxId = some txId ∧ ready trace s txId) :
    ClaimsReady ready (e :: trace) := by
  intro new old id row hsplit
  cases new with
  | nil =>
      obtain ⟨rfl, rfl⟩ := List.cons.inj hsplit
      exact he id row rfl
  | cons e' new =>
      obtain ⟨rfl, hrest⟩ := List.cons.inj hsplit
      exact h new old id row hrest

/-- The row has a recorded server lockup. -/
def Recorded (w : World) (id : SwapId) : Prop :=
  ∃ row, w.db.chainSwaps.get? id = some row ∧ row.serverLockupTxId.isSome

/-- The row is there, and the lockup may be recorded in it. -/
def MayRecord (ready : List Event → ChainSwap → TxId → Prop) (w : World) (id : SwapId) (txId : TxId) :
    Prop :=
  ∃ row, w.db.chainSwaps.get? id = some row ∧
    (row.serverLockupTxId.isSome ∨ ready w.trace row txId)

/-- Rows that are there stay there ... -/
theorem GuardKeep.present {w w' : World} (h : GuardKeep ready w w') {id : SwapId}
    (hp : Present w id) : Present w' id := by
  obtain ⟨row, hrow⟩ := Option.isSome_iff_exists.mp hp
  obtain ⟨row', hrow', -⟩ := h.row hrow
  exact Option.isSome_iff_exists.mpr ⟨row', hrow'⟩

/-- ... with the server lockup that is recorded ... -/
theorem GuardKeep.recorded {w w' : World} (h : GuardKeep ready w w') {id : SwapId}
    (hr : Recorded w id) : Recorded w' id := by
  obtain ⟨row, hrow, hsome⟩ := hr
  obtain ⟨row', hrow', hsome', -⟩ := h.row hrow
  exact ⟨row', hrow', hsome' hsome⟩

/-- ... and what may be recorded may be later. -/
theorem GuardKeep.mayRecord {w w' : World} (h : GuardKeep ready w w') {id : SwapId} {txId : TxId}
    (hm : MayRecord ready w id txId) : MayRecord ready w' id txId := by
  obtain ⟨row, hrow, hor⟩ := hm
  obtain ⟨row', hrow', hsome, hready⟩ := h.row hrow
  exact ⟨row', hrow', hor.imp hsome fun hr => hready hr⟩

/-! ## What the single transactions keep -/

/-- A change of the rows that leaves lockups alone and ready ones ready. -/
theorem guard_step {w w' : World} (hi : GuardInv ready w)
    (h : RowsRel (fun s s' => s'.serverLockupTxId = s.serverLockupTxId) w w')
    (hready : ∀ id row row' txId, w.db.chainSwaps.get? id = some row →
      w'.db.chainSwaps.get? id = some row' → ready w.trace row txId → ready w.trace row' txId) :
    GuardInv ready w' ∧ GuardKeep ready w w' := by
  have htrace := h.1
  refine ⟨⟨fun {id row' txId} hrow' hserver => ?_, htrace ▸ hi.claims⟩, ⟨fun {id row} hrow => ?_⟩⟩
  · obtain ⟨row, hrow, hsame⟩ := h.row_before hrow'
    rw [htrace]
    exact hready id row row' txId hrow hrow' (hi.recorded hrow (hsame ▸ hserver))
  · obtain ⟨row', hrow', hsame⟩ := h.row hrow
    refine ⟨row', hrow', fun hs => hsame ▸ hs, fun {txId} hr => ?_⟩
    rw [htrace]
    exact hready id row row' txId hrow hrow' hr

/-- Plain writes keep the guard ... -/
theorem guard_plain (G : ClaimGuard sdk C ready) {w : World} (hi : GuardInv ready w)
    {f : World → World} (hf : PlainWrite sdk.persister f) :
    GuardInv ready (f w) ∧ GuardKeep ready w (f w) := by
  have hrows := hf.rows w
  refine guard_step hi (hrows.mono fun s s' h => h.serverLockupTxId) fun id row row' txId h h' hr => ?_
  obtain ⟨row₁, hrow₁, hplain⟩ := hrows.row h
  rw [h'] at hrow₁
  cases hrow₁
  exact G.terms hplain.terms hr

/-- A change of the accepted amount. -/
theorem guard_accepted (G : ClaimGuard sdk C ready) {w : World} (hi : GuardInv ready w)
    {id : SwapId} {amount : Option Nat} (hc : C (.own .handler) w (w.write fun now db =>
      db.updateAcceptedReceiverAmount sdk.persister now id amount)) :
    GuardInv ready (w.write fun now db =>
        db.updateAcceptedReceiverAmount sdk.persister now id amount) ∧
      GuardKeep ready w (w.write fun now db =>
        db.updateAcceptedReceiverAmount sdk.persister now id amount) :=
  guard_step hi ((rows_updateAcceptedReceiverAmount sdk.persister id amount w).mono
    fun _ _ h => h.1) (G.accepted hc)

/-- An event that is no claim. -/
theorem guard_note (G : ClaimGuard sdk C ready) {w : World} (hi : GuardInv ready w) (e : Event)
    (he : ∀ id row, e = .claimReached id row →
      ∃ s txId, row = some s ∧ s.id = id ∧ s.serverLockupTxId = some txId ∧
        ready w.trace s txId) :
    GuardInv ready (w.note e) ∧ GuardKeep ready w (w.note e) := by
  refine ⟨⟨fun hrow hserver => ?_, claimsReady_cons hi.claims he⟩, ⟨fun {id row} hrow => ?_⟩⟩
  · exact G.later e (hi.recorded hrow hserver)
  · exact ⟨row, hrow, fun hs => hs, fun hr => G.later e hr⟩

/-- ... and so do answers. -/
theorem guard_effect (G : ClaimGuard sdk C ready) {w : World} (hi : GuardInv ready w) {q : Call} (hq : NoPush q)
    (a : q.Answer) : GuardInv ready (World.effect sdk q a w) ∧
      GuardKeep ready w (World.effect sdk q a w) := by
  rcases effect_note sdk hq a w with h | ⟨e, he, h⟩
  · rw [h]
    exact ⟨hi, .refl w⟩
  · rw [h]
    refine guard_note G hi e fun id row heq => ?_
    subst heq
    exact he.elim

/-! ## The parts of the handler -/

/-- A part of the handler keeps the guard, and what it returns satisfies `φ`. -/
abbrev Guarded (sdk : Sdk) (C : Cond World Role) (ready : List Event → ChainSwap → TxId → Prop)
    {α : Type} (t : Async α) (φ : α → World → Prop) (w : World) : Prop :=
  Safe (chainSystem sdk) C (guardProtocol ready) .handler t (OnOk φ) w

theorem guard_self (w w' : World) (h : (guardProtocol ready).guar .handler w w') :
    (guardProtocol ready).rely .handler w w' := h

variable (G : ClaimGuard sdk C ready)
include G

/-- An ordinary task keeps the guard, whatever runs next to it. -/
theorem benign_ordinary {α : Type} {t : Async α} (h : Ordinary sdk t) :
    Benign (chainSystem sdk) C (guardProtocol ready) .handler t := by
  refine h.mono (fun f hf w hi hc => ?_) fun q hq a w _ hi _ => guard_effect G hi hq a
  cases hf with
  | chain hf =>
      cases hf with
      | plain hf => exact guard_plain G hi hf
      | accepted swapId amount => exact guard_accepted G hi hc
  | attempted swapId =>
      refine guard_note G hi _ fun id row h => ?_
      cases h

/-- What is known before an ordinary part is known after it. -/
theorem guarded_ordinary {α : Type} {t : Async α} (h : Ordinary sdk t) {φ : α → World → Prop}
    {w : World} (hφ : ∀ a w₁, GuardKeep ready w w₁ → φ a w₁) : Guarded sdk C ready t φ w := by
  refine (benign_ordinary G h).safe_of guard_self fun x w₁ h₁ _ => ?_
  cases x with
  | ok a => exact hφ a w₁ h₁
  | error err => trivial

/-- An ordinary part, then the rest. -/
theorem guarded_ordinary_bind {α β : Type} {t : Async α} {g : α → Async β} (h : Ordinary sdk t)
    {ψ : β → World → Prop} {w : World}
    (hg : ∀ a w₁, GuardKeep ready w w₁ → GuardInv ready w₁ → Guarded sdk C ready (g a) ψ w₁) :
    Guarded sdk C ready (t.bind g) ψ w :=
  (benign_ordinary G h).safe_bind guard_self (fun _ _ _ _ => trivial) hg

omit G in
/-- A row that is read is there. -/
theorem guarded_fetchChainSwapById (swapId : SwapId) (w : World) :
    Guarded sdk C ready (fetchChainSwapById swapId)
      (fun swap w => swap.id = swapId ∧ Present w swapId) w := by
  intro w₁ h₁ hi _
  refine ⟨hi, .refl w₁, fun w₂ h₂ _ => ?_⟩
  have hkeep : GuardKeep ready w₁ w₂ := h₂
  show OnOk _ (okOr (w₁.db.fetchChainSwapById swapId) _) w₂
  cases hget : w₁.db.fetchChainSwapById swapId with
  | none => trivial
  | some swap =>
      obtain ⟨row, hrow, hswap⟩ := Db.fetchChainSwapById_eq_some hget
      refine ⟨?_, hkeep.present (Option.isSome_iff_exists.mpr ⟨row, hrow⟩)⟩
      have hid : row.id = swapId := Table.get?_some_key hrow
      exact (congrArg ChainSwap.id hswap).trans hid

/-- A call without a push, then the rest with its answer. -/
theorem guarded_askOk_bind {q : Call} (hq : NoPush q) {α β : Type} (h : q.Answer = Except Err α) {g : α → Async β}
    {ψ : β → World → Prop} {w : World}
    (hg : ∀ a x w₁, VerifiesIds q a w₁ → cast h a = .ok x → GuardKeep ready w (World.effect sdk q a w₁) →
      Guarded sdk C ready (g x) ψ (World.effect sdk q a w₁)) :
    Guarded sdk C ready ((Task.askOk q h).bind g) ψ w := by
  intro w₁ h₁ hi a ha _
  obtain ⟨hi', hkeep⟩ := guard_effect G hi hq a
  refine ⟨hi', hkeep, ?_⟩
  show Guarded sdk C ready ((Task.done (cast h a)).bind g) ψ _
  cases hx : cast h a with
  | error err => exact safe_error
  | ok x => exact hg a x w₁ ha hx (GuardKeep.trans h₁ hkeep)

/-- The amount check leaves a lockup that may be recorded. -/
theorem guarded_checkServerLockupAmount {swap : ChainSwap} {createResponse} {script : Script} {tx : SdkTransaction}
    {value : Nat} {w : World} (hscript : claimScript sdk swap = .ok script)
    (hresponse : swap.getBoltzCreateResponse sdk.bz = .ok createResponse) (hpays : value ≤ tx.paysTo script)
    (hp : Present w swap.id) :
    Guarded sdk C ready (checkServerLockupAmount swap createResponse.claimDetails tx value)
      (fun _ w => MayRecord ready w swap.id tx.txid) w := by
  unfold checkServerLockupAmount
  dsimp only
  split
  · exact safe_error
  · rename_i hvalue
    intro w₁ h₁ hi hc
    have hkeep : GuardKeep ready w w₁ := h₁
    have hevent : ∀ id row, Event.amountChecked swap tx ≠ .claimReached id row := by
      intro id row h
      cases h
    obtain ⟨hi', hg⟩ := guard_note G hi _ fun id row h => absurd h (hevent id row)
    refine ⟨hi', hg, safe_ok fun w₂ h₂ _ => ?_⟩
    obtain ⟨row, hrow⟩ := Option.isSome_iff_exists.mp (hkeep.present hp)
    have hmet : AmountMet sdk swap tx :=
      ⟨script, createResponse, hscript, hresponse, (Nat.le_of_not_lt hvalue).trans hpays⟩
    have hready := G.checked hmet hc hrow
    exact GuardKeep.mayRecord h₂ ⟨row, hrow, .inr hready⟩

/-- A verified server lockup may be recorded ... -/
theorem guarded_verifyServerLockupTx {swap : ChainSwap} (tx : TransactionInfo) (conf : Bool)
    {w : World} (hp : Present w swap.id) :
    Guarded sdk C ready (verifyServerLockupTx sdk swap tx conf)
      (fun _ w => MayRecord ready w swap.id tx.id) w := by
  unfold verifyServerLockupTx
  split
  · rename_i hdirection
    refine Safe.ofExcept_bind fun swapScript hswapScript => ?_
    refine Safe.ofExcept_bind fun createResponse hresponse => ?_
    refine Safe.ofExcept_bind fun liquidSwapScript hliquid => ?_
    refine Safe.ofExcept_bind fun address haddress => ?_
    refine Safe.ofExcept_bind fun txHex _ => ?_
    have hscript : claimScript sdk swap = .ok address := by
      unfold claimScript
      rw [hswapScript, hdirection]
      exact except_bind_eq_ok.mpr ⟨swapScript, rfl, except_bind_eq_ok.mpr ⟨liquidSwapScript, hliquid, haddress⟩⟩
    refine guarded_askOk_bind G (q := .liquidVerifyTx address tx.id txHex conf) nofun rfl
      fun a lockupTx w₁ ha hx h₁ => ?_
    cases (hx : a = .ok lockupTx)
    -- the service answers with the transaction of the id, so the id that is recorded is that of the checked one
    have hid : lockupTx.txid = tx.id := ha
    split
    · exact safe_error
    · refine Safe.ofExcept_bind fun value hvalue => ?_
      have hpays : value ≤ (SdkTransaction.liquid lockupTx).paysTo address := by
        rw [← (liquidValueTo_eq_ok.mp hvalue).2]
        exact u64Sum_le _
      rw [← hid]
      exact guarded_checkServerLockupAmount G hscript hresponse hpays (h₁.present hp)
  · rename_i hdirection
    refine Safe.ofExcept_bind fun swapScript hswapScript => ?_
    refine Safe.ofExcept_bind fun createResponse hresponse => ?_
    refine Safe.ofExcept_bind fun bitcoinSwapScript hbitcoin => ?_
    refine Safe.ofExcept_bind fun address haddress => ?_
    refine Safe.ofExcept_bind fun txHex _ => ?_
    have hscript : claimScript sdk swap = .ok address := by
      unfold claimScript
      rw [hswapScript, hdirection]
      exact except_bind_eq_ok.mpr ⟨swapScript, rfl, except_bind_eq_ok.mpr ⟨bitcoinSwapScript, hbitcoin, haddress⟩⟩
    refine guarded_askOk_bind G (q := .bitcoinVerifyTx address tx.id txHex conf) nofun rfl
      fun a lockupTx w₁ ha hx h₁ => ?_
    cases (hx : a = .ok lockupTx)
    have hid : lockupTx.txid = tx.id := ha
    split
    · exact safe_error
    · rw [← hid]
      have hpays : bitcoinValueTo address lockupTx.output ≤ (SdkTransaction.bitcoin lockupTx).paysTo address :=
        u64Sum_le _
      exact guarded_checkServerLockupAmount G hscript hresponse hpays (h₁.present hp)

/-- Recording a server lockup where there was none, or leaving the one that is there. -/
theorem guard_recordLockup {w : World} (hi : GuardInv ready w) {swapId : SwapId} {txId : TxId}
    (toState : PaymentState) (hm : MayRecord ready w swapId txId) :
    let w' := w.write fun now db => db.tryHandleChainSwapUpdate now
      { swapId, toState, serverLockupTxId := some txId }
    GuardInv ready w' ∧ GuardKeep ready w w' ∧ Recorded w' swapId := by
  intro w'
  have hrows := rows_tryHandleChainSwapUpdate
    { swapId, toState, serverLockupTxId := some txId } w
  have htrace : w'.trace = w.trace := hrows.1
  obtain ⟨row₀, hrow₀, hor⟩ := hm
  refine ⟨⟨fun {id row' txId'} hrow' hserver => ?_, htrace ▸ hi.claims⟩,
    ⟨fun {id row} hrow => ?_⟩, ?_⟩
  · obtain ⟨row, hrow, hterms, hserver'⟩ := hrows.row_before hrow'
    rw [htrace]
    refine G.terms hterms ?_
    cases hold : row.serverLockupTxId with
    | some txId₀ =>
        -- a recorded lockup stays
        have : txId' = txId₀ := by simpa [hold, hserver] using hserver'
        exact this ▸ hi.recorded hrow hold
    | none =>
        -- only the lockup that may be recorded is written
        have hid : row.id = id := Table.get?_some_key hrow
        have hnew : id = swapId ∧ txId = txId' := by
          simpa [hold, hserver, hid, eq_comm] using hserver'
        obtain ⟨rfl, rfl⟩ := hnew
        rw [hrow] at hrow₀
        cases hrow₀
        exact hor.resolve_left (by simp [hold])
  · obtain ⟨row', hrow', hterms, hserver'⟩ := hrows.row hrow
    refine ⟨row', hrow', fun hs => ?_, fun hr => ?_⟩
    · rw [hserver']
      split
      · simp
      · exact hs
    · rw [htrace]
      exact G.terms hterms hr
  · obtain ⟨row', hrow', -, hserver'⟩ := hrows.row hrow₀
    have hid : row₀.id = swapId := Table.get?_some_key hrow₀
    refine ⟨row', hrow', ?_⟩
    rw [hserver', if_pos hid]
    cases row₀.serverLockupTxId <;> rfl

/-- ... is recorded ... -/
theorem guarded_recordLockup {swapId : SwapId} {txId : TxId} {w : World}
    (hm : MayRecord ready w swapId txId) :
    Guarded sdk C ready
      (updateSwapInfo { swapId, toState := .pending, serverLockupTxId := some txId })
      (fun _ w => Recorded w swapId) w := by
  refine guarded_ordinary_bind G (plain_fetchChainSwapById swapId).ordinary fun swap w₁ h₁ _ => ?_
  refine Safe.ofExcept_bind fun _ _ => ?_
  intro w₂ h₂ hi hc
  obtain ⟨hi', hg, hrec⟩ := guard_recordLockup G hi .pending
    (h₂.mayRecord (h₁.mayRecord hm))
  refine ⟨hi', hg, ?_⟩
  refine guarded_ordinary_bind G (plain_fetchChainSwapById swapId).ordinary fun _ w₃ h₃ _ => ?_
  exact safe_ok fun w₄ h₄ _ => h₄.recorded (h₃.recorded hrec)

/-- A claim of a swap whose server lockup is recorded. -/
theorem guarded_claim {swapId : SwapId} {w : World} (hrec : Recorded w swapId) :
    Guarded sdk C ready (claim swapId) (fun _ _ => True) w := by
  intro w₁ h₁ hi hc
  have hkeep : GuardKeep ready w w₁ := h₁
  obtain ⟨row, hrow, hsome⟩ := hkeep.recorded hrec
  obtain ⟨txId, hserver⟩ := Option.isSome_iff_exists.mp hsome
  -- the claim is reached: the recorded lockup is ready
  have hreached : ∀ id row', Event.claimReached swapId (w₁.db.fetchChainSwapById swapId) =
      .claimReached id row' →
      ∃ s txId, row' = some s ∧ s.id = id ∧ s.serverLockupTxId = some txId ∧
        ready w₁.trace s txId := by
    intro id row' heq
    obtain ⟨rfl, rfl⟩ := Event.claimReached.inj heq
    have hid : row.id = swapId := Table.get?_some_key hrow
    refine ⟨row.withIsLocal (w₁.db.isLocal row.id), txId, ?_, hid, hserver, ?_⟩
    · rw [Db.fetchChainSwapById, hrow]
      rfl
    · exact G.terms (.withIsLocal _ row) ((hi : GuardInv ready w₁).recorded hrow hserver)
  obtain ⟨hi', hg⟩ := guard_note G hi _ hreached
  have hrest : Ordinary sdk (do
      let result ← (claimInner swapId).attempt
      Task.modify (leaveClaim swapId)
      Task.ofExcept result : Async Unit) := by
    refine Task.Within.bind (plain_claimInner swapId).ordinary.attempt fun result => ?_
    refine Task.Within.bind (Task.within_modify (.chain (.plain (.leaveClaim swapId)))) fun _ => ?_
    exact Task.within_done _
  refine ⟨⟨hi'.recorded, hi'.claims⟩, ⟨hg.row⟩, ?_⟩
  dsimp only
  split
  · exact safe_ok fun _ _ _ => trivial
  · exact guarded_ordinary G hrest fun _ _ _ => trivial

/-- ... and the claim is reached with it. -/
theorem guarded_delayedClaim {swap : ChainSwap} {swapId : SwapId} {w : World}
    (hrec : Recorded w swapId) :
    Guarded sdk C ready (delayedClaim swap swapId) (fun _ _ => True) w := by
  have hdelay : Ordinary sdk (maybeDelayBeforeClaim swap.metadata.isLocal) := by
    unfold maybeDelayBeforeClaim
    split
    · trivial
    · exact Task.within_ask nofun
  refine guarded_ordinary_bind G hdelay fun _ w₁ h₁ _ => ?_
  exact safe_mapErr (guarded_claim G (h₁.recorded hrec))

/-! ## Status updates -/

/-- The three statuses that tell of a server lockup ... -/
theorem guarded_onTransactionServerMempool {swap : ChainSwap} {update : SwapStatus} {w : World}
    (hid : swap.id = update.id) (hp : Present w update.id) :
    Guarded sdk C ready (onTransactionServerMempool sdk swap update) (fun _ _ => True) w := by
  unfold onTransactionServerMempool
  split
  · exact safe_ok fun _ _ _ => trivial
  · refine Safe.ofExcept_bind fun transaction _ => ?_
    refine guarded_ordinary_bind G (plain_requireUserLockup swap).ordinary fun _ w₁ h₁ _ => ?_
    have hverify := guarded_verifyServerLockupTx G transaction false
      (hid ▸ h₁.present hp)
    refine (safe_mapErr hverify).bind_ok guard_self fun _ w₂ _ _ hm => ?_
    refine (guarded_recordLockup G (hid ▸ hm)).bind_ok guard_self fun _ w₃ _ _ hrec => ?_
    split
    · exact guarded_delayedClaim G hrec
    · exact safe_ok fun _ _ _ => trivial

theorem guarded_onOutgoingServerConfirmed {swap : ChainSwap} {update : SwapStatus} {w : World}
    (hid : swap.id = update.id) (hp : Present w update.id) :
    Guarded sdk C ready (onOutgoingServerConfirmed sdk swap update) (fun _ _ => True) w := by
  unfold onOutgoingServerConfirmed
  split
  · exact safe_ok fun _ _ _ => trivial
  · refine Safe.ofExcept_bind fun transaction _ => ?_
    refine guarded_ordinary_bind G (plain_requireUserLockup swap).ordinary fun _ w₁ h₁ _ => ?_
    have hverify := guarded_verifyServerLockupTx G transaction true
      (hid ▸ h₁.present hp)
    refine (safe_mapErr hverify).bind_ok guard_self fun _ w₂ _ _ hm => ?_
    refine (guarded_recordLockup G (hid ▸ hm)).bind_ok guard_self fun _ w₃ _ _ hrec => ?_
    exact guarded_delayedClaim G hrec

/-- An unverified lockup is marked before it is recorded; the guard then allows it. -/
theorem guarded_noteUnverified {swapId : SwapId} {txId : TxId} {verifyRes : Except Err Unit}
    {w : World} (hp : Present w swapId)
    (hverified : ∀ a, verifyRes = .ok a → MayRecord ready w swapId txId) :
    Guarded sdk C ready (noteUnverified swapId txId verifyRes)
      (fun _ w => MayRecord ready w swapId txId) w := by
  cases verifyRes with
  | ok a => exact safe_ok fun w₁ h₁ _ => GuardKeep.mayRecord h₁ (hverified a rfl)
  | error err =>
      intro w₁ h₁ hi hc
      have hkeep : GuardKeep ready w w₁ := h₁
      have hevent : ∀ id row, Event.lockupUnverified swapId txId ≠ .claimReached id row := by
        intro id row h
        cases h
      obtain ⟨hi', hg⟩ := guard_note G hi _ fun id row h => absurd h (hevent id row)
      refine ⟨hi', hg, safe_ok fun w₂ h₂ _ => GuardKeep.mayRecord h₂ ?_⟩
      obtain ⟨row, hrow⟩ := Option.isSome_iff_exists.mp (hkeep.present hp)
      exact ⟨row, hrow, (G.unverified hc hrow).imp_right fun hr => G.later _ hr⟩

theorem guarded_onIncomingServerConfirmed {swap : ChainSwap} {update : SwapStatus} {w : World}
    (hid : swap.id = update.id) (hp : Present w update.id) :
    Guarded sdk C ready (onIncomingServerConfirmed sdk swap update) (fun _ _ => True) w := by
  unfold onIncomingServerConfirmed
  split
  · exact safe_ok fun _ _ _ => trivial
  · refine Safe.ofExcept_bind fun transaction _ => ?_
    refine guarded_ordinary_bind G (plain_requireUserLockup swap).ordinary fun _ w₁ h₁ _ => ?_
    have hp₁ := h₁.present hp
    have hverify := guarded_verifyServerLockupTx G transaction true (hid ▸ hp₁)
    refine (safe_mapErr hverify).attempt_ok.bind_ok guard_self fun res w₂ h₂ _ hres => ?_
    have hmark := guarded_noteUnverified G (GuardKeep.present h₂ hp₁)
      fun a ha => hid ▸ hres a ha
    refine hmark.bind_ok guard_self fun _ w₃ _ _ hm => ?_
    refine (guarded_recordLockup G hm).bind_ok guard_self fun _ w₄ _ _ hrec => ?_
    cases res with
    | ok a => exact guarded_delayedClaim G hrec
    | error err => exact safe_error

/-- ... and every status. -/
theorem guarded_onNewStatus (update : SwapStatus) (w : World) :
    Guarded sdk C ready (onNewStatus sdk update) (fun _ _ => True) w := by
  have hordinary : ∀ {t : Async Unit} {w : World}, Ordinary sdk t →
      Guarded sdk C ready t (fun _ _ => True) w := fun h => guarded_ordinary G h fun _ _ _ => trivial
  refine (guarded_fetchChainSwapById update.id w).bind_ok guard_self fun swap w₁ _ _ hswap => ?_
  obtain ⟨hid, hp⟩ := hswap
  split
  · refine Safe.ofExcept_bind fun state _ => ?_
    cases state with
    | transactionMempool => exact hordinary (plain_onIncomingUserLockup swap update).ordinary
    | transactionConfirmed => exact hordinary (plain_onIncomingUserLockup swap update).ordinary
    | transactionServerMempool => exact guarded_onTransactionServerMempool G hid hp
    | transactionServerConfirmed => exact guarded_onIncomingServerConfirmed G hid hp
    | transactionLockupFailed => exact hordinary (steady_onIncomingLockupFailed swap _).ordinary
    | transactionFailed => exact hordinary (plain_onIncomingUnrecoverable swap _).ordinary
    | transactionRefunded => exact hordinary (plain_onIncomingUnrecoverable swap _).ordinary
    | swapExpired => exact hordinary (plain_onIncomingUnrecoverable swap _).ordinary
    | created => exact safe_ok fun _ _ _ => trivial
    | unhandled => exact safe_ok fun _ _ _ => trivial
  · refine Safe.ofExcept_bind fun state _ => ?_
    cases state with
    | created => exact hordinary (ordinary_onCreated swap _)
    | transactionMempool => exact hordinary (plain_onOutgoingUserLockup update).ordinary
    | transactionConfirmed => exact hordinary (plain_onOutgoingUserLockup update).ordinary
    | transactionServerMempool => exact guarded_onTransactionServerMempool G hid hp
    | transactionServerConfirmed => exact guarded_onOutgoingServerConfirmed G hid hp
    | transactionFailed => exact hordinary (plain_onOutgoingUnrecoverable swap _).ordinary
    | transactionLockupFailed => exact hordinary (plain_onOutgoingUnrecoverable swap _).ordinary
    | transactionRefunded => exact hordinary (plain_onOutgoingUnrecoverable swap _).ordinary
    | swapExpired => exact hordinary (plain_onOutgoingUnrecoverable swap _).ordinary
    | unhandled => exact safe_ok fun _ _ _ => trivial

/-! ## Rescans on blocks -/

/-- A rescan claims only for a recorded lockup. -/
theorem guarded_claimConfirmedServerLockup {swap : ChainSwap} {w : World}
    (hrec : swap.serverLockupTxId.isSome → Recorded w swap.id) :
    Guarded sdk C ready (claimConfirmedServerLockup sdk swap) (fun _ _ => True) w := by
  unfold claimConfirmedServerLockup
  split
  · exact safe_ok fun _ _ _ => trivial
  · rename_i txId hserver
    refine Safe.ofExcept_bind fun swapScript _ => ?_
    refine guarded_ordinary_bind G (plain_fetchScriptHistory swapScript).ordinary
      fun history w₁ h₁ _ => ?_
    refine Safe.ofExcept_bind fun h _ => ?_
    split
    · exact safe_mapErr (guarded_claim G (h₁.recorded (hrec (hserver ▸ rfl))))
    · exact safe_ok fun _ _ _ => trivial

omit G in
/-- The listed swaps are rows, with their lockups. -/
theorem recorded_of_claimable {w : World} {direction : Direction} {swap : ChainSwap}
    (h : swap ∈ claimable direction w.db) (hsome : swap.serverLockupTxId.isSome) :
    Recorded w swap.id := by
  obtain ⟨row, hrow, heq⟩ := Db.mem_listChainSwaps (List.mem_filter.mp h).1
  refine ⟨row, hrow, ?_⟩
  rw [heq] at hsome
  exact hsome

theorem guarded_claimAll (direction : Direction) (w : World) :
    Guarded sdk C ready (claimAll sdk direction) (fun _ _ => True) w := by
  intro w₁ _ hi _
  refine ⟨hi, .refl w₁, ?_⟩
  refine Safe.forEach guard_self fun swap hswap w₂ h₂ _ => ?_
  have hrec := fun hsome => GuardKeep.recorded h₂ (recorded_of_claimable hswap hsome)
  refine (guarded_claimConfirmedServerLockup G hrec).attempt_ok.bind_ok guard_self
    fun _ _ _ _ _ => ?_
  exact safe_ok fun _ _ _ => trivial

/-- Every task of the handler keeps the guard. -/
theorem guarded_spawned {t : Async Unit} (h : Spawned sdk .handler t) (w : World) :
    Guarded sdk C ready t (fun _ _ => True) w := by
  have hclaim : ∀ direction w, Guarded sdk C ready
      ((claimAll sdk direction).attempt.bind fun _ => .done (.ok ())) (fun _ _ => True) w :=
    fun direction w => (guarded_claimAll G direction w).attempt_ok.bind_ok guard_self
      fun _ _ _ _ _ => safe_ok fun _ _ _ => trivial
  rcases h with update | h
  · exact guarded_onNewStatus G update w
  cases h with
  | bitcoinBlock => exact hclaim .outgoing w
  | liquidBlock height =>
      refine guarded_ordinary_bind G (plain_refundOutgoing height).ordinary.attempt
        fun _ w₁ _ _ => ?_
      exact hclaim .incoming w₁
  | acceptFees swapId feesSat payerAmountSat =>
      exact guarded_ordinary G (steady_acceptPaymentProposedFees _ _ _).ordinary fun _ _ _ => trivial
  | refund lockupAddress refundAddress isCooperative =>
      refine guarded_ordinary_bind G (plain_refundIncomingSwap _ _ _).ordinary fun _ _ _ _ => ?_
      exact safe_ok fun _ _ _ => trivial
  | timeout swapId =>
      exact guarded_ordinary G (plain_updateSwapInfo rfl).ordinary fun _ _ _ => trivial

end Guard

/-! ## Writing recovered swaps -/

theorem Elsewhere.refl (w : World) : Elsewhere w w := ⟨rfl, fun _ h => h⟩

/-- Writing a whole row deletes none. -/
theorem elsewhere_insertOrUpdateChainSwap (p : Persister) (maybeSwap : Option ChainSwap)
    (s : ChainSwap) (w : World) :
    Elsewhere w (w.tryWrite fun now db => db.insertOrUpdateChainSwap p now maybeSwap s) := by
  rcases World.tryWrite_cases _ w with ⟨db, hdb, h⟩ | h
  · rw [h]
    refine ⟨rfl, fun id hp => ?_⟩
    obtain ⟨db₁, hinner, hrows⟩ := Db.insertOrUpdateChainSwap_ok hdb
    show (db.chainSwaps.get? id).isSome
    rw [hrows, Db.get?_insertOrUpdateChainSwapInner hinner, Option.isSome_map, Option.isSome_or, hp,
      Bool.true_or]
  · rw [h]
    exact .refl w

/-- A task that writes recovered swaps reads, and writes whole rows. -/
abbrev WritesRows {α : Type} (t : Async α) : Prop :=
  t.Within (fun f => ∀ w, Elsewhere w (f w)) Call.Quiet

theorem writesRows_syncRecoverableSwaps (sdk : Sdk) (swaps : List Swap) (tips : Option ChainTips) :
    WritesRows (syncRecoverableSwaps sdk swaps tips) := by
  refine Task.Within.bind ((readOnly_recoverFromOnchain sdk swaps tips).mono
    (fun f hf w => hf ▸ .refl w) fun _ h => h.quiet) fun results => ?_
  refine Task.Within.forEach fun result _ => ?_
  split
  · refine Task.Within.bind (Task.Within.attempt ?_) fun _ => trivial
    have hfetch : ∀ id, WritesRows (fetchChainSwapById id) := fun id =>
      Task.Within.bind (within_fetch Elsewhere.refl _) fun _ => Task.within_done _
    refine Task.Within.bind (hfetch _) fun swap => ?_
    split
    · refine Task.Within.bind (within_fetch Elsewhere.refl _) fun maybeSwap => ?_
      exact within_tryWrite (elsewhere_insertOrUpdateChainSwap _ _ _)
    · trivial
  · trivial

/-- The tasks outside the handler write rows and claim nothing. -/
theorem writesRows_besides {sdk : Sdk} {t : Async Unit} (h : Besides sdk .recovery t) :
    WritesRows t := by
  cases h with
  | syncRecoverable swaps tips => exact writesRows_syncRecoverableSwaps sdk swaps tips
  | rescan =>
      refine Task.Within.bind (within_fetch Elsewhere.refl _) fun swaps => ?_
      exact writesRows_syncRecoverableSwaps sdk _ _

/-! ## Whole runs -/

section Runs

variable {sdk : Sdk} {C : Cond World Role} {ready : List Event → ChainSwap → TxId → Prop}

/-- A step elsewhere that meets the condition keeps the guard. -/
theorem guard_elsewhere (G : ClaimGuard sdk C ready) {l : Label Role} {w w' : World}
    (hl : l = .own .recovery ∨ l = .env) (hc : C l w w') (h : Elsewhere w w') (hi : GuardInv ready w) :
    GuardInv ready w' ∧ GuardKeep ready w w' := by
  have hrows := G.elsewhere hl hc h fun id row txId => hi.recorded
  refine ⟨⟨fun {id row' txId} hrow' hserver => ?_, h.1 ▸ hi.claims⟩, ⟨fun {id row} hrow => ?_⟩⟩
  · rw [h.1]
    exact (hrows id row' hrow').1 txId hserver
  · obtain ⟨row', hrow'⟩ := Option.isSome_iff_exists.mp
      (h.2 id (Option.isSome_iff_exists.mpr ⟨row, hrow⟩))
    obtain ⟨hsome, hready⟩ := (hrows id row' hrow').2 row hrow
    refine ⟨row', hrow', hsome, fun hr => ?_⟩
    rw [h.1]
    exact hready _ hr

/-- The tasks do not disturb each other, if each keeps the rows as it should. -/
theorem guard_sound (G : ClaimGuard sdk C ready) :
    Sound (chainSystem sdk) C (guardProtocol ready) (fun _ _ => True) where
  compat _ _ _ _ _ h := h
  spawn roles w r t hspawn _ _ _ := by
    refine ⟨fun _ _ => ⟨trivial, trivial⟩, ?_⟩
    cases r with
    | handler => exact (guarded_spawned G hspawn w).mono fun x w₁ _ _ => trivial
    | recovery =>
        have h : Besides sdk .recovery t := by cases hspawn; assumption
        have hbenign : Benign (chainSystem sdk) C (guardProtocol ready) .recovery t :=
          (writesRows_besides h).mono
            (fun f hf w hi hc => guard_elsewhere G (.inl rfl) hc (hf w) hi)
            fun q hq a w _ hi _ => by
              show GuardInv ready (World.effect sdk q a w) ∧
                GuardKeep ready w (World.effect sdk q a w)
              rw [effect_of_quiet sdk hq]
              exact ⟨hi, .refl w⟩
        exact hbenign.safe_of (fun _ _ h => h) fun _ _ _ _ => trivial
  abort _ _ _ _ := trivial
  env w w' henv hi hc := by
    obtain ⟨hi', hkeep⟩ := guard_elsewhere G (.inr rfl) hc henv hi
    exact ⟨hi', fun _ => hkeep⟩

/-- A world in which nothing has happened: no history, no server lockups. -/
def Fresh (w : World) : Prop :=
  w.trace = [] ∧ ∀ id row, w.db.chainSwaps.get? id = some row → row.serverLockupTxId = none

/-- **Claims are guarded.** In every run that meets the condition, recorded lockups are ready, and
wherever a claim was reached the recorded lockup was. -/
theorem ClaimGuard.inv (G : ClaimGuard sdk C ready) {w : World}
    {c : Pool World Call Call.Answer Err Role} (hw : Fresh w)
    (hrun : Runs (chainSystem sdk) C ⟨w, []⟩ c) : GuardInv ready c.state := by
  have hinv : GuardInv ready w := by
    refine ⟨fun hrow hserver => ?_, fun new old id row hsplit => ?_⟩
    · rw [hw.2 _ _ hrow] at hserver
      cases hserver
    · rw [hw.1] at hsplit
      exact absurd hsplit (by simp)
  have hkept : Kept (chainSystem sdk) C (guardProtocol ready) (fun _ _ => True) ⟨w, []⟩ :=
    { inv := hinv, roles := .nil, safe := nofun, idle := fun _ _ => trivial }
  exact (Runs.keep (guard_sound G) hkept hrun).inv

end Runs

end BreezLiquid.Chain
