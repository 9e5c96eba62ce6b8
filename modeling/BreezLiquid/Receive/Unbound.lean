/-
# BreezLiquid.Receive.Unbound — what the requests do not compare.

The swapper may answer a BOLT11 request with an invoice of another amount, and a Bitcoin request with a URI of another
address. Both are handed out: the runs are built here, request by request, from the answers of one swapper.

Each `returns_…` lemma executes one call of the request with the answer that is given for it, and the result chains
them. The pair is any pair that the request passes with: what its fees are appears in hypotheses about the pair only.
-/
import BreezLiquid.Receive.Handed

namespace BreezLiquid.Creation

open Interleaving Tables Chain Wrapping

/-! ## What is not compared -/

section Unbound

variable {lib : Library} {ans : Nat → (q : Call) → q.Answer} {n : Nat} {w : World} {β : Type} {post : β → World → Prop}

theorem run_tryWrite_ok {f : Nat → Db → Except Err Db} {e : Err → PaymentError} {db' : Db}
    (h : f w.now w.db = .ok db') :
    (tryWrite f e).run (receiving lib).effect ans (n, w) = (.ok (), (n, { w with db := db' })) := by
  show (Except.map Prod.fst _, (n, _)) = _
  simp only [h]
  rfl

/-- A swap whose id is not in use is stored. -/
theorem returns_insertReceive_bind {s : ReceiveSwap} (hwritten : w.db.Written)
    (hunused : w.db.receiveSwaps.get? s.id = none) (hnew : s.metadata.version = 0) {g : Unit → Async β}
    (h : ∀ db' row, db'.receiveSwaps.get? s.id = some row → row.terms = s.terms →
      row.payerAmountSat = s.payerAmountSat →
        (g ()).Returns (receiving lib).effect ans (n, { w with db := db' }) post) :
    ((insertOrUpdateReceiveSwap lib s).bind g).Returns (receiving lib).effect ans (n, w) post := by
  have hsucceeds :
      Succeeds (w.db.insertOrUpdateReceiveSwap lib.persister w.now (w.db.fetchReceiveSwapById s.id) s) := by
    refine succeeds_bind_ok.mpr (succeeds_ite.mpr (Statement.isCurrent_iff_any.mp ?_))
    refine ⟨Db.receiveSwapInsert s, ?_, hnew.symm⟩
    rw [Table.get?_insertNew, hunused, Option.none_or]
    exact if_pos rfl
  obtain ⟨db', hdb'⟩ := hsucceeds
  obtain ⟨row, hrow, hterms, hpayer⟩ := hwritten.newReceive hnew hdb'
  unfold insertOrUpdateReceiveSwap
  rw [Task.bind_eq, Task.bind_assoc]
  exact .bind rfl (.bind (run_tryWrite_ok hdb') (h db' row hrow hterms hpayer))

/-- The invoice is returned, and its swap is stored with its amount. -/
def Invoiced (invoice : Bolt11) (amountMsat : Nat) (id : SwapId) (res : ReceivePaymentResponse) (db : Db) : Prop :=
  res.destination = invoice.text ∧
    ∃ s, db.receiveSwaps.get? id = some s ∧ s.invoice = invoice.text ∧ s.payerAmountSat = amountMsat / 1000

theorem returns_createBolt11ReceiveSwap {amountSat feesSat : Nat} {pair : ReversePair}
    {description descriptionHash payerNote : Option String} {key preimage address id signature : String}
    {invoice : Bolt11} {amountMsat : Nat} (hwritten : w.db.Written) (hunused : w.db.receiveSwaps.get? id = none)
    (hfees : feesSat = pair.feesTotal amountSat) (hsign : lib.signMessageHash address key = .ok signature)
    (hparsed : lib.parseBolt11 invoice.text = .ok invoice) (hhash : invoice.paymentHash = lib.sha256 preimage)
    (hmsat : invoice.amountMsat = some amountMsat) :
    (createBolt11ReceiveSwap lib amountSat feesSat description descriptionHash payerNote).Returns (receiving lib).effect
      (swapperAnswer pair key preimage address id invoice.text) (n, w) fun res w =>
        Invoiced invoice amountMsat id res w.db := by
  unfold createBolt11ReceiveSwap
  refine .bind rfl (.ofExcept_bind (if_pos (decide_eq_true hfees)) ?_)
  refine .bind rfl (.bind rfl (.bind rfl (.ofExcept_bind hsign ?_)))
  refine .bind rfl (.ofExcept_bind rfl (.bind rfl ?_))
  refine .bind rfl (.ofExcept_bind rfl (.ofExcept_bind (if_pos (decide_eq_true rfl)) ?_))
  refine .ofExcept_bind hparsed (.ofExcept_bind (congrArg (okOr · _) hmsat) ?_)
  refine .ofExcept_bind (if_pos (decide_eq_true hhash)) (.ofExcept_bind (if_pos rfl) ?_)
  refine .bind rfl (returns_insertReceive_bind ?_ ?_ ?_ ?_)
  · exact ⟨hwritten.receive, hwritten.chain⟩
  · exact hunused
  · rfl
  intro db' row hrow hterms hpayer
  exact .bind rfl ⟨_, _, rfl, rfl, row, hrow, congrArg ReceiveSwap.invoice hterms, hpayer⟩

/-- A request that returns is answered in some run. -/
theorem runs_of_returns {req : ReceivePaymentRequest} {φ : ReceivePaymentResponse → Db → Prop}
    (hreceive : (receivePayment lib req).Returns (receiving lib).effect ans (0, w) fun res w => φ res w.db) :
    ∃ c, Runs (receiving lib) .any ⟨w, []⟩ c ∧ ∃ res, (req, res) ∈ c.state.handed ∧ φ res c.state.db := by
  obtain ⟨res, w', hrun, hpost⟩ := hreceive
  have htask : ((Request.receive req).task lib).run (receiving lib).effect ans (0, w) =
      (.ok (), (w'.1, { w'.2 with handed := (req, res) :: w'.2.handed })) := by
    refine (Task.run_bind _ _ (receivePayment lib req) _ _).trans ?_
    rw [hrun]
    rfl
  refine ⟨_, runs_spawn_any (fun _ _ _ => trivial) ans (r := .receive req) rfl, ?_⟩
  rw [htask]
  exact ⟨res, List.mem_cons_self, hpost⟩

/-- The example: an invoice of 2000 sat, for 1500 sat. -/
def smallRequest : ReceivePaymentRequest where
  prepareResponse := { paymentMethod := .lightning, amount := some (.bitcoin 1500), feesSat := 10 }

/-- An invoice of 2000 sat for a request of 1500. -/
def largeInvoice : Bolt11 where
  text := "invoice"
  amountMsat := some 2000000
  paymentHash := "sha256 preimage"
  destinationPubkey := "node"
  description := none

/-- A swapper with a pair and a chain swap. -/
def chainAnswer (pair : ChainPair) (key preimage : String) (res : CreateChainResponse) (n : Nat) :
    (q : Call) → q.Answer
  | .getChainPair => .ok (some pair)
  | .createChainSwap _ => .ok res
  | q => swapperAnswer regtestPair key preimage "ours" res.id "invoice" n q

/-- Writing a new chain swap returns, with its row in place. -/
theorem returns_insertChain_bind {s : ChainSwap} (hwritten : w.db.Written)
    (hunused : w.db.chainSwaps.get? s.id = none) (hnew : s.metadata.version = 0) {g : Unit → Async β}
    (h : ∀ db' row, db'.chainSwaps.get? s.id = some row → row.terms = s.terms →
      (g ()).Returns (receiving lib).effect ans (n, { w with db := db' }) post) :
    ((insertOrUpdateChainSwap lib s).bind g).Returns (receiving lib).effect ans (n, w) post := by
  have hsucceeds : Succeeds (w.db.insertOrUpdateChainSwap lib.persister w.now (w.db.fetchChainSwapById s.id) s) := by
    refine succeeds_bind_ok.mpr (succeeds_ite.mpr (Statement.isCurrent_iff_any.mp ?_))
    refine ⟨Db.chainSwapInsert s, ?_, hnew.symm⟩
    rw [Table.get?_insertNew, hunused, Option.none_or]
    exact if_pos rfl
  obtain ⟨db', hdb'⟩ := hsucceeds
  obtain ⟨row, hrow, hterms⟩ := hwritten.newChain hnew hdb'
  unfold insertOrUpdateChainSwap
  rw [Task.bind_eq, Task.bind_assoc]
  exact .bind rfl (.bind (run_tryWrite_ok hdb') (h db' row hrow hterms))

theorem run_getAndValidateChainPair {userLockupAmountSat : Option Nat} {pair : ChainPair} {key preimage : String}
    {res : CreateChainResponse}
    (hlimits : ∀ amountSat, userLockupAmountSat = some amountSat → pair.limits.within amountSat = .ok ()) :
    (getAndValidateChainPair userLockupAmountSat).run (receiving lib).effect (chainAnswer pair key preimage res)
      (n, w) = (.ok pair, (n + 1, w.answer .getChainPair (.ok (some pair)))) := by
  cases userLockupAmountSat with
  | none => rfl
  | some amountSat =>
      have hpair : (Task.askOk .getChainPair rfl : Async (Option ChainPair)).run (receiving lib).effect
          (chainAnswer pair key preimage res) (n, w) =
            (.ok (some pair), (n + 1, w.answer .getChainPair (.ok (some pair)))) := rfl
      unfold getAndValidateChainPair
      rw [Task.bind_eq, Task.run_bind, hpair]
      dsimp only
      rw [okOr, Task.bind_eq, Task.ofExcept_ok_bind, hlimits amountSat rfl]
      rfl

/-- The chain swap of the answer is stored. -/
def Located (res : CreateChainResponse) (db : Db) : Prop :=
  ∃ s, db.chainSwaps.get? res.id = some s ∧ s.lockupAddress = res.lockupDetails.lockupAddress

section Onchain

variable {userLockupAmountSat : Option Nat} {feesSat : Nat} {pair : ChainPair} {key preimage : String}
  {res : CreateChainResponse}

theorem returns_createReceiveChainSwap (hwritten : w.db.Written) (hunused : w.db.chainSwaps.get? res.id = none)
    (hlimits : ∀ amountSat, userLockupAmountSat = some amountSat → pair.limits.within amountSat = .ok ())
    (hfees : feesSat = incomingFees pair userLockupAmountSat) :
    (createReceiveChainSwap lib userLockupAmountSat feesSat).Returns (receiving lib).effect
      (chainAnswer pair key preimage res) (n, w) fun swap w =>
        swap.createResponseJson = lib.chainResponseJson res.toInternalChainResponse ∧ Located res w.db := by
  unfold createReceiveChainSwap
  refine .bind (run_getAndValidateChainPair hlimits) (.ofExcept_bind (if_pos (decide_eq_true hfees)) ?_)
  refine .bind rfl (.bind rfl (.bind rfl ?_))
  refine .bind rfl (.bind rfl (returns_insertChain_bind ?_ ?_ ?_ ?_))
  · exact ⟨hwritten.receive, hwritten.chain⟩
  · exact hunused
  · rfl
  intro db' row hrow hterms
  exact .bind rfl ⟨_, _, rfl, rfl, row, hrow, congrArg ChainSwap.lockupAddress hterms⟩

theorem returns_receiveOnchain (hwritten : w.db.Written) (hunused : w.db.chainSwaps.get? res.id = none)
    (hlimits : ∀ amountSat, userLockupAmountSat = some amountSat → pair.limits.within amountSat = .ok ())
    (hfees : feesSat = incomingFees pair userLockupAmountSat)
    (hjson : lib.chainResponse (lib.chainResponseJson res.toInternalChainResponse) = .ok res.toInternalChainResponse) :
    (receiveOnchain lib userLockupAmountSat feesSat).Returns (receiving lib).effect
      (chainAnswer pair key preimage res) (n, w) fun out w =>
        out.destination = lockupUri lib res.toInternalChainResponse ∧ Located res w.db := by
  refine (returns_createReceiveChainSwap hwritten hunused hlimits hfees).bind_returns ?_
  intro swap w' hswap
  obtain ⟨hcreateResponse, hlocated⟩ := hswap
  refine .ofExcept_bind (hcreateResponse ▸ hjson) ?_
  exact ⟨_, _, rfl, rfl, hlocated⟩

end Onchain

/-- A request to receive 2000 sat from Bitcoin. -/
def onchainRequest : ReceivePaymentRequest where
  prepareResponse := { paymentMethod := .bitcoinAddress, amount := some (.bitcoin 2000), feesSat := 10 }

end Unbound

end BreezLiquid.Creation
