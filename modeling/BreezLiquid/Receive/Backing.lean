/-
# BreezLiquid.Receive.Backing — what stands behind an invoice or an address.

A BOLT11 invoice is backed by a stored swap whose preimage it can be claimed with, over a request that had our keys, at
fees of a pair of the swapper. A BOLT12 invoice is our own, and a Bitcoin address is that of a stored chain swap. What
backs them is never taken away: the answers that were given stay given, and no transaction of the persister changes the
terms of a stored swap. So it is enough to look at the state in which something is handed out.
-/
import BreezLiquid.Receive.Creation

namespace BreezLiquid.Creation

open Interleaving Tables Chain Wrapping

section Receive

variable (lib : Library)

/-! ## What backs an invoice or an address -/

/-- The swap's answer of the swapper, and the request that has our keys. -/
structure Created (w : World) (req : CreateReverseRequest) (res : CreateReverseResponse) (s : ReceiveSwap) : Prop where
  told : w.Told (.createReceiveSwap req) (.ok res)
  id : s.id = res.id
  claimPublicKey : req.claimPublicKey = lib.publicKey s.claimPrivateKey
  address : req.address = some s.mrhAddress
  createResponseJson : s.createResponseJson = lib.reverseResponseJson res.toInternalCreateReverseResponse
  timeoutBlockHeight : s.timeoutBlockHeight = res.timeoutBlockHeight

/-- What a reverse swap of ours has to do with its invoice. -/
structure Backing (w : World) (invoice : String) (s : ReceiveSwap) : Prop where
  text : s.invoice = invoice
  paymentHash : s.paymentHash = some (lib.sha256 s.preimage)
  mrhAddress : w.Told .nextUnusedAddress (.ok s.mrhAddress)

/-- A BOLT11 invoice: it has our payment hash and our address, and the fees are the ones that were approved. -/
structure Bolt11Backing (w : World) (payerAmountSat feesSat : Nat) (invoice : String) (s : ReceiveSwap) : Prop
    extends Backing lib w invoice s where
  created : ∃ req res, Created lib w req res s ∧ req.preimageHash = some (lib.sha256 s.preimage) ∧
    req.invoiceAmount = some payerAmountSat ∧ res.invoice = some invoice
  parsed : ∃ bolt11, lib.parseBolt11 invoice = .ok bolt11 ∧ bolt11.paymentHash = lib.sha256 s.preimage
  mrh : ∃ amount, w.Told (.checkForMrh invoice) (.ok (some (s.mrhAddress, amount)))
  fees : ∃ pair, w.Told .getReverseSwapPairs (.ok (some pair)) ∧ pair.feesTotal payerAmountSat = feesSat ∧
    s.pairFeesJson = lib.reversePairJson pair

/-- A BOLT12 invoice: we made it ourselves. -/
structure Bolt12Backing (w : World) (invoiceRequest invoice : String) (s : ReceiveSwap) : Prop
    extends Backing lib w invoice s where
  created : ∃ req res, Created lib w req res s ∧ req.invoice = some invoice
  draft : ∃ draft description, lib.bolt12Invoice draft = .ok (invoice, description) ∧
    draft.invoiceRequest = invoiceRequest ∧ draft.paymentHash = lib.sha256 s.preimage

/-- A Bitcoin address: it is what the swapper answered for our keys. -/
structure ChainBacking (w : World) (userLockupAmountSat : Option Nat) (feesSat : Nat) (destination : String)
    (s : ChainSwap) : Prop where
  direction : s.direction = .incoming
  created : ∃ req res, w.Told (.createChainSwap req) (.ok res) ∧ s.id = res.id ∧
    req.preimageHash = lib.sha256 s.preimage ∧ req.claimPublicKey = lib.publicKey s.claimPrivateKey ∧
    req.refundPublicKey = lib.publicKey s.refundPrivateKey ∧ req.userLockAmount = userLockupAmountSat ∧
    s.lockupAddress = res.lockupDetails.lockupAddress ∧
    s.createResponseJson = lib.chainResponseJson res.toInternalChainResponse
  destination : ∃ createResponse, lib.chainResponse s.createResponseJson = .ok createResponse ∧
    destination = lockupUri lib createResponse
  fees : ∃ pair, w.Told .getChainPair (.ok (some pair)) ∧ incomingFees pair userLockupAmountSat = feesSat

/-- A reverse swap of the database has such terms. -/
def World.HasReceive (w : World) (p : ReceiveSwap → Prop) : Prop :=
  ∃ id s, w.db.receiveSwaps.get? id = some s ∧ p s.terms

def World.HasChain (w : World) (p : ChainSwap → Prop) : Prop := ∃ id s, w.db.chainSwaps.get? id = some s ∧ p s.terms

/-- What is handed out on a request is backed by a swap of the database. -/
structure ResponseBacked (w : World) (req : ReceivePaymentRequest) (res : ReceivePaymentResponse) : Prop where
  lightning : req.prepareResponse.paymentMethod = .lightning →
    ∃ amountSat, req.prepareResponse.amount = some (.bitcoin amountSat) ∧
      w.HasReceive (Bolt11Backing lib w amountSat req.prepareResponse.feesSat res.destination)
  bitcoin : req.prepareResponse.paymentMethod = .bitcoinAddress →
    ∃ amountSat, onchainAmount req.prepareResponse.amount = .ok amountSat ∧
      w.HasChain (ChainBacking lib w amountSat req.prepareResponse.feesSat res.destination)

/-- The fees that a user is asked to approve are those of a pair of the swapper. -/
structure PreparedBacked (w : World) (res : PrepareReceiveResponse) : Prop where
  lightning : res.paymentMethod = .lightning → ∃ amountSat pair, res.amount = some (.bitcoin amountSat) ∧
    w.Told .getReverseSwapPairs (.ok (some pair)) ∧ res.feesSat = pair.feesTotal amountSat ∧
    pair.limits.within amountSat = .ok ()
  bitcoin : res.paymentMethod = .bitcoinAddress → ∃ amountSat pair, onchainAmount res.amount = .ok amountSat ∧
    w.Told .getChainPair (.ok (some pair)) ∧ res.feesSat = incomingFees pair amountSat

/-- Whatever was handed out so far is backed. -/
structure World.Backed (w : World) : Prop where
  prepared : ∀ res ∈ w.prepared, PreparedBacked w res
  responses : ∀ req res, (req, res) ∈ w.handed → ResponseBacked lib w req res
  invoices : ∀ req invoice, (req, invoice) ∈ w.handedInvoices →
    w.HasReceive (Bolt12Backing lib w req.invoiceRequest invoice)

end Receive

/-! ## Requests run together -/

inductive Request where
  | prepare (paymentMethod : PaymentMethod) (amount : Option ReceiveAmount)
  | receive (req : ReceivePaymentRequest)
  | invoice (req : CreateBolt12InvoiceRequest)

section Run

variable (lib : Library)

/-- Answer a request, and record what is handed out. -/
def Request.task : Request → Async Unit
  | .prepare paymentMethod amount => do
      let res ← prepareReceivePayment paymentMethod amount
      Task.modify fun w => { w with prepared := res :: w.prepared }
  | .receive req => do
      let res ← receivePayment lib req
      Task.modify fun w => { w with handed := (req, res) :: w.handed }
  | .invoice req => do
      let invoice ← createBolt12Invoice lib req
      Task.modify fun w => { w with handedInvoices := (req, invoice) :: w.handedInvoices }

/-- The environment: the other tasks of the SDK write to the database, and time passes. -/
inductive Elsewhere (w : World) : World → Prop where
  | perform (m : Method) : Elsewhere w { w with db := w.db.perform lib.persister (w.now, m) }
  | tick (now : Nat) : Elsewhere w { w with now }

/-- The swapper and the wallet may answer anything. -/
def receiving : System World Call Call.Answer PaymentError Request where
  effect q a w := w.answer q a
  spawns _ _ r t := t = r.task lib
  env := Elsewhere lib

end Run

/-! ## What is kept -/

/-- No answer is forgotten, and no terms of a swap. -/
structure World.Keeps (w w' : World) : Prop where
  told : ∀ q a, w.Told q a → w'.Told q a
  receive : ∀ id s, w.db.receiveSwaps.get? id = some s → ∃ s', w'.db.receiveSwaps.get? id = some s' ∧ s'.terms = s.terms
  chain : ∀ id s, w.db.chainSwaps.get? id = some s → ∃ s', w'.db.chainSwaps.get? id = some s' ∧ s'.terms = s.terms

theorem World.Keeps.refl (w : World) : w.Keeps w :=
  ⟨fun _ _ h => h, fun _ s h => ⟨s, h, rfl⟩, fun _ s h => ⟨s, h, rfl⟩⟩

/-- What is kept twice is kept. -/
theorem World.Keeps.trans {w w' w'' : World} (h : w.Keeps w') (h' : w'.Keeps w'') : w.Keeps w'' := by
  refine ⟨fun q a htold => h'.told q a (h.told q a htold), ?_, ?_⟩
  · intro id s hs
    obtain ⟨s', hs', hterms⟩ := h.receive id s hs
    obtain ⟨s'', hs'', hterms'⟩ := h'.receive id s' hs'
    exact ⟨s'', hs'', hterms'.trans hterms⟩
  · intro id s hs
    obtain ⟨s', hs', hterms⟩ := h.chain id s hs
    obtain ⟨s'', hs'', hterms'⟩ := h'.chain id s' hs'
    exact ⟨s'', hs'', hterms'.trans hterms⟩

/-- What stays true. -/
def Stable (J : World → Prop) : Prop := ∀ {w w'}, w.Keeps w' → J w → J w'

/-- A row that is there stays there, with what was said of it. -/
theorem stable_hasReceive {p : World → ReceiveSwap → Prop} (hp : ∀ s, Stable fun w => p w s) :
    Stable fun w => w.HasReceive (p w) := by
  rintro w w' h ⟨id, s, hs, hps⟩
  obtain ⟨s', hs', hsame⟩ := h.receive id s hs
  exact ⟨id, s', hs', hsame ▸ hp s.terms h hps⟩

theorem stable_hasChain {p : World → ChainSwap → Prop} (hp : ∀ s, Stable fun w => p w s) :
    Stable fun w => w.HasChain (p w) := by
  rintro w w' h ⟨id, s, hs, hps⟩
  obtain ⟨s', hs', hsame⟩ := h.chain id s hs
  exact ⟨id, s', hs', hsame ▸ hp s.terms h hps⟩

section Backed

variable {lib : Library} {w w' : World} {s : ReceiveSwap}

/-- Backing is about the answers and the rows, of which there are only more. -/
theorem Created.mono {req : CreateReverseRequest} {res : CreateReverseResponse} (hkeeps : w.Keeps w')
    (h : Created lib w req res s) : Created lib w' req res s :=
  { h with told := hkeeps.told _ _ h.told }

theorem Backing.mono {invoice : String} (hkeeps : w.Keeps w') (h : Backing lib w invoice s) :
    Backing lib w' invoice s :=
  { h with mrhAddress := hkeeps.told _ _ h.mrhAddress }

/-- So every kind of backing is stable ... -/
theorem stable_bolt11Backing (payerAmountSat feesSat : Nat) (invoice : String) (s : ReceiveSwap) :
    Stable fun w => Bolt11Backing lib w payerAmountSat feesSat invoice s := by
  intro w w' hkeeps h
  obtain ⟨req, res, hcreated, hrest⟩ := h.created
  obtain ⟨amount, hmrh⟩ := h.mrh
  obtain ⟨pair, htold, hfees⟩ := h.fees
  exact {
    toBacking := h.toBacking.mono hkeeps
    created := ⟨req, res, hcreated.mono hkeeps, hrest⟩
    parsed := h.parsed
    mrh := ⟨amount, hkeeps.told _ _ hmrh⟩
    fees := ⟨pair, hkeeps.told _ _ htold, hfees⟩ }

theorem stable_bolt12Backing (invoiceRequest invoice : String) (s : ReceiveSwap) :
    Stable fun w => Bolt12Backing lib w invoiceRequest invoice s := by
  intro w w' hkeeps h
  obtain ⟨req, res, hcreated, hrest⟩ := h.created
  exact {
    toBacking := h.toBacking.mono hkeeps
    created := ⟨req, res, hcreated.mono hkeeps, hrest⟩
    draft := h.draft }

theorem stable_chainBacking (userLockupAmountSat : Option Nat) (feesSat : Nat) (destination : String) (s : ChainSwap) :
    Stable fun w => ChainBacking lib w userLockupAmountSat feesSat destination s := by
  intro w w' hkeeps h
  obtain ⟨req, res, hcreated, hrest⟩ := h.created
  obtain ⟨pair, htold, hfees⟩ := h.fees
  exact { h with
    created := ⟨req, res, hkeeps.told _ _ hcreated, hrest⟩
    fees := ⟨pair, hkeeps.told _ _ htold, hfees⟩ }

/-- ... that of a response ... -/
theorem stable_responseBacked (req : ReceivePaymentRequest) (res : ReceivePaymentResponse) :
    Stable fun w => ResponseBacked lib w req res := by
  intro w w' hkeeps h
  refine ⟨?_, ?_⟩
  · intro hmethod
    obtain ⟨amountSat, hamount, hbacked⟩ := h.lightning hmethod
    exact ⟨amountSat, hamount, stable_hasReceive (stable_bolt11Backing _ _ _) hkeeps hbacked⟩
  · intro hmethod
    obtain ⟨amountSat, hamount, hbacked⟩ := h.bitcoin hmethod
    exact ⟨amountSat, hamount, stable_hasChain (stable_chainBacking _ _ _) hkeeps hbacked⟩

/-- ... and that of what was prepared. -/
theorem stable_preparedBacked (res : PrepareReceiveResponse) : Stable fun w => PreparedBacked w res := by
  intro w w' hkeeps h
  refine ⟨?_, ?_⟩
  · intro hmethod
    obtain ⟨amountSat, pair, hamount, htold, hrest⟩ := h.lightning hmethod
    exact ⟨amountSat, pair, hamount, hkeeps.told _ _ htold, hrest⟩
  · intro hmethod
    obtain ⟨amountSat, pair, hamount, htold, hrest⟩ := h.bitcoin hmethod
    exact ⟨amountSat, pair, hamount, hkeeps.told _ _ htold, hrest⟩

/-- When nothing is forgotten, only what is handed out anew has to be backed anew. -/
theorem World.Backed.extend (hkeeps : w.Keeps w') (h : w.Backed lib)
    (hprepared : ∀ res ∈ w'.prepared, res ∈ w.prepared ∨ PreparedBacked w' res)
    (hhanded : ∀ req res, (req, res) ∈ w'.handed → (req, res) ∈ w.handed ∨ ResponseBacked lib w' req res)
    (hinvoices : ∀ req invoice, (req, invoice) ∈ w'.handedInvoices →
      (req, invoice) ∈ w.handedInvoices ∨ w'.HasReceive (Bolt12Backing lib w' req.invoiceRequest invoice)) :
    w'.Backed lib := by
  refine ⟨?_, ?_, ?_⟩
  · intro res hmem
    rcases hprepared res hmem with hmem | hbacked
    · exact stable_preparedBacked res hkeeps (h.prepared res hmem)
    · exact hbacked
  · intro req res hmem
    rcases hhanded req res hmem with hmem | hbacked
    · exact stable_responseBacked req res hkeeps (h.responses req res hmem)
    · exact hbacked
  · intro req invoice hmem
    rcases hinvoices req invoice hmem with hmem | hbacked
    · exact stable_hasReceive (stable_bolt12Backing _ _) hkeeps (h.invoices req invoice hmem)
    · exact hbacked

/-- What was handed out before is backed as before. -/
theorem World.Backed.mono (hkeeps : w.Keeps w') (h : w.Backed lib) (hprepared : w'.prepared = w.prepared)
    (hhanded : w'.handed = w.handed) (hinvoices : w'.handedInvoices = w.handedInvoices) : w'.Backed lib := by
  refine h.extend hkeeps ?_ ?_ ?_
  · intro res hmem
    exact .inl (hprepared ▸ hmem)
  · intro req res hmem
    exact .inl (hhanded ▸ hmem)
  · intro req invoice hmem
    exact .inl (hinvoices ▸ hmem)

/-- The protocol of all requests: what was handed out is backed, and nothing of it is forgotten. -/
def protocol (lib : Library) : Protocol World Request :=
  .uniform (fun w => w.db.Written ∧ w.Backed lib) World.Keeps .refl .trans

/-- The methods of the persister keep what is handed out. -/
theorem keeps_perform (p : Persister) (w : World) (call : Nat × Method) :
    w.Keeps { w with db := w.db.perform p call } := by
  obtain ⟨-, hreceive, hchain⟩ := outlives_performAll p [call] w.db
  refine ⟨fun _ _ h => h, ?_, ?_⟩
  · intro id s hs
    obtain ⟨s', hs', hterms, -⟩ := hreceive hs
    exact ⟨s', hs', hterms⟩
  · intro id s hs
    obtain ⟨s', hs', hterms, -⟩ := hchain hs
    exact ⟨s', hs', hterms⟩

theorem keeps_same (hdb : w'.db = w.db) (hanswered : w'.answered = w.answered) : w.Keeps w' := by
  refine ⟨?_, ?_, ?_⟩
  · intro q a htold
    unfold World.Told
    rw [hanswered]
    exact htold
  · intro id s hs
    rw [hdb]
    exact ⟨s, hs, rfl⟩
  · intro id s hs
    rw [hdb]
    exact ⟨s, hs, rfl⟩

/-- Answers are only added. -/
theorem keeps_answer (w : World) (q : Call) (a : q.Answer) : w.Keeps (w.answer q a) :=
  ⟨fun _ _ h => List.mem_cons_of_mem _ h, fun _ s h => ⟨s, h, rfl⟩, fun _ s h => ⟨s, h, rfl⟩⟩

/-- The invariant is about what was handed out, and kept by all other methods. -/
theorem inv_perform (call : Nat × Method) (h : (protocol lib).inv w) :
    (protocol lib).inv { w with db := w.db.perform lib.persister call } :=
  ⟨h.1.perform call, h.2.mono (keeps_perform lib.persister w call) rfl rfl rfl⟩

end Backed

end BreezLiquid.Creation
