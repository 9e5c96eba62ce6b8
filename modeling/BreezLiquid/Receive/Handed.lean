/-
# BreezLiquid.Receive.Handed — whatever is handed out is backed.

One rule for each kind of step: a question is answered and the answer is remembered, a write stores a new swap or leaves
the database as it is, and an error hands out nothing. Each request follows from these in the order of its steps. The
requests run together, next to any other method of the persister.
-/
import BreezLiquid.Receive.Backing

namespace BreezLiquid.Creation

open Interleaving Tables Chain Wrapping

/-! ## The steps of a request -/

/-- The task was told all this. -/
def Heard (l : List Answered) (w : World) : Prop := ∀ x ∈ l, x ∈ w.answered

theorem heard_nil (w : World) : Heard [] w := fun _ h => (List.not_mem_nil h).elim

theorem Heard.cons {l : List Answered} {w : World} {q : Call} {a : q.Answer} (h : Heard l w) (htold : w.Told q a) :
    Heard (⟨q, a⟩ :: l) w := List.forall_mem_cons.mpr ⟨htold, h⟩

theorem stable_heard (l : List Answered) : Stable (Heard l) := fun hkeeps h x hx => hkeeps.told x.q x.a (h x hx)

section Safe

variable {lib : Library} {C : Cond World Request} {r : Request} {w : World} {l : List Answered} {α β : Type}
  {ψ : β → World → Prop}

theorem safe_ask_bind {q : Call} {g : q.Answer → Async β} (hw : Heard l w)
    (hg : ∀ a w₁, Heard l w₁ → Safe (receiving lib) C (protocol lib) r (g a) (OnOk ψ) w₁) :
    Safe (receiving lib) C (protocol lib) r ((Task.ask q).bind g) (OnOk ψ) w := by
  intro w₁ hkeeps hinv a _ _
  have hanswer := keeps_answer w₁ q a
  refine ⟨⟨hinv.1, hinv.2.mono hanswer rfl rfl rfl⟩, hanswer, ?_⟩
  exact hg a _ (stable_heard l (hkeeps.trans hanswer) hw)

/-- A call that may fail; otherwise its answer is remembered. -/
theorem safe_askOk_bind {q : Call} {h : q.Answer = Except PaymentError α} {g : α → Async β} (hw : Heard l w)
    (hg : ∀ a w₁, Heard (⟨q, cast h.symm (.ok a)⟩ :: l) w₁ →
      Safe (receiving lib) C (protocol lib) r (g a) (OnOk ψ) w₁) :
    Safe (receiving lib) C (protocol lib) r ((Task.askOk q h).bind g) (OnOk ψ) w := by
  intro w₁ hkeeps hinv a _ _
  have hanswer := keeps_answer w₁ q a
  refine ⟨⟨hinv.1, hinv.2.mono hanswer rfl rfl rfl⟩, hanswer, ?_⟩
  have hheard : Heard (⟨q, a⟩ :: l) (w₁.answer q a) :=
    (stable_heard l (hkeeps.trans hanswer) hw).cons List.mem_cons_self
  show Safe (receiving lib) C (protocol lib) r ((Task.done (cast h a)).bind g) (OnOk ψ) (w₁.answer q a)
  have hcast : a = cast h.symm (cast h a) := by
    rw [cast_cast, cast_eq]
  generalize cast h a = x at hcast
  cases x with
  | error err => exact fun _ _ _ => trivial
  | ok x =>
      subst hcast
      exact hg x _ hheard

theorem safe_reads_heard {γ : Type} {f : World → γ} {g : γ → Async β} (hw : Heard l w)
    (hg : ∀ x w₁, Heard l w₁ → Safe (receiving lib) C (protocol lib) r (g x) (OnOk ψ) w₁) :
    Safe (receiving lib) C (protocol lib) r ((Task.reads f).bind g) (OnOk ψ) w := by
  refine safe_reads_bind World.Keeps.refl fun w₁ hkeeps _ => ?_
  exact hg (f w₁) w₁ (stable_heard l hkeeps hw)

/-- A transaction of the persister, and what it brings about when it succeeds. -/
theorem safe_tryWrite_bind {f : Nat → Db → Except Err Db} {e : Err → PaymentError} {g : Unit → Async β}
    {φ : World → Prop} (hφ : Stable φ) (hf : ∀ now, ∃ m : Method, ∀ db, m.exec lib.persister now db = f now db)
    (hok : ∀ (w₁ : World) db', w₁.db.Written → f w₁.now w₁.db = .ok db' → φ { w₁ with db := db' }) (hw : Heard l w)
    (hg : ∀ w₁, Heard l w₁ → φ w₁ → Safe (receiving lib) C (protocol lib) r (g ()) (OnOk ψ) w₁) :
    Safe (receiving lib) C (protocol lib) r ((tryWrite f e).bind g) (OnOk ψ) w := by
  have hwrite : Safe (receiving lib) C (protocol lib) r (tryWrite f e) (OnOk fun _ => φ) w := by
    refine safe_transact ?_ ?_
    · intro w₁ a w₂ _ hinv _ heq
      cases hexec : f w₁.now w₁.db with
      | error err =>
          rw [hexec] at heq
          cases heq
      | ok db' =>
          rw [hexec] at heq
          cases heq
          obtain ⟨m, hm⟩ := hf w₁.now
          have hdb : w₁.db.perform lib.persister (w₁.now, m) = db' := by
            unfold Db.perform
            rw [hm, hexec]
          have hkeeps := keeps_perform lib.persister w₁ (w₁.now, m)
          have hinv' := inv_perform (w₁.now, m) hinv
          rw [hdb] at hkeeps hinv'
          exact ⟨hinv', hkeeps, fun w₂ hkeeps' _ => hφ hkeeps' (hok w₁ db' hinv.1 hexec)⟩
    · intro w₁ err _ _ _ _
      exact ⟨.refl w₁, fun _ _ _ => trivial⟩
  refine hwrite.bind_ok (fun _ _ h => h) fun _ w₁ hkeeps _ hφ₁ => ?_
  exact hg w₁ (stable_heard l hkeeps hw) hφ₁

/-- An address is reserved; no swap is written to. -/
theorem safe_reserve_bind {address : Address} {expiryBlockHeight : Nat} {g : Unit → Async β} (hw : Heard l w)
    (hg : ∀ w₁, Heard l w₁ → Safe (receiving lib) C (protocol lib) r (g ()) (OnOk ψ) w₁) :
    Safe (receiving lib) C (protocol lib) r ((insertOrUpdateReservedAddress address expiryBlockHeight).bind g)
      (OnOk ψ) w := by
  refine safe_tryWrite_bind (φ := fun _ => True) (fun _ _ => trivial) ?_ (fun _ _ _ _ => trivial) hw
    fun w₁ hw₁ _ => hg w₁ hw₁
  intro now
  refine ⟨.other (fun _ db => .ok (db.insertOrUpdateReservedAddress address expiryBlockHeight)) ?_, fun _ => rfl⟩
  intro now db db' h
  cases h
  exact ⟨rfl, rfl, rfl⟩

/-- A new swap is stored. -/
theorem safe_insertReceive_bind {s : ReceiveSwap} (hnew : s.metadata.version = 0) {g : Unit → Async β}
    (hw : Heard l w) (hg : ∀ w₁, Heard l w₁ → w₁.HasReceive (fun terms => terms = s.terms) →
      Safe (receiving lib) C (protocol lib) r (g ()) (OnOk ψ) w₁) :
    Safe (receiving lib) C (protocol lib) r ((insertOrUpdateReceiveSwap lib s).bind g) (OnOk ψ) w := by
  unfold insertOrUpdateReceiveSwap
  rw [Task.bind_eq, Task.bind_assoc]
  refine safe_reads_heard hw fun maybeSwap w hw => ?_
  refine safe_tryWrite_bind (stable_hasReceive (p := fun _ terms => terms = s.terms) fun _ _ _ _ h => h) ?_ ?_ hw hg
  · intro now
    exact ⟨.insertOrUpdateReceiveSwap maybeSwap s, fun _ => rfl⟩
  · intro w₁ db' hwritten h
    obtain ⟨row, hrow, hterms, -⟩ := hwritten.newReceive hnew h
    exact ⟨s.id, row, hrow, hterms⟩

theorem safe_insertChain_bind {s : ChainSwap} (hnew : s.metadata.version = 0) {g : Unit → Async β}
    (hw : Heard l w) (hg : ∀ w₁, Heard l w₁ → w₁.HasChain (fun terms => terms = s.terms) →
      Safe (receiving lib) C (protocol lib) r (g ()) (OnOk ψ) w₁) :
    Safe (receiving lib) C (protocol lib) r ((insertOrUpdateChainSwap lib s).bind g) (OnOk ψ) w := by
  unfold insertOrUpdateChainSwap
  rw [Task.bind_eq, Task.bind_assoc]
  refine safe_reads_heard hw fun maybeSwap w hw => ?_
  refine safe_tryWrite_bind (stable_hasChain (p := fun _ terms => terms = s.terms) fun _ _ _ _ h => h) ?_ ?_ hw hg
  · intro now
    exact ⟨.insertOrUpdateChainSwap maybeSwap s, fun _ => rfl⟩
  · intro w₁ db' hwritten h
    obtain ⟨row, hrow, hterms⟩ := hwritten.newChain hnew h
    exact ⟨s.id, row, hrow, hterms⟩

/-- A call whose answer does not matter. -/
theorem safe_askOk_keep {q : Call} {h : q.Answer = Except PaymentError α} {g : α → Async β} {J : World → Prop}
    (hJ : Stable J) (hw : J w)
    (hg : ∀ a w₁, J w₁ → Safe (receiving lib) C (protocol lib) r (g a) (OnOk ψ) w₁) :
    Safe (receiving lib) C (protocol lib) r ((Task.askOk q h).bind g) (OnOk ψ) w := by
  intro w₁ hkeeps hinv a _ _
  have hanswer := keeps_answer w₁ q a
  refine ⟨⟨hinv.1, hinv.2.mono hanswer rfl rfl rfl⟩, hanswer, ?_⟩
  show Safe (receiving lib) C (protocol lib) r ((Task.done (cast h a)).bind g) (OnOk ψ) _
  cases cast h a with
  | error err => exact fun _ _ _ => trivial
  | ok x => exact hg x _ (hJ (hkeeps.trans hanswer) hw)

/-- What is true of a result stays true. -/
theorem safe_return {b : β} (hψ : Stable (ψ b)) (hw : ψ b w) :
    Safe (receiving lib) C (protocol lib) r (.done (.ok b)) (OnOk ψ) w :=
  safe_ok fun _ hkeeps _ => hψ hkeeps hw

/-! ## The requests -/

theorem okOr_eq_ok {o : Option α} {err : PaymentError} {a : α} (h : okOr o err = .ok a) : o = some a := by
  cases o with
  | none => cases h
  | some x =>
      cases h
      rfl

theorem ensure_eq_ok {b : Bool} {err : PaymentError} {u : Unit} (h : ensure b err = .ok u) : b = true := by
  unfold ensure at h
  split at h
  · assumption
  · cases h

theorem lightningAmount_eq_ok {amount : Option ReceiveAmount} {err : String} {amountSat : Nat}
    (h : lightningAmount amount err = .ok amountSat) : amount = some (.bitcoin amountSat) := by
  unfold lightningAmount at h
  split at h
  · cases h
  · cases h
    rfl
  · cases h

/-- Other methods hand out no invoice and no Bitcoin address. -/
theorem responseBacked_of_ne {req : ReceivePaymentRequest} (hlightning : req.prepareResponse.paymentMethod ≠ .lightning)
    (hbitcoin : req.prepareResponse.paymentMethod ≠ .bitcoinAddress) (res : ReceivePaymentResponse) (w : World) :
    ResponseBacked lib w req res := by
  refine ⟨?_, ?_⟩
  · intro h
    exact absurd h hlightning
  · intro h
    exact absurd h hbitcoin

theorem fromBoltzStructToJson_eq_ok {createResponse : CreateReverseResponse} {expectedInvoice : Option String}
    {json : String} (h : fromBoltzStructToJson lib createResponse expectedInvoice = .ok json) :
    createResponse.invoice = expectedInvoice ∧
      lib.reverseResponseJson createResponse.toInternalCreateReverseResponse = json := by
  unfold fromBoltzStructToJson at h
  split at h
  · cases h
    exact ⟨by assumption, rfl⟩
  · cases h

theorem safe_reversePair_bind {g : ReversePair → Async β} (hw : Heard l w)
    (hg : ∀ pair w₁, Heard (⟨.getReverseSwapPairs, .ok (some pair)⟩ :: l) w₁ →
      Safe (receiving lib) C (protocol lib) r (g pair) (OnOk ψ) w₁) :
    Safe (receiving lib) C (protocol lib) r (reversePair.bind g) (OnOk ψ) w := by
  unfold reversePair
  rw [Task.bind_eq, Task.bind_assoc]
  refine safe_askOk_bind hw fun maybePair w hw => ?_
  refine Safe.ofExcept_bind fun pair hpair => ?_
  obtain rfl := okOr_eq_ok hpair
  exact hg pair w hw

theorem safe_getAndValidateChainPair_bind {userLockupAmountSat : Option Nat} {g : ChainPair → Async β}
    (hw : Heard l w) (hg : ∀ pair w₁, Heard (⟨.getChainPair, .ok (some pair)⟩ :: l) w₁ →
      Safe (receiving lib) C (protocol lib) r (g pair) (OnOk ψ) w₁) :
    Safe (receiving lib) C (protocol lib) r ((getAndValidateChainPair userLockupAmountSat).bind g) (OnOk ψ) w := by
  unfold getAndValidateChainPair
  rw [Task.bind_eq, Task.bind_assoc]
  refine safe_askOk_bind hw fun maybePair w hw => ?_
  rw [Task.bind_eq, Task.bind_assoc]
  refine Safe.ofExcept_bind fun pair hpair => ?_
  obtain rfl := okOr_eq_ok hpair
  cases userLockupAmountSat with
  | none => exact hg pair w hw
  | some amountSat =>
      dsimp only
      cases pair.limits.within amountSat with
      | ok _ => exact hg pair w hw
      | error err => exact fun _ _ _ => trivial

/-- The invoice is only returned when it has our payment hash and our address, and its swap is stored. -/
theorem safe_createBolt11ReceiveSwap (payerAmountSat feesSat : Nat)
    (description descriptionHash payerNote : Option String) :
    Safe (receiving lib) C (protocol lib) r
      (createBolt11ReceiveSwap lib payerAmountSat feesSat description descriptionHash payerNote)
      (OnOk fun res w => w.HasReceive (Bolt11Backing lib w payerAmountSat feesSat res.destination)) w := by
  refine safe_reversePair_bind (heard_nil w) fun pair w hw => ?_
  refine Safe.ofExcept_bind fun _ hfees => ?_
  refine safe_ask_bind hw fun keypair w hw => ?_
  refine safe_ask_bind hw fun preimage w hw => ?_
  refine safe_askOk_bind hw fun mrhAddr w hw => ?_
  refine Safe.ofExcept_bind fun signature _ => ?_
  refine safe_askOk_bind hw fun createResponse w hw => ?_
  refine Safe.ofExcept_bind fun invoiceStr hinvoice => ?_
  refine safe_reserve_bind hw fun w hw => ?_
  refine safe_askOk_bind hw fun mrh w hw => ?_
  refine Safe.ofExcept_bind fun mrh' hmrh => Safe.ofExcept_bind fun _ haddress => ?_
  refine Safe.ofExcept_bind fun invoice hparsed => Safe.ofExcept_bind fun amountMsat _ => ?_
  refine Safe.ofExcept_bind fun _ hhash => Safe.ofExcept_bind fun json hjson => ?_
  refine safe_reads_heard hw fun createdAt w hw => ?_
  refine safe_insertReceive_bind rfl hw fun w hw hstored => ?_
  refine safe_askOk_keep (stable_hasReceive (stable_bolt11Backing _ _ _)) ?_ fun _ w hbacked =>
    safe_return (stable_hasReceive (stable_bolt11Backing _ _ _)) hbacked
  obtain ⟨id, s, hs, hterms⟩ := hstored
  refine ⟨id, s, hs, ?_⟩
  rw [hterms]
  obtain ⟨htext, rfl⟩ := fromBoltzStructToJson_eq_ok hjson
  have hstr : invoiceStr = invoice.text := Option.some.inj ((okOr_eq_ok hinvoice).symm.trans htext)
  have hmrhAddr : mrh'.1 = mrhAddr := of_decide_eq_true (ensure_eq_ok haddress)
  obtain rfl := okOr_eq_ok hmrh
  have hfeesSat : feesSat = pair.feesTotal payerAmountSat := of_decide_eq_true (ensure_eq_ok hfees)
  have hpaymentHash : invoice.paymentHash = lib.sha256 preimage := of_decide_eq_true (ensure_eq_ok hhash)
  subst hstr hmrhAddr
  exact {
    text := rfl
    paymentHash := rfl
    mrhAddress := hw _ (.tail _ (.tail _ (.head _)))
    created := ⟨_, createResponse, ⟨hw _ (.tail _ (.head _)), rfl, rfl, rfl, rfl, rfl⟩, rfl, rfl, htext⟩
    parsed := ⟨invoice, hparsed, hpaymentHash⟩
    mrh := ⟨mrh'.2, hw _ (.head _)⟩
    fees := ⟨pair, hw _ (.tail _ (.tail _ (.tail _ (.head _)))), hfeesSat.symm, rfl⟩ }

/-- The invoice is our own, and its swap is stored before it is returned. -/
theorem safe_createBolt12Invoice (req : CreateBolt12InvoiceRequest) :
    Safe (receiving lib) C (protocol lib) r (createBolt12Invoice lib req)
      (OnOk fun invoice w => w.HasReceive (Bolt12Backing lib w req.invoiceRequest invoice)) w := by
  refine safe_reads_heard (heard_nil w) fun offer w hw => ?_
  refine Safe.ofExcept_bind fun offer _ => Safe.ofExcept_bind fun node _ => Safe.ofExcept_bind fun node _ => ?_
  refine Safe.ofExcept_bind fun invoiceRequest _ => Safe.ofExcept_bind fun amountMsats _ => ?_
  refine safe_askOk_bind hw fun minCltv w hw => ?_
  refine safe_reversePair_bind hw fun pair w hw => ?_
  refine Safe.ofExcept_bind fun _ _ => Safe.ofExcept_bind fun keypair _ => ?_
  refine safe_ask_bind hw fun preimage w hw => ?_
  refine safe_askOk_bind hw fun mrhAddr w hw => ?_
  refine Safe.ofExcept_bind fun signature _ => ?_
  refine safe_ask_bind hw fun entropy w hw => ?_
  refine Safe.ofExcept_bind fun invoice hinvoice => ?_
  refine safe_ask_bind hw fun claimKeypair w hw => ?_
  refine safe_askOk_bind hw fun createResponse w hw => ?_
  refine safe_reserve_bind hw fun w hw => ?_
  refine Safe.ofExcept_bind fun json hjson => ?_
  refine safe_reads_heard hw fun createdAt w hw => ?_
  refine safe_insertReceive_bind rfl hw fun w hw hstored => ?_
  refine safe_askOk_keep (stable_hasReceive (stable_bolt12Backing _ _)) ?_ fun _ w hbacked =>
    safe_return (stable_hasReceive (stable_bolt12Backing _ _)) hbacked
  obtain ⟨id, s, hs, hterms⟩ := hstored
  refine ⟨id, s, hs, ?_⟩
  rw [hterms]
  obtain ⟨-, rfl⟩ := fromBoltzStructToJson_eq_ok hjson
  exact {
    text := rfl
    paymentHash := rfl
    mrhAddress := hw _ (.tail _ (.head _))
    created := ⟨_, createResponse, ⟨hw _ (.head _), rfl, rfl, rfl, rfl, rfl⟩, rfl⟩
    draft := ⟨_, invoice.2, hinvoice, rfl, rfl⟩ }

/-- The destination is read from the swap that was stored. -/
theorem safe_receiveOnchain (userLockupAmountSat : Option Nat) (feesSat : Nat) :
    Safe (receiving lib) C (protocol lib) r (receiveOnchain lib userLockupAmountSat feesSat)
      (OnOk fun res w => w.HasChain (ChainBacking lib w userLockupAmountSat feesSat res.destination)) w := by
  unfold receiveOnchain createReceiveChainSwap
  rw [Task.bind_eq, Task.bind_eq, Task.bind_assoc]
  refine safe_getAndValidateChainPair_bind (heard_nil w) fun pair w hw => ?_
  rw [Task.bind_eq, Task.bind_assoc]
  refine Safe.ofExcept_bind fun _ hfees => ?_
  rw [Task.bind_eq, Task.bind_assoc]
  refine safe_ask_bind hw fun preimage w hw => ?_
  rw [Task.bind_eq, Task.bind_assoc]
  refine safe_ask_bind hw fun claimKeypair w hw => ?_
  rw [Task.bind_eq, Task.bind_assoc]
  refine safe_ask_bind hw fun refundKeypair w hw => ?_
  rw [Task.bind_eq, Task.bind_assoc]
  refine safe_askOk_bind hw fun createResponse w hw => ?_
  rw [Task.bind_eq, Task.bind_assoc]
  refine safe_reads_heard hw fun createdAt w hw => ?_
  rw [Task.bind_eq, Task.bind_assoc]
  refine safe_insertChain_bind rfl hw fun w hw hstored => ?_
  have hbacked : ∀ decoded, lib.chainResponse (lib.chainResponseJson createResponse.toInternalChainResponse) =
      .ok decoded → w.HasChain (ChainBacking lib w userLockupAmountSat feesSat (lockupUri lib decoded)) := by
    intro decoded hdecoded
    obtain ⟨id, s, hs, hterms⟩ := hstored
    refine ⟨id, s, hs, ?_⟩
    rw [hterms]
    have hfeesSat : feesSat = incomingFees pair userLockupAmountSat := of_decide_eq_true (ensure_eq_ok hfees)
    exact {
      direction := rfl
      created := ⟨_, createResponse, hw _ (.head _), rfl, rfl, rfl, rfl, rfl, rfl, rfl⟩
      destination := ⟨decoded, hdecoded, rfl⟩
      fees := ⟨pair, hw _ (.tail _ (.head _)), hfeesSat.symm⟩ }
  rw [Task.bind_eq, Task.bind_assoc]
  have hstable : ∀ destination,
      Stable fun w => w.HasChain (ChainBacking lib w userLockupAmountSat feesSat destination) :=
    fun destination => stable_hasChain (stable_chainBacking _ _ destination)
  refine safe_askOk_keep (J := fun w => ∀ decoded, lib.chainResponse
      (lib.chainResponseJson createResponse.toInternalChainResponse) = .ok decoded →
        w.HasChain (ChainBacking lib w userLockupAmountSat feesSat (lockupUri lib decoded)))
    (fun hkeeps h decoded hdecoded => hstable _ hkeeps (h decoded hdecoded)) hbacked fun _ w hbacked => ?_
  refine Safe.ofExcept_bind fun swap hswap => ?_
  cases hswap
  refine Safe.ofExcept_bind fun decoded hdecoded => ?_
  exact safe_return (hstable _) (hbacked decoded hdecoded)

/-- A new offer is stored; no swap is written to. -/
theorem safe_insertOffer_bind {offer : Bolt12Offer} {g : Unit → Async β} (hw : Heard l w)
    (hg : ∀ w₁, Heard l w₁ → Safe (receiving lib) C (protocol lib) r (g ()) (OnOk ψ) w₁) :
    Safe (receiving lib) C (protocol lib) r ((insertOrUpdateBolt12Offer lib offer).bind g) (OnOk ψ) w := by
  unfold insertOrUpdateBolt12Offer
  rw [Task.bind_eq, Task.bind_assoc]
  refine safe_reads_heard hw fun maybeOffer w hw => ?_
  refine safe_tryWrite_bind (φ := fun _ => True) (fun _ _ => trivial) ?_ (fun _ _ _ _ => trivial) hw
    fun w₁ hw₁ _ => hg w₁ hw₁
  intro now
  refine ⟨.other (fun now db => .ok (db.insertOrUpdateBolt12Offer lib.persister now maybeOffer offer)) ?_,
    fun _ => ?_⟩
  · intro now db db' h
    cases h
    refine ⟨?_, ?_, ?_⟩
    · exact Db.commitUpdatedFields_sendSwaps ..
    · exact Db.commitUpdatedFields_receiveSwaps ..
    · exact Db.commitUpdatedFields_chainSwaps ..
  · rfl

theorem safe_createBolt12Offer (description : String) :
    Safe (receiving lib) C (protocol lib) r (createBolt12Offer lib description) (OnOk fun _ _ => True) w := by
  refine safe_askOk_bind (heard_nil w) fun node w hw => ?_
  refine safe_askOk_bind hw fun maybeReversePair w hw => ?_
  refine Safe.ofExcept_bind fun node _ => Safe.ofExcept_bind fun pair _ => ?_
  refine safe_ask_bind hw fun keypair w hw => ?_
  refine safe_ask_bind hw fun entropy w hw => ?_
  refine Safe.ofExcept_bind fun offer _ => ?_
  refine safe_askOk_bind hw fun _ w hw => ?_
  refine safe_reads_heard hw fun createdAt w hw => ?_
  refine safe_insertOffer_bind hw fun w hw => ?_
  refine Safe.ofExcept_bind fun signature _ => ?_
  exact safe_askOk_bind hw fun _ w _ => safe_return (fun _ _ => trivial) trivial

theorem safe_receiveLiquid (req : ReceivePaymentRequest) :
    Safe (receiving lib) C (protocol lib) r (receiveLiquid lib req) (OnOk fun _ _ => True) w := by
  unfold receiveLiquid
  split
  refine safe_askOk_bind (heard_nil w) fun address w _ => ?_
  split
  · refine Safe.ofExcept_bind fun destination _ => ?_
    exact safe_return (fun _ _ => trivial) trivial
  · exact safe_return (fun _ _ => trivial) trivial

/-- What is returned for a request is backed. -/
theorem safe_receivePayment (req : ReceivePaymentRequest) :
    Safe (receiving lib) C (protocol lib) r (receivePayment lib req)
      (OnOk fun res w => ResponseBacked lib w req res) w := by
  unfold receivePayment
  cases hmethod : req.prepareResponse.paymentMethod with
  | lightning =>
      refine Safe.ofExcept_bind fun amountSat hamount => Safe.ofExcept_bind fun description _ => ?_
      refine (safe_createBolt11ReceiveSwap amountSat _ description.1 description.2 req.payerNote).mono ?_
      intro x w₁ _ hx
      cases x with
      | error err => trivial
      | ok res =>
          refine ⟨?_, ?_⟩
          · intro _
            exact ⟨amountSat, lightningAmount_eq_ok hamount, hx⟩
          · intro h
            rw [hmethod] at h
            cases h
  | bitcoinAddress =>
      refine Safe.ofExcept_bind fun amountSat hamount => ?_
      refine (safe_receiveOnchain amountSat req.prepareResponse.feesSat).mono ?_
      intro x w₁ _ hx
      cases x with
      | error err => trivial
      | ok res =>
          refine ⟨?_, ?_⟩
          · intro h
            rw [hmethod] at h
            cases h
          · intro _
            exact ⟨amountSat, hamount, hx⟩
  | bolt12Offer =>
      -- an offer or a Liquid address is backed by no swap
      have hother : ∀ res w₁, ResponseBacked lib w₁ req res :=
        responseBacked_of_ne (by simp [hmethod]) (by simp [hmethod])
      refine safe_reads_heard (heard_nil w) fun offer w _ => ?_
      cases offer with
      | some offer => exact safe_return (fun _ _ => hother _ _) (hother _ w)
      | none =>
          refine (safe_createBolt12Offer (req.description.getD "")).mono ?_
          intro x w₁ _ _
          cases x with
          | error err => trivial
          | ok res => exact hother res w₁
  | liquidAddress =>
      have hother : ∀ res w₁, ResponseBacked lib w₁ req res :=
        responseBacked_of_ne (by simp [hmethod]) (by simp [hmethod])
      refine (safe_receiveLiquid req).mono ?_
      intro x w₁ _ _
      cases x with
      | error err => trivial
      | ok res => exact hother res w₁

theorem within_eq_ok {limits : PairLimits} {amountSat : Nat} {u : Unit} (h : within limits amountSat = .ok u) :
    limits.within amountSat = .ok () := by
  unfold within at h
  split at h
  · rename_i hwithin
    exact hwithin
  · cases h

theorem safe_prepareReceivePayment (paymentMethod : PaymentMethod) (amount : Option ReceiveAmount) :
    Safe (receiving lib) C (protocol lib) r (prepareReceivePayment paymentMethod amount)
      (OnOk fun res w => PreparedBacked w res) w := by
  cases paymentMethod with
  | lightning =>
      refine Safe.ofExcept_bind fun amountSat hamount => ?_
      refine safe_reversePair_bind (heard_nil w) fun pair w hw => ?_
      refine Safe.ofExcept_bind fun _ hwithin => ?_
      refine safe_return (stable_preparedBacked _) ⟨?_, ?_⟩
      · intro _
        exact ⟨amountSat, pair, lightningAmount_eq_ok hamount, hw _ (.head _), rfl, within_eq_ok hwithin⟩
      · intro h
        cases h
  | bolt12Offer =>
      refine Safe.ofExcept_bind fun _ _ => ?_
      refine safe_reversePair_bind (heard_nil w) fun pair w hw => ?_
      refine safe_return (stable_preparedBacked _) ⟨?_, ?_⟩
      · intro h
        cases h
      · intro h
        cases h
  | bitcoinAddress =>
      refine Safe.ofExcept_bind fun amountSat hamount => ?_
      refine safe_getAndValidateChainPair_bind (heard_nil w) fun pair w hw => ?_
      refine safe_return (stable_preparedBacked _) ⟨?_, ?_⟩
      · intro h
        cases h
      · intro _
        exact ⟨amountSat, pair, hamount, hw _ (.head _), rfl⟩
  | liquidAddress =>
      refine safe_return (stable_preparedBacked _) ⟨?_, ?_⟩
      · intro h
        cases h
      · intro h
        cases h

/-- Handing out what is backed keeps the protocol. -/
theorem safe_task (request : Request) :
    Safe (receiving lib) C (protocol lib) r (request.task lib) (OnOk fun _ _ => True) w := by
  cases request with
  | prepare paymentMethod amount =>
      refine (safe_prepareReceivePayment paymentMethod amount).bind_ok (fun _ _ h => h) fun res w _ _ hbacked => ?_
      intro w₁ hkeeps hinv _
      have hrecorded : w₁.Keeps { w₁ with prepared := res :: w₁.prepared } := keeps_same rfl rfl
      refine ⟨⟨hinv.1, hinv.2.extend hrecorded ?_ ?_ ?_⟩, hrecorded, fun _ _ _ => trivial⟩
      · intro res' hmem
        rcases List.mem_cons.mp hmem with heq | hmem
        · cases heq
          exact .inr (stable_preparedBacked res (hkeeps.trans hrecorded) hbacked)
        · exact .inl hmem
      · exact fun _ _ => .inl
      · exact fun _ _ => .inl
  | receive req =>
      refine (safe_receivePayment req).bind_ok (fun _ _ h => h) fun res w _ _ hbacked => ?_
      intro w₁ hkeeps hinv _
      have hrecorded : w₁.Keeps { w₁ with handed := (req, res) :: w₁.handed } := keeps_same rfl rfl
      refine ⟨⟨hinv.1, hinv.2.extend hrecorded ?_ ?_ ?_⟩, hrecorded, fun _ _ _ => trivial⟩
      · exact fun _ => .inl
      · intro req' res' hmem
        rcases List.mem_cons.mp hmem with heq | hmem
        · cases heq
          exact .inr (stable_responseBacked req res (hkeeps.trans hrecorded) hbacked)
        · exact .inl hmem
      · exact fun _ _ => .inl
  | invoice req =>
      refine (safe_createBolt12Invoice req).bind_ok (fun _ _ h => h) fun invoice w _ _ hbacked => ?_
      intro w₁ hkeeps hinv _
      have hrecorded : w₁.Keeps { w₁ with handedInvoices := (req, invoice) :: w₁.handedInvoices } :=
        keeps_same rfl rfl
      refine ⟨⟨hinv.1, hinv.2.extend hrecorded ?_ ?_ ?_⟩, hrecorded, fun _ _ _ => trivial⟩
      · exact fun _ => .inl
      · exact fun _ _ => .inl
      · intro req' invoice' hmem
        rcases List.mem_cons.mp hmem with heq | hmem
        · cases heq
          exact .inr (stable_hasReceive (stable_bolt12Backing _ _) (hkeeps.trans hrecorded) hbacked)
        · exact .inl hmem

/-- What is written elsewhere forgets no swap either. -/
theorem sound_receiving : Sound (receiving lib) C (protocol lib) fun _ _ => True where
  compat _ _ _ _ _ h := h
  spawn roles w r t ht hinv _ _ := by
    refine ⟨fun _ _ => ⟨trivial, trivial⟩, ?_⟩
    rw [show t = r.task lib from ht]
    exact (safe_task r).mono fun _ _ _ _ => trivial
  abort _ _ _ _ := trivial
  env w w' henv hinv _ := by
    cases henv with
    | perform m => exact ⟨inv_perform (w.now, m) hinv, fun _ => keeps_perform lib.persister w (w.now, m)⟩
    | tick now =>
        have hkeeps : w.Keeps { w with now } := keeps_same rfl rfl
        exact ⟨⟨hinv.1, hinv.2.mono hkeeps rfl rfl rfl⟩, fun _ => hkeeps⟩

end Safe

/-! ## Whole runs -/

/-- **What is handed out.** However many requests run together, whatever the swapper answers and whatever else is
written to the database: every invoice and every Bitcoin address that was handed out is backed by a swap that is
stored, with the keys and the preimage that it was asked with. -/
theorem handed_backed (lib : Library) {C : Cond World Request} {w : World} (hwritten : w.db.Written)
    (hprepared : w.prepared = []) (hhanded : w.handed = []) (hinvoices : w.handedInvoices = [])
    {c : Pool World Call Call.Answer PaymentError Request}
    (hrun : Runs (receiving lib) C ⟨w, []⟩ c) : c.state.Backed lib := by
  have hbacked : w.Backed lib := by
    refine ⟨?_, ?_, ?_⟩
    · intro res hmem
      rw [hprepared] at hmem
      cases hmem
    · intro req res hmem
      rw [hhanded] at hmem
      cases hmem
    · intro req invoice hmem
      rw [hinvoices] at hmem
      cases hmem
  have hkept : Kept (receiving lib) C (protocol lib) (fun _ _ => True) ⟨w, []⟩ :=
    ⟨⟨hwritten, hbacked⟩, .nil, fun _ hmem => (List.not_mem_nil hmem).elim, fun _ _ => trivial⟩
  exact (Runs.keep sound_receiving hkept hrun).inv.2

/-- A chain swap that is locked up at one address, next to a URI with another one. -/
def regtestChain (lockupAddress : String) : InternalChainResponse where
  claimDetails := { lockupAddress := "claim", amount := 1990, timeoutBlockHeight := 100 }
  lockupDetails := { lockupAddress, amount := 2000, timeoutBlockHeight := 100, bip21 := some "bitcoin:elsewhere" }

/-- The example: an invoice of 2000 sat, from a swapper that takes 10 sat. -/
def regtest : Library where
  persister := BreezLiquid.persister
  network := .regtest
  sha256 text := "sha256 " ++ text
  publicKey key := "public " ++ key
  decodeKeypair := .ok
  signMessageHash message key := .ok (message ++ " by " ++ key)
  parseBolt11 text := .ok {
    text
    amountMsat := some 2000000
    paymentHash := "sha256 preimage"
    destinationPubkey := "node"
    description := none }
  reversePairJson _ := "pair"
  chainPairJson _ := "pair"
  reverseResponseJson res := res.lockupAddress
  chainResponseJson res := res.lockupDetails.lockupAddress
  chainResponse lockupAddress := .ok (regtestChain lockupAddress)
  btcText _ := ""
  liquidUri data _ := .ok data.address
  offerNode _ := .ok none
  decodeInvoiceRequest _ := .ok { amountMsats := none, payerNote := none }
  bolt12Invoice _ := .error (.generic "no BOLT12 here")
  bolt12Offer _ _ _ _ _ := .error (.generic "no BOLT12 here")

def regtestPair : ReversePair where
  limits := .between 1000 100000
  claimFee := 10
  feesTotal _ := 10

def regtestChainPair : ChainPair where
  limits := .between 1000 100000
  boltzFee _ := 0
  userClaimFee := 10

/-- A swapper with a pair and an invoice, next to a wallet with one key, one preimage and one address. -/
def swapperAnswer (pair : ReversePair) (key preimage address id invoice : String) (_ : Nat) : (q : Call) → q.Answer
  | .getReverseSwapPairs => .ok (some pair)
  | .getChainPair => .ok none
  | .getBolt12Params => .ok (0 : Nat)
  | .getNodes => .ok none
  | .generateKeypair => key
  | .newPreimage => preimage
  | .generateEntropy => ("entropy" : String)
  | .nextUnusedAddress => .ok address
  | .createReceiveSwap _ => .ok { id, invoice := some invoice, lockupAddress := "lockup", timeoutBlockHeight := 100 }
  | .checkForMrh _ => .ok (some (address, 0))
  | .createChainSwap _ => .error .pairsNotFound
  | .createBolt12Offer _ => .ok ()
  | .trackSwapId _ => .ok ()
  | .trackOffer _ _ => .ok ()

def invoiceRequest : ReceivePaymentRequest where
  prepareResponse := { paymentMethod := .lightning, amount := some (.bitcoin 2000), feesSat := 10 }

def handedInvoice : ReceivePaymentResponse where
  destination := "invoice"
  liquidExpirationBlockheight := some 100

/-- The empty database is one that was written. -/
theorem written_empty : ({} : Db).Written := by
  refine ⟨?_, ?_⟩
  · intro k r h
    cases h
  · intro k r h
    cases h

/-- An invoice is handed out for its request, and backed. -/
theorem handed_backed_invoice : ∃ c : Pool World Call Call.Answer PaymentError Request,
    c.state.handed = [(invoiceRequest, handedInvoice)] ∧ c.state.Backed regtest := by
  have hrun := @runs_spawn_any _ _ _ _ _ (receiving regtest) (fun _ _ _ => trivial)
    (swapperAnswer regtestPair "key" "preimage" "ours" "s" "invoice")
    (.receive invoiceRequest) ((Request.receive invoiceRequest).task regtest) {} rfl
  exact ⟨_, by decide +kernel, handed_backed regtest written_empty rfl rfl rfl hrun⟩

end BreezLiquid.Creation
