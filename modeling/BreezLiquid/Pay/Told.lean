/-
# BreezLiquid.Pay.Told — what a payment comes to, read off what it met.

`send_payment` returns the payment that the events of its swap tell of: the first that ends the wait, or at the timeout
the last that is pending. Without one the swap is timed out; where the states that are found refuse this, the payment is
the one that is stored. With a name to be stored for it, the payment is read again. All of this is a reading of the
states that were found and the answers that were received, and an execution returns a payment exactly where there is one
to be read.
-/
import BreezLiquid.Pay.ApprovedLockup
import BreezLiquid.Pay.SendPayment

namespace BreezLiquid.Pay

open Interleaving Task

/-! ## Reading -/

def eventsOf : Meeting → Option (List SdkEvent)
  | .got .paymentEvents events => some events
  | _ => none

/-- What is met after the events. -/
def afterEvents (met : List Meeting) : List Meeting := (met.dropWhile fun m => (eventsOf m).isNone).tail

def isPairs : Meeting → Bool
  | .got .getSubmarinePairs _ => true
  | _ => false

/-- What is met from fetching the pairs on: the first state found there is the one the swap is looked up in. -/
def fromPairs (met : List Meeting) : List Meeting := met.dropWhile fun m => !isPairs m

def bolt12InfoOf : Meeting → Option String
  | .got (.getBolt12Info ..) (.ok invoice) => some invoice
  | _ => none

/-- The invoice that is paid; the one that was fetched for an offer. -/
def invoiceOf (destination : SendDestination) (met : List Meeting) : Option String :=
  match destination with
  | .liquidAddress .. => none
  | .bolt11 invoice _ => some invoice
  | .bolt12 .. => met.findSome? bolt12InfoOf

/-- The transaction of a payment to an address was accepted under this id. -/
def paidOf : Meeting → Option TxId
  | .got (.liquidBroadcast (.payment _) _) (.ok txId) => some txId
  | _ => none

section Reading

variable (sdk : Sdk)

/-- The swap that is waited for, and whether its lockup is accepted unconfirmed: that of the invoice, or else the one that
was created, by its create response. -/
def waitedFor (invoice : String) (met : List Meeting) : Option (SwapId × Bool) :=
  (met.findSome? worldOf).bind fun w =>
    match w.db.fetchSendSwapByInvoice invoice with
    | some swap => (sdk.bz.submarineResponse swap.createResponseJson).map fun r => (swap.id, r.acceptZeroConf)
    | none => (met.findSome? createdSendSwapOf).bind fun response =>
        (sdk.bz.submarineResponse (sdk.submarineResponseJson response.toInternalCreateSubmarineResponse)).map
          fun r => (response.id, r.acceptZeroConf)

/-- The payment of an event that ends the wait. -/
def endingOf (swapId : SwapId) (acceptZeroConf : Bool) : SdkEvent → Option Payment
  | .paymentSucceeded payment => if payment.details.getSwapId = some swapId then some payment else none
  | .paymentPending payment =>
      if acceptZeroConf = true ∧ payment.details.getSwapId = some swapId then some payment else none
  | .other => none

def pendingOf (swapId : SwapId) : SdkEvent → Option Payment
  | .paymentPending payment => if payment.details.getSwapId = some swapId then some payment else none
  | _ => none

/-- The payment that events tell of: the first that ends the wait, or else the last that is pending. -/
def toldOf (swapId : SwapId) (acceptZeroConf : Bool) (events : List SdkEvent) : Option Payment :=
  (events.findSome? (endingOf swapId acceptZeroConf)).or (events.reverse.findSome? (pendingOf swapId))

/-- The wait comes to the payment: the events tell of it, or they tell of none, the swap cannot be timed out in the states
that are found then, and the payment is stored in the next. -/
def WaitsFor (swapId : SwapId) (acceptZeroConf : Bool) (events : List SdkEvent) (after : List Meeting)
    (payment : Payment) : Prop :=
  toldOf swapId acceptZeroConf events = some payment ∨
    toldOf swapId acceptZeroConf events = none ∧ ∃ m w rest err, after = m ++ .found w :: rest ∧
      (Send.updateSwapInfo sdk swapId .timedOut none none none).Executes m (.error err) ∧
      sdk.getPayment w.db swapId = some payment

/-- What was met comes to the payment, for an invoice. -/
def LearnsBySwap (invoice : String) (met : List Meeting) (payment : Payment) : Prop :=
  ∃ swapId acceptZeroConf events, waitedFor sdk invoice (fromPairs met) = some (swapId, acceptZeroConf) ∧
    met.findSome? eventsOf = some events ∧ WaitsFor sdk swapId acceptZeroConf events (afterEvents met) payment

/-- A payment to an address that was broadcast. -/
def directPayment (addressData : LiquidAddressData) (feesSat : Nat) (txId : TxId) : Payment where
  txId := some txId
  destination := some ((sdk.liquidUri addressData).getD addressData.address)
  feesSat
  details := .liquid (addressData.message.getD "Liquid transfer")

/-- What was met comes to the payment, before its details are stored. -/
def Learns (prepareResponse : PrepareSendResponse) (met : List Meeting) (payment : Payment) : Prop :=
  match prepareResponse.destination with
  | .liquidAddress addressData _ => ∃ txId, met.findSome? paidOf = some txId ∧
      payment = directPayment sdk addressData (prepareResponse.feesSat.getD 0) txId
  | .bolt11 .. | .bolt12 .. => ∃ invoice ∈ invoiceOf prepareResponse.destination met,
      LearnsBySwap sdk invoice met payment

def bip353AddressOf : SendDestination → Option String
  | .liquidAddress _ bip353Address => bip353Address
  | .bolt11 _ bip353Address => bip353Address
  | .bolt12 _ _ bip353Address => bip353Address

/-- A payment after its details were stored: with a name to be stored for it, the one of its transaction in the last state
that was found, if there is one. -/
def withDetails (bip353Address : Option String) (payment : Payment) (met : List Meeting) : Payment :=
  if bip353Address.isSome then
    match payment.txId, payment.destination with
    | some txId, some _ => ((met.getLast?.bind worldOf).bind fun w => sdk.getPayment w.db txId).getD payment
    | _, _ => payment
  else payment

end Reading

/-! ## The events -/

/-- The wait, as a search: the first event that ends it, or else the last one that tells of a pending
payment. By induction on the events. -/
theorem awaitPayment_eq (swapId : SwapId) (acceptZeroConf : Bool) (events : List SdkEvent)
    (maybePayment : Option Payment) :
    awaitPayment swapId acceptZeroConf maybePayment events =
      (events.findSome? (endingOf swapId acceptZeroConf)).or
        ((events.reverse.findSome? (pendingOf swapId)).or maybePayment) := by
  induction events generalizing maybePayment with
  | nil => rfl
  | cons event events ih =>
      have hlast : ∀ p, ((event :: events).reverse.findSome? (pendingOf swapId)).or p =
          (events.reverse.findSome? (pendingOf swapId)).or ((pendingOf swapId event).or p) := by
        intro p
        rw [List.reverse_cons, List.findSome?_append, Option.or_assoc]
        congr 1
        rw [List.findSome?_cons]
        cases pendingOf swapId event <;> rfl
      rw [hlast, List.findSome?_cons]
      cases event with
      | other => exact ih maybePayment
      | paymentSucceeded payment =>
          unfold awaitPayment
          by_cases hswap : payment.details.getSwapId = some swapId
          · simp [endingOf, hswap]
          · simp [endingOf, pendingOf, hswap, ih]
      | paymentPending payment =>
          unfold awaitPayment
          by_cases hswap : payment.details.getSwapId = some swapId
          · cases acceptZeroConf with
            | true => simp [endingOf, hswap]
            | false => simp [endingOf, pendingOf, hswap, ih]
          · simp [endingOf, pendingOf, hswap, ih]

theorem awaitPayment_eq_toldOf (swapId : SwapId) (acceptZeroConf : Bool) (events : List SdkEvent) :
    awaitPayment swapId acceptZeroConf none events = toldOf swapId acceptZeroConf events := by
  rw [awaitPayment_eq, Option.or_none]
  rfl

/-! ## The wait -/

section Wait

variable {sdk : Sdk}

/-- The wait returns a payment exactly where it comes to one, whatever is met later. -/
theorem executes_wait {swap : SendSwap} {acceptZeroConf : Bool} {met : List Meeting} {x : Except Err Payment}
    (h : (waitForPaymentWithTimeout sdk (.send swap) acceptZeroConf).Executes met x) :
    ∃ events after, met = .got .paymentEvents events :: after ∧
      ∀ later payment, x = .ok payment ↔ WaitsFor sdk swap.id acceptZeroConf events (after ++ later) payment := by
  obtain ⟨events, after, rfl, h⟩ := h
  refine ⟨events, after, rfl, ?_⟩
  intro later payment
  unfold WaitsFor
  dsimp only at h
  rw [Task.done_ok_bind, show (Swap.send swap).id = swap.id from rfl, awaitPayment_eq_toldOf] at h
  cases htold : toldOf swap.id acceptZeroConf events with
  | some told =>
      rw [htold] at h
      rw [h.2]
      constructor
      · intro heq
        cases heq
        exact .inl rfl
      · rintro (heq | ⟨heq, -⟩)
        · cases heq
          rfl
        · cases heq
  | none =>
      rw [htold] at h
      have hnone : ∀ {P : Prop}, ((none : Option Payment) = some payment ∨ none = (none : Option Payment) ∧ P) ↔ P := by
        intro P
        simp
      rw [hnone]
      rcases h.of_bind with ⟨e, htimeOut, -⟩ | ⟨res, m, m', rfl, htimeOut, hafter⟩
      · obtain ⟨y, hy, -⟩ := htimeOut.of_attempt
        cases hy
      obtain ⟨y, hy, htimeOut⟩ := htimeOut.of_attempt
      cases hy
      cases res with
      | ok _ =>
          -- the swap was timed out, so no part of what was met refuses it
          obtain ⟨rfl, rfl⟩ := hafter
          refine iff_of_false (fun h => by cases h) ?_
          rintro ⟨m', w, rest, err, hsplit, hrefused, -⟩
          rw [List.append_nil] at hsplit
          cases (Executes.append_unique htimeOut hrefused hsplit).2
      | error err =>
          obtain ⟨w, rest, rfl, rfl, rfl⟩ := hafter
          constructor
          · intro hstored
            refine ⟨m, w, later, err, by simp, htimeOut, okOr_eq_ok.mp hstored⟩
          · rintro ⟨m', w', rest, err', hsplit, hrefused, hstored⟩
            rw [List.append_assoc] at hsplit
            obtain ⟨rfl, -⟩ := Executes.append_unique htimeOut hrefused hsplit
            cases List.append_cancel_left hsplit
            exact okOr_eq_ok.mpr hstored

end Wait

/-! ## Up to the wait -/

section Parts

variable {sdk : Sdk}

/-- The one place where the events are heard splits what is met. -/
theorem afterEvents_append {pre : List Meeting} (events : List SdkEvent) (after : List Meeting)
    (h : ∀ m ∈ pre, eventsOf m = none) :
    (pre ++ .got .paymentEvents events :: after).findSome? eventsOf = some events ∧
      afterEvents (pre ++ .got .paymentEvents events :: after) = after := by
  constructor
  · rw [List.findSome?_append, List.findSome?_eq_none_iff.mpr h]
    rfl
  · unfold afterEvents
    rw [List.dropWhile_append_of_pos fun m hm => by rw [h m hm]; rfl]
    rfl

/-- Without events nothing is learnt. -/
theorem not_learnsBySwap {invoice : String} {met : List Meeting} (h : ∀ m ∈ met, eventsOf m = none)
    (payment : Payment) : ¬ LearnsBySwap sdk invoice met payment := by
  rintro ⟨swapId, acceptZeroConf, events, -, hevents, -⟩
  rw [List.findSome?_eq_none_iff.mpr h] at hevents
  cases hevents

/-- A part that does not wait hears no events. -/
theorem eventsOf_of_asks {α : Type} {t : Async α} (h : Asks (· ≠ .paymentEvents) t) {met : List Meeting}
    {x : Except Err α} (hexec : t.Executes met x) : ∀ m ∈ met, eventsOf m = none := by
  intro m hmem
  cases m with
  | found w => rfl
  | got q a =>
      cases q with
      | paymentEvents => exact absurd rfl (h.executes hexec hmem)
      | _ => rfl

/-- The swap that is locked up for is the one that is waited for. -/
theorem waitedFor_of_locksFor {invoice : String} {met : List Meeting} {swap : SendSwap}
    {createResponse : InternalCreateSubmarineResponse} (h : LocksFor sdk invoice met swap)
    (hresponse : swap.getBoltzCreateResponse sdk.bz = .ok createResponse) :
    waitedFor sdk invoice met = some (swap.id, createResponse.acceptZeroConf) := by
  unfold SendSwap.getBoltzCreateResponse at hresponse
  rw [okOr_eq_ok] at hresponse
  obtain ⟨w, hworld, hswap⟩ := h
  unfold waitedFor
  rw [hworld, Option.bind_some]
  rcases hswap with hfound | ⟨hnone, response, hcreated, hjson, hid⟩
  · rw [hfound]
    dsimp only
    rw [hresponse]
    rfl
  · rw [hnone]
    dsimp only
    rw [hcreated, Option.bind_some, ← hjson, hresponse, ← hid]
    rfl

/-- What was locked up for the invoice is decided by what came before. -/
theorem LocksFor.append {invoice : String} {met : List Meeting} {swap : SendSwap} (h : LocksFor sdk invoice met swap)
    (later : List Meeting) : LocksFor sdk invoice (met ++ later) swap := by
  obtain ⟨w, hworld, hswap⟩ := h
  refine ⟨w, by rw [List.findSome?_append, hworld]; rfl, ?_⟩
  refine hswap.imp_right fun ⟨hnone, response, hcreated, hrest⟩ => ⟨hnone, response, ?_, hrest⟩
  rw [List.findSome?_append, hcreated]
  rfl

theorem asks_tryLockup {swap : SendSwap} {response : InternalCreateSubmarineResponse} :
    Asks (· ≠ .paymentEvents) (Send.tryLockup sdk swap response) :=
  Send.within_tryLockup (fun h => by cases h) (fun _ => trivial) (fun _ h => by cases h) (fun _ => trivial)
    (fun _ => trivial) fun _ => asks_updateSwapInfo ..

/-- A payment by a swap returns what it learns, whatever was met before it and is met after it. -/
theorem sendPaymentViaSwap_ok_iff {req : SendPaymentViaSwapRequest} {met : List Meeting} {x : Except Err Payment}
    (hexec : (sendPaymentViaSwap sdk req).Executes met x) {earlier later : List Meeting}
    (hpairs : ∀ m ∈ earlier, isPairs m = false) (hearlier : ∀ m ∈ earlier, eventsOf m = none)
    (hlater : ∀ m ∈ later, eventsOf m = none) (payment : Payment) :
    x = .ok payment ↔ LearnsBySwap sdk req.invoice (earlier ++ (met ++ later)) payment := by
  obtain ⟨pre, rest, hmet, hpre, hlockup⟩ := executes_sendPaymentViaSwap hexec
  have hpreEvents : ∀ m ∈ pre, eventsOf m = none := by
    intro m hmem
    cases m with
    | found w => rfl
    | got q a =>
        cases q with
        | paymentEvents => exact absurd rfl (hpre _ _ hmem).2
        | _ => rfl
  -- where the task stops before the wait there are no events
  have hstopped : ∀ {m : List Meeting}, rest = m → (∀ m' ∈ m, eventsOf m' = none) → (∃ e, x = .error e) →
      (x = .ok payment ↔ LearnsBySwap sdk req.invoice (earlier ++ (met ++ later)) payment) := by
    rintro m rfl hm ⟨e, rfl⟩
    refine iff_of_false (fun h => by cases h) (not_learnsBySwap ?_ payment)
    rw [hmet]
    intro m' hmem
    rcases List.mem_append.mp hmem with hmem | hmem
    · exact hearlier m' hmem
    · rcases List.mem_append.mp hmem with hmem | hmem
      · rcases List.mem_append.mp hmem with hmem | hmem
        · exact hpreEvents m' hmem
        · exact hm m' hmem
      · exact hlater m' hmem
  rcases hlockup with ⟨hnil, herror⟩ | ⟨pair, feeSat, swap, -, -, -, hlocks, hwait⟩
  · exact hstopped hnil (fun m h => absurd h List.not_mem_nil) herror
  unfold lockupAndWait at hwait
  cases hresponse : swap.getBoltzCreateResponse sdk.bz with
  | error err =>
      rw [hresponse] at hwait
      exact hstopped hwait.1 (fun m h => absurd h List.not_mem_nil) ⟨err, hwait.2⟩
  | ok createResponse =>
      rw [hresponse, Task.bind_eq, Task.ofExcept_ok_bind] at hwait
      rcases hwait.of_bind with ⟨e, hlockup, hx⟩ | ⟨tx, m, m', hrest, hlockup, hwait⟩
      · exact hstopped rfl (eventsOf_of_asks asks_tryLockup hlockup) ⟨e, hx⟩
      obtain ⟨events, after, rfl, hwaits⟩ := executes_wait hwait
      rw [hwaits later payment]
      -- the whole of what is met, split at the events
      have hsplit : earlier ++ (met ++ later) =
          earlier ++ (pre ++ m) ++ .got .paymentEvents events :: (after ++ later) := by
        rw [hmet, hrest]
        simp only [List.append_assoc, List.cons_append]
      have hbefore : ∀ m' ∈ earlier ++ (pre ++ m), eventsOf m' = none := by
        intro m' hmem
        rcases List.mem_append.mp hmem with hmem | hmem
        · exact hearlier m' hmem
        · rcases List.mem_append.mp hmem with hmem | hmem
          · exact hpreEvents m' hmem
          · exact eventsOf_of_asks asks_tryLockup hlockup m' hmem
      obtain ⟨hevents, hafter⟩ := afterEvents_append events (after ++ later) hbefore
      have hfrom : fromPairs (earlier ++ (met ++ later)) = met ++ later := by
        obtain ⟨answer, rest', hmet', -⟩ := hexec
        unfold fromPairs
        rw [List.dropWhile_append_of_pos fun m hm => by rw [hpairs m hm]; rfl, hmet']
        rfl
      have hwaited : waitedFor sdk req.invoice (fromPairs (earlier ++ (met ++ later))) =
          some (swap.id, createResponse.acceptZeroConf) := by
        rw [hfrom]
        exact waitedFor_of_locksFor (hlocks.append later) hresponse
      constructor
      · intro h
        refine ⟨swap.id, createResponse.acceptZeroConf, events, hwaited, ?_, ?_⟩
        · rw [hsplit]
          exact hevents
        · rw [hsplit, hafter]
          exact h
      · rintro ⟨swapId, acceptZeroConf, events', hwaited', hevents', h⟩
        cases hwaited.symm.trans hwaited'
        rw [hsplit, hevents] at hevents'
        cases hevents'
        rw [hsplit, hafter] at h
        exact h

/-! ## Payments of an invoice -/

/-- Queries before a payment gets to its swap. -/
def Early (q : Call) : Prop := q ≠ .getSubmarinePairs ∧ q ≠ .paymentEvents

/-- Before the pairs are fetched nothing is decided. -/
theorem early_of_asks {α : Type} {t : Async α} (h : Asks Early t) {met : List Meeting} {x : Except Err α}
    (hexec : t.Executes met x) : ∀ m ∈ met, isPairs m = false ∧ eventsOf m = none := by
  intro m hmem
  cases m with
  | found w => exact ⟨rfl, rfl⟩
  | got q a =>
      have hq := h.executes hexec hmem
      cases q with
      | getSubmarinePairs => exact absurd rfl hq.1
      | paymentEvents => exact absurd rfl hq.2
      | _ => exact ⟨rfl, rfl⟩

/-- The task stops, or goes on to a payment of the invoice by a swap. -/
def Reaches (sdk : Sdk) (invoice : String) (t : Async Payment) : Prop :=
  ∀ met x, t.Executes met x → ∃ pre rest, met = pre ++ rest ∧
    (∀ m ∈ pre, isPairs m = false ∧ eventsOf m = none) ∧
    ((rest = [] ∧ ∃ e, x = .error e) ∨ ∃ req, req.invoice = invoice ∧ (sendPaymentViaSwap sdk req).Executes rest x)

theorem Reaches.throw (invoice : String) (e : Err) : Reaches sdk invoice (Task.throw e) := by
  rintro met x ⟨rfl, rfl⟩
  exact ⟨[], [], rfl, fun m h => absurd h List.not_mem_nil, .inl ⟨rfl, e, rfl⟩⟩

/-- A payment by swap is what all the others come to ... -/
theorem Reaches.swap (req : SendPaymentViaSwapRequest) : Reaches sdk req.invoice (sendPaymentViaSwap sdk req) :=
  fun met _ h => ⟨[], met, rfl, fun _ h => absurd h List.not_mem_nil, .inr ⟨req, rfl, h⟩⟩

/-- ... after parts that decide nothing. -/
theorem Reaches.bind {invoice : String} {α : Type} {t : Async α} {g : α → Async Payment} (ht : Asks Early t)
    (hg : ∀ a, Reaches sdk invoice (g a)) : Reaches sdk invoice (t.bind g) := by
  intro met x h
  rcases h.of_bind with ⟨e, hfirst, rfl⟩ | ⟨a, m, m', rfl, hfirst, hrest⟩
  · exact ⟨met, [], (List.append_nil _).symm, early_of_asks ht hfirst, .inl ⟨rfl, e, rfl⟩⟩
  · obtain ⟨pre, rest, rfl, hpre, hreaches⟩ := hg a m' x hrest
    refine ⟨m ++ pre, rest, (List.append_assoc ..).symm, fun m'' hmem => ?_, hreaches⟩
    rcases List.mem_append.mp hmem with hmem | hmem
    · exact early_of_asks ht hfirst m'' hmem
    · exact hpre m'' hmem

/-- Paying a BOLT11 invoice comes to a swap for it, or to an error ... -/
theorem reaches_payBolt11Invoice (invoice : String) (feesSat : Nat) :
    Reaches sdk invoice (payBolt11Invoice sdk invoice feesSat) := by
  have hself : Asks Early (ensureSendIsNotSelfTransfer invoice) := by
    refine Task.Within.bind (asks_fetch _) fun found => ?_
    split
    · exact Task.within_done _
    · exact Task.within_done _
  have hvalid : Asks Early (validateBolt11Invoice sdk invoice) := by
    refine Task.Within.bind (Task.within_done _) fun bolt11 => ?_
    split
    · refine Task.Within.bind (Task.within_reads trivial _) fun now => ?_
      split
      · exact Task.within_done _
      · exact Task.within_done _
    · exact Task.within_done _
  refine Reaches.bind hself fun _ => Reaches.bind hvalid fun bolt11 => ?_
  refine Reaches.bind (Task.within_done _) fun amountMsat => ?_
  refine Reaches.bind (Task.within_askOk (q := Call.getWalletInfo) ⟨(fun h => by cases h), (fun h => by cases h)⟩ rfl)
    fun walletInfo => ?_
  split
  · exact Reaches.throw invoice _
  · exact Reaches.swap _

/-- ... and paying an offer to one for the invoice that was fetched. -/
theorem reaches_payBolt12Invoice (offer : LNOffer) (amountSat : Nat) (bolt12Info : String) (feesSat : Nat) :
    Reaches sdk bolt12Info (payBolt12Invoice sdk offer amountSat bolt12Info feesSat) := by
  refine Reaches.bind (Task.within_done _) fun invoice => ?_
  refine Reaches.bind (Task.within_askOk (q := Call.getWalletInfo) ⟨(fun h => by cases h), (fun h => by cases h)⟩ rfl)
    fun walletInfo => ?_
  split
  · exact Reaches.throw bolt12Info _
  · exact Reaches.swap _

/-- So what the caller is told is what the swap learned. -/
theorem Reaches.ok_iff {invoice : String} {t : Async Payment} (h : Reaches sdk invoice t) {met : List Meeting}
    {x : Except Err Payment} (hexec : t.Executes met x) (earlier : List Meeting) {later : List Meeting}
    (hearlier : ∀ m ∈ earlier, isPairs m = false ∧ eventsOf m = none) (hlater : ∀ m ∈ later, eventsOf m = none)
    (payment : Payment) : x = .ok payment ↔ LearnsBySwap sdk invoice (earlier ++ (met ++ later)) payment := by
  obtain ⟨pre, rest, rfl, hpre, hreaches⟩ := h met x hexec
  have hbefore : ∀ m ∈ earlier ++ pre, isPairs m = false ∧ eventsOf m = none := by
    intro m hmem
    rcases List.mem_append.mp hmem with hmem | hmem
    · exact hearlier m hmem
    · exact hpre m hmem
  have hsplit : earlier ++ (pre ++ rest ++ later) = earlier ++ pre ++ (rest ++ later) := by
    simp only [List.append_assoc]
  rw [hsplit]
  rcases hreaches with ⟨rfl, e, rfl⟩ | ⟨req, rfl, hswap⟩
  · refine iff_of_false (fun h => by cases h) (not_learnsBySwap (fun m hmem => ?_) payment)
    rcases List.mem_append.mp hmem with hmem | hmem
    · exact (hbefore m hmem).2
    · exact hlater m hmem
  · exact sendPaymentViaSwap_ok_iff hswap (fun m h => (hbefore m h).1) (fun m h => (hbefore m h).2) hlater payment

/-! ## Payments to an address -/

/-- The task returns a payment exactly when its transaction was accepted. -/
def PaysDirectly (sdk : Sdk) (addressData : LiquidAddressData) (feesSat : Nat) (t : Async Payment) : Prop :=
  ∀ met x, t.Executes met x → ∀ payment, x = .ok payment ↔
    ∃ txId, met.findSome? paidOf = some txId ∧ payment = directPayment sdk addressData feesSat txId

def BroadcastsNothing (q : Call) : Prop := ∀ purpose tx, q ≠ .liquidBroadcast purpose tx

/-- A part that broadcasts nothing pays nothing. -/
theorem paidOf_of_asks {α : Type} {t : Async α} (h : Asks BroadcastsNothing t) {met : List Meeting}
    {x : Except Err α} (hexec : t.Executes met x) : met.findSome? paidOf = none := by
  refine List.findSome?_eq_none_iff.mpr fun m hmem => ?_
  cases m with
  | found w => rfl
  | got q a =>
      cases q with
      | liquidBroadcast purpose tx => exact absurd rfl (h.executes hexec hmem _ _)
      | _ => rfl

theorem PaysDirectly.throw (addressData : LiquidAddressData) (feesSat : Nat) (e : Err) :
    PaysDirectly sdk addressData feesSat (Task.throw e) := by
  rintro met x ⟨rfl, rfl⟩ payment
  refine iff_of_false (fun h => by cases h) ?_
  rintro ⟨txId, h, -⟩
  cases h

/-- A payment on Liquid, after parts that broadcast nothing. -/
theorem PaysDirectly.bind {addressData : LiquidAddressData} {feesSat : Nat} {α : Type} {t : Async α}
    {g : α → Async Payment} (ht : Asks BroadcastsNothing t) (hg : ∀ a, PaysDirectly sdk addressData feesSat (g a)) :
    PaysDirectly sdk addressData feesSat (t.bind g) := by
  intro met x h payment
  rcases h.of_bind with ⟨e, hfirst, rfl⟩ | ⟨a, m, m', rfl, hfirst, hrest⟩
  · refine iff_of_false (fun h => by cases h) ?_
    rintro ⟨txId, hpaid, -⟩
    rw [paidOf_of_asks ht hfirst] at hpaid
    cases hpaid
  · rw [List.findSome?_append, paidOf_of_asks ht hfirst, Option.none_or]
    exact hg a m' x hrest payment

/-- The transaction is built, its fee is checked and it is broadcast. -/
theorem paysDirectly_payLiquidOnchain (addressData : LiquidAddressData) (receiverAmountSat feesSat : Nat) :
    PaysDirectly sdk addressData feesSat (payLiquidOnchain sdk addressData receiverAmountSat feesSat) := by
  refine PaysDirectly.bind (Task.within_askOk (q := Call.buildPaymentTx ..) (fun _ _ h => by cases h) rfl) fun tx => ?_
  split
  · exact PaysDirectly.throw addressData feesSat _
  · rintro met x ⟨answer, rest, rfl, h⟩ payment
    rcases answer with err | txId
    · obtain ⟨rfl, rfl⟩ := h
      refine iff_of_false (fun h => by cases h) ?_
      rintro ⟨txId, hpaid, -⟩
      cases hpaid
    · obtain ⟨w, rest', rfl, rfl, rfl⟩ := h
      constructor
      · intro heq
        cases heq
        exact ⟨txId, rfl, rfl⟩
      · rintro ⟨txId', hpaid, rfl⟩
        cases hpaid
        rfl

/-- Likewise for an address, once its data is complete. -/
theorem paysDirectly_sendToLiquidAddress (addressData : LiquidAddressData) (feesSat : Option Nat) :
    PaysDirectly sdk addressData (feesSat.getD 0) (sendToLiquidAddress sdk addressData feesSat) := by
  unfold sendToLiquidAddress
  refine PaysDirectly.bind (Task.within_done _) fun receiverAmountSat => ?_
  refine PaysDirectly.bind (Task.within_done _) fun toAsset => ?_
  split
  · refine PaysDirectly.bind (Task.within_askOk (q := Call.getWalletInfo) (fun _ _ h => by cases h) rfl)
      fun walletInfo => ?_
    refine PaysDirectly.bind (Task.within_done _) fun _ => ?_
    cases feesSat with
    | none => exact PaysDirectly.throw addressData 0 .insufficientFunds
    | some feesSat => exact paysDirectly_payLiquidOnchain addressData receiverAmountSat feesSat
  · exact PaysDirectly.throw addressData _ _

/-! ## Sending -/

/-- Storing details does not fail, and the payment is the one with its details. -/
theorem executes_insertPaymentDetails {bip353Address : Option String} {payment : Payment} {met : List Meeting}
    {x : Except Err Payment} (h : (insertPaymentDetails sdk none bip353Address payment).Executes met x)
    (earlier : List Meeting) :
    (∀ m ∈ met, eventsOf m = none ∧ paidOf m = none ∧ bolt12InfoOf m = none) ∧
      x = .ok (withDetails sdk bip353Address payment (earlier ++ met)) := by
  unfold insertPaymentDetails at h
  unfold withDetails
  cases bip353Address with
  | none =>
      rw [if_neg (by simp)] at h
      obtain ⟨rfl, rfl⟩ := h
      exact ⟨fun m hmem => absurd hmem List.not_mem_nil, rfl⟩
  | some bip353Address =>
      rw [if_pos (.inr rfl)] at h
      rw [if_pos Option.isSome_some]
      cases htxId : payment.txId with
      | none =>
          rw [htxId] at h
          obtain ⟨rfl, rfl⟩ := h
          exact ⟨fun m hmem => absurd hmem List.not_mem_nil, rfl⟩
      | some txId =>
          cases hdestination : payment.destination with
          | none =>
              rw [htxId, hdestination] at h
              obtain ⟨rfl, rfl⟩ := h
              exact ⟨fun m hmem => absurd hmem List.not_mem_nil, rfl⟩
          | some destination =>
              rw [htxId, hdestination] at h
              obtain ⟨w, rest, rfl, w', rest', rfl, rfl, rfl⟩ := h
              refine ⟨fun m hmem => ?_, ?_⟩
              · rcases List.mem_cons.mp hmem with rfl | hmem
                · exact ⟨rfl, rfl, rfl⟩
                · cases List.mem_singleton.mp hmem
                  exact ⟨rfl, rfl, rfl⟩
              · rw [List.getLast?_append]
                rfl

/-- `send_payment` returns a payment exactly where what was met comes to one, and this payment. -/
theorem sendPayment_ok_iff {prepareResponse : PrepareSendResponse} {met : List Meeting} {x : Except Err Payment}
    (hexec : (sendPayment sdk { prepareResponse }).Executes met x) (payment : Payment) :
    x = .ok payment ↔ ∃ base, Learns sdk prepareResponse met base ∧
      payment = withDetails sdk (bip353AddressOf prepareResponse.destination) base met := by
  -- a payment that is returned is stored with its details, which are met after it
  have hstored : ∀ {t : Async Payment} {bip353Address : Option String} {m : List Meeting} (earlier : List Meeting),
      (t.bind (insertPaymentDetails sdk none bip353Address)).Executes m x →
      ∃ m' later y, m = m' ++ later ∧ t.Executes m' y ∧
        (∀ m ∈ later, eventsOf m = none ∧ paidOf m = none ∧ bolt12InfoOf m = none) ∧
        (x = .ok payment ↔ ∃ base, y = .ok base ∧ payment = withDetails sdk bip353Address base (earlier ++ m)) := by
    intro t bip353Address m earlier h
    rcases h.of_bind with ⟨e, hfirst, rfl⟩ | ⟨base, m', later, rfl, hfirst, hdetails⟩
    · refine ⟨m, [], .error e, (List.append_nil _).symm, hfirst, fun _ hmem => absurd hmem List.not_mem_nil, ?_⟩
      refine iff_of_false (fun h => by cases h) ?_
      rintro ⟨base, h, -⟩
      cases h
    · obtain ⟨hlater, rfl⟩ := executes_insertPaymentDetails hdetails (earlier ++ m')
      refine ⟨m', later, .ok base, rfl, hfirst, hlater, ?_⟩
      rw [List.append_assoc]
      constructor
      · intro heq
        exact ⟨base, rfl, (Except.ok.inj heq).symm⟩
      · rintro ⟨base', hbase, rfl⟩
        cases hbase
        rfl
  obtain ⟨destination, amount, feesSat, disableMrh, paymentTimeoutSec⟩ := prepareResponse
  have hfees : ∀ {fees : Except Err Nat} {t : Nat → Async Payment}, ((Task.ofExcept fees).bind t).Executes met x →
      (met = [] ∧ ∃ e, x = .error e) ∨ ∃ feesSat, (t feesSat).Executes met x := by
    intro fees t h
    cases fees with
    | error err => exact .inl ⟨h.1, _, h.2⟩
    | ok feesSat => exact .inr ⟨feesSat, h⟩
  have hnothing : ∀ {invoice : String}, met = [] ∧ (∃ e, x = .error e) →
      (x = .ok payment ↔ ∃ base, LearnsBySwap sdk invoice met base ∧
        payment = withDetails sdk (bip353AddressOf destination) base met) := by
    rintro invoice ⟨rfl, e, rfl⟩
    refine iff_of_false (fun h => by cases h) ?_
    rintro ⟨base, hlearns, -⟩
    exact not_learnsBySwap (fun m hmem => absurd hmem List.not_mem_nil) base hlearns
  cases destination with
  | liquidAddress addressData bip353Address =>
      obtain ⟨m, later, y, rfl, hfirst, hlater, hiff⟩ := hstored [] hexec
      rw [hiff]
      refine exists_congr fun base => and_congr_left fun _ => ?_
      rw [paysDirectly_sendToLiquidAddress addressData feesSat m y hfirst base]
      show _ ↔ ∃ txId, (m ++ later).findSome? paidOf = some txId ∧ _
      rw [List.findSome?_append, List.findSome?_eq_none_iff.mpr fun m' h => (hlater m' h).2.1, Option.or_none]
  | bolt11 invoice bip353Address =>
      have hlearns : ∀ base, Learns sdk ⟨.bolt11 invoice bip353Address, amount, feesSat, disableMrh, paymentTimeoutSec⟩
          met base ↔ LearnsBySwap sdk invoice met base := by
        intro base
        show (∃ invoice', some invoice = some invoice' ∧ _) ↔ _
        simp
      simp only [hlearns]
      rcases hfees hexec with hstop | ⟨feesSat, hexec⟩
      · exact hnothing hstop
      · obtain ⟨m, later, y, rfl, hfirst, hlater, hiff⟩ := hstored [] hexec
        rw [hiff]
        refine exists_congr fun base => and_congr_left fun _ => ?_
        exact (reaches_payBolt11Invoice invoice feesSat).ok_iff hfirst []
          (fun _ h => absurd h List.not_mem_nil) (fun m h => (hlater m h).1) base
  | bolt12 offer receiverAmountSat bip353Address =>
      rcases hfees hexec with ⟨rfl, e, rfl⟩ | ⟨feesSat, answer, rest, rfl, hsend⟩
      · refine iff_of_false (fun h => by cases h) ?_
        rintro ⟨base, ⟨invoice, hinvoice, -⟩, -⟩
        cases hinvoice
      rcases answer with err | bolt12Info
      · obtain ⟨rfl, rfl⟩ := hsend
        refine iff_of_false (fun h => by cases h) ?_
        rintro ⟨base, ⟨invoice, hinvoice, -⟩, -⟩
        cases hinvoice
      -- the invoice is the one that was fetched first
      have hlearns : ∀ base, Learns sdk
          ⟨.bolt12 offer receiverAmountSat bip353Address, amount, some feesSat, disableMrh, paymentTimeoutSec⟩
          (.got (.getBolt12Info offer.offer receiverAmountSat none) (.ok bolt12Info) :: rest) base ↔
          LearnsBySwap sdk bolt12Info
            (.got (.getBolt12Info offer.offer receiverAmountSat none) (.ok bolt12Info) :: rest) base := by
        intro base
        show (∃ invoice', some bolt12Info = some invoice' ∧ _) ↔ _
        simp
      obtain ⟨m, later, y, rfl, hfirst, hlater, hiff⟩ :=
        hstored [.got (.getBolt12Info offer.offer receiverAmountSat none) (.ok bolt12Info)] hsend
      rw [hiff]
      refine exists_congr fun base => and_congr_left fun _ => ?_
      refine Iff.trans ?_ (hlearns base).symm
      refine (reaches_payBolt12Invoice offer receiverAmountSat bolt12Info feesSat).ok_iff hfirst
        [.got (.getBolt12Info offer.offer receiverAmountSat none) (.ok bolt12Info)]
        (fun m h => ?_) (fun m h => (hlater m h).1) base
      cases List.mem_singleton.mp h
      exact ⟨rfl, rfl⟩

end Parts

end BreezLiquid.Pay
