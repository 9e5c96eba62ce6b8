/-
# BreezLiquid.Nwc.PayInvoice — what a remote client is told about its payment.

`pay_invoice` prepares and sends a payment and answers with its preimage, or with the code `PaymentFailed`. Sending
returns as soon as an unconfirmed lockup is accepted, or at a timeout, with a payment that is still pending and has no
preimage yet. An execution is what the request met: the states it found and the answers it got, whatever others did in
between.

Whether the client is told the truth is decided by what was met alone. The preimage, if there is one, is in the events of
the swap or in the stored payment (`BreezLiquid.Pay.Told`). Without it the answer is `PaymentFailed`, and that is right
only where nothing of the request was taken by the network and no swap of the invoice was found that holds funds.
-/
import BreezLiquid.Nwc.Service
import BreezLiquid.Pay.Told

namespace BreezLiquid.Nwc

open Interleaving Task Pay
open Wrapping

/-! ## The handler -/

/-- The text of a `PaymentError`. -/
def paymentErrorText : Err → String
  | .generic err => "Generic error: " ++ err
  | err => err.text

def prepareRequest (req : PayInvoiceRequest) : PrepareSendRequest where
  destination := req.invoice
  amount := req.amount.map fun a => .bitcoin (a / 1000)
  disableMrh := some true
  paymentTimeoutSec := some 180

/-- The preimage and the fees of a payment. -/
def paymentResponse (payment : Payment) : Except Nip47Error PayInvoiceResponse :=
  match payment.details with
  | .lightning _ (some preimage) _ =>
      .ok { preimage, feesPaid := some (payment.feesSat * 1000 % 2 ^ 64) }
  | _ => .error { code := .paymentFailed, message := "Payment did not return any preimage" }

/-- `pay_invoice`; `prepared` is what parsing and estimating come to. -/
def payInvoice (sdk : Sdk) (isRunning : Bool)
    (prepared : PrepareSendRequest → Except Err (SendDestination × Option Nat)) (req : PayInvoiceRequest) :
    BreezLiquid.Async (Except Nip47Error PayInvoiceResponse) :=
  if isRunning then
    match prepareSendPayment prepared (prepareRequest req) with
    | .error err =>
        return .error { code := .paymentFailed, message := "Failed to prepare payment: " ++ paymentErrorText err }
    | .ok prepareResponse => do
        match ← (sendPayment sdk { prepareResponse }).attempt with
        | .error err =>
            return .error { code := .paymentFailed, message := "Failed to send payment: " ++ paymentErrorText err }
        | .ok payment => return paymentResponse payment
  else return .error { code := .internal, message := "Could not handle message: SDK is not running." }

/-! ## What the client should be told -/

/-- The payment by the swap is complete, or its lockup was sent, or is being sent, and no refund is known of: while a
refund is pending without a transaction, the lockup still holds the funds. -/
def HoldsFunds (row : SendSwap) : Prop :=
  row.state = .complete ∨
    (row.state = .pending ∨ row.state = .refundPending ∨ row.lockupTxId.isSome = true) ∧ row.refundTxId = none

/-- The lockup of the swap was refunded. -/
def Refunded (row : SendSwap) : Prop := row.state ≠ .complete ∧ row.refundTxId.isSome = true

/-- The network took a lockup or a direct payment of the request, whether or not its reply arrived. -/
def Sent : Meeting → Prop
  | .got (.liquidBroadcast (.lockup _) _) (.ok _) => True
  | .got (.liquidBroadcast (.lockup _) _) (.error (.replyLost _)) => True
  | .got (.liquidBroadcast (.payment _) _) (.ok _) => True
  | .got (.liquidBroadcast (.payment _) _) (.error (.replyLost _)) => True
  | _ => False

/-- The swap of the invoice was found so. -/
def Found (p : SendSwap → Prop) (invoice : Option String) (met : List Meeting) : Prop :=
  ∃ w text row, .found w ∈ met ∧ invoice = some text ∧ w.db.fetchSendSwapByInvoice text = some row ∧ p row

/-- Funds of the request are locked or spent, as far as it met: they were sent, or a swap of the invoice was found that
holds them, and no swap of it was found refunded. -/
def InProgress (invoice : Option String) (met : List Meeting) : Prop :=
  ((∃ m ∈ met, Sent m) ∨ Found HoldsFunds invoice met) ∧ ¬ Found Refunded invoice met

/-- The payment has the preimage. -/
def Carries (payment : Payment) (preimage : String) : Prop :=
  ∃ swapId description, payment.details = .lightning swapId (some preimage) description

/-- The preimage pays the invoice. -/
def PreimageOf (sdk : Sdk) (invoice : Option String) (preimage : String) : Prop :=
  ∃ text, invoice = some text ∧ sdk.verifyPaymentHash preimage text = true

/-- `PaymentFailed` is only told of a payment that is neither in progress nor complete, and a preimage told is that of
the invoice. -/
structure Truthful (sdk : Sdk) (invoice : Option String) (met : List Meeting)
    (x : Except Nip47Error PayInvoiceResponse) : Prop where
  failed : ∀ err, x = .error err → err.code = .paymentFailed → ¬ InProgress invoice met
  preimage : ∀ response, x = .ok response → PreimageOf sdk invoice response.preimage

theorem sent_of_broadcastOf {m : Meeting} {tx : LBtcTransaction} (h : broadcastOf m = some tx) : Sent m := by
  unfold broadcastOf at h
  split at h
  · trivial
  · trivial
  · cases h

/-! ## A payment is returned only after its funds were sent -/

section Sending

variable {sdk : Sdk}

theorem onlyAfter_tryLockup (swap : SendSwap) (createResponse : InternalCreateSubmarineResponse) :
    (Send.tryLockup sdk swap createResponse).OnlyAfter Sent := by
  unfold Send.tryLockup
  split
  · exact onlyAfter_throw _
  · refine OnlyAfter.bind_right _ fun lockupTx => ?_
    refine OnlyAfter.bind_right _ fun _ => ?_
    intro answer
    cases answer with
    | ok txId => exact .inl trivial
    | error err =>
        refine .inr ?_
        show ((write _).bind fun _ => Task.throw err).OnlyAfter Sent
        exact OnlyAfter.bind_right _ fun _ => onlyAfter_throw _

theorem onlyAfter_lockupAndWait (swap : SendSwap) : (lockupAndWait sdk swap).OnlyAfter Sent := by
  unfold lockupAndWait
  refine OnlyAfter.bind_right _ fun createResponse => ?_
  exact OnlyAfter.bind_left (onlyAfter_tryLockup swap createResponse) _

theorem onlyAfter_sendPaymentViaSwap (req : SendPaymentViaSwapRequest) :
    (sendPaymentViaSwap sdk req).OnlyAfter Sent := by
  unfold sendPaymentViaSwap
  refine OnlyAfter.bind_right _ fun lbtcPair => ?_
  refine OnlyAfter.bind_right _ fun lockupTxFeesSat => ?_
  split
  · refine OnlyAfter.bind_right _ fun found => ?_
    cases found with
    | some swap => exact OnlyAfter.bind_right _ fun swap => onlyAfter_lockupAndWait swap
    | none => exact OnlyAfter.bind_right _ fun swap => onlyAfter_lockupAndWait swap
  · exact onlyAfter_throw _

theorem onlyAfter_payBolt11Invoice (invoice : String) (feesSat : Nat) :
    (payBolt11Invoice sdk invoice feesSat).OnlyAfter Sent := by
  unfold payBolt11Invoice
  refine OnlyAfter.bind_right _ fun _ => ?_
  refine OnlyAfter.bind_right _ fun bolt11 => ?_
  refine OnlyAfter.bind_right _ fun amountMsat => ?_
  refine OnlyAfter.bind_right _ fun walletInfo => ?_
  split
  · exact onlyAfter_throw _
  · exact onlyAfter_sendPaymentViaSwap _

theorem onlyAfter_payBolt12Invoice (offer : LNOffer) (amountSat : Nat) (bolt12Info : String) (feesSat : Nat) :
    (payBolt12Invoice sdk offer amountSat bolt12Info feesSat).OnlyAfter Sent := by
  unfold payBolt12Invoice
  refine OnlyAfter.bind_right _ fun invoice => ?_
  refine OnlyAfter.bind_right _ fun walletInfo => ?_
  split
  · exact onlyAfter_throw _
  · exact onlyAfter_sendPaymentViaSwap _

theorem onlyAfter_payLiquidOnchain (addressData : LiquidAddressData) (receiverAmountSat feesSat : Nat) :
    (payLiquidOnchain sdk addressData receiverAmountSat feesSat).OnlyAfter Sent := by
  unfold payLiquidOnchain
  refine OnlyAfter.bind_right _ fun tx => ?_
  split
  · exact onlyAfter_throw _
  · intro answer
    cases answer with
    | ok txId => exact .inl trivial
    | error err => exact .inr ⟨err, rfl⟩

theorem onlyAfter_sendToLiquidAddress (addressData : LiquidAddressData) (feesSat : Option Nat) :
    (sendToLiquidAddress sdk addressData feesSat).OnlyAfter Sent := by
  unfold sendToLiquidAddress
  refine OnlyAfter.bind_right _ fun receiverAmountSat => ?_
  refine OnlyAfter.bind_right _ fun toAsset => ?_
  split
  · unfold payLiquid
    refine OnlyAfter.bind_right _ fun walletInfo => ?_
    refine OnlyAfter.bind_right _ fun _ => ?_
    exact OnlyAfter.bind_right _ fun feesSat => onlyAfter_payLiquidOnchain addressData receiverAmountSat feesSat
  · exact onlyAfter_throw _

theorem onlyAfter_sendPayment (req : SendPaymentRequest) : (sendPayment sdk req).OnlyAfter Sent := by
  unfold sendPayment
  dsimp only
  split
  · exact OnlyAfter.bind_left (onlyAfter_sendToLiquidAddress _ _) _
  · refine OnlyAfter.bind_right _ fun feesSat => ?_
    exact OnlyAfter.bind_left (onlyAfter_payBolt11Invoice _ _) _
  · refine OnlyAfter.bind_right _ fun feesSat => ?_
    refine OnlyAfter.bind_right _ fun bolt12Info => ?_
    exact OnlyAfter.bind_left (onlyAfter_payBolt12Invoice _ _ _ _) _

end Sending

/-! ## When the client is told the truth -/

/-- The invoice of a request. -/
def paidInvoice (prepared : PrepareSendRequest → Except Err (SendDestination × Option Nat))
    (req : PayInvoiceRequest) (met : List Meeting) : Option String :=
  match prepared (prepareRequest req) with
  | .ok (destination, _) => invoiceOf destination met
  | .error _ => none

/-- What was met tells the preimage: the payment that it comes to carries it. -/
def Tells (sdk : Sdk) (prepared : PrepareSendRequest → Except Err (SendDestination × Option Nat))
    (req : PayInvoiceRequest) (met : List Meeting) (preimage : String) : Prop :=
  ∃ prepareResponse base, prepareSendPayment prepared (prepareRequest req) = .ok prepareResponse ∧
    Learns sdk prepareResponse met base ∧
    Carries (withDetails sdk (bip353AddressOf prepareResponse.destination) base met) preimage

/-- Nothing of the request is held: the network took no transaction of it, and no swap of the invoice that was found holds
funds; or a swap of the invoice was found refunded. -/
def Spared (invoice : Option String) (met : List Meeting) : Prop :=
  ((∀ m ∈ met, ¬ Sent m) ∧
    ∀ w text row, .found w ∈ met → invoice = some text → w.db.fetchSendSwapByInvoice text = some row →
      ¬ HoldsFunds row) ∨
  Found Refunded invoice met

/-- A preimage that was met is that of the invoice, and one was met or nothing is held. -/
structure Reportable (sdk : Sdk) (prepared : PrepareSendRequest → Except Err (SendDestination × Option Nat))
    (req : PayInvoiceRequest) (met : List Meeting) : Prop where
  preimage : ∀ preimage, Tells sdk prepared req met preimage → PreimageOf sdk (paidInvoice prepared req met) preimage
  told : (∃ preimage, Tells sdk prepared req met preimage) ∨ Spared (paidInvoice prepared req met) met

theorem spared_iff {invoice : Option String} {met : List Meeting} : Spared invoice met ↔ ¬ InProgress invoice met := by
  unfold Spared InProgress
  constructor
  · rintro (⟨hunsent, hrows⟩ | hrefunded) ⟨hheld, hnot⟩
    · rcases hheld with ⟨m, hmem, hsent⟩ | ⟨w, text, row, hmem, htext, hrow, hholds⟩
      · exact hunsent m hmem hsent
      · exact hrows w text row hmem htext hrow hholds
    · exact hnot hrefunded
  · intro h
    by_cases hrefunded : Found Refunded invoice met
    · exact .inr hrefunded
    · refine .inl ⟨fun m hmem hsent => h ⟨.inl ⟨m, hmem, hsent⟩, hrefunded⟩, ?_⟩
      intro w text row hmem htext hrow hholds
      exact h ⟨.inr ⟨w, text, row, hmem, htext, hrow, hholds⟩, hrefunded⟩

section Execution

variable {sdk : Sdk} {isRunning : Bool}
  {prepared : PrepareSendRequest → Except Err (SendDestination × Option Nat)} {req : PayInvoiceRequest}
  {met : List Meeting} {x : Except Nip47Error PayInvoiceResponse}

theorem paymentResponse_of_carries {payment : Payment} {preimage : String} (h : Carries payment preimage) :
    ∃ feesPaid, paymentResponse payment = .ok { preimage, feesPaid } := by
  obtain ⟨swapId, description, hdetails⟩ := h
  unfold paymentResponse
  rw [hdetails]
  exact ⟨_, rfl⟩

theorem paymentResponse_of_not_carries {payment : Payment} (h : ¬ ∃ preimage, Carries payment preimage) :
    paymentResponse payment =
      .error { code := .paymentFailed, message := "Payment did not return any preimage" } := by
  unfold paymentResponse
  split
  · rename_i swapId preimage description hdetails
    exact absurd ⟨preimage, swapId, description, hdetails⟩ h
  · rfl

/-- What `pay_invoice` answers, by what became of the payment. -/
theorem executes_payInvoice (h : (payInvoice sdk isRunning prepared req).Executes met (.ok x)) :
    (met = [] ∧ ∃ err, x = .error err) ∨
    ∃ prepareResponse y, prepareSendPayment prepared (prepareRequest req) = .ok prepareResponse ∧
      (sendPayment sdk { prepareResponse }).Executes met y ∧
      ((∃ err message, y = .error err ∧ x = .error { code := .paymentFailed, message }) ∨
        ∃ payment, y = .ok payment ∧ x = paymentResponse payment) := by
  unfold payInvoice at h
  cases isRunning with
  | false => exact .inl ⟨h.1, _, Except.ok.inj h.2⟩
  | true =>
      rw [if_pos rfl] at h
      cases hprepare : prepareSendPayment prepared (prepareRequest req) with
      | error err =>
          rw [hprepare] at h
          exact .inl ⟨h.1, _, Except.ok.inj h.2⟩
      | ok prepareResponse =>
          rw [hprepare] at h
          rcases h.of_bind with ⟨e, -, hx⟩ | ⟨sent, m, m', rfl, hsend, hanswer⟩
          · cases hx
          obtain ⟨y, hy, hsend⟩ := hsend.of_attempt
          cases hy
          refine .inr ⟨prepareResponse, sent, rfl, ?_⟩
          cases sent with
          | error err =>
              obtain ⟨rfl, hx⟩ := hanswer
              rw [List.append_nil]
              exact ⟨hsend, .inl ⟨err, _, rfl, Except.ok.inj hx⟩⟩
          | ok payment =>
              obtain ⟨rfl, hx⟩ := hanswer
              rw [List.append_nil]
              exact ⟨hsend, .inr ⟨payment, rfl, Except.ok.inj hx⟩⟩

/-- The preimage that was met is the one of the payment that sending returns. -/
theorem tells_iff {prepareResponse : PrepareSendResponse} {y : Except Err Payment}
    (hprepare : prepareSendPayment prepared (prepareRequest req) = .ok prepareResponse)
    (hexec : (sendPayment sdk { prepareResponse }).Executes met y) (preimage : String) :
    Tells sdk prepared req met preimage ↔ ∃ payment, y = .ok payment ∧ Carries payment preimage := by
  constructor
  · rintro ⟨prepareResponse', base, hprepare', hlearns, hcarries⟩
    cases hprepare.symm.trans hprepare'
    exact ⟨_, (sendPayment_ok_iff hexec _).mpr ⟨base, hlearns, rfl⟩, hcarries⟩
  · rintro ⟨payment, rfl, hcarries⟩
    obtain ⟨base, hlearns, rfl⟩ := (sendPayment_ok_iff hexec payment).mp rfl
    exact ⟨prepareResponse, base, hprepare, hlearns, hcarries⟩

/-- Where nothing was met no preimage is told. -/
theorem not_tells_nil (preimage : String) : ¬ Tells sdk prepared req [] preimage := by
  rintro ⟨⟨destination, amount, feesSat, disableMrh, paymentTimeoutSec⟩, base, -, hlearns, -⟩
  cases destination with
  | liquidAddress addressData bip353Address =>
      obtain ⟨txId, hpaid, -⟩ := hlearns
      cases hpaid
  | bolt11 invoice bip353Address =>
      obtain ⟨invoice', -, hlearns⟩ := hlearns
      exact not_learnsBySwap (fun _ h => absurd h List.not_mem_nil) base hlearns
  | bolt12 offer receiverAmountSat bip353Address =>
      obtain ⟨invoice', -, hlearns⟩ := hlearns
      exact not_learnsBySwap (fun _ h => absurd h List.not_mem_nil) base hlearns

/-- An answer `PaymentFailed` is truthful exactly where nothing is held. -/
theorem truthful_failed_iff {message : String} :
    Truthful sdk (paidInvoice prepared req met) met (.error { code := .paymentFailed, message }) ↔
      Spared (paidInvoice prepared req met) met := by
  rw [spared_iff]
  constructor
  · intro h
    exact h.failed _ rfl rfl
  · intro h
    exact ⟨fun _ _ _ => h, nofun⟩

/-- For every request, whatever preparing and sending come to: the answer is truthful exactly if the states and answers
that were met tell the preimage of the invoice, or tell none while nothing of the request is held. -/
theorem payInvoice_truthful_iff (h : (payInvoice sdk isRunning prepared req).Executes met (.ok x)) :
    Truthful sdk (paidInvoice prepared req met) met x ↔ Reportable sdk prepared req met := by
  rcases executes_payInvoice h with ⟨rfl, err, rfl⟩ | ⟨prepareResponse, y, hprepare, hexec, hanswer⟩
  · have hspared : Spared (paidInvoice prepared req []) [] :=
      .inl ⟨fun _ h => absurd h List.not_mem_nil, fun _ _ _ h => absurd h List.not_mem_nil⟩
    refine iff_of_true ⟨fun _ _ _ => spared_iff.mp hspared, nofun⟩ ⟨?_, .inr hspared⟩
    intro preimage htells
    exact absurd htells (not_tells_nil preimage)
  have htells := tells_iff hprepare hexec
  rcases hanswer with ⟨err, message, rfl, rfl⟩ | ⟨payment, rfl, rfl⟩
  · -- sending failed, so no preimage was met
    have hnone : ∀ preimage, ¬ Tells sdk prepared req met preimage := by
      intro preimage h
      obtain ⟨payment, hpayment, -⟩ := (htells preimage).mp h
      cases hpayment
    rw [truthful_failed_iff]
    constructor
    · intro hspared
      exact ⟨fun preimage h => absurd h (hnone preimage), .inr hspared⟩
    · rintro ⟨-, ⟨preimage, h⟩ | hspared⟩
      · exact absurd h (hnone preimage)
      · exact hspared
  have hcarries : ∀ preimage, Tells sdk prepared req met preimage ↔ Carries payment preimage := by
    intro preimage
    rw [htells]
    constructor
    · rintro ⟨payment', heq, h⟩
      cases heq
      exact h
    · intro h
      exact ⟨payment, rfl, h⟩
  by_cases hsome : ∃ preimage, Carries payment preimage
  · obtain ⟨preimage, hpreimage⟩ := hsome
    obtain ⟨feesPaid, hresponse⟩ := paymentResponse_of_carries hpreimage
    rw [hresponse]
    constructor
    · intro htruthful
      refine ⟨?_, .inl ⟨preimage, (hcarries preimage).mpr hpreimage⟩⟩
      intro preimage' h
      obtain ⟨feesPaid', hresponse'⟩ := paymentResponse_of_carries ((hcarries preimage').mp h)
      exact htruthful.preimage _ (hresponse.symm.trans hresponse')
    · intro hreportable
      refine ⟨nofun, ?_⟩
      intro response hx
      cases hx
      exact hreportable.preimage preimage ((hcarries preimage).mpr hpreimage)
  · rw [paymentResponse_of_not_carries hsome, truthful_failed_iff]
    constructor
    · intro hspared
      refine ⟨?_, .inr hspared⟩
      intro preimage h
      exact absurd ⟨preimage, (hcarries preimage).mp h⟩ hsome
    · rintro ⟨-, ⟨preimage, h⟩ | hspared⟩
      · exact absurd ⟨preimage, (hcarries preimage).mp h⟩ hsome
      · exact hspared

/-- Where sending returns a payment without a preimage, its funds were sent: that it failed is told wrongly, unless a
refund was found. -/
theorem not_truthful_of_returned {prepareResponse : PrepareSendResponse} {payment : Payment} {message : String}
    (hexec : (sendPayment sdk { prepareResponse }).Executes met (.ok payment))
    (hrefunded : ¬ Found Refunded (paidInvoice prepared req met) met) :
    ¬ Truthful sdk (paidInvoice prepared req met) met (.error { code := .paymentFailed, message }) := by
  intro htruthful
  exact htruthful.failed _ rfl rfl ⟨.inl ((onlyAfter_sendPayment _).executes hexec), hrefunded⟩

end Execution

/-! ## A payment that is still pending -/

/-- A wallet that pays invoices of 1000 sat; the swapper accepts their lockups unconfirmed. -/
def zeroConfSdk : Sdk where
  bz := { BoltzClient.byAddress 0 with
    submarineResponse := fun _ => some { address := "address", expectedAmount := 1000, acceptZeroConf := true } }
  persister := { codec := .table fun _ => none }
  parseBolt11Invoice _ := .ok
    { network := "bitcoin", timestamp := 0, expiryTime := 3600, amountMsat := some 1000000, paymentHash := "hash",
      description := none }

def invoiceRequest : PayInvoiceRequest where
  invoice := "invoice"

/-- The request is prepared with a fee of five sat. -/
def preparedInvoice (req : PrepareSendRequest) : Except Err (SendDestination × Option Nat) :=
  .ok (.bolt11 req.destination none, some 5)

/-- The services, up to the event that tells of the payment. -/
def payAnswers (event : SdkEvent) : Nat → (q : BreezLiquid.Call) → q.Answer
  | _, .getWalletInfo => .ok { balanceSat := 10000 }
  | _, .paymentEvents => [event]
  | n, q => quoteAnswers 1000 n q

def payMeetings (event : SdkEvent) : List Meeting :=
  (payInvoice zeroConfSdk true preparedInvoice invoiceRequest).metAlone (BreezLiquid.World.effect zeroConfSdk)
    (payAnswers event) (0, {})

def payAnswer (event : SdkEvent) : Except Err (Except Nip47Error PayInvoiceResponse) :=
  ((payInvoice zeroConfSdk true preparedInvoice invoiceRequest).run (BreezLiquid.World.effect zeroConfSdk)
    (payAnswers event) (0, {})).1

/-- The payment by the swap, with the preimage that is known of it. -/
def swapPayment (preimage : Option String) : Payment where
  txId := some "lockup"
  feesSat := 5
  details := .lightning "s" preimage "Lightning payment"

/-- The answer for a payment that succeeded is truthful: the event tells the preimage of the invoice. -/
theorem payInvoice_truthful_succeeded :
    Truthful zeroConfSdk (paidInvoice preparedInvoice invoiceRequest
        (payMeetings (.paymentSucceeded (swapPayment (some "preimage")))))
      (payMeetings (.paymentSucceeded (swapPayment (some "preimage"))))
      (.ok { preimage := "preimage", feesPaid := some 5000 }) := by
  have hexec := Task.executes_alone (BreezLiquid.World.effect zeroConfSdk)
    (payAnswers (.paymentSucceeded (swapPayment (some "preimage"))))
    (payInvoice zeroConfSdk true preparedInvoice invoiceRequest) (0, {})
  have hanswer : payAnswer (.paymentSucceeded (swapPayment (some "preimage"))) =
      .ok (.ok { preimage := "preimage", feesPaid := some 5000 }) := by
    decide +kernel
  unfold payAnswer at hanswer
  rw [hanswer] at hexec
  refine (payInvoice_truthful_iff hexec).mpr ⟨?_, .inl ⟨"preimage", ?_⟩⟩
  · intro preimage _
    exact ⟨"invoice", rfl, rfl⟩
  · have hwaited : waitedFor zeroConfSdk "invoice"
        (fromPairs (payMeetings (.paymentSucceeded (swapPayment (some "preimage"))))) = some ("s", true) := by
      decide +kernel
    have hevents : (payMeetings (.paymentSucceeded (swapPayment (some "preimage")))).findSome? eventsOf =
        some [.paymentSucceeded (swapPayment (some "preimage"))] := by
      decide +kernel
    exact ⟨_, swapPayment (some "preimage"), rfl, ⟨"invoice", rfl, "s", true, _, hwaited, hevents, .inl rfl⟩,
      "s", "Lightning payment", rfl⟩

/-- The lockup is accepted, unconfirmed, and the request is answered `PaymentFailed`. -/
theorem payInvoice_failed_pending :
    payAnswer (.paymentPending (swapPayment none)) =
        .ok (.error { code := .paymentFailed, message := "Payment did not return any preimage" }) ∧
      InProgress (some "invoice") (payMeetings (.paymentPending (swapPayment none))) ∧
      ¬ Truthful zeroConfSdk (paidInvoice preparedInvoice invoiceRequest
          (payMeetings (.paymentPending (swapPayment none))))
        (payMeetings (.paymentPending (swapPayment none)))
        (.error { code := .paymentFailed, message := "Payment did not return any preimage" }) := by
  have hsent : ∃ m ∈ payMeetings (.paymentPending (swapPayment none)), Sent m := by
    have hbroadcast : ((payMeetings (.paymentPending (swapPayment none))).findSome? broadcastOf).isSome = true := by
      decide +kernel
    obtain ⟨tx, htx⟩ := Option.isSome_iff_exists.mp hbroadcast
    obtain ⟨m, hmem, hm⟩ := List.exists_of_findSome?_eq_some htx
    exact ⟨m, hmem, sent_of_broadcastOf hm⟩
  have hprogress : InProgress (some "invoice") (payMeetings (.paymentPending (swapPayment none))) := by
    -- no row of the invoice is ever seen with a refund
    have hrows : ((payMeetings (.paymentPending (swapPayment none))).filterMap worldOf).all fun w =>
        (w.db.fetchSendSwapByInvoice "invoice").all fun row => row.refundTxId.isNone := by
      decide +kernel
    refine ⟨.inl hsent, ?_⟩
    rintro ⟨w, text, row, hmem, htext, hrow, -, hrefunded⟩
    cases htext
    have hnone := List.all_eq_true.mp hrows w (List.mem_filterMap.mpr ⟨_, hmem, rfl⟩)
    rw [hrow, Option.all_some] at hnone
    rw [Option.isNone_iff_eq_none] at hnone
    rw [hnone] at hrefunded
    cases hrefunded
  refine ⟨by decide +kernel, hprogress, ?_⟩
  intro htruthful
  exact htruthful.failed _ rfl rfl hprogress

end BreezLiquid.Nwc
