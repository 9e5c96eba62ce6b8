/-
# BreezLiquid.Pay.ApprovedLockup — what is locked up against what was approved.

A payment fetches the fees again and compares their total with the approved one. What it locks up is the
amount of the swapper's create response, which is compared with nothing. An execution is what a task met: the
states it found and the answers it got, whatever others did in between.

`Locks met a` reads off an execution that a transaction of amount `a` was built and broadcast as a lockup. An execution
of a task is taken apart by `Task.Executes`: for each function of the payment there is a lemma `executes_…` about what
it met when it returned, and one `asks_…` about what it can have asked. The two together say that the amount comes from
the stored create response and from nowhere else.

The fees and the limits of a pair are fields of the library, so the condition is in terms of what the library reports.
-/
import BreezLiquid.Chain.LockupOnce
import BreezLiquid.Pay.Footprint
import BreezLiquid.Pay.LockupOnce

namespace BreezLiquid.Pay

open Interleaving Task Send
open Chain (Leaves)
open Wrapping

/-! ## What an execution tells -/

abbrev Meeting := Met World Call Call.Answer

/-- A transaction that was built, with its amount. -/
def builtOf : Meeting → Option (Nat × LBtcTransaction)
  | .got (.buildTxOrDrainTx _ amountSat) (.ok tx) => some (amountSat, tx)
  | _ => none

/-- A transaction that was broadcast as a lockup, whether or not the reply arrived. -/
def broadcastOf : Meeting → Option LBtcTransaction
  | .got (.liquidBroadcast (.lockup _) tx) (.ok _) => some tx
  | .got (.liquidBroadcast (.lockup _) tx) (.error (.replyLost _)) => some tx
  | _ => none

/-- A transaction of the amount was built and broadcast as a lockup. -/
def Locks (met : List Meeting) (amountSat : Nat) : Prop :=
  ∃ tx ∈ met.filterMap broadcastOf, (amountSat, tx) ∈ met.filterMap builtOf

/-- The fee of a transaction that was built for its fee. -/
def feeOf : Meeting → Option Nat
  | .got (.buildTx _) (.ok tx) => some tx.feesSat
  | .got (.buildDrainTx _) (.ok tx) => some tx.feesSat
  | _ => none

/-- The estimated lockup fee. -/
def estimatedFee (met : List Meeting) : Option Nat := met.findSome? feeOf

def worldOf : Meeting → Option World
  | .found w => some w
  | _ => none

def submarinePairOf : Meeting → Option SubmarinePair
  | .got .getSubmarinePairs (.ok pair) => pair
  | _ => none

def chainPairOf : Meeting → Option ChainPair
  | .got (.getChainPair _) (.ok pair) => pair
  | _ => none

def createdSendSwapOf : Meeting → Option CreateSubmarineResponse
  | .got (.createSendSwap _ _) (.ok response) => some response
  | _ => none

def createdChainSwapOf : Meeting → Option CreateChainResponse
  | .got (.createChainSwap _ _ _) (.ok response) => some response
  | _ => none

/-- The create response a payment locks up for: of the swap it found for its invoice, or else of the swap it
created. -/
def acceptedResponse (sdk : Sdk) (req : SendPaymentViaSwapRequest) (met : List Meeting) :
    Option InternalCreateSubmarineResponse :=
  (met.findSome? worldOf).bind fun w =>
    match w.db.fetchSendSwapByInvoice req.invoice with
    | some swap => (swap.getBoltzCreateResponse sdk.bz).toOption
    | none => (met.findSome? createdSendSwapOf).map fun r => r.toInternalCreateSubmarineResponse

/-- What a sum of fees loses as a `u64`. -/
def overflow (feesSat : Nat) : Nat := feesSat / 2 ^ 64 * 2 ^ 64

/-- Every lockup and its estimated fee are within the approved amount. -/
def WithinApproved (approvedSat : Nat) (payment lockup : List Meeting) : Prop :=
  ∀ feeSat ∈ estimatedFee payment, ∀ amountSat, Locks lockup amountSat → amountSat + feeSat ≤ approvedSat

theorem add_fee_le_iff {amountSat feeSat receiverSat boltzFeesSat : Nat} :
    amountSat + feeSat ≤ receiverSat + (boltzFeesSat + feeSat) % 2 ^ 64 ↔
      amountSat + overflow (boltzFeesSat + feeSat) ≤ receiverSat + boltzFeesSat := by
  have hsplit : (boltzFeesSat + feeSat) / 2 ^ 64 * 2 ^ 64 + (boltzFeesSat + feeSat) % 2 ^ 64 =
      boltzFeesSat + feeSat := by
    rw [Nat.mul_comm]
    exact Nat.div_add_mod _ _
  unfold overflow
  omega

theorem Locks.built {met : List Meeting} {amountSat : Nat} (h : Locks met amountSat) :
    ∃ address tx, .got (.buildTxOrDrainTx address amountSat) (.ok tx) ∈ met := by
  obtain ⟨tx, -, hbuilt⟩ := h
  obtain ⟨meeting, hmem, hbuilt⟩ := List.mem_filterMap.mp hbuilt
  unfold builtOf at hbuilt
  split at hbuilt
  · cases hbuilt
    exact ⟨_, _, hmem⟩
  · cases hbuilt

theorem Locks.broadcast {met : List Meeting} {amountSat : Nat} (h : Locks met amountSat) :
    ∃ swapId tx answer, .got (.liquidBroadcast (.lockup swapId) tx) answer ∈ met ∧
      ((∃ answered, answer = .ok answered) ∨ ∃ err, answer = .error (.replyLost err)) := by
  obtain ⟨tx, hbroadcast, -⟩ := h
  obtain ⟨meeting, hmem, hbroadcast⟩ := List.mem_filterMap.mp hbroadcast
  unfold broadcastOf at hbroadcast
  split at hbroadcast
  · exact ⟨_, _, _, hmem, .inl ⟨_, rfl⟩⟩
  · exact ⟨_, _, _, hmem, .inr ⟨_, rfl⟩⟩
  · cases hbroadcast

theorem not_locks_nil {amountSat : Nat} : ¬ Locks [] amountSat := by
  rintro ⟨tx, h, -⟩
  exact absurd h List.not_mem_nil

/-! ## Where a lockup is made -/

/-- Queries that build no lockup, or one of the amount. -/
def BuildsOnly (amountSat : Nat) (q : Call) : Prop :=
  ∀ address amountSat', q = .buildTxOrDrainTx address amountSat' → amountSat' = amountSat

/-- Queries of a payment before its lockup is built. -/
def Preparatory (q : Call) : Prop :=
  (∀ address amountSat, q ≠ .buildTxOrDrainTx address amountSat) ∧ q ≠ .paymentEvents

/-- All queries of the task are among `G`. -/
abbrev Asks (G : Call → Prop) {α : Type} (t : Async α) : Prop := t.Within (fun _ => True) G

section Send

variable {sdk : Sdk} {G : Call → Prop}

theorem asks_fetch {α : Type} (g : Db → α) : Asks G (fetch g) := within_fetch trivial g

theorem asks_updateSwapInfo (swapId : SwapId) (toState : PaymentState)
    (preimage lockupTxId refundTxId : Option String) :
    Asks G (updateSwapInfo sdk swapId toState preimage lockupTxId refundTxId) :=
  within_updateSwapInfo trivial trivial fun _ => trivial

/-- The lockup of a swap is of the amount of its create response. -/
theorem asks_lockupAndWait {swap : SendSwap} {response : InternalCreateSubmarineResponse}
    (hresponse : swap.getBoltzCreateResponse sdk.bz = .ok response) :
    Asks (BuildsOnly response.expectedAmount) (lockupAndWait sdk swap) := by
  unfold lockupAndWait
  rw [hresponse, Task.bind_eq, Task.ofExcept_ok_bind]
  refine Task.Within.bind ?_ fun _ => ?_
  · refine within_tryLockup ?_ (fun _ => trivial) (fun _ _ _ h => by cases h) (fun _ => trivial) (fun _ => trivial)
      fun _ => asks_updateSwapInfo ..
    rintro address amountSat' h
    cases h
    rfl
  · exact within_waitForPaymentWithTimeout trivial (fun _ _ h => by cases h) (asks_updateSwapInfo ..) _

theorem asks_validateSubmarinePairs (amountSat : Nat) :
    Asks Preparatory (validateSubmarinePairs amountSat) :=
  within_validateSubmarinePairs ⟨nofun, nofun⟩ amountSat

theorem asks_estimate (amountSat : Nat) : Asks Preparatory (estimateLockupTxOrDrainTxFee amountSat) :=
  within_estimateLockupTxOrDrainTxFee ⟨nofun, nofun⟩ ⟨nofun, nofun⟩

theorem asks_reuseSwap (swap : SendSwap) : Asks Preparatory (reuseSwap sdk swap) :=
  within_reuseSwap (asks_updateSwapInfo ..)

theorem asks_createSwap (req : SendPaymentViaSwapRequest) (lbtcPair : SubmarinePair) :
    Asks Preparatory (createSwap sdk req lbtcPair) :=
  within_createSwap trivial ⟨nofun, nofun⟩ (fun _ => ⟨nofun, nofun⟩) fun _ _ _ _ _ => trivial

/-! ### What the parts of a payment meet -/

theorem executes_validateSubmarinePairs {amountSat : Nat} {met : List Meeting} {pair : SubmarinePair}
    (h : (validateSubmarinePairs amountSat).Executes met (.ok pair)) :
    met = [.got .getSubmarinePairs (.ok (some pair))] := by
  obtain ⟨answer, rest, rfl, h⟩ := h
  rcases answer with err | _ | pair'
  · cases h.2
  · cases h.2
  · have hlimits : ((Task.ofExcept (pair'.limits.within amountSat)).bind fun _ =>
        .done (.ok pair')).Executes rest (.ok pair) := h
    rcases hlimits.of_bind with ⟨e, -, hx⟩ | ⟨_, m, m', rfl, hm, hm'⟩
    · cases hx
    · cases hm.1
      cases hm'.1
      cases hm'.2
      rfl

theorem executes_buildTx {amountSat : Nat} {met : List Meeting} {x : Except Err Nat}
    (h : (estimateLockupTxFee amountSat).Executes met x) :
    ∃ answer, met = [.got (.buildTx amountSat) answer] ∧ x = answer.map LBtcTransaction.feesSat := by
  obtain ⟨answer, rest, rfl, h⟩ := h
  rcases answer with err | tx
  · exact ⟨.error err, by rw [h.1], h.2⟩
  · exact ⟨.ok tx, by rw [h.1], h.2⟩

theorem executes_buildDrainTx {amountSat : Option Nat} {met : List Meeting} {x : Except Err Nat}
    (h : (estimateDrainTxFee amountSat).Executes met x) :
    ∃ answer, met = [.got (.buildDrainTx amountSat) answer] ∧ x = answer.map LBtcTransaction.feesSat := by
  obtain ⟨answer, rest, rfl, h⟩ := h
  rcases answer with err | tx
  · exact ⟨.error err, by rw [h.1], h.2⟩
  · exact ⟨.ok tx, by rw [h.1], h.2⟩

/-- The estimate is the fee of a transaction, or of draining the wallet. -/
theorem executes_estimate {amountSat feeSat : Nat} {met : List Meeting}
    (h : (estimateLockupTxOrDrainTxFee amountSat).Executes met (.ok feeSat)) :
    ∃ tx, tx.feesSat = feeSat ∧ (met = [.got (.buildTx amountSat) (.ok tx)] ∨
      met = [.got (.buildTx amountSat) (.error .insufficientFunds),
        .got (.buildDrainTx (some amountSat)) (.ok tx)]) := by
  rcases Executes.of_bind h with ⟨e, -, hx⟩ | ⟨res, m, m', rfl, hm, hm'⟩
  · cases hx
  · obtain ⟨res', hres, hm⟩ := hm.of_attempt
    cases hres
    obtain ⟨answer, rfl, hanswer⟩ := executes_buildTx hm
    rcases answer with err | tx
    · cases hanswer
      cases err with
      | insufficientFunds =>
          rcases Executes.of_bind hm' with ⟨e, -, hx⟩ | ⟨res, n, n', rfl, hn, hn'⟩
          · cases hx
          · obtain ⟨res', hres, hn⟩ := hn.of_attempt
            cases hres
            obtain ⟨answer, rfl, hanswer⟩ := executes_buildDrainTx hn
            rcases answer with err | tx
            · cases hanswer
              cases hn'.2
            · cases hanswer
              cases hn'.1
              cases hn'.2
              exact ⟨tx, rfl, .inr rfl⟩
      | _ => cases hm'.2
    · cases hanswer
      cases hm'.1
      cases hm'.2
      exact ⟨tx, rfl, .inl rfl⟩

/-- A new swap stores the create response it was created with. -/
theorem executes_createSwap {req : SendPaymentViaSwapRequest} {lbtcPair : SubmarinePair}
    {met : List Meeting} {swap : SendSwap} (h : (createSwap sdk req lbtcPair).Executes met (.ok swap)) :
    ∃ key response rest, met = .got .generateKeypair key ::
        .got (.createSendSwap req.invoice key) (.ok response) :: rest ∧
      swap.createResponseJson = sdk.submarineResponseJson response.toInternalCreateSubmarineResponse ∧
      swap.id = response.id := by
  obtain ⟨key, _, rfl, answer, rest, rfl, h⟩ := h
  rcases answer with err | response
  · cases h.2
  · refine ⟨key, response, rest, rfl, ?_⟩
    have hrest : ((Task.ofExcept (sdk.invoiceDestinationPubkey req.invoice req.bolt12Offer.isSome)).bind
        fun destinationPubkey => (Task.reads World.now).bind fun now =>
          (insertOrUpdateSendSwap sdk (newSendSwap sdk req lbtcPair key response destinationPubkey now)).bind
            fun _ => .done (.ok (newSendSwap sdk req lbtcPair key response destinationPubkey now))).Executes
          rest (.ok swap) := h
    rcases hrest.of_bind with ⟨e, -, hx⟩ | ⟨pubkey, m, m', -, -, hm'⟩
    · cases hx
    · rcases hm'.of_bind with ⟨e, -, hx⟩ | ⟨now, n, n', -, -, hn'⟩
      · cases hx
      · rcases hn'.of_bind with ⟨e, -, hx⟩ | ⟨_, l, l', -, -, hl'⟩
        · cases hx
        · cases hl'.2
          exact ⟨rfl, rfl⟩

theorem executes_reuseSwap {swap swap' : SendSwap} {met : List Meeting}
    (h : (reuseSwap sdk swap).Executes met (.ok swap')) : swap' = swap := by
  unfold reuseSwap at h
  split at h
  · cases h.2
    rfl
  · rcases h.of_bind with ⟨e, -, hx⟩ | ⟨_, m, m', -, -, hm'⟩
    · cases hx
    · cases hm'.2
      rfl
  · cases h.2
  · cases h.2
  · cases h.2
  · cases h.2
  · cases h.2
  · cases h.2

/-- The swap that a payment locks up for: the one that was found for its invoice, or else the one it created. -/
def LocksFor (sdk : Sdk) (invoice : String) (met : List Meeting) (swap : SendSwap) : Prop :=
  ∃ w, met.findSome? worldOf = some w ∧
    (w.db.fetchSendSwapByInvoice invoice = some swap ∨
      w.db.fetchSendSwapByInvoice invoice = none ∧ ∃ response, met.findSome? createdSendSwapOf = some response ∧
        swap.createResponseJson = sdk.submarineResponseJson response.toInternalCreateSubmarineResponse ∧
        swap.id = response.id)

/-- A payment stops before its lockup, or goes on to the lockup of its swap, and then the pair and the estimate are
those that the approved fees were compared with. -/
theorem executes_sendPaymentViaSwap {req : SendPaymentViaSwapRequest} {met : List Meeting}
    {x : Except Err Payment} (hexec : (sendPaymentViaSwap sdk req).Executes met x) :
    ∃ pre rest, met = pre ++ rest ∧ (∀ q a, .got q a ∈ pre → Preparatory q) ∧
      ((rest = [] ∧ ∃ e, x = .error e) ∨
        ∃ pair feeSat swap, met.findSome? submarinePairOf = some pair ∧ estimatedFee met = some feeSat ∧
          req.feesSat = u64Add (pair.feesTotal req.receiverAmountSat) feeSat ∧
          LocksFor sdk req.invoice met swap ∧ (lockupAndWait sdk swap).Executes rest x) := by
  have hpairs := asks_validateSubmarinePairs req.receiverAmountSat
  rcases hexec.of_bind with ⟨e, hpair, hx⟩ | ⟨pair, m, met₁, rfl, hpair, hrest⟩
  · exact ⟨met, [], (List.append_nil _).symm, fun q a h => hpairs.executes hpair h, .inl ⟨rfl, e, hx⟩⟩
  have hestimate := asks_estimate (u64Add req.receiverAmountSat (pair.feesTotal req.receiverAmountSat))
  rcases hrest.of_bind with ⟨e, hfee, hx⟩ | ⟨feeSat, m₁, met₂, rfl, hfee, hchecked⟩
  · refine ⟨m ++ met₁, [], (List.append_nil _).symm, fun q a h => ?_, .inl ⟨rfl, e, hx⟩⟩
    rcases List.mem_append.mp h with h | h
    · exact hpairs.executes hpair h
    · exact hestimate.executes hfee h
  have hfirst : ∀ q a, .got q a ∈ m ++ m₁ → Preparatory q := by
    intro q a h
    rcases List.mem_append.mp h with h | h
    · exact hpairs.executes hpair h
    · exact hestimate.executes hfee h
  split at hchecked
  · rename_i hfees
    obtain ⟨w, rest, rfl, hswap⟩ := hchecked
    replace hswap : (match w.db.fetchSendSwapByInvoice req.invoice with
      | some swap => (reuseSwap sdk swap).bind (lockupAndWait sdk)
      | none => (createSwap sdk req pair).bind (lockupAndWait sdk)).Executes rest x := hswap
    obtain ⟨tx, hfeeSat, hm₁⟩ := executes_estimate hfee
    have hm := executes_validateSubmarinePairs hpair
    obtain ⟨hpairOf, hfeeOf, hworldOf, hcreatedOf⟩ :
        (m ++ (m₁ ++ .found w :: rest)).findSome? submarinePairOf = some pair ∧
        estimatedFee (m ++ (m₁ ++ .found w :: rest)) = some feeSat ∧
        (m ++ (m₁ ++ .found w :: rest)).findSome? worldOf = some w ∧
        (m ++ (m₁ ++ .found w :: rest)).findSome? createdSendSwapOf = rest.findSome? createdSendSwapOf := by
      subst hm
      rcases hm₁ with rfl | rfl
      · exact ⟨rfl, congrArg some hfeeSat, rfl, rfl⟩
      · exact ⟨rfl, congrArg some hfeeSat, rfl, rfl⟩
    -- the looked up state asks nothing, and neither do the parts up to the lockup build one
    have hprefix : ∀ {m₂ : List Meeting}, (∀ q a, .got q a ∈ m₂ → Preparatory q) →
        ∀ q a, .got q a ∈ m ++ (m₁ ++ .found w :: m₂) → Preparatory q := by
      intro m₂ h₂ q a h
      rw [← List.append_assoc] at h
      rcases List.mem_append.mp h with h | h
      · exact hfirst q a h
      · rcases List.mem_cons.mp h with h | h
        · cases h
        · exact h₂ q a h
    have hsplit : ∀ m₂ m₃ : List Meeting,
        m ++ (m₁ ++ .found w :: (m₂ ++ m₃)) = m ++ (m₁ ++ .found w :: m₂) ++ m₃ := by
      intro m₂ m₃
      simp only [List.append_assoc, List.cons_append]
    rcases hfound : w.db.fetchSendSwapByInvoice req.invoice with _ | swap
    · rw [hfound] at hswap
      have hasks : Asks Preparatory (createSwap sdk req pair) := asks_createSwap req pair
      rcases hswap.of_bind with ⟨e, hnew, hx⟩ | ⟨swap, m₂, m₃, rfl, hnew, hwait⟩
      · exact ⟨_, [], (List.append_nil _).symm, hprefix fun q a h => hasks.executes hnew h, .inl ⟨rfl, e, hx⟩⟩
      · refine ⟨_, m₃, hsplit m₂ m₃, hprefix fun q a h => hasks.executes hnew h, .inr ?_⟩
        obtain ⟨key, response, rest', rfl, hjson, hid⟩ := executes_createSwap hnew
        refine ⟨pair, feeSat, swap, hpairOf, hfeeOf, hfees, ⟨w, hworldOf, .inr ⟨hfound, response, ?_, hjson, hid⟩⟩,
          hwait⟩
        rw [hcreatedOf]
        rfl
    · rw [hfound] at hswap
      have hasks : Asks Preparatory (reuseSwap sdk swap) := asks_reuseSwap swap
      rcases hswap.of_bind with ⟨e, hold, hx⟩ | ⟨swap', m₂, m₃, rfl, hold, hwait⟩
      · exact ⟨_, [], (List.append_nil _).symm, hprefix fun q a h => hasks.executes hold h, .inl ⟨rfl, e, hx⟩⟩
      · refine ⟨_, m₃, hsplit m₂ m₃, hprefix fun q a h => hasks.executes hold h, .inr ?_⟩
        cases executes_reuseSwap hold
        exact ⟨pair, feeSat, swap, hpairOf, hfeeOf, hfees, ⟨w, hworldOf, .inl hfound⟩, hwait⟩
  · obtain ⟨rfl, hx⟩ := hchecked
    refine ⟨m ++ (m₁ ++ []), [], (List.append_nil _).symm, ?_, .inl ⟨rfl, _, hx⟩⟩
    rw [List.append_nil]
    exact hfirst

/-- Where a payment builds its lockup: for the pair and the estimate that the approved fees were compared
with, and of the amount of the accepted create response. -/
theorem sendPaymentViaSwap_builds {req : SendPaymentViaSwapRequest} {met : List Meeting}
    {x : Except Err Payment} (hexec : (sendPaymentViaSwap sdk req).Executes met x)
    (hcodec : ∀ response, met.findSome? createdSendSwapOf = some response →
      sdk.bz.submarineResponse (sdk.submarineResponseJson response.toInternalCreateSubmarineResponse) =
        some response.toInternalCreateSubmarineResponse)
    {address : Address} {amountSat : Nat} {answer : Except Err LBtcTransaction}
    (hbuilt : .got (.buildTxOrDrainTx address amountSat) answer ∈ met) :
    ∃ pair feeSat response, met.findSome? submarinePairOf = some pair ∧ estimatedFee met = some feeSat ∧
      acceptedResponse sdk req met = some response ∧
      req.feesSat = u64Add (pair.feesTotal req.receiverAmountSat) feeSat ∧
      amountSat = response.expectedAmount := by
  obtain ⟨pre, rest, hmet, hpre, hlockup⟩ := executes_sendPaymentViaSwap hexec
  replace hbuilt : .got (.buildTxOrDrainTx address amountSat) answer ∈ rest := by
    rw [hmet] at hbuilt
    exact (List.mem_append.mp hbuilt).resolve_left fun h => (hpre _ _ h).1 _ _ rfl
  rcases hlockup with ⟨rfl, -⟩ | ⟨pair, feeSat, swap, hpair, hfee, hfees, ⟨w, hworld, hswap⟩, hwait⟩
  · exact absurd hbuilt List.not_mem_nil
  obtain ⟨response, hresponse, hamount⟩ : ∃ response, swap.getBoltzCreateResponse sdk.bz = .ok response ∧
      amountSat = response.expectedAmount := by
    cases hresponse : swap.getBoltzCreateResponse sdk.bz with
    | error err =>
        unfold lockupAndWait at hwait
        rw [hresponse] at hwait
        rw [hwait.1] at hbuilt
        exact absurd hbuilt List.not_mem_nil
    | ok response => exact ⟨response, rfl, (asks_lockupAndWait hresponse).executes hwait hbuilt _ _ rfl⟩
  refine ⟨pair, feeSat, response, hpair, hfee, ?_, hfees, hamount⟩
  unfold acceptedResponse
  rw [hworld, Option.bind_some]
  rcases hswap with hfound | ⟨hnone, created, hcreated, hjson, -⟩
  · rw [hfound]
    exact congrArg Except.toOption hresponse
  · unfold SendSwap.getBoltzCreateResponse at hresponse
    rw [hjson, hcodec created hcreated] at hresponse
    cases hresponse
    rw [hnone, hcreated]
    rfl

end Send

/-! ## Paying to a Bitcoin address -/

/-- The service fee of a payment to a Bitcoin address, as `pay_onchain` computes it. -/
def boltzFee (round : ℚ → ℚ) (req : PreparePayOnchainResponse) (pair : ChainPair) : Nat :=
  u64Sub (userLockupAmount round (u64Add (u64Add req.receiverAmountSat req.claimFeesSat) pair.serverFee) pair)
    (u64Add (u64Add req.receiverAmountSat req.claimFeesSat) pair.serverFee)

section Onchain

variable {sdk : Sdk}

theorem executes_getChainPair {direction : Direction} {met : List Meeting} {pair : ChainPair}
    (h : (getChainPair direction).Executes met (.ok pair)) :
    met = [.got (.getChainPair direction) (.ok (some pair))] := by
  obtain ⟨answer, rest, rfl, h⟩ := h
  rcases answer with err | _ | pair'
  · cases h.2
  · cases h.2
  · cases h.1
    cases h.2
    rfl

/-- The approved total is the sum of the fees. -/
theorem executes_validateOnchainFees {round : ℚ → ℚ} {req : PreparePayOnchainResponse} {balanceSat : Nat}
    {pair : ChainPair} {met : List Meeting} (h : (validateOnchainFees round req balanceSat pair).Executes met (.ok ())) :
    ∃ tx, (met = [.got (.buildDrainTx none) (.ok tx)] ∨
        ∃ amountSat, met = [.got (.buildTx amountSat) (.ok tx)]) ∧
      req.totalFeesSat =
        u64Add (u64Add (u64Add (boltzFee round req pair) tx.feesSat) req.claimFeesSat) pair.serverFee := by
  unfold validateOnchainFees at h
  dsimp only at h
  rcases h.of_bind with ⟨e, -, hx⟩ | ⟨_, m, m₁, rfl, hlimits, hfees⟩
  · cases hx
  cases hlimits.1
  have hpassed : ∀ {feeSat : Nat} {m : List Meeting}, Executes
      (if req.totalFeesSat ≠ u64Add (u64Add (u64Add (boltzFee round req pair) feeSat) req.claimFeesSat) pair.serverFee
        then Task.throw .invalidOrExpiredFees
        else if balanceSat < u64Add req.totalFeesSat req.receiverAmountSat then Task.throw .insufficientFunds
        else Pure.pure () : Async Unit) m (.ok ()) →
      m = [] ∧ req.totalFeesSat =
        u64Add (u64Add (u64Add (boltzFee round req pair) feeSat) req.claimFeesSat) pair.serverFee := by
    intro feeSat m hchecks
    split at hchecks
    · cases hchecks.2
    · rename_i htotal
      split at hchecks
      · cases hchecks.2
      · exact ⟨hchecks.1, not_not.mp htotal⟩
  split at hfees
  · rcases hfees.of_bind with ⟨e, -, hx⟩ | ⟨feeSat, m₂, m₃, rfl, hfee, hchecks⟩
    · cases hx
    obtain ⟨rfl, htotal⟩ := hpassed hchecks
    obtain ⟨answer, rfl, hanswer⟩ := executes_buildDrainTx hfee
    rcases answer with err | tx
    · cases hanswer
    · cases hanswer
      exact ⟨tx, .inl rfl, htotal⟩
  · rcases hfees.of_bind with ⟨e, -, hx⟩ | ⟨feeSat, m₂, m₃, rfl, hfee, hchecks⟩
    · cases hx
    obtain ⟨rfl, htotal⟩ := hpassed hchecks
    obtain ⟨answer, rfl, hanswer⟩ := executes_buildTx hfee
    rcases answer with err | tx
    · cases hanswer
    · cases hanswer
      exact ⟨tx, .inr ⟨_, rfl⟩, htotal⟩

/-- Queries that create no chain swap. -/
def CreatesNothing (q : Call) : Prop :=
  ∀ claimKey refundKey amountSat, q ≠ .createChainSwap claimKey refundKey amountSat

theorem createdChainSwapOf_none {α : Type} {t : Async α} (h : Asks CreatesNothing t) {met : List Meeting}
    {x : Except Err α} (hexec : t.Executes met x) : met.findSome? createdChainSwapOf = none := by
  refine List.findSome?_eq_none_iff.mpr fun meeting hmem => ?_
  cases meeting with
  | found w => rfl
  | got q a =>
      cases q with
      | createChainSwap claimKey refundKey amountSat => exact absurd rfl (h.executes hexec hmem _ _ _)
      | _ => rfl

theorem asks_validateOnchainFees (round : ℚ → ℚ) (req : PreparePayOnchainResponse) (balanceSat : Nat)
    (pair : ChainPair) : Asks CreatesNothing (validateOnchainFees round req balanceSat pair) := by
  have hchecks : ∀ total : Nat, Asks CreatesNothing (if req.totalFeesSat ≠ total
      then Task.throw .invalidOrExpiredFees
      else if balanceSat < u64Add req.totalFeesSat req.receiverAmountSat then Task.throw .insufficientFunds
      else Pure.pure () : Async Unit) := by
    intro total
    split
    · exact Task.within_done _
    · split
      · exact Task.within_done _
      · exact Task.within_done _
  refine Task.Within.bind (Task.within_done _) fun _ => ?_
  dsimp only
  split
  · refine Task.Within.bind ?_ fun lockupFeesSat => hchecks _
    exact Task.Within.bind (Task.within_askOk (q := Call.buildDrainTx none) nofun rfl) fun _ => Task.within_done _
  · refine Task.Within.bind ?_ fun lockupFeesSat => hchecks _
    exact Task.Within.bind (Task.within_askOk (q := Call.buildTx _) nofun rfl) fun _ => Task.within_done _

theorem asks_getChainPair (direction : Direction) : Asks CreatesNothing (getChainPair direction) := by
  refine Task.Within.bind (Task.within_askOk (q := Call.getChainPair direction) nofun rfl) fun pair => ?_
  split
  · exact Task.within_done _
  · exact Task.within_done _

/-- A payment that creates a chain swap has compared the approved total. -/
theorem payOnchain_created {address : Address} {req : PreparePayOnchainResponse} {met : List Meeting}
    {x : Except Err Payment} (hexec : (payOnchain sdk address req).Executes met x)
    {response : CreateChainResponse} (hresponse : met.findSome? createdChainSwapOf = some response) :
    ∃ pair feeSat, met.findSome? chainPairOf = some pair ∧ estimatedFee met = some feeSat ∧
      req.totalFeesSat =
        u64Add (u64Add (u64Add (boltzFee sdk.round req pair) feeSat) req.claimFeesSat) pair.serverFee := by
  obtain ⟨claimAddress, _, rfl, hbalance⟩ := hexec
  rcases claimAddress with err | claimAddress
  · rw [hbalance.1] at hresponse
    cases hresponse
  obtain ⟨balanceSat, met, rfl, hpair⟩ := hbalance
  rcases balanceSat with err | balanceSat
  · rw [hpair.1] at hresponse
    cases hresponse
  replace hresponse : met.findSome? createdChainSwapOf = some response := hresponse
  obtain ⟨rest, hpair⟩ : ∃ rest : ChainPair → Async Payment, ((getChainPair .outgoing).bind fun pair =>
      (validateOnchainFees sdk.round req balanceSat pair).bind fun _ => rest pair).Executes met x := ⟨_, hpair⟩
  rcases hpair.of_bind with ⟨e, hfetched, -⟩ | ⟨pair, m, m₁, rfl, hfetched, hfees⟩
  · rw [createdChainSwapOf_none (asks_getChainPair _) hfetched] at hresponse
    cases hresponse
  rcases hfees.of_bind with ⟨e, hcompared, -⟩ | ⟨_, m₂, m₃, rfl, hcompared, -⟩
  · rw [List.findSome?_append, createdChainSwapOf_none (asks_getChainPair _) hfetched,
      createdChainSwapOf_none (asks_validateOnchainFees ..) hcompared] at hresponse
    cases hresponse
  obtain ⟨tx, hm₂, htotal⟩ := executes_validateOnchainFees hcompared
  cases executes_getChainPair hfetched
  refine ⟨pair, tx.feesSat, ?_⟩
  rcases hm₂ with rfl | ⟨amountSat, rfl⟩
  · exact ⟨rfl, rfl, htotal⟩
  · exact ⟨rfl, rfl, htotal⟩

/-- A task that broadcasts no lockup of any swap. -/
theorem leaves_not_locks {α : Type} {t : Async α} (h : ∀ id, Leaves sdk id t) {met : List Meeting}
    {x : Except Err α} (hexec : t.Executes met x) {amountSat : Nat} : ¬ Locks met amountSat := by
  intro hlocks
  obtain ⟨swapId, tx, answer, hbroadcast, hanswer⟩ := hlocks.broadcast
  rcases hanswer with ⟨answered, rfl⟩ | ⟨err, rfl⟩
  · have hspares := (h swapId).executes hexec hbroadcast (.ok answered) {}
    have hlockups : Chain.lockups swapId [.lockupBroadcast swapId tx.txid] = Chain.lockups swapId [] :=
      hspares.lockups
    rw [Chain.lockups_broadcast] at hlockups
    cases hlockups
  · have hspares := (h swapId).executes hexec hbroadcast (.error (.replyLost err)) {}
    have hlockups : Chain.lockups swapId [.replyLost (.lockup swapId) tx.txid] = Chain.lockups swapId [] :=
      hspares.lockups
    simp [Chain.lockups, Chain.lockupOf] at hlockups

theorem locks_found {w : World} {met : List Meeting} {amountSat : Nat} :
    Locks (.found w :: met) amountSat ↔ Locks met amountSat := Iff.rfl

theorem asks_lockupFunds (swapId : SwapId) (response : InternalCreateChainResponse) :
    Asks (BuildsOnly response.lockupDetails.amount) (Chain.lockupFunds swapId response) := by
  refine Task.Within.bind (Task.within_askOk
    (q := Call.buildTxOrDrainTx response.lockupDetails.lockupAddress response.lockupDetails.amount) ?_ rfl)
    fun lockupTx => ?_
  · rintro address amountSat' h
    cases h
    rfl
  · exact Task.Within.bind (Task.within_askOk (q := Call.liquidBroadcast (.lockup swapId) lockupTx) nofun rfl)
      fun _ => Task.within_done _

/-- The handler locks up the amount of the create response of the swap it found. -/
theorem onCreated_locks {swap : ChainSwap} {swapId : SwapId} {met : List Meeting} {x : Except Err Unit}
    (hexec : (Chain.onCreated sdk swap swapId).Executes met x) {amountSat : Nat} (hlocks : Locks met amountSat) :
    ∃ response, swap.getBoltzCreateResponse sdk.bz = .ok response ∧
      amountSat = response.lockupDetails.amount := by
  unfold Chain.onCreated at hexec
  split at hexec
  · rw [hexec.1] at hlocks
    exact absurd hlocks not_locks_nil
  · obtain ⟨w, rest, rfl, hexec⟩ := hexec
    rw [locks_found] at hlocks
    replace hexec : ((Task.ofExcept (swap.getBoltzCreateResponse sdk.bz)).bind fun createResponse =>
        (Chain.lockupFunds swapId createResponse).bind fun userLockupTx =>
          (write fun now db => db.insertOrUpdatePayment now
            { txId := userLockupTx.txid, timestamp := some now, feesSat := userLockupTx.feesSat }).bind fun _ =>
            Chain.updateSwapInfo
              { swapId, toState := .pending, userLockupTxId := some userLockupTx.txid }).Executes rest x := hexec
    cases hresponse : swap.getBoltzCreateResponse sdk.bz with
    | error err =>
        rw [hresponse] at hexec
        rw [hexec.1] at hlocks
        exact absurd hlocks not_locks_nil
    | ok response =>
        rw [hresponse, Task.ofExcept_ok_bind] at hexec
        refine ⟨response, rfl, ?_⟩
        obtain ⟨address, tx, hbuilt⟩ := hlocks.built
        refine Task.Within.executes (Task.Within.bind (asks_lockupFunds swapId response) fun tx => ?_) hexec
          hbuilt _ _ rfl
        refine Task.Within.bind (within_write trivial) fun _ => ?_
        refine Task.Within.bind (Task.Within.bind (asks_fetch _) fun _ => Task.within_done _) fun _ => ?_
        refine Task.Within.bind (Task.within_done _) fun _ => Task.Within.bind (within_write trivial) fun _ => ?_
        exact Task.Within.bind (Task.Within.bind (asks_fetch _) fun _ => Task.within_done _)
          fun _ => Task.within_done _
  · rw [hexec.1] at hlocks
    exact absurd hlocks not_locks_nil

theorem onNewStatus_locks {update : SwapStatus} {met : List Meeting} {x : Except Err Unit}
    (hexec : (Chain.onNewStatus sdk update).Executes met x) {amountSat : Nat} (hlocks : Locks met amountSat) :
    ∃ w swap response, met.findSome? worldOf = some w ∧ w.db.fetchChainSwapById update.id = some swap ∧
      swap.getBoltzCreateResponse sdk.bz = .ok response ∧ amountSat = response.lockupDetails.amount := by
  obtain ⟨w, rest, rfl, hexec⟩ := hexec
  rw [locks_found] at hlocks
  refine ⟨w, ?_⟩
  replace hexec : ((Task.ofExcept (okOr (w.db.fetchChainSwapById update.id)
      ("Chain Swap not found " ++ update.id))).bind _).Executes rest x := hexec
  cases hswap : w.db.fetchChainSwapById update.id with
  | none =>
      rw [hswap] at hexec
      rw [hexec.1] at hlocks
      exact absurd hlocks not_locks_nil
  | some swap =>
      rw [hswap, okOr, Task.ofExcept_ok_bind] at hexec
      -- no other part of the handler publishes a lockup, so the one of this execution is that of `on_created`
      have hleaves : ∀ {t : Async Unit}, (∀ id, Leaves sdk id t) → ¬ t.Executes rest x :=
        fun h hexec => leaves_not_locks h hexec hlocks
      suffices hcreated : (Chain.onCreated sdk swap update.id).Executes rest x by
        obtain ⟨response, hresponse, hamount⟩ := onCreated_locks hcreated hlocks
        exact ⟨swap, response, rfl, rfl, hresponse, hamount⟩
      cases hdirection : swap.direction with
      | incoming =>
          rw [hdirection] at hexec
          exact absurd hexec (hleaves fun _ => Chain.leaves_onNewIncomingStatus swap update)
      | outgoing =>
          rw [hdirection] at hexec
          replace hexec : ((Chain.chainSwapState sdk update).bind _).Executes rest x := hexec
          unfold Chain.chainSwapState at hexec
          cases hstate : okOr (sdk.bz.chainSwapStates update.status)
              ("Invalid ChainSwapState for Chain Swap " ++ update.id ++ ": " ++ update.status) with
          | error err =>
              rw [hstate] at hexec
              exact absurd hexec (hleaves fun _ => Task.within_done _)
          | ok state =>
              rw [hstate, Task.ofExcept_ok_bind] at hexec
              -- each state of the swapper leads to one part of the handler
              have hunrecoverable : ¬ (Chain.onOutgoingUnrecoverable sdk swap update.id).Executes rest x :=
                hleaves fun _ => (Chain.plain_onOutgoingUnrecoverable swap _).steady.leaves
              have huser : ¬ (Chain.onOutgoingUserLockup sdk update).Executes rest x :=
                hleaves fun _ => (Chain.plain_onOutgoingUserLockup update).steady.leaves
              cases state with
              | created => exact hexec
              | transactionMempool => exact absurd hexec huser
              | transactionConfirmed => exact absurd hexec huser
              | transactionServerMempool =>
                  exact absurd hexec (hleaves fun _ => Chain.leaves_onTransactionServerMempool swap update)
              | transactionServerConfirmed =>
                  exact absurd hexec (hleaves fun _ => Chain.leaves_onOutgoingServerConfirmed swap update)
              | transactionFailed => exact absurd hexec hunrecoverable
              | transactionLockupFailed => exact absurd hexec hunrecoverable
              | transactionRefunded => exact absurd hexec hunrecoverable
              | swapExpired => exact absurd hexec hunrecoverable
              | unhandled => exact absurd hexec (hleaves fun _ => Task.within_done _)

end Onchain

/-! ## The results -/

/-- The create response of a payment of an invoice is within the receiver amount and the fees of the pair
that was fetched, if the payment gets to its lockup. -/
def SendResponseWithin (sdk : Sdk) (req : SendPaymentViaSwapRequest) (met : List Meeting) : Prop :=
  ∀ pair ∈ met.findSome? submarinePairOf, ∀ feeSat ∈ estimatedFee met, ∀ response ∈ acceptedResponse sdk req met,
    (∃ amountSat, Locks met amountSat) →
      response.expectedAmount + overflow (pair.feesTotal req.receiverAmountSat + feeSat) ≤
        req.receiverAmountSat + pair.feesTotal req.receiverAmountSat

/-- The fees of a payment to a Bitcoin address but for its lockup fee. -/
def swapFees (round : ℚ → ℚ) (req : PreparePayOnchainResponse) (pair : ChainPair) : Nat :=
  boltzFee round req pair + req.claimFeesSat + pair.serverFee

/-- The same of a payment to a Bitcoin address, if its swap gets to its lockup. -/
def ChainResponseWithin (round : ℚ → ℚ) (req : PreparePayOnchainResponse) (payment lockup : List Meeting) : Prop :=
  ∀ pair ∈ payment.findSome? chainPairOf, ∀ feeSat ∈ estimatedFee payment,
    ∀ response ∈ payment.findSome? createdChainSwapOf, (∃ amountSat, Locks lockup amountSat) →
      response.lockupDetails.amount + overflow (swapFees round req pair + feeSat) ≤
        req.receiverAmountSat + swapFees round req pair

/-- The handler finds the create response that the payment stored. -/
def FindsResponse (sdk : Sdk) (swapId : SwapId) (response : CreateChainResponse) (lockup : List Meeting) :
    Prop :=
  ∀ w ∈ lockup.findSome? worldOf, ∀ swap ∈ w.db.fetchChainSwapById swapId,
    swap.createResponseJson = sdk.chainResponseJson response.toInternalCreateChainResponse

/-- **What the swapper may charge.** In every execution of a payment of an invoice, and of a payment to a
Bitcoin address with the handler of its swap, a lockup and its estimated fee are within the approved amount
exactly if the swapper's create response is within the receiver amount and the fees of the pair. -/
theorem lockups_approved_iff (sdk : Sdk) :
    (∀ req met x, (sendPaymentViaSwap sdk req).Executes met x →
      (∀ response, met.findSome? createdSendSwapOf = some response →
        sdk.bz.submarineResponse (sdk.submarineResponseJson response.toInternalCreateSubmarineResponse) =
          some response.toInternalCreateSubmarineResponse) →
      (WithinApproved (req.receiverAmountSat + req.feesSat) met met ↔ SendResponseWithin sdk req met)) ∧
    ∀ address req met x update met' x', (payOnchain sdk address req).Executes met x →
      (Chain.onNewStatus sdk update).Executes met' x' →
      ∀ response, met.findSome? createdChainSwapOf = some response →
        sdk.bz.chainResponse (sdk.chainResponseJson response.toInternalCreateChainResponse) =
          some response.toInternalCreateChainResponse →
        FindsResponse sdk update.id response met' →
        (WithinApproved (req.receiverAmountSat + req.totalFeesSat) met met' ↔
          ChainResponseWithin sdk.round req met met') := by
  constructor
  · intro req met x hexec hcodec
    -- what is locked up is in the accepted response, and the approved fees are the sum that was fetched
    have hbuilds : ∀ {amountSat}, Locks met amountSat → ∃ pair feeSat response,
        met.findSome? submarinePairOf = some pair ∧ estimatedFee met = some feeSat ∧
        acceptedResponse sdk req met = some response ∧
        req.feesSat = u64Add (pair.feesTotal req.receiverAmountSat) feeSat ∧
        amountSat = response.expectedAmount := by
      intro amountSat hlocks
      obtain ⟨address, tx, hbuilt⟩ := hlocks.built
      exact sendPaymentViaSwap_builds hexec hcodec hbuilt
    constructor
    · rintro happroved pair hpair feeSat hfee response hresponse ⟨amountSat, hlocks⟩
      obtain ⟨pair', feeSat', response', hpair', hfee', hresponse', hfees, hamount⟩ := hbuilds hlocks
      cases hpair.symm.trans hpair'
      cases hfee.symm.trans hfee'
      cases hresponse.symm.trans hresponse'
      have hle := happroved feeSat hfee amountSat hlocks
      rw [hfees, hamount] at hle
      exact add_fee_le_iff.mp hle
    · intro hwithin feeSat hfee amountSat hlocks
      obtain ⟨pair, feeSat', response, hpair, hfee', hresponse, hfees, hamount⟩ := hbuilds hlocks
      cases hfee.symm.trans hfee'
      rw [hfees, hamount]
      exact add_fee_le_iff.mpr (hwithin pair hpair feeSat hfee response hresponse ⟨amountSat, hlocks⟩)
  · intro address req met x update met' x' hexec hexec' response hresponse hcodec hfinds
    obtain ⟨pair, feeSat, hpair, hfee, htotal⟩ := payOnchain_created hexec hresponse
    -- the three additions of the code wrap around like one
    have htotal' : req.totalFeesSat = (swapFees sdk.round req pair + feeSat) % 2 ^ 64 := by
      rw [htotal]
      unfold u64Add swapFees
      omega
    have hlocked : ∀ {amountSat}, Locks met' amountSat → amountSat = response.lockupDetails.amount := by
      intro amountSat hlocks
      obtain ⟨w, swap, response', hw, hswap, hresponse', hamount⟩ := onNewStatus_locks hexec' hlocks
      unfold ChainSwap.getBoltzCreateResponse at hresponse'
      rw [hfinds w hw swap hswap, hcodec] at hresponse'
      cases hresponse'
      exact hamount
    constructor
    · rintro happroved pair' hpair' feeSat' hfee' response' hresponse' ⟨amountSat, hlocks⟩
      cases hpair.symm.trans hpair'
      cases hfee.symm.trans hfee'
      cases hresponse.symm.trans hresponse'
      have hle := happroved feeSat hfee amountSat hlocks
      rw [htotal', hlocked hlocks] at hle
      exact add_fee_le_iff.mp hle
    · intro hwithin feeSat' hfee' amountSat hlocks
      cases hfee.symm.trans hfee'
      rw [htotal', hlocked hlocks]
      exact add_fee_le_iff.mpr (hwithin pair hpair feeSat hfee response hresponse ⟨amountSat, hlocks⟩)

/-! ## A quote for more than was approved -/

/-- A client that tells apart create responses of 1000 sat and of 2000 sat. -/
def quotedSdk : Sdk where
  bz := { BoltzClient.byAddress 0 with
    submarineResponse := fun json => some
      { address := "address", expectedAmount := if json = "agreed" then 1000 else 2000 }
    chainResponse := fun json => some
      { lockupDetails := { lockupAddress := "lockup", amount := if json = "agreed" then 1000 else 2000 } } }
  persister := { codec := .table fun _ => none }
  submarineResponseJson r := if r.expectedAmount = 1000 then "agreed" else "larger"
  chainResponseJson r := if r.lockupDetails.amount = 1000 then "agreed" else "larger"

def onchainRequest : PreparePayOnchainResponse where
  receiverAmountSat := 1000
  claimFeesSat := 0
  totalFeesSat := 5

/-- A submarine pair, and a chain pair, of a swapper without fees of its own. -/
def freeSubmarinePair : SubmarinePair := .exact (.between 1 1000000) 0 0

def freeChainPair : ChainPair := .exact (.between 1 1000000) 0 0 0

/-- A swapper without fees of its own, whose create responses have the amount. -/
def quoteAnswers (amountSat : Nat) : Nat → (q : Call) → q.Answer
  | _, .getSubmarinePairs => .ok (some freeSubmarinePair)
  | _, .getChainPair _ => .ok (some freeChainPair)
  | _, .validateBitcoinAddress address => .ok address
  | _, .getInfoBalance => .ok 10000
  | _, .buildTx _ => .ok { txid := "estimate", feesSat := 5 }
  | _, .createSendSwap .. => .ok { id := "s", address := "address", expectedAmount := amountSat }
  | _, .createChainSwap .. => .ok { id := "c", lockupDetails := { lockupAddress := "lockup", amount := amountSat } }
  | _, .buildTxOrDrainTx .. => .ok { txid := "lockup", feesSat := 5 }
  | _, .liquidBroadcast _ tx => .ok tx.txid
  | _, q => q.offline

/-- The payment of an invoice. -/
def sendMeetings (amountSat : Nat) : List Meeting :=
  (sendPaymentViaSwap quotedSdk payRequest).metAlone (World.effect quotedSdk) (quoteAnswers amountSat) (0, {})

def onchainMeetings (amountSat : Nat) : List Meeting :=
  (payOnchain quotedSdk "address" onchainRequest).metAlone (World.effect quotedSdk) (quoteAnswers amountSat)
    (0, {})

/-- The handler, while the payment waits. -/
def createdMeetings (amountSat : Nat) : List Meeting :=
  (Chain.onNewStatus quotedSdk { id := "c", status := "swap.created" }).metAlone (World.effect quotedSdk)
    (quoteAnswers amountSat)
    ((payOnchain quotedSdk "address" onchainRequest).advance (World.effect quotedSdk) (quoteAnswers amountSat) 11
      (0, {})).2

/-- The swapper keeps to the quote: both payments lock up what was approved. -/
theorem lockups_approved_iff_agreed :
    WithinApproved 1005 (sendMeetings 1000) (sendMeetings 1000) ∧
      WithinApproved 1005 (onchainMeetings 1000) (createdMeetings 1000) := by
  constructor
  · refine ((lockups_approved_iff quotedSdk).1 payRequest (sendMeetings 1000) _ (Task.executes_alone ..)
      fun response hresponse => ?_).mpr ?_
    · have hcreated : (sendMeetings 1000).findSome? createdSendSwapOf =
          some { id := "s", address := "address", expectedAmount := 1000 } := by decide +kernel
      cases hcreated.symm.trans hresponse
      rfl
    · intro pair hpair feeSat hfee response hresponse _
      have hpair' : (sendMeetings 1000).findSome? submarinePairOf = some freeSubmarinePair := rfl
      have hfee' : estimatedFee (sendMeetings 1000) = some 5 := by decide +kernel
      have hresponse' : acceptedResponse quotedSdk payRequest (sendMeetings 1000) =
          some { address := "address", expectedAmount := 1000 } := by decide +kernel
      cases hpair'.symm.trans hpair
      cases hfee'.symm.trans hfee
      cases hresponse'.symm.trans hresponse
      decide +kernel
  · have hcreated : (onchainMeetings 1000).findSome? createdChainSwapOf =
        some { id := "c", lockupDetails := { lockupAddress := "lockup", amount := 1000 } } := by decide +kernel
    refine ((lockups_approved_iff quotedSdk).2 "address" onchainRequest (onchainMeetings 1000) _
      { id := "c", status := "swap.created" } (createdMeetings 1000) _ (Task.executes_alone ..)
      (Task.executes_alone ..) _ hcreated rfl ?_).mpr ?_
    · intro w hw swap hswap
      have hjson : (((createdMeetings 1000).findSome? worldOf).bind fun w =>
          w.db.fetchChainSwapById "c").map ChainSwap.createResponseJson = some "agreed" := by decide +kernel
      rw [hw, Option.bind_some, hswap, Option.map_some] at hjson
      exact Option.some.inj hjson
    · intro pair hpair feeSat hfee response hresponse _
      have hpair' : (onchainMeetings 1000).findSome? chainPairOf = some freeChainPair := rfl
      have hfee' : estimatedFee (onchainMeetings 1000) = some 5 := by decide +kernel
      cases hpair'.symm.trans hpair
      cases hfee'.symm.trans hfee
      cases hcreated.symm.trans hresponse
      decide +kernel

/-- It answers the creation with 2000 sat: both payments lock that up. -/
theorem lockups_approved_larger :
    ¬ WithinApproved 1005 (sendMeetings 2000) (sendMeetings 2000) ∧
      ¬ WithinApproved 1005 (onchainMeetings 2000) (createdMeetings 2000) := by
  constructor
  · intro h
    have hfee : estimatedFee (sendMeetings 2000) = some 5 := by decide +kernel
    have hlocks : Locks (sendMeetings 2000) 2000 := by
      unfold Locks
      decide +kernel
    exact absurd (h 5 hfee 2000 hlocks) (by decide)
  · intro h
    have hfee : estimatedFee (onchainMeetings 2000) = some 5 := by decide +kernel
    have hlocks : Locks (createdMeetings 2000) 2000 := by
      unfold Locks
      decide +kernel
    exact absurd (h 5 hfee 2000 hlocks) (by decide)

end BreezLiquid.Pay
