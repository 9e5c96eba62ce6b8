/-
# BreezLiquid.Chain.ZeroAmount — claims of zero-amount swaps.

The create response of a zero-amount swap has amount 0, so the amount check means something only against
the accepted receiver amount. That amount is written optimistically, erased on two paths and read by the
check long before the claim. Where an amount is accepted when the check succeeds, and is not taken away
again afterwards, a zero-amount swap is claimed only with an accepted amount that its server lockup pays.
-/
import BreezLiquid.Chain.ClaimSafety

namespace BreezLiquid.Chain

open Interleaving Recover Tables Wrapping

/-- An incoming swap whose amount is known only after the lockup. -/
def IsZeroAmount (s : ChainSwap) : Prop := s.payerAmountSat = 0 ∧ s.direction = .incoming

/-- An amount is accepted, and a transaction with this id that was checked for the swap pays it and the claim fees to the
claim script. -/
def Paid (sdk : Sdk) (trace : List Event) (s : ChainSwap) (txId : TxId) : Prop :=
  ∃ r, s.acceptedReceiverAmountSat = some r ∧ ∃ swap tx script, swap.id = s.id ∧ tx.txid = txId ∧
    .amountChecked swap tx ∈ trace ∧ claimScript sdk s = .ok script ∧ r + s.claimFeesSat ≤ tx.paysTo script

section Paid

variable (sdk : Sdk)

/-- What a zero-amount swap needs to be claimed; other swaps need nothing here. -/
def PaidIfZero (trace : List Event) (s : ChainSwap) (txId : TxId) : Prop :=
  IsZeroAmount s → Paid sdk trace s txId

/-- No step makes a paid lockup an unpaid one. -/
def StaysPaid (w w' : World) : Prop :=
  ∀ id row row', w.db.chainSwaps.get? id = some row → w'.db.chainSwaps.get? id = some row' →
    ∀ txId, PaidIfZero sdk w.trace row txId → PaidIfZero sdk w.trace row' txId

/-- The amount check of a zero-amount swap runs while an amount is accepted, against the terms that are
still the ones of the row; the sum with the claim fees is one of `u64`. -/
def ChecksAccepted (w w' : World) : Prop :=
  ∀ swap tx, w'.trace = .amountChecked swap tx :: w.trace →
    ∀ row, w.db.chainSwaps.get? swap.id = some row → IsZeroAmount row →
      SameTerms swap row ∧
        ∃ r, row.acceptedReceiverAmountSat = some r ∧ r + row.claimFeesSat < 2 ^ 64

/-- An unverified lockup is recorded only over another one or if it is paid all the same. -/
def MarksPaid (w w' : World) : Prop :=
  ∀ id txId, w'.trace = .lockupUnverified id txId :: w.trace →
    ∀ row, w.db.chainSwaps.get? id = some row →
      row.serverLockupTxId.isSome ∨ PaidIfZero sdk w.trace row txId

/-- The rows have no server lockup that is neither an old nor a paid one, and lose none. -/
def RowsPaid (w w' : World) : Prop :=
  ∀ id row', w'.db.chainSwaps.get? id = some row' →
    (∀ txId, row'.serverLockupTxId = some txId →
      (∃ row, w.db.chainSwaps.get? id = some row ∧ row.serverLockupTxId = some txId) ∨
        PaidIfZero sdk w.trace row' txId) ∧
    (Recorded w id → row'.serverLockupTxId.isSome)

/-- An amount is accepted before the check, and none is taken away after it. -/
def KeepsPaid : Cond World Role
  | .own .handler, w, w' => ChecksAccepted w w' ∧ MarksPaid sdk w w' ∧ StaysPaid sdk w w'
  | .own .recovery, w, w' => RowsPaid sdk w w' ∧ StaysPaid sdk w w'
  | .env, w, w' => RowsPaid sdk w w' ∧ StaysPaid sdk w w'
  | _, _, _ => True

omit sdk in
/-- Swaps with the same terms have the same claim script. -/
theorem claimScript_of_sameTerms {sdk : Sdk} {s s' : ChainSwap} (h : SameTerms s s') :
    claimScript sdk s' = claimScript sdk s := by
  unfold claimScript ChainSwap.getClaimSwapScript ChainSwap.getBoltzCreateResponse
  rw [h.direction, h.createResponseJson, h.claimPrivateKey]

/-- The check against an accepted amount makes the lockup paid. -/
theorem paid_of_amountMet {trace : List Event} {swap row : ChainSwap} {tx : SdkTransaction} {r : Nat}
    (hmet : AmountMet sdk swap tx) (hterms : SameTerms swap row) (hzero : IsZeroAmount row)
    (haccepted : row.acceptedReceiverAmountSat = some r) (hlt : r + row.claimFeesSat < 2 ^ 64) :
    Paid sdk (.amountChecked swap tx :: trace) row tx.txid := by
  obtain ⟨script, createResponse, hscript, -, hle⟩ := hmet
  have hdirection : swap.direction = .incoming := hterms.direction ▸ hzero.2
  have hamount : swap.acceptedReceiverAmountSat = some r :=
    hterms.acceptedReceiverAmountSat ▸ haccepted
  have hexpected : expectedServerLockupAmountSat swap createResponse.claimDetails =
      r + row.claimFeesSat := by
    simp only [expectedServerLockupAmountSat, hdirection, hamount]
    rw [← hterms.claimFeesSat]
    exact u64Add_of_lt hlt
  refine ⟨r, haccepted, swap, tx, script, hterms.id.symm, rfl, List.mem_cons_self, ?_, ?_⟩
  · exact (claimScript_of_sameTerms hterms).trans hscript
  · rwa [hexpected] at hle

/-- Paid lockups make a guard. -/
theorem paid_guard : ClaimGuard sdk (KeepsPaid sdk) (PaidIfZero sdk) where
  terms {trace s s' txId} hterms h hzero := by
    obtain ⟨r, haccepted, swap, tx, script, hid, htx, hmem, hscript, hle⟩ :=
      h ⟨hterms.payerAmountSat ▸ hzero.1, hterms.direction ▸ hzero.2⟩
    refine ⟨r, hterms.acceptedReceiverAmountSat.trans haccepted, swap, tx, script, ?_, htx, hmem, ?_, ?_⟩
    · exact hid.trans hterms.id.symm
    · exact (claimScript_of_sameTerms hterms).trans hscript
    · rwa [hterms.claimFeesSat]
  later e h hzero := by
    obtain ⟨r, haccepted, swap, tx, script, hid, htx, hmem, hpays⟩ := h hzero
    exact ⟨r, haccepted, swap, tx, script, hid, htx, List.mem_cons_of_mem e hmem, hpays⟩
  checked hmet hc hrow hzero := by
    obtain ⟨hterms, r, haccepted, hlt⟩ := hc.1 _ _ rfl _ hrow hzero
    exact paid_of_amountMet sdk hmet hterms hzero haccepted hlt
  unverified hc hrow := hc.2.1 _ _ rfl _ hrow
  accepted hc id row row' txId hrow hrow' h := hc.2.2 id row row' hrow hrow' txId h
  elsewhere {l w w'} hl hc _ hready id row' hrow' := by
    have hpaid : RowsPaid sdk w w' ∧ StaysPaid sdk w w' := by rcases hl with rfl | rfl <;> exact hc
    obtain ⟨hids, hkept⟩ := hpaid.1 id row' hrow'
    refine ⟨fun txId hserver => ?_, fun row hrow => ⟨fun hs => hkept ⟨row, hrow, hs⟩, ?_⟩⟩
    · rcases hids txId hserver with ⟨row, hrow, hold⟩ | h
      · exact hpaid.2 id row row' hrow hrow' txId (hready id row txId hrow hold)
      · exact h
    · exact hpaid.2 id row row' hrow hrow'

/-- **Zero-amount claims are paid.** In every run that keeps paid lockups paid, a zero-amount swap is claimed only with an
accepted amount, and a transaction with the id of its server lockup, which was checked before, pays that amount and the
claim fees to its claim script. -/
theorem zeroAmountClaims_paid {w : World} {c : Pool World Call Call.Answer Err Role} (hw : Fresh w)
    (hrun : Runs (chainSystem sdk) (KeepsPaid sdk) ⟨w, []⟩ c) :
    ∀ new old id s, c.state.trace = new ++ .claimReached id (some s) :: old →
      s.payerAmountSat = 0 → s.direction = .incoming →
        ∃ r swap tx script, s.acceptedReceiverAmountSat = some r ∧ s.serverLockupTxId = some tx.txid ∧
          swap.id = id ∧ .amountChecked swap tx ∈ old ∧ claimScript sdk s = .ok script ∧
          r + s.claimFeesSat ≤ tx.paysTo script := by
  intro new old id s hsplit hpayer hdirection
  obtain ⟨s', txId, hrow, hid, hserver, hpaid⟩ :=
    ((paid_guard sdk).inv hw hrun).claims new old id (some s) hsplit
  cases hrow
  obtain ⟨r, haccepted, swap, tx, script, hswap, rfl, hmem, hpays⟩ := hpaid ⟨hpayer, hdirection⟩
  exact ⟨r, swap, tx, script, haccepted, hserver, hswap.trans hid, hmem, hpays⟩

end Paid

/-! ## A paid claim and an unpaid one -/

/-- A zero-amount swap of 1000 sat, locked up by the user, whose proposed fees wait for acceptance. -/
def waitingForFees : ChainSwap :=
  { lockedIncoming with
    payerAmountSat := 0
    claimFeesSat := 20
    state := .waitingFeeAcceptance }

/-- The swap once 880 sat were accepted. -/
def acceptedFees : ChainSwap :=
  { waitingForFees with acceptedReceiverAmountSat := some 880, state := .pending }

def zeroAmountSdk : Sdk := { chainSdk with bz := .byAddress 0 }

def afterLockup (swap : ChainSwap) (value : Nat) : World :=
  runIn zeroAmountSdk (serverAnswers value)
    (onNewStatus zeroAmountSdk (serverUpdate "transaction.server.mempool")) (chainWorld swap)

/-- A check that is the newest event was made for the terms of the swap. -/
def checksTerms (s : ChainSwap) : List Event → Bool
  | .amountChecked swap _ :: _ => decide (SameTerms s swap)
  | _ => true

/-- Every row has the terms of the swap, and no lockup was marked unverified. -/
def TermsKept (s : ChainSwap) (w w' : World) : Prop :=
  notUnverified w'.trace = true ∧ checksTerms s w'.trace = true ∧
    (∀ row ∈ w.db.chainSwaps.rows, SameTerms s row) ∧
    ∀ row ∈ w'.db.chainSwaps.rows, SameTerms s row

instance (s : ChainSwap) (w w' : World) : Decidable (TermsKept s w w') :=
  inferInstanceAs (Decidable (_ ∧ _ ∧ _ ∧ _))

theorem keepsPaid_of_termsKept {w w' : World} (h : TermsKept acceptedFees w w') :
    KeepsPaid zeroAmountSdk (.own .handler) w w' := by
  obtain ⟨hmark, hcheck, hrows, hrows'⟩ := h
  refine ⟨fun swap tx htrace row hrow _ => ?_, fun id txId htrace => ?_,
    fun id row row' hrow hrow' txId hpaid => ?_⟩
  · have hterms := hrows row (Table.mem_of_get? hrow)
    rw [htrace] at hcheck
    refine ⟨(of_decide_eq_true hcheck : SameTerms acceptedFees swap).symm.trans hterms, 880,
      hterms.acceptedReceiverAmountSat, ?_⟩
    rw [hterms.claimFeesSat]
    decide
  · rw [htrace] at hmark
    cases hmark
  · have hterms := hrows row (Table.mem_of_get? hrow)
    have hterms' := hrows' row' (Table.mem_of_get? hrow')
    exact (paid_guard zeroAmountSdk).terms (hterms.symm.trans hterms') hpaid

/-- The claim of a zero-amount swap, with an accepted amount or without. -/
def isZeroAmountClaim (accepted : Bool) : Event → Bool
  | .claimReached _ (some s) =>
      s.payerAmountSat == 0 && s.direction == .incoming &&
        s.acceptedReceiverAmountSat.isSome == accepted
  | _ => false

theorem exists_zeroAmountClaim {accepted : Bool} {trace : List Event}
    (h : trace.any (isZeroAmountClaim accepted) = true) :
    ∃ new old id s, trace = new ++ .claimReached id (some s) :: old ∧ s.payerAmountSat = 0 ∧
      s.direction = .incoming ∧ s.acceptedReceiverAmountSat.isSome = accepted := by
  obtain ⟨new, e, old, hsplit, he⟩ := exists_split_of_any h
  unfold isZeroAmountClaim at he
  split at he
  · rename_i id s
    simp only [Bool.and_eq_true, beq_iff_eq] at he
    exact ⟨new, old, id, s, hsplit, he.1.1, he.1.2, he.2⟩
  · cases he

/-- The claim of the swap whose 880 sat were accepted, for a lockup of 900 sat. -/
theorem zeroAmountClaims_paid_accepted :
    ∃ new old id s, (afterLockup acceptedFees 900).trace =
        new ++ .claimReached id (some s) :: old ∧
      ∃ r swap tx script, s.acceptedReceiverAmountSat = some r ∧ s.serverLockupTxId = some tx.txid ∧
        swap.id = id ∧ .amountChecked swap tx ∈ old ∧ claimScript zeroAmountSdk s = .ok script ∧
        r + s.claimFeesSat ≤ tx.paysTo script := by
  have hsteps : Task.Steps (World.effect zeroAmountSdk) (serverAnswers 900)
      (TermsKept acceptedFees)
      (onNewStatus zeroAmountSdk (serverUpdate "transaction.server.mempool"))
      (0, chainWorld acceptedFees) := by decide +kernel
  have hfresh : Fresh (chainWorld acceptedFees) := by
    refine ⟨rfl, ?_⟩
    intro id row hrow
    rw [List.mem_singleton.mp (Table.mem_of_get? hrow)]
    rfl
  have hrun : Runs (chainSystem zeroAmountSdk) (KeepsPaid zeroAmountSdk) ⟨chainWorld acceptedFees, []⟩
      ⟨afterLockup acceptedFees 900, []⟩ := by
    refine runs_spawn_answers (serverAnswers_verifiesIds 900) (.status _) (fun _ => ⟨trivial, trivial⟩) ?_
    apply hsteps.mono
    intro w w' h
    exact keepsPaid_of_termsKept h
  have hclaim : (afterLockup acceptedFees 900).trace.any (isZeroAmountClaim true) = true := by
    decide +kernel
  obtain ⟨new, old, id, s, hsplit, hpayer, hdirection, -⟩ := exists_zeroAmountClaim hclaim
  exact ⟨new, old, id, s, hsplit,
    zeroAmountClaims_paid zeroAmountSdk hfresh hrun new old id s hsplit hpayer hdirection⟩

/-- While the fees wait for acceptance, a lockup of 10 sat passes the check and is claimed. -/
theorem zeroAmountClaim_unpaid :
    Runs (chainSystem zeroAmountSdk) .any ⟨chainWorld waitingForFees, []⟩
        ⟨afterLockup waitingForFees 10, []⟩ ∧
      ∃ new old id s, (afterLockup waitingForFees 10).trace =
          new ++ .claimReached id (some s) :: old ∧
        s.payerAmountSat = 0 ∧ s.direction = .incoming ∧ s.acceptedReceiverAmountSat = none := by
  have hclaim : (afterLockup waitingForFees 10).trace.any (isZeroAmountClaim false) = true := by
    decide +kernel
  obtain ⟨new, old, id, s, hsplit, hpayer, hdirection, hnone⟩ := exists_zeroAmountClaim hclaim
  refine ⟨runs_spawn_any_answers (serverAnswers_verifiesIds 10) (.status _), new, old, id, s, hsplit, hpayer,
    hdirection, ?_⟩
  simpa using hnone

end BreezLiquid.Chain
