/-
# BreezLiquid.Recover.LatestRefund — which of the outgoing transactions is recorded as the refund.

An unconfirmed transaction has height 0 or −1. Electrum says 0 when its parents are confirmed, Esplora says −1 of
every one. The handler looks for height 0 and falls back on the last outgoing transaction, so it finds an unconfirmed
one exactly if one has height 0 or the last one is unconfirmed.

`LooksUnconfirmed` is this condition on the list of outgoing transactions. `lastOutgoing_unconfirmed_iff` is about the
pick, `refundLatest_iff` about the recovered data of a swap. With our own claim known, one of the outgoing transactions
is the swapper's, so a refund is expected only if there are more.
-/
import BreezLiquid.Recover.Monotone

namespace BreezLiquid.Recover

namespace ChainReceiveSwapHandler

/-! ## The last outgoing transaction -/

theorem lastOutgoing_mem {ids : List BtcHistory} {h : BtcHistory} (hlast : lastOutgoing ids = some h) : h ∈ ids := by
  unfold lastOutgoing at hlast
  cases hzero : ids.reverse.find? fun h => h.height == 0 with
  | some zero =>
      rw [hzero, Option.some_or] at hlast
      cases hlast
      exact List.mem_reverse.mp (List.mem_of_find?_eq_some hzero)
  | none =>
      rw [hzero, Option.none_or] at hlast
      exact List.mem_of_getLast? hlast

/-- Some transaction has height 0, or the last one is unconfirmed. -/
def LooksUnconfirmed (ids : List BtcHistory) : Prop :=
  (∃ h ∈ ids, h.height = 0) ∨ ∃ last, ids.getLast? = some last ∧ last.confirmed = false

theorem confirmed_eq_false {h : BtcHistory} : h.confirmed = false ↔ h.height ≤ 0 := by
  unfold History.confirmed
  rw [decide_eq_false_iff_not]
  omega

/-- The entry that is picked is unconfirmed exactly if the list looks so. -/
theorem lastOutgoing_unconfirmed_iff {ids : List BtcHistory} {h : BtcHistory} (hlast : lastOutgoing ids = some h) :
    h.confirmed = false ↔ LooksUnconfirmed ids := by
  unfold lastOutgoing at hlast
  unfold LooksUnconfirmed
  cases hzero : ids.reverse.find? fun h => h.height == 0 with
  | some zero =>
      rw [hzero, Option.some_or] at hlast
      cases hlast
      have hheight : h.height = 0 := by simpa using List.find?_some hzero
      refine iff_of_true ?_ (.inl ⟨h, List.mem_reverse.mp (List.mem_of_find?_eq_some hzero), hheight⟩)
      rw [confirmed_eq_false]
      omega
  | none =>
      rw [hzero, Option.none_or] at hlast
      have hnone : ¬ ∃ h ∈ ids, h.height = 0 := by
        rintro ⟨zero, hmem, hheight⟩
        have hnot := List.find?_eq_none.mp hzero zero (List.mem_reverse.mpr hmem)
        rw [hheight] at hnot
        exact hnot rfl
      rw [or_iff_right hnone]
      constructor
      · intro hconfirmed
        exact ⟨h, hlast, hconfirmed⟩
      · rintro ⟨last, hlast', hconfirmed⟩
        rw [hlast] at hlast'
        cases hlast'
        exact hconfirmed

/-! ## The recorded refund -/

/-- The outgoing transactions as the history of the lockup script has them. -/
def outgoingIds (history : ReceiveChainSwapHistory) (lockupScript : Script) : List BtcHistory :=
  (btcLockupOutgoingTxs history lockupScript).filterMap (historyOf history.btcLockupScriptHistory)

/-- The wallet's claim of the swapper's lockup is in the history of the claim script. -/
def claimSeen (m : TxMap) (history : ReceiveChainSwapHistory) : Bool :=
  (determineIncomingLockupAndClaimTxs history.lbtcClaimScriptHistory m).2.isSome

/-- There is a refund to be recorded: an outgoing transaction, and with our claim known more than one, since one of
them is the swapper's claim. -/
def RefundExpected (history : ReceiveChainSwapHistory) (lockupScript : Script) (claimed : Bool) : Prop :=
  outgoingIds history lockupScript ≠ [] ∧
    (claimed = true → 1 < (btcLockupOutgoingTxs history lockupScript).length)

/-- The swap is taken for refunded, with the refund confirmed. -/
def TreatedAsRefunded (r : RecoveredOnchainDataChainReceive) : Prop :=
  ∃ refund, r.btcRefundTxId = some refund ∧ refund.confirmed = true

/-- The recorded refund is one of the outgoing transactions, and an unconfirmed one as long as there is one. -/
structure RefundLatest (r : RecoveredOnchainDataChainReceive) (ids : List BtcHistory) (expected : Prop) : Prop where
  recorded : r.btcRefundTxId.isSome ↔ expected
  outgoing : ∀ refund, r.btcRefundTxId = some refund → refund ∈ ids
  unconfirmed : (∃ h ∈ ids, h.confirmed = false) →
    ∀ refund, r.btcRefundTxId = some refund → refund.confirmed = false
  confirmed : (∀ h ∈ ids, h.confirmed = true) →
    ∀ refund, r.btcRefundTxId = some refund → refund.confirmed = true
  treated : TreatedAsRefunded r → ∀ h ∈ ids, h.confirmed = true

/-- The refund is the picked entry, where one is expected. -/
theorem refundTxId_eq_some {history : ReceiveChainSwapHistory} {lockupScript : Script} {claimed : Bool}
    {refund : BtcHistory} :
    refundTxId history lockupScript claimed = some refund ↔
      RefundExpected history lockupScript claimed ∧
        lastOutgoing (outgoingIds history lockupScript) = some refund := by
  have hne : lastOutgoing (outgoingIds history lockupScript) = some refund →
      outgoingIds history lockupScript ≠ [] := by
    intro hlast hnil
    rw [lastOutgoing_eq_none.mpr hnil] at hlast
    cases hlast
  unfold refundTxId RefundExpected
  cases claimed with
  | false =>
      show lastOutgoing (outgoingIds history lockupScript) = some refund ↔ _
      constructor
      · intro hlast
        refine ⟨⟨hne hlast, ?_⟩, hlast⟩
        intro h
        cases h
      · intro h
        exact h.2
  | true =>
      show (if 1 < (btcLockupOutgoingTxs history lockupScript).length
        then lastOutgoing (outgoingIds history lockupScript) else none) = some refund ↔ _
      split
      · rename_i hmany
        constructor
        · intro hlast
          exact ⟨⟨hne hlast, fun _ => hmany⟩, hlast⟩
        · intro h
          exact h.2
      · rename_i hmany
        refine iff_of_false ?_ ?_
        · intro h
          cases h
        · intro h
          exact hmany (h.1.2 rfl)

theorem refundTxId_isSome {history : ReceiveChainSwapHistory} {lockupScript : Script} {claimed : Bool} :
    (refundTxId history lockupScript claimed).isSome ↔ RefundExpected history lockupScript claimed := by
  constructor
  · intro h
    obtain ⟨refund, hrefund⟩ := Option.isSome_iff_exists.mp h
    exact (refundTxId_eq_some.mp hrefund).1
  · intro h
    obtain ⟨refund, hlast⟩ : ∃ refund, lastOutgoing (outgoingIds history lockupScript) = some refund := by
      rw [← Option.ne_none_iff_exists']
      intro hnone
      exact h.1 (lastOutgoing_eq_none.mp hnone)
    rw [refundTxId_eq_some.mpr ⟨h, hlast⟩]
    rfl

/-- For every history and its transactions, and all heights: the recorded refund is an unconfirmed one as long as
there is one, exactly if none is expected, or none is unconfirmed, or one has height 0, or the last is unconfirmed. -/
theorem refundLatest_iff {addressFromScript : Script → Option Address} {m : TxMap}
    {history : ReceiveChainSwapHistory} {lockupScript : Script} :
    RefundLatest (recoverOnchainData addressFromScript m history lockupScript) (outgoingIds history lockupScript)
        (RefundExpected history lockupScript (claimSeen m history)) ↔
      ¬ RefundExpected history lockupScript (claimSeen m history) ∨
        (∀ h ∈ outgoingIds history lockupScript, h.confirmed = true) ∨
        LooksUnconfirmed (outgoingIds history lockupScript) := by
  have hrecorded : (recoverOnchainData addressFromScript m history lockupScript).btcRefundTxId =
      refundTxId history lockupScript (claimSeen m history) :=
    recoverOnchainData_btcRefundTxId addressFromScript m history lockupScript
  generalize claimSeen m history = claimed at hrecorded ⊢
  have hmem : ∀ refund, refundTxId history lockupScript claimed = some refund →
      refund ∈ outgoingIds history lockupScript := by
    intro refund hrefund
    exact lastOutgoing_mem (refundTxId_eq_some.mp hrefund).2
  constructor
  · intro hlatest
    by_cases hexpected : RefundExpected history lockupScript claimed
    · by_cases hall : ∀ h ∈ outgoingIds history lockupScript, h.confirmed = true
      · exact .inr (.inl hall)
      · push Not at hall
        obtain ⟨h, hmem, hconfirmed⟩ := hall
        obtain ⟨refund, hrefund⟩ := Option.isSome_iff_exists.mp (refundTxId_isSome.mpr hexpected)
        have hunconfirmed := hlatest.unconfirmed ⟨h, hmem, Bool.eq_false_of_not_eq_true hconfirmed⟩ refund
          (hrecorded.trans hrefund)
        exact .inr (.inr ((lastOutgoing_unconfirmed_iff (refundTxId_eq_some.mp hrefund).2).mp hunconfirmed))
    · exact .inl hexpected
  · intro hcond
    -- what the three cases come to: an unconfirmed one is not passed over
    have hseen : ∀ refund, refundTxId history lockupScript claimed = some refund →
        (∃ h ∈ outgoingIds history lockupScript, h.confirmed = false) → refund.confirmed = false := by
      rintro refund hrefund ⟨h, hmem, hconfirmed⟩
      obtain ⟨hexpected, hlast⟩ := refundTxId_eq_some.mp hrefund
      rcases hcond with hnone | hall | hlooks
      · exact absurd hexpected hnone
      · rw [hall h hmem] at hconfirmed
        cases hconfirmed
      · exact (lastOutgoing_unconfirmed_iff hlast).mpr hlooks
    constructor
    · rw [hrecorded]
      exact refundTxId_isSome
    · intro refund hrefund
      exact hmem refund (hrecorded.symm.trans hrefund)
    · intro hunconfirmed refund hrefund
      exact hseen refund (hrecorded.symm.trans hrefund) hunconfirmed
    · intro hall refund hrefund
      exact hall refund (hmem refund (hrecorded.symm.trans hrefund))
    · rintro ⟨refund, hrefund, hconfirmed⟩ h hmem
      by_contra hnot
      have hunconfirmed := hseen refund (hrecorded.symm.trans hrefund)
        ⟨h, hmem, Bool.eq_false_of_not_eq_true hnot⟩
      rw [hconfirmed] at hunconfirmed
      cases hunconfirmed

/-- Two lockups, each with a refund, the second refund unconfirmed; newest first, as Esplora lists them. -/
def esploraHistory : ReceiveChainSwapHistory where
  lbtcClaimScriptHistory := []
  btcLockupScriptHistory := [⟨"refund2", -1⟩, ⟨"refund1", 110⟩, ⟨"lockup2", 100⟩, ⟨"lockup1", 90⟩]
  btcLockupScriptTxs :=
    [{ txid := "refund2", output := [⟨900, "user"⟩] }, { txid := "refund1", output := [⟨900, "user"⟩] },
      { txid := "lockup2", output := [⟨1000, "script"⟩] }, { txid := "lockup1", output := [⟨1000, "script"⟩] }]
  btcLockupScriptBalance := none

/-- The confirmed refund is recorded, and the swap taken for refunded. -/
theorem refundLatest_esplora :
    ¬ RefundLatest (recoverOnchainData (fun _ => none) ⟨∅, ∅⟩ esploraHistory "script")
        (outgoingIds esploraHistory "script") (RefundExpected esploraHistory "script" false) ∧
      (recoverOnchainData (fun _ => none) ⟨∅, ∅⟩ esploraHistory "script").btcRefundTxId = some ⟨"refund1", 110⟩ ∧
      ⟨"refund2", -1⟩ ∈ outgoingIds esploraHistory "script" := by
  have hrefund : (recoverOnchainData (fun _ => none) ⟨∅, ∅⟩ esploraHistory "script").btcRefundTxId =
      some ⟨"refund1", 110⟩ := by decide
  have hmem : ⟨"refund2", -1⟩ ∈ outgoingIds esploraHistory "script" := by decide
  refine ⟨?_, hrefund, hmem⟩
  intro hlatest
  have hunconfirmed := hlatest.unconfirmed ⟨_, hmem, by decide⟩ _ hrefund
  exact absurd hunconfirmed (by decide)

end ChainReceiveSwapHandler

end BreezLiquid.Recover
