/-
# BreezLiquid.Chain.MonitoredRefunds — refunds that confirm while the swap is monitored, and after.

A swap that is monitored is recovered among others. Writing the others leaves its row, and its own write is
taken, since its row still has the version it was read with (`failed_syncMonitored`). But an outgoing chain swap is
dropped as soon as one of its two timeouts has passed, and that is when its lockup can be refunded without the
swapper: a refund that confirms then is not seen.
-/
import BreezLiquid.Chain.Monitoring

namespace BreezLiquid

open Interleaving Tables Recover

namespace Chain

/-! ## A refund that confirms -/

/-- The state in the row of a swap. -/
def stateIn (db : Db) : Swap → Option PaymentState
  | .send s => (db.sendSwaps.get? s.id).map SendSwap.state
  | .receive s => (db.receiveSwaps.get? s.id).map ReceiveSwap.state
  | .chain s => (db.chainSwaps.get? s.id).map ChainSwap.state

/-- What a recovery makes of a swap when it finds the lockup and the refund, which is confirmed, and no claim. -/
inductive Refunded (sdk : Sdk) : Swap → Swap → Prop where
  | send {s : SendSwap} {r : RecoveredOnchainDataSend} {refund : LBtcHistory} (height : Nat)
      (isWithinGracePeriod : Bool) (hlockup : r.lockupTxId.isSome) (hrefund : r.refundTxId = some refund)
      (hconfirmed : refund.confirmed = true) (hpreimage : s.preimage = none ∧ r.preimage = none) :
      Refunded sdk (.send s)
        (.send (SendSwapHandler.updateSwap sdk.verifyPaymentHash s r height isWithinGracePeriod))
  | outgoing {s : ChainSwap} {r : RecoveredOnchainDataChainSend} {refund : LBtcHistory}
      (liquidHeight bitcoinHeight : Nat) (isWithinGracePeriod : Bool) (hlockup : r.lbtcUserLockupTxId.isSome)
      (hrefund : r.lbtcRefundTxId = some refund) (hconfirmed : refund.confirmed = true)
      (hclaim : s.claimTxId = none ∧ r.btcClaimTxId = none) :
      Refunded sdk (.chain s)
        (.chain (ChainSendSwapHandler.updateSwap s r liquidHeight bitcoinHeight isWithinGracePeriod))

/-- A refunded send swap has failed, and was not paid. -/
theorem state_updateSwap_send (verifyPaymentHash : String → String → Bool) {s : SendSwap}
    {r : RecoveredOnchainDataSend} {refund : LBtcHistory} (height : Nat) (isWithinGracePeriod : Bool)
    (hlockup : r.lockupTxId.isSome) (hrefund : r.refundTxId = some refund) (hconfirmed : refund.confirmed = true)
    (hpreimage : s.preimage = none ∧ r.preimage = none) :
    (SendSwapHandler.updateSwap verifyPaymentHash s r height isWithinGracePeriod).state = .failed ∧
      (SendSwapHandler.updateSwap verifyPaymentHash s r height isWithinGracePeriod).preimage = none := by
  obtain ⟨lockup, hlockup⟩ := Option.isSome_iff_exists.mp hlockup
  have hskip : SendSwapHandler.shouldSkipRecovery s r isWithinGracePeriod = false := by
    unfold SendSwapHandler.shouldSkipRecovery
    rw [hlockup, hrefund]
    simp
  have hstate : ∀ isExpired, SendSwapHandler.derivePartialState r none isExpired = some .failed := by
    intro isExpired
    simp [SendSwapHandler.derivePartialState, hlockup, hrefund, hconfirmed]
  unfold SendSwapHandler.updateSwap
  rw [if_neg (by rw [hskip]; decide)]
  simp [hpreimage.1, hpreimage.2, hstate]

/-- A refunded outgoing swap has failed. -/
theorem state_updateSwap_outgoing {s : ChainSwap} {r : RecoveredOnchainDataChainSend} {refund : LBtcHistory}
    (liquidHeight bitcoinHeight : Nat) (isWithinGracePeriod : Bool) (hlockup : r.lbtcUserLockupTxId.isSome)
    (hrefund : r.lbtcRefundTxId = some refund) (hconfirmed : refund.confirmed = true)
    (hclaim : s.claimTxId = none ∧ r.btcClaimTxId = none) :
    (ChainSendSwapHandler.updateSwap s r liquidHeight bitcoinHeight isWithinGracePeriod).state = .failed := by
  obtain ⟨lockup, hlockup⟩ := Option.isSome_iff_exists.mp hlockup
  have hskip : ChainSendSwapHandler.shouldSkipRecovery s r isWithinGracePeriod = false := by
    unfold ChainSendSwapHandler.shouldSkipRecovery
    rw [hlockup, hrefund, hclaim.1]
    simp
  have hstate : ∀ isExpired, ChainSendSwapHandler.derivePartialState r isExpired = some .failed := by
    intro isExpired
    simp [ChainSendSwapHandler.derivePartialState, hlockup, hrefund, hclaim.2, hconfirmed]
  unfold ChainSendSwapHandler.updateSwap
  rw [if_neg (by rw [hskip]; decide)]
  simp [hstate]

theorem stateIn_of_rowKept {db db' : Db} {swap : Swap} (h : RowKept db db' swap) :
    stateIn db' swap = stateIn db swap := by
  cases swap with
  | send s => exact congrArg (Option.map SendSwap.state) h
  | receive s => exact congrArg (Option.map ReceiveSwap.state) h
  | chain s => exact congrArg (Option.map ChainSwap.state) h

section Writes

variable (p : Persister) (now : Nat) {db : Db}

/-- A whole-row write over a row of its version is taken. -/
theorem get?_insertOrUpdateChainSwap_self (read : Option ChainSwap) {s row : ChainSwap}
    (hrow : db.chainSwaps.get? s.id = some row) (hversion : row.metadata.version = s.metadata.version) :
    ∃ db', db.insertOrUpdateChainSwap p now read s = .ok db' ∧
      db'.chainSwaps.get? s.id = some { Db.chainSwapUpdate s row with metadata := row.metadata.touch now } := by
  have hkey : row.id = s.id := Table.get?_some_key hrow
  have hguard : (db.chainSwaps.insertNew (Db.chainSwapInsert s)).rows.any (fun row =>
      decide (row.id = s.id) && decide (row.metadata.version = s.metadata.version)) = true := by
    refine List.any_eq_true.mpr ⟨row, Table.mem_of_get? (k := s.id) ?_, by simp [hkey, hversion]⟩
    rw [Table.get?_insertNew, hrow, Option.some_or]
  cases hwrite : db.insertOrUpdateChainSwap p now read s with
  | error err =>
      unfold Db.insertOrUpdateChainSwap Db.insertOrUpdateChainSwapInner at hwrite
      dsimp only at hwrite
      rw [if_pos hguard] at hwrite
      cases hwrite
  | ok db' =>
      obtain ⟨db₁, hinner, heq⟩ := Db.insertOrUpdateChainSwap_ok hwrite
      refine ⟨db', rfl, ?_⟩
      rw [heq, Db.get?_insertOrUpdateChainSwapInner hinner, hrow, Option.some_or, Option.map_some,
        if_pos ⟨hkey, hversion⟩]

theorem get?_insertOrUpdateSendSwap_self (read : Option SendSwap) {s row : SendSwap}
    (hrow : db.sendSwaps.get? s.id = some row) (hversion : row.metadata.version = s.metadata.version) :
    ∃ db', db.insertOrUpdateSendSwap p now read s = .ok db' ∧
      db'.sendSwaps.get? s.id = some { Db.sendSwapUpdate s row with metadata := row.metadata.touch now } := by
  have hkey : row.id = s.id := Table.get?_some_key hrow
  have hguard : ∀ db₁ : Db, db₁.sendSwaps.get? s.id = some row → db₁.sendSwaps.rows.any (fun row =>
      decide (row.id = s.id) && decide (row.metadata.version = s.metadata.version)) = true := by
    intro db₁ hrow₁
    exact List.any_eq_true.mpr ⟨row, Table.mem_of_get? hrow₁, by simp [hkey, hversion]⟩
  have hinserted : (db.sendSwaps.insertNew (Db.sendSwapInsert s)).get? s.id = some row := by
    rw [Table.get?_insertNew, hrow, Option.some_or]
  cases hwrite : db.insertOrUpdateSendSwap p now read s with
  | error err =>
      unfold Db.insertOrUpdateSendSwap Db.insertOrUpdateSendSwapInner at hwrite
      dsimp only at hwrite
      split at hwrite
      · rw [if_pos (hguard db hrow)] at hwrite
        cases hwrite
      · rw [if_pos (hguard { db with sendSwaps := db.sendSwaps.insertNew (Db.sendSwapInsert s) } hinserted)] at hwrite
        cases hwrite
  | ok db' =>
      obtain ⟨db₁, hinner, hqueued⟩ := except_bind_eq_ok.mp hwrite
      cases hqueued
      refine ⟨_, rfl, ?_⟩
      rw [Db.commitUpdatedFields_sendSwaps, Db.get?_insertOrUpdateSendSwapInner hinner hrow, if_pos ⟨hkey, hversion⟩]

variable (sdk : Sdk) (ans : Nat → (q : Call) → q.Answer)

/-- A recovered swap is written over a row of its version that has another state. -/
theorem stateIn_persistRecoveredSwap_chain {w : Nat × World} {s row : ChainSwap}
    (hrow : w.2.db.chainSwaps.get? s.id = some row) (hversion : row.metadata.version = s.metadata.version)
    (hne : row.state ≠ s.state) :
    stateIn ((persistRecoveredSwap sdk (.chain s)).run (World.effect sdk) ans w).2.2.db (.chain s) = some s.state := by
  have hfetch : w.2.db.fetchChainSwapById s.id = some (row.withIsLocal (w.2.db.isLocal row.id)) := by
    unfold Db.fetchChainSwapById
    rw [hrow, Option.map_some]
  have hsame : s.sameAs (row.withIsLocal (w.2.db.isLocal row.id)) = false :=
    decide_eq_false fun heq => hne (congrArg ChainSwap.state heq).symm
  obtain ⟨db, hwrite, hget⟩ := get?_insertOrUpdateChainSwap_self sdk.persister w.2.now
    (w.2.db.fetchChainSwapById s.id) hrow hversion
  have hdb : ((persistRecoveredSwap sdk (.chain s)).run (World.effect sdk) ans w).2.2.db = db := by
    rw [hfetch] at hwrite
    simp only [persistRecoveredSwap, updateSwap, fetchChainSwapById, insertOrUpdateChainSwap, Task.bind_eq,
      Task.run_bind, Task.run_attempt, run_fetch, hfetch, okOr, Task.ofExcept, Task.run_done, hsame,
      Bool.not_false, if_true, run_tryWrite, World.tryWrite, hwrite]
    rfl
  rw [hdb]
  show (db.chainSwaps.get? s.id).map ChainSwap.state = _
  rw [hget]
  rfl

theorem stateIn_persistRecoveredSwap_send {w : Nat × World} {s row : SendSwap}
    (hrow : w.2.db.sendSwaps.get? s.id = some row) (hversion : row.metadata.version = s.metadata.version)
    (hne : row.state ≠ s.state) (hpreimage : s.preimage = none) :
    stateIn ((persistRecoveredSwap sdk (.send s)).run (World.effect sdk) ans w).2.2.db (.send s) = some s.state := by
  have hfetch : w.2.db.fetchSendSwapById s.id = some (row.withIsLocal (w.2.db.isLocal row.id)) := by
    unfold Db.fetchSendSwapById
    rw [hrow, Option.map_some]
  have hsame : s.sameAs (row.withIsLocal (w.2.db.isLocal row.id)) = false :=
    decide_eq_false fun heq => hne (congrArg SendSwap.state heq).symm
  have hlnurl : Send.updateSwapLnurlInfo sdk (row.withIsLocal (w.2.db.isLocal row.id)) s = Task.done (.ok false) := by
    unfold Send.updateSwapLnurlInfo
    rw [hpreimage]
    split <;> first | rfl | contradiction
  obtain ⟨db, hwrite, hget⟩ := get?_insertOrUpdateSendSwap_self sdk.persister w.2.now
    (w.2.db.fetchSendSwapById s.id) hrow hversion
  have hdb : ((persistRecoveredSwap sdk (.send s)).run (World.effect sdk) ans w).2.2.db = db := by
    rw [hfetch] at hwrite
    simp only [persistRecoveredSwap, Send.updateSwap, Send.fetchSendSwapById, Send.insertOrUpdateSendSwap,
      Task.bind_eq, Task.run_bind, Task.run_attempt, run_fetch, hfetch, okOr, Task.ofExcept, Task.run_done, hlnurl,
      hsame, Bool.not_false, true_or, if_true, run_tryWrite, World.tryWrite, hwrite]
    rfl
  rw [hdb]
  show (db.sendSwaps.get? s.id).map SendSwap.state = _
  rw [hget]
  rfl

/-- A live swap that is recovered as refunded has failed in its row, once that is written. -/
theorem failed_persistRecoveredSwap {db : Db} {w : Nat × World} {swap recovered : Swap} (hlive : Live db swap)
    (hkept : RowKept db w.2.db swap) (hsame : Recover.SameRow swap recovered)
    (hrefunded : Refunded sdk swap recovered) :
    stateIn ((persistRecoveredSwap sdk recovered).run (World.effect sdk) ans w).2.2.db swap = some .failed := by
  cases hrefunded with
  | @send s r refund height isWithinGracePeriod hlockup hrefund hconfirmed hpreimage =>
      obtain ⟨hfailed, hunpaid⟩ :=
        state_updateSwap_send sdk.verifyPaymentHash height isWithinGracePeriod hlockup hrefund hconfirmed hpreimage
      generalize SendSwapHandler.updateSwap sdk.verifyPaymentHash s r height isWithinGracePeriod = s' at *
      obtain ⟨hid, hversion, -⟩ := hsame
      cases hlive with
      | send hfetched hlockup hstate =>
          obtain ⟨row, hrow, heq⟩ := Db.fetchSendSwapById_eq_some hfetched
          have hrow' : w.2.db.sendSwaps.get? s'.id = some row := by
            rw [show s'.id = s.id from hid]
            exact (show w.2.db.sendSwaps.get? s.id = _ from hkept).trans hrow
          have hwritten := stateIn_persistRecoveredSwap_send sdk ans hrow' ?_ ?_ hunpaid
          · rw [hfailed] at hwritten
            rw [← hwritten]
            show (Table.get? _ s.id).map _ = (Table.get? _ s'.id).map _
            rw [show s'.id = s.id from hid]
          · exact (congrArg (fun s : SendSwap => s.metadata.version) heq).symm.trans (Eq.symm hversion)
          · rw [hfailed]
            exact fun h => hstate.2 ((congrArg SendSwap.state heq).trans h)
  | @outgoing s r refund liquidHeight bitcoinHeight isWithinGracePeriod hlockup hrefund hconfirmed hclaim =>
      have hfailed :=
        state_updateSwap_outgoing liquidHeight bitcoinHeight isWithinGracePeriod hlockup hrefund hconfirmed hclaim
      generalize ChainSendSwapHandler.updateSwap s r liquidHeight bitcoinHeight isWithinGracePeriod = s' at *
      obtain ⟨hid, hversion, -⟩ := hsame
      cases hlive with
      | outgoing hfetched hdirection hlockup hstate =>
          obtain ⟨row, hrow, heq⟩ := Db.fetchChainSwapById_eq_some hfetched
          have hrow' : w.2.db.chainSwaps.get? s'.id = some row := by
            rw [show s'.id = s.id from hid]
            exact (show w.2.db.chainSwaps.get? s.id = _ from hkept).trans hrow
          have hwritten := stateIn_persistRecoveredSwap_chain sdk ans hrow' ?_ ?_
          · rw [hfailed] at hwritten
            rw [← hwritten]
            show (Table.get? _ s.id).map _ = (Table.get? _ s'.id).map _
            rw [show s'.id = s.id from hid]
          · exact (congrArg (fun s : ChainSwap => s.metadata.version) heq).symm.trans (Eq.symm hversion)
          · rw [hfailed]
            exact fun h => hstate.2 ((congrArg ChainSwap.state heq).trans h)

end Writes

/-! ## The rows of the selected swaps -/

/-- The table and the key of a swap. -/
def rowOf (swap : Swap) : RecordType × SwapId := (swap.recordType, swap.id)

/-- A listing of a table names each of its rows once. -/
theorem nodup_listing {ρ : Type} {key : ρ → SwapId} {t : Table key} {createdAt : ρ → Nat} {g : ρ → ρ} {test : ρ → Bool}
    {toSwap : ρ → Swap} {type : RecordType} (hkey : ∀ s, key (g s) = key s)
    (hrow : ∀ s, rowOf (toSwap s) = (type, key s)) :
    (((((orderByCreatedAt createdAt t.rows).map g).filter test).map toSwap).map rowOf).Nodup := by
  have hrows : ((orderByCreatedAt createdAt t.rows).map key).Nodup :=
    ((List.perm_insertionSort _ t.rows).map key).nodup_iff.mpr t.nodup
  have hlisted : (((orderByCreatedAt createdAt t.rows).map g).map key).Nodup := by
    rw [List.map_map, show key ∘ g = key from funext hkey]
    exact hrows
  rw [List.map_map, show rowOf ∘ toSwap = Prod.mk type ∘ key from funext hrow, ← List.map_map]
  exact (hlisted.sublist (List.filter_sublist.map key)).map (Prod.mk_right_injective type)

/-- No swap is selected twice. -/
theorem nodup_monitored (db : Db) (includeExpired : Bool) (tips : ChainTips) :
    ((db.getMonitoredSwapsList false includeExpired tips).map rowOf).Nodup := by
  have hreceive : ((db.listRecoverableReceiveSwaps.map Swap.receive).map rowOf).Nodup :=
    nodup_listing (fun _ => rfl) fun _ => rfl
  have hsend : ((db.listRecoverableSendSwaps.map Swap.send).map rowOf).Nodup :=
    nodup_listing (fun _ => rfl) fun _ => rfl
  have hchain : ∀ test : ChainSwap → Bool, (((db.listChainSwaps.filter test).map Swap.chain).map rowOf).Nodup :=
    fun test => nodup_listing (fun _ => rfl) fun _ => rfl
  have htable : ∀ {ρ : Type} (toSwap : ρ → Swap) (type : RecordType) (l : List ρ),
      (∀ s, (toSwap s).recordType = type) → ∀ row ∈ (l.map toSwap).map rowOf, row.1 = type := by
    intro ρ toSwap type l htype row hrow
    obtain ⟨swap, hswap, rfl⟩ := List.mem_map.mp hrow
    obtain ⟨s, -, rfl⟩ := List.mem_map.mp hswap
    exact htype s
  have hreceiveRow := htable Swap.receive .receive db.listRecoverableReceiveSwaps fun _ => rfl
  have hsendRow := htable Swap.send .send db.listRecoverableSendSwaps fun _ => rfl
  have happart : ∀ {type type' : RecordType} {row row' : RecordType × SwapId}, type ≠ type' → row.1 = type →
      row'.1 = type' → row ≠ row' :=
    fun htype hrow hrow' heq => htype (hrow.symm.trans ((congrArg Prod.fst heq).trans hrow'))
  unfold Db.getMonitoredSwapsList
  rw [if_neg (by decide)]
  split
  · rw [List.map_append, List.nodup_append]
    exact ⟨hreceive, hsend, fun a ha b hb => happart (by decide) (hreceiveRow a ha) (hsendRow b hb)⟩
  · rename_i bitcoinTip hbitcoinTip
    have hchainRow := htable Swap.chain .chain
      (db.listChainSwaps.filter (Db.isMonitored includeExpired tips.liquidTip bitcoinTip)) fun _ => rfl
    rw [List.map_append, List.map_append, List.nodup_append, List.nodup_append]
    refine ⟨hreceive, ⟨hsend, hchain _, fun a ha b hb => happart (by decide) (hsendRow a ha) (hchainRow b hb)⟩, ?_⟩
    intro a ha b hb
    rcases List.mem_append.mp hb with hb | hb
    · exact happart (by decide) (hreceiveRow a ha) (hsendRow b hb)
    · exact happart (by decide) (hreceiveRow a ha) (hchainRow b hb)

/-! ## The write among the others -/

section Round

variable (sdk : Sdk) (ans : Nat → (q : Call) → q.Answer)

/-- The writing of a recovered swap does not fail: its errors are logged. -/
theorem persistRecoveredSwap_returns (recovered : Swap) :
    (persistRecoveredSwap sdk recovered).Yields fun x => x = .ok () := by
  have hreturns : ∀ {α : Type} (t : Async α), (t.attempt.bind fun _ => pure ()).Yields fun x => x = Except.ok () := by
    intro α t
    refine Task.Yields.bind (Task.Yields.attempt ((Task.yields_true t).mono fun x _ => ?_))
    rfl
  cases recovered with
  | receive s => exact hreturns _
  | send s => exact hreturns _
  | chain s => exact hreturns _

/-- A recovery goes on with the rows that were selected. -/
theorem map_rowOf_of_forall₂ {swaps : List Swap} {results : List (Swap × Outcome)}
    (h : List.Forall₂ Recovers swaps results) : (results.map Prod.fst).map rowOf = swaps.map rowOf := by
  induction h with
  | nil => rfl
  | cons hrecovers _ ih =>
      obtain ⟨⟨hid, -, htype⟩, -⟩ := hrecovers
      rw [List.map_cons, List.map_cons, List.map_cons, ih]
      congr 1
      exact Prod.ext htype hid

/-- The selected swaps are recovered to these results. -/
def RecoversTo (includeExpired : Bool) (tips : ChainTips) (w : Nat × World) (results : List (Swap × Outcome)) : Prop :=
  ((Recoverer.recoverFromOnchain sdk (w.2.db.getMonitoredSwapsList false includeExpired tips) (some tips)).run
    (World.effect sdk) ans w).1.map Prod.fst = .ok results

/-- A selected swap is recovered, and one whose refund was found confirmed fails. -/
theorem failed_syncMonitored {w : Nat × World} {swap : Swap} (hlive : Live w.2.db swap) {includeExpired : Bool}
    {tips : ChainTips} (hmem : swap ∈ w.2.db.getMonitoredSwapsList false includeExpired tips)
    {results : List (Swap × Outcome)} (hrun : RecoversTo sdk ans includeExpired tips w results) :
    ∃ result ∈ results, Recover.SameRow swap result.1 ∧ (Refunded sdk swap result.1 →
      stateIn ((syncMonitored sdk includeExpired tips).run (World.effect sdk) ans w).2.2.db swap = some .failed) := by
  have hswap : ∀ s, swap ≠ .receive s := by
    rintro s rfl
    cases hlive
  have hnodup := nodup_monitored w.2.db includeExpired tips
  unfold RecoversTo at hrun
  unfold syncMonitored syncPaymentsWithChainData
  rw [Task.bind_eq, Task.run_bind, run_fetch]
  dsimp only
  generalize w.2.db.getMonitoredSwapsList false includeExpired tips = swaps at *
  rw [Task.bind_eq, Task.run_bind]
  have hdb : ((Recoverer.recoverFromOnchain sdk swaps (some tips)).run (World.effect sdk) ans w).2.2.db =
      w.2.db := by
    refine Task.run_preserves _ ans World.db ?_ ?_ (readOnly_recoverFromOnchain sdk swaps (some tips)) w
    · rintro f rfl w
      rfl
    · intro q hq a w
      exact effect_db sdk q a w
  have hyields := (recoverFromOnchain_recovers sdk swaps (some tips)).run (World.effect sdk) ans w
  generalize (Recoverer.recoverFromOnchain sdk swaps (some tips)).run (World.effect sdk) ans w = res at *
  obtain ⟨x, w'⟩ := res
  obtain ⟨out, hx, rfl⟩ : ∃ out, x = .ok out ∧ out.1 = results := by
    cases x with
    | error err => cases hrun
    | ok out => exact ⟨out, rfl, Except.ok.inj hrun⟩
  subst hx
  obtain ⟨results, txs⟩ := out
  have hresults := hyields results txs rfl
  obtain ⟨result, hresult, hsame, -⟩ := Collections.exists_partner hresults.flip hmem
  refine ⟨result, hresult, hsame, fun hrefunded => ?_⟩
  obtain ⟨pre, post, rfl⟩ := List.append_of_mem hresult
  -- the writes before and after are of other rows
  rw [← map_rowOf_of_forall₂ hresults, List.map_map, List.map_append, List.map_cons, List.nodup_middle,
    List.nodup_cons] at hnodup
  have hothers : ∀ other ∈ pre ++ post, (persistRecoveredSwap sdk other.1).Within (SparesRow swap) Call.Quiet := by
    intro other hother
    refine within_persistRecoveredSwap sdk hswap fun htype hid => hnodup.1 ?_
    rw [← List.map_append]
    refine List.mem_map.mpr ⟨other, hother, ?_⟩
    exact Prod.ext (htype.trans hsame.2.2.symm) (hid.trans hsame.1.symm)
  have hpre := rowKept_run sdk ans (Task.Within.forEach fun other hother =>
    hothers other (List.mem_append_left _ hother)) w'
  have hpost := rowKept_run sdk ans (Task.Within.forEach fun other hother =>
    hothers other (List.mem_append_right _ hother))
  have hreturns : ∀ result : Swap × Outcome, (persistRecoveredSwap sdk result.1).Yields fun x => x = .ok () :=
    fun result => persistRecoveredSwap_returns sdk result.1
  dsimp only
  rw [Task.run_forEach_append _ _ hreturns, Task.forEach, Task.run_bind]
  generalize (Task.forEach pre fun result => persistRecoveredSwap sdk result.1).run (World.effect sdk) ans w' = before
    at hpre ⊢
  have hfailed := failed_persistRecoveredSwap sdk ans (w := before.2) hlive
    (show RowKept w.2.db before.2.2.db swap from hdb ▸ hpre) hsame hrefunded
  have hdone := (hreturns result).run (World.effect sdk) ans before.2
  generalize (persistRecoveredSwap sdk result.1).run (World.effect sdk) ans before.2 = res at hfailed hdone ⊢
  obtain ⟨x, after⟩ := res
  subst hdone
  exact (stateIn_of_rowKept (hpost after)).trans hfailed

/-- A live send swap is selected by its state, and a live outgoing chain swap while both of its timeouts lie
ahead, whatever became of its lockup. One that is not selected keeps its row, whatever the services answer: a
refund that confirms then is never seen. One that is selected is recovered, and fails if its refund was found
confirmed. -/
theorem monitored_iff {w : Nat × World} {swap : Swap} (hlive : Live w.2.db swap) (includeExpired : Bool)
    (liquidTip bitcoinTip : Nat) :
    (swap ∈ w.2.db.getMonitoredSwapsList false includeExpired ⟨liquidTip, some bitcoinTip⟩ ↔
      InScope liquidTip bitcoinTip swap) ∧
    (¬ InScope liquidTip bitcoinTip swap →
      RowKept w.2.db ((syncMonitored sdk includeExpired ⟨liquidTip, some bitcoinTip⟩).run (World.effect sdk)
        ans w).2.2.db swap) ∧
    (InScope liquidTip bitcoinTip swap →
      ∀ results, RecoversTo sdk ans includeExpired ⟨liquidTip, some bitcoinTip⟩ w results →
        ∃ result ∈ results, Recover.SameRow swap result.1 ∧ (Refunded sdk swap result.1 →
          stateIn ((syncMonitored sdk includeExpired ⟨liquidTip, some bitcoinTip⟩).run (World.effect sdk)
            ans w).2.2.db swap = some .failed)) := by
  have hmem : swap ∈ w.2.db.getMonitoredSwapsList false includeExpired ⟨liquidTip, some bitcoinTip⟩ ↔
      InScope liquidTip bitcoinTip swap := mem_monitored_iff hlive
  refine ⟨hmem, fun hnot => ?_, fun hscope results hrun => ?_⟩
  · exact rowKept_syncMonitored sdk ans hlive fun h => hnot (hmem.mp h)
  · exact failed_syncMonitored sdk ans hlive (hmem.mpr hscope) hrun

end Round

/-! ## A swap that is refunded at its timeout -/

/-- A client whose Liquid lockups time out at height 100. -/
def timeoutSdk : Sdk :=
  { chainSdk with
    bz := { chainSdk.bz with
      lbtcChainScript := fun _ details _ =>
        some ⟨some details.lockupAddress, some details.lockupAddress, .blocks 100⟩ } }

def refundAnswers : Nat → (q : Call) → q.Answer
  | _, .nextUnusedAddress => .ok "address"
  | _, .liquidScriptUtxos _ => .ok []
  | _, .createRefundTx .. => .ok (.liquid { txid := "refund" })
  | _, .liquidBroadcast _ tx => .ok tx.txid
  | _, q => q.offline

/-- The world after the Liquid block at a height. -/
def atLiquidBlock (height : Nat) : World :=
  runIn timeoutSdk refundAnswers (onLiquidBlock timeoutSdk height) (chainWorld lockedOutgoing)

/-- The swap once its refund was broadcast. -/
def refundedOutgoing : ChainSwap :=
  { lockedOutgoing with
    state := .refundPending
    refundTxId := some "refund"
    refundAddress := some "address"
    metadata := { version := 4, isLocal := true } }

theorem live_refundedOutgoing {height : Nat}
    (h : (atLiquidBlock height).db.fetchChainSwapById "s" = some refundedOutgoing) :
    Live (atLiquidBlock height).db (.chain refundedOutgoing) :=
  .outgoing h rfl rfl ⟨nofun, nofun⟩

/-- Services that saw the refund confirm. -/
def confirmedAnswers : Nat → (q : Call) → q.Answer
  | _, .fullScan => .ok ()
  | _, .transactionsByTxId =>
      .ok [{ txid := "lockup", balance := .ofList [("lbtc", -1000)] },
        { txid := "refund", balance := .ofList [("lbtc", 990)] }]
  | _, .liquidScriptsHistory scripts => .ok (scripts.map fun _ => [⟨"lockup", 50⟩, ⟨"refund", 100⟩])
  | _, .bitcoinScriptsHistory scripts => .ok (scripts.map fun _ => [])
  | _, .bitcoinTransactions _ => .ok []
  | _, .bitcoinScriptsBalance scripts => .ok (scripts.map fun _ => { confirmed := 0 })
  | _, q => q.offline

/-- What is found for the swap then. -/
def confirmedRefund : RecoveredOnchainDataChainSend where
  lbtcUserLockupTxId := some ⟨"lockup", 50⟩
  lbtcRefundTxId := some ⟨"refund", 100⟩
  btcServerLockupTxId := none
  btcClaimTxId := none

/-- Refunded at the very height of its timeout, the swap is selected until the next block. A refund that confirms in
the block of the timeout is seen, and not after. -/
theorem monitored_iff_timeout :
    Swap.chain refundedOutgoing ∈ (atLiquidBlock 100).db.getMonitoredSwapsList false true ⟨100, some 150⟩ ∧
      stateIn ((syncMonitored timeoutSdk true ⟨100, some 150⟩).run (World.effect timeoutSdk) confirmedAnswers
        (0, atLiquidBlock 100)).2.2.db (.chain refundedOutgoing) = some .failed ∧
      RowKept (atLiquidBlock 100).db
        ((syncMonitored timeoutSdk true ⟨101, some 150⟩).run (World.effect timeoutSdk) confirmedAnswers
          (0, atLiquidBlock 100)).2.2.db (.chain refundedOutgoing) := by
  have hlive : Live (atLiquidBlock 100).db (.chain refundedOutgoing) :=
    live_refundedOutgoing (by decide +kernel)
  have hat := @monitored_iff timeoutSdk confirmedAnswers (0, atLiquidBlock 100) _ hlive true 100 150
  have hafter := @monitored_iff timeoutSdk confirmedAnswers (0, atLiquidBlock 100) _ hlive true 101 150
  have hscope : InScope 100 150 (.chain refundedOutgoing) := ⟨by decide, by decide⟩
  have hpassed : ¬ InScope 101 150 (.chain refundedOutgoing) := by
    rintro ⟨hliquid, -⟩
    exact absurd hliquid (by decide)
  have hrefunded : Refunded timeoutSdk (.chain refundedOutgoing)
      (.chain (ChainSendSwapHandler.updateSwap refundedOutgoing confirmedRefund 100 150 true)) :=
    .outgoing 100 150 true rfl rfl rfl ⟨rfl, rfl⟩
  obtain ⟨result, hresult, -, hfailed⟩ := hat.2.2 hscope
    [(.chain (ChainSendSwapHandler.updateSwap refundedOutgoing confirmedRefund 100 150 true), .ok ())]
    (by unfold RecoversTo; decide +kernel)
  cases List.mem_singleton.mp hresult
  exact ⟨hat.1.mpr hscope, hfailed hrefunded, hafter.2.1 hpassed⟩

/-- The block after the timeout makes the service refund the swap, and it is not selected at the same tips. -/
theorem refunded_not_monitored :
    Live (atLiquidBlock 101).db (.chain refundedOutgoing) ∧
      Swap.chain refundedOutgoing ∉
        (atLiquidBlock 101).db.getMonitoredSwapsList false true ⟨101, some 150⟩ := by
  constructor
  · exact live_refundedOutgoing (by decide +kernel)
  · decide +kernel

end Chain

end BreezLiquid
