/-
# BreezLiquid.Chain.Monitoring — which swaps a new block makes the service look at.

`get_monitored_swaps_list` selects by state and by the tips. An outgoing chain swap is selected while both of
its timeouts lie ahead. What is not selected is not recovered, so its row stays as it is.

`Live` is a swap out of the tables that is not over and has a lockup, and `InScope` what the selection asks of its state
and of the tips. `mem_monitored_iff` says that a live swap is on the list exactly if it is in scope.

The rest is about a live swap that is not. `SparesRow` says of a transaction that it leaves the row of this swap alone.
What a round writes is for the swaps on its list, so the row comes out of it as it went in, whatever the services answer
(`rowKept_syncMonitored`).
-/
import BreezLiquid.Chain.ClaimSafety
import BreezLiquid.Persist.Optimistic
import BreezLiquid.Receive.Handler
import BreezLiquid.Send.Handler

namespace BreezLiquid

open Interleaving Tables Recover

/-! ## The selection -/

def CHAIN_SWAP_MONITORING_PERIOD_BITCOIN_BLOCKS : Nat := 6 * 24 * 14

def CHAIN_SWAP_MONITORING_PERIOD_LIQUID_BLOCKS : Nat := 60 * 24 * 14

namespace Db

def listRecoverableReceiveSwaps (db : Db) : List ReceiveSwap :=
  db.listReceiveSwaps.filter fun s => [PaymentState.created, .pending].contains s.state

/-- The filter for chain swaps. -/
def isMonitored (includeExpiredIncomingChainSwaps : Bool) (liquidTip bitcoinTip : Nat) (swap : ChainSwap) :
    Bool :=
  match swap.direction with
  | .incoming =>
      if includeExpiredIncomingChainSwaps then
        bitcoinTip ≤ swap.timeoutBlockHeight + CHAIN_SWAP_MONITORING_PERIOD_BITCOIN_BLOCKS &&
          liquidTip ≤ swap.claimTimeoutBlockHeight + CHAIN_SWAP_MONITORING_PERIOD_LIQUID_BLOCKS
      else bitcoinTip ≤ swap.timeoutBlockHeight && liquidTip ≤ swap.claimTimeoutBlockHeight
  | .outgoing =>
      !([PaymentState.complete, .failed].contains swap.state) && liquidTip ≤ swap.timeoutBlockHeight &&
        bitcoinTip ≤ swap.claimTimeoutBlockHeight

def getMonitoredSwapsList (db : Db) (onlyReceiveSwaps includeExpiredIncomingChainSwaps : Bool)
    (chainTips : ChainTips) : List Swap :=
  let receiveSwaps := db.listRecoverableReceiveSwaps.map Swap.receive
  if onlyReceiveSwaps then receiveSwaps
  else
    let sendSwaps := db.listRecoverableSendSwaps.map Swap.send
    match chainTips.bitcoinTip with
    | none => receiveSwaps ++ sendSwaps
    | some bitcoinTip =>
        let chainSwaps := db.listChainSwaps.filter
          (isMonitored includeExpiredIncomingChainSwaps chainTips.liquidTip bitcoinTip)
        receiveSwaps ++ (sendSwaps ++ chainSwaps.map Swap.chain)

end Db

namespace Chain

/-! ## Live swaps -/

/-- A swap out of the tables that is neither complete nor failed, with a lockup: a send swap, or an outgoing
chain swap. -/
inductive Live (db : Db) : Swap → Prop where
  | send {s : SendSwap} (hfetched : Fetched db (.send s)) (hlockup : s.lockupTxId.isSome)
      (hstate : s.state ≠ .complete ∧ s.state ≠ .failed) : Live db (.send s)
  | outgoing {s : ChainSwap} (hfetched : Fetched db (.chain s)) (hdirection : s.direction = .outgoing)
      (hlockup : s.userLockupTxId.isSome) (hstate : s.state ≠ .complete ∧ s.state ≠ .failed) :
      Live db (.chain s)

/-- When a live swap is selected: a send swap by its state, an outgoing chain swap while both of its timeouts
lie ahead. -/
def InScope (liquidTip bitcoinTip : Nat) : Swap → Prop
  | .send s => s.state = .created ∨ s.state = .pending ∨ s.state = .refundPending
  | .chain s => liquidTip ≤ s.timeoutBlockHeight ∧ bitcoinTip ≤ s.claimTimeoutBlockHeight
  | .receive _ => False

section Selection

variable {db : Db} {s : ChainSwap} {s' : SendSwap} {includeExpired : Bool} {tips : ChainTips}

theorem mem_listSendSwaps : s' ∈ db.listSendSwaps ↔ Fetched db (.send s') := by
  constructor
  · intro h
    obtain ⟨row, hrow, rfl⟩ := List.mem_map.mp h
    rw [orderByCreatedAt, List.mem_insertionSort] at hrow
    show (db.sendSwaps.get? row.id).map _ = _
    rw [Table.get?_of_mem hrow]
    rfl
  · intro h
    obtain ⟨row, hrow, hs⟩ := Db.fetchSendSwapById_eq_some h
    rw [hs]
    refine List.mem_map.mpr ⟨row, ?_, rfl⟩
    rw [orderByCreatedAt, List.mem_insertionSort]
    exact Table.mem_of_get? hrow

theorem mem_listChainSwaps_iff : s ∈ db.listChainSwaps ↔ Fetched db (.chain s) := by
  constructor
  · intro h
    obtain ⟨row, hrow, hs⟩ := Db.mem_listChainSwaps h
    show (db.chainSwaps.get? s.id).map _ = _
    rw [hrow, hs]
    rfl
  · intro h
    obtain ⟨row, hrow, hs⟩ := Db.fetchChainSwapById_eq_some h
    rw [hs]
    refine List.mem_map.mpr ⟨row, ?_, rfl⟩
    rw [orderByCreatedAt, List.mem_insertionSort]
    exact Table.mem_of_get? hrow

/-- The send swaps among the selected ones. -/
theorem send_mem_monitored : Swap.send s' ∈ db.getMonitoredSwapsList false includeExpired tips ↔
    Fetched db (.send s') ∧ (s'.state = .created ∨ s'.state = .pending ∨ s'.state = .refundPending) := by
  have hrecoverable : s' ∈ db.listRecoverableSendSwaps ↔
      Fetched db (.send s') ∧ (s'.state = .created ∨ s'.state = .pending ∨ s'.state = .refundPending) := by
    unfold Db.listRecoverableSendSwaps Db.listSendSwapsByState
    rw [List.mem_filter, mem_listSendSwaps]
    simp
  rw [← hrecoverable]
  unfold Db.getMonitoredSwapsList
  cases tips.bitcoinTip with
  | none => simp
  | some bitcoinTip => simp

/-- The chain swaps among the selected ones. -/
theorem chain_mem_monitored {liquidTip bitcoinTip : Nat} :
    Swap.chain s ∈ db.getMonitoredSwapsList false includeExpired ⟨liquidTip, some bitcoinTip⟩ ↔
      Fetched db (.chain s) ∧ Db.isMonitored includeExpired liquidTip bitcoinTip s = true := by
  unfold Db.getMonitoredSwapsList
  simp [mem_listChainSwaps_iff]

/-- A selected swap of the same table and id is the very swap. -/
theorem eq_of_mem_monitored {swap swap' : Swap} (hlive : Live db swap)
    (hmem : swap' ∈ db.getMonitoredSwapsList false includeExpired tips)
    (htype : swap'.recordType = swap.recordType) (hid : swap'.id = swap.id) : swap' = swap := by
  cases hlive with
  | @send s hfetched hlockup hstate =>
      cases swap' with
      | send s' =>
          have hfetched' : db.fetchSendSwapById s'.id = some s' := (send_mem_monitored.mp hmem).1
          have heq : s'.id = s.id := hid
          rw [heq] at hfetched'
          exact congrArg Swap.send (Option.some.inj (hfetched'.symm.trans hfetched))
      | receive s' => cases htype
      | chain s' => cases htype
  | @outgoing s hfetched hdirection hlockup hstate =>
      cases swap' with
      | send s' => cases htype
      | receive s' => cases htype
      | chain s' =>
          obtain ⟨liquidTip, bitcoinTip⟩ := tips
          cases bitcoinTip with
          | none => simp [Db.getMonitoredSwapsList] at hmem
          | some bitcoinTip =>
              have hfetched' : db.fetchChainSwapById s'.id = some s' := (chain_mem_monitored.mp hmem).1
              have heq : s'.id = s.id := hid
              rw [heq] at hfetched'
              exact congrArg Swap.chain (Option.some.inj (hfetched'.symm.trans hfetched))

theorem mem_monitored_iff {swap : Swap} (hlive : Live db swap) {liquidTip bitcoinTip : Nat} :
    swap ∈ db.getMonitoredSwapsList false includeExpired ⟨liquidTip, some bitcoinTip⟩ ↔
      InScope liquidTip bitcoinTip swap := by
  cases hlive with
  | @send s hfetched hlockup hstate =>
      rw [send_mem_monitored]
      exact and_iff_right hfetched
  | @outgoing s hfetched hdirection hlockup hstate =>
      rw [chain_mem_monitored, and_iff_right hfetched]
      unfold Db.isMonitored InScope
      rw [hdirection]
      simp [hstate.1, hstate.2]

end Selection

/-- A locked-up outgoing swap that times out on Liquid at height 100, and on Bitcoin at height 200. -/
def lockedOutgoing : ChainSwap where
  id := "s"
  direction := .outgoing
  createResponseJson := "s"
  payerAmountSat := 1000
  userLockupTxId := some "lockup"
  timeoutBlockHeight := 100
  claimTimeoutBlockHeight := 200
  state := .pending

example : Db.isMonitored true 100 200 lockedOutgoing = true ∧ Db.isMonitored true 101 150 lockedOutgoing = false := by
  decide

/-! ## A round -/

section Round

variable (sdk : Sdk)

/-- The writing of one recovered swap; an error is only logged. -/
def persistRecoveredSwap : Swap → Async Unit
  | .receive receiveSwap => do
      let _ ← (Receive.updateSwap sdk receiveSwap).attempt
      return ()
  | .send sendSwap => do
      let _ ← (Send.updateSwap sdk sendSwap).attempt
      return ()
  | .chain chainSwap => do
      let _ ← (updateSwap sdk chainSwap).attempt
      return ()

/-- `sync_payments_with_chain_data`: every swap is recovered, and then written. -/
def syncPaymentsWithChainData (recoverableSwaps : List Swap) (chainTips : ChainTips) : Async Unit := do
  let (results, _) ← Recoverer.recoverFromOnchain sdk recoverableSwaps (some chainTips)
  Task.forEach results fun result => persistRecoveredSwap sdk result.1

/-- What a new block sets off. -/
def syncMonitored (includeExpiredIncomingChainSwaps : Bool) (chainTips : ChainTips) : Async Unit := do
  let recoverableSwaps ←
    fetch fun db => db.getMonitoredSwapsList false includeExpiredIncomingChainSwaps chainTips
  syncPaymentsWithChainData sdk recoverableSwaps chainTips

/-- The transaction leaves the row of the swap as it is. -/
def SparesRow (swap : Swap) (f : World → World) : Prop := ∀ w, RowKept w.db (f w).db swap

theorem sparesRow_tryWrite {swap : Swap} {f : Nat → Db → Except Err Db}
    (h : ∀ now db db', f now db = .ok db' → RowKept db db' swap) : SparesRow swap (World.tryWrite f) := by
  intro w
  rcases World.tryWrite_cases f w with ⟨db, hdb, hw⟩ | hw
  · rw [hw]
    exact h w.now w.db db hdb
  · rw [hw]
    cases swap <;> rfl

theorem sparesRow_id (swap : Swap) : SparesRow swap id := by
  intro w
  cases swap <;> rfl

/-- The whole-row write of one swap leaves the rows of the others. -/
theorem get?_insertOrUpdateChainSwap_of_ne {p : Persister} {now : Nat} {read : Option ChainSwap} {s : ChainSwap}
    {db db' : Db} (h : db.insertOrUpdateChainSwap p now read s = .ok db') {id : SwapId} (hid : s.id ≠ id) :
    db'.chainSwaps.get? id = db.chainSwaps.get? id := by
  obtain ⟨db₁, hinner, heq⟩ := Db.insertOrUpdateChainSwap_ok h
  rw [heq, Db.get?_insertOrUpdateChainSwapInner hinner, if_neg hid, Option.or_none]
  cases hrow : db.chainSwaps.get? id with
  | none => rfl
  | some row =>
      have hkey : row.id = id := Table.get?_some_key hrow
      have hother : ¬ (row.id = s.id ∧ row.metadata.version = s.metadata.version) :=
        fun hrow => hid (hrow.1.symm.trans hkey)
      rw [Option.map_some, if_neg hother]

theorem get?_insertOrUpdateSendSwap_of_ne {p : Persister} {now : Nat} {read : Option SendSwap} {s : SendSwap}
    {db db' : Db} (h : db.insertOrUpdateSendSwap p now read s = .ok db') {id : SwapId} (hid : s.id ≠ id) :
    db'.sendSwaps.get? id = db.sendSwaps.get? id := by
  have hupdated : ∀ (guard : SendSwap → Bool) (g : SendSwap → SendSwap) (hg : ∀ s, (g s).id = s.id) (db : Db),
      (∀ row : SendSwap, row.id = id → guard row = false) →
      (db.updateSendSwaps now guard g hg).sendSwaps.get? id = db.sendSwaps.get? id := by
    intro guard g hg db hguard
    rw [Db.get?_updateSendSwaps]
    cases hrow : db.sendSwaps.get? id with
    | none => rfl
    | some row =>
        rw [Option.map_some, hguard row (Table.get?_some_key hrow)]
        rfl
  have hguard : ∀ row : SendSwap, row.id = id →
      (decide (row.id = s.id) && decide (row.metadata.version = s.metadata.version)) = false := by
    intro row hkey
    have hne : row.id ≠ s.id := fun heq => hid (heq.symm.trans hkey)
    simp [hne]
  obtain ⟨db₁, hinner, hqueued⟩ := except_bind_eq_ok.mp h
  cases hqueued
  rw [Db.commitUpdatedFields_sendSwaps]
  unfold Db.insertOrUpdateSendSwapInner at hinner
  dsimp only at hinner
  split at hinner
  · split at hinner
    · cases hinner
      exact hupdated _ _ _ db hguard
    · cases hinner
  · split at hinner
    · cases hinner
      refine (hupdated _ _ _ _ hguard).trans ?_
      show (db.sendSwaps.insertNew (Db.sendSwapInsert s)).get? id = _
      rw [Table.get?_insertNew]
      have hnew : (Db.sendSwapInsert s).id ≠ id := hid
      rw [if_neg hnew, Option.or_none]
    · cases hinner

/-- Tables that a write does not name keep their rows. -/
theorem rowKept_of_tables {swap : Swap} {db db' : Db} (hsend : db'.sendSwaps = db.sendSwaps)
    (hreceive : db'.receiveSwaps = db.receiveSwaps) (hchain : db'.chainSwaps = db.chainSwaps) :
    RowKept db db' swap := by
  cases swap with
  | send s => exact congrArg (fun t => Table.get? t s.id) hsend
  | receive s => exact congrArg (fun t => Table.get? t s.id) hreceive
  | chain s => exact congrArg (fun t => Table.get? t s.id) hchain

/-- The other tables that a sync looks at. -/
theorem insertOrUpdateChainSwap_others {p : Persister} {now : Nat} {read : Option ChainSwap} {s : ChainSwap}
    {db db' : Db} (h : db.insertOrUpdateChainSwap p now read s = .ok db') :
    db'.sendSwaps = db.sendSwaps ∧ db'.receiveSwaps = db.receiveSwaps ∧ db'.paymentTxData = db.paymentTxData := by
  obtain ⟨db₁, hinner, hqueued⟩ := except_bind_eq_ok.mp h
  cases hqueued
  rw [Db.commitUpdatedFields_sendSwaps, Db.commitUpdatedFields_receiveSwaps, Db.commitUpdatedFields_paymentTxData]
  unfold Db.insertOrUpdateChainSwapInner at hinner
  dsimp only at hinner
  split at hinner
  · cases hinner
    exact ⟨rfl, rfl, rfl⟩
  · cases hinner

theorem insertOrUpdateSendSwap_others {p : Persister} {now : Nat} {read : Option SendSwap} {s : SendSwap}
    {db db' : Db} (h : db.insertOrUpdateSendSwap p now read s = .ok db') :
    db'.receiveSwaps = db.receiveSwaps ∧ db'.chainSwaps = db.chainSwaps ∧ db'.paymentTxData = db.paymentTxData := by
  obtain ⟨db₁, hinner, hqueued⟩ := except_bind_eq_ok.mp h
  cases hqueued
  rw [Db.commitUpdatedFields_receiveSwaps, Db.commitUpdatedFields_chainSwaps, Db.commitUpdatedFields_paymentTxData]
  unfold Db.insertOrUpdateSendSwapInner at hinner
  dsimp only at hinner
  split at hinner
  · split at hinner
    · cases hinner
      exact ⟨rfl, rfl, rfl⟩
    · cases hinner
  · split at hinner
    · cases hinner
      exact ⟨rfl, rfl, rfl⟩
    · cases hinner

theorem insertOrUpdateReceiveSwap_others {p : Persister} {now : Nat} {read : Option ReceiveSwap}
    {s : ReceiveSwap} {db db' : Db} (h : db.insertOrUpdateReceiveSwap p now read s = .ok db') :
    db'.sendSwaps = db.sendSwaps ∧ db'.chainSwaps = db.chainSwaps ∧ db'.paymentTxData = db.paymentTxData := by
  obtain ⟨db₁, hinner, hqueued⟩ := except_bind_eq_ok.mp h
  cases hqueued
  rw [Db.commitUpdatedFields_sendSwaps, Db.commitUpdatedFields_chainSwaps, Db.commitUpdatedFields_paymentTxData]
  unfold Db.insertOrUpdateReceiveSwapInner at hinner
  dsimp only at hinner
  split at hinner
  · cases hinner
    split
    · exact ⟨rfl, rfl, rfl⟩
    · exact ⟨rfl, rfl, rfl⟩
  · cases hinner

/-- The write of a swap's whole row has the property, whatever was read before. -/
def WholeRow (p : Persister) (F : (World → World) → Prop) : Swap → Prop
  | .receive s => ∀ read, F (World.tryWrite fun now db => db.insertOrUpdateReceiveSwap p now read s)
  | .send s => ∀ read, F (World.tryWrite fun now db => db.insertOrUpdateSendSwap p now read s)
  | .chain s => ∀ read, F (World.tryWrite fun now db => db.insertOrUpdateChainSwap p now read s)

/-- The row of a send swap or a chain swap outlives the write of any other swap. -/
theorem sparesRow_insertOrUpdateSwap {swap recovered : Swap} (hswap : ∀ s, swap ≠ .receive s)
    (hother : recovered.recordType = swap.recordType → recovered.id ≠ swap.id) (p : Persister) :
    WholeRow p (SparesRow swap) recovered := by
  cases recovered with
  | receive s =>
      refine fun read => sparesRow_tryWrite fun now db db' h => ?_
      obtain ⟨hsend, hchain, -⟩ := insertOrUpdateReceiveSwap_others h
      cases swap with
      | receive s' => exact absurd rfl (hswap s')
      | send s' => exact congrArg (fun t => Table.get? t s'.id) hsend
      | chain s' => exact congrArg (fun t => Table.get? t s'.id) hchain
  | send s =>
      refine fun read => sparesRow_tryWrite fun now db db' h => ?_
      cases swap with
      | receive s' => exact absurd rfl (hswap s')
      | send s' => exact get?_insertOrUpdateSendSwap_of_ne h (hother rfl)
      | chain s' => exact congrArg (fun t => Table.get? t s'.id) (insertOrUpdateSendSwap_others h).2.1
  | chain s =>
      refine fun read => sparesRow_tryWrite fun now db db' h => ?_
      cases swap with
      | receive s' => exact absurd rfl (hswap s')
      | send s' => exact congrArg (fun t => Table.get? t s'.id) (insertOrUpdateChainSwap_others h).1
      | chain s' => exact get?_insertOrUpdateChainSwap_of_ne h (hother rfl)

theorem sparesRow_insertOrUpdatePaymentDetails (swap : Swap) (p : Persister) (details : PaymentTxDetails) :
    SparesRow swap (World.write fun now db => db.insertOrUpdatePaymentDetails p now details) := by
  intro w
  apply rowKept_of_tables
  · exact Db.commitOutgoing_sendSwaps ..
  · exact Db.commitOutgoing_receiveSwaps ..
  · exact Db.commitOutgoing_chainSwaps ..

/-- The writing of a recovered swap writes its row, and the details of the payment of a send swap. -/
theorem within_persistRecoveredSwap_of {F : (World → World) → Prop} (recovered : Swap) (hid : F id)
    (hwrite : WholeRow sdk.persister F recovered)
    (hdetails : ∀ details, F (World.write fun now db => db.insertOrUpdatePaymentDetails sdk.persister now details)) :
    (persistRecoveredSwap sdk recovered).Within F Call.Quiet := by
  cases recovered with
  | receive s =>
      refine Task.Within.bind (Task.Within.attempt ?_) fun _ => trivial
      refine Task.Within.bind (Task.Within.bind ⟨hid, fun _ => trivial⟩ fun _ => trivial) fun row => ?_
      split
      · exact Task.Within.bind ⟨hid, fun _ => trivial⟩ fun read => ⟨hwrite read, fun _ => trivial⟩
      · trivial
  | send s =>
      refine Task.Within.bind (Task.Within.attempt ?_) fun _ => trivial
      refine Task.Within.bind (Task.Within.bind ⟨hid, fun _ => trivial⟩ fun _ => trivial) fun row => ?_
      refine Task.Within.bind ?_ fun updated => ?_
      · unfold Send.updateSwapLnurlInfo
        split
        · refine Task.Within.bind ⟨hid, fun _ => trivial⟩ fun details => ?_
          split
          · refine Task.Within.bind trivial fun lnurlInfo => ?_
            split
            · exact Task.Within.bind (Task.within_modify (hdetails _)) fun _ => trivial
            · trivial
          · trivial
        · trivial
      · split
        · exact Task.Within.bind ⟨hid, fun _ => trivial⟩ fun read => ⟨hwrite read, fun _ => trivial⟩
        · trivial
  | chain s =>
      refine Task.Within.bind (Task.Within.attempt ?_) fun _ => trivial
      refine Task.Within.bind (Task.Within.bind ⟨hid, fun _ => trivial⟩ fun _ => trivial) fun row => ?_
      split
      · exact Task.Within.bind ⟨hid, fun _ => trivial⟩ fun read => ⟨hwrite read, fun _ => trivial⟩
      · trivial

/-- Writing a recovered swap leaves the rows of the others. -/
theorem within_persistRecoveredSwap {swap recovered : Swap} (hswap : ∀ s, swap ≠ .receive s)
    (hother : recovered.recordType = swap.recordType → recovered.id ≠ swap.id) :
    (persistRecoveredSwap sdk recovered).Within (SparesRow swap) Call.Quiet :=
  within_persistRecoveredSwap_of sdk recovered (sparesRow_id swap)
    (sparesRow_insertOrUpdateSwap hswap hother sdk.persister)
    (sparesRow_insertOrUpdatePaymentDetails swap sdk.persister)

variable (ans : Nat → (q : Call) → q.Answer)

/-- Tasks that spare the row leave it, run alone. -/
theorem rowKept_run {α : Type} {swap : Swap} {t : Async α} (h : t.Within (SparesRow swap) Call.Quiet)
    (w : Nat × World) : RowKept w.2.db (t.run (World.effect sdk) ans w).2.2.db swap := by
  have hquiet : ∀ q : Call, q.Quiet → ∀ a w, World.effect sdk q a w = w :=
    fun q hq a w => effect_of_quiet sdk hq a w
  cases swap with
  | send s =>
      exact Task.run_preserves _ ans (fun w : World => w.db.sendSwaps.get? s.id) (fun f hf w => hf w)
        (fun q hq a w => congrArg (fun w : World => w.db.sendSwaps.get? s.id) (hquiet q hq a w)) h w
  | receive s =>
      exact Task.run_preserves _ ans (fun w : World => w.db.receiveSwaps.get? s.id) (fun f hf w => hf w)
        (fun q hq a w => congrArg (fun w : World => w.db.receiveSwaps.get? s.id) (hquiet q hq a w)) h w
  | chain s =>
      exact Task.run_preserves _ ans (fun w : World => w.db.chainSwaps.get? s.id) (fun f hf w => hf w)
        (fun q hq a w => congrArg (fun w : World => w.db.chainSwaps.get? s.id) (hquiet q hq a w)) h w

/-- A round does not write a live swap that was not selected. -/
theorem rowKept_syncMonitored {w : Nat × World} {swap : Swap} (hlive : Live w.2.db swap)
    {includeExpired : Bool} {tips : ChainTips}
    (hnot : swap ∉ w.2.db.getMonitoredSwapsList false includeExpired tips) :
    RowKept w.2.db ((syncMonitored sdk includeExpired tips).run (World.effect sdk) ans w).2.2.db swap := by
  have hswap : ∀ s, swap ≠ .receive s := by
    rintro s rfl
    cases hlive
  unfold syncMonitored syncPaymentsWithChainData
  rw [Task.bind_eq, Task.run_bind, run_fetch]
  dsimp only
  generalize hlist : w.2.db.getMonitoredSwapsList false includeExpired tips = swaps
  rw [Task.bind_eq, Task.run_bind]
  have hdb : ((Recoverer.recoverFromOnchain sdk swaps (some tips)).run (World.effect sdk) ans w).2.2.db =
      w.2.db := by
    refine Task.run_preserves _ ans World.db ?_ ?_ (readOnly_recoverFromOnchain sdk swaps (some tips)) w
    · rintro f rfl w
      rfl
    · intro q hq a w
      exact effect_db sdk q a w
  have hyields := (recoverFromOnchain_recovers sdk swaps (some tips)).run (World.effect sdk) ans w
  generalize (Recoverer.recoverFromOnchain sdk swaps (some tips)).run (World.effect sdk) ans w = res at hdb hyields
  obtain ⟨x, w'⟩ := res
  cases x with
  | error err =>
      show RowKept w.2.db w'.2.db swap
      rw [hdb]
      exact sparesRow_id swap w.2
  | ok out =>
      obtain ⟨results, txs⟩ := out
      have hresults := hyields results txs rfl
      have hwithin : (Task.forEach results fun result => persistRecoveredSwap sdk result.1).Within
          (SparesRow swap) Call.Quiet := by
        refine Task.Within.forEach fun result hresult => ?_
        refine within_persistRecoveredSwap sdk hswap fun htype hid => ?_
        -- what was recovered under the id of the swap is the swap, which was not selected
        obtain ⟨swap', hmem, ⟨hid', -, htype'⟩, -⟩ := Collections.exists_partner hresults hresult
        rw [← hlist] at hmem
        have heq := eq_of_mem_monitored hlive hmem (htype'.symm.trans htype) (hid'.symm.trans hid)
        exact hnot (heq ▸ hmem)
      have hkept := rowKept_run sdk ans hwithin w'
      have hdb' : w'.2.db = w.2.db := hdb
      rw [hdb'] at hkept
      exact hkept

end Round

end Chain

end BreezLiquid
