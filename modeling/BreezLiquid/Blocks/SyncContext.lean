/-
# BreezLiquid.Blocks.SyncContext — which swaps an iteration of the loop recovers.

The Bitcoin tip is fetched only on a new Liquid block, and only if the last tips leave a chain swap to look after. Chain
swaps are recovered only with both tips fetched, so the first selection, with the last Bitcoin tip, must not miss one
that the second would select. It does not if the Bitcoin tip does not fall.
-/
import BreezLiquid.Blocks.Loop

namespace BreezLiquid.Blocks

open Interleaving Recover

/-- What the loop meets: a device, or an answer. -/
abbrev Meeting : Type := Task.Met Device Call Call.Answer

/-! ## The parts -/

section Parts

variable {met : List Meeting}

theorem executes_liquidTip {tip : Option Nat} (h : liquidTip.Executes met (.ok tip)) :
    ∃ a : Except Err Nat, met = [.got .liquidTip a] ∧ tip = a.toOption := by
  obtain ⟨a, rest, rfl, h⟩ := h
  cases a with
  | ok t =>
      obtain ⟨rfl, htip⟩ := h
      exact ⟨.ok t, rfl, Except.ok.inj htip⟩
  | error err =>
      obtain ⟨rfl, htip⟩ := h
      exact ⟨.error err, rfl, Except.ok.inj htip⟩

theorem executes_getMonitoredSwapsList {only expired : Bool} {tips : ChainTips} {swaps : List Swap}
    (h : (getMonitoredSwapsList only expired tips).Executes met (.ok swaps)) :
    ∃ d : Device, met = [.found d] ∧ swaps = d.world.db.getMonitoredSwapsList only expired tips := by
  obtain ⟨d, rest, rfl, rfl, hswaps⟩ := h
  exact ⟨d, rfl, Except.ok.inj hswaps⟩

/-- The Bitcoin tip is fetched exactly if there is a new Liquid block and a chain swap. -/
theorem executes_bitcoinTip {isNewLiquidBlock : Bool} {swaps : List Swap} {fetched : Option Nat × List Swap}
    (h : (bitcoinTip isNewLiquidBlock swaps).Executes met (.ok fetched)) :
    (isNewLiquidBlock = true ∧ swaps.any isChain = true ∧
      ∃ a : Except Err Nat, met = [.got .bitcoinTip a] ∧ fetched.1 = a.toOption) ∨
    (¬ (isNewLiquidBlock = true ∧ swaps.any isChain = true) ∧ met = [] ∧ fetched.1 = none) := by
  unfold bitcoinTip at h
  split at h
  · rename_i hnew
    obtain ⟨rfl, hfetched⟩ := h
    refine .inr ⟨?_, rfl, by rw [Except.ok.inj hfetched]⟩
    rintro ⟨htrue, -⟩
    rw [htrue] at hnew
    cases hnew
  · rename_i hnew
    split at h
    · rename_i hany
      obtain ⟨rfl, hfetched⟩ := h
      refine .inr ⟨?_, rfl, by rw [Except.ok.inj hfetched]⟩
      rintro ⟨-, htrue⟩
      rw [htrue] at hany
      cases hany
    · rename_i hany
      refine .inl ⟨by simpa using hnew, by simpa using hany, ?_⟩
      obtain ⟨a, rest, rfl, h⟩ := h
      cases a with
      | ok t =>
          obtain ⟨rfl, hfetched⟩ := h
          exact ⟨.ok t, rfl, by rw [Except.ok.inj hfetched]; rfl⟩
      | error err =>
          obtain ⟨rfl, hfetched⟩ := h
          exact ⟨.error err, rfl, by rw [Except.ok.inj hfetched]; rfl⟩

theorem executes_updatedSwaps {last : BlockchainInfo} {maybeLiquidTip maybeBitcoinTip : Option Nat}
    {swaps swaps' : List Swap}
    (h : (updatedSwaps ⟨none, last.liquidTip, last.bitcoinTip⟩ maybeLiquidTip maybeBitcoinTip swaps).Executes met
      (.ok swaps')) :
    (maybeLiquidTip = none ∧ met = [] ∧ swaps' = []) ∨
      ∃ (liquidTip : Nat) (d : Device), maybeLiquidTip = some liquidTip ∧ met = [.found d] ∧
        swaps' = d.world.db.getMonitoredSwapsList
          (!isNew maybeLiquidTip last.liquidTip && !isNew maybeBitcoinTip last.bitcoinTip)
          (isNew maybeBitcoinTip last.bitcoinTip) ⟨liquidTip, maybeBitcoinTip⟩ := by
  cases maybeLiquidTip with
  | none =>
      obtain ⟨rfl, hswaps⟩ := h
      exact .inl ⟨rfl, rfl, Except.ok.inj hswaps⟩
  | some liquidTip =>
      obtain ⟨d, rfl, hswaps⟩ := executes_getMonitoredSwapsList h
      exact .inr ⟨liquidTip, d, rfl, rfl, hswaps⟩

/-- The parts of a context that was computed, in their order. -/
theorem executes_getSyncContext {last : BlockchainInfo} {syncContext : SyncContext}
    (h : (getSyncContext ⟨none, last.liquidTip, last.bitcoinTip⟩).Executes met (.ok syncContext)) :
    ∃ (a : Except Err Nat) (d : Device) (m m' : List Meeting) (fetched : Option Nat × List Swap),
      met = .got .liquidTip a :: .found d :: (m ++ m') ∧ syncContext.maybeLiquidTip = a.toOption ∧
      (bitcoinTip (isNew a.toOption last.liquidTip) (d.world.db.getMonitoredSwapsList false true
        ⟨a.toOption.getD last.liquidTip, some last.bitcoinTip⟩)).Executes m (.ok fetched) ∧
      syncContext.maybeBitcoinTip = fetched.1 ∧
      (updatedSwaps ⟨none, last.liquidTip, last.bitcoinTip⟩ a.toOption fetched.1 fetched.2).Executes m'
        (.ok syncContext.recoverableSwaps) ∧
      syncContext.isNewLiquidBlock = isNew a.toOption last.liquidTip ∧
      syncContext.isNewBitcoinBlock = isNew fetched.1 last.bitcoinTip := by
  rcases Task.Executes.of_bind h with ⟨err, -, herr⟩ | ⟨tip, m₁, rest, rfl, htip, h⟩
  · cases herr
  obtain ⟨a, rfl, rfl⟩ := executes_liquidTip htip
  rcases Task.Executes.of_bind h with ⟨err, -, herr⟩ | ⟨swaps, m₂, rest, rfl, hswaps, h⟩
  · cases herr
  obtain ⟨d, rfl, rfl⟩ := executes_getMonitoredSwapsList hswaps
  rcases Task.Executes.of_bind h with ⟨err, -, herr⟩ | ⟨fetched, m₃, rest, rfl, hfetched, h⟩
  · cases herr
  rcases Task.Executes.of_bind h with ⟨err, -, herr⟩ | ⟨swaps, m₄, rest, rfl, hupdated, h⟩
  · cases herr
  obtain ⟨rfl, hcontext⟩ := h
  obtain rfl := Except.ok.inj hcontext
  refine ⟨a, d, m₃, m₄, fetched, ?_, rfl, hfetched, rfl, hupdated, rfl, rfl⟩
  rw [List.append_nil]
  rfl

end Parts

/-! ## The contract -/

/-- The swap is to be recovered with the tips of the context: a receive swap once the Liquid tip is known, a send swap
on a new Liquid block, a chain swap on a new Liquid block if the Bitcoin tip was fetched as well. -/
def Recovers (db : Db) (syncContext : SyncContext) : Swap → Prop
  | .receive s => syncContext.maybeLiquidTip.isSome ∧ s ∈ db.listRecoverableReceiveSwaps
  | .send s => syncContext.isNewLiquidBlock ∧ s ∈ db.listRecoverableSendSwaps
  | .chain s => syncContext.isNewLiquidBlock ∧ s ∈ db.listChainSwaps ∧
      ∃ liquidTip bitcoinTip, syncContext.maybeLiquidTip = some liquidTip ∧
        syncContext.maybeBitcoinTip = some bitcoinTip ∧
        Db.isMonitored syncContext.isNewBitcoinBlock liquidTip bitcoinTip s

/-- Some chain swap is monitored at the fetched Liquid tip and the last Bitcoin tip. -/
def WatchesChain (db : Db) (syncContext : SyncContext) (lastBitcoinTip : Nat) : Prop :=
  ∃ s ∈ db.listChainSwaps, ∃ liquidTip, syncContext.maybeLiquidTip = some liquidTip ∧
    Db.isMonitored true liquidTip lastBitcoinTip s

theorem any_isChain_iff {db : Db} {expired : Bool} {liquidTip bitcoinTip : Nat} :
    (db.getMonitoredSwapsList false expired ⟨liquidTip, some bitcoinTip⟩).any isChain = true ↔
      ∃ s ∈ db.listChainSwaps, Db.isMonitored expired liquidTip bitcoinTip s = true := by
  unfold Db.getMonitoredSwapsList
  simp [isChain, List.any_append, List.any_map, Function.comp_def]

section Contract

variable {db : Db} {expired : Bool} {tips : ChainTips}

theorem receive_mem_monitored_iff {s : ReceiveSwap} {only : Bool} :
    Swap.receive s ∈ db.getMonitoredSwapsList only expired tips ↔ s ∈ db.listRecoverableReceiveSwaps := by
  unfold Db.getMonitoredSwapsList
  cases only with
  | true => simp
  | false => cases tips.bitcoinTip <;> simp

theorem send_mem_monitored_iff {s : SendSwap} {only : Bool} :
    Swap.send s ∈ db.getMonitoredSwapsList only expired tips ↔ only = false ∧ s ∈ db.listRecoverableSendSwaps := by
  unfold Db.getMonitoredSwapsList
  cases only with
  | true => simp
  | false => cases tips.bitcoinTip <;> simp

theorem chain_mem_monitored_iff {s : ChainSwap} {only : Bool} :
    Swap.chain s ∈ db.getMonitoredSwapsList only expired tips ↔ only = false ∧ s ∈ db.listChainSwaps ∧
      ∃ bitcoinTip, tips.bitcoinTip = some bitcoinTip ∧ Db.isMonitored expired tips.liquidTip bitcoinTip s = true := by
  unfold Db.getMonitoredSwapsList
  cases only with
  | true => simp
  | false => cases tips.bitcoinTip <;> simp

/-- Computed from a database that does not change meanwhile, the context lists exactly the swaps to be recovered with
its tips; the Bitcoin tip is asked for exactly on a new Liquid block with a chain swap to watch, and is there exactly if
the answer was one. -/
theorem syncContext_contract {last : BlockchainInfo} {met : List Meeting} {syncContext : SyncContext}
    (hexec : (getSyncContext ⟨none, last.liquidTip, last.bitcoinTip⟩).Executes met (.ok syncContext))
    (hdb : ∀ d, .found d ∈ met → d.world.db = db) :
    (∀ swap, swap ∈ syncContext.recoverableSwaps ↔ Recovers db syncContext swap) ∧
    ((∃ a, .got .bitcoinTip a ∈ met) ↔
      syncContext.isNewLiquidBlock ∧ WatchesChain db syncContext last.bitcoinTip) ∧
    ∀ tip, syncContext.maybeBitcoinTip = some tip ↔ .got .bitcoinTip (.ok tip) ∈ met := by
  obtain ⟨a, d, m, m', fetched, rfl, hliquid, hfetched, hbitcoin, hupdated, hnewLiquid, hnewBitcoin⟩ :=
    executes_getSyncContext hexec
  have hd : d.world.db = db := hdb d (List.mem_cons_of_mem _ List.mem_cons_self)
  rw [hd, ← hnewLiquid, ← hliquid] at hfetched
  rw [← hliquid, ← hbitcoin] at hupdated
  rw [← hbitcoin] at hnewBitcoin
  rw [← hliquid] at hnewLiquid
  have hquiet : ∀ {b}, .got .bitcoinTip b ∈ .got .liquidTip a :: .found d :: (m ++ m') ↔
      (.got .bitcoinTip b : Meeting) ∈ m := by
    intro b
    have hm' : (.got .bitcoinTip b : Meeting) ∉ m' := by
      rcases executes_updatedSwaps hupdated with ⟨-, rfl, -⟩ | ⟨_, d', -, rfl, -⟩
      · exact List.not_mem_nil
      · simp
    simp [hm']
  refine ⟨?_, ?_, ?_⟩
  · intro swap
    rcases executes_updatedSwaps hupdated with ⟨hnone, rfl, hswaps⟩ | ⟨t, d', hsome, rfl, hswaps⟩
    · rw [hswaps]
      rw [hnone] at hnewLiquid
      have hnew : syncContext.isNewLiquidBlock = false := hnewLiquid
      cases swap with
      | receive s => simp [Recovers, hnone]
      | send s => simp [Recovers, hnew]
      | chain s => simp [Recovers, hnew]
    · have hd' : d'.world.db = db := hdb d' (by simp)
      rw [hswaps, hd', ← hnewLiquid, ← hnewBitcoin]
      -- A new Bitcoin block is only seen on a new Liquid block.
      have hboth : syncContext.maybeBitcoinTip.isSome → syncContext.isNewLiquidBlock = true := by
        intro htip
        rcases executes_bitcoinTip hfetched with ⟨hnew, -⟩ | ⟨-, -, hnone⟩
        · exact hnew
        · rw [hbitcoin, hnone] at htip
          cases htip
      have honly : (!syncContext.isNewLiquidBlock && !syncContext.isNewBitcoinBlock) = false ↔
          syncContext.isNewLiquidBlock = true := by
        cases hnew : syncContext.isNewLiquidBlock with
        | true => simp
        | false =>
            have hnone : syncContext.isNewBitcoinBlock = false := by
              cases hb : syncContext.maybeBitcoinTip with
              | none =>
                  rw [hb] at hnewBitcoin
                  exact hnewBitcoin
              | some b =>
                  rw [hb, hnew] at hboth
                  exact absurd (hboth rfl) Bool.false_ne_true
            simp [hnone]
      cases swap with
      | receive s =>
          rw [receive_mem_monitored_iff]
          simp [Recovers, hsome]
      | send s =>
          rw [send_mem_monitored_iff, honly]
          exact Iff.rfl
      | chain s =>
          rw [chain_mem_monitored_iff, honly]
          simp [Recovers, hsome]
  · have hwatches : (db.getMonitoredSwapsList false true
        ⟨syncContext.maybeLiquidTip.getD last.liquidTip, some last.bitcoinTip⟩).any isChain = true ∧
          syncContext.isNewLiquidBlock = true ↔
        syncContext.isNewLiquidBlock = true ∧ WatchesChain db syncContext last.bitcoinTip := by
      rw [any_isChain_iff, and_comm]
      refine and_congr_right fun hnew => ?_
      rw [hnew] at hnewLiquid
      cases ht : syncContext.maybeLiquidTip with
      | none =>
          rw [ht] at hnewLiquid
          exact absurd hnewLiquid.symm Bool.false_ne_true
      | some t => simp [WatchesChain, ht]
    rw [← hwatches]
    rcases executes_bitcoinTip hfetched with ⟨hnew, hany, b, rfl, -⟩ | ⟨hnot, rfl, -⟩
    · refine ⟨fun _ => ⟨hany, hnew⟩, fun _ => ⟨b, hquiet.mpr List.mem_cons_self⟩⟩
    · refine ⟨fun ⟨b, hb⟩ => absurd (hquiet.mp hb) List.not_mem_nil, fun ⟨hany, hnew⟩ => absurd ⟨hnew, hany⟩ hnot⟩
  · intro tip
    rw [hquiet, hbitcoin]
    rcases executes_bitcoinTip hfetched with ⟨-, -, b, hm, htip⟩ | ⟨-, hm, htip⟩
    · rw [hm, htip, List.mem_singleton]
      cases b with
      | ok t =>
          constructor
          · intro h
            cases h
            rfl
          · intro h
            cases h
            rfl
      | error err =>
          constructor
          · intro h
            cases h
          · intro h
            cases h
    · rw [hm, htip]
      simp

/-- What is monitored at a Bitcoin tip is so at a lower one. -/
theorem isMonitored_of_le {liquidTip bitcoinTip lastBitcoinTip : Nat} {s : ChainSwap}
    (h : Db.isMonitored expired liquidTip bitcoinTip s = true) (hle : lastBitcoinTip ≤ bitcoinTip) :
    Db.isMonitored true liquidTip lastBitcoinTip s = true := by
  unfold Db.isMonitored at h ⊢
  cases hdirection : s.direction with
  | incoming =>
      rw [hdirection] at h
      dsimp only at h ⊢
      split at h
      · simp only [↓reduceIte, Bool.and_eq_true, decide_eq_true_eq] at h ⊢
        exact ⟨hle.trans h.1, h.2⟩
      · simp only [↓reduceIte, Bool.and_eq_true, decide_eq_true_eq] at h ⊢
        omega
  | outgoing =>
      rw [hdirection] at h
      dsimp only at h ⊢
      simp only [Bool.and_eq_true, decide_eq_true_eq] at h ⊢
      exact ⟨h.1, hle.trans h.2⟩

theorem liquidTip_of_met {last : BlockchainInfo} {met : List Meeting} {syncContext : SyncContext} {tip : Nat}
    (hexec : (getSyncContext ⟨none, last.liquidTip, last.bitcoinTip⟩).Executes met (.ok syncContext))
    (htip : .got .liquidTip (.ok tip) ∈ met) :
    syncContext.maybeLiquidTip = some tip ∧ syncContext.isNewLiquidBlock = decide (last.liquidTip < tip) := by
  obtain ⟨a, d, m, m', fetched, rfl, hliquid, hfetched, -, hupdated, hnew, -⟩ := executes_getSyncContext hexec
  have ha : a = .ok tip := by
    rcases List.mem_cons.mp htip with htip | htip
    · cases htip
      rfl
    rcases List.mem_cons.mp htip with htip | htip
    · cases htip
    rcases List.mem_append.mp htip with htip | htip
    · rcases executes_bitcoinTip hfetched with ⟨-, -, b, rfl, -⟩ | ⟨-, rfl, -⟩
      · rw [List.mem_singleton] at htip
        cases htip
      · exact absurd htip List.not_mem_nil
    · rcases executes_updatedSwaps hupdated with ⟨-, rfl, -⟩ | ⟨_, d', -, rfl, -⟩
      · exact absurd htip List.not_mem_nil
      · rw [List.mem_singleton] at htip
        cases htip
  rw [ha] at hliquid hnew
  exact ⟨hliquid, hnew⟩

/-- **No swap is missed.** Computed from a database that does not change meanwhile, the context lists exactly the swaps
to be recovered with its tips. On a new Liquid block, with a Bitcoin service whose tip has not fallen, these are also
all the chain swaps that are monitored at the tips of the two services. -/
theorem recoverableSwaps_complete {last : BlockchainInfo} {met : List Meeting} {syncContext : SyncContext}
    (hexec : (getSyncContext ⟨none, last.liquidTip, last.bitcoinTip⟩).Executes met (.ok syncContext))
    (hdb : ∀ d, .found d ∈ met → d.world.db = db) :
    (∀ swap, swap ∈ syncContext.recoverableSwaps ↔ Recovers db syncContext swap) ∧
    ∀ liquidTip bitcoinTip, .got .liquidTip (.ok liquidTip) ∈ met → last.liquidTip < liquidTip →
      (∀ a, .got .bitcoinTip a ∈ met → a = .ok bitcoinTip) → last.bitcoinTip ≤ bitcoinTip →
      ∀ s ∈ db.listChainSwaps, Db.isMonitored (decide (last.bitcoinTip < bitcoinTip)) liquidTip bitcoinTip s →
        .chain s ∈ syncContext.recoverableSwaps := by
  obtain ⟨hmem, hasked, hanswered⟩ := syncContext_contract hexec hdb
  refine ⟨hmem, ?_⟩
  intro liquidTip bitcoinTip hliquid hnew hbitcoin hle s hs hmonitored
  obtain ⟨htip, hnewBlock⟩ := liquidTip_of_met hexec hliquid
  rw [decide_eq_true hnew] at hnewBlock
  -- a swap that is monitored at the new tip is monitored at the old one, so the Bitcoin tip was asked for
  have hwatches : WatchesChain db syncContext last.bitcoinTip :=
    ⟨s, hs, liquidTip, htip, isMonitored_of_le hmonitored hle⟩
  obtain ⟨a, ha⟩ := hasked.mpr ⟨hnewBlock, hwatches⟩
  rw [hbitcoin a ha] at ha
  have hfetched : syncContext.maybeBitcoinTip = some bitcoinTip := (hanswered bitcoinTip).mpr ha
  have hnewBitcoin : syncContext.isNewBitcoinBlock = decide (last.bitcoinTip < bitcoinTip) := by
    obtain ⟨-, -, -, -, fetched, -, -, -, hbitcoinTip, -, -, hnewBitcoin⟩ := executes_getSyncContext hexec
    rw [hnewBitcoin, ← hbitcoinTip, hfetched]
    rfl
  refine (hmem (.chain s)).mpr ⟨hnewBlock, hs, liquidTip, bitcoinTip, htip, hfetched, ?_⟩
  rw [hnewBitcoin]
  exact hmonitored

end Contract

/-! ## An outgoing swap on a new block -/

/-- Both tips can be fetched. -/
def bothTips (liquidTip bitcoinTip : Nat) : Nat → (q : Call) → q.Answer
  | _, .liquidTip => .ok liquidTip
  | _, .bitcoinTip => .ok bitcoinTip
  | _, q => q.offline

/-- A device with an outgoing swap that times out on Liquid at height 100, and on Bitcoin at height 200. -/
def outgoingDevice : Device := { world := Chain.chainWorld Chain.lockedOutgoing }

/-- The swap as it is read. -/
def listedOutgoing : ChainSwap := { Chain.lockedOutgoing with metadata := { isLocal := true } }

/-- What the loop meets on a Liquid block at a height. -/
def outgoingMeetings (liquidTip bitcoinTip : Nat) : List Meeting :=
  [.got .liquidTip (.ok liquidTip), .found outgoingDevice, .got .bitcoinTip (.ok bitcoinTip), .found outgoingDevice]

theorem outgoingMeetings_alone :
    (getSyncContext ⟨none, 40, 150⟩).metAlone (fun _ _ d => d) (bothTips 50 150) (0, outgoingDevice) =
      outgoingMeetings 50 150 := rfl

/-- The swap is recovered on a block before its timeouts, though the Bitcoin tip is the last one. -/
theorem recoverableSwaps_complete_outgoing :
    ∃ syncContext s, (getSyncContext ⟨none, 40, 150⟩).Executes (outgoingMeetings 50 150) (.ok syncContext) ∧
      s.id = "s" ∧ .chain s ∈ syncContext.recoverableSwaps := by
  have hexec := (getSyncContext ⟨none, 40, 150⟩).executes_alone (fun _ _ d => d) (bothTips 50 150) (0, outgoingDevice)
  rw [outgoingMeetings_alone] at hexec
  cases hrun : ((getSyncContext ⟨none, 40, 150⟩).run (fun _ _ d => d) (bothTips 50 150) (0, outgoingDevice)).1 with
  | error err => cases hrun
  | ok syncContext =>
      rw [hrun] at hexec
      have hdb : ∀ d : Device, .found d ∈ outgoingMeetings 50 150 → d.world.db = outgoingDevice.world.db := by
        intro d hd
        have hfound : d = outgoingDevice := by simpa [outgoingMeetings] using hd
        rw [hfound]
      have hbitcoin : ∀ a, .got .bitcoinTip a ∈ outgoingMeetings 50 150 → a = .ok 150 := by
        intro a ha
        rcases ha with _ | ⟨_, _ | ⟨_, _ | ⟨_, _ | ⟨_, ha⟩⟩⟩⟩
        · rfl
        · cases ha
      have hlisted : listedOutgoing ∈ outgoingDevice.world.db.listChainSwaps := by decide +kernel
      obtain ⟨-, hcomplete⟩ := @recoverableSwaps_complete _ ⟨40, 150⟩ _ _ hexec hdb
      refine ⟨syncContext, listedOutgoing, hexec, rfl, ?_⟩
      exact hcomplete 50 150 List.mem_cons_self (by decide) hbitcoin (Nat.le_refl _) _ hlisted (by decide)

end BreezLiquid.Blocks
