/-
# BreezLiquid.Blocks.Delivery — no block is handled twice.

The loop calls the handlers only for a tip above the current one, and a start goes on from the stored tips. So the
heights the handlers see rise, through any stops and starts: a height comes again, or a lower one, only after the tip
had fallen below it, or after a start that could not read the stored tips, or read an older one since the newer could not
be stored.
-/
import BreezLiquid.Blocks.Loop
import BreezLiquid.Lib.History

namespace BreezLiquid.Blocks

open Interleaving Histories

/-! ## Rising heights -/

/-- The height that the handlers are called for. -/
def marks (chain : Blockchain) : BlockEvent → Option Nat
  | .block chain' height => if chain' = chain then some height else none
  | .tip .. | .reset | .stale .. => none

/-- Where the loop goes on from. -/
def levels (chain : Blockchain) : BlockEvent → Option Nat
  | .tip chain' height | .stale chain' height => if chain' = chain then some height else none
  | .reset => some 0
  | .block .. => none

/-- The handlers are called for a height that is not above an earlier one of the chain only after a lower tip was
fetched, or the loop was started without the stored tips, or from a lower one that is stored since the tip it had got to
was not. -/
def HandledOnce (blocks : List BlockEvent) : Prop :=
  ∀ chain newer between older height height',
    blocks = newer ++ .block chain height' :: (between ++ .block chain height :: older) → height' ≤ height →
    .reset ∈ between ∨ ∃ t < height', .tip chain t ∈ between ∨ .stale chain t ∈ between

/-- The same of the heights of each chain. -/
def RisingBlocks (blocks : List BlockEvent) : Prop := ∀ chain, Rising (marks chain) (levels chain) blocks

/-- What is handled from a height of a chain on was followed by a fall below it. -/
abbrev ClearOf (chain : Blockchain) (height : Nat) (blocks : List BlockEvent) : Prop :=
  Clear (marks chain) (levels chain) height blocks

/-- Nothing above the tips is handled, but for falls. -/
def ClearAbove (info : BlockchainInfo) (blocks : List BlockEvent) : Prop :=
  ∀ chain, ClearOf chain (info.tip chain + 1) blocks

/-- The heights rise, and above the stored tips nothing is handled, unless a tip could not be stored. -/
structure Ordered (d : Device) : Prop where
  rising : RisingBlocks d.blocks
  stored : ∀ chain, d.unstored chain = false → ClearOf chain ((d.blockchainInfo.getD {}).tip chain + 1) d.blocks

theorem marks_block (chain : Blockchain) (height : Nat) : marks chain (.block chain height) = some height := if_pos rfl

theorem levels_tip (chain : Blockchain) (height : Nat) : levels chain (.tip chain height) = some height := if_pos rfl

theorem levels_stale (chain : Blockchain) (height : Nat) : levels chain (.stale chain height) = some height :=
  if_pos rfl

/-- Only a block marks its height ... -/
theorem eq_of_marks {chain : Blockchain} {e : BlockEvent} {h : Nat} (he : marks chain e = some h) :
    e = .block chain h := by
  cases e with
  | block chain' height =>
      unfold marks at he
      dsimp only at he
      split at he
      · rename_i heq
        cases he
        rw [heq]
      · cases he
  | tip chain' height => cases he
  | reset => cases he
  | stale chain' height => cases he

/-- ... and only a fetched tip, a stale one or a reset lowers it. -/
theorem eq_of_levels {chain : Blockchain} {e : BlockEvent} {t : Nat} (he : levels chain e = some t) :
    e = .reset ∨ e = .tip chain t ∨ e = .stale chain t := by
  cases e with
  | tip chain' height =>
      unfold levels at he
      dsimp only at he
      split at he
      · rename_i heq
        cases he
        rw [heq]
        exact .inr (.inl rfl)
      · cases he
  | stale chain' height =>
      unfold levels at he
      dsimp only at he
      split at he
      · rename_i heq
        cases he
        rw [heq]
        exact .inr (.inr rfl)
      · cases he
  | reset => exact .inl rfl
  | block chain' height => cases he

/-- Blocks whose heights rise between the exceptions are handled once. -/
theorem RisingBlocks.handledOnce {blocks : List BlockEvent} (h : RisingBlocks blocks) : HandledOnce blocks := by
  intro chain newer between older height height' heq hle
  obtain ⟨e, hmem, t, hlevel, hlt⟩ := h chain newer _ _ height' heq (marks_block chain height') between _ older height
    rfl (marks_block chain height) hle
  rcases eq_of_levels hlevel with rfl | rfl | rfl
  · exact .inl hmem
  · exact .inr ⟨t, hlt, .inl hmem⟩
  · exact .inr ⟨t, hlt, .inr hmem⟩

/-- Events that call no handler. -/
def Quiet (e : BlockEvent) : Prop := ∀ chain, marks chain e = none

theorem quiet_tip (chain : Blockchain) (height : Nat) : Quiet (.tip chain height) := fun _ => rfl

theorem quiet_reset : Quiet .reset := fun _ => rfl

theorem quiet_stale (chain : Blockchain) (height : Nat) : Quiet (.stale chain height) := fun _ => rfl

theorem clear_quiet {chain : Blockchain} {height : Nat} {e : BlockEvent} {blocks : List BlockEvent} (he : Quiet e)
    (h : ClearOf chain height blocks) : ClearOf chain height (e :: blocks) := by
  refine h.cons fun h' hmark => ?_
  rw [he chain] at hmark
  cases hmark

/-- Events that mark nothing keep a height clear. -/
theorem clear_quiets {chain : Blockchain} {height : Nat} {l blocks : List BlockEvent} (hl : ∀ e ∈ l, Quiet e)
    (h : ClearOf chain height blocks) : ClearOf chain height (l ++ blocks) := by
  induction l with
  | nil => exact h
  | cons e l ih =>
      refine clear_quiet (hl e List.mem_cons_self) (ih fun e' he' => ?_)
      exact hl e' (List.mem_cons_of_mem e he')

/-- ... and keep the blocks rising. -/
theorem rising_quiets {l blocks : List BlockEvent} (hl : ∀ e ∈ l, Quiet e) (h : RisingBlocks blocks) :
    RisingBlocks (l ++ blocks) := by
  intro chain
  induction l with
  | nil => exact h chain
  | cons e l ih =>
      refine (ih fun e' he' => hl e' (List.mem_cons_of_mem e he')).cons fun h' hmark => ?_
      rw [hl e List.mem_cons_self chain] at hmark
      cases hmark

/-- The handlers are called for a height that is clear and not above the tip that is stored, if it could be. -/
theorem Ordered.block {d : Device} {chain : Blockchain} {height : Nat} (h : Ordered d)
    (hclear : ClearOf chain height d.blocks)
    (hle : d.unstored chain = true ∨ height ≤ (d.blockchainInfo.getD {}).tip chain) :
    Ordered (d.noteBlock (.block chain height)) := by
  constructor
  · intro chain'
    refine (h.rising chain').cons fun h' hmark => ?_
    cases eq_of_marks hmark
    exact hclear
  · intro chain' hstored
    refine (h.stored chain' hstored).cons fun h' hmark => ?_
    cases eq_of_marks hmark
    rcases hle with hunstored | hle
    · rw [show d.unstored chain = false from hstored] at hunstored
      cases hunstored
    · exact Nat.lt_succ_of_le hle

/-! ## What the syncs leave alone -/

/-- The history of the loop and the stored tips stay. -/
structure Spares (d d' : Device) : Prop where
  blocks : d'.blocks = d.blocks
  info : d'.blockchainInfo = d.blockchainInfo
  unstored : d'.unstored = d.unstored

def Sparing (f : Device → Device) : Prop := ∀ d, Spares d (f d)

theorem Spares.refl (d : Device) : Spares d d := ⟨rfl, rfl, rfl⟩

theorem Spares.trans {d d' d'' : Device} (h : Spares d d') (h' : Spares d' d'') : Spares d d'' :=
  ⟨h'.1.trans h.1, h'.2.trans h.2, h'.3.trans h.3⟩

/-- Whoever adds no blocks keeps them ordered. -/
theorem Spares.ordered {d d' : Device} (h : Spares d d') (hd : Ordered d) : Ordered d' := by
  obtain ⟨hblocks, hinfo, hunstored⟩ := h
  constructor
  · rw [hblocks]
    exact hd.rising
  · rw [hblocks, hinfo, hunstored]
    exact hd.stored

theorem sparing_id : Sparing id := Spares.refl

/-- The task spares them, whatever it asks. -/
abbrev SparingTask {α : Type} (t : DeviceAsync α) : Prop := t.Within Sparing fun _ => True

theorem leaves_sparing : Leaves Sparing where
  id := sparing_id
  world _ _ := ⟨rfl, rfl, rfl⟩
  walletInfo _ _ := ⟨rfl, rfl, rfl⟩

theorem sparing_notify (e : Notification) : Sparing (Device.notify e) := by
  intro d
  unfold Device.notify
  split
  · exact .refl d
  · exact ⟨rfl, rfl, rfl⟩

theorem sparing_check (r : Role) : Sparing (Device.check r) := by
  intro d
  unfold Device.check
  split
  · exact ⟨rfl, rfl, rfl⟩
  · exact .refl d

section Sync

variable (sdk : Sdk)

/-- A sync adds no blocks, whatever it recovers ... -/
theorem sparing_syncInner (r : Role) (swaps : List Swap) (tips : ChainTips) : SparingTask (syncInner sdk r swaps tips) := by
  refine Task.Within.bind (Task.within_askOk trivial rfl) fun _ => ?_
  refine Task.Within.bind ⟨sparing_check r, fun _ => trivial⟩ fun isFirstSync => ?_
  refine Task.Within.bind ?_ fun _ => Task.within_modify (sparing_notify .synced)
  cases isFirstSync with
  | true =>
      refine Task.Within.bind (Task.within_modify fun d => ⟨rfl, rfl, rfl⟩) fun _ => ?_
      refine Task.Within.bind (leaves_sparing.onWorld _) fun _ => ?_
      refine Task.Within.bind (Task.within_modify fun d => ⟨rfl, rfl, rfl⟩) fun _ => ?_
      exact Task.within_modify fun d => ⟨rfl, rfl, rfl⟩
  | false => exact leaves_sparing.onWorld _

/-- ... with the tips around it. -/
theorem sparing_sync (r : Role) (partialSync : Bool) : SparingTask (sync sdk r partialSync) := by
  refine Task.Within.bind leaves_sparing.getInfo fun info => ?_
  refine Task.Within.bind (leaves_sparing.getSyncContext _) fun syncContext => ?_
  refine Task.Within.bind (Task.within_done _) fun tip => ?_
  exact sparing_syncInner sdk r _ _

/-! ## The loop keeps the order -/

/-- Only the loop touches its history and the stored tips. -/
def deliveryProtocol : Protocol Device Role where
  inv := Ordered
  rely r d d' := r = .loop → Spares d d'
  guar r d d' := r ≠ .loop → Spares d d'
  idle _ _ := True
  rely_refl _ d _ := .refl d
  rely_trans _ _ _ _ h h' hr := (h hr).trans (h' hr)
  idle_stable _ _ _ _ _ _ := trivial

/-- A part of the loop, and what holds when it returns. -/
abbrev LoopSafe {α : Type} (t : DeviceAsync α) (post : Except Err α → Device → Prop) (d : Device) : Prop :=
  Safe (deviceSystem sdk) .any deliveryProtocol .loop t post d

variable {sdk}

/-- What the loop knows of its history and of the stored tips stays during a sync. -/
theorem safe_sparing {α : Type} {t : DeviceAsync α} (ht : SparingTask t) {J : Device → Prop}
    (hJ : ∀ d d', Spares d d' → J d → J d') {d : Device} (hd : J d) : LoopSafe sdk t (fun _ d => J d) d := by
  refine safe_of_within (P := deliveryProtocol) (fun d d' hrely _ h => hJ d d' (hrely rfl) h) ?_ ?_ ht hd
  · intro f hf d hi hd _
    exact ⟨(hf d).ordered hi, fun hr => absurd rfl hr, hJ d (f d) (hf d) hd⟩
  · intro q _ a d hi hd _
    have hspares : Spares d ((deviceSystem sdk).effect q a d) := ⟨rfl, rfl, rfl⟩
    exact ⟨hspares.ordered hi, fun hr => absurd rfl hr, hJ d _ hspares hd⟩

/-- The same for what comes before another part. -/
theorem safe_sparing_bind {α β : Type} {t : DeviceAsync α} (ht : SparingTask t) {J : Device → Prop}
    (hJ : ∀ d d', Spares d d' → J d → J d') {g : α → DeviceAsync β} {post : Except Err β → Device → Prop} {d : Device}
    (hd : J d) (herror : ∀ err d, post (.error err) d) (hg : ∀ a d, J d → LoopSafe sdk (g a) post d) :
    LoopSafe sdk (t.bind g) post d := by
  refine Safe.bind ((safe_sparing ht hJ hd).mono fun x d₁ _ hd₁ => ?_)
  cases x with
  | ok a => exact hg a d₁ hd₁
  | error err => exact herror err d₁

/-- One transaction of the loop. -/
theorem safe_modify_bind {β : Type} {f : Device → Device} {J : Device → Prop}
    (hJ : ∀ d d', Spares d d' → J d → J d') {g : Unit → DeviceAsync β} {post : Except Err β → Device → Prop}
    {d : Device} (hd : J d) (hf : ∀ d, Ordered d → J d → Ordered (f d) ∧ LoopSafe sdk (g ()) post (f d)) :
    LoopSafe sdk ((Task.modify f).bind g) post d := by
  intro d₁ hrely hi _
  obtain ⟨hordered, hsafe⟩ := hf d₁ hi (hJ d d₁ (hrely rfl) hd)
  exact ⟨hordered, fun hr => absurd rfl hr, hsafe⟩

/-! ### The context -/

/-- What a context says of the tips. -/
structure SyncContext.Fits (syncContext : SyncContext) (last : BlockchainInfo) : Prop where
  liquid : syncContext.isNewLiquidBlock = isNew syncContext.maybeLiquidTip last.liquidTip
  bitcoin : syncContext.isNewBitcoinBlock = isNew syncContext.maybeBitcoinTip last.bitcoinTip
  both : syncContext.maybeBitcoinTip.isSome → syncContext.maybeLiquidTip.isSome

/-- A tip is new if it was fetched and is above the last one. -/
theorem isNew_eq_true {tip : Option Nat} {lastTip : Nat} (h : isNew tip lastTip = true) :
    ∃ t, tip = some t ∧ lastTip < t := by
  cases tip with
  | none => cases h
  | some t => exact ⟨t, rfl, of_decide_eq_true h⟩

/-- The Bitcoin tip is only fetched after a new Liquid block. -/
theorem bitcoinTip_yields (isNewLiquidBlock : Bool) (swaps : List Swap) :
    (bitcoinTip isNewLiquidBlock swaps).Yields fun x =>
      ∀ fetched, x = .ok fetched → fetched.1.isSome → isNewLiquidBlock = true := by
  unfold bitcoinTip
  cases isNewLiquidBlock with
  | false =>
      rintro fetched hfetched hsome
      cases hfetched
      cases hsome
  | true => exact (Task.yields_true _).mono fun x _ fetched _ _ => rfl

/-- The context fits the tips it was asked with. -/
theorem getSyncContext_yields (last : BlockchainInfo) (partialSync : Option Bool) :
    (getSyncContext ⟨partialSync, last.liquidTip, last.bitcoinTip⟩).Yields fun x =>
      ∀ syncContext, x = .ok syncContext → syncContext.Fits last := by
  refine Task.Yields.bind_any nofun fun maybeLiquidTip => ?_
  refine Task.Yields.bind_any nofun fun swaps => ?_
  refine Task.Yields.bind ((bitcoinTip_yields _ swaps).mono fun x hx => ?_)
  cases x with
  | error err => exact nofun
  | ok fetched =>
      refine Task.Yields.bind_any nofun fun swaps => ?_
      rintro syncContext hcontext
      cases hcontext
      refine ⟨rfl, rfl, fun hsome => ?_⟩
      obtain ⟨t, ht, -⟩ := isNew_eq_true (hx fetched rfl hsome)
      rw [ht]
      rfl

/-! ### An iteration -/

/-- After the tips of a context were fetched: the new ones are clear. -/
structure Fetched (last : BlockchainInfo) (syncContext : SyncContext) (d : Device) : Prop where
  current : ClearAbove (syncContext.current last) d.blocks
  liquid : ∀ t, syncContext.maybeLiquidTip = some t → last.liquidTip < t → ClearOf .liquid t d.blocks
  bitcoin : ∀ t, syncContext.maybeBitcoinTip = some t → last.bitcoinTip < t → ClearOf .bitcoin t d.blocks

/-- The fetched tips are stored, if they could be. -/
def Stored (syncContext : SyncContext) (d : Device) : Prop :=
  (∀ t, syncContext.maybeLiquidTip = some t →
      d.unstored .liquid = true ∨ t ≤ (d.blockchainInfo.getD {}).tip .liquid) ∧
    ∀ t, syncContext.maybeBitcoinTip = some t →
      d.unstored .bitcoin = true ∨ t ≤ (d.blockchainInfo.getD {}).tip .bitcoin

section Iteration

variable {last : BlockchainInfo} {syncContext : SyncContext}

/-- What is known after the tips were fetched is known until blocks are added. -/
theorem Fetched.spared {d d' : Device} (hspares : Spares d d') (h : Fetched last syncContext d) :
    Fetched last syncContext d' := by
  obtain ⟨current, liquid, bitcoin⟩ := h
  rw [← hspares.1] at current liquid bitcoin
  exact ⟨current, liquid, bitcoin⟩

theorem Stored.spared {d d' : Device} (hspares : Spares d d') (h : Stored syncContext d) : Stored syncContext d' := by
  unfold Stored
  rw [hspares.info, hspares.unstored]
  exact h

theorem quiet_noteTips (maybeLiquidTip maybeBitcoinTip : Option Nat) :
    ∀ e ∈ maybeBitcoinTip.toList.map (BlockEvent.tip .bitcoin) ++ maybeLiquidTip.toList.map (.tip .liquid),
      Quiet e := by
  intro e he
  rcases List.mem_append.mp he with he | he
  · obtain ⟨t, -, rfl⟩ := List.mem_map.mp he
    exact quiet_tip .bitcoin t
  · obtain ⟨t, -, rfl⟩ := List.mem_map.mp he
    exact quiet_tip .liquid t

/-- Fetched tips are noted before anything is handled. -/
theorem Ordered.noteTips {d : Device} (h : Ordered d) (maybeLiquidTip maybeBitcoinTip : Option Nat) :
    Ordered (d.noteTips maybeLiquidTip maybeBitcoinTip) := by
  have hquiet := quiet_noteTips maybeLiquidTip maybeBitcoinTip
  exact ⟨rising_quiets hquiet h.rising, fun chain hstored => clear_quiets hquiet (h.stored chain hstored)⟩

/-- Where every handled block is at or below the last tips, so it is after the next ones are noted. -/
theorem fetched_noteTips {d : Device} (h : ClearAbove last d.blocks) :
    Fetched last syncContext (d.noteTips syncContext.maybeLiquidTip syncContext.maybeBitcoinTip) := by
  have hquiet := quiet_noteTips syncContext.maybeLiquidTip syncContext.maybeBitcoinTip
  refine ⟨?_, ?_, ?_⟩
  · intro chain
    show ClearOf chain _ (_ ++ d.blocks)
    cases chain with
    | liquid =>
        unfold SyncContext.current BlockchainInfo.tip
        cases hliquid : syncContext.maybeLiquidTip with
        | none =>
            rw [hliquid] at hquiet
            exact clear_quiets hquiet (h .liquid)
        | some t =>
            -- The tip itself is the fall.
            rw [List.append_assoc]
            refine clear_quiets (fun e he => hquiet e (List.mem_append_left _ he)) ?_
            exact clear_of_level rfl (levels_tip .liquid t) (Nat.lt_succ_self t)
    | bitcoin =>
        unfold SyncContext.current BlockchainInfo.tip
        cases hbitcoin : syncContext.maybeBitcoinTip with
        | none =>
            rw [hbitcoin] at hquiet
            exact clear_quiets hquiet (h .bitcoin)
        | some t => exact clear_of_level rfl (levels_tip .bitcoin t) (Nat.lt_succ_self t)
  · intro t _ hlt
    exact clear_quiets hquiet ((h .liquid).mono hlt)
  · intro t _ hlt
    exact clear_quiets hquiet ((h .bitcoin).mono hlt)

/-- A store sets these tips, or leaves those of `chains` unstored: nothing above what it sets is handled. -/
theorem safe_storeBlockchainInfo {chains : List Blockchain} {info : BlockchainInfo} {J : Device → Prop}
    (hJ : ∀ d d', Spares d d' → J d → J d') {d : Device} (hd : J d)
    (hfetched : ∀ d, J d → Fetched last syncContext d)
    (hclear : ∀ d, Ordered d → J d → ∀ chain, chain ∈ chains ∨ d.unstored chain = false →
      ClearOf chain (info.tip chain + 1) d.blocks)
    (hliquid : ∀ t, syncContext.maybeLiquidTip = some t → .liquid ∈ chains ∧ info.liquidTip = t)
    (hbitcoin : ∀ t, syncContext.maybeBitcoinTip = some t → .bitcoin ∈ chains ∧ info.bitcoinTip = t) :
    LoopSafe sdk (storeBlockchainInfo chains info) (fun _ d => Fetched last syncContext d ∧ Stored syncContext d) d := by
  intro d₁ hrely hi _
  have hd₁ := hJ d d₁ (hrely rfl) hd
  have hfetched₁ := hfetched d₁ hd₁
  have hset : Ordered (d₁.setBlockchainInfo chains info) ∧
      Fetched last syncContext (d₁.setBlockchainInfo chains info) ∧
        Stored syncContext (d₁.setBlockchainInfo chains info) := by
    unfold Device.setBlockchainInfo
    split
    · refine ⟨⟨hi.rising, fun chain hstored => hclear d₁ hi hd₁ chain ?_⟩,
        ⟨hfetched₁.current, hfetched₁.liquid, hfetched₁.bitcoin⟩, ?_, ?_⟩
      · by_cases hmem : chain ∈ chains
        · exact .inl hmem
        · refine .inr ?_
          simpa [hmem] using hstored
      · exact fun t ht => .inr (hliquid t ht).2.ge
      · exact fun t ht => .inr (hbitcoin t ht).2.ge
    · refine ⟨⟨hi.rising, fun chain hstored => hi.stored chain ?_⟩,
        ⟨hfetched₁.current, hfetched₁.liquid, hfetched₁.bitcoin⟩, ?_, ?_⟩
      · simp only [Bool.or_eq_false_iff] at hstored
        exact hstored.1
      · exact fun t ht => .inl (by simp [(hliquid t ht).1])
      · exact fun t ht => .inl (by simp [(hbitcoin t ht).1])
  refine ⟨hset.1, fun hr => absurd rfl hr, fun d₂ hrely _ => ?_⟩
  exact ⟨hset.2.1.spared (hrely rfl), hset.2.2.spared (hrely rfl)⟩

/-- The tips are stored, or marked as unstored. -/
theorem safe_updateBlockchainInfo {t : Nat} (ht : syncContext.maybeLiquidTip = some t) {d : Device}
    (hd : Fetched last syncContext d) :
    LoopSafe sdk (updateBlockchainInfo t syncContext.maybeBitcoinTip)
      (fun _ d => Fetched last syncContext d ∧ Stored syncContext d) d := by
  have hliquid : ∀ d : Device, Fetched last syncContext d → ClearOf .liquid (t + 1) d.blocks := by
    intro d hd
    have hclear := hd.current .liquid
    unfold SyncContext.current BlockchainInfo.tip at hclear
    rw [ht] at hclear
    exact hclear
  have hnew : ∀ t', syncContext.maybeLiquidTip = some t' → t = t' := fun t' ht' => Option.some.inj (ht.symm.trans ht')
  unfold updateBlockchainInfo
  cases hb : syncContext.maybeBitcoinTip with
  | some b =>
      refine safe_storeBlockchainInfo (fun _ _ => Fetched.spared) hd (fun _ h => h) ?_ ?_ ?_
      · intro d _ hd chain _
        cases chain with
        | liquid => exact hliquid d hd
        | bitcoin =>
            have hclear := hd.current .bitcoin
            unfold SyncContext.current BlockchainInfo.tip at hclear
            rw [hb] at hclear
            exact hclear
      · exact fun t' ht' => ⟨List.mem_cons_self, hnew t' ht'⟩
      · exact fun b' hb' => ⟨by decide, Option.some.inj (hb.symm.trans hb')⟩
  | none =>
      intro d₁ hrely hi _
      have hd₁ := hd.spared (hrely rfl)
      have hunread : Ordered d₁.noteUnread := by
        refine ⟨hi.rising, fun chain hstored => hi.stored chain ?_⟩
        unfold Device.noteUnread at hstored
        simp only [Bool.or_eq_false_iff] at hstored
        exact hstored.1
      refine ⟨hunread, fun hr => absurd rfl hr, ?_⟩
      show LoopSafe sdk ((Task.done d₁.getBlockchainInfo).bind fun info =>
        storeBlockchainInfo [.liquid] { liquidTip := t, bitcoinTip := (info.map (·.bitcoinTip)).getD 0 }) _ d₁.noteUnread
      cases hread : d₁.getBlockchainInfo with
      | error err =>
          rintro d₂ hrely -
          refine ⟨Fetched.spared (hrely rfl) ⟨hd₁.current, hd₁.liquid, hd₁.bitcoin⟩, ?_⟩
          refine Stored.spared (hrely rfl) ⟨fun t' ht' => .inl ?_, fun b' hb' => ?_⟩
          · unfold Device.getBlockchainInfo at hread
            unfold Device.noteUnread
            cases hopens : d₁.access.opens with
            | false => simp
            | true =>
                rw [hopens] at hread
                cases hread
          · rw [hb] at hb'
            cases hb'
      | ok info =>
          -- What was read is the stored Bitcoin tip, as only the loop stores tips, unless it could not be read.
          refine safe_storeBlockchainInfo (J := fun d => Fetched last syncContext d ∧
              d.blockchainInfo = d₁.blockchainInfo ∧ d.unstored = d₁.noteUnread.unstored)
            (fun d d' hspares h => ⟨h.1.spared hspares, hspares.info.trans h.2.1, hspares.unstored.trans h.2.2⟩)
            ⟨⟨hd₁.current, hd₁.liquid, hd₁.bitcoin⟩, rfl, rfl⟩ (fun _ h => h.1) ?_ ?_ ?_
          · rintro d hi ⟨hd, hsame, hunstored⟩ chain hchain
            cases chain with
            | liquid => exact hliquid d hd
            | bitcoin =>
                have hstored : d.unstored .bitcoin = false := by
                  rcases hchain with hchain | hchain
                  · exact absurd hchain (by decide)
                  · exact hchain
                have hclear := hi.stored .bitcoin hstored
                rw [hunstored] at hstored
                unfold Device.noteUnread at hstored
                unfold Device.getBlockchainInfo at hread
                simp only [Bool.or_eq_false_iff, Bool.not_eq_false', Bool.and_eq_true] at hstored
                obtain ⟨-, hopens, hreads⟩ := hstored
                rw [if_pos hopens, if_pos hreads] at hread
                cases hread
                rw [hsame] at hclear
                show ClearOf .bitcoin ((d₁.blockchainInfo.map (·.bitcoinTip)).getD 0 + 1) d.blocks
                cases hinfo : d₁.blockchainInfo with
                | none =>
                    rw [hinfo] at hclear
                    exact hclear
                | some info =>
                    rw [hinfo] at hclear
                    exact hclear
          · exact fun t' ht' => ⟨List.mem_cons_self, hnew t' ht'⟩
          · intro b' hb'
            rw [hb] at hb'
            cases hb'

/-- The sync to new tips adds no blocks, and they are stored or noted as not stored. -/
theorem safe_syncToTips (hfits : syncContext.Fits last) {d : Device} (hd : Fetched last syncContext d) :
    LoopSafe sdk (syncToTips sdk syncContext) (fun _ d => Fetched last syncContext d ∧ Stored syncContext d) d := by
  have hspared : ∀ d d', Spares d d' → Fetched last syncContext d ∧ Stored syncContext d →
      Fetched last syncContext d' ∧ Stored syncContext d' :=
    fun d d' hspares h => ⟨h.1.spared hspares, h.2.spared hspares⟩
  unfold syncToTips
  cases ht : syncContext.maybeLiquidTip with
  | none =>
      have hnone : syncContext.maybeBitcoinTip = none := by
        cases hb : syncContext.maybeBitcoinTip with
        | none => rfl
        | some b =>
            have hsome := hfits.both
            rw [hb, ht] at hsome
            cases hsome rfl
      refine fun d₁ hrely _ => ⟨hd.spared (hrely rfl), ?_, ?_⟩
      · rw [ht]
        exact nofun
      · rw [hnone]
        exact nofun
  | some t =>
      refine Safe.bind (Safe.attempt ((safe_updateBlockchainInfo ht hd).mono fun _ d _ hd => ?_))
      refine safe_sparing ?_ hspared hd
      refine Task.Within.bind (sparing_syncInner sdk .loop _ _).attempt fun result => ?_
      cases result with
      | ok _ => exact Task.within_done _
      | error err => exact Task.within_modify (sparing_notify _)

/-- After the handlers of a new Liquid block. -/
def LiquidHandled (last : BlockchainInfo) (syncContext : SyncContext) (d : Device) : Prop :=
  ClearAbove (syncContext.current last) d.blocks ∧
    (∀ t, syncContext.maybeBitcoinTip = some t → last.bitcoinTip < t → ClearOf .bitcoin t d.blocks) ∧
    Stored syncContext d

theorem LiquidHandled.spared {d d' : Device} (hspares : Spares d d') (h : LiquidHandled last syncContext d) :
    LiquidHandled last syncContext d' := by
  obtain ⟨current, bitcoin, stored⟩ := h
  rw [← hspares.1] at current bitcoin
  exact ⟨current, bitcoin, stored.spared hspares⟩

/-- A new Liquid height is handled above all that were handled before ... -/
theorem safe_onLiquidBlock (hfits : syncContext.Fits last) {d : Device} (hd : Fetched last syncContext d)
    (hstored : Stored syncContext d) :
    LoopSafe sdk (onLiquidBlock sdk syncContext.isNewLiquidBlock (syncContext.current last).liquidTip)
      (fun _ d => LiquidHandled last syncContext d) d := by
  unfold onLiquidBlock
  cases hnew : syncContext.isNewLiquidBlock with
  | false =>
      exact fun d₁ hrely _ =>
        LiquidHandled.spared (hrely rfl) ⟨hd.current, hd.bitcoin, hstored⟩
  | true =>
      rw [hfits.liquid] at hnew
      obtain ⟨t, ht, hlt⟩ := isNew_eq_true hnew
      have hcurrent : (syncContext.current last).liquidTip = t := by
        unfold SyncContext.current
        rw [ht]
        rfl
      refine safe_modify_bind (J := fun d => Fetched last syncContext d ∧ Stored syncContext d)
        (fun d d' hspares h => ⟨h.1.spared hspares, h.2.spared hspares⟩) ⟨hd, hstored⟩ fun d hi hd => ?_
      obtain ⟨hd, hstored⟩ := hd
      refine ⟨hi.block ?_ ?_, ?_⟩
      · rw [hcurrent]
        exact hd.liquid t ht hlt
      · rw [hcurrent]
        exact hstored.1 t ht
      · refine safe_sparing ?_ (fun _ _ => LiquidHandled.spared) ⟨?_, ?_, hstored⟩
        · refine Task.Within.bind (leaves_sparing.onWorld _) fun _ => ?_
          refine Task.Within.bind (leaves_sparing.onWorld _) fun _ => ?_
          exact leaves_sparing.onWorld _
        · intro chain
          refine (hd.current chain).cons fun h' hmark => ?_
          cases eq_of_marks hmark
          exact Nat.lt_succ_self _
        · intro b hb hlt
          refine (hd.bitcoin b hb hlt).cons fun h' hmark => ?_
          cases eq_of_marks hmark

/-- ... and a new Bitcoin height too ... -/
theorem safe_onBitcoinBlock (hfits : syncContext.Fits last) {d : Device} (hd : LiquidHandled last syncContext d) :
    LoopSafe sdk (onBitcoinBlock sdk syncContext.isNewBitcoinBlock (syncContext.current last).bitcoinTip)
      (fun _ d => ClearAbove (syncContext.current last) d.blocks) d := by
  have hspared : ∀ d d' : Device, Spares d d' → ClearAbove (syncContext.current last) d.blocks →
      ClearAbove (syncContext.current last) d'.blocks := by
    intro d d' hspares h
    rw [hspares.1]
    exact h
  unfold onBitcoinBlock
  cases hnew : syncContext.isNewBitcoinBlock with
  | false => exact fun d₁ hrely _ => hspared d d₁ (hrely rfl) hd.1
  | true =>
      rw [hfits.bitcoin] at hnew
      obtain ⟨b, hb, hlt⟩ := isNew_eq_true hnew
      have hcurrent : (syncContext.current last).bitcoinTip = b := by
        unfold SyncContext.current
        rw [hb]
        rfl
      refine safe_modify_bind (fun _ _ => LiquidHandled.spared) hd fun d hi hd => ?_
      obtain ⟨hclear, hbitcoin, hstored⟩ := hd
      refine ⟨hi.block ?_ ?_, safe_sparing (leaves_sparing.onWorld _) hspared ?_⟩
      · rw [hcurrent]
        exact hbitcoin b hb hlt
      · rw [hcurrent]
        exact hstored.2 b hb
      · intro chain
        refine (hclear chain).cons fun h' hmark => ?_
        cases eq_of_marks hmark
        exact Nat.lt_succ_self _

/-- ... so that the next iteration starts above them. -/
theorem safe_onSyncContext (hfits : syncContext.Fits last) {d : Device} (hd : ClearAbove last d.blocks) :
    LoopSafe sdk (onSyncContext sdk last syncContext)
      (fun x d => ∀ current, x = .ok current → ClearAbove current d.blocks) d := by
  have hspared : ∀ d d' : Device, Spares d d' → ClearAbove last d.blocks → ClearAbove last d'.blocks := by
    intro d d' hspares h
    rw [hspares.1]
    exact h
  unfold onSyncContext
  refine safe_modify_bind hspared hd fun d hi hd => ⟨hi.noteTips _ _, ?_⟩
  refine Safe.bind ((safe_syncToTips hfits (fetched_noteTips hd)).mono fun x d _ hd => ?_)
  cases x with
  | error err => exact nofun
  | ok _ =>
      refine Safe.bind ((safe_onLiquidBlock hfits hd.1 hd.2).mono fun x d _ hd => ?_)
      cases x with
      | error err => exact nofun
      | ok _ =>
          refine Safe.bind ((safe_onBitcoinBlock hfits hd).mono fun x d _ hd => ?_)
          cases x with
          | error err => exact nofun
          | ok _ =>
              rintro d₁ hrely - current hcurrent
              cases hcurrent
              rw [(hrely rfl).1]
              exact hd

end Iteration

/-- **An iteration** goes on from tips above which nothing is handled to such tips. -/
theorem safe_trackNewBlocks {last : BlockchainInfo} {d : Device} (hd : ClearAbove last d.blocks) :
    LoopSafe sdk (trackNewBlocks sdk last) (fun x d => ∀ current, x = .ok current → ClearAbove current d.blocks) d := by
  have hspared : ∀ d d' : Device, Spares d d' → ClearAbove last d.blocks → ClearAbove last d'.blocks := by
    intro d d' hspares h
    rw [hspares.1]
    exact h
  have hsafe : LoopSafe sdk (getSyncContext ⟨none, last.liquidTip, last.bitcoinTip⟩) _ d :=
    (safe_sparing (leaves_sparing.getSyncContext _) hspared hd).yields (getSyncContext_yields last none)
  refine Safe.bind (Safe.attempt (hsafe.mono fun x d _ h => ?_))
  obtain ⟨hyields, hd⟩ := h
  cases x with
  | error err =>
      rintro d₁ hrely - current hcurrent
      cases hcurrent
      exact hspared d d₁ (hrely rfl) hd
  | ok syncContext => exact safe_onSyncContext (hyields syncContext rfl) hd

/-- By induction on the iterations. -/
theorem safe_trackNewBlocksLoop (n : Nat) {last : BlockchainInfo} {d : Device} (hd : ClearAbove last d.blocks) :
    LoopSafe sdk (trackNewBlocksLoop sdk n last) (fun _ _ => True) d := by
  induction n generalizing last d with
  | zero => exact fun _ _ _ => trivial
  | succ n ih =>
      have hspared : ∀ d d' : Device, Spares d d' → ClearAbove last d.blocks → ClearAbove last d'.blocks := by
        intro d d' hspares h
        rw [hspares.1]
        exact h
      refine safe_sparing_bind (Task.within_ask trivial) hspared hd (fun _ _ => trivial) fun _ d hd => ?_
      refine Safe.bind ((safe_trackNewBlocks hd).mono fun x d _ hd => ?_)
      cases x with
      | error err => trivial
      | ok current => exact ih (hd current rfl)

/-- Above these tips nothing is handled, but on the chains whose tip could not be stored. -/
def ClearStored (info : BlockchainInfo) (d : Device) : Prop :=
  ∀ chain, d.unstored chain = false → ClearOf chain (info.tip chain + 1) d.blocks

/-- What is known of the stored tips is known until blocks are added. -/
theorem ClearStored.spared {info : BlockchainInfo} {d d' : Device} (hspares : Spares d d') (h : ClearStored info d) :
    ClearStored info d' := by
  unfold ClearStored
  rw [hspares.blocks, hspares.unstored]
  exact h

theorem safe_readInfo (d : Device) :
    LoopSafe sdk readInfo (fun x d => ∀ info, x = .ok (some info) → ClearStored info d) d := by
  intro d₁ _ hi _
  refine ⟨hi, fun hr => absurd rfl hr, ?_⟩
  rintro d₂ hrely - info hinfo
  have hstored : ClearStored (d₁.blockchainInfo.getD {}) d₁ := hi.stored
  unfold Device.getInfo at hinfo
  split at hinfo
  · obtain ⟨walletInfo, -, rfl⟩ := Option.map_eq_some_iff.mp (Except.ok.inj hinfo)
    exact hstored.spared (hrely rfl)
  · cases hinfo

/-- The tips the loop starts with are above all handled blocks, or the read was noted to have failed. -/
theorem safe_getInfo (d : Device) :
    LoopSafe sdk getInfo (fun x d => ∀ info, x = .ok info → ClearStored info d) d := by
  refine Safe.bind ((safe_readInfo d).mono fun x d _ hd => ?_)
  cases x with
  | error err => exact nofun
  | ok maybeInfo =>
      cases maybeInfo with
      | some info =>
          rintro d₁ hrely - last hlast
          cases hlast
          exact (hd _ rfl).spared (hrely rfl)
      | none =>
          have hwallet : SparingTask updateWalletInfo :=
            Task.Within.bind (Task.within_askOk trivial rfl) fun walletInfo =>
              Task.within_modify fun d => ⟨rfl, rfl, rfl⟩
          refine safe_sparing_bind (J := fun _ => True) hwallet (fun _ _ _ h => h) trivial (fun _ _ => nofun)
            fun _ d _ => ?_
          refine Safe.bind ((safe_readInfo d).mono fun x d _ hd => ?_)
          cases x with
          | error err => exact nofun
          | ok maybeInfo =>
              cases maybeInfo with
              | none => exact fun _ _ _ => nofun
              | some info =>
                  rintro d₁ hrely - last hlast
                  cases hlast
                  exact (hd _ rfl).spared (hrely rfl)

/-- A start notes the tips that could not be stored, from which on nothing is handled yet. -/
theorem ordered_noteStart {info : BlockchainInfo} {d : Device} (hi : Ordered d) (h : ClearStored info d) :
    Ordered (d.noteStart info) ∧ ClearAbove info (d.noteStart info).blocks := by
  have hquiet : ∀ e ∈ ([.liquid, .bitcoin].filter d.unstored).map fun chain => BlockEvent.stale chain (info.tip chain),
      Quiet e := by
    intro e he
    obtain ⟨chain, -, rfl⟩ := List.mem_map.mp he
    exact quiet_stale chain _
  refine ⟨⟨rising_quiets hquiet hi.rising, fun chain hstored => clear_quiets hquiet (hi.stored chain hstored)⟩,
    fun chain => ?_⟩
  cases hunstored : d.unstored chain with
  | false => exact clear_quiets hquiet (h chain hunstored)
  | true =>
      -- Its own start is the fall.
      have hmem : BlockEvent.stale chain (info.tip chain) ∈
          ([.liquid, .bitcoin].filter d.unstored).map fun chain => BlockEvent.stale chain (info.tip chain) := by
        refine List.mem_map.mpr ⟨chain, List.mem_filter.mpr ⟨?_, hunstored⟩, rfl⟩
        cases chain <;> decide
      obtain ⟨newer, older, hsplit⟩ := List.append_of_mem hmem
      unfold Device.noteStart
      dsimp only
      rw [hsplit, List.append_assoc]
      refine clear_quiets (fun e he => hquiet e (hsplit ▸ List.mem_append_left _ he)) ?_
      exact clear_of_level rfl (levels_stale chain _) (Nat.lt_succ_self _)

/-- The loop starts with the stored tips, or below everything. -/
theorem safe_lastBlockchainInfo (d : Device) :
    LoopSafe sdk lastBlockchainInfo (fun x d => ∀ last, x = .ok last → ClearAbove last d.blocks) d := by
  refine Safe.bind (Safe.attempt ((safe_getInfo d).mono fun x d _ hd => ?_))
  cases x with
  | ok info =>
      refine safe_modify_bind (J := ClearStored info) (fun _ _ => ClearStored.spared) (hd info rfl) fun d hi hd => ?_
      obtain ⟨hordered, hclear⟩ := ordered_noteStart hi hd
      refine ⟨hordered, ?_⟩
      rintro d₁ hrely - last hlast
      cases hlast
      rw [(hrely rfl).1]
      exact hclear
  | error err =>
      refine safe_modify_bind (J := fun _ => True) (fun _ _ _ h => h) trivial fun d hi _ => ⟨⟨?_, ?_⟩, ?_⟩
      · exact rising_quiets (l := [.reset]) (fun e he => List.mem_singleton.mp he ▸ quiet_reset) hi.rising
      · exact fun chain hstored => clear_quiet quiet_reset (hi.stored chain hstored)
      · rintro d₁ hrely - last hlast
        cases hlast
        rw [(hrely rfl).1]
        intro chain
        refine clear_of_level rfl rfl ?_
        exact Nat.succ_pos _

/-- So the whole task keeps the order of the blocks, from the tips it starts with. -/
theorem safe_trackNewBlocksTask (iterations : Nat) (d : Device) :
    LoopSafe sdk (trackNewBlocksTask sdk iterations) (fun _ _ => True) d := by
  refine Safe.bind ((safe_lastBlockchainInfo d).mono fun x d _ hd => ?_)
  cases x with
  | error err => trivial
  | ok last =>
      refine Safe.bind ((safe_trackNewBlocks (hd last rfl)).mono fun x d _ hd => ?_)
      cases x with
      | error err => trivial
      | ok current => exact safe_trackNewBlocksLoop iterations (hd current rfl)

/-- The roles do not disturb each other: the loop alone adds blocks. -/
theorem delivery_sound : Sound (deviceSystem sdk) .any deliveryProtocol (· ≠ ·) where
  compat r r' hne s s' hguar hr' := by
    have hne : r ≠ r' := hne.elim id id
    exact hguar (hr' ▸ hne)
  spawn roles d r t hspawn hi _ _ := by
    obtain ⟨hfree, hspawn⟩ := hspawn
    refine ⟨fun r' hr' => ⟨?_, ?_⟩, ?_⟩
    · rintro rfl
      exact hfree hr'
    · rintro rfl
      exact hfree hr'
    · cases hspawn with
      | loop iterations => exact (safe_trackNewBlocksTask iterations d).mono fun _ _ _ _ => trivial
      | sync n partialSync =>
          refine safe_of_within (P := deliveryProtocol) (J := fun _ => True) (fun _ _ _ _ h => h) ?_ ?_
            (sparing_sync sdk (.sync n) partialSync) trivial
          · intro f hf d hi _ _
            exact ⟨(hf d).ordered hi, fun _ => hf d, trivial⟩
          · intro q _ a d hi _ _
            have hspares : Spares d ((deviceSystem sdk).effect q a d) := ⟨rfl, rfl, rfl⟩
            exact ⟨hspares.ordered hi, fun _ => hspares, trivial⟩
  abort _ _ _ _ := trivial
  env d d' henv hi _ := by
    obtain ⟨world, access, walletInfo, rfl⟩ := henv
    exact ⟨⟨hi.rising, hi.stored⟩, fun _ _ => ⟨rfl, rfl, rfl⟩⟩

end Sync

/-! ## A restart at the same tip -/

/-- The device after some iterations at a tip. -/
def atTip (tip iterations : Nat) (d : Device) : Device :=
  ((trackNewBlocksTask blocksSdk iterations).run (Device.effect blocksSdk) (tipAnswers tip) (0, d)).2.2

/-- One iteration at a tip, as a run. -/
theorem runs_atTip (tip iterations : Nat) (d : Device) :
    Runs (deviceSystem blocksSdk) .any ⟨d, []⟩ ⟨atTip tip iterations d, []⟩ :=
  runs_spawn_any (S := deviceSystem blocksSdk) (fun _ _ _ => trivial) (tipAnswers tip)
    ⟨List.not_mem_nil, .loop iterations⟩

/-- A device that is stopped, and started again at the same tip and at a higher one. -/
def restartedDevice : Device := atTip 6 1 (atTip 5 0 (atTip 5 1 startedDevice))

/-- Its tips cannot be stored before the restart. -/
def lockedDevice : Device := atTip 5 1 { startedDevice with access := { writes := false } }

def unlockedDevice : Device := atTip 5 0 { lockedDevice with access := {} }

/-- The device for the example, by a run. -/
theorem runs_unlockedDevice : Runs (deviceSystem blocksSdk) .any ⟨startedDevice, []⟩ ⟨unlockedDevice, []⟩ := by
  have hlock : Runs (deviceSystem blocksSdk) .any ⟨startedDevice, []⟩
      ⟨{ startedDevice with access := { writes := false } }, []⟩ :=
    .tail .refl ⟨.env, .env ⟨_, _, _, rfl⟩, trivial⟩
  have hunlock : Runs (deviceSystem blocksSdk) .any ⟨lockedDevice, []⟩ ⟨{ lockedDevice with access := {} }, []⟩ :=
    .tail .refl ⟨.env, .env ⟨_, _, _, rfl⟩, trivial⟩
  exact ((hlock.trans (runs_atTip 5 1 _)).trans hunlock).trans (runs_atTip 5 0 _)

end BreezLiquid.Blocks
