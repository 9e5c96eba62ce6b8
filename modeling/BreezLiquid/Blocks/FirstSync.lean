/-
# BreezLiquid.Blocks.FirstSync — when notifications stay paused.

A sync that finds no first sync complete pauses the notifications and resumes them when it is through. An error in
between leaves them paused, for the next first sync to resume. But the check and the pause are two steps, and the flag
is set after the resuming: of two syncs that overlap, one may complete while the other, which has checked before, is
still to pause. If that one fails, no later sync is a first one, and nobody is notified any more.
-/
import BreezLiquid.Blocks.Loop

namespace BreezLiquid.Blocks

open Interleaving

/-! ## The order of the points -/

/-- Who has paused the notifications, if nobody has resumed them since. -/
def pausedBy : List (Role × Phase) → Option Role
  | [] => none
  | (r, .paused) :: _ => some r
  | (_, .resumed) :: _ => none
  | (_, .checked) :: l | (_, .completed) :: l => pausedBy l

/-- The newest point of a role. -/
def lastOf (r : Role) (l : List (Role × Phase)) : Option Phase := (l.find? fun e => e.1 = r).map Prod.snd

/-- A check finds nothing completed; a sync pauses right after its check, and completes right after it resumed. -/
def Proper : Role × Phase → List (Role × Phase) → Prop
  | (_, .checked), older => ∀ r, (r, .completed) ∉ older
  | (r, .paused), older => lastOf r older = some .checked
  | (_, .resumed), _ => True
  | (r, .completed), older => lastOf r older = some .resumed

def AllProper (l : List (Role × Phase)) : Prop := ∀ newer e older, l = newer ++ e :: older → Proper e older

theorem allProper_nil : AllProper [] := by
  intro newer e older heq
  simp at heq

theorem AllProper.cons {e : Role × Phase} {l : List (Role × Phase)} (h : AllProper l) (he : Proper e l) :
    AllProper (e :: l) := by
  intro newer e' older heq
  cases newer with
  | nil =>
      obtain ⟨rfl, rfl⟩ := List.cons.inj heq
      exact he
  | cons x newer =>
      obtain ⟨-, htail⟩ := List.cons.inj heq
      exact h newer e' older htail

theorem lastOf_cons_self (r : Role) (phase : Phase) (l : List (Role × Phase)) :
    lastOf r ((r, phase) :: l) = some phase := by
  unfold lastOf
  simp

/-- What other roles add does not count. -/
theorem lastOf_append_others {r : Role} {l l' : List (Role × Phase)} (h : ∀ e ∈ l, e.1 ≠ r) :
    lastOf r (l ++ l') = lastOf r l' := by
  have hnone : l.find? (fun e => decide (e.1 = r)) = none := by
    rw [List.find?_eq_none]
    intro e he
    simpa using h e he
  unfold lastOf
  rw [List.find?_append, hnone, Option.none_or]

/-- The last entry of a role, with what came after it. -/
theorem lastOf_eq_some {r : Role} {phase : Phase} {l : List (Role × Phase)} (h : lastOf r l = some phase) :
    ∃ newer older, l = newer ++ (r, phase) :: older ∧ ∀ e ∈ newer, e.1 ≠ r := by
  obtain ⟨e, hfind, rfl⟩ := Option.map_eq_some_iff.mp h
  obtain ⟨he, newer, older, rfl, hnewer⟩ := List.find?_eq_some_iff_append.mp hfind
  obtain ⟨r', phase⟩ := e
  obtain rfl : r' = r := of_decide_eq_true he
  refine ⟨newer, older, rfl, fun e he => ?_⟩
  simpa using hnewer e he

/-- The role that paused last, and no one has resumed since. -/
theorem pausedBy_eq_some {r : Role} {l : List (Role × Phase)} (h : pausedBy l = some r) :
    ∃ newer older, l = newer ++ (r, .paused) :: older ∧ ∀ e ∈ newer, e.2 ≠ .paused ∧ e.2 ≠ .resumed := by
  induction l with
  | nil => cases h
  | cons e l ih =>
      obtain ⟨r', phase⟩ := e
      have hskip : pausedBy l = some r → phase ≠ .paused → phase ≠ .resumed →
          ∃ newer older, (r', phase) :: l = newer ++ (r, .paused) :: older ∧
            ∀ e ∈ newer, e.2 ≠ .paused ∧ e.2 ≠ .resumed := by
        intro hl hpaused hresumed
        obtain ⟨newer, older, rfl, hnewer⟩ := ih hl
        refine ⟨(r', phase) :: newer, older, rfl, fun e he => ?_⟩
        rcases List.mem_cons.mp he with rfl | he
        · exact ⟨hpaused, hresumed⟩
        · exact hnewer e he
      cases phase with
      | paused =>
          cases h
          exact ⟨[], l, rfl, fun e he => absurd he List.not_mem_nil⟩
      | resumed => cases h
      | checked => exact hskip h nofun nofun
      | completed => exact hskip h nofun nofun

/-! ## The invariant -/

/-- The flags agree with the points of the syncs. -/
structure Consistent (d : Device) : Prop where
  proper : AllProper d.syncs
  paused : d.isPaused = true → ∃ r, pausedBy d.syncs = some r
  completed : ∀ r, (r, .completed) ∈ d.syncs → d.isFirstSyncComplete = some true
  complete : d.isFirstSyncComplete = some true → (∃ r, (r, .completed) ∈ d.syncs) ∨ ∀ r, (r, .checked) ∉ d.syncs

/-- The flags and the points of the syncs stay, and nobody is notified while notifications are paused. -/
structure SparesFlags (d d' : Device) : Prop where
  syncs : d'.syncs = d.syncs
  isPaused : d'.isPaused = d.isPaused
  isFirstSyncComplete : d'.isFirstSyncComplete = d.isFirstSyncComplete
  notified : d.isPaused = true → d'.notified = d.notified

/-- Whoever spares the flags keeps their account. -/
theorem SparesFlags.consistent {d d' : Device} (h : SparesFlags d d') (hd : Consistent d) : Consistent d' := by
  obtain ⟨hsyncs, hpaused, hcomplete, -⟩ := h
  obtain ⟨proper, paused, completed, complete⟩ := hd
  rw [← hsyncs] at proper paused completed complete
  rw [← hpaused] at paused
  rw [← hcomplete] at completed complete
  exact ⟨proper, paused, completed, complete⟩

/-- Points of other roles, or of the role alone, are added. -/
def Adds (p : Role → Prop) (d d' : Device) : Prop := ∃ l, d'.syncs = l ++ d.syncs ∧ ∀ e ∈ l, p e.1

theorem Adds.refl (p : Role → Prop) (d : Device) : Adds p d d := ⟨[], rfl, nofun⟩

theorem Adds.trans {p : Role → Prop} {d d' d'' : Device} (h : Adds p d d') (h' : Adds p d' d'') : Adds p d d'' := by
  obtain ⟨l, hl, hp⟩ := h
  obtain ⟨l', hl', hp'⟩ := h'
  refine ⟨l' ++ l, by rw [hl', hl, List.append_assoc], fun e he => ?_⟩
  exact (List.mem_append.mp he).elim (hp' e) (hp e)

theorem Adds.cons {p : Role → Prop} {d d' : Device} {e : Role × Phase} (h : d'.syncs = e :: d.syncs) (he : p e.1) :
    Adds p d d' := ⟨[e], h, fun _ hmem => List.mem_singleton.mp hmem ▸ he⟩

/-- Sparing the flags is adding nothing. -/
theorem Adds.of_spares {p : Role → Prop} {d d' : Device} (h : SparesFlags d d') : Adds p d d' := ⟨[], h.syncs, nofun⟩

/-- What others add leaves the role's own last entry. -/
theorem Adds.lastOf {r : Role} {d d' : Device} (h : Adds (· ≠ r) d d') : lastOf r d'.syncs = lastOf r d.syncs := by
  obtain ⟨l, hl, hp⟩ := h
  rw [hl]
  exact lastOf_append_others hp

/-! ## The points of a sync -/

def SparingFlags (f : Device → Device) : Prop := ∀ d, SparesFlags d (f d)

/-- The task spares the flags and the points, whatever it asks. -/
abbrev SparingFlagsTask {α : Type} (t : DeviceAsync α) : Prop := t.Within SparingFlags fun _ => True

theorem sparingFlags_id : SparingFlags id := fun _ => ⟨rfl, rfl, rfl, fun _ => rfl⟩

theorem leaves_sparingFlags : Leaves SparingFlags where
  id := sparingFlags_id
  world _ _ := ⟨rfl, rfl, rfl, fun _ => rfl⟩
  walletInfo _ _ := ⟨rfl, rfl, rfl, fun _ => rfl⟩

/-- Notifications spare the flags, delivered or not. -/
theorem sparingFlags_notify (e : Notification) : SparingFlags (Device.notify e) := by
  intro d
  unfold Device.notify
  split
  · exact ⟨rfl, rfl, rfl, fun _ => rfl⟩
  · rename_i hpaused
    exact ⟨rfl, rfl, rfl, fun hnow => absurd hnow hpaused⟩

section Tasks

variable {sdk : Sdk} {P : Protocol Device Role} {r : Role}

variable (sdk P r) in
/-- The task keeps the protocol, wherever it starts. -/
def SafeTask {α : Type} (t : DeviceAsync α) : Prop :=
  ∀ d, Safe (deviceSystem sdk) .any P r t (fun _ _ => True) d

/-- Safe tasks, one after the other. -/
theorem SafeTask.bind {α β : Type} {t : DeviceAsync α} {g : α → DeviceAsync β} (ht : SafeTask sdk P r t)
    (hg : ∀ a, SafeTask sdk P r (g a)) : SafeTask sdk P r (t.bind g) := by
  refine fun d => Safe.bind ((ht d).mono fun x d _ _ => ?_)
  cases x with
  | error err => trivial
  | ok a => exact hg a d

theorem SafeTask.attempt {α : Type} {t : DeviceAsync α} (ht : SafeTask sdk P r t) : SafeTask sdk P r t.attempt :=
  fun d => Safe.attempt (ht d)

theorem sparingFlags_noteBlock (e : BlockEvent) : SparingFlags (Device.noteBlock e) :=
  fun _ => ⟨rfl, rfl, rfl, fun _ => rfl⟩

theorem sparingFlags_noteTips (maybeLiquidTip maybeBitcoinTip : Option Nat) :
    SparingFlags (Device.noteTips maybeLiquidTip maybeBitcoinTip) := fun _ => ⟨rfl, rfl, rfl, fun _ => rfl⟩

theorem sparingFlags_noteStart (info : BlockchainInfo) : SparingFlags (Device.noteStart info) :=
  fun _ => ⟨rfl, rfl, rfl, fun _ => rfl⟩

/-- Storing tips spares the flags ... -/
theorem sparingFlags_storeBlockchainInfo (chains : List Blockchain) (info : BlockchainInfo) :
    SparingFlagsTask (storeBlockchainInfo chains info) := by
  refine ⟨fun d => ?_, fun _ => trivial⟩
  unfold Device.setBlockchainInfo
  split
  · exact ⟨rfl, rfl, rfl, fun _ => rfl⟩
  · exact ⟨rfl, rfl, rfl, fun _ => rfl⟩

theorem sparingFlags_updateBlockchainInfo (liquidTip : Nat) (bitcoinTip : Option Nat) :
    SparingFlagsTask (updateBlockchainInfo liquidTip bitcoinTip) := by
  cases bitcoinTip with
  | some bitcoinTip => exact sparingFlags_storeBlockchainInfo _ _
  | none =>
      refine Task.Within.bind ⟨fun _ => ⟨rfl, rfl, rfl, fun _ => rfl⟩, fun _ => trivial⟩ fun _ => ?_
      exact sparingFlags_storeBlockchainInfo _ _

/-- ... and so do the handlers of blocks. -/
theorem sparingFlags_onLiquidBlock (isNewLiquidBlock : Bool) (height : Nat) :
    SparingFlagsTask (onLiquidBlock sdk isNewLiquidBlock height) := by
  unfold onLiquidBlock
  split
  · refine Task.Within.bind (Task.within_modify (sparingFlags_noteBlock _)) fun _ => ?_
    refine Task.Within.bind (leaves_sparingFlags.onWorld _) fun _ => ?_
    exact Task.Within.bind (leaves_sparingFlags.onWorld _) fun _ => leaves_sparingFlags.onWorld _
  · exact Task.within_done _

theorem sparingFlags_onBitcoinBlock (isNewBitcoinBlock : Bool) (height : Nat) :
    SparingFlagsTask (onBitcoinBlock sdk isNewBitcoinBlock height) := by
  unfold onBitcoinBlock
  split
  · refine Task.Within.bind (Task.within_modify (sparingFlags_noteBlock _)) fun _ => ?_
    exact leaves_sparingFlags.onWorld _
  · exact Task.within_done _

variable (sdk P) in
/-- What leaves the flags keeps the protocol, and so does the part of a sync that does not. -/
structure KeptBySyncs : Prop where
  sparing : ∀ {r : Role} {α : Type} {t : DeviceAsync α}, SparingFlagsTask t → SafeTask sdk P r t
  syncInner : ∀ (r : Role) (swaps : List Swap) (tips : ChainTips), SafeTask sdk P r (syncInner sdk r swaps tips)

namespace KeptBySyncs

variable (hP : KeptBySyncs sdk P)

include hP

/-- A sync is safe if its inner part is: what is around it spares the flags ... -/
theorem sync (partialSync : Bool) : SafeTask sdk P r (sync sdk r partialSync) := by
  refine (hP.sparing leaves_sparingFlags.getInfo).bind fun info => ?_
  refine (hP.sparing (leaves_sparingFlags.getSyncContext _)).bind fun syncContext => ?_
  refine (hP.sparing (Task.within_done _)).bind fun tip => ?_
  exact hP.syncInner r _ _

theorem syncToTips (syncContext : SyncContext) : SafeTask sdk P .loop (syncToTips sdk syncContext) := by
  unfold Blocks.syncToTips
  split
  · exact hP.sparing (Task.within_done _)
  · refine (hP.sparing (sparingFlags_updateBlockchainInfo _ _)).attempt.bind fun _ => ?_
    refine (hP.syncInner _ _ _).attempt.bind fun result => ?_
    cases result with
    | ok _ => exact hP.sparing (Task.within_done _)
    | error err => exact hP.sparing (Task.within_modify (sparingFlags_notify _))

theorem trackNewBlocks (last : BlockchainInfo) : SafeTask sdk P .loop (trackNewBlocks sdk last) := by
  refine (hP.sparing (leaves_sparingFlags.getSyncContext _)).attempt.bind fun result => ?_
  cases result with
  | error err => exact hP.sparing (Task.within_done _)
  | ok syncContext =>
      refine (hP.sparing (Task.within_modify (sparingFlags_noteTips _ _))).bind fun _ => ?_
      refine (hP.syncToTips syncContext).bind fun _ => ?_
      refine (hP.sparing (sparingFlags_onLiquidBlock _ _)).bind fun _ => ?_
      exact (hP.sparing (sparingFlags_onBitcoinBlock _ _)).bind fun _ => hP.sparing (Task.within_done _)

theorem trackNewBlocksLoop (n : Nat) (last : BlockchainInfo) :
    SafeTask sdk P .loop (trackNewBlocksLoop sdk n last) := by
  induction n generalizing last with
  | zero => exact hP.sparing (Task.within_done _)
  | succ n ih =>
      refine (hP.sparing (Task.within_ask trivial)).bind fun _ => ?_
      exact (hP.trackNewBlocks last).bind ih

/-- ... and so is the task of the loop, over all its iterations. -/
theorem trackNewBlocksTask (iterations : Nat) : SafeTask sdk P .loop (trackNewBlocksTask sdk iterations) := by
  refine SafeTask.bind ?_ fun last => (hP.trackNewBlocks last).bind fun current => hP.trackNewBlocksLoop _ current
  refine (hP.sparing leaves_sparingFlags.getInfo).attempt.bind fun result => ?_
  cases result with
  | ok info =>
      refine (hP.sparing (Task.within_modify (sparingFlags_noteStart info))).bind fun _ => ?_
      exact hP.sparing (Task.within_done _)
  | error err =>
      refine (hP.sparing (Task.within_modify (sparingFlags_noteBlock _))).bind fun _ => ?_
      exact hP.sparing (Task.within_done _)

/-- The runs of the loop and the syncs keep it as well. -/
theorem sound (hidle : ∀ r d, P.idle r d) (hcompat : ∀ r r', r ≠ r' → ∀ d d', P.guar r d d' → P.rely r' d d')
    (hspares : ∀ d d', SparesFlags d d' → P.inv d → P.inv d' ∧ ∀ r, P.rely r d d') :
    Sound (deviceSystem sdk) .any P (· ≠ ·) where
  compat r r' hne := hcompat r r' (hne.elim id id)
  spawn roles d r t hspawn _ _ _ := by
    obtain ⟨hfree, hspawn⟩ := hspawn
    refine ⟨fun r' hr' => ⟨?_, ?_⟩, ?_⟩
    · rintro rfl
      exact hfree hr'
    · rintro rfl
      exact hfree hr'
    · cases hspawn with
      | loop iterations => exact (hP.trackNewBlocksTask iterations d).mono fun _ d _ _ => hidle _ d
      | sync n partialSync => exact (hP.sync partialSync d).mono fun _ d _ _ => hidle _ d
  abort r d _ _ := hidle r d
  env d d' henv hi _ := by
    obtain ⟨world, access, walletInfo, rfl⟩ := henv
    exact hspares d _ ⟨rfl, rfl, rfl, fun _ => rfl⟩ hi

end KeptBySyncs

end Tasks

/-! ## A role and its newest point -/

/-- A role knows its own newest point. -/
def firstSyncProtocol : Protocol Device Role where
  inv := Consistent
  rely r := Adds (· ≠ r)
  guar r := Adds (· = r)
  idle _ _ := True
  rely_refl _ d := .refl _ d
  rely_trans _ _ _ _ := Adds.trans
  idle_stable _ _ _ _ _ _ := trivial

section Sync

variable (sdk : Sdk)

/-- A part of a sync, and what holds when it returns. -/
abbrev SyncSafe {α : Type} (r : Role) (t : DeviceAsync α) (post : Except Err α → Device → Prop) (d : Device) : Prop :=
  Safe (deviceSystem sdk) .any firstSyncProtocol r t post d

variable {sdk} {r : Role}

/-- A part that spares the flags keeps whatever is known of the role's last entry. -/
theorem safe_sparingFlags {α : Type} {t : DeviceAsync α} (ht : SparingFlagsTask t) {K : Option Phase → Prop}
    {d : Device} (hd : K (lastOf r d.syncs)) : SyncSafe sdk r t (fun _ d => K (lastOf r d.syncs)) d := by
  refine safe_of_within (P := firstSyncProtocol) (J := fun d => K (lastOf r d.syncs))
    (fun d d' hrely _ h => ?_) ?_ ?_ ht hd
  · show K (lastOf r d'.syncs)
    rw [Adds.lastOf hrely]
    exact h
  · intro f hf d hi hd _
    have hguar : Adds (· = r) d (f d) := .of_spares (hf d)
    refine ⟨(hf d).consistent hi, hguar, ?_⟩
    show K (lastOf r (f d).syncs)
    rw [(hf d).syncs]
    exact hd
  · intro q _ a d hi hd _
    have hspares : SparesFlags d ((deviceSystem sdk).effect q a d) := ⟨rfl, rfl, rfl, fun _ => rfl⟩
    have hguar : Adds (· = r) d ((deviceSystem sdk).effect q a d) := .of_spares hspares
    exact ⟨hspares.consistent hi, hguar, hd⟩

/-- A point of the role is added. -/
theorem safe_point_bind {β : Type} {f : Device → Device} {phase phase' : Phase}
    (hsyncs : ∀ d, (f d).syncs = (r, phase') :: d.syncs) {g : Unit → DeviceAsync β}
    {post : Except Err β → Device → Prop} {d : Device} (hd : lastOf r d.syncs = some phase)
    (hf : ∀ d, Consistent d → lastOf r d.syncs = some phase → Consistent (f d))
    (hg : ∀ d, lastOf r d.syncs = some phase' → SyncSafe sdk r (g ()) post d) :
    SyncSafe sdk r ((Task.modify f).bind g) post d := by
  intro d₁ hrely hi _
  have hd₁ : lastOf r d₁.syncs = some phase := (Adds.lastOf hrely).trans hd
  have hguar : Adds (· = r) d₁ (f d₁) := .cons (hsyncs d₁) rfl
  refine ⟨hf d₁ hi hd₁, hguar, hg (f d₁) ?_⟩
  rw [hsyncs]
  exact lastOf_cons_self r phase' d₁.syncs

theorem mem_cons_of_ne {e e' : Role × Phase} {l : List (Role × Phase)} (h : e ∈ e' :: l) (hne : e ≠ e') : e ∈ l :=
  (List.mem_cons.mp h).resolve_left hne

/-- The steps of a first sync keep the account: the flag is read ... -/
theorem consistent_check {d : Device} (h : Consistent d) : Consistent (d.check r) := by
  unfold Device.check
  split
  · rename_i hfirst
    have hincomplete : d.isFirstSyncComplete ≠ some true := by
      intro hcomplete
      unfold Device.isFirstSync at hfirst
      rw [hcomplete] at hfirst
      cases hfirst
    refine ⟨h.proper.cons fun r' hmem => hincomplete (h.completed r' hmem), h.paused, fun r' hmem => ?_, ?_⟩
    · exact h.completed r' (mem_cons_of_ne hmem (by simp))
    · exact fun hcomplete => absurd hcomplete hincomplete
  · exact h

/-- ... notifications are paused by a role that has read it ... -/
theorem consistent_pause {d : Device} (h : Consistent d) (hlast : lastOf r d.syncs = some .checked) :
    Consistent (d.pauseNotifications r) := by
  refine ⟨h.proper.cons hlast, fun _ => ⟨r, rfl⟩, fun r' hmem => ?_, fun hcomplete => ?_⟩
  · exact h.completed r' (mem_cons_of_ne hmem (by simp))
  · rcases h.complete hcomplete with ⟨r', hmem⟩ | hnone
    · exact .inl ⟨r', List.mem_cons_of_mem _ hmem⟩
    · exact .inr fun r' hmem => hnone r' (mem_cons_of_ne hmem (by simp))

/-- ... and resumed ... -/
theorem consistent_resume {d : Device} (h : Consistent d) : Consistent (d.resumeNotifications r) := by
  refine ⟨h.proper.cons trivial, nofun, fun r' hmem => ?_, fun hcomplete => ?_⟩
  · exact h.completed r' (mem_cons_of_ne hmem (by simp))
  · rcases h.complete hcomplete with ⟨r', hmem⟩ | hnone
    · exact .inl ⟨r', List.mem_cons_of_mem _ hmem⟩
    · exact .inr fun r' hmem => hnone r' (mem_cons_of_ne hmem (by simp))

/-- ... and the sync is complete. -/
theorem consistent_complete {d : Device} (h : Consistent d) (hlast : lastOf r d.syncs = some .resumed) :
    Consistent (d.setIsFirstSyncComplete r) :=
  ⟨h.proper.cons hlast, h.paused, fun _ _ => rfl, fun _ => .inl ⟨r, List.mem_cons_self⟩⟩

/-- A role that finds no completed sync has noted that it looked. -/
theorem safe_getIsFirstSync (d : Device) :
    SyncSafe sdk r (getIsFirstSync r)
      (fun x d => x = .ok true → lastOf r d.syncs = some .checked) d := by
  intro d₁ _ hi _
  have hadds : Adds (· = r) d₁ (d₁.check r) := by
    unfold Device.check
    split
    · exact .cons rfl rfl
    · exact .refl _ _
  refine ⟨consistent_check hi, hadds, ?_⟩
  intro d₂ hrely _ hfirst
  rw [Adds.lastOf hrely]
  unfold Device.check
  rw [if_pos (Except.ok.inj hfirst)]
  exact lastOf_cons_self r .checked d₁.syncs

/-- The first sync does its steps in this order. -/
theorem safe_syncPaymentsOnce (isFirstSync : Bool) (swaps : List Swap) (tips : ChainTips) {d : Device}
    (hd : isFirstSync = true → lastOf r d.syncs = some .checked) :
    SyncSafe sdk r (syncPaymentsOnce sdk r isFirstSync swaps tips) (fun _ _ => True) d := by
  cases isFirstSync with
  | false => exact safe_sparingFlags (K := fun _ => True) (leaves_sparingFlags.onWorld _) trivial
  | true =>
      refine safe_point_bind (fun _ => rfl) (hd rfl) (fun d hi => consistent_pause hi) fun d hd => ?_
      refine Safe.bind ((safe_sparingFlags (K := (· = some .paused)) (leaves_sparingFlags.onWorld _) hd).mono
        fun x d _ hd => ?_)
      cases x with
      | error err => trivial
      | ok _ =>
          refine safe_point_bind (fun _ => rfl) hd (fun d hi _ => consistent_resume hi) fun d hd d₁ hrely hi _ => ?_
          have hd₁ : lastOf r d₁.syncs = some .resumed := (Adds.lastOf hrely).trans hd
          have hguar : Adds (· = r) d₁ (d₁.setIsFirstSyncComplete r) := .cons rfl rfl
          exact ⟨consistent_complete hi hd₁, hguar, fun _ _ _ => trivial⟩

/-- Every sync of every role keeps the account. -/
theorem firstSync_kept : KeptBySyncs sdk firstSyncProtocol where
  sparing ht _ := safe_sparingFlags (K := fun _ => True) ht trivial
  syncInner r swaps tips d := by
    refine Safe.bind ((safe_sparingFlags (K := fun _ => True) (Task.within_askOk trivial rfl) trivial).mono
      fun x d _ _ => ?_)
    cases x with
    | error err => trivial
    | ok _ =>
        refine Safe.bind ((safe_getIsFirstSync d).mono fun x d _ hd => ?_)
        cases x with
        | error err => trivial
        | ok isFirstSync =>
            have hd' : isFirstSync = true → lastOf r d.syncs = some .checked := fun h => hd (congrArg Except.ok h)
            refine Safe.bind ((safe_syncPaymentsOnce isFirstSync swaps tips hd').mono fun x d _ _ => ?_)
            cases x with
            | error err => trivial
            | ok _ =>
                exact safe_sparingFlags (K := fun _ => True) (Task.within_modify (sparingFlags_notify _)) trivial

/-! ## Runs -/

theorem firstSync_sound : Sound (deviceSystem sdk) .any firstSyncProtocol (· ≠ ·) := by
  refine firstSync_kept.sound (fun _ _ => trivial) (fun r r' hne d d' hguar => ?_) fun d d' hspares hi => ?_
  · obtain ⟨l, hl, hp⟩ := hguar
    exact ⟨l, hl, fun e he heq => hne ((hp e he).symm.trans heq)⟩
  · exact ⟨hspares.consistent hi, fun r => Adds.of_spares (p := (· ≠ r)) hspares⟩

/-- One point came before another, in a history newest first. -/
def Before (e e' : Role × Phase) (l : List (Role × Phase)) : Prop :=
  ∃ newer older, l = newer ++ e' :: older ∧ e ∈ older

/-- The first syncs of two roles overlap: `r` checked before `r'` completed, and paused after `r'` resumed; since then
nobody has paused or resumed. -/
def Overlap (r r' : Role) (l : List (Role × Phase)) : Prop :=
  r ≠ r' ∧ Before (r, .checked) (r', .completed) l ∧
    ∃ newer older, l = newer ++ (r, .paused) :: older ∧ (r', .resumed) ∈ older ∧
      ∀ e ∈ newer, e.2 ≠ .paused ∧ e.2 ≠ .resumed

theorem mem_of_lastOf {r : Role} {phase : Phase} {l : List (Role × Phase)} (h : lastOf r l = some phase) :
    (r, phase) ∈ l := by
  obtain ⟨newer, older, rfl, -⟩ := lastOf_eq_some h
  exact List.mem_append_right _ List.mem_cons_self

/-- Notifications that are paused after a completed sync were paused by an overlapping one. -/
theorem Consistent.overlap {d : Device} (h : Consistent d) (hpaused : d.isPaused = true)
    (hcomplete : d.isFirstSyncComplete = some true) : ∃ r r', Overlap r r' d.syncs := by
  obtain ⟨r, hr⟩ := h.paused hpaused
  obtain ⟨newer, older, hsyncs, hnewer⟩ := pausedBy_eq_some hr
  have hlast : lastOf r older = some .checked := h.proper newer (r, .paused) older hsyncs
  have hchecked := mem_of_lastOf hlast
  obtain ⟨r', hcompleted⟩ : ∃ r', (r', .completed) ∈ d.syncs := by
    refine (h.complete hcomplete).resolve_right fun hnone => hnone r ?_
    rw [hsyncs]
    exact List.mem_append_right _ (List.mem_cons_of_mem _ hchecked)
  have hcompletedAfter : ∀ {newer older : List (Role × Phase)}, d.syncs = newer ++ (r', .completed) :: older →
      lastOf r' older = some .resumed := fun heq => h.proper _ (r', .completed) _ heq
  have hresumed : (r', .resumed) ∈ older := by
    obtain ⟨newer', older', hsplit⟩ := List.append_of_mem hcompleted
    have hmem : (r', Phase.resumed) ∈ d.syncs := by
      rw [hsplit]
      exact List.mem_append_right _ (List.mem_cons_of_mem _ (mem_of_lastOf (hcompletedAfter hsplit)))
    rw [hsyncs] at hmem
    rcases List.mem_append.mp hmem with hmem | hmem
    · exact absurd rfl (hnewer _ hmem).2
    · exact mem_cons_of_ne hmem (by simp)
  rw [hsyncs] at hcompleted
  rcases List.mem_append.mp hcompleted with hcompleted | hcompleted
  · -- Completed after the pause: what comes right before it is a resuming, so the pause is not of its role.
    obtain ⟨first, between, rfl⟩ := List.append_of_mem hcompleted
    have hsplit : d.syncs = first ++ (r', .completed) :: (between ++ (r, .paused) :: older) := by
      rw [hsyncs, List.append_assoc]
      rfl
    refine ⟨r, r', ?_, ⟨first, _, hsplit, ?_⟩, _, older, hsyncs, hresumed, hnewer⟩
    · rintro rfl
      obtain ⟨e, hfind, he⟩ := Option.map_eq_some_iff.mp (hcompletedAfter hsplit)
      rw [List.find?_append, Option.or_eq_some_iff] at hfind
      rcases hfind with hfind | ⟨-, hfind⟩
      · have hmem := List.mem_of_find?_eq_some hfind
        exact (hnewer e (List.mem_append_right _ (List.mem_cons_of_mem _ hmem))).2 he
      · rw [List.find?_cons_of_pos (by simp)] at hfind
        cases hfind
        cases he
    · exact List.mem_append_right _ (List.mem_cons_of_mem _ hchecked)
  · -- Completed before the pause: the check of the pause is older still, as it found nothing completed.
    replace hcompleted : (r', .completed) ∈ older := mem_cons_of_ne hcompleted (by simp)
    obtain ⟨after, before, rfl, hafter⟩ := lastOf_eq_some hlast
    have hnone : (r', .completed) ∉ before := by
      refine h.proper (newer ++ (r, .paused) :: after) (r, .checked) before ?_ r'
      rw [hsyncs, List.append_assoc]
      rfl
    have hmem : (r', Phase.completed) ∈ after := by
      rcases List.mem_append.mp hcompleted with hmem | hmem
      · exact hmem
      · exact absurd (mem_cons_of_ne hmem (by simp)) hnone
    have hne : r' ≠ r := hafter (r', .completed) hmem
    obtain ⟨first, between, rfl⟩ := List.append_of_mem hmem
    refine ⟨r, r', hne.symm, ⟨newer ++ (r, .paused) :: first, between ++ (r, .checked) :: before, ?_, ?_⟩, newer, _,
      hsyncs, hresumed, hnewer⟩
    · rw [hsyncs]
      simp
    · exact List.mem_append_right _ List.mem_cons_self

/-- Paused with a first sync complete, and notified as before. -/
structure Silenced (notified : List Notification) (d : Device) : Prop where
  isPaused : d.isPaused = true
  isFirstSyncComplete : d.isFirstSyncComplete = some true
  notified : d.notified = notified

/-- A device that is silenced stays so where the flags are spared. -/
theorem SparesFlags.silenced {notified : List Notification} {d d' : Device} (h : SparesFlags d d')
    (hd : Silenced notified d) : Silenced notified d' :=
  ⟨h.isPaused.trans hd.isPaused, h.isFirstSyncComplete.trans hd.isFirstSyncComplete,
    (h.notified hd.isPaused).trans hd.notified⟩

/-- All that is known is the silence. -/
def silentProtocol (notified : List Notification) : Protocol Device Role :=
  .uniform (Silenced notified) (fun _ _ => True) (fun _ => trivial) fun _ _ => trivial

/-- A part that spares the flags leaves a silenced device silent. -/
theorem safe_silent {notified : List Notification} {α : Type} {t : DeviceAsync α} (ht : SparingFlagsTask t)
    (d : Device) : Safe (deviceSystem sdk) .any (silentProtocol notified) r t (fun _ _ => True) d := by
  refine safe_of_within (P := silentProtocol notified) (J := fun _ => True) (fun _ _ _ _ h => h) ?_ ?_ ht trivial
  · exact fun f hf d hi _ _ => ⟨(hf d).silenced hi, trivial, trivial⟩
  · intro q _ a d hi _ _
    have hspares : SparesFlags d ((deviceSystem sdk).effect q a d) := ⟨rfl, rfl, rfl, fun _ => rfl⟩
    exact ⟨hspares.silenced hi, trivial, trivial⟩

/-- No sync is a first one. -/
theorem silent_kept (notified : List Notification) : KeptBySyncs sdk (silentProtocol notified) where
  sparing ht := safe_silent ht
  syncInner r swaps tips d := by
    refine Safe.bind ((safe_silent (Task.within_askOk trivial rfl) d).mono fun x d _ _ => ?_)
    cases x with
    | error err => trivial
    | ok _ =>
        intro d₁ _ hi _
        have hfirst : d₁.isFirstSync = false := by
          unfold Device.isFirstSync
          rw [hi.isFirstSyncComplete]
          rfl
        have hcheck : d₁.check r = d₁ := by
          unfold Device.check
          rw [hfirst]
          rfl
        refine ⟨?_, trivial, ?_⟩
        · rw [hcheck]
          exact hi
        show Safe (deviceSystem sdk) .any (silentProtocol notified) r
          ((syncPaymentsOnce sdk r d₁.isFirstSync swaps tips).bind fun _ => Task.modify (Device.notify .synced)) _ _
        rw [hfirst]
        refine Safe.bind ((safe_silent (leaves_sparingFlags.onWorld _) _).mono fun x d _ _ => ?_)
        cases x with
        | error err => trivial
        | ok _ => exact safe_silent (Task.within_modify (sparingFlags_notify _)) d

end Sync

/-! ## Two first syncs -/

/-- Services that know of nothing. -/
def emptyAnswers : Nat → (q : Call) → q.Answer
  | _, .liquidTip | _, .bitcoinTip => .ok 5
  | _, .fullScan => .ok ()
  | _, .transactionsByTxId | _, .liquidScriptsHistory _ | _, .bitcoinScriptsHistory _ => .ok []
  | _, .bitcoinScriptsBalance _ => .ok []
  | _, q => q.offline

/-- A sync that has just checked. -/
def checkedSync : DeviceAsync Unit × (Nat × Device) :=
  (sync blocksSdk (.sync 1) false).advance (Device.effect blocksSdk) emptyAnswers 5 (0, startedDevice)

/-- Another one completes meanwhile. -/
def completedSync : Except Err Unit × (Nat × Device) :=
  (sync blocksSdk (.sync 2) false).run (Device.effect blocksSdk) emptyAnswers (0, checkedSync.2.2)

/-- The first one goes on, and fails. -/
def failedSync : Except Err Unit × (Nat × Device) :=
  checkedSync.1.run (Device.effect blocksSdk) (fun _ => Call.offline) (0, completedSync.2.2)

def silencedDevice : Device := failedSync.2.2

/-- Two overlapping first syncs leave the device silenced ... -/
theorem runs_silencedDevice : Runs (deviceSystem blocksSdk) .any ⟨startedDevice, []⟩ ⟨silencedDevice, []⟩ := by
  have hS : ∀ q a (s : Device), (deviceSystem blocksSdk).answers q a s := fun _ _ _ => trivial
  have hfirst : Runs (deviceSystem blocksSdk) .any ⟨startedDevice, []⟩
      ⟨checkedSync.2.2, [(.sync 1, checkedSync.1)]⟩ :=
    .head ⟨_, .spawn ⟨List.not_mem_nil, .sync 1 false⟩, trivial⟩
      (runs_advance_among (S := deviceSystem blocksSdk) hS emptyAnswers 5 [] [])
  have hsecond : Runs (deviceSystem blocksSdk) .any ⟨checkedSync.2.2, [(.sync 1, checkedSync.1)]⟩
      ⟨completedSync.2.2, [(.sync 1, checkedSync.1)]⟩ := by
    have hsteps := Task.steps_of_forall (Device.effect blocksSdk) emptyAnswers
      (p := Cond.any (.own (Role.sync 2))) (fun _ _ => trivial) (sync blocksSdk (.sync 2) false) (0, checkedSync.2.2)
    refine .head ⟨_, .spawn (r := .sync 2) ⟨by simp, .sync 2 false⟩, trivial⟩ ?_
    refine .tail (runs_task (S := deviceSystem blocksSdk) (fun _ q s => hS q _ s) hsteps [_] []) ?_
    exact ⟨_, .finish [_] [], trivial⟩
  have hthird : Runs (deviceSystem blocksSdk) .any ⟨completedSync.2.2, [(.sync 1, checkedSync.1)]⟩
      ⟨silencedDevice, []⟩ := by
    have hsteps := Task.steps_of_forall (Device.effect blocksSdk) (fun _ => Call.offline)
      (p := Cond.any (.own (Role.sync 1))) (fun _ _ => trivial) checkedSync.1 (0, completedSync.2.2)
    refine .tail (runs_task (S := deviceSystem blocksSdk) (fun _ q s => hS q _ s) hsteps [] []) ?_
    exact ⟨_, .finish [] [], trivial⟩
  exact (hfirst.trans hsecond).trans hthird

theorem silencedDevice_paused : silencedDevice.isPaused = true ∧ silencedDevice.isFirstSyncComplete = some true := by
  decide +kernel

/-- A later sync of it succeeds, and nobody is told. -/
def laterSync : Except Err Unit × (Nat × Device) :=
  (sync blocksSdk (.sync 3) false).run (Device.effect blocksSdk) emptyAnswers (0, silencedDevice)

theorem runs_laterSync : Runs (deviceSystem blocksSdk) .any ⟨silencedDevice, []⟩ ⟨laterSync.2.2, []⟩ :=
  runs_spawn_any (S := deviceSystem blocksSdk) (fun _ _ _ => trivial) emptyAnswers ⟨List.not_mem_nil, .sync 3 false⟩

end BreezLiquid.Blocks
