/-
# BreezLiquid.SideSwap.Responses — requests and responses over the SideSwap socket.

A request gets the next id and goes through a channel to the event loop, which writes it to the socket. The event loop
stores each response under its id and then announces the id on a second channel. A `recv` looks into the store first.
If its response is not there, it locks the receiver of the announcements and throws away all ids but its own.

So a response goes to the request it answers, whatever the server sends. But a `recv` that waits while another one has
the receiver can lose the announcement of its response. It is then stranded until its timeout.

Any number of requests may be under way, each with its own `recv`. The keep-alive pings are requests whose response
nobody receives.
-/
import Mathlib.Logic.Relation
import Mathlib.Logic.Function.Basic
import Mathlib.Data.List.Nodup

namespace BreezLiquid.SideSwap

inductive RequestId where
  | string (id : String)
  | int (id : Int)
  deriving DecidableEq, Repr

/-- A message of the server. -/
inductive WrappedResponse (R : Type) where
  | notification
  | response (id : RequestId) (response : R)
  | error (id : Option RequestId)
  deriving DecidableEq, Repr

/-- What a `recv` returns. -/
inductive Outcome (R : Type) where
  | response (res : R)
  | expectedResponse
  | timeout
  deriving DecidableEq, Repr

/-- How far a request is. -/
inductive Phase (R : Type) where
  /-- The id is taken. -/
  | numbered
  /-- The request is in the channel, or further. -/
  | sent
  /-- The response was not there. -/
  | waiting
  /-- The receiver is locked. -/
  | receiving
  /-- The id was announced. -/
  | announced
  | returned (outcome : Outcome R)
  deriving DecidableEq, Repr

/-- The two handlers, and the requests. The last three fields are history. The ids are of type `i64`; they count up from
zero, by one for each request. -/
structure Handlers (R : Type) where
  latestRequestId : Int := 0
  requests : List Int := []
  announcements : List Int := []
  received : Int → Option R := fun _ => none
  /-- The response was stored by the event loop and is not yet announced. -/
  announcing : Option Int := none
  /-- The request whose `recv` has locked the receiver. -/
  locked : Option Int := none
  phase : Int → Option (Phase R) := fun _ => none
  /-- The requests written to the socket, the latest first. -/
  written : List Int := []
  /-- The responses handled, the latest first. -/
  handled : List (Int × R) := []

inductive Action (R : Type) where
  | nextRequestId
  | send (id : Int)
  | sendWs
  | handleMessage (msg : WrappedResponse R)
  | announce
  | look (id : Int)
  | lock (id : Int)
  | pop (id : Int)
  | take (id : Int)
  | timeout (id : Int)
  deriving DecidableEq, Repr

/-- The `recv` has looked once and has not returned. -/
def Phase.InRecv {R : Type} : Phase R → Prop
  | waiting | receiving | announced => True
  | numbered | sent | returned _ => False

section Machine

variable {R : Type}

namespace Handlers

def setPhase (s : Handlers R) (id : Int) (phase : Phase R) : Handlers R :=
  { s with phase := Function.update s.phase id (some phase) }

/-- The receiver is unlocked when its guard is dropped. -/
def unlock (s : Handlers R) (id : Int) : Handlers R :=
  { s with locked := if s.locked = some id then none else s.locked }

def nextRequestId (s : Handlers R) : Handlers R :=
  { s with latestRequestId := s.latestRequestId + 1 }.setPhase (s.latestRequestId + 1) .numbered

def send (s : Handlers R) (id : Int) : Handlers R := { s with requests := s.requests ++ [id] }.setPhase id .sent

def sendWs (s : Handlers R) : Handlers R :=
  match s.requests with
  | [] => s
  | id :: requests => { s with requests, written := id :: s.written }

/-- The first half of `handle_response`. -/
def handleMessage (s : Handlers R) : WrappedResponse R → Handlers R
  | .response (.int id) res =>
      { s with
        received := Function.update s.received id (some res)
        announcing := some id
        handled := (id, res) :: s.handled }
  | .response (.string _) _ | .notification | .error _ => s

/-- The second half of `handle_response`. -/
def announce (s : Handlers R) : Handlers R :=
  { s with announcements := s.announcements ++ s.announcing.toList, announcing := none }

def remove (s : Handlers R) (id : Int) : Handlers R := { s with received := Function.update s.received id none }

def look (s : Handlers R) (id : Int) : Handlers R :=
  match s.received id with
  | some res => (s.remove id).setPhase id (.returned (.response res))
  | none => s.setPhase id .waiting

def lock (s : Handlers R) (id : Int) : Handlers R := { s with locked := some id }.setPhase id .receiving

def pop (s : Handlers R) (id : Int) : Handlers R :=
  match s.announcements with
  | [] => s
  | newId :: announcements =>
      if newId ≠ id then { s with announcements }
      else { s with announcements }.setPhase id .announced

def take (s : Handlers R) (id : Int) : Handlers R :=
  match s.received id with
  | some res => ((s.remove id).unlock id).setPhase id (.returned (.response res))
  | none => (s.unlock id).setPhase id (.returned .expectedResponse)

def timeout (s : Handlers R) (id : Int) : Handlers R := (s.unlock id).setPhase id (.returned .timeout)

/-- When an action can be taken. A closed channel is left out, as the handlers hold both ends of theirs. -/
def Enabled (s : Handlers R) : Action R → Prop
  | .nextRequestId => True
  | .send id => s.phase id = some .numbered
  | .sendWs => s.requests ≠ []
  | .handleMessage _ => s.announcing = none
  | .announce => s.announcing ≠ none
  | .look id => s.phase id = some .sent
  | .lock id => s.phase id = some .waiting ∧ s.locked = none
  | .pop id => s.phase id = some .receiving ∧ s.announcements ≠ []
  | .take id => s.phase id = some .announced
  | .timeout id => ∃ phase, s.phase id = some phase ∧ phase.InRecv

def next (s : Handlers R) : Action R → Handlers R
  | .nextRequestId => s.nextRequestId
  | .send id => s.send id
  | .sendWs => s.sendWs
  | .handleMessage msg => s.handleMessage msg
  | .announce => s.announce
  | .look id => s.look id
  | .lock id => s.lock id
  | .pop id => s.pop id
  | .take id => s.take id
  | .timeout id => s.timeout id

end Handlers

/-- Runs whose actions all meet a condition. -/
def Reaches (C : Handlers R → Action R → Prop) : Handlers R → Handlers R → Prop :=
  Relation.ReflTransGen fun s s' => ∃ a, s.Enabled a ∧ C s a ∧ s' = s.next a

/-- A list of actions that can be taken one after the other. -/
def Runnable (C : Handlers R → Action R → Prop) : Handlers R → List (Action R) → Prop
  | _, [] => True
  | s, a :: l => s.Enabled a ∧ C s a ∧ Runnable C (s.next a) l

theorem Runnable.reaches {C : Handlers R → Action R → Prop} {s : Handlers R} {l : List (Action R)}
    (h : Runnable C s l) : Reaches C s (l.foldl Handlers.next s) := by
  induction l generalizing s with
  | nil => exact .refl
  | cons a l ih => exact .head ⟨a, h.1, h.2.1, rfl⟩ (ih h.2.2)

/-! ## Numbers -/

variable {s s' : Handlers R} {id : Int}

namespace Handlers

@[simp] theorem phase_setPhase_self (s : Handlers R) (id : Int) (phase : Phase R) :
    (s.setPhase id phase).phase id = some phase := Function.update_self ..

theorem phase_setPhase_of_ne (s : Handlers R) {id id' : Int} (h : id' ≠ id) (phase : Phase R) :
    (s.setPhase id phase).phase id' = s.phase id' := Function.update_of_ne h ..

@[simp] theorem received_remove_self (s : Handlers R) (id : Int) : (s.remove id).received id = none :=
  Function.update_self ..

end Handlers

/-- The request that an action is about. -/
def Action.subject (s : Handlers R) : Action R → Option Int
  | .nextRequestId => some (s.latestRequestId + 1)
  | .send id | .look id | .lock id | .pop id | .take id | .timeout id => some id
  | .handleMessage (.response (.int id) _) => some id
  | .handleMessage _ | .sendWs | .announce => none

/-- What an action about another request can change for a request: its announcement may be thrown away. -/
structure Apart (s s' : Handlers R) (id : Int) : Prop where
  phase : s'.phase id = s.phase id
  received : s'.received id = s.received id
  announced : id ∈ s'.announcements ∨ s'.announcing = some id → id ∈ s.announcements ∨ s.announcing = some id
  lookup : s'.handled.lookup id = s.handled.lookup id
  handled : s.handled ⊆ s'.handled
  locked : s'.locked = some id ↔ s.locked = some id

theorem locked_unlock_of_ne {id' : Int} (h : id ≠ id') : (s.unlock id').locked = some id ↔ s.locked = some id := by
  show (if s.locked = some id' then none else s.locked) = some id ↔ _
  split
  · rename_i hlocked
    rw [hlocked]
    exact iff_of_false (by simp) fun heq => h (Option.some.inj heq).symm
  · exact Iff.rfl

theorem locked_unlock_self (s : Handlers R) (id : Int) : (s.unlock id).locked ≠ some id := by
  show (if s.locked = some id then none else s.locked) ≠ some id
  split
  · simp
  · assumption

theorem apart_next {a : Action R} (ha : s.Enabled a) (h : a.subject s ≠ some id) : Apart s (s.next a) id := by
  have hrefl : ∀ l : List (Int × R), l ⊆ l := fun l _ hx => hx
  cases a with
  | nextRequestId =>
      have hne : id ≠ s.latestRequestId + 1 := fun heq => h (congrArg some heq.symm)
      exact ⟨Handlers.phase_setPhase_of_ne _ hne _, rfl, fun hann => hann, rfl, hrefl _, Iff.rfl⟩
  | send id' =>
      have hne : id ≠ id' := fun heq => h (congrArg some heq.symm)
      exact ⟨Handlers.phase_setPhase_of_ne _ hne _, rfl, fun hann => hann, rfl, hrefl _, Iff.rfl⟩
  | sendWs =>
      show Apart s s.sendWs id
      unfold Handlers.sendWs
      split
      · exact ⟨rfl, rfl, fun hann => hann, rfl, hrefl _, Iff.rfl⟩
      · exact ⟨rfl, rfl, fun hann => hann, rfl, hrefl _, Iff.rfl⟩
  | handleMessage msg =>
      -- only a response to a request touches one
      rcases msg with _ | ⟨_ | id', res⟩ | _
      · exact ⟨rfl, rfl, fun hann => hann, rfl, hrefl _, Iff.rfl⟩
      · exact ⟨rfl, rfl, fun hann => hann, rfl, hrefl _, Iff.rfl⟩
      · have hne : id ≠ id' := fun heq => h (congrArg some heq.symm)
        refine ⟨rfl, Function.update_of_ne hne .., fun hann => ?_, ?_, List.subset_cons_self _ _, Iff.rfl⟩
        · rcases hann with hann | hann
          · exact .inl hann
          · exact absurd (Option.some.inj hann).symm hne
        · show List.lookup id ((id', res) :: s.handled) = _
          rw [List.lookup_cons, beq_false_of_ne hne]
      · exact ⟨rfl, rfl, fun hann => hann, rfl, hrefl _, Iff.rfl⟩
  | announce =>
      refine ⟨rfl, rfl, fun hann => ?_, rfl, hrefl _, Iff.rfl⟩
      rcases hann with hann | hann
      · rcases List.mem_append.mp hann with hann | hann
        · exact .inl hann
        · exact .inr (Option.mem_toList.mp hann)
      · cases hann
  | look id' =>
      have hne : id ≠ id' := fun heq => h (congrArg some heq.symm)
      show Apart s (s.look id') id
      unfold Handlers.look
      split
      · exact ⟨Handlers.phase_setPhase_of_ne _ hne _, Function.update_of_ne hne .., fun hann => hann, rfl, hrefl _,
          Iff.rfl⟩
      · exact ⟨Handlers.phase_setPhase_of_ne _ hne _, rfl, fun hann => hann, rfl, hrefl _, Iff.rfl⟩
  | lock id' =>
      have hne : id ≠ id' := fun heq => h (congrArg some heq.symm)
      refine ⟨Handlers.phase_setPhase_of_ne _ hne _, rfl, fun hann => hann, rfl, hrefl _, iff_of_false ?_ ?_⟩
      · exact fun heq => hne (Option.some.inj heq).symm
      · rw [ha.2]
        exact (Option.some_ne_none id).symm
  | pop id' =>
      have hne : id ≠ id' := fun heq => h (congrArg some heq.symm)
      show Apart s (s.pop id') id
      unfold Handlers.pop
      split
      · exact ⟨rfl, rfl, fun hann => hann, rfl, hrefl _, Iff.rfl⟩
      · rename_i newId announcements hpop
        -- what is left in the queue was in it
        have hmem : id ∈ announcements ∨ s.announcing = some id → id ∈ s.announcements ∨ s.announcing = some id := by
          rw [hpop]
          exact Or.imp_left (List.mem_cons_of_mem _)
        split
        · exact ⟨rfl, rfl, hmem, rfl, hrefl _, Iff.rfl⟩
        · exact ⟨Handlers.phase_setPhase_of_ne _ hne _, rfl, hmem, rfl, hrefl _, Iff.rfl⟩
  | take id' =>
      have hne : id ≠ id' := fun heq => h (congrArg some heq.symm)
      show Apart s (s.take id') id
      unfold Handlers.take
      split
      · exact ⟨Handlers.phase_setPhase_of_ne _ hne _, Function.update_of_ne hne .., fun hann => hann, rfl, hrefl _,
          locked_unlock_of_ne hne⟩
      · exact ⟨Handlers.phase_setPhase_of_ne _ hne _, rfl, fun hann => hann, rfl, hrefl _, locked_unlock_of_ne hne⟩
  | timeout id' =>
      have hne : id ≠ id' := fun heq => h (congrArg some heq.symm)
      exact ⟨Handlers.phase_setPhase_of_ne _ hne _, rfl, fun hann => hann, rfl, hrefl _, locked_unlock_of_ne hne⟩

/-- The response of a request and its announcement are as they were. -/
structure Rests (s s' : Handlers R) (id : Int) : Prop where
  received : s'.received id = s.received id
  announced : id ∈ s'.announcements ∨ s'.announcing = some id ↔ id ∈ s.announcements ∨ s.announcing = some id
  handled : s'.handled = s.handled

theorem Rests.of_eq (hreceived : s'.received = s.received) (hannouncements : s'.announcements = s.announcements)
    (hannouncing : s'.announcing = s.announcing) (hhandled : s'.handled = s.handled) : Rests s s' id := by
  refine ⟨congrFun hreceived id, ?_, hhandled⟩
  rw [hannouncements, hannouncing]

/-- What an action can do for the request that it is about. -/
inductive Turn (s s' : Handlers R) (id : Int) (a : Action R) : Prop where
  | numbered (h : id = s.latestRequestId + 1) (h' : s'.phase id = some .numbered) (hrests : Rests s s' id)
      (hlocked : s'.locked = s.locked)
  | sent (h : s.phase id = some .numbered) (h' : s'.phase id = some .sent) (hrests : Rests s s' id)
      (hlocked : s'.locked = s.locked)
  | responded (res : R) (ha : a = .handleMessage (.response (.int id) res))
      (h' : s' = s.handleMessage (.response (.int id) res))
  | found (res : R) (h : s.phase id = some .sent) (hres : s.received id = some res)
      (h' : s'.phase id = some (.returned (.response res))) (hres' : s'.received id = none)
      (hhandled : s'.handled = s.handled) (hlocked : s'.locked = s.locked)
  | waits (ha : a = .look id) (h : s.phase id = some .sent) (hres : s.received id = none)
      (h' : s'.phase id = some .waiting) (hrests : Rests s s' id) (hlocked : s'.locked = s.locked)
  | locks (h : s.phase id = some .waiting) (h' : s'.phase id = some .receiving) (hrests : Rests s s' id)
      (hlocked : s'.locked = some id)
  | passes (h : s.phase id = some .receiving) (h' : s'.phase id = some .receiving) (hrests : Rests s s' id)
      (hlocked : s'.locked = s.locked)
  | pops (h : s.phase id = some .receiving) (hann : id ∈ s.announcements) (h' : s'.phase id = some .announced)
      (hres : s'.received id = s.received id) (hhandled : s'.handled = s.handled) (hlocked : s'.locked = s.locked)
  | takes (res : R) (h : s.phase id = some .announced) (hres : s.received id = some res)
      (h' : s'.phase id = some (.returned (.response res))) (hres' : s'.received id = none)
      (hhandled : s'.handled = s.handled) (hlocked : s'.locked ≠ some id)
  | misses (h : s.phase id = some .announced) (hres : s.received id = none)
      (h' : s'.phase id = some (.returned .expectedResponse))
  | timesOut (phase : Phase R) (h : s.phase id = some phase) (hrecv : phase.InRecv)
      (h' : s'.phase id = some (.returned .timeout)) (hrests : Rests s s' id) (hlocked : s'.locked ≠ some id)

theorem turn_look (h : s.phase id = some .sent) : Turn s (s.look id) id (.look id) := by
  unfold Handlers.look
  cases hres : s.received id with
  | some res =>
      exact .found res h hres (Handlers.phase_setPhase_self _ _ _) (s.received_remove_self id) rfl rfl
  | none => exact .waits rfl h hres (Handlers.phase_setPhase_self _ _ _) (.of_eq rfl rfl rfl rfl) rfl

theorem turn_pop (h : s.phase id = some .receiving) (hann : s.announcements ≠ []) :
    Turn s (s.pop id) id (.pop id) := by
  unfold Handlers.pop
  split
  · rename_i hempty
    exact absurd hempty hann
  · rename_i newId announcements hpop
    split
    · rename_i hid
      refine .passes h h ⟨rfl, or_congr_left ?_, rfl⟩ rfl
      show id ∈ announcements ↔ _
      rw [hpop, List.mem_cons]
      exact (or_iff_right (Ne.symm hid)).symm
    · rename_i hid
      refine .pops h ?_ (Handlers.phase_setPhase_self _ _ _) rfl rfl rfl
      rw [hpop, not_not.mp hid]
      exact List.mem_cons_self

theorem turn_take (h : s.phase id = some .announced) : Turn s (s.take id) id (.take id) := by
  unfold Handlers.take
  cases hres : s.received id with
  | some res =>
      exact .takes res h hres (Handlers.phase_setPhase_self _ _ _) (s.received_remove_self id) rfl
        (locked_unlock_self _ id)
  | none => exact .misses h hres (Handlers.phase_setPhase_self _ _ _)

theorem turn_next {a : Action R} (ha : s.Enabled a) (h : a.subject s = some id) : Turn s (s.next a) id a := by
  cases a with
  | nextRequestId =>
      obtain rfl := Option.some.inj h
      exact .numbered rfl (Handlers.phase_setPhase_self _ _ _) (.of_eq rfl rfl rfl rfl) rfl
  | send id' =>
      obtain rfl := Option.some.inj h
      exact .sent ha (Handlers.phase_setPhase_self _ _ _) (.of_eq rfl rfl rfl rfl) rfl
  | sendWs => cases h
  | handleMessage msg =>
      rcases msg with _ | ⟨_ | id', res⟩ | _
      · cases h
      · cases h
      · obtain rfl := Option.some.inj h
        exact .responded res rfl rfl
      · cases h
  | announce => cases h
  | look id' =>
      obtain rfl := Option.some.inj h
      exact turn_look ha
  | lock id' =>
      obtain rfl := Option.some.inj h
      exact .locks ha.1 (Handlers.phase_setPhase_self _ _ _) (.of_eq rfl rfl rfl rfl) rfl
  | pop id' =>
      obtain rfl := Option.some.inj h
      exact turn_pop ha.1 ha.2
  | take id' =>
      obtain rfl := Option.some.inj h
      exact turn_take ha
  | timeout id' =>
      obtain rfl := Option.some.inj h
      obtain ⟨phase, hphase, hrecv⟩ := ha
      exact .timesOut phase hphase hrecv (Handlers.phase_setPhase_self _ _ _) (.of_eq rfl rfl rfl rfl)
        (locked_unlock_self s id')

/-- Ids are given out in order, and each request is sent once. -/
structure Numbered (s : Handlers R) : Prop where
  fresh : ∀ id phase, s.phase id = some phase → id ≤ s.latestRequestId
  sent : ∀ id ∈ s.written ++ s.requests, ∃ phase, s.phase id = some phase ∧ phase ≠ .numbered
  once : (s.written ++ s.requests).Nodup

/-- No request is given out or sent, and one that was sent stays so. -/
structure Advances (s s' : Handlers R) : Prop where
  latest : s'.latestRequestId = s.latestRequestId
  requests : s'.written ++ s'.requests = s.written ++ s.requests
  phase : ∀ id, s'.phase id = s.phase id ∨
    ∃ phase phase', s.phase id = some phase ∧ s'.phase id = some phase' ∧ phase' ≠ .numbered

theorem Numbered.advances (h : Numbered s) (hadv : Advances s s') : Numbered s' := by
  refine ⟨fun id phase hphase => ?_, fun id hid => ?_, hadv.requests ▸ h.once⟩
  · rw [hadv.latest]
    rcases hadv.phase id with heq | ⟨phase₀, _, hphase₀, -⟩
    · exact h.fresh id phase (heq ▸ hphase)
    · exact h.fresh id phase₀ hphase₀
  · obtain ⟨phase, hphase, hne⟩ := h.sent id (hadv.requests ▸ hid)
    rcases hadv.phase id with heq | ⟨_, phase', _, hphase', hne'⟩
    · exact ⟨phase, heq.trans hphase, hne⟩
    · exact ⟨phase', hphase', hne'⟩

theorem Advances.of_phase (hlatest : s'.latestRequestId = s.latestRequestId)
    (hrequests : s'.written ++ s'.requests = s.written ++ s.requests) {phase : Phase R} {id : Int}
    (hphase : s.phase id = some phase) (phase' : Phase R) (hne : phase' ≠ .numbered)
    (h : s'.phase = Function.update s.phase id (some phase')) : Advances s s' := by
  refine ⟨hlatest, hrequests, fun id' => ?_⟩
  rw [h]
  by_cases heq : id' = id
  · subst heq
    exact .inr ⟨phase, phase', hphase, Function.update_self .., hne⟩
  · exact .inl (Function.update_of_ne heq ..)

theorem Advances.of_eq (hlatest : s'.latestRequestId = s.latestRequestId)
    (hrequests : s'.written ++ s'.requests = s.written ++ s.requests) (h : s'.phase = s.phase) : Advances s s' :=
  ⟨hlatest, hrequests, fun id => .inl (congrFun h id)⟩

theorem Numbered.unused (h : Numbered s) (phase : Phase R) : s.phase (s.latestRequestId + 1) ≠ some phase :=
  fun hphase => by
    have := h.fresh _ _ hphase
    omega

theorem Numbered.nextRequestId (h : Numbered s) : Numbered s.nextRequestId := by
  refine ⟨fun id phase hphase => ?_, fun id hid => ?_, h.once⟩
  · show id ≤ s.latestRequestId + 1
    by_cases heq : id = s.latestRequestId + 1
    · omega
    · have := h.fresh id phase ((Handlers.phase_setPhase_of_ne _ heq _).symm.trans hphase)
      omega
  · obtain ⟨phase, hphase, hne⟩ := h.sent id hid
    refine ⟨phase, (Handlers.phase_setPhase_of_ne _ ?_ _).trans hphase, hne⟩
    rintro rfl
    exact h.unused phase hphase

theorem Numbered.send (h : Numbered s) (hid : s.phase id = some .numbered) : Numbered (s.send id) := by
  have hunsent : id ∉ s.written ++ s.requests := fun hmem => by
    obtain ⟨phase, hphase, hne⟩ := h.sent id hmem
    rw [hid] at hphase
    exact hne (Option.some.inj hphase).symm
  have happend : (s.send id).written ++ (s.send id).requests = (s.written ++ s.requests) ++ [id] :=
    (List.append_assoc ..).symm
  refine ⟨fun id' phase hphase => ?_, fun id' hid' => ?_, ?_⟩
  · show id' ≤ s.latestRequestId
    by_cases heq : id' = id
    · exact heq ▸ h.fresh id _ hid
    · exact h.fresh id' phase ((Handlers.phase_setPhase_of_ne _ heq _).symm.trans hphase)
  · by_cases heq : id' = id
    · exact ⟨.sent, heq ▸ Handlers.phase_setPhase_self _ _ _, by simp⟩
    · rw [happend] at hid'
      rcases List.mem_append.mp hid' with hid' | hid'
      · obtain ⟨phase, hphase, hne⟩ := h.sent id' hid'
        exact ⟨phase, (Handlers.phase_setPhase_of_ne _ heq _).trans hphase, hne⟩
      · exact absurd (List.mem_singleton.mp hid') heq
  · rw [happend]
    exact List.nodup_append.mpr ⟨h.once, List.nodup_singleton id, fun a ha b hb heq => by
      rw [List.mem_singleton.mp hb] at heq
      exact hunsent (heq ▸ ha)⟩

theorem Numbered.sendWs (h : Numbered s) : Numbered s.sendWs := by
  unfold Handlers.sendWs
  split
  · exact h
  · rename_i id requests hrequests
    have hperm : (s.written ++ s.requests).Perm ((id :: s.written) ++ requests) := by
      rw [hrequests]
      exact List.perm_middle
    exact ⟨h.fresh, fun id' hid' => h.sent id' (hperm.mem_iff.mpr hid'), hperm.nodup_iff.mp h.once⟩

theorem numbered_next {a : Action R} (h : Numbered s) (ha : s.Enabled a) : Numbered (s.next a) := by
  cases a with
  | nextRequestId => exact h.nextRequestId
  | send id => exact h.send ha
  | sendWs => exact h.sendWs
  | handleMessage msg => rcases msg with _ | ⟨_ | id, res⟩ | _ <;> exact h.advances (.of_eq rfl rfl rfl)
  | announce => exact h.advances (.of_eq rfl rfl rfl)
  | look id =>
      show Numbered (s.look id)
      unfold Handlers.look
      split
      · exact h.advances (.of_phase rfl rfl ha (.returned _) (by simp) rfl)
      · exact h.advances (.of_phase rfl rfl ha .waiting (by simp) rfl)
  | lock id => exact h.advances (.of_phase rfl rfl ha.1 .receiving (by simp) rfl)
  | pop id =>
      show Numbered (s.pop id)
      unfold Handlers.pop
      split
      · exact h
      · split
        · exact h.advances (.of_eq rfl rfl rfl)
        · exact h.advances (.of_phase rfl rfl ha.1 .announced (by simp) rfl)
  | take id =>
      show Numbered (s.take id)
      unfold Handlers.take
      split
      · exact h.advances (.of_phase rfl rfl ha (.returned _) (by simp) rfl)
      · exact h.advances (.of_phase rfl rfl ha (.returned _) (by simp) rfl)
  | timeout id =>
      obtain ⟨phase, hphase, -⟩ := ha
      exact h.advances (.of_phase rfl rfl hphase (.returned .timeout) (by simp) rfl)

/-! ## Responses -/

/-- What the store, the announcements and a request say about each other. -/
structure Consistent (s : Handlers R) (id : Int) : Prop where
  genuine : ∀ res, s.received id = some res → s.handled.lookup id = some res
  stored : s.phase id = some .announced → s.received id ≠ none
  announced : id ∈ s.announcements ∨ s.announcing = some id →
    s.received id ≠ none ∨ ∃ outcome, s.phase id = some (.returned outcome)
  expected : s.phase id ≠ some (.returned .expectedResponse)
  answered : ∀ res, s.phase id = some (.returned (.response res)) → (id, res) ∈ s.handled
  holds : s.locked = some id ↔ s.phase id = some .receiving ∨ s.phase id = some .announced

theorem Consistent.apart (h : Consistent s id) (hapart : Apart s s' id) : Consistent s' id where
  genuine res hres := by
    rw [hapart.lookup]
    exact h.genuine res (hapart.received ▸ hres)
  stored hphase := by
    rw [hapart.received]
    exact h.stored (hapart.phase ▸ hphase)
  announced hann := by
    rw [hapart.received, hapart.phase]
    exact h.announced (hapart.announced hann)
  expected := by
    rw [hapart.phase]
    exact h.expected
  answered res hphase := hapart.handled (h.answered res (hapart.phase ▸ hphase))
  holds := by
    rw [hapart.locked, hapart.phase]
    exact h.holds

/-- A request that has not returned goes on. -/
theorem Consistent.goesOn (h : Consistent s id) (phase : Phase R) (hphase : ∀ outcome, phase ≠ .returned outcome)
    (hstored : phase = .announced → s.received id ≠ none)
    (hopen : ∀ outcome, s.phase id ≠ some (.returned outcome)) (hreceived : s'.received id = s.received id)
    (hann : phase = .announced ∨
      (id ∈ s'.announcements ∨ s'.announcing = some id → id ∈ s.announcements ∨ s.announcing = some id))
    (hhandled : s'.handled = s.handled) (hholds : s'.locked = some id ↔ phase = .receiving ∨ phase = .announced)
    (hnext : s'.phase id = some phase) : Consistent s' id where
  genuine res hres := by
    rw [hhandled]
    exact h.genuine res (hreceived ▸ hres)
  stored hphase' := by
    rw [hreceived]
    exact hstored (Option.some.inj (hnext ▸ hphase'))
  announced hann' := by
    rw [hreceived]
    rcases hann with hannounced | hann
    · exact .inl (hstored hannounced)
    · rcases h.announced (hann hann') with hres | ⟨outcome, houtcome⟩
      · exact .inl hres
      · exact absurd houtcome (hopen outcome)
  expected := by
    rw [hnext]
    exact fun heq => hphase _ (Option.some.inj heq)
  answered res hres := by
    rw [hnext] at hres
    exact absurd (Option.some.inj hres) (hphase _)
  holds := by
    rw [hholds, hnext, Option.some.injEq, Option.some.injEq]

/-- A `recv` returns. -/
theorem Consistent.returned (h : Consistent s id) (outcome : Outcome R) (hexpected : outcome ≠ .expectedResponse)
    (hresponse : ∀ res, outcome = .response res → s.received id = some res)
    (hreceived : s'.received id = s.received id ∨ s'.received id = none) (hhandled : s'.handled = s.handled)
    (hlocked : s'.locked ≠ some id) (hnext : s'.phase id = some (.returned outcome)) : Consistent s' id where
  genuine res hres := by
    rw [hhandled]
    rcases hreceived with heq | hnone
    · exact h.genuine res (heq ▸ hres)
    · rw [hnone] at hres
      cases hres
  stored hphase := by
    rw [hnext] at hphase
    cases hphase
  announced _ := .inr ⟨outcome, hnext⟩
  expected := by
    rw [hnext]
    exact fun heq => hexpected (Phase.returned.inj (Option.some.inj heq))
  answered res hres := by
    rw [hnext] at hres
    rw [hhandled]
    have hmem := h.genuine res (hresponse res (Phase.returned.inj (Option.some.inj hres)))
    obtain ⟨l₁, l₂, hsplit, -⟩ := List.lookup_eq_some_iff.mp hmem
    rw [hsplit]
    exact List.mem_append_right _ List.mem_cons_self
  holds := by
    rw [hnext]
    exact iff_of_false hlocked (by simp)

theorem Consistent.unlocked (h : Consistent s id) (hreceiving : s.phase id ≠ some .receiving)
    (hannounced : s.phase id ≠ some .announced) : s.locked ≠ some id := fun hlocked => by
  rcases h.holds.mp hlocked with hphase | hphase
  · exact hreceiving hphase
  · exact hannounced hphase

theorem Consistent.handleMessage (h : Consistent s id) (res : R) :
    Consistent (s.handleMessage (.response (.int id) res)) id where
  genuine res' hres := by
    have heq : Function.update s.received id (some res) id = some res' := hres
    rw [Function.update_self] at heq
    show List.lookup id ((id, res) :: s.handled) = some res'
    rw [List.lookup_cons_self, heq]
  stored _ := by
    show Function.update s.received id (some res) id ≠ none
    rw [Function.update_self]
    exact Option.some_ne_none res
  announced _ := by
    refine .inl ?_
    show Function.update s.received id (some res) id ≠ none
    rw [Function.update_self]
    exact Option.some_ne_none res
  expected := h.expected
  answered res' hres := List.mem_cons_of_mem _ (h.answered res' hres)
  holds := h.holds

/-- Every action keeps every request consistent. -/
theorem consistent_next {a : Action R} (hnum : Numbered s) (h : Consistent s id) (ha : s.Enabled a) :
    Consistent (s.next a) id := by
  by_cases hsubject : a.subject s = some id
  · -- a request holds the lock in two of its phases only
    have hunlocked : ∀ phase, s.phase id = some phase → phase ≠ .receiving → phase ≠ .announced →
        s.locked ≠ some id := by
      intro phase hphase hreceiving hannounced
      exact h.unlocked (by simpa [hphase] using hreceiving) (by simpa [hphase] using hannounced)
    -- a turn of the request itself; any other action leaves it as it is
    cases turn_next ha hsubject with
    | numbered hid h' hrests hlocked =>
        subst hid
        refine h.goesOn .numbered (by simp) (by simp) (fun outcome => hnum.unused _) hrests.received
          (.inr hrests.announced.mp) hrests.handled (iff_of_false ?_ (by simp)) h'
        exact hlocked ▸ h.unlocked (hnum.unused _) (hnum.unused _)
    | sent hphase h' hrests hlocked =>
        refine h.goesOn .sent (by simp) (by simp) (by simp [hphase]) hrests.received (.inr hrests.announced.mp)
          hrests.handled (iff_of_false ?_ (by simp)) h'
        exact hlocked ▸ hunlocked _ hphase (by simp) (by simp)
    | responded res _ h' => exact h' ▸ h.handleMessage res
    | found res hphase hres h' hres' hhandled hlocked =>
        refine h.returned (.response res) (by simp) (fun res' heq => ?_) (.inr hres') hhandled ?_ h'
        · exact Outcome.response.inj heq ▸ hres
        · exact hlocked ▸ hunlocked _ hphase (by simp) (by simp)
    | waits _ hphase hres h' hrests hlocked =>
        refine h.goesOn .waiting (by simp) (by simp) (by simp [hphase]) hrests.received (.inr hrests.announced.mp)
          hrests.handled (iff_of_false ?_ (by simp)) h'
        exact hlocked ▸ hunlocked _ hphase (by simp) (by simp)
    | locks hphase h' hrests hlocked =>
        exact h.goesOn .receiving (by simp) (by simp) (by simp [hphase]) hrests.received (.inr hrests.announced.mp)
          hrests.handled (iff_of_true hlocked (.inl rfl)) h'
    | passes hphase h' hrests hlocked =>
        refine h.goesOn .receiving (by simp) (by simp) (by simp [hphase]) hrests.received (.inr hrests.announced.mp)
          hrests.handled (iff_of_true ?_ (.inl rfl)) h'
        exact hlocked ▸ h.holds.mpr (.inl hphase)
    | pops hphase hann h' hres hhandled hlocked =>
        refine h.goesOn .announced (by simp) (fun _ => ?_) (by simp [hphase]) hres (.inl rfl) hhandled
          (iff_of_true ?_ (.inr rfl)) h'
        · rcases h.announced (.inl hann) with hstored | ⟨outcome, houtcome⟩
          · exact hstored
          · rw [hphase] at houtcome
            cases houtcome
        · exact hlocked ▸ h.holds.mpr (.inl hphase)
    | takes res hphase hres h' hres' hhandled hlocked =>
        refine h.returned (.response res) (by simp) (fun res' heq => ?_) (.inr hres') hhandled hlocked h'
        exact Outcome.response.inj heq ▸ hres
    | misses hphase hres h' => exact absurd hres (h.stored hphase)
    | timesOut phase hphase hrecv h' hrests hlocked =>
        exact h.returned .timeout (by simp) (by simp) (.inl hrests.received) hrests.handled hlocked h'
  · exact h.apart (apart_next ha hsubject)

/-- Whatever runs together, the handlers stay consistent. -/
theorem Reaches.consistent {C : Handlers R → Action R → Prop} (h : Reaches C s s')
    (hs : Numbered s ∧ ∀ id, Consistent s id) : Numbered s' ∧ ∀ id, Consistent s' id := by
  induction h with
  | refl => exact hs
  | tail _ hstep ih =>
      obtain ⟨a, ha, -, rfl⟩ := hstep
      exact ⟨numbered_next ih.1 ha, fun id => consistent_next ih.1 (ih.2 id) ha⟩

/-- The handlers of a new service. -/
def new : Handlers R := {}

theorem numbered_new : Numbered (new : Handlers R) where
  fresh _ _ h := by cases h
  sent _ h := by cases h
  once := List.nodup_nil

theorem consistent_new (id : Int) : Consistent (new : Handlers R) id where
  genuine _ h := by cases h
  stored h := by cases h
  announced h := by rcases h with h | h <;> cases h
  expected h := by cases h
  answered _ h := by cases h
  holds := iff_of_false (fun h => by cases h) fun h => by rcases h with h | h <;> cases h

/-- What an action returns to a request was in the store. -/
theorem returned_next {a : Action R} (ha : s.Enabled a) {res : R} (h : s.phase id ≠ some (.returned (.response res)))
    (hnext : (s.next a).phase id = some (.returned (.response res))) :
    s.received id = some res ∧ (s.next a).received id = none := by
  by_cases hsubject : a.subject s = some id
  · cases turn_next ha hsubject with
    | responded _ _ h' =>
        rw [h'] at hnext
        exact absurd hnext h
    | found res' _ hres h' hres' _ _ | takes res' _ hres h' hres' _ _ =>
        cases hnext.symm.trans h'
        exact ⟨hres, hres'⟩
    | numbered _ h' _ _ | sent _ h' _ _ | locks _ h' _ _ | passes _ h' _ _ => cases hnext.symm.trans h'
    | waits _ _ _ h' _ _ | pops _ _ h' _ _ _ => cases hnext.symm.trans h'
    | misses _ _ h' => cases hnext.symm.trans h'
    | timesOut _ _ _ h' _ _ => cases hnext.symm.trans h'
  · exact absurd ((apart_next ha hsubject).phase ▸ hnext) h

/-- However requests, pings and messages interleave, no request is sent twice, a `recv` whose id is announced finds its
response, and what a `recv` returns is the latest response handled under its id, which no other one gets. -/
theorem recv_matched {s : Handlers R} (hs : Reaches (fun _ _ => True) new s) :
    s.written.Nodup ∧ ∀ id, s.phase id ≠ some (.returned .expectedResponse) ∧ ∀ a res, s.Enabled a →
      s.phase id ≠ some (.returned (.response res)) → (s.next a).phase id = some (.returned (.response res)) →
        s.handled.lookup id = some res ∧ (s.next a).received id = none := by
  obtain ⟨hnum, hcon⟩ := hs.consistent ⟨numbered_new, consistent_new⟩
  refine ⟨(List.nodup_append.mp hnum.once).1, fun id => ⟨(hcon id).expected, fun a res ha hphase hnext => ?_⟩⟩
  obtain ⟨hres, hremoved⟩ := returned_next ha hphase hnext
  exact ⟨(hcon id).genuine res hres, hremoved⟩

/-- A `recv` that waits while a ping is answered, throws the announcement of the ping away, and takes its own. -/
def announcedTwice : List (Action Nat) :=
  [.nextRequestId, .send 1, .sendWs, .look 1, .lock 1, .nextRequestId, .send 2, .sendWs,
    .handleMessage (.response (.int 2) 8), .announce, .handleMessage (.response (.int 1) 7), .announce, .pop 1, .pop 1]

/-- The `recv` returns the response to its own request. -/
theorem recv_matched_announced : (announcedTwice.foldl Handlers.next new).written.Nodup ∧
    (announcedTwice.foldl Handlers.next new).handled.lookup 1 = some 7 ∧
    ((announcedTwice.foldl Handlers.next new).next (.take 1)).received 1 = none := by
  have hrun : Runnable (fun _ _ => True) new announcedTwice :=
    ⟨trivial, trivial, rfl, trivial, List.cons_ne_nil _ _, trivial, rfl, trivial, ⟨rfl, rfl⟩, trivial, trivial, trivial,
      rfl, trivial, List.cons_ne_nil _ _, trivial, rfl, trivial, Option.some_ne_none _, trivial, rfl, trivial,
      Option.some_ne_none _, trivial, ⟨rfl, List.cons_ne_nil _ _⟩, trivial, ⟨rfl, List.cons_ne_nil _ _⟩, trivial,
      trivial⟩
  obtain ⟨hnodup, hmatched⟩ := recv_matched hrun.reaches
  exact ⟨hnodup, (hmatched 1).2 (.take 1) 7 rfl (by decide) rfl⟩

/-! ## Announcements thrown away -/

/-- The `recv` waits for an announcement that was thrown away, or never came. -/
structure Stranded (s : Handlers R) (id : Int) : Prop where
  phase : s.phase id = some .waiting ∨ s.phase id = some .receiving ∨ s.phase id = some (.returned .timeout)
  unannounced : ¬ (id ∈ s.announcements ∨ s.announcing = some id)

/-- No response to the request is handled. -/
def NoResponse (id : Int) (_ : Handlers R) (a : Action R) : Prop := ∀ res, a ≠ .handleMessage (.response (.int id) res)

theorem Stranded.of_eq (h : Stranded s id) (hann : id ∈ s'.announcements ∨ s'.announcing = some id →
    id ∈ s.announcements ∨ s.announcing = some id) (hphase : s'.phase id = some .waiting ∨
      s'.phase id = some .receiving ∨ s'.phase id = some (.returned .timeout)) : Stranded s' id :=
  ⟨hphase, fun hnow => h.unannounced (hann hnow)⟩

/-- Only a response can help. -/
theorem stranded_next {a : Action R} (hnum : Numbered s) (h : Stranded s id) (ha : s.Enabled a)
    (hquiet : NoResponse id s a) : Stranded (s.next a) id := by
  by_cases hsubject : a.subject s = some id
  · have hopen := h.phase
    cases turn_next ha hsubject with
    | numbered hid _ _ _ =>
        subst hid
        rcases hopen with hphase | hphase | hphase <;> exact absurd hphase (hnum.unused _)
    | responded res heq _ => exact absurd heq (hquiet res)
    | locks _ h' hrests _ | passes _ h' hrests _ => exact h.of_eq hrests.announced.mp (.inr (.inl h'))
    | pops _ hann _ _ _ _ => exact absurd (.inl hann) h.unannounced
    | timesOut _ _ _ h' hrests _ => exact h.of_eq hrests.announced.mp (.inr (.inr h'))
    | sent hphase _ _ _ | misses hphase _ _ => rcases hopen with h | h | h <;> cases hphase.symm.trans h
    | found _ hphase _ _ _ _ _ | takes _ hphase _ _ _ _ _ =>
        rcases hopen with h | h | h <;> cases hphase.symm.trans h
    | waits _ hphase _ _ _ _ => rcases hopen with h | h | h <;> cases hphase.symm.trans h
  · have hapart := apart_next ha hsubject
    refine h.of_eq hapart.announced ?_
    rw [hapart.phase]
    exact h.phase

/-- What the event loop and the `recv` of a request do for it. -/
def ForItself (id : Int) (_ : Handlers R) (a : Action R) : Prop :=
  a = .announce ∨ a = .lock id ∨ a = .pop id ∨ a = .take id

theorem reaches_take {res : R} (hphase : s.phase id = some .announced) (hres : s.received id = some res) :
    ∃ s', Reaches (ForItself id) s s' ∧ s'.phase id = some (.returned (.response res)) := by
  refine ⟨s.next (.take id), .single ⟨.take id, hphase, .inr (.inr (.inr rfl)), rfl⟩, ?_⟩
  show (s.take id).phase id = _
  unfold Handlers.take
  rw [hres]
  exact Handlers.phase_setPhase_self _ _ _

/-- With the receiver, a `recv` goes through the announcements until its own. -/
theorem reaches_pop {res : R} (hphase : s.phase id = some .receiving) (hann : id ∈ s.announcements)
    (hres : s.received id = some res) :
    ∃ s', Reaches (ForItself id) s s' ∧ s'.phase id = some (.returned (.response res)) := by
  generalize hl : s.announcements = l at hann
  induction l generalizing s with
  | nil => cases hann
  | cons newId l ih =>
      have henabled : s.Enabled (.pop id) := ⟨hphase, by rw [hl]; exact List.cons_ne_nil _ _⟩
      by_cases hid : newId = id
      · have hpop : s.next (.pop id) = { s with announcements := l }.setPhase id .announced := by
          show s.pop id = _
          unfold Handlers.pop
          rw [hl]
          exact if_neg (not_not.mpr hid)
        have hannounced : (s.next (.pop id)).phase id = some .announced := by
          rw [hpop]
          exact Handlers.phase_setPhase_self _ _ _
        have hstored : (s.next (.pop id)).received id = some res := by
          rw [hpop]
          exact hres
        obtain ⟨s', hrun, hs'⟩ := reaches_take hannounced hstored
        exact ⟨s', .head ⟨.pop id, henabled, .inr (.inr (.inl rfl)), rfl⟩ hrun, hs'⟩
      · have hpop : s.next (.pop id) = { s with announcements := l } := by
          show s.pop id = _
          unfold Handlers.pop
          rw [hl]
          exact if_pos hid
        have hrest : id ∈ l := (List.mem_cons.mp hann).resolve_left fun heq => hid heq.symm
        obtain ⟨s', hrun, hs'⟩ := ih (s := s.next (.pop id)) (by rw [hpop]; exact hphase) (by rw [hpop]; exact hres)
          (by rw [hpop]) hrest
        exact ⟨s', .head ⟨.pop id, henabled, .inr (.inr (.inl rfl)), rfl⟩ hrun, hs'⟩

theorem reaches_lock {res : R} (hphase : s.phase id = some .waiting ∧ s.locked = none ∨ s.phase id = some .receiving)
    (hann : id ∈ s.announcements) (hres : s.received id = some res) :
    ∃ s', Reaches (ForItself id) s s' ∧ s'.phase id = some (.returned (.response res)) := by
  rcases hphase with henabled | hphase
  · obtain ⟨s', hrun, hs'⟩ := reaches_pop (s := s.next (.lock id)) (Handlers.phase_setPhase_self _ _ _) hann hres
    exact ⟨s', .head ⟨.lock id, henabled, .inr (.inl rfl), rfl⟩ hrun, hs'⟩
  · exact reaches_pop hphase hann hres

/-- A `recv` that can have the receiver, and whose response is announced or will be, returns it. -/
theorem reaches_announce {res : R}
    (hphase : s.phase id = some .waiting ∧ s.locked = none ∨ s.phase id = some .receiving)
    (hann : id ∈ s.announcements ∨ s.announcing = some id) (hres : s.received id = some res) :
    ∃ s', Reaches (ForItself id) s s' ∧ s'.phase id = some (.returned (.response res)) := by
  rcases hann with hann | hann
  · exact reaches_lock hphase hann hres
  · have henabled : s.Enabled .announce := by
      show s.announcing ≠ none
      rw [hann]
      exact Option.some_ne_none id
    have hmem : id ∈ (s.next .announce).announcements := by
      show id ∈ s.announcements ++ s.announcing.toList
      rw [hann]
      exact List.mem_append_right _ (List.mem_singleton_self id)
    obtain ⟨s', hrun, hs'⟩ := reaches_lock (s := s.next .announce) hphase hmem hres
    exact ⟨s', .head ⟨.announce, henabled, .inl rfl, rfl⟩ hrun, hs'⟩

theorem Reaches.mono {C C' : Handlers R → Action R → Prop} (hC : ∀ s a, C s a → C' s a) (h : Reaches C s s') :
    Reaches C' s s' := by
  induction h with
  | refl => exact .refl
  | tail _ hstep ih =>
      obtain ⟨a, ha, hc, hs⟩ := hstep
      exact ih.tail ⟨a, ha, hC _ _ hc, hs⟩

/-- A stranded `recv` stays so, unless another response is handled. -/
theorem Reaches.stranded (h : Reaches (NoResponse id) s s') (hs : Numbered s ∧ ∀ id, Consistent s id)
    (hstranded : Stranded s id) : Stranded s' id := by
  induction h with
  | refl => exact hstranded
  | tail hrun hstep ih =>
      obtain ⟨a, ha, hquiet, rfl⟩ := hstep
      exact stranded_next (Reaches.consistent hrun hs).1 ih ha hquiet

theorem noResponse_of_forItself {a : Action R} (h : ForItself id s a) (id' : Int) : NoResponse id' s a := by
  rintro res rfl
  rcases h with h | h | h | h <;> cases h

/-- The receiver can be had, at worst when the timeout of the one who has it is over. -/
theorem reaches_unlocked (hcon : ∀ id, Consistent s id)
    (hphase : s.phase id = some .waiting ∨ s.phase id = some .receiving) :
    ∃ s', Reaches (NoResponse id) s s' ∧
      (s'.phase id = some .waiting ∧ s'.locked = none ∨ s'.phase id = some .receiving) ∧
      s'.announcements = s.announcements ∧ s'.announcing = s.announcing ∧ s'.received = s.received := by
  rcases hphase with hphase | hphase
  · cases hlocked : s.locked with
    | none => exact ⟨s, .refl, .inl ⟨hphase, hlocked⟩, rfl, rfl, rfl⟩
    | some id' =>
        have hne : id ≠ id' := by
          rintro rfl
          rcases (hcon id).holds.mp hlocked with h | h <;> rw [hphase] at h <;> cases h
        have henabled : s.Enabled (.timeout id') := by
          rcases (hcon id').holds.mp hlocked with h | h
          · exact ⟨_, h, trivial⟩
          · exact ⟨_, h, trivial⟩
        refine ⟨s.timeout id', .single ⟨.timeout id', henabled, fun res h => (by cases h), rfl⟩, .inl ⟨?_, ?_⟩,
          rfl, rfl, rfl⟩
        · exact (Handlers.phase_setPhase_of_ne _ hne _).trans hphase
        · exact if_pos hlocked
  · exact ⟨s, .refl, .inr hphase, rfl, rfl, rfl⟩

/-- **Stranded requests.** A `recv` that has begun to wait can still return a response, without another one being
handled, exactly if the announcement of its response is in the channel or about to be sent. -/
theorem recv_returns_iff {s : Handlers R} (hs : Reaches (fun _ _ => True) new s) {id : Int}
    (hphase : s.phase id = some .waiting ∨ s.phase id = some .receiving) :
    (∃ s' res, Reaches (NoResponse id) s s' ∧ s'.phase id = some (.returned (.response res))) ↔
      id ∈ s.announcements ∨ s.announcing = some id := by
  have hkept := hs.consistent ⟨numbered_new, consistent_new⟩
  constructor
  · rintro ⟨s', res, hrun, hs'⟩
    by_contra hann
    have hstranded : Stranded s id := ⟨Or.imp_right .inl hphase, hann⟩
    have hopen := (hrun.stranded hkept hstranded).phase
    rw [hs'] at hopen
    rcases hopen with h | h | h <;> cases h
  · intro hann
    -- whoever has the receiver times out first
    obtain ⟨s₁, hrun₁, hphase₁, hann₁, hannouncing₁, hreceived₁⟩ := reaches_unlocked hkept.2 hphase
    cases hres : s.received id with
    | none =>
        rcases (hkept.2 id).announced hann with hstored | ⟨outcome, houtcome⟩
        · exact absurd hres hstored
        · rw [houtcome] at hphase
          rcases hphase with h | h <;> cases h
    | some res =>
        have hstored : s₁.received id = some res := by
          rw [hreceived₁]
          exact hres
        obtain ⟨s', hrun, hs'⟩ := reaches_announce hphase₁ (by rw [hann₁, hannouncing₁]; exact hann) hstored
        exact ⟨s', res, hrun₁.trans (hrun.mono fun _ _ h => noResponse_of_forItself h id), hs'⟩

/-- The second of two requests is answered while the first one has the receiver. -/
def overlapping : List (Action Nat) :=
  [.nextRequestId, .nextRequestId, .send 1, .send 2, .look 1, .look 2, .lock 1,
    .handleMessage (.response (.int 2) 7), .announce, .pop 1]

/-- The response is stored, and the second request waits for an announcement that the first one took. -/
theorem recv_returns_iff_overlapping : (overlapping.foldl Handlers.next new).received 2 = some 7 ∧
    ¬ ∃ s' res, Reaches (NoResponse 2) (overlapping.foldl Handlers.next new) s' ∧
      s'.phase 2 = some (.returned (.response res)) := by
  have hrun : Runnable (fun _ _ => True) new overlapping :=
    ⟨trivial, trivial, trivial, trivial, rfl, trivial, rfl, trivial, rfl, trivial, rfl, trivial, ⟨rfl, rfl⟩, trivial,
      rfl, trivial, Option.some_ne_none _, trivial, ⟨rfl, List.cons_ne_nil _ _⟩, trivial, trivial⟩
  refine ⟨rfl, fun h => ?_⟩
  have hann := (recv_returns_iff hrun.reaches (.inl rfl)).mp h
  exact absurd hann (by decide)

/-! ## One `recv` at a time -/

/-- No `recv` begins while another one waits. -/
def OneByOne (s : Handlers R) (a : Action R) : Prop :=
  ∀ id, a = .look id → ∀ id' phase, s.phase id' = some phase → ¬ phase.InRecv

/-- At most one `recv` waits, and the announcement of its response is not lost. -/
structure Alone (s : Handlers R) : Prop where
  unique : ∀ id id' phase phase', s.phase id = some phase → phase.InRecv → s.phase id' = some phase' →
    phase'.InRecv → id = id'
  kept : ∀ id, s.phase id = some .waiting ∨ s.phase id = some .receiving → s.received id ≠ none →
    id ∈ s.announcements ∨ s.announcing = some id

/-- Only a `recv` that has looked waits. -/
theorem inRecv_next {a : Action R} (ha : s.Enabled a) (hlook : a ≠ .look id) {phase : Phase R}
    (h : (s.next a).phase id = some phase) (hrecv : phase.InRecv) :
    ∃ phase, s.phase id = some phase ∧ phase.InRecv := by
  by_cases hsubject : a.subject s = some id
  · cases turn_next ha hsubject with
    | responded _ _ h' =>
        rw [h'] at h
        exact ⟨phase, h, hrecv⟩
    | waits hlooked _ _ _ _ _ => exact absurd hlooked hlook
    | locks hphase _ _ _ | passes hphase _ _ _ => exact ⟨_, hphase, trivial⟩
    | pops hphase _ _ _ _ _ => exact ⟨_, hphase, trivial⟩
    | numbered _ h' _ _ | sent _ h' _ _ =>
        cases h.symm.trans h'
        exact hrecv.elim
    | found _ _ _ h' _ _ _ | takes _ _ _ h' _ _ _ =>
        cases h.symm.trans h'
        exact hrecv.elim
    | misses _ _ h' =>
        cases h.symm.trans h'
        exact hrecv.elim
    | timesOut _ _ _ h' _ _ =>
        cases h.symm.trans h'
        exact hrecv.elim
  · exact ⟨phase, (apart_next ha hsubject).phase ▸ h, hrecv⟩

/-- Only a `recv` throws announcements away. -/
theorem announced_next {a : Action R} (ha : s.Enabled a) (hpop : ∀ id', a = .pop id' → id' = id)
    (hphase : ∃ phase, (s.next a).phase id = some phase ∧ phase ≠ .announced)
    (h : id ∈ s.announcements ∨ s.announcing = some id) :
    id ∈ (s.next a).announcements ∨ (s.next a).announcing = some id := by
  cases a with
  | handleMessage msg =>
      rcases msg with _ | ⟨_ | id', res⟩ | _
      · exact h
      · exact h
      · have hidle : s.announcing = none := ha
        rw [hidle] at h
        exact .inl (h.resolve_right (Option.some_ne_none id).symm)
      · exact h
  | announce =>
      refine .inl ?_
      show id ∈ s.announcements ++ s.announcing.toList
      rcases h with h | h
      · exact List.mem_append_left _ h
      · rw [h]
        exact List.mem_append_right _ (List.mem_singleton_self id)
  | pop id' =>
      -- the request pops its own announcement last: until then it takes away others
      obtain rfl := hpop id' rfl
      obtain ⟨phase, hphase, hne⟩ := hphase
      have hpopped : (s.pop id').phase id' = some phase := hphase
      show id' ∈ (s.pop id').announcements ∨ (s.pop id').announcing = some id'
      unfold Handlers.pop at hpopped ⊢
      split
      · exact h
      · rename_i newId announcements hann
        rw [hann] at hpopped h
        split
        · rename_i hid
          exact h.imp_left fun hmem => (List.mem_cons.mp hmem).resolve_left (Ne.symm hid)
        · rename_i hid
          simp only [if_neg hid, Handlers.phase_setPhase_self] at hpopped
          exact absurd (Option.some.inj hpopped).symm hne
  | nextRequestId => exact h
  | send id' => exact h
  | sendWs =>
      show id ∈ s.sendWs.announcements ∨ s.sendWs.announcing = some id
      unfold Handlers.sendWs
      split <;> exact h
  | look id' =>
      show id ∈ (s.look id').announcements ∨ (s.look id').announcing = some id
      unfold Handlers.look
      split <;> exact h
  | lock id' => exact h
  | take id' =>
      show id ∈ (s.take id').announcements ∨ (s.take id').announcing = some id
      unfold Handlers.take
      split <;> exact h
  | timeout id' => exact h

/-- What a `recv` that goes on waiting was, and what it had in the store. -/
theorem waiting_next {a : Action R} (ha : s.Enabled a) (hlook : a ≠ .look id)
    (hmessage : ∀ res, a ≠ .handleMessage (.response (.int id) res))
    (h : (s.next a).phase id = some .waiting ∨ (s.next a).phase id = some .receiving) :
    (s.phase id = some .waiting ∨ s.phase id = some .receiving) ∧ (s.next a).received id = s.received id := by
  by_cases hsubject : a.subject s = some id
  · cases turn_next ha hsubject with
    | responded res heq _ => exact absurd heq (hmessage res)
    | waits hlooked _ _ _ _ _ => exact absurd hlooked hlook
    | locks hphase _ hrests _ => exact ⟨.inl hphase, hrests.received⟩
    | passes hphase _ hrests _ => exact ⟨.inr hphase, hrests.received⟩
    | numbered _ h' _ _ | sent _ h' _ _ => rcases h with h | h <;> cases h.symm.trans h'
    | pops _ _ h' _ _ _ | timesOut _ _ _ h' _ _ => rcases h with h | h <;> cases h.symm.trans h'
    | found _ _ _ h' _ _ _ | takes _ _ _ h' _ _ _ => rcases h with h | h <;> cases h.symm.trans h'
    | misses _ _ h' => rcases h with h | h <;> cases h.symm.trans h'
  · have hapart := apart_next ha hsubject
    exact ⟨hapart.phase ▸ h, hapart.received⟩

theorem Alone.unique_next {a : Action R} (h : Alone s) (ha : s.Enabled a) (hone : OneByOne s a) {id id' : Int}
    {phase phase' : Phase R} (hphase : (s.next a).phase id = some phase) (hrecv : phase.InRecv)
    (hphase' : (s.next a).phase id' = some phase') (hrecv' : phase'.InRecv) : id = id' := by
  -- The one that has just looked is the only one, as there was none before.
  have hlooked : ∀ id id' phase', a = .look id → (s.next a).phase id' = some phase' → phase'.InRecv → id = id' := by
    intro id id' phase' hlook hphase' hrecv'
    by_contra hne
    obtain ⟨phase₀, hphase₀, hrecv₀⟩ := inRecv_next ha (by rw [hlook]; simpa using hne) hphase' hrecv'
    exact hone id hlook id' phase₀ hphase₀ hrecv₀
  by_cases hlook : a = .look id
  · exact hlooked id id' phase' hlook hphase' hrecv'
  · by_cases hlook' : a = .look id'
    · exact (hlooked id' id phase hlook' hphase hrecv).symm
    · obtain ⟨phase₀, hphase₀, hrecv₀⟩ := inRecv_next ha hlook hphase hrecv
      obtain ⟨phase₀', hphase₀', hrecv₀'⟩ := inRecv_next ha hlook' hphase' hrecv'
      exact h.unique id id' phase₀ phase₀' hphase₀ hrecv₀ hphase₀' hrecv₀'

theorem Alone.kept_next {a : Action R} (h : Alone s) (ha : s.Enabled a)
    (hphase : (s.next a).phase id = some .waiting ∨ (s.next a).phase id = some .receiving)
    (hres : (s.next a).received id ≠ none) : id ∈ (s.next a).announcements ∨ (s.next a).announcing = some id := by
  have hrecv : ∃ phase : Phase R, (s.next a).phase id = some phase ∧ phase.InRecv ∧ phase ≠ .announced := by
    rcases hphase with hphase | hphase
    · exact ⟨_, hphase, trivial, by simp⟩
    · exact ⟨_, hphase, trivial, by simp⟩
  obtain ⟨phase, hphase', hrecv, hne⟩ := hrecv
  by_cases hlook : a = .look id
  · subst hlook
    have hlook : (s.look id).phase id = some phase := hphase'
    have hstored : (s.look id).received id ≠ none := hres
    unfold Handlers.look at hlook hstored
    cases hreceived : s.received id with
    | none =>
        rw [hreceived] at hstored
        exact absurd hreceived hstored
    | some res =>
        simp only [hreceived, Handlers.phase_setPhase_self] at hlook
        obtain rfl := Option.some.inj hlook
        exact hrecv.elim
  · obtain ⟨phase₀, hphase₀, hrecv₀⟩ := inRecv_next ha hlook hphase' hrecv
    by_cases hmessage : ∃ res, a = .handleMessage (.response (.int id) res)
    · obtain ⟨res, rfl⟩ := hmessage
      exact .inr rfl
    · obtain ⟨hwaiting, hreceived⟩ := waiting_next ha hlook (fun res heq => hmessage ⟨res, heq⟩) hphase
      refine announced_next ha (fun id' hpop => ?_) ⟨phase, hphase', hne⟩ (h.kept id hwaiting (hreceived ▸ hres))
      subst hpop
      exact h.unique id' id _ phase₀ ha.1 trivial hphase₀ hrecv₀

theorem Reaches.alone (h : Reaches OneByOne s s') (hs : Alone s) : Alone s' := by
  induction h with
  | refl => exact hs
  | tail _ hstep ih =>
      obtain ⟨a, ha, hone, rfl⟩ := hstep
      exact ⟨fun id id' phase phase' => ih.unique_next ha hone, fun id => ih.kept_next ha⟩

theorem alone_new : Alone (new : Handlers R) where
  unique _ _ _ _ h := by cases h
  kept _ h := by rcases h with h | h <;> cases h

/-- **Sequential use.** If requests are made one after the other, as a payment does on its own service, then a `recv`
whose response has been stored returns it with nobody's help, whatever pings and messages came in between. -/
theorem recv_sequential {s : Handlers R} (hs : Reaches OneByOne new s) {id : Int} {res : R}
    (hphase : s.phase id = some .waiting ∨ s.phase id = some .receiving) (hres : s.received id = some res) :
    ∃ s', Reaches (ForItself id) s s' ∧ s'.phase id = some (.returned (.response res)) := by
  have hcon := (hs.consistent ⟨numbered_new, consistent_new⟩).2
  have halone := hs.alone alone_new
  have hstored : s.received id ≠ none := by
    rw [hres]
    exact Option.some_ne_none res
  refine reaches_announce ?_ (halone.kept id hphase hstored) hres
  rcases hphase with hphase | hphase
  · refine .inl ⟨hphase, ?_⟩
    cases hlocked : s.locked with
    | none => rfl
    | some id' =>
        -- the holder of the lock would be in its `recv`, so it would be this request
        have hholder : ∃ phase, s.phase id' = some phase ∧ phase.InRecv := by
          rcases (hcon id').holds.mp hlocked with h | h
          · exact ⟨_, h, trivial⟩
          · exact ⟨_, h, trivial⟩
        obtain ⟨phase, hphase', hrecv⟩ := hholder
        obtain rfl := halone.unique id id' _ phase hphase trivial hphase' hrecv
        rcases (hcon id).holds.mp hlocked with h | h <;> rw [hphase] at h <;> cases h
  · exact .inr hphase

/-- A request whose `recv` returns, and then a ping whose response is announced to nobody. -/
def beforehand : List (Action Nat) :=
  [.nextRequestId, .send 1, .sendWs, .look 1, .lock 1, .handleMessage (.response (.int 1) 7), .announce, .pop 1,
    .take 1, .nextRequestId, .send 2, .sendWs, .handleMessage (.response (.int 2) 8), .announce]

/-- The next request, whose response is announced after the one of the ping. -/
def patient : List (Action Nat) :=
  beforehand ++ [.nextRequestId, .send 3, .sendWs, .look 3, .handleMessage (.response (.int 3) 9), .announce]

/-- Nobody waits before the last request is looked for. -/
theorem oneByOne_beforehand : OneByOne
    (([.nextRequestId, .send 3, .sendWs] : List (Action Nat)).foldl Handlers.next (beforehand.foldl Handlers.next new))
    (.look 3) := by
  intro id _ id' phase hphase
  by_cases h1 : id' = 1
  · subst h1
    cases hphase
    exact fun h => h
  by_cases h2 : id' = 2
  · subst h2
    cases hphase
    exact fun h => h
  by_cases h3 : id' = 3
  · subst h3
    cases hphase
    exact fun h => h
  simp [beforehand, new, Handlers.next, Handlers.nextRequestId, Handlers.send, Handlers.sendWs, Handlers.setPhase,
    Handlers.look, Handlers.lock, Handlers.pop, Handlers.take, Handlers.announce, Handlers.handleMessage,
    Handlers.unlock, Handlers.remove, Function.update, h1, h2, h3] at hphase

/-- The stale announcement of the ping does not keep the second `recv` from its response. -/
theorem recv_sequential_patient : ∃ s', Reaches (ForItself 3) (patient.foldl Handlers.next new) s' ∧
    s'.phase 3 = some (.returned (.response 9)) := by
  have hother : ∀ {s : Handlers Nat} {a : Action Nat}, (∀ id, a ≠ .look id) → OneByOne s a :=
    fun hlook id heq => absurd heq (hlook id)
  have hfirst : OneByOne (([.nextRequestId, .send 1, .sendWs] : List (Action Nat)).foldl Handlers.next new)
      (.look 1) := by
    intro id _ id' phase hphase
    by_cases h1 : id' = 1
    · subst h1
      cases hphase
      exact fun h => h
    simp [new, Handlers.next, Handlers.nextRequestId, Handlers.send, Handlers.sendWs, Handlers.setPhase,
      Function.update, h1] at hphase
  have hrun : Runnable OneByOne new patient :=
    ⟨trivial, hother nofun, rfl, hother nofun, List.cons_ne_nil _ _, hother nofun, rfl, hfirst, ⟨rfl, rfl⟩,
      hother nofun, rfl, hother nofun, Option.some_ne_none _, hother nofun, ⟨rfl, List.cons_ne_nil _ _⟩, hother nofun,
      rfl, hother nofun, trivial, hother nofun, rfl, hother nofun, List.cons_ne_nil _ _, hother nofun, rfl,
      hother nofun, Option.some_ne_none _, hother nofun, trivial, hother nofun, rfl, hother nofun,
      List.cons_ne_nil _ _, hother nofun, rfl, oneByOne_beforehand, rfl, hother nofun, Option.some_ne_none _,
      hother nofun, trivial⟩
  exact recv_sequential hrun.reaches (.inl rfl) rfl

end Machine

end BreezLiquid.SideSwap
