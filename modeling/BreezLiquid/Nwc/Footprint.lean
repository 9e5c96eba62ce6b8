/-
# BreezLiquid.Nwc.Footprint — what the tasks of the service write.

Only the taking of a notification removes one, and only it calls the handler. All other actions leave the waiting
notifications alone and add at most one entry to the history, about the event that is being handled.

`Aside` is this relation between the worlds before and after an action. Each function of the service has one lemma about
the entries it may add, put together from those of the functions it calls.
-/
import BreezLiquid.Nwc.Service

namespace BreezLiquid.Nwc

open Interleaving Tables

variable {n : Nostr}

/-- An action next to the taking of notifications; what it notes is a `P`. -/
structure Aside (P : Effect → Prop) (w w' : World) : Prop where
  notifications : w'.notifications = w.notifications
  trace : w'.trace = w.trace ∨ ∃ effect, P effect ∧ w'.trace = effect :: w.trace

/-- All actions of the task are such. -/
abbrev Asides {α : Type} (P : Effect → Prop) (t : Async α) : Prop :=
  t.Within (fun f => ∀ w, Aside P w (f w)) fun q => ∀ (a : q.Answer) (w : World), Aside P w (World.effect q a w)

/-- What is noted about the event after its handler was called. -/
def Effect.Follows (event : Event) (nwcUris : Table NwcUri.name) (effect : Effect) : Prop :=
  effect.event = event ∧ effect.uris = nwcUris ∧ ∀ params, effect.kind ≠ .invoked params

section Asides

variable {P : Effect → Prop}

/-- Where nothing was noted, nothing was done. -/
theorem Aside.quiet {w w' : World} (hnotifications : w'.notifications = w.notifications)
    (htrace : w'.trace = w.trace) : Aside P w w' := ⟨hnotifications, .inl htrace⟩

theorem Aside.mono {P' : Effect → Prop} {w w' : World} (hP : ∀ effect, P effect → P' effect)
    (h : Aside P w w') : Aside P' w w' := by
  refine ⟨h.notifications, ?_⟩
  rcases h.trace with htrace | ⟨effect, heffect, htrace⟩
  · exact .inl htrace
  · exact .inr ⟨effect, hP effect heffect, htrace⟩

/-- The answer to a call is no effect. -/
theorem aside_call (q : Call) (a : q.Answer) (w : World) : Aside P w (World.effect q a w) := by
  unfold World.effect
  split
  · exact .quiet rfl rfl
  · exact .quiet rfl rfl

/-- The parts of the service, by the effects they have: asking has none ... -/
theorem asides_ask (q : Call) : Asides P (Task.ask q) :=
  Task.within_ask fun a w => aside_call q a w

theorem asides_note {effect : Effect} (h : P effect) : Asides P (Task.modify (World.note effect)) :=
  Task.within_modify fun _ => ⟨rfl, .inr ⟨effect, h, rfl⟩⟩

theorem asides_listNwcUris : Asides P listNwcUris :=
  Task.within_reads (fun _ => .quiet rfl rfl) _

theorem asides_triggerResubscription : Asides P triggerResubscription :=
  Task.within_modify fun _ => .quiet rfl rfl

/-- ... the two calls of the application have none ... -/
theorem asides_addConnectionString (name : String) : Asides P (addConnectionString n name) := by
  refine Task.Within.bind (asides_ask _) fun secret => ?_
  refine Task.Within.bind ?_ fun _ => asides_triggerResubscription
  refine Task.Within.bind asides_listNwcUris fun nwcUris => ?_
  exact Task.within_modify fun _ => .quiet rfl rfl

theorem asides_removeConnectionString (name : String) : Asides P (removeConnectionString name) := by
  refine Task.Within.bind ?_ fun _ => asides_triggerResubscription
  refine Task.Within.bind asides_listNwcUris fun nwcUris => ?_
  exact Task.within_modify fun _ => .quiet rfl rfl

theorem asides_resubscribe : Asides P (resubscribe n) := by
  refine Task.Within.bind asides_listNwcUris fun nwcUris => ?_
  exact Task.within_askOk (fun a w => aside_call _ a w) rfl

/-- ... and subscribing has none ... -/
theorem asides_handleResubscription : Asides P (handleResubscription n) := by
  refine Task.Within.bind ?_ fun _ => asides_resubscribe
  exact Task.within_modify fun _ => .quiet rfl rfl

/-- ... the handler of a request is noted where it is called ... -/
theorem asides_callHandler (params : RequestParams) : Asides P (callHandler params) := by
  cases params with
  | payInvoice req => exact Task.Within.bind (asides_ask _) fun _ => trivial
  | listTransactions req => exact Task.Within.bind (asides_ask _) fun _ => trivial
  | getBalance => exact Task.Within.bind (asides_ask _) fun _ => trivial
  | other method => trivial

end Asides

/-- ... and what follows a request is of that request. -/
theorem asides_handleLocalNotification (event : Event) (nwcUris : Table NwcUri.name)
    (result : Option ResponseResult) (error : Option Nip47Error) :
    Asides (Effect.Follows event nwcUris) (handleLocalNotification event nwcUris result error) := by
  unfold handleLocalNotification
  split
  · exact asides_note ⟨rfl, rfl, nofun⟩
  · trivial

/-- The rest of the handling is about its event, and calls the handler no more. -/
theorem asides_handleRequest (event : Event) (nwcUris : Table NwcUri.name) (req : Request) :
    Asides (Effect.Follows event nwcUris) (handleRequest n event nwcUris req) := by
  refine Task.Within.bind (asides_callHandler req.params) ?_
  rintro ⟨result, error⟩
  refine Task.Within.bind (asides_handleLocalNotification event nwcUris result error) fun _ => ?_
  split
  · trivial
  · split
    · trivial
    · refine Task.Within.bind (asides_note ⟨rfl, rfl, nofun⟩) fun _ => ?_
      exact Task.Within.bind (asides_ask _) fun _ => trivial

/-- What is started takes the next notification, or notes nothing at all. -/
theorem spawned {roles : List Role} {w : World} {r : Role} {t : Async Unit} (h : Spawns n roles w r t) :
    (r = .eventLoop ∧ t = handleEvent n) ∨ Asides (fun _ => False) t := by
  cases h with
  | start h => exact .inr asides_resubscribe
  | event h => exact .inl ⟨rfl, rfl⟩
  | resubscription h hsent => exact .inr asides_handleResubscription
  | add name => exact .inr (asides_addConnectionString name)
  | remove name => exact .inr (asides_removeConnectionString name)

/-! ## Who runs next to whom -/

/-- The event loop runs alone, connections may be added and removed next to everything. -/
def Coexist (r r' : Role) : Prop := ¬ (r = .eventLoop ∧ r' = .eventLoop)

/-- A task that is started may run next to those that are running. -/
theorem coexist_of_spawns {roles : List Role} {w : World} {r : Role} {t : Async Unit}
    (h : Spawns n roles w r t) : ∀ r' ∈ roles, Coexist r' r ∧ Coexist r r' := by
  have hloop : Role.eventLoop ∉ roles → ∀ r' ∈ roles, Coexist r' .eventLoop ∧ Coexist .eventLoop r' :=
    fun hnot r' hr' => ⟨fun h => hnot (h.1 ▸ hr'), fun h => hnot (h.2 ▸ hr')⟩
  cases h with
  | start h => exact hloop h
  | event h => exact hloop h
  | resubscription h hsent => exact hloop h
  | add name => exact fun r' _ => ⟨nofun, nofun⟩
  | remove name => exact fun r' _ => ⟨nofun, nofun⟩

end BreezLiquid.Nwc
