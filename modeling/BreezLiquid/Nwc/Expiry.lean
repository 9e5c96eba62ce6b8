/-
# BreezLiquid.Nwc.Expiry — when a request is executed, and how often.

A request may carry the time at which it expires. The check of it is the wrong way round: the requests that expire
later are skipped as expired, and those that have expired are executed. Nothing remembers the ids of the events that
were handled, and the subscription has no time bound, so a payment is made again whenever its event arrives again,
after a restart for one.
-/
import BreezLiquid.Nwc.Authorisation

namespace BreezLiquid.Nwc

open Interleaving Tables

variable {n : Nostr}

/-! ## What should happen to a request -/

/-- A signed event with a request inside that the wallet supports. -/
structure WellFormed (n : Nostr) (event : Event) (req : Request) : Prop where
  signed : n.verify event = true
  decrypts : ∃ content, n.decrypt n.ourSecretKey event.pubkey event.content = .ok content ∧
    n.requestFromStr content = some req
  supported : ∀ method, req.params ≠ .other method

def RequestParams.pays : RequestParams → Bool
  | .payInvoice _ => true
  | _ => false

def EffectKind.pays : EffectKind → Bool
  | .invoked params => params.pays
  | _ => false

/-- The ids of the events whose payments were executed. -/
def paid (w : World) : List String :=
  (w.trace.filter fun effect => effect.kind.pays).map fun effect => effect.event.id

/-- No payment was executed twice. -/
def PaidOnce (w : World) : Prop := (paid w).Nodup

instance (w : World) : Decidable (PaidOnce w) := inferInstanceAs (Decidable (paid w).Nodup)

/-- The payment of this event was executed before. -/
def Replayed (w : World) (event : Event) (req : Request) : Prop :=
  req.params.pays = true ∧ event.id ∈ paid w

/-- The event that is taken from `w` is executed in time, is not executed once it has expired, and its payment is
not executed again. -/
structure Rightly (n : Nostr) (event : Event) (w w' : World) : Prop where
  executed : ∀ req, WellFormed n event req → (∀ t, event.expiration = some t → w.now < t) →
    ¬ Replayed w event req → w'.trace = ⟨event, w.nwcUris, .invoked req.params⟩ :: w.trace
  expired : ∀ t, event.expiration = some t → t < w.now → w'.trace = w.trace
  once : ∀ req, WellFormed n event req → Replayed w event req → w'.trace = w.trace

/-- Every event the loop takes is handled rightly. -/
def Lawful (n : Nostr) : Cond World Role
  | .own _, w, w' => ∀ event, w.notifications = .event event :: w'.notifications → Rightly n event w w'
  | _, _, _ => True

/-- What the handling of an event comes to is right: it has no expiration time or expires this second, and is no
payment that was executed before; or it is such a payment, and expires later. -/
def Fits (w : World) (event : Event) (req : Request) : Prop :=
  (∀ t, event.expiration = some t → t = w.now) ∧ ¬ Replayed w event req ∨
    (∃ t, event.expiration = some t ∧ w.now < t) ∧ Replayed w event req

/-- Every event the loop takes with a request inside fits. -/
def Fitting (n : Nostr) : Cond World Role
  | .own _, w, w' => ∀ event, w.notifications = .event event :: w'.notifications →
      ∀ req, WellFormed n event req → Fits w event req
  | _, _, _ => True

/-! ## Taking one event -/

/-- An event has at most one request. -/
theorem wellFormed_unique {event : Event} {req req' : Request} (h : WellFormed n event req)
    (h' : WellFormed n event req') : req = req' := by
  obtain ⟨content, hcontent, hreq⟩ := h.decrypts
  obtain ⟨content', hcontent', hreq'⟩ := h'.decrypts
  rw [hcontent] at hcontent'
  cases hcontent'
  rw [hreq] at hreq'
  exact Option.some.inj hreq'

/-- A request is accepted if it is well formed and its expiration is not in the future. -/
theorem accepted_iff {now : Nat} {event : Event} {req : Request} :
    Accepted n now event req ↔
      WellFormed n event req ∧ ∀ t, event.expiration = some t → t ≤ now :=
  ⟨fun h => ⟨⟨h.signed, h.decrypts, h.handled⟩, h.expiration⟩,
    fun h => ⟨h.2, h.1.signed, h.1.decrypts, h.1.supported⟩⟩

/-- Taking an event calls the handler, if the request is accepted, and nothing else. -/
theorem takeNotification_trace {w : World} {event : Event} {notifications : List RelayPoolNotification}
    (hnext : w.notifications = .event event :: notifications) :
    (∃ req, Accepted n w.now event req ∧
        (takeNotification n w).trace = ⟨event, w.nwcUris, .invoked req.params⟩ :: w.trace) ∨
      (∀ req, ¬ Accepted n w.now event req) ∧ (takeNotification n w).trace = w.trace := by
  cases hreq : acceptedRequest n w.now event with
  | some req =>
      have haccepted := acceptedRequest_iff.mp hreq
      refine .inl ⟨req, haccepted, ?_⟩
      rw [takeNotification_accepted hnext haccepted]
  | none =>
      refine .inr ⟨fun req h => ?_, ?_⟩
      · rw [acceptedRequest_iff.mpr h] at hreq
        cases hreq
      · unfold takeNotification
        rw [hnext]
        simp only [hreq]

/-- An event is handled rightly when its request fits, and only then. -/
theorem rightly_take_iff {w : World} {event : Event} {notifications : List RelayPoolNotification}
    (hnext : w.notifications = .event event :: notifications) :
    Rightly n event w (takeNotification n w) ↔ ∀ req, WellFormed n event req → Fits w event req := by
  constructor
  · intro h req hreq
    rcases takeNotification_trace (n := n) hnext with ⟨req', haccepted, htrace⟩ | ⟨hnone, htrace⟩
    · obtain ⟨hreq', hexpiration⟩ := accepted_iff.mp haccepted
      have hfresh : ∀ trace, (takeNotification n w).trace = trace → trace ≠ w.trace := by
        rintro trace rfl hsame
        rw [hsame] at htrace
        exact List.cons_ne_self _ _ htrace.symm
      refine .inl ⟨fun t ht => ?_, fun hreplayed => hfresh _ (h.once req hreq hreplayed) rfl⟩
      by_contra hne
      have hle := hexpiration t ht
      exact hfresh _ (h.expired t ht (by omega)) rfl
    · by_cases hlate : ∀ t, event.expiration = some t → t ≤ w.now
      · exact absurd (accepted_iff.mpr ⟨hreq, hlate⟩) (hnone req)
      · push Not at hlate
        obtain ⟨t, ht, hlt⟩ := hlate
        refine .inr ⟨⟨t, ht, hlt⟩, ?_⟩
        by_contra hnot
        have hexecuted := h.executed req hreq (fun t' ht' => by rw [ht] at ht'; cases ht'; exact hlt) hnot
        rw [htrace] at hexecuted
        exact List.cons_ne_self _ _ hexecuted.symm
  · intro h
    rcases takeNotification_trace (n := n) hnext with ⟨req, haccepted, htrace⟩ | ⟨hnone, htrace⟩
    · obtain ⟨hreq, hexpiration⟩ := accepted_iff.mp haccepted
      -- what is executed has not been, and expires now if at all
      have hfits : (∀ t, event.expiration = some t → t = w.now) ∧ ¬ Replayed w event req := by
        rcases h req hreq with hfits | ⟨⟨t, ht, hlt⟩, -⟩
        · exact hfits
        · have hle := hexpiration t ht
          omega
      refine ⟨fun req' hreq' _ _ => ?_, fun t ht hlt => ?_, fun req' hreq' hreplayed => ?_⟩
      · rw [htrace, wellFormed_unique hreq hreq']
      · have hnow := hfits.1 t ht
        omega
      · rw [wellFormed_unique hreq' hreq] at hreplayed
        exact absurd hreplayed hfits.2
    · refine ⟨fun req hreq hfuture hnot => ?_, fun _ _ _ => htrace, fun _ _ _ => htrace⟩
      rcases h req hreq with ⟨hnow, -⟩ | ⟨-, hreplayed⟩
      · refine absurd (accepted_iff.mpr ⟨hreq, fun t ht => ?_⟩) (hnone req)
        exact (hnow t ht).le
      · exact absurd hreplayed hnot

/-- The entry of a payment that was handled rightly is the first of its event. -/
theorem paidOnce_take {w : World} (hw : PaidOnce w)
    (h : ∀ event, w.notifications = .event event :: (takeNotification n w).notifications →
      Rightly n event w (takeNotification n w)) : PaidOnce (takeNotification n w) := by
  cases hnext : w.notifications with
  | nil =>
      unfold takeNotification
      rw [hnext]
      exact hw
  | cons notification notifications =>
      cases notification with
      | message =>
          unfold takeNotification
          rw [hnext]
          exact hw
      | shutdown =>
          unfold takeNotification
          rw [hnext]
          exact hw
      | event event =>
          rcases takeNotification_trace (n := n) hnext with ⟨req, haccepted, htrace⟩ | ⟨-, htrace⟩
          · have hright : Rightly n event w (takeNotification n w) := by
              apply h
              rw [takeNotification_accepted hnext haccepted]
              exact hnext
            unfold PaidOnce paid
            rw [htrace, List.filter_cons]
            split
            · rename_i hpays
              refine List.nodup_cons.mpr ⟨fun hmem => ?_, hw⟩
              have hsame := hright.once req (accepted_iff.mp haccepted).1 ⟨hpays, hmem⟩
              rw [htrace] at hsame
              exact List.cons_ne_self _ _ hsame
            · exact hw
          · unfold PaidOnce paid
            rw [htrace]
            exact hw

/-! ## Whole runs -/

/-- An action takes the next notification, or is an action next to that which calls no handler. -/
def Handles (n : Nostr) (w w' : World) : Prop :=
  Aside (fun effect => effect.kind.pays = false) w w' ∨ w' = takeNotification n w

/-- An action that takes an event is the taking of notifications. -/
theorem Handles.take {w w' : World} {event : Event} (h : Handles n w w')
    (hnext : w.notifications = .event event :: w'.notifications) : w' = takeNotification n w := by
  rcases h with haside | htake
  · rw [haside.notifications] at hnext
    exact absurd hnext.symm (List.cons_ne_self _ _)
  · exact htake

/-- Of the events that are taken, the two conditions say the same. -/
theorem lawful_iff_fitting {l : Label Role} {w w' : World} (h : ∀ r, l = .own r → Handles n w w') :
    Lawful n l w w' ↔ Fitting n l w w' := by
  cases l with
  | own r =>
      constructor
      · intro hlawful event hnext
        have hright := hlawful event hnext
        rw [(h r rfl).take hnext] at hright
        exact (rightly_take_iff hnext).mp hright
      · intro hfitting event hnext
        have hright := (rightly_take_iff hnext).mpr (hfitting event hnext)
        rw [← (h r rfl).take hnext] at hright
        exact hright
  | spawn r => exact Iff.rfl
  | finish r => exact Iff.rfl
  | abort r => exact Iff.rfl
  | env => exact Iff.rfl

/-- What pays nothing does not pay twice. -/
theorem paidOnce_aside {w w' : World} (hw : PaidOnce w)
    (h : Aside (fun effect => effect.kind.pays = false) w w') : PaidOnce w' := by
  unfold PaidOnce paid
  rcases h.trace with htrace | ⟨effect, heffect, htrace⟩
  · rw [htrace]
    exact hw
  · rw [htrace, List.filter_cons_of_neg (by simp [heffect])]
    exact hw

/-- Every role relies on nothing, and its actions are those of the service. -/
def takingProtocol (n : Nostr) : Protocol World Role where
  inv := PaidOnce
  rely _ _ _ := True
  guar _ := Handles n
  idle _ _ := True
  rely_refl _ _ := trivial
  rely_trans _ _ _ _ _ _ := trivial
  idle_stable _ _ _ _ _ _ := trivial

section Taking

variable {C : Cond World Role}

theorem safe_aside {r : Role} {P : Effect → Prop} {t : Async Unit}
    (hP : ∀ effect, P effect → effect.kind.pays = false) (h : Asides P t) (w : World) :
    Safe (system n) C (takingProtocol n) r t (fun _ w => (takingProtocol n).idle r w) w := by
  have hkeeps : ∀ {w w' : World}, Aside P w w' → Keeps C (takingProtocol n) r w w' := by
    intro w w' haside hw _
    have haside' := haside.mono hP
    exact ⟨paidOnce_aside hw haside', .inl haside'⟩
  have hbenign : Benign (system n) C (takingProtocol n) r t :=
    h.mono (fun f hf w => hkeeps (hf w)) fun q hq a w _ => hkeeps (hq a w)
  exact hbenign.safe_of (fun _ _ _ => trivial) fun _ _ _ _ => trivial

/-- A condition that the taking of notifications meets only if it is lawful. -/
def Guards (n : Nostr) (C : Cond World Role) : Prop :=
  ∀ r w, C (.own r) w (takeNotification n w) → Lawful n (.own r) w (takeNotification n w)

/-- The event loop pays a request at most once. -/
theorem safe_taking (hC : Guards n C) (w : World) :
    Safe (system n) C (takingProtocol n) .eventLoop (handleEvent n)
      (fun _ w => (takingProtocol n).idle .eventLoop w) w := by
  intro w₁ _ hw hcond
  refine ⟨paidOnce_take hw (hC .eventLoop w₁ hcond), .inr rfl, ?_⟩
  dsimp only
  split
  · split
    · refine safe_aside ?_ (asides_handleRequest _ _ _) _
      rintro effect ⟨-, -, hkind⟩
      cases heffect : effect.kind with
      | invoked params => exact absurd heffect (hkind params)
      | notified event => rfl
      | answered content => rfl
    · exact fun _ _ _ => trivial
  · exact fun _ _ _ => trivial

/-- Nothing else pays. -/
theorem sound_taking (hC : Guards n C) : Sound (system n) C (takingProtocol n) Coexist where
  compat _ _ _ _ _ _ := trivial
  spawn := by
    intro roles w r t hspawn _ _ _
    refine ⟨coexist_of_spawns hspawn, ?_⟩
    rcases spawned hspawn with ⟨rfl, rfl⟩ | hasides
    · exact safe_taking hC w
    · exact safe_aside (fun _ h => h.elim) hasides w
  abort _ _ _ _ := trivial
  env := by
    intro w w' henv hw _
    refine ⟨?_, fun _ => trivial⟩
    cases henv <;> exact hw

theorem kept_taking {w : World} (hstart : w.trace = []) :
    Kept (system n) C (takingProtocol n) Coexist ⟨w, []⟩ := by
  refine ⟨?_, List.Pairwise.nil, fun e he => absurd he List.not_mem_nil, fun _ _ => trivial⟩
  show (paid w).Nodup
  unfold paid
  rw [hstart]
  exact List.nodup_nil

end Taking

/-- Both conditions guard the taking of an event. -/
theorem guards_lawful : Guards n (Lawful n) := fun _ _ h => h

theorem guards_fitting : Guards n (Fitting n) :=
  fun _ _ h => (lawful_iff_fitting fun _ _ => .inr rfl).mpr h

/-- **Requests are executed in time and payments once** in exactly the runs whose events fit: they have no expiration
time, or arrive in the second in which they expire, and a payment does not arrive again. -/
theorem executed_in_time_iff {w : World} (hstart : w.trace = []) {c : Pool World Call Call.Answer Err Role} :
    Runs (system n) (Lawful n) ⟨w, []⟩ c ∧ PaidOnce c.state ↔ Runs (system n) (Fitting n) ⟨w, []⟩ c := by
  constructor
  · rintro ⟨hrun, -⟩
    refine hrun.guaranteed (sound_taking guards_lawful) (fun l w w' hguar hc => ?_) (kept_taking hstart)
    exact (lawful_iff_fitting hguar).mp hc
  · intro hrun
    refine ⟨?_, (hrun.keep (sound_taking guards_fitting) (kept_taking hstart)).inv⟩
    refine hrun.guaranteed (sound_taking guards_fitting) (fun l w w' hguar hc => ?_) (kept_taking hstart)
    exact (lawful_iff_fitting hguar).mpr hc

/-! ## The request of an app again -/

/-- All events that are waiting never expire, and were not paid before. -/
def allFresh (w : World) : Bool :=
  w.notifications.all fun
    | .event event => event.expiration = none ∧ event.id ∉ paid w
    | _ => true

theorem fitting_of_fresh {l : Label Role} {w : World} (h : allFresh w = true) (w' : World) :
    Fitting n l w w' := by
  cases l with
  | own r =>
      intro event hnext req _
      have hmem : RelayPoolNotification.event event ∈ w.notifications := by
        rw [hnext]
        exact List.mem_cons_self
      obtain ⟨hexpiration, hpaid⟩ := of_decide_eq_true (List.all_eq_true.mp h _ hmem)
      refine .inl ⟨fun t ht => ?_, fun hreplayed => hpaid hreplayed.2⟩
      rw [hexpiration] at ht
      cases ht
  | spawn r => trivial
  | finish r => trivial
  | abort r => trivial
  | env => trivial

/-- A task alone, with only fresh events taken, is a run that meets the condition. -/
theorem runs_fitting {w : World} {r : Role} {t : Async Unit} (h : Spawns wallet [] w r t)
    (hsteps : t.Steps World.effect answers (fun w _ => allFresh w = true) (0, w)) :
    Runs (system wallet) (Fitting wallet) ⟨w, []⟩ ⟨(t.run World.effect answers (0, w)).2.2, []⟩ :=
  runs_spawn (fun _ _ _ => trivial) answers h (fun _ => ⟨trivial, trivial⟩)
    (Task.Steps.mono _ _ hsteps fun _ w' h => fitting_of_fresh h w')

/-- A request without an expiration time is executed. -/
theorem executed_in_time_app : PaidOnce (handled "pub-app") ∧ paid (handled "pub-app") = ["e"] := by
  refine ⟨?_, by decide +kernel⟩
  have hadd := runs_fitting (.add [] {} "app") (by decide +kernel)
  have hstart := runs_fitting (.start [] appStored nofun) (by decide +kernel)
  have hsend : Runs (system wallet) (Fitting wallet) ⟨appSubscribed, []⟩ ⟨requested "pub-app", []⟩ :=
    runs_arrive (fun _ _ => trivial) (by decide +kernel) rfl (by decide) []
  have hevent := runs_fitting (.event [] (requested "pub-app") nofun) (by decide +kernel)
  exact ((executed_in_time_iff rfl).mpr ((hadd.trans hstart).trans (hsend.trans hevent))).2

/-- The request of the app, to be executed before the time 10. -/
def expiringRequest : Event := { payRequest "pub-app" with expiration := some 10 }

/-- It arrives in time, and is handled at the time 20. -/
def requestedLate : World :=
  { appSubscribed with
    notifications := appSubscribed.notifications ++ [.event expiringRequest]
    now := 20 }

/-- The service was restarted after the request had been handled, and the relays send it again. -/
def restarted : World :=
  ((resubscribe wallet).run World.effect answers
    (0, { handled "pub-app" with subscriptions := [], resubscriptions := 0, notifications := [] })).2.2

def requestedAgain : World :=
  { restarted with notifications := restarted.notifications ++ [.event (payRequest "pub-app")] }

/-- A request is executed after it has expired, and a payment twice. -/
theorem executed_late :
    (¬ ∀ (n : Nostr) (w : World), w.trace = [] → ∀ (c c' : Pool World Call Call.Answer Err Role) (l : Label Role),
      Runs (system n) .any ⟨w, []⟩ c → Step (system n) c l c' → Lawful n l c.state c'.state) ∧
    ¬ ∀ (n : Nostr) (w : World), w.trace = [] → ∀ c : Pool World Call Call.Answer Err Role,
      Runs (system n) .any ⟨w, []⟩ c → PaidOnce c.state := by
  constructor
  · intro h
    -- the clock passes the expiration before the event is handled
    have hsend : Runs (system wallet) .any ⟨appSubscribed, []⟩
        ⟨requestedLate, [(.eventLoop, handleEvent wallet)]⟩ := by
      have harrive := @runs_arrive .any (fun _ _ => trivial)
        appSubscribed expiringRequest (by decide +kernel) rfl (by decide) []
      refine harrive.trans ?_
      refine .head ⟨.env, .env (.clock _ 20 (by decide +kernel)), trivial⟩ ?_
      exact .single ⟨.spawn .eventLoop, .spawn (.event _ _ nofun), trivial⟩
    have hlawful := h wallet {} rfl _ _ (.own .eventLoop) (runs_subscribed.trans hsend)
      (.own [] [] (.atomic (takeNotification wallet) _ requestedLate))
    have hexpired := (hlawful expiringRequest (by decide +kernel)).expired 10 rfl (by decide +kernel)
    exact absurd (congrArg List.length hexpired) (by decide +kernel)
  · intro h
    -- the first time, then a restart, and the relays send the same request to the new subscription
    have hsend : Runs (system wallet) .any ⟨appSubscribed, []⟩ ⟨requested "pub-app", []⟩ :=
      runs_arrive (fun _ _ => trivial) (by decide +kernel) rfl (by decide) []
    have hevent := runs_spawn_any answered answers (Spawns.event [] (requested "pub-app") nofun)
    have hrestart : Runs (system wallet) .any ⟨handled "pub-app", []⟩
        ⟨{ handled "pub-app" with subscriptions := [], resubscriptions := 0, notifications := [] }, []⟩ :=
      .single ⟨.env, .env (.restart _), trivial⟩
    have hstartAgain := runs_spawn_any answered answers (Spawns.start (n := wallet) []
      { handled "pub-app" with subscriptions := [], resubscriptions := 0, notifications := [] } nofun)
    have hsendAgain : Runs (system wallet) .any ⟨restarted, []⟩ ⟨requestedAgain, []⟩ :=
      runs_arrive (fun _ _ => trivial) (by decide +kernel) rfl (by decide) []
    have heventAgain := runs_spawn_any answered answers (Spawns.event [] requestedAgain nofun)
    have hfirst := runs_subscribed.trans (hsend.trans hevent)
    have hsecond := (hrestart.trans hstartAgain).trans (hsendAgain.trans heventAgain)
    exact absurd (h wallet {} rfl _ (hfirst.trans hsecond)) (by decide +kernel)

end BreezLiquid.Nwc
