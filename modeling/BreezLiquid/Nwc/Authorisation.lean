/-
# BreezLiquid.Nwc.Authorisation — whose requests reach the wallet.

The event loop never looks at the author of an event: whatever is encrypted to the wallet's published key,
by whomever, is executed. So only the authors of stored connections reach the wallet as long as the other
authors' events fail one of the checks that are made.
-/
import BreezLiquid.Nwc.Footprint

namespace BreezLiquid.Nwc

open Interleaving Tables

variable {n : Nostr}

/-! ## Authors -/

/-- The key is the one derived from the secret of a stored connection. -/
def Authorised (n : Nostr) (nwcUris : Table NwcUri.name) (key : PublicKey) : Prop :=
  ∃ uri ∈ clients n nwcUris, n.publicKey uri.secret = key

instance (n : Nostr) (nwcUris : Table NwcUri.name) (key : PublicKey) :
    Decidable (Authorised n nwcUris key) :=
  inferInstanceAs (Decidable (∃ uri ∈ clients n nwcUris, n.publicKey uri.secret = key))

/-- Whatever was done for an event, its author was authorised when the handler was called. -/
def OnlyAuthorised (n : Nostr) (w : World) : Prop :=
  ∀ effect ∈ w.trace, Authorised n effect.uris effect.event.pubkey

instance (n : Nostr) (w : World) : Decidable (OnlyAuthorised n w) :=
  inferInstanceAs (Decidable (∀ effect ∈ w.trace, Authorised n effect.uris effect.event.pubkey))

/-- The event gets past the checks of `handle_event`, with this request inside. -/
structure Accepted (n : Nostr) (now : Nat) (event : Event) (req : Request) : Prop where
  expiration : ∀ t, event.expiration = some t → t ≤ now
  signed : n.verify event = true
  decrypts : ∃ content, n.decrypt n.ourSecretKey event.pubkey event.content = .ok content ∧
    n.requestFromStr content = some req
  handled : ∀ method, req.params ≠ .other method

theorem acceptedRequest_iff {now : Nat} {event : Event} {req : Request} :
    acceptedRequest n now event = some req ↔ Accepted n now event req := by
  unfold acceptedRequest
  constructor
  · intro h
    split at h
    · cases h
    rename_i hexpiration
    split at h
    · cases h
    rename_i hverify
    split at h
    · cases h
    rename_i content hcontent
    split at h
    · cases h
    rename_i req' hreq
    have hsame : req' = req ∧ ∀ method, req.params ≠ .other method := by
      split at h <;> cases h <;> exact ⟨rfl, by simp_all⟩
    refine ⟨fun t ht => ?_, by simpa using hverify, ⟨content, hcontent, hsame.1 ▸ hreq⟩, hsame.2⟩
    rw [ht] at hexpiration
    simpa using hexpiration
  · rintro ⟨hexpiration, hverify, ⟨content, hcontent, hreq⟩, hhandled⟩
    have hany : event.expiration.any (fun t => decide (now < t)) = false := by
      cases ht : event.expiration with
      | none => rfl
      | some t => simpa using hexpiration t ht
    rw [if_neg (by simp [hany]), if_neg (by simp [hverify])]
    simp only [hcontent, hreq]
    split
    · rfl
    · rfl
    · rfl
    · exact absurd ‹_› (hhandled _)

/-! ## One step -/

/-- Every event the loop takes is rejected by a check, or its author is authorised at that moment. -/
def Vouched (n : Nostr) : Cond World Role
  | .own .eventLoop, w, w' => ∀ event, w.notifications = .event event :: w'.notifications →
      ∀ req, Accepted n w.now event req → Authorised n w.nwcUris event.pubkey
  | _, _, _ => True

/-- An event that gets past the checks reaches the handler, whoever wrote it. -/
theorem takeNotification_accepted {w : World} {event : Event} {notifications : List RelayPoolNotification}
    {req : Request} (hnext : w.notifications = .event event :: notifications)
    (h : Accepted n w.now event req) :
    takeNotification n w =
      { w with notifications, trace := ⟨event, w.nwcUris, .invoked req.params⟩ :: w.trace } := by
  unfold takeNotification
  rw [hnext]
  simp only [acceptedRequest_iff.mpr h]

/-- Without the condition the property is lost at once. -/
theorem onlyAuthorised_take_iff {w : World} (hw : OnlyAuthorised n w) :
    OnlyAuthorised n (takeNotification n w) ↔
      Vouched n (.own .eventLoop) w (takeNotification n w) := by
  constructor
  · intro h event hnext req hreq
    cases hnotifications : w.notifications with
    | nil =>
        rw [hnotifications] at hnext
        cases hnext
    | cons notification notifications =>
        have htake := @takeNotification_accepted n w event notifications req
        rw [hnotifications] at hnext
        obtain ⟨rfl, -⟩ := List.cons.inj hnext
        rw [htake hnotifications hreq] at h
        exact h _ List.mem_cons_self
  · intro h
    cases hnotifications : w.notifications with
    | nil =>
        unfold takeNotification
        rw [hnotifications]
        exact hw
    | cons notification notifications =>
        cases notification with
        | event event =>
            cases hreq : acceptedRequest n w.now event with
            | some req =>
                have haccepted := acceptedRequest_iff.mp hreq
                -- only an accepted request is noted, and the condition is about it
                rw [takeNotification_accepted hnotifications haccepted] at h ⊢
                intro effect heffect
                rcases List.mem_cons.mp heffect with rfl | heffect
                · exact h event hnotifications req haccepted
                · exact hw effect heffect
            | none =>
                unfold takeNotification
                rw [hnotifications]
                simp only [hreq]
                exact hw
        | message =>
            unfold takeNotification
            rw [hnotifications]
            exact hw
        | shutdown =>
            unfold takeNotification
            rw [hnotifications]
            exact hw

/-! ## Whole runs -/

/-- No role needs to know anything about the others. -/
def protocol (n : Nostr) : Protocol World Role :=
  Protocol.uniform (OnlyAuthorised n) (fun _ _ => True) (fun _ => trivial) fun _ _ => trivial

theorem keeps_of_aside {C : Cond World Role} {r : Role} {P : Effect → Prop} {w w' : World}
    (hP : ∀ effect, P effect → Authorised n effect.uris effect.event.pubkey) (h : Aside P w w') :
    Keeps C (protocol n) r w w' := by
  intro hw _
  refine ⟨?_, trivial⟩
  rcases h.trace with htrace | ⟨effect, heffect, htrace⟩
  · intro effect' heffect'
    rw [htrace] at heffect'
    exact hw effect' heffect'
  · intro effect' heffect'
    rw [htrace] at heffect'
    rcases List.mem_cons.mp heffect' with rfl | heffect'
    · exact hP _ heffect
    · exact hw effect' heffect'

/-- A task that notes nothing about events of other authors. -/
theorem safe_of_asides {C : Cond World Role} {r : Role} {P : Effect → Prop} {t : Async Unit}
    (hP : ∀ effect, P effect → Authorised n effect.uris effect.event.pubkey) (h : Asides P t) (w : World) :
    Safe (system n) C (protocol n) r t (fun _ w => (protocol n).idle r w) w := by
  have hbenign : Benign (system n) C (protocol n) r t :=
    h.mono (fun f hf w => keeps_of_aside hP (hf w)) fun q hq a w _ => keeps_of_aside hP (hq a w)
  exact hbenign.safe_of (fun _ _ _ => trivial) fun _ _ _ _ => trivial

/-- The event that is taken is vouched for, so what is done for it is. -/
theorem safe_handleEvent (w : World) :
    Safe (system n) (Vouched n) (protocol n) .eventLoop (handleEvent n)
      (fun _ w => (protocol n).idle .eventLoop w) w := by
  intro w₁ _ hw hvouched
  refine ⟨(onlyAuthorised_take_iff hw).mpr hvouched, trivial, ?_⟩
  dsimp only
  split
  · rename_i event notifications hnext
    split
    · rename_i req hreq
      have haccepted := acceptedRequest_iff.mp hreq
      have hauthorised : Authorised n w₁.nwcUris event.pubkey := by
        refine hvouched event ?_ req haccepted
        rw [takeNotification_accepted hnext haccepted]
        exact hnext
      refine safe_of_asides ?_ (asides_handleRequest event w₁.nwcUris req) _
      rintro effect ⟨rfl, huris, -⟩
      rw [huris]
      exact hauthorised
    · exact fun _ _ _ => trivial
  · exact fun _ _ _ => trivial

theorem sound : Sound (system n) (Vouched n) (protocol n) Coexist where
  compat _ _ _ _ _ _ := trivial
  spawn := by
    intro roles w r t hspawn _ _ _
    refine ⟨coexist_of_spawns hspawn, ?_⟩
    rcases spawned hspawn with ⟨rfl, rfl⟩ | hasides
    · exact safe_handleEvent w
    · exact safe_of_asides (fun _ h => h.elim) hasides w
  abort _ _ _ _ := trivial
  env := by
    intro w w' henv hw _
    refine ⟨?_, fun _ => trivial⟩
    cases henv <;> exact hw

/-- **Only stored connections reach the wallet**, as long as the events of all other authors fail one of the
checks. -/
theorem only_authorised {w : World} (hstart : w.trace = []) {c : Pool World Call Call.Answer Err Role}
    (hrun : Runs (system n) (Vouched n) ⟨w, []⟩ c) : OnlyAuthorised n c.state := by
  have hkept : Kept (system n) (Vouched n) (protocol n) Coexist ⟨w, []⟩ := by
    refine ⟨?_, List.Pairwise.nil, fun e he => absurd he List.not_mem_nil, fun _ _ => trivial⟩
    intro effect heffect
    rw [hstart] at heffect
    exact absurd heffect List.not_mem_nil
  exact (hrun.keep sound hkept).inv

/-! ## A connection of an app, and a stranger -/

/-- A wallet with the key `w`; the payloads stand for themselves. -/
def wallet : Nostr where
  ourSecretKey := "w"
  relays := ["wss://relay.getalbypro.com/breez"]
  publicKey secret := "pub-" ++ secret
  uriText uri := uri.secret
  uriFromStr text := some { publicKey := "pub-w", relays := ["wss://relay.getalbypro.com/breez"], secret := text }
  verify event := event.sig = event.pubkey ++ event.id
  decrypt _ _ content := .ok content
  encrypt _ _ content := .ok content
  requestFromStr
    | "pay_invoice" => some { method := "pay_invoice", params := .payInvoice { invoice := "lnbc1" } }
    | _ => none
  responseText response := some response.resultType

/-- The new connection gets the secret `app`, and everything else succeeds. -/
def answers : Nat → (q : Call) → q.Answer
  | _, .generateSecretKey => "app"
  | _, .subscribe _ => .ok ()
  | _, .payInvoice _ => .ok { preimage := "p" }
  | _, .listTransactions _ => .ok []
  | _, .getBalance => .ok 0
  | _, .sendEvent .. => .ok ()

/-- A request to pay an invoice, addressed to the wallet. -/
def payRequest (author : PublicKey) : Event where
  id := "e"
  pubkey := author
  publicKeys := ["pub-w"]
  content := "pay_invoice"
  sig := author ++ "e"

/-- The connection is stored. -/
def appStored : World := ((addConnectionString wallet "app").run World.effect answers (0, {})).2.2

/-- The event loop has subscribed for it. -/
def appSubscribed : World := ((resubscribe wallet).run World.effect answers (0, appStored)).2.2

/-- The relays send a request of the author. -/
def requested (author : PublicKey) : World :=
  { appSubscribed with notifications := appSubscribed.notifications ++ [.event (payRequest author)] }

/-- The request was handled. -/
def handled (author : PublicKey) : World :=
  ((handleEvent wallet).run World.effect answers (0, requested author)).2.2

/-- All events that are waiting have authorised authors. -/
def allVouched (n : Nostr) (w : World) : Bool :=
  w.notifications.all fun
    | .event event => Authorised n w.nwcUris event.pubkey
    | _ => true

theorem vouched_of_all {n : Nostr} {l : Label Role} {w : World} (h : allVouched n w = true) (w' : World) :
    Vouched n l w w' := by
  unfold Vouched
  split
  · intro event hnext req _
    have hmem : RelayPoolNotification.event event ∈ w.notifications := by
      rw [hnext]
      exact List.mem_cons_self
    exact of_decide_eq_true (List.all_eq_true.mp h _ hmem)
  · trivial

/-- A task before and after whose actions all waiting events have authorised authors. -/
theorem runs_vouched {w : World} {r : Role} {t : Async Unit} (h : Spawns wallet [] w r t)
    (hsteps : t.Steps World.effect answers (fun w _ => allVouched wallet w = true) (0, w))
    (hdone : ∀ w : World, Vouched wallet (.spawn r) w w ∧ Vouched wallet (.finish r) w w) :
    Runs (system wallet) (Vouched wallet) ⟨w, []⟩ ⟨(t.run World.effect answers (0, w)).2.2, []⟩ :=
  runs_spawn (fun _ _ _ => trivial) answers h hdone
    (Task.Steps.mono _ _ hsteps fun _ w' h => vouched_of_all h w')

theorem answered (q : Call) (a : q.Answer) (w : World) : (system wallet).answers q a w := trivial

/-- The app's connection is added and subscribed for. -/
theorem runs_subscribed : Runs (system wallet) .any ⟨{}, []⟩ ⟨appSubscribed, []⟩ :=
  (runs_spawn_any answered answers (Spawns.add [] {} "app")).trans
    (runs_spawn_any answered answers (Spawns.start [] appStored nofun))

/-- An event for the wallet arrives. -/
theorem runs_arrive {C : Cond World Role} (hC : ∀ w w', C .env w w') {w : World} {event : Event}
    (hmem : ⟨["pub-w"], [WALLET_CONNECT_REQUEST]⟩ ∈ w.subscriptions) (hkind : event.kind = WALLET_CONNECT_REQUEST)
    (htag : "pub-w" ∈ event.publicKeys) (tasks : List (Role × Async Unit)) :
    Runs (system wallet) C ⟨w, tasks⟩ ⟨{ w with notifications := w.notifications ++ [.event event] }, tasks⟩ := by
  refine .single ⟨.env, .env (.event _ _ ⟨["pub-w"], [WALLET_CONNECT_REQUEST]⟩ hmem ?_), hC _ _⟩
  exact ⟨by simp [hkind], "pub-w", htag, by simp⟩

/-- The request of the app is paid. -/
theorem only_authorised_app : OnlyAuthorised wallet (handled "pub-app") ∧ (handled "pub-app").trace.length = 3 := by
  refine ⟨?_, by decide +kernel⟩
  have hadd := runs_vouched (.add [] {} "app") (by decide +kernel) fun _ => ⟨trivial, trivial⟩
  have hstart := runs_vouched (.start [] appStored nofun) (by decide +kernel) fun _ => ⟨trivial, trivial⟩
  have hsend : Runs (system wallet) (Vouched wallet) ⟨appSubscribed, []⟩ ⟨requested "pub-app", []⟩ :=
    runs_arrive (fun _ _ => trivial) (by decide +kernel) rfl (by decide) []
  have hevent := runs_vouched (.event [] (requested "pub-app") nofun) (by decide +kernel)
    fun _ => ⟨trivial, trivial⟩
  exact only_authorised rfl ((hadd.trans hstart).trans (hsend.trans hevent))

/-- So is the request of a stranger. -/
theorem only_authorised_stranger : ¬ ∀ (n : Nostr) (w : World), w.trace = [] →
    ∀ c : Pool World Call Call.Answer Err Role, Runs (system n) .any ⟨w, []⟩ c →
      OnlyAuthorised n c.state := by
  intro h
  have hsend : Runs (system wallet) .any ⟨appSubscribed, []⟩ ⟨requested "pub-stranger", []⟩ :=
    runs_arrive (fun _ _ => trivial) (by decide +kernel) rfl (by decide) []
  have hevent := runs_spawn_any answered answers (Spawns.event [] (requested "pub-stranger") nofun)
  have hpaid := h wallet {} rfl _ (runs_subscribed.trans (hsend.trans hevent))
  exact absurd hpaid (by decide +kernel)

end BreezLiquid.Nwc
