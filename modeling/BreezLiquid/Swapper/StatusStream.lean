/-
# BreezLiquid.Swapper.StatusStream — subscriptions on the swapper's status stream.

Requests to subscribe go through a broadcast channel to the task that holds the websocket. After every
connection this task itself fills the channel with the ongoing swaps and the BOLT12 offers, and only then
starts to read it, while other tasks send requests at any time. A request is lost when it is pushed out of the
full channel; as long as none is, everything that was listed or requested is subscribed once the channel is
drained.
-/
import Mathlib.Logic.Relation
import BreezLiquid.Lib.Broadcast
import BreezLiquid.Persist.Swaps

namespace BreezLiquid

open Broadcast

/-! ## What is listed -/

namespace Db

def listOngoingSendSwaps (db : Db) : List SendSwap := db.listSendSwapsByState [.created, .pending]

def listOngoingChainSwaps (db : Db) : List ChainSwap :=
  db.listChainSwapsByState [.created, .pending, .waitingFeeAcceptance]

def listOngoingSwaps (db : Db) : List Swap :=
  db.listOngoingSendSwaps.map .send ++ db.listOngoingReceiveSwaps.map .receive ++
    db.listOngoingChainSwaps.map .chain

def listBolt12Offers (db : Db) : List Bolt12Offer := db.bolt12Offers.rows

end Db

namespace Swapper

/-! ## Requests -/

structure InvoiceRequestParams where
  offer : String
  signature : String
  deriving DecidableEq, Repr

inductive SubscribeRequest where
  | swapUpdate (args : List SwapId)
  | invoiceRequest (args : List InvoiceRequestParams)
  deriving DecidableEq, Repr

/-- The requests that go through the channel. -/
inductive WsRequest where
  | subscribe (request : SubscribeRequest)
  | invoice (id invoice : String)
  | invoiceError (id error : String)
  deriving DecidableEq, Repr

/-- The first of the arguments, by which a subscription is tracked. -/
def SubscribeRequest.id : SubscribeRequest → Option String
  | swapUpdate args => args.head?
  | invoiceRequest args => args.head?.map InvoiceRequestParams.offer

/-- What the request subscribes to. -/
def WsRequest.subscribedId : WsRequest → Option String
  | subscribe request => request.id
  | _ => none

/-- `broadcast::channel::<WsRequest>(30)`: the buffer has the next power of two. -/
def REQUEST_CAPACITY : Nat := 32

abbrev RequestStream := Receiver WsRequest REQUEST_CAPACITY

/-! ## The task of the stream -/

/-- Where the task is. -/
inductive Phase where
  | idle
  | connecting
  | trackSwaps (swapIds : List SwapId)
  | trackOffers (offers : List Bolt12Offer)
  | looping
  | closing
  deriving DecidableEq, Repr

/-- `requests` is what the websocket was sent. `listed` is a history variable: the ids that were listed or
requested since the request stream was opened. -/
structure StatusStream where
  requestStream : Option RequestStream := none
  phase : Phase := .idle
  trackedIds : List String := []
  requests : List WsRequest := []
  listed : List String := []

namespace StatusStream

/-- `request_notifier.send`: without a receiver, there is an error, and the message is gone. -/
def send (m : WsRequest) (s : StatusStream) : StatusStream :=
  match s.requestStream with
  | none => s
  | some r => { s with requestStream := some (r.push m), listed := m.subscribedId.toList ++ s.listed }

/-- A request from the channel is sent to the websocket, a subscription only once. `sends` is whether the
websocket takes it; a failure is only logged. -/
def handleRequest (sends : Bool) (m : WsRequest) (s : StatusStream) : StatusStream :=
  match m with
  | .subscribe request =>
      match request.id with
      | some id =>
          if s.trackedIds.contains id then s
          else
            { s with
              requests := if sends then m :: s.requests else s.requests
              trackedIds := id :: s.trackedIds }
      | none => s
  | _ => { s with requests := if sends then m :: s.requests else s.requests }

end StatusStream

/-- A step of the stream's task, or a request by another task. Pings and the messages from the websocket
change nothing here. -/
inductive Action where
  | subscribe
  | connectFailed
  | connected (db : Db)
  | trackSwap
  | listOffers (db : Db)
  | trackOffer
  | tracked
  | recv (sends : Bool)
  | close
  | restart
  | request (m : WsRequest)

section Steps

-- the signature of the hash of `SUBSCRIBE` under the key of an offer, if the key can be decoded
variable (sign : Bolt12Offer → Option String)

def trackSwapId (swapId : SwapId) : WsRequest := .subscribe (.swapUpdate [swapId])

def trackOffer (offer signature : String) : WsRequest := .subscribe (.invoiceRequest [{ offer, signature }])

open StatusStream

def step (s : StatusStream) : Action → Option StatusStream
  | .subscribe =>
      match s.phase with
      | .idle => some { requestStream := some {}, phase := .connecting }
      | _ => none
  | .connectFailed =>
      match s.phase with
      | .connecting => some { s with requestStream := none, phase := .idle }
      | _ => none
  | .connected db =>
      match s.phase with
      | .connecting =>
          let swapIds := db.listOngoingSwaps.map Swap.id
          some { s with phase := .trackSwaps swapIds, listed := swapIds ++ s.listed }
      | _ => none
  | .trackSwap =>
      match s.phase with
      | .trackSwaps (swapId :: swapIds) => some { s.send (trackSwapId swapId) with phase := .trackSwaps swapIds }
      | _ => none
  | .listOffers db =>
      match s.phase with
      | .trackSwaps [] =>
          let offers := db.listBolt12Offers
          some { s with phase := .trackOffers offers, listed := offers.map Bolt12Offer.id ++ s.listed }
      | _ => none
  | .trackOffer =>
      match s.phase with
      | .trackOffers (offer :: offers) =>
          match sign offer with
          | some signature => some { s.send (trackOffer offer.id signature) with phase := .trackOffers offers }
          | none => some { s with phase := .trackOffers offers }
      | _ => none
  | .tracked =>
      match s.phase with
      | .trackOffers [] => some { s with phase := .looping }
      | _ => none
  | .recv sends =>
      match s.phase, s.requestStream with
      | .looping, some r =>
          match r.recv with
          | (.empty, _) => none
          | (.lagged _, r) => some { s with requestStream := some r }
          | (.message m, r) => some (handleRequest sends m { s with requestStream := some r })
      | _, _ => none
  | .close =>
      match s.phase with
      | .looping => some { s with phase := .closing }
      | _ => none
  | .restart =>
      match s.phase with
      | .closing => some { s with requestStream := none, phase := .idle }
      | _ => none
  | .request m => some (s.send m)

/-! ## Nothing is lost -/

/-- Everything listed or requested is subscribed once the channel is drained. -/
def Subscribed (s : StatusStream) : Prop :=
  s.phase = .looping → (∀ r, s.requestStream = some r → r.Drained) →
    ∀ id ∈ s.listed, ∃ m ∈ s.requests, m.subscribedId = some id

/-- Sending does not push out the last request for an id that is not tracked yet. -/
def KeepsUp (s : StatusStream) (m : WsRequest) : Prop :=
  ∀ r, s.requestStream = some r → ∀ x, r.Loses x → ∀ id, x.subscribedId = some id →
    id ∈ s.trackedIds ∨ ∃ m' ∈ (r.push m).unread, m'.subscribedId = some id

/-- The channel keeps up with what is sent, the keys of the offers can be decoded, and the websocket takes what
it is sent. -/
def Careful (s : StatusStream) : Action → Prop
  | .trackSwap => ∀ swapId swapIds, s.phase = .trackSwaps (swapId :: swapIds) → KeepsUp s (trackSwapId swapId)
  | .trackOffer => ∀ offer offers, s.phase = .trackOffers (offer :: offers) →
      ∃ signature, sign offer = some signature ∧ KeepsUp s (trackOffer offer.id signature)
  | .recv sends => sends = true
  | .request m => KeepsUp s m
  | _ => True

/-- The states of runs whose steps are all careful. -/
abbrev Reaches : StatusStream → StatusStream → Prop :=
  Relation.ReflTransGen fun s s' => ∃ action, Careful sign s action ∧ step sign s action = some s'

end Steps

/-! ## The invariant -/

/-- What is still to be requested by `track_subscriptions`. -/
def Phase.pending : Phase → List String
  | trackSwaps swapIds => swapIds
  | trackOffers offers => offers.map Bolt12Offer.id
  | _ => []

/-- Every id is tracked, has an unread request, or is among the pending ones. -/
def Covered (s : StatusStream) (pending : List String) : Prop :=
  ∀ r, s.requestStream = some r → ∀ id ∈ s.listed,
    id ∈ s.trackedIds ∨ (∃ m ∈ r.unread, m.subscribedId = some id) ∨ id ∈ pending

structure Inv (s : StatusStream) : Prop where
  isOpen : s.phase ≠ .idle → s.requestStream.isSome
  tracked : ∀ id ∈ s.trackedIds, ∃ m ∈ s.requests, m.subscribedId = some id
  covered : Covered s s.phase.pending

section Send

variable {s : StatusStream} {m : WsRequest} {pending : List String}

/-- Sending fills the channel and the stream, nothing else. -/
@[simp] theorem send_phase : (s.send m).phase = s.phase := by
  unfold StatusStream.send
  split <;> rfl

@[simp] theorem send_trackedIds : (s.send m).trackedIds = s.trackedIds := by
  unfold StatusStream.send
  split <;> rfl

@[simp] theorem send_requests : (s.send m).requests = s.requests := by
  unfold StatusStream.send
  split <;> rfl

/-- A sent request does not connect anything. -/
theorem send_isSome : (s.send m).requestStream.isSome = s.requestStream.isSome := by
  unfold StatusStream.send
  cases hr : s.requestStream with
  | none => simp [hr]
  | some r => rfl

/-- A request that keeps up leaves everything covered, and covers its own id. -/
theorem Covered.send (h : Covered s (m.subscribedId.toList ++ pending)) (hkeeps : KeepsUp s m) :
    Covered (s.send m) pending := by
  unfold StatusStream.send
  cases hr : s.requestStream with
  | none =>
      intro r hr'
      rw [hr] at hr'
      cases hr'
  | some r =>
      intro r' hr' id hid
      cases hr'
      have hown : ∀ id, m.subscribedId = some id → ∃ m' ∈ (r.push m).unread, m'.subscribedId = some id :=
        fun id hm => ⟨m, Receiver.self_mem_push (by decide) m r, hm⟩
      rcases List.mem_append.mp hid with hid | hid
      · exact .inr (.inl (hown id (Option.mem_toList.mp hid)))
      · rcases h r hr id hid with htracked | ⟨x, hx, hxid⟩ | hpending
        · exact .inl htracked
        · rcases Receiver.mem_push hx with hx | hloses
          · exact .inr (.inl ⟨x, hx, hxid⟩)
          · rcases hkeeps r hr x hloses id hxid with htracked | hlater
            · exact .inl htracked
            · exact .inr (.inl hlater)
        · rcases List.mem_append.mp hpending with hpending | hpending
          · exact .inr (.inl (hown id (Option.mem_toList.mp hpending)))
          · exact .inr (.inr hpending)

/-- More may be pending. -/
theorem Covered.mono {pending' : List String} (h : Covered s pending) (hsub : ∀ id ∈ pending, id ∈ pending') :
    Covered s pending' := by
  intro r hr id hid
  rcases h r hr id hid with htracked | hunread | hpending
  · exact .inl htracked
  · exact .inr (.inl hunread)
  · exact .inr (.inr (hsub id hpending))

end Send

/-- A request that the websocket takes is tracked from then on. -/
theorem handleRequest_inv {s : StatusStream} {m : WsRequest}
    (htracked : ∀ id ∈ s.trackedIds, ∃ m ∈ s.requests, m.subscribedId = some id) :
    let s' := s.handleRequest true m
    s'.requestStream = s.requestStream ∧ s'.phase = s.phase ∧ s'.listed = s.listed ∧
      (∀ id ∈ s.trackedIds, id ∈ s'.trackedIds) ∧ (∀ id, m.subscribedId = some id → id ∈ s'.trackedIds) ∧
      ∀ id ∈ s'.trackedIds, ∃ m ∈ s'.requests, m.subscribedId = some id := by
  cases m with
  | subscribe request =>
      cases hid : request.id with
      | none =>
          have hsame : s.handleRequest true (.subscribe request) = s := by
            simp [StatusStream.handleRequest, hid]
          intro s'
          rw [show s' = s from hsame]
          refine ⟨rfl, rfl, rfl, fun _ h => h, fun id hsubscribed => ?_, htracked⟩
          rw [show request.id = some id from hsubscribed] at hid
          cases hid
      | some id =>
          by_cases hknown : s.trackedIds.contains id = true
          · have hsame : s.handleRequest true (.subscribe request) = s := by
              simp only [StatusStream.handleRequest, hid, hknown, if_true]
            intro s'
            rw [show s' = s from hsame]
            refine ⟨rfl, rfl, rfl, fun _ h => h, fun id' hsubscribed => ?_, htracked⟩
            rw [show request.id = some id' from hsubscribed] at hid
            cases hid
            exact List.contains_iff_mem.mp hknown
          · have hsent : s.handleRequest true (.subscribe request) =
                { s with requests := .subscribe request :: s.requests, trackedIds := id :: s.trackedIds } := by
              simp only [StatusStream.handleRequest, hid, hknown, if_true, if_false, Bool.false_eq_true]
            intro s'
            rw [show s' = _ from hsent]
            refine ⟨rfl, rfl, rfl, fun _ h => List.mem_cons_of_mem _ h, fun id' hsubscribed => ?_, ?_⟩
            · rw [show request.id = some id' from hsubscribed] at hid
              cases hid
              exact List.mem_cons_self
            · intro id' hid'
              rcases List.mem_cons.mp hid' with rfl | hid'
              · exact ⟨.subscribe request, List.mem_cons_self, hid⟩
              · obtain ⟨m, hm, hmid⟩ := htracked id' hid'
                exact ⟨m, List.mem_cons_of_mem _ hm, hmid⟩
  | invoice id invoice =>
      refine ⟨rfl, rfl, rfl, fun _ h => h, nofun, fun id hid => ?_⟩
      obtain ⟨m, hm, hmid⟩ := htracked id hid
      exact ⟨m, List.mem_cons_of_mem _ hm, hmid⟩
  | invoiceError id error =>
      refine ⟨rfl, rfl, rfl, fun _ h => h, nofun, fun id hid => ?_⟩
      obtain ⟨m, hm, hmid⟩ := htracked id hid
      exact ⟨m, List.mem_cons_of_mem _ hm, hmid⟩

/-! ## What keeps the invariant -/

section Inv

variable {s : StatusStream} {phase : Phase}

/-- Going on to a phase with the same ids pending. -/
theorem Inv.enter (hi : Inv s) (hbusy : s.phase ≠ .idle) (hpending : phase.pending = s.phase.pending) :
    Inv { s with phase } := by
  obtain ⟨hopen, htracked, hcovered⟩ := hi
  refine ⟨fun _ => hopen hbusy, htracked, ?_⟩
  show Covered s phase.pending
  rw [hpending]
  exact hcovered

/-- Listing ids when none is pending: from now on these are. -/
theorem Inv.list (hi : Inv s) (hbusy : s.phase ≠ .idle) (hnone : s.phase.pending = []) (ids : List String)
    (hpending : phase.pending = ids) : Inv { s with phase, listed := ids ++ s.listed } := by
  obtain ⟨hopen, htracked, hcovered⟩ := hi
  rw [hnone] at hcovered
  refine ⟨fun _ => hopen hbusy, htracked, ?_⟩
  intro r hr id hid
  rcases List.mem_append.mp hid with hnew | hold
  · exact .inr (.inr (hpending ▸ hnew))
  · exact (hcovered.mono fun _ hid => absurd hid List.not_mem_nil) r hr id hold

/-- Requesting the next pending id: its request is unread now, so it is covered without being pending. -/
theorem Inv.track {m : WsRequest} (hi : Inv s) (hbusy : s.phase ≠ .idle)
    (hpending : s.phase.pending = m.subscribedId.toList ++ phase.pending) (hkeeps : KeepsUp s m) :
    Inv { s.send m with phase } := by
  obtain ⟨hopen, htracked, hcovered⟩ := hi
  rw [hpending] at hcovered
  refine ⟨fun _ => ?_, ?_, Covered.send hcovered hkeeps⟩
  · show (s.send m).requestStream.isSome
    rw [send_isSome]
    exact hopen hbusy
  · show ∀ id ∈ (s.send m).trackedIds, ∃ m' ∈ (s.send m).requests, _
    rw [send_trackedIds, send_requests]
    exact htracked

/-- A request by another task leaves the pending ids pending. -/
theorem Inv.request {m : WsRequest} (hi : Inv s) (hkeeps : KeepsUp s m) : Inv (s.send m) := by
  obtain ⟨hopen, htracked, hcovered⟩ := hi
  refine ⟨?_, ?_, ?_⟩
  · rw [send_phase, send_isSome]
    exact hopen
  · rw [send_trackedIds, send_requests]
    exact htracked
  · rw [send_phase]
    exact Covered.send (hcovered.mono fun id hid => List.mem_append_right _ hid) hkeeps

variable {r r' : RequestStream}

/-- What was missed is not unread: nothing changes for what is. -/
theorem Inv.lagged {missed : Nat} (hi : Inv s) (hlooping : s.phase = .looping) (hr : s.requestStream = some r)
    (hrecv : r.recv = (.lagged missed, r')) : Inv { s with requestStream := some r' } := by
  obtain ⟨-, htracked, hcovered⟩ := hi
  rw [hlooping] at hcovered
  refine ⟨fun _ => rfl, htracked, ?_⟩
  intro r'' hr'' id hid
  cases hr''
  rcases hcovered r hr id hid with htracked | ⟨x, hx, hxid⟩ | hpending
  · exact .inl htracked
  · have hread := Receiver.mem_recv hx
    rw [hrecv] at hread
    rcases hread with hx | hx
    · exact .inr (.inl ⟨x, hx, hxid⟩)
    · cases hx
  · cases hpending

/-- The message that is received is either still covered by another, or tracked once it is handled. -/
theorem Inv.message {m : WsRequest} (hi : Inv s) (hlooping : s.phase = .looping) (hr : s.requestStream = some r)
    (hrecv : r.recv = (.message m, r')) :
    Inv (StatusStream.handleRequest true m { s with requestStream := some r' }) := by
  obtain ⟨-, htracked, hcovered⟩ := hi
  rw [hlooping] at hcovered
  obtain ⟨hstream, -, hlisted, hkept, hown, htracked'⟩ :=
    handleRequest_inv (s := { s with requestStream := some r' }) (m := m) htracked
  refine ⟨fun _ => by rw [hstream]; rfl, htracked', ?_⟩
  intro r'' hr'' id hid
  rw [hstream] at hr''
  cases hr''
  rw [hlisted] at hid
  rcases hcovered r hr id hid with htracked | ⟨x, hx, hxid⟩ | hpending
  · exact .inl (hkept id htracked)
  · have hread := Receiver.mem_recv hx
    rw [hrecv] at hread
    rcases hread with hx | hx
    · exact .inr (.inl ⟨x, hx, hxid⟩)
    · cases hx
      exact .inl (hown id hxid)
  · cases hpending

end Inv

variable {sign : Bolt12Offer → Option String}

/-- **One step.** Every careful step keeps the invariant: by cases on what the loop or a caller does. -/
theorem step_inv {s s' : StatusStream} {action : Action} (h : step sign s action = some s')
    (hcareful : Careful sign s action) (hi : Inv s) : Inv s' := by
  cases action with
  | subscribe =>
      simp only [step] at h
      split at h
      · cases h
        refine ⟨fun _ => rfl, fun _ hid => (List.not_mem_nil hid).elim, ?_⟩
        rintro r - id hid
        cases hid
      · cases h
  | connectFailed =>
      simp only [step] at h
      split at h
      · cases h
        -- without a channel there is nothing to cover
        exact ⟨fun hne => absurd rfl hne, hi.tracked, fun _ hr => by cases hr⟩
      · cases h
  | connected db =>
      simp only [step] at h
      split at h
      · rename_i hphase
        cases h
        exact hi.list (by rw [hphase]; decide) (by rw [hphase]; rfl) _ rfl
      · cases h
  | trackSwap =>
      simp only [step] at h
      split at h
      · rename_i swapId swapIds hphase
        cases h
        exact hi.track (by rw [hphase]; intro h; cases h) (by rw [hphase]; rfl) (hcareful swapId swapIds hphase)
      · cases h
  | listOffers db =>
      simp only [step] at h
      split at h
      · rename_i hphase
        cases h
        exact hi.list (by rw [hphase]; intro h; cases h) (by rw [hphase]; rfl) _ rfl
      · cases h
  | trackOffer =>
      simp only [step] at h
      split at h
      · rename_i offer offers hphase
        -- a careful step has a signature, so the offer is not skipped
        obtain ⟨signature, hsign, hkeeps⟩ := hcareful offer offers hphase
        rw [hsign] at h
        cases h
        exact hi.track (by rw [hphase]; intro h; cases h) (by rw [hphase]; rfl) hkeeps
      · cases h
  | tracked =>
      simp only [step] at h
      split at h
      · rename_i hphase
        cases h
        exact hi.enter (by rw [hphase]; intro h; cases h) (by rw [hphase]; rfl)
      · cases h
  | recv sends =>
      -- the websocket takes the request
      cases hcareful
      simp only [step] at h
      split at h
      · rename_i r hphase hr
        split at h
        · cases h
        · rename_i missed r' hrecv
          cases h
          exact hi.lagged hphase hr hrecv
        · rename_i m r' hrecv
          cases h
          exact hi.message hphase hr hrecv
      · cases h
  | close =>
      simp only [step] at h
      split at h
      · rename_i hphase
        cases h
        exact hi.enter (by rw [hphase]; decide) (by rw [hphase]; rfl)
      · cases h
  | restart =>
      simp only [step] at h
      split at h
      · cases h
        exact ⟨fun hne => absurd rfl hne, hi.tracked, fun _ hr => by cases hr⟩
      · cases h
  | request m =>
      cases h
      exact hi.request hcareful

/-- **All runs.** So it holds of every state that careful steps reach. -/
theorem reaches_inv {s : StatusStream} (h : Reaches sign {} s) : Inv s := by
  induction h with
  | refl =>
      refine ⟨fun h => absurd rfl h, nofun, nofun⟩
  | tail _ hstep ih =>
      obtain ⟨action, hcareful, hstep⟩ := hstep
      exact step_inv hstep hcareful ih

/-- In every run whose steps are careful, whatever was listed or requested is subscribed as soon as the channel
is drained. -/
theorem reaches_subscribed (sign : Bolt12Offer → Option String) (s : StatusStream) (h : Reaches sign {} s) :
    Subscribed s := by
  have hi := reaches_inv h
  intro hphase hdrained id hid
  obtain ⟨r, hr⟩ := Option.isSome_iff_exists.mp (hi.isOpen (by rw [hphase]; decide))
  rcases hi.covered r hr id hid with htracked | ⟨m, hm, -⟩ | hpending
  · exact hi.tracked id htracked
  · rw [(hdrained r hr).2] at hm
    cases hm
  · rw [hphase] at hpending
    cases hpending

/-! ## More swaps than the channel holds -/

/-- The states of all runs. -/
abbrev Runs (sign : Bolt12Offer → Option String) : StatusStream → StatusStream → Prop :=
  Relation.ReflTransGen fun s s' => ∃ action, step sign s action = some s'

/-- A list of actions that can be taken is a run. -/
theorem runs_of_foldlM {actions : List Action} {s s' : StatusStream}
    (h : actions.foldlM (step sign) s = some s') : Runs sign s s' := by
  induction actions generalizing s with
  | nil =>
      cases h
      exact .refl
  | cons action actions ih =>
      rw [List.foldlM_cons] at h
      obtain ⟨s₁, hstep, hrest⟩ := Option.bind_eq_some_iff.mp h
      exact .head ⟨action, hstep⟩ (ih hrest)

/-- The channel takes another request. -/
def hasRoom (s : StatusStream) : Bool := s.requestStream.all fun r => r.unread.length < REQUEST_CAPACITY

/-- With room in the channel nothing is dropped. -/
theorem keepsUp_of_hasRoom {s : StatusStream} (h : hasRoom s = true) (m : WsRequest) : KeepsUp s m := by
  intro r hr x hloses
  unfold hasRoom at h
  rw [hr] at h
  have hlt : r.unread.length < REQUEST_CAPACITY := of_decide_eq_true h
  exact absurd hloses.1 (Nat.not_le.mpr hlt)

/-- There is room in the channel, the next offer is signed, and the websocket takes what it is sent. -/
def roomy (sign : Bolt12Offer → Option String) (s : StatusStream) : Action → Bool
  | .recv sends => sends
  | .trackOffer =>
      hasRoom s && match s.phase with
        | .trackOffers (offer :: _) => (sign offer).isSome
        | _ => true
  | _ => hasRoom s

theorem careful_of_roomy {s : StatusStream} {action : Action} (h : roomy sign s action = true) :
    Careful sign s action := by
  have hkeeps := fun (hroom : hasRoom s = true) => keepsUp_of_hasRoom hroom
  cases action with
  | trackSwap => exact fun swapId _ _ => hkeeps h _
  | trackOffer =>
      unfold roomy at h
      rw [Bool.and_eq_true] at h
      rintro offer offers hphase
      rw [hphase] at h
      obtain ⟨signature, hsignature⟩ := Option.isSome_iff_exists.mp h.2
      exact ⟨signature, hsignature, hkeeps h.1 _⟩
  | recv sends => exact h
  | request m => exact hkeeps h m
  | _ => trivial

/-- A run that always leaves room is careful. -/
theorem reaches_of_roomy {actions : List Action} {s s' : StatusStream}
    (h : actions.foldlM (fun s action => if roomy sign s action then step sign s action else none) s = some s') :
    Reaches sign s s' := by
  induction actions generalizing s with
  | nil =>
      cases h
      exact .refl
  | cons action actions ih =>
      rw [List.foldlM_cons] at h
      obtain ⟨s₁, hstep, hrest⟩ := Option.bind_eq_some_iff.mp h
      split at hstep
      · rename_i hroomy
        exact .head ⟨action, careful_of_roomy hroomy, hstep⟩ (ih hrest)
      · cases hstep

def ongoingDb (swapIds offerIds : List String) : Db where
  sendSwaps := swapIds.foldl (fun t id => t.insertNew { id, invoice := id }) ∅
  bolt12Offers := offerIds.foldl (fun t id => t.insertNew { id, description := "offer", privateKey := "key" }) ∅

def signed (offer : Bolt12Offer) : Option String := some offer.privateKey

/-- Connect with the ongoing swaps and the offers, track them, and receive all of their requests. -/
def connection (swapIds offerIds : List String) : List Action :=
  [.subscribe, .connected (ongoingDb swapIds offerIds)] ++ swapIds.map (fun _ => .trackSwap) ++
    [.listOffers (ongoingDb swapIds offerIds)] ++ offerIds.map (fun _ => .trackOffer) ++ [.tracked] ++
    (swapIds ++ offerIds).map fun _ => .recv true

/-- A connection with a swap and an offer; a request for another swap; the connection is lost, and there is a new
one, with a further request. -/
def reconnection : List Action :=
  connection ["a"] ["o"] ++ [.request (trackSwapId "b"), .recv true, .close, .restart] ++
    connection ["a", "b"] ["o"] ++ [.request (trackSwapId "c"), .recv true]

/-- The stream is drained, and the swap is listed. -/
def settled (swapId : SwapId) (s : StatusStream) : Bool :=
  s.phase == .looping && (s.requestStream.all fun r => decide r.Drained) && s.listed.contains swapId

/-- Once nothing is pending, what is subscribed was requested from the server. -/
theorem Subscribed.of_settled {swapId : SwapId} {s : StatusStream} (h : Subscribed s)
    (hsettled : settled swapId s = true) : ∃ m ∈ s.requests, m.subscribedId = some swapId := by
  simp only [settled, Bool.and_eq_true, beq_iff_eq] at hsettled
  obtain ⟨⟨hphase, hdrained⟩, hlisted⟩ := hsettled
  refine h hphase (fun r hr => ?_) swapId (List.contains_iff_mem.mp hlisted)
  rw [hr] at hdrained
  exact of_decide_eq_true hdrained

/-- After the reconnection the ongoing swaps, the offer and the swap of the later request are subscribed. -/
theorem reaches_subscribed_reconnection : ∃ s, Reaches signed {} s ∧
    ∀ id ∈ ["a", "b", "o", "c"], settled id s = true ∧ ∃ m ∈ s.requests, m.subscribedId = some id := by
  have hrun : ((reconnection.foldlM (fun s action =>
      if roomy signed s action then step signed s action else none) {}).any fun s =>
        ["a", "b", "o", "c"].all fun id => settled id s) = true := by
    decide +kernel
  obtain ⟨s, hs, hsettled⟩ := (Option.any_eq_true ..).mp hrun
  rw [List.all_eq_true] at hsettled
  have hreaches := reaches_of_roomy hs
  refine ⟨s, hreaches, fun id hid => ⟨hsettled id hid, ?_⟩⟩
  exact (reaches_subscribed signed s hreaches).of_settled (hsettled id hid)

def manyIds : List SwapId :=
  ["00", "01", "02", "03", "04", "05", "06", "07", "08", "09", "10", "11", "12", "13", "14", "15", "16", "17",
    "18", "19", "20", "21", "22", "23", "24", "25", "26", "27", "28", "29", "30", "31", "32"]

/-- Of 33 ongoing swaps, the one that was listed first is never subscribed. -/
theorem reaches_subscribed_many :
    ¬ ∀ (sign : Bolt12Offer → Option String) (s : StatusStream), Runs sign {} s → Subscribed s := by
  intro h
  have hrun : (((connection manyIds []).foldlM (step signed) {}).any fun s =>
      settled "00" s && !(s.requests.any fun m => m.subscribedId == some "00")) = true := by
    decide +kernel
  obtain ⟨s, hs, hmissing⟩ := (Option.any_eq_true ..).mp hrun
  rw [Bool.and_eq_true] at hmissing
  obtain ⟨m, hm, hid⟩ := (h signed s (runs_of_foldlM hs)).of_settled hmissing.1
  have hany : (s.requests.any fun m => m.subscribedId == some "00") = true :=
    List.any_eq_true.mpr ⟨m, hm, beq_iff_eq.mpr hid⟩
  rw [hany] at hmissing
  cases hmissing.2

end Swapper

end BreezLiquid
