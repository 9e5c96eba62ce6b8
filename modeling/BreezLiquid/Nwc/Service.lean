/-
# BreezLiquid.Nwc.Service — the Nostr Wallet Connect plugin.

A connection is a URI with a secret, stored under a name. The service subscribes at its relays to requests
that are tagged with the public keys of the stored URIs, and its event loop hands the requests it receives to
the wallet. Connections may be added and removed at any await point of the loop.

Keys, signatures and encryption are those of the Nostr library, parameters here.
-/
import BreezLiquid.Lib.Pool
import BreezLiquid.Lib.Table
import BreezLiquid.Model.Types

namespace BreezLiquid.Nwc

open Interleaving Tables

abbrev SecretKey := String
abbrev PublicKey := String

/-! ## Requests and their answers -/

/-- The request to pay an invoice, as a client sends it. -/
structure PayInvoiceRequest where
  invoice : String
  /-- In millisatoshis. -/
  amount : Option Nat := none
  deriving DecidableEq, Repr

/-- The request for the transactions in a window of time. -/
structure ListTransactionsRequest where
  fromTime : Option Nat := none
  untilTime : Option Nat := none
  limit : Option Nat := none
  offset : Option Nat := none
  unpaid : Option Bool := none
  incoming : Option Bool := none
  deriving DecidableEq, Repr

/-- `RequestParams`; the other methods of the protocol are not handled. -/
inductive RequestParams where
  | payInvoice (req : PayInvoiceRequest)
  | listTransactions (req : ListTransactionsRequest)
  | getBalance
  | other (method : String)
  deriving DecidableEq, Repr

/-- A decrypted request: its method, and what it asks for. -/
structure Request where
  method : String
  params : RequestParams
  deriving DecidableEq, Repr

/-- The error codes the client is told. -/
inductive ErrorCode where
  | paymentFailed
  | internal
  | other
  deriving DecidableEq, Repr

/-- An error of the protocol, which becomes part of the response. -/
structure Nip47Error where
  code : ErrorCode
  message : String
  deriving DecidableEq, Repr

structure PayInvoiceResponse where
  preimage : String
  feesPaid : Option Nat := none
  deriving DecidableEq, Repr

/-- A transaction is kept as its JSON text. -/
inductive ResponseResult where
  | payInvoice (res : PayInvoiceResponse)
  | listTransactions (res : List String)
  | getBalance (balance : Nat)
  deriving DecidableEq, Repr

/-- A response has a result or an error. -/
structure Response where
  resultType : String
  result : Option ResponseResult
  error : Option Nip47Error
  deriving DecidableEq, Repr

/-- What the local application is told of a request. -/
inductive NwcEventDetails where
  | payInvoice (success : Bool) (preimage : Option String) (feesSat : Option Nat) (error : Option String)
  | listTransactions
  | getBalance
  deriving DecidableEq, Repr

/-- The event for the local application. -/
structure NwcEvent where
  details : NwcEventDetails
  eventId : Option String
  deriving DecidableEq, Repr

/-! ## Relay events -/

/-- `Kind::WalletConnectRequest`. -/
def WALLET_CONNECT_REQUEST : Nat := 23194

/-- A signed event; `publicKeys` are its `p` tags, `expiration` its expiration tag. -/
structure Event where
  id : String
  pubkey : PublicKey
  kind : Nat := WALLET_CONNECT_REQUEST
  publicKeys : List PublicKey := []
  expiration : Option Nat := none
  content : String
  sig : String := ""
  deriving DecidableEq, Repr

/-- What the relays hand to the event loop. -/
inductive RelayPoolNotification where
  | event (event : Event)
  | message
  | shutdown
  deriving DecidableEq, Repr

/-- What `resubscribe` asks the relays for. -/
structure Filter where
  publicKeys : List PublicKey
  kinds : List Nat
  deriving DecidableEq, Repr

/-- A relay delivers the events that match a filter. -/
def Filter.Matches (filter : Filter) (event : Event) : Prop :=
  event.kind ∈ filter.kinds ∧ ∃ key ∈ event.publicKeys, key ∈ filter.publicKeys

/-- `NostrWalletConnectURI`: the wallet's public key, and the secret of the client. -/
structure NostrWalletConnectURI where
  publicKey : PublicKey
  relays : List String
  secret : SecretKey
  deriving DecidableEq, Repr

/-- The Nostr library, with the secret key and the relays of this service. -/
structure Nostr where
  ourSecretKey : SecretKey
  relays : List String
  publicKey : SecretKey → PublicKey
  uriText : NostrWalletConnectURI → String
  uriFromStr : String → Option NostrWalletConnectURI
  verify : Event → Bool
  decrypt : SecretKey → PublicKey → String → Except Err String
  encrypt : SecretKey → PublicKey → String → Except Err String
  requestFromStr : String → Option Request
  responseText : Response → Option String

/-- A row of the stored `nwc_uris`. -/
structure NwcUri where
  name : String
  uri : String
  deriving DecidableEq, Repr

/-! ## The state of the service -/

/-- What a request had the service do. -/
inductive EffectKind where
  /-- The wallet handler was called. -/
  | invoked (params : RequestParams)
  | notified (event : NwcEvent)
  | answered (content : String)
  deriving DecidableEq, Repr

/-- What was done for an event, with the connections that were stored when its handler was called. -/
structure Effect where
  event : Event
  uris : Table NwcUri.name
  kind : EffectKind

/-- The stored connections, what the relays know of the subscriptions, and the history of effects. -/
structure World where
  nwcUris : Table NwcUri.name := ∅
  now : Nat := 0
  /-- The relays forget no subscription while the service runs. -/
  subscriptions : List Filter := []
  /-- Sent on the resubscription channel and not received yet. -/
  resubscriptions : Nat := 0
  notifications : List RelayPoolNotification := []
  trace : List Effect := []

/-- What the service asks of the Nostr library, of the relays and of the wallet. -/
inductive Call where
  | generateSecretKey
  | subscribe (filter : Filter)
  | payInvoice (req : PayInvoiceRequest)
  | listTransactions (req : ListTransactionsRequest)
  | getBalance
  | sendEvent (client : PublicKey) (eventId content : String)

abbrev Call.Answer : Call → Type
  | generateSecretKey => SecretKey
  | subscribe _ => Except Err Unit
  | payInvoice _ => Except Nip47Error PayInvoiceResponse
  | listTransactions _ => Except Nip47Error (List String)
  | getBalance => Except Nip47Error Nat
  | sendEvent .. => Except Err Unit

abbrev Async (α : Type) := Task World Call Call.Answer Err α

namespace World

/-- An accepted subscription stays next to the earlier ones. -/
def effect : (q : Call) → q.Answer → World → World
  | .subscribe filter, .ok _, w => { w with subscriptions := filter :: w.subscriptions }
  | _, _, w => w

def note (effect : Effect) (w : World) : World := { w with trace := effect :: w.trace }

end World

/-! ## The stored connections -/

def listNwcUris : Async (Table NwcUri.name) := Task.reads (·.nwcUris)

/-- `set_nwc_uri`: a name that is taken is overwritten. -/
def setNwcUri (name uri : String) : Async Unit := do
  let nwcUris ← listNwcUris
  Task.modify fun w => { w with nwcUris := nwcUris.insertOrReplace { name, uri } }

/-- The error for a name that is not there is made, but not returned. -/
def removeNwcUri (name : String) : Async Unit := do
  let nwcUris ← listNwcUris
  Task.modify fun w => { w with nwcUris := nwcUris.deleteWhere fun r => r.name = name }

/-- The event loop is told to subscribe again. -/
def triggerResubscription : Async Unit :=
  Task.modify fun w => { w with resubscriptions := w.resubscriptions + 1 }

section Tasks

variable (n : Nostr)

/-- `add_connection_string`: a new secret under the given name. -/
def addConnectionString (name : String) : Async Unit := do
  let randomSecretKey ← Task.ask .generateSecretKey
  let uri : NostrWalletConnectURI :=
    { publicKey := n.publicKey n.ourSecretKey, relays := n.relays, secret := randomSecretKey }
  setNwcUri name (n.uriText uri)
  triggerResubscription

/-- `remove_connection_string`. The relays are not told, only the event loop. -/
def removeConnectionString (name : String) : Async Unit := do
  removeNwcUri name
  triggerResubscription

/-! ## The event loop -/

/-- The connections whose URIs can be parsed. -/
def clients (nwcUris : Table NwcUri.name) : List NostrWalletConnectURI :=
  nwcUris.rows.filterMap fun r => n.uriFromStr r.uri

/-- `resubscribe`, for the connections stored now. -/
def resubscribe : Async Unit := do
  let nwcUris ← listNwcUris
  let filter : Filter :=
    { publicKeys := (clients n nwcUris).map NostrWalletConnectURI.publicKey
      kinds := [WALLET_CONNECT_REQUEST] }
  Task.askOk (.subscribe filter) rfl

/-- The checks of `handle_event`: the request inside an event that gets past them. -/
def acceptedRequest (now : Nat) (event : Event) : Option Request :=
  -- what is skipped are the events that expire later
  if event.expiration.any fun t => now < t then none
  else if !n.verify event then none
  else
    match n.decrypt n.ourSecretKey event.pubkey event.content with
    | .error _ => none
    | .ok content =>
        match n.requestFromStr content with
        | none => none
        | some req =>
            match req.params with
            | .payInvoice _ | .listTransactions _ | .getBalance => some req
            | .other _ => none

/-- The result and the error of a response. -/
def resultOrError {α : Type} (result : α → ResponseResult) :
    Except Nip47Error α → Option ResponseResult × Option Nip47Error
  | .ok res => (some (result res), none)
  | .error e => (none, some e)

/-- The call of the handler. -/
def callHandler : RequestParams → Async (Option ResponseResult × Option Nip47Error)
  | .payInvoice req => do
      let res ← Task.ask (.payInvoice req)
      return resultOrError .payInvoice res
  | .listTransactions req => do
      let res ← Task.ask (.listTransactions req)
      return resultOrError .listTransactions res
  | .getBalance => do
      let res ← Task.ask .getBalance
      return resultOrError .getBalance res
  | .other _ => return (none, none)

/-- The event for the listeners of the plugin. -/
def localNotification (result : Option ResponseResult) (error : Option Nip47Error) (eventId : String) :
    Option NwcEvent :=
  match result, error with
  | some (.payInvoice response), none =>
      some ⟨.payInvoice true (some response.preimage) (response.feesPaid.map (· / 1000)) none, some eventId⟩
  | none, some error =>
      if error.code = .paymentFailed then
        some ⟨.payInvoice false none none (some error.message), some eventId⟩
      else none
  | some (.listTransactions _), none => some ⟨.listTransactions, some eventId⟩
  | some (.getBalance _), none => some ⟨.getBalance, some eventId⟩
  | _, _ => none

/-- The local application is told of what it can be told of. -/
def handleLocalNotification (event : Event) (nwcUris : Table NwcUri.name) (result : Option ResponseResult)
    (error : Option Nip47Error) : Async Unit :=
  match localNotification result error event.id with
  | some notification => Task.modify (World.note ⟨event, nwcUris, .notified notification⟩)
  | none => return ()

/-- `handle_event` from the call of the handler on. -/
def handleRequest (event : Event) (nwcUris : Table NwcUri.name) (req : Request) : Async Unit := do
  let (result, error) ← callHandler req.params
  handleLocalNotification event nwcUris result error
  match n.responseText { resultType := req.method, result, error } with
  | none => return ()
  | some content =>
      match n.encrypt n.ourSecretKey event.pubkey content with
      | .error _ => return ()
      | .ok encryptedContent => do
          Task.modify (World.note ⟨event, nwcUris, .answered encryptedContent⟩)
          -- an error is only logged
          let _ ← Task.ask (.sendEvent event.pubkey event.id encryptedContent)
          return ()

/-- Take the next notification. There is no await point between that and the call of the handler. -/
def takeNotification (w : World) : World :=
  match w.notifications with
  | [] => w
  | .event event :: notifications =>
      match acceptedRequest n w.now event with
      | some req =>
          { w with notifications, trace := ⟨event, w.nwcUris, .invoked req.params⟩ :: w.trace }
      | none => { w with notifications }
  | _ :: notifications => { w with notifications }

/-- `handle_event` on the next notification. -/
def handleEvent : Async Unit :=
  .atomic (takeNotification n) fun w =>
    match w.notifications with
    | .event event :: _ =>
        match acceptedRequest n w.now event with
        | some req => handleRequest n event w.nwcUris req
        | none => .done (.ok ())
    | _ => .done (.ok ())

/-- The loop's way from one subscription to the next. -/
def handleResubscription : Async Unit := do
  Task.modify fun w => { w with resubscriptions := w.resubscriptions - 1 }
  resubscribe n

end Tasks

/-! ## The running service -/

/-- The event loop, and the two calls that change the connections. -/
inductive Role where
  | eventLoop
  | addConnection
  | removeConnection
  deriving DecidableEq

/-- What runs when: the rounds of the event loop one after the other, the first of them the subscription;
adding and removing connections at any time. -/
inductive Spawns (n : Nostr) : List Role → World → Role → Async Unit → Prop where
  | start (roles : List Role) (w : World) (h : Role.eventLoop ∉ roles) :
      Spawns n roles w .eventLoop (resubscribe n)
  | event (roles : List Role) (w : World) (h : Role.eventLoop ∉ roles) :
      Spawns n roles w .eventLoop (handleEvent n)
  | resubscription (roles : List Role) (w : World) (h : Role.eventLoop ∉ roles)
      (hsent : 0 < w.resubscriptions) : Spawns n roles w .eventLoop (handleResubscription n)
  | add (roles : List Role) (w : World) (name : String) :
      Spawns n roles w .addConnection (addConnectionString n name)
  | remove (roles : List Role) (w : World) (name : String) :
      Spawns n roles w .removeConnection (removeConnectionString name)

/-- What happens around the service: time passes, the relays send what anyone published and a subscription
matches, and the service is restarted with a new client. -/
inductive Env : World → World → Prop where
  | clock (w : World) (now : Nat) (h : w.now ≤ now) : Env w { w with now }
  | event (w : World) (event : Event) (filter : Filter) (hmem : filter ∈ w.subscriptions)
      (h : filter.Matches event) :
      Env w { w with notifications := w.notifications ++ [.event event] }
  | message (w : World) : Env w { w with notifications := w.notifications ++ [.message] }
  | shutdown (w : World) : Env w { w with notifications := w.notifications ++ [.shutdown] }
  | restart (w : World) :
      Env w { w with subscriptions := [], resubscriptions := 0, notifications := [] }

/-- The service: any number of calls next to the event loop, and the relays. -/
def system (n : Nostr) : System World Call Call.Answer Err Role where
  effect := World.effect
  spawns := Spawns n
  env := Env

end BreezLiquid.Nwc
