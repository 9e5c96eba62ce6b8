/-
# BreezLiquid.Wallet.NextAddress — the addresses the wallet gives away.

`next_unused_address` takes an address whose reservation has expired, or else the one at the next derivation
index, or else, when no index is stored yet, the one the wallet picks. The address is settled in a
transaction, and an event marks it; a call that still fails afterwards counts as having returned it.

The last derivation index is synced, so a pull may replace it.
-/
import BreezLiquid.Sync.Footprint

namespace BreezLiquid.Wallet

open Interleaving Tables

section Tasks

/-- `next_expired_reserved_address`, with its events. -/
def takeExpired (tip : Nat) (w : World) : World :=
  match w.db.nextExpiredReservedAddress tip with
  | (some r, db) => { w with db, trace := .addressGiven r.address :: .reservationExpired r tip :: w.trace }
  | (none, _) => w

def nextExpiredReservedAddress (tip : Nat) : Async (Option ReservedAddress) :=
  .atomic (takeExpired tip) fun w => .done (.ok (w.db.nextExpiredReservedAddress tip).1)

variable (sdk : Sdk)

/-- `next_derivation_index`, with its event. -/
def takeNextIndex (w : World) : World :=
  match w.db.nextDerivationIndex sdk.persister w.now with
  | (some index, db) => { w with db, trace := .addressGiven (sdk.addressAt index) :: w.trace }
  | (none, _) => w

def nextDerivationIndex : Async (Option Nat) :=
  .atomic (takeNextIndex sdk) fun w => .done (.ok (w.db.nextDerivationIndex sdk.persister w.now).1)

/-- `set_last_derivation_index`, with its events. -/
def storePicked (index : Nat) (w : World) : World :=
  { w with
    db := w.db.setLastDerivationIndex sdk.persister w.now index
    trace := .addressGiven (sdk.addressAt index) :: .indexPicked index :: w.trace }

/-- `next_unused_address`. -/
def nextUnusedAddress : Async Address := do
  let tip ← Task.ask .walletTip
  match ← nextExpiredReservedAddress tip with
  | some reservedAddress => return reservedAddress.address
  | none => do
      let nextIndex ← nextDerivationIndex sdk
      let (address, index) ← Task.askOk (.walletAddress nextIndex) rfl
      if nextIndex.isNone then Task.modify (storePicked sdk index)
      return address

/-- `insert_or_update_reserved_address`, with its event. -/
def reserve (address : Address) (expiryBlockHeight : Nat) (w : World) : World :=
  (w.note (.addressReserved { address, expiryBlockHeight })).write fun _ db =>
    db.insertOrUpdateReservedAddress address expiryBlockHeight

/-- `create_receive_swap` up to the reservation of the address for a direct payment. -/
def createReceiveSwap : Async Unit := do
  let mrhAddress ← nextUnusedAddress sdk
  let timeoutBlockHeight ← Task.askOk (.createReceiveSwap mrhAddress) rfl
  Task.modify (reserve mrhAddress timeoutBlockHeight)

def deleteReservedAddress (address : Address) : Async Unit :=
  write fun _ db => db.deleteReservedAddress address

end Tasks

/-! ## The device -/

inductive Role where
  /-- A flow that needs an address. -/
  | next
  /-- A receive swap, which reserves its address. -/
  | receive
  /-- A reservation that is not needed any more. -/
  | release
  | sync
  deriving DecidableEq

inductive Spawns (sdk : Sdk) : List Role → World → Role → Async Unit → Prop where
  | next (roles : List Role) (w : World) :
      Spawns sdk roles w .next ((nextUnusedAddress sdk).bind fun _ => .done (.ok ()))
  | receive (roles : List Role) (w : World) : Spawns sdk roles w .receive (createReceiveSwap sdk)
  | release (roles : List Role) (w : World) (address : Address) :
      Spawns sdk roles w .release (deleteReservedAddress address)
  | sync (roles : List Role) (w : World) (failedPushCounter : Nat) (h : Role.sync ∉ roles) :
      Spawns sdk roles w .sync ((Sync.runEventLoop sdk failedPushCounter).bind fun _ => .done (.ok ()))
  | newRemote (roles : List Role) (w : World) (h : Role.sync ∉ roles) :
      Spawns sdk roles w .sync (Sync.checkRemoteChange sdk)

/-- The wallet answers with the address of an index. -/
def Answers (sdk : Sdk) : (q : Call) → q.Answer → Prop
  | .walletAddress (some index), .ok (address, index') => index' = index ∧ address = sdk.addressAt index
  | .walletAddress none, .ok (address, index) => address = sdk.addressAt index
  | _, _ => True

/-- What else happens: time passes, other devices push, and other flows write to the tables. They do not
write the last derivation index, and a reservation they only delete. -/
inductive Env : World → World → Prop where
  | clock (w : World) (now : Nat) (h : w.now ≤ now) : Env w { w with now }
  | remotes (w : World) (remotes : String → Remote) : Env w { w with remotes }
  | others (w : World) (db : Db) (hindex : db.lastDerivationIndex = w.db.lastDerivationIndex)
      (hreserved : ∀ r ∈ db.reservedAddresses.rows, r ∈ w.db.reservedAddresses.rows) : Env w { w with db }

def system (sdk : Sdk) : System World Call Call.Answer Err Role where
  answers q a _ := Answers sdk q a
  effect := World.effect sdk
  spawns := Spawns sdk
  env := Env

end BreezLiquid.Wallet
