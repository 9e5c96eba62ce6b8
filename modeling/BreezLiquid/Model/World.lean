/-
# BreezLiquid.Model.World — the state the tasks of one device share, and the services they call.

The handlers, the recoverer and the sync service are tasks over a `World`: the database, the clock, the
set of claims in progress, and the remote record store. A call is answered by its service; what an answer
changes is `World.effect`.

`trace` is a history variable, newest event first. Events mark the points the properties speak about: a
transaction was broadcast, a lockup amount was checked, a claim was reached, a record was pushed. No task
reads it.
-/
import BreezLiquid.Lib.Double
import BreezLiquid.Lib.Pool
import BreezLiquid.Persist.Swaps
import BreezLiquid.Recover.Recoverer

namespace BreezLiquid

open Interleaving Recover

/-! ## The parts that do not change -/

/-- The configuration and the pure third-party functions the tasks use. `verifyPaymentHash` tells whether
a preimage pays an invoice; `decryptAes` processes the AES success action of an LNURL info with a
preimage, if it has an unprocessed one; `serializeTx` and `deserializeTxHex` are the hex codec of Liquid
transactions; the `…Json` functions encode what `BoltzClient` decodes. `getPayment` is the query of a
payment by the id of its transaction or swap, `addressAt` the wallet's address at a derivation index;
`liquidUri` is the BIP21 URI of an address, if it has one; `parseBolt11Invoice` trims and decodes an invoice,
`decodeBolt12Invoice` decodes one. -/
structure Sdk where
  bz : BoltzClient
  persister : Persister
  order : HashOrder := .insertion
  lbtcAssetId : AssetId := "lbtc"
  onchainFeeRateLeewaySat : Option Nat := none
  zeroConfMaxAmountSat : Option Nat := none
  remoteUrl : String := "remote"
  addressFromScript : Script → Option Address := fun _ => none
  verifyPaymentHash : String → String → Bool := fun _ _ => true
  hashFromSlice : String → Option String := some
  decryptAes : String → String → Except Err (Option String) := fun _ _ => .ok none
  serializeTx : LBtcTransaction → String := LBtcTransaction.txid
  deserializeTxHex : String → Option LBtcTransaction := fun _ => none
  submarineResponseJson : InternalCreateSubmarineResponse → String := fun r => r.address
  chainResponseJson : InternalCreateChainResponse → String := fun _ => ""
  chainPairJson : ChainPair → String := fun _ => ""
  submarinePairJson : SubmarinePair → String := fun _ => ""
  /-- The rounding of `f64`. -/
  round : ℚ → ℚ := Double.nearest
  invoiceDestinationPubkey : String → Bool → Except Err String := fun _ _ => .ok ""
  getPayment : Db → String → Option Payment := fun _ _ => none
  network : LiquidNetwork := .mainnet
  liquidUri : LiquidAddressData → Option String := fun _ => none
  parseBolt11Invoice : String → Except String Bolt11Invoice := fun _ => .error "Invalid bech32"
  decodeBolt12Invoice : String → Except Err Bolt12Invoice := fun _ => .error (.generic "Invalid invoice")
  addressAt : Nat → Address := fun index => toString index

/-! ## Events and the world -/

/-- What a transaction is broadcast for. -/
inductive Purpose where
  | lockup (swapId : SwapId)
  | claim (swapId : SwapId)
  | refund (swapId : SwapId)
  /-- A direct payment to a Liquid address. -/
  | payment (address : Address)
  /-- A receive swap's lockup, as a status update reported it under an id. -/
  | reported (swapId : SwapId) (txId : TxId)
  deriving DecidableEq, Repr

/-- Points of a run. -/
inductive Event where
  /-- The user lockup of a chain swap is about to be made. -/
  | lockupAttempted (swapId : SwapId)
  /-- A user lockup of a chain swap was broadcast. -/
  | lockupBroadcast (swapId : SwapId) (txId : TxId)
  | claimBroadcast (swapId : SwapId) (txId : TxId)
  /-- A refund was broadcast, with the send swap's row at that moment. -/
  | refundBroadcast (swapId : SwapId) (txId : TxId) (row : Option SendSwap)
  /-- The amount check of a server lockup succeeded for a swap as it was read. -/
  | amountChecked (swap : ChainSwap) (tx : SdkTransaction)
  /-- A server lockup whose verification failed is about to be recorded. -/
  | lockupUnverified (swapId : SwapId) (txId : TxId)
  /-- `claim` was called, with the row at that moment. -/
  | claimReached (swapId : SwapId) (row : Option ChainSwap)
  /-- A direct payment to a Liquid address was broadcast. -/
  | paymentBroadcast (address : Address) (txId : TxId)
  /-- The lockup transaction that a status update reported under the id `txId` was broadcast. -/
  | reportedBroadcast (swapId : SwapId) (txId actual : TxId)
  /-- A transaction was taken, but the reply was lost: who broadcast it was told of an error. -/
  | replyLost (purpose : Purpose) (txId : TxId)
  /-- The amount check of a receive swap's lockup succeeded for the swap as it was read. -/
  | receiveAmountChecked (swap : ReceiveSwap) (tx : LBtcTransaction)
  | receiveClaimReached (swapId : SwapId)
  /-- The remote took a record; the local commits of the record since its data was loaded. -/
  | pushAccepted (recordId : RecordId) (sent : SyncData) (commits : List OutgoingCommit)
  /-- A queued change was removed after a push. -/
  | outgoingRemoved (recordId : RecordId) (sent : SyncData) (commits : List OutgoingCommit)
  | pushReturned
  /-- An incoming record was looked up among the queued changes, after so many local commits. -/
  | lookedUp (recordId : RecordId) (lastCommitTime : Option Nat) (commitsBefore : Nat)
  /-- The swap of an incoming record was given the version of the local one. -/
  | versionRead (recordId : RecordId) (swap : Swap)
  /-- An incoming record was written; the local commits of the record since the lookup. -/
  | incomingCommitted (recordId : RecordId) (commits : List OutgoingCommit)
  /-- An incoming swap was written; `fresh` is the swap its record stands for, and `swap` what its recovery has made of
  it, which may have failed. -/
  | swapCommitted (fresh swap : Swap) (recovered : Bool)
  | pullReturned
  /-- The wallet picked the first derivation index. -/
  | indexPicked (index : Nat)
  /-- A call of `next_unused_address` has settled on the address it returns. -/
  | addressGiven (address : Address)
  | addressReserved (row : ReservedAddress)
  /-- A reserved address was taken for another use, at a tip above its expiry height. -/
  | reservationExpired (row : ReservedAddress) (tip : Nat)

/-- The record store of a sync remote. Its counter is at least every revision it has given out. -/
structure Remote where
  records : List Record := []
  latest : Nat := 0

structure World where
  db : Db := {}
  now : Nat := 0
  claimingSwaps : List SwapId := []
  claimingReceiveSwaps : List SwapId := []
  remotes : String → Remote := fun _ => {}
  trace : List Event := []

/-! ## Services -/

/-- The heights of the two chains; without the Bitcoin tip if it could not be fetched. -/
structure ChainTips where
  liquidTip : Nat
  bitcoinTip : Option Nat
  deriving DecidableEq, Repr

inductive SetRecordStatus where
  | success
  | conflict
  deriving DecidableEq, Repr

/-- The reply to a pushed record. -/
structure SetRecordReply where
  status : SetRecordStatus
  newRevision : Nat
  deriving DecidableEq, Repr

/-- The calls of the onchain wallet, the chain services, the swapper and the sync client. -/
inductive Call where
  | nextUnusedAddress
  | walletAddress (index : Option Nat)
  | buildTxOrDrainTx (address : Address) (amountSat : Nat)
  | walletTip
  | fullScan
  | transactionsByTxId
  | liquidTip
  | liquidScriptHistory (script : Script)
  | liquidScriptsHistory (scripts : List Script)
  | liquidTransactions (ids : List TxId)
  | liquidTransactionHex (id : TxId)
  | liquidScriptUtxos (script : Script)
  | liquidVerifyTx (address : Script) (txId : TxId) (txHex : String) (verifyConfirmation : Bool)
  | liquidBroadcast (purpose : Purpose) (tx : LBtcTransaction)
  | bitcoinTip
  | bitcoinScriptHistory (script : Script)
  | bitcoinScriptsHistory (scripts : List Script)
  | bitcoinTransactions (ids : List TxId)
  | bitcoinScriptUtxos (script : Script)
  | bitcoinScriptBalance (script : Script)
  | bitcoinScriptsBalance (scripts : List Script)
  | bitcoinVerifyTx (address : Script) (txId : TxId) (txHex : String) (verifyConfirmation : Bool)
  | bitcoinBroadcast (purpose : Purpose) (tx : BtcTransaction)
  | createClaimTx (swap : ChainSwap) (claimAddress : Option Address)
  | createReceiveClaimTx (swap : ReceiveSwap) (claimAddress : Address)
  | createRefundTx (swap : Swap) (refundAddress : Address) (utxos : List TxId) (isCooperative : Bool)
  | broadcastTx (purpose : Purpose) (tx : LBtcTransaction)
  | getZeroAmountChainSwapQuote (swapId : SwapId)
  | acceptZeroAmountChainSwapQuote (swapId : SwapId) (serverLockupSat : Nat)
  | getSendClaimTxDetails (swap : SendSwap)
  | claimSendSwapCooperative (swap : SendSwap) (refundAddress : Address)
  | getSubmarinePreimage (swapId : SwapId)
  | generateKeypair
  | newPreimage
  | getSubmarinePairs
  | getChainPair (direction : Direction)
  | createReceiveSwap (mrhAddress : Address)
  | createSendSwap (invoice refundPrivateKey : String)
  | createChainSwap (claimPrivateKey refundPrivateKey : String) (serverLockAmount : Nat)
  | validateBitcoinAddress (address : Address)
  | getInfoBalance
  | buildTx (amountSat : Nat)
  | buildDrainTx (enforceAmountSat : Option Nat)
  | getWalletInfo
  | buildPaymentTx (address : Address) (assetId : AssetId) (amountSat : Nat)
  | getBolt12Info (offer : String) (amountSat : Nat) (note : Option String)
  /-- The events until a timeout. -/
  | paymentEvents
  | sleep (seconds : Nat)
  | pull (fromRevision : Nat)
  | push (record : Record)

/-- The type of the answer to a call. The services may answer anything of this type. -/
abbrev Call.Answer : Call → Type
  | nextUnusedAddress => Except Err Address
  | walletAddress _ => Except Err (Address × Nat)
  | buildTxOrDrainTx .. => Except Err LBtcTransaction
  | walletTip => Nat
  | fullScan => Except Err Unit
  | transactionsByTxId => Except Err (List WalletTx)
  | liquidTip | bitcoinTip => Except Err Nat
  | liquidScriptHistory _ => Except Err (List LBtcHistory)
  | liquidScriptsHistory _ => Except Err (List (List LBtcHistory))
  | liquidTransactions _ => Except Err (List LBtcTransaction)
  | liquidTransactionHex _ => Except Err (Option LBtcTransaction)
  | liquidScriptUtxos _ | bitcoinScriptUtxos _ => Except Err (List TxId)
  | liquidVerifyTx .. => Except Err LBtcTransaction
  | liquidBroadcast .. | bitcoinBroadcast .. | broadcastTx .. => Except Err TxId
  | bitcoinScriptHistory _ => Except Err (List BtcHistory)
  | bitcoinScriptsHistory _ => Except Err (List (List BtcHistory))
  | bitcoinTransactions _ => Except Err (List BtcTransaction)
  | bitcoinScriptBalance _ => Except Err BtcScriptBalance
  | bitcoinScriptsBalance _ => Except Err (List BtcScriptBalance)
  | bitcoinVerifyTx .. => Except Err BtcTransaction
  | createClaimTx .. | createReceiveClaimTx .. | createRefundTx .. => Except Err SdkTransaction
  | getZeroAmountChainSwapQuote _ => Except Err Nat
  | acceptZeroAmountChainSwapQuote .. => Except Err Unit
  | getSendClaimTxDetails _ => Except Err String
  | claimSendSwapCooperative .. => Except Err Unit
  | getSubmarinePreimage _ => Except Err String
  | generateKeypair | newPreimage => String
  | getSubmarinePairs => Except Err (Option SubmarinePair)
  | getChainPair _ => Except Err (Option ChainPair)
  -- the timeout block height
  | createReceiveSwap _ => Except Err Nat
  | createSendSwap .. => Except Err CreateSubmarineResponse
  | createChainSwap .. => Except Err CreateChainResponse
  | validateBitcoinAddress _ => Except Err Address
  | getInfoBalance => Except Err Nat
  | buildTx _ | buildDrainTx _ | buildPaymentTx .. => Except Err LBtcTransaction
  | getWalletInfo => Except Err WalletInfo
  -- the invoice
  | getBolt12Info .. => Except Err String
  | paymentEvents => List SdkEvent
  | sleep _ => Unit
  | pull _ => Except Err (List Record)
  | push _ => Except Err SetRecordReply

theorem Call.answer_nextUnusedAddress : nextUnusedAddress.Answer = Except Err Address := rfl

theorem Call.answer_liquidScriptUtxos (scriptPk : Script) :
    (liquidScriptUtxos scriptPk).Answer = Except Err (List TxId) := rfl

theorem Call.answer_broadcastClaim (swapId : SwapId) (tx : LBtcTransaction) :
    (liquidBroadcast (.claim swapId) tx).Answer = Except Err TxId := rfl

theorem Call.answer_broadcastTx (swapId : SwapId) (tx : LBtcTransaction) :
    (broadcastTx (.claim swapId) tx).Answer = Except Err TxId := rfl

theorem Call.answer_liquidTip : liquidTip.Answer = Except Err Nat := rfl

theorem Call.answer_bitcoinTip : bitcoinTip.Answer = Except Err Nat := rfl

theorem Call.answer_fullScan : fullScan.Answer = Except Err Unit := rfl

theorem Call.answer_getWalletInfo : getWalletInfo.Answer = Except Err WalletInfo := rfl

/-- What a device without a connection gets for an answer. -/
def Call.offline : (q : Call) → q.Answer
  | walletTip => 0
  | generateKeypair | newPreimage => ""
  | paymentEvents => []
  | sleep _ => ()
  | nextUnusedAddress | walletAddress _ | buildTxOrDrainTx .. | fullScan | transactionsByTxId | liquidTip
  | liquidScriptHistory _ | liquidScriptsHistory _ | liquidTransactions _ | liquidTransactionHex _
  | liquidScriptUtxos _ | liquidVerifyTx .. | liquidBroadcast .. | bitcoinTip | bitcoinScriptHistory _
  | bitcoinScriptsHistory _ | bitcoinTransactions _ | bitcoinScriptUtxos _ | bitcoinScriptBalance _
  | bitcoinScriptsBalance _ | bitcoinVerifyTx .. | bitcoinBroadcast .. | createClaimTx ..
  | createReceiveClaimTx .. | createRefundTx .. | broadcastTx .. | getZeroAmountChainSwapQuote _
  | acceptZeroAmountChainSwapQuote .. | getSendClaimTxDetails _ | claimSendSwapCooperative ..
  | getSubmarinePreimage _ | getSubmarinePairs | getChainPair _ | createReceiveSwap _ | createSendSwap ..
  | createChainSwap ..
  | validateBitcoinAddress _ | getInfoBalance | buildTx _ | buildDrainTx _ | buildPaymentTx ..
  | getWalletInfo | getBolt12Info .. | pull _ | push _ =>
      .error (.generic "Connection failed")

/-- The tasks of one device. -/
abbrev Async (α : Type) := Task World Call Call.Answer Err α

namespace World

/-- Add an event to the history. -/
def note (e : Event) (w : World) : World := { w with trace := e :: w.trace }

/-- A persister method that cannot fail. -/
def write (f : Nat → Db → Db) (w : World) : World := { w with db := f w.now w.db }

/-- A persister method that may fail; the transaction is then rolled back. -/
def tryWrite (f : Nat → Db → Except Err Db) (w : World) : World :=
  match f w.now w.db with
  | .ok db => { w with db }
  | .error _ => w

/-- A transaction that fails is rolled back. -/
theorem tryWrite_cases (f : Nat → Db → Except Err Db) (w : World) :
    (∃ db, f w.now w.db = .ok db ∧ w.tryWrite f = { w with db }) ∨ w.tryWrite f = w := by
  unfold tryWrite
  split
  · exact .inl ⟨_, ‹_›, rfl⟩
  · exact .inr rfl

/-- The event of a broadcast: a lockup or a claim is known by the id of the transaction that was built, a
refund by the id the service answered. -/
def broadcastEvent (w : World) (txId answered : TxId) : Purpose → Event
  | .lockup swapId => .lockupBroadcast swapId txId
  | .claim swapId => .claimBroadcast swapId txId
  | .refund swapId => .refundBroadcast swapId answered (w.db.sendSwaps.get? swapId)
  | .payment address => .paymentBroadcast address txId
  | .reported swapId reportedId => .reportedBroadcast swapId reportedId txId

/-- What a remote stores when it accepts a record. -/
def setRecord (url : String) (record : Record) (newRevision : Nat) (w : World) : World :=
  { w with
    remotes := Function.update w.remotes url
      { records := { record with revision := newRevision } ::
          (w.remotes url).records.filter fun r => r.id ≠ record.id
        latest := newRevision } }

/-- The effect of a broadcast: a transaction that was taken is noted, also when the reply was lost. -/
def broadcastEffect (purpose : Purpose) (txId : TxId) (answer : Except Err TxId) (w : World) : World :=
  match answer with
  | .ok answered => w.note (w.broadcastEvent txId answered purpose)
  | .error (.replyLost _) => w.note (.replyLost purpose txId)
  | .error _ => w

/-- A broadcast is not taken, is taken and answered, or is taken and the reply is lost. -/
theorem broadcastEffect_cases (purpose : Purpose) (txId : TxId) (answer : Except Err TxId) (w : World) :
    w.broadcastEffect purpose txId answer = w ∨
      (∃ answered, w.broadcastEffect purpose txId answer = w.note (w.broadcastEvent txId answered purpose)) ∨
      w.broadcastEffect purpose txId answer = w.note (.replyLost purpose txId) := by
  unfold broadcastEffect
  split
  · exact .inr (.inl ⟨_, rfl⟩)
  · exact .inr (.inr rfl)
  · exact .inl rfl

/-- What an answered call changes: transactions that were taken are noted, an accepted record is stored. -/
def effect (sdk : Sdk) : (q : Call) → q.Answer → World → World
  | .liquidBroadcast purpose tx, answer, w => w.broadcastEffect purpose tx.txid answer
  | .bitcoinBroadcast purpose tx, answer, w => w.broadcastEffect purpose tx.txid answer
  | .broadcastTx purpose tx, answer, w => w.broadcastEffect purpose tx.txid answer
  | .push record, .ok reply, w =>
      if reply.status = .success then w.setRecord sdk.remoteUrl record reply.newRevision else w
  | _, _, w => w

/-- The effect of a call when, by the time of its answer, others have moved the clock and changed the
database. -/
def effectAmid (sdk : Sdk) (others : World → Nat × Db) (q : Call) (a : q.Answer) (w : World) : World :=
  effect sdk q a { w with now := (others w).1, db := (others w).2 }

end World

/-! ## Building blocks of the tasks -/

/-- Read the database. -/
def fetch {α : Type} (g : Db → α) : Async α := Task.reads fun w => g w.db

/-- A transaction of the persister ... -/
def write (f : Nat → Db → Db) : Async Unit := Task.modify (World.write f)

/-- ... and one that may fail. -/
def tryWrite (f : Nat → Db → Except Err Db) : Async Unit :=
  .atomic (World.tryWrite f) fun w => .done ((f w.now w.db).map fun _ => ())

/-- Mark a point of the run. -/
def note (e : Event) : Async Unit := Task.modify (World.note e)

section Run

variable (effect : (q : Call) → q.Answer → World → World) (ans : Nat → (q : Call) → q.Answer)

/-- A read, alone. -/
@[simp] theorem run_fetch {α : Type} (g : Db → α) (w : Nat × World) :
    Task.run effect ans (fetch g) w = (.ok (g w.2.db), w) := rfl

/-- A transaction, alone. -/
@[simp] theorem run_write (f : Nat → Db → Db) (w : Nat × World) :
    Task.run effect ans (write f) w = (.ok (), (w.1, w.2.write f)) := rfl

@[simp] theorem run_tryWrite (f : Nat → Db → Except Err Db) (w : Nat × World) :
    Task.run effect ans (tryWrite f) w =
      ((f w.2.now w.2.db).map fun _ => (), (w.1, w.2.tryWrite f)) := rfl

@[simp] theorem run_note (e : Event) (w : Nat × World) :
    Task.run effect ans (note e) w = (.ok (), (w.1, w.2.note e)) := rfl

end Run

section Within

variable {F : (World → World) → Prop} {G : Call → Prop}

/-- What a task does to the world, part by part: a read does nothing ... -/
theorem within_fetch {α : Type} (h : F id) (g : Db → α) : (fetch g).Within F G := ⟨h, fun _ => trivial⟩

/-- ... a transaction does what it is ... -/
theorem within_write {f : Nat → Db → Db} (h : F (World.write f)) : (write f).Within F G :=
  ⟨h, fun _ => trivial⟩

theorem within_tryWrite {f : Nat → Db → Except Err Db} (h : F (World.tryWrite f)) :
    (tryWrite f).Within F G := ⟨h, fun _ => trivial⟩

/-- ... and a note adds an event. -/
theorem within_note {e : Event} (h : F (World.note e)) : (note e).Within F G := ⟨h, fun _ => trivial⟩

end Within

/-! ## Silent actions -/

/-- A transaction that adds no event. -/
def Silent (f : World → World) : Prop := ∀ w, (f w).trace = w.trace

/-- Calls other than broadcasts and pushes leave the world as it is. -/
def Call.Quiet : Call → Prop
  | liquidBroadcast .. | bitcoinBroadcast .. | broadcastTx .. | push _ => False
  | _ => True

/-- Calls that leave the world as it is and give nothing away: the swapper's claims are not signed. -/
def Call.Reads : Call → Prop
  | claimSendSwapCooperative .. => False
  | q => q.Quiet

theorem Call.Reads.quiet {q : Call} (h : q.Reads) : q.Quiet := by
  cases q with
  | claimSendSwapCooperative swap refundAddress => exact h.elim
  | _ => exact h

theorem silent_id : Silent id := fun _ => rfl

theorem silent_write (f : Nat → Db → Db) : Silent (World.write f) := fun _ => rfl

/-- No transaction of the persister adds an event. -/
theorem silent_tryWrite (f : Nat → Db → Except Err Db) : Silent (World.tryWrite f) := by
  intro w
  rcases World.tryWrite_cases f w with ⟨db, -, h⟩ | h <;> rw [h]

/-- The answer to a quiet call changes nothing. -/
theorem effect_of_quiet (sdk : Sdk) {q : Call} (h : q.Quiet) (a : q.Answer) (w : World) :
    World.effect sdk q a w = w := by
  cases q with
  | liquidBroadcast purpose tx => exact h.elim
  | bitcoinBroadcast purpose tx => exact h.elim
  | broadcastTx purpose tx => exact h.elim
  | push record => exact h.elim
  | _ => rfl

/-- Answers do not change the database. -/
theorem effect_db (sdk : Sdk) (q : Call) (a : q.Answer) (w : World) :
    (World.effect sdk q a w).db = w.db := by
  have hbroadcast : ∀ purpose txId answer, (w.broadcastEffect purpose txId answer).db = w.db := by
    intro purpose txId answer
    rcases World.broadcastEffect_cases purpose txId answer w with h | ⟨answered, h⟩ | h <;> rw [h] <;> rfl
  unfold World.effect
  split
  · exact hbroadcast _ _ _
  · exact hbroadcast _ _ _
  · exact hbroadcast _ _ _
  · split
    · rfl
    · rfl
  · rfl

end BreezLiquid
