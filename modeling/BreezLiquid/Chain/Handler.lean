/-
# BreezLiquid.Chain.Handler — the handler of chain swaps.

Status updates of the swapper (`onNewStatus`), the rescans and refunds on every block, the claim with
its three ways in, and the callers in `sdk.rs`: the acceptance of proposed fees, the timeout of a
payment, and the two places where recovered swaps are written.

A claim reveals the preimage. What has to hold before it is decided here, in the verification of the two
lockups; the three properties about it are in the modules that follow.
-/
import Mathlib.Data.List.Infix
import BreezLiquid.Recover.Task

namespace BreezLiquid.Chain

open Interleaving Recover Wrapping

/-! ## The transition table -/

/-- `validate_state_transition`. -/
def validateStateTransition (fromState toState : PaymentState) : Except Err Unit :=
  match fromState, toState with
  | _, .created => .error (.generic "Cannot transition to Created state")
  | .created, .pending | .pending, .pending | .waitingFeeAcceptance, .pending => .ok ()
  | .created, .waitingFeeAcceptance | .pending, .waitingFeeAcceptance
  | .waitingFeeAcceptance, .waitingFeeAcceptance => .ok ()
  | .created, .complete | .pending, .complete | .waitingFeeAcceptance, .complete
  | .refundPending, .complete => .ok ()
  | .created, .timedOut => .ok ()
  | .created, .refundable | .pending, .refundable | .waitingFeeAcceptance, .refundable
  | .refundPending, .refundable | .failed, .refundable | .complete, .refundable => .ok ()
  | .pending, .refundPending | .waitingFeeAcceptance, .refundPending
  | .refundable, .refundPending | .refundPending, .refundPending => .ok ()
  | .complete, .failed => fromState.refuse .failed
  | _, .failed => .ok ()
  | _, _ => fromState.refuse toState

/-- `map_err`. -/
def mapErr {α : Type} (f : Err → Err) (t : Async α) : Async α := do
  match ← t.attempt with
  | .ok a => return a
  | .error err => Task.throw (f err)

theorem within_mapErr {F : (World → World) → Prop} {G : Call → Prop} {α : Type} {f : Err → Err}
    {t : Async α} (h : t.Within F G) : (mapErr f t).Within F G := by
  refine Task.Within.bind h.attempt fun x => ?_
  cases x <;> trivial

/-- An error with the text of another one after a prefix. -/
def Err.after (text : String) (err : Err) : Err := .generic (text ++ err.text)

section Tasks

variable (sdk : Sdk)

/-! ## Updating the row -/

/-- The row, or an error that names it. -/
def fetchChainSwapById (swapId : SwapId) : Async ChainSwap := do
  let swap ← fetch (·.fetchChainSwapById swapId)
  Task.ofExcept (okOr swap ("Chain Swap not found " ++ swapId))

/-- `insert_or_update_chain_swap`: the row is read first, outside the transaction. -/
def insertOrUpdateChainSwap (swap : ChainSwap) : Async Unit := do
  let maybeSwap ← fetch (·.fetchChainSwapById swap.id)
  tryWrite fun now db => db.insertOrUpdateChainSwap sdk.persister now maybeSwap swap

/-- `update_swap`, without state transition validation. -/
def updateSwap (updatedSwap : ChainSwap) : Async Unit := do
  let swap ← fetchChainSwapById updatedSwap.id
  if !updatedSwap.sameAs swap then insertOrUpdateChainSwap sdk updatedSwap else return ()

/-- `update_swap_info`, with state transition validation. -/
def updateSwapInfo (swapUpdate : ChainSwapUpdate) : Async Unit := do
  let swap ← fetchChainSwapById swapUpdate.swapId
  Task.ofExcept (validateStateTransition swap.state swapUpdate.toState)
  write fun now db => db.tryHandleChainSwapUpdate now swapUpdate
  let _ ← fetchChainSwapById swapUpdate.swapId
  return ()

/-! ## Script histories -/

/-- The script pubkey of a swap script's address. -/
def scriptPubkey (swapScript : SwapScript) : Except Err Script :=
  okOr swapScript.toAddress "Failed to get swap script address"

def fetchBitcoinScriptHistory (swapScript : SwapScriptV2) : Async (List BtcHistory) := do
  let bitcoinScript ← Task.ofExcept swapScript.asBitcoinScript
  let script ← Task.ofExcept (scriptPubkey bitcoinScript)
  Task.askOk (.bitcoinScriptHistory script) rfl

def fetchLiquidScriptHistory (swapScript : SwapScriptV2) : Async (List LBtcHistory) := do
  let liquidScript ← Task.ofExcept swapScript.asLiquidScript
  let script ← Task.ofExcept (scriptPubkey liquidScript)
  Task.askOk (.liquidScriptHistory script) rfl

def fetchScriptHistory (swapScript : SwapScriptV2) : Async (List History) :=
  match swapScript with
  | .liquid _ => fetchLiquidScriptHistory swapScript
  | .bitcoin _ => fetchBitcoinScriptHistory swapScript

/-! ## The user lockup -/

/-- `fetch_incoming_swap_actual_payer_amount`: what the first transaction of the lockup script pays it. -/
def fetchIncomingSwapActualPayerAmount (chainSwap : ChainSwap) : Async Nat := do
  let swapScript ← Task.ofExcept (chainSwap.getLockupSwapScript sdk.bz)
  let bitcoinScript ← Task.ofExcept swapScript.asBitcoinScript
  let script ← Task.ofExcept (scriptPubkey bitcoinScript)
  let history ← fetchBitcoinScriptHistory swapScript
  -- the user lockup is by definition the first transaction
  let first ← Task.ofExcept (okOr history.head?
    ("No history found for user lockup script for swap " ++ chainSwap.id))
  let txs ← Task.askOk (.bitcoinTransactions [first.txid]) rfl
  let userLockupTx ← Task.ofExcept (okOr txs.head?
    ("No transactions found for user lockup script for swap " ++ chainSwap.id))
  let out ← Task.ofExcept (okOr (userLockupTx.output.find? fun out => out.scriptPubkey = script)
    "No output found paying to user lockup script")
  return out.value

/-- `user_lockup_tx_exists`. A lockup that was not recorded before is recorded here. -/
def userLockupTxExists (chainSwap : ChainSwap) : Async Bool := do
  let lockupScript ← Task.ofExcept (chainSwap.getLockupSwapScript sdk.bz)
  let scriptHistory ← fetchScriptHistory lockupScript
  match chainSwap.userLockupTxId with
  | some userLockupTxId => return scriptHistory.any fun h => h.txid = userLockupTxId
  | none =>
      match scriptHistory with
      | [] => return false
      | h :: _ => do
          updateSwapInfo
            { swapId := chainSwap.id, toState := .pending, userLockupTxId := some h.txid }
          return true

/-- The amount the user locked up, as stored or else as found on chain, which is then stored. -/
def actualPayerAmount (chainSwap : ChainSwap) : Async Nat :=
  match chainSwap.actualPayerAmountSat with
  | some amount => return amount
  | none => do
      let actualPayerAmountSat ← fetchIncomingSwapActualPayerAmount sdk chainSwap
      write fun now db => db.updateActualPayerAmount now chainSwap.id actualPayerAmountSat
      return actualPayerAmountSat

/-- `verify_user_lockup_tx`; of an incoming swap, the amount too. -/
def verifyUserLockupTx (chainSwap : ChainSwap) : Async Unit := do
  if ← userLockupTxExists sdk chainSwap then
    match chainSwap.direction with
    | .incoming => do
        let actualPayerAmountSat ← actualPayerAmount sdk chainSwap
        if 0 < chainSwap.payerAmountSat ∧ chainSwap.payerAmountSat ≠ actualPayerAmountSat then
          Task.throw (.generic ("Invalid user lockup tx - user lockup amount (" ++
            toString actualPayerAmountSat ++ " sat) differs from agreed (" ++
            toString chainSwap.payerAmountSat ++ " sat)"))
        else return ()
    | .outgoing => return ()
  else Task.throw (.generic "User lockup tx not found in script history")

/-! ## The server lockup -/

/-- What a Liquid transaction pays to a script, added up in `u64`; an output to it that cannot be unblinded is an
error. -/
def liquidValueTo (script : Script) (output : List LBtcTxOut) : Except Err Nat := do
  let values ← (output.filter fun out => out.scriptPubkey = script).mapM fun out =>
    okOr (out.unblinded.map Prod.snd) "Failed to unblind the output"
  return u64Sum values

/-- Unblinding the outputs gives their values, if all of them can be unblinded. -/
theorem mapM_unblinded_eq_ok {outs : List LBtcTxOut} {values : List Nat} :
    outs.mapM (fun out => okOr (out.unblinded.map Prod.snd) "Failed to unblind the output") = .ok values ↔
      (∀ out ∈ outs, out.unblinded.isSome) ∧ outs.map LBtcTxOut.value = values := by
  induction outs generalizing values with
  | nil =>
      constructor
      · intro h
        cases h
        exact ⟨nofun, rfl⟩
      · rintro ⟨-, rfl⟩
        rfl
  | cons out outs ih =>
      rw [List.mapM_cons, except_bind_eq_ok]
      constructor
      · rintro ⟨value, hvalue, hok⟩
        obtain ⟨rest, hrest, hvalues⟩ := except_bind_eq_ok.mp hok
        cases hvalues
        obtain ⟨hunblinded, hmap⟩ := ih.mp hrest
        obtain ⟨secrets, hsecrets, rfl⟩ := Option.map_eq_some_iff.mp (okOr_eq_ok.mp hvalue)
        refine ⟨fun o ho => ?_, ?_⟩
        · rcases List.mem_cons.mp ho with rfl | ho
          · rw [hsecrets]
            rfl
          · exact hunblinded o ho
        · rw [List.map_cons, hmap]
          unfold LBtcTxOut.value
          rw [hsecrets]
          rfl
      · rintro ⟨hunblinded, rfl⟩
        obtain ⟨secrets, hsecrets⟩ := Option.isSome_iff_exists.mp (hunblinded out List.mem_cons_self)
        refine ⟨secrets.2, ?_, ?_⟩
        · rw [hsecrets]
          rfl
        · have hrest := ih.mpr ⟨fun o ho => hunblinded o (List.mem_cons_of_mem _ ho), rfl⟩
          rw [hrest, List.map_cons]
          unfold LBtcTxOut.value
          rw [hsecrets]
          rfl

/-- The outputs to the script are added up, if all of them can be unblinded. -/
theorem liquidValueTo_eq_ok {script : Script} {output : List LBtcTxOut} {total : Nat} :
    liquidValueTo script output = .ok total ↔
      (∀ out ∈ output.filter fun out => out.scriptPubkey = script, out.unblinded.isSome) ∧
        u64Sum ((output.filter fun out => out.scriptPubkey = script).map LBtcTxOut.value) = total := by
  unfold liquidValueTo
  rw [except_bind_eq_ok]
  constructor
  · rintro ⟨values, hvalues, hsum⟩
    cases hsum
    obtain ⟨hunblinded, hmap⟩ := mapM_unblinded_eq_ok.mp hvalues
    exact ⟨hunblinded, congrArg u64Sum hmap⟩
  · rintro ⟨hunblinded, rfl⟩
    exact ⟨_, mapM_unblinded_eq_ok.mpr ⟨hunblinded, rfl⟩, rfl⟩

/-- What a Bitcoin transaction pays to a script, added up in `u64`. -/
def bitcoinValueTo (script : Script) (output : List BtcTxOut) : Nat :=
  u64Sum ((output.filter fun out => out.scriptPubkey = script).map BtcTxOut.value)

/-- The amount a server lockup has to pay: the one the user accepted with the claim fees, or else the
one of the create response. -/
def expectedServerLockupAmountSat (chainSwap : ChainSwap) (claimDetails : ChainSwapDetails) : Nat :=
  match chainSwap.direction, chainSwap.acceptedReceiverAmountSat with
  | .incoming, some acceptedReceiverAmountSat =>
      u64Add acceptedReceiverAmountSat chainSwap.claimFeesSat
  | _, _ => claimDetails.amount

/-- The end of the verification of a server lockup, with what the transaction was found to pay. -/
def checkServerLockupAmount (chainSwap : ChainSwap) (claimDetails : ChainSwapDetails) (tx : SdkTransaction)
    (value : Nat) : Async Unit :=
  let expected := expectedServerLockupAmountSat chainSwap claimDetails
  if value < expected then
    let accepted := if chainSwap.direction = .incoming ∧ chainSwap.acceptedReceiverAmountSat.isSome
      then "accepted " else ""
    Task.throw (.generic ("Transaction value " ++ toString value ++ " sats is less than " ++
      accepted ++ toString expected ++ " sats"))
  else note (.amountChecked chainSwap tx)

/-- `verify_incoming_server_lockup_tx`, on Liquid ... -/
def verifyIncomingServerLockupTx (chainSwap : ChainSwap) (swapUpdateTx : TransactionInfo)
    (verifyConfirmation : Bool) : Async Unit := do
  let swapScript ← Task.ofExcept (chainSwap.getClaimSwapScript sdk.bz)
  let createResponse ← Task.ofExcept (chainSwap.getBoltzCreateResponse sdk.bz)
  let liquidSwapScript ← Task.ofExcept swapScript.asLiquidScript
  let address ← Task.ofExcept (scriptPubkey liquidSwapScript)
  let txHex ← Task.ofExcept (okOr swapUpdateTx.hex "Transaction info without hex")
  let tx ← Task.askOk (.liquidVerifyTx address swapUpdateTx.id txHex verifyConfirmation) rfl
  if !verifyConfirmation && tx.input.any TxIn.isRbf then
    Task.throw (.generic "Transaction signals RBF")
  else do
    let value ← Task.ofExcept (liquidValueTo address tx.output)
    checkServerLockupAmount chainSwap createResponse.claimDetails (.liquid tx) value

/-- ... and `verify_outgoing_server_lockup_tx`, on Bitcoin. -/
def verifyOutgoingServerLockupTx (chainSwap : ChainSwap) (swapUpdateTx : TransactionInfo)
    (verifyConfirmation : Bool) : Async Unit := do
  let swapScript ← Task.ofExcept (chainSwap.getClaimSwapScript sdk.bz)
  let createResponse ← Task.ofExcept (chainSwap.getBoltzCreateResponse sdk.bz)
  let bitcoinSwapScript ← Task.ofExcept swapScript.asBitcoinScript
  let address ← Task.ofExcept (scriptPubkey bitcoinSwapScript)
  let txHex ← Task.ofExcept (okOr swapUpdateTx.hex "Transaction info without hex")
  let tx ← Task.askOk (.bitcoinVerifyTx address swapUpdateTx.id txHex verifyConfirmation) rfl
  if !verifyConfirmation && tx.input.any TxIn.isRbf then
    Task.throw (.generic "Transaction signals RBF")
  else
    checkServerLockupAmount chainSwap createResponse.claimDetails (.bitcoin tx)
      (bitcoinValueTo address tx.output)

def verifyServerLockupTx (chainSwap : ChainSwap) (swapUpdateTx : TransactionInfo)
    (verifyConfirmation : Bool) : Async Unit :=
  match chainSwap.direction with
  | .incoming => verifyIncomingServerLockupTx sdk chainSwap swapUpdateTx verifyConfirmation
  | .outgoing => verifyOutgoingServerLockupTx sdk chainSwap swapUpdateTx verifyConfirmation

/-! ## Claiming -/

/-- `is_txn_mempool_conflict_error`. -/
def isTxnMempoolConflictError (err : Err) : Bool :=
  decide ("txn-mempool-conflict".toList <:+: err.text.toList)

/-- `maybe_delay_before_claim`. -/
def maybeDelayBeforeClaim (isSwapLocal : Bool) : Async Unit :=
  if isSwapLocal then return () else Task.ask (Call.sleep 5)

/-- Broadcast via the chain service, then via the swapper. -/
def broadcastClaim (swapId : SwapId) : SdkTransaction → Async TxId
  | .liquid tx => do
      match ← (Task.askOk (.liquidBroadcast (.claim swapId) tx) (Call.answer_broadcastClaim swapId tx)).attempt with
      | .ok txId => return txId
      | .error err =>
          if isTxnMempoolConflictError err then Task.throw .alreadyClaimed
          else Task.askOk (.broadcastTx (.claim swapId) tx) (Call.answer_broadcastTx swapId tx)
  | .bitcoin tx => Task.askOk (.bitcoinBroadcast (.claim swapId) tx) rfl

/-- The address to claim to: a new one for an incoming swap without one. -/
def ensureClaimAddress (swap : ChainSwap) : Async (Option Address) :=
  match swap.direction, swap.claimAddress with
  | .incoming, none => do
      let address ← Task.askOk .nextUnusedAddress Call.answer_nextUnusedAddress
      return some address
  | _, claimAddress => return claimAddress

/-- The claim once its swap is marked: the id is recorded before the broadcast and unset if that fails. -/
def claimInner (swapId : SwapId) : Async Unit := do
  let swap ← fetchChainSwapById swapId
  if swap.claimTxId.isSome then Task.throw .alreadyClaimed
  else do
    let claimAddress ← ensureClaimAddress swap
    let claimTx ← Task.askOk (.createClaimTx swap claimAddress) rfl
    -- if another claim has been set in the meantime, this one is not broadcast
    tryWrite fun now db => db.setChainSwapClaim now swapId claimAddress claimTx.txid
    match ← (broadcastClaim swapId claimTx).attempt with
    | .ok claimTxId =>
        match swap.direction with
        | .incoming => write fun now db =>
            db.insertOrUpdatePayment now { txId := claimTxId, timestamp := some now }
        | .outgoing => return ()
    | .error err => do
        write fun now db => db.unsetChainSwapClaimTxId now swapId claimTx.txid
        Task.throw err

/-- `claim` is reached; a swap whose claim is in progress is left alone. -/
def enterClaim (swapId : SwapId) (w : World) : World :=
  ({ w with
      claimingSwaps :=
        if swapId ∈ w.claimingSwaps then w.claimingSwaps else swapId :: w.claimingSwaps } : World).note
    (.claimReached swapId (w.db.fetchChainSwapById swapId))

def leaveClaim (swapId : SwapId) (w : World) : World :=
  { w with claimingSwaps := w.claimingSwaps.filter (· ≠ swapId) }

/-- `claim`, one at a time for each swap. -/
def claim (swapId : SwapId) : Async Unit :=
  .atomic (enterClaim swapId) fun w =>
    if swapId ∈ w.claimingSwaps then return ()
    else do
      let result ← (claimInner swapId).attempt
      Task.modify (leaveClaim swapId)
      Task.ofExcept result

section Within

variable {F : (World → World) → Prop} {G : Call → Prop} {swapId : SwapId}

/-- The broadcast of a claim, and of an incoming one the second way in. -/
theorem within_broadcastClaim (hliquid : ∀ tx, G (.liquidBroadcast (.claim swapId) tx))
    (hservice : ∀ tx, G (.broadcastTx (.claim swapId) tx))
    (hbitcoin : ∀ tx, G (.bitcoinBroadcast (.claim swapId) tx)) (tx : SdkTransaction) :
    (broadcastClaim swapId tx).Within F G := by
  cases tx with
  | liquid tx =>
      refine Task.Within.bind (Task.Within.attempt (Task.within_askOk (hliquid tx) _)) fun res => ?_
      cases res with
      | ok txId => exact Task.within_done _
      | error err =>
          dsimp only
          split
          · exact Task.within_done _
          · exact Task.within_askOk (hservice tx) _
  | bitcoin tx => exact Task.within_askOk (hbitcoin tx) rfl

/-- What a claim does, beside its broadcast. -/
theorem within_claimInner (hid : F id) (haddress : G .nextUnusedAddress)
    (hcreate : ∀ swap claimAddress, G (.createClaimTx swap claimAddress))
    (hset : ∀ claimAddress txId, F (World.tryWrite fun now db =>
      db.setChainSwapClaim now swapId claimAddress txId))
    (hunset : ∀ txId, F (World.write fun now db => db.unsetChainSwapClaimTxId now swapId txId))
    (hpayment : ∀ txId, F (World.write fun now db =>
      db.insertOrUpdatePayment now { txId, timestamp := some now }))
    (hbroadcast : ∀ tx, (broadcastClaim swapId tx).Within F G) : (claimInner swapId).Within F G := by
  refine Task.Within.bind (Task.Within.bind (within_fetch hid _) fun _ => Task.within_done _) fun swap => ?_
  split
  · exact Task.within_done _
  · refine Task.Within.bind ?_ fun claimAddress => ?_
    · unfold ensureClaimAddress
      split
      · exact Task.Within.bind (Task.within_askOk haddress _) fun _ => Task.within_done _
      · exact Task.within_done _
    · refine Task.Within.bind (Task.within_askOk (hcreate swap claimAddress) rfl) fun claimTx => ?_
      refine Task.Within.bind (within_tryWrite (hset claimAddress _)) fun _ => ?_
      refine Task.Within.bind (hbroadcast claimTx).attempt fun res => ?_
      cases res with
      | ok claimTxId =>
          dsimp only
          split
          · exact within_write (hpayment claimTxId)
          · exact Task.within_done _
      | error err => exact Task.Within.bind (within_write (hunset _)) fun _ => Task.within_done _

/-- A claim marks the swap, and unmarks it whatever comes of it. -/
theorem within_claim (henter : F (enterClaim swapId)) (hleave : F (leaveClaim swapId))
    (hinner : (claimInner swapId).Within F G) : (claim swapId).Within F G := by
  refine ⟨henter, fun w => ?_⟩
  dsimp only
  split
  · exact Task.within_done _
  · refine Task.Within.bind hinner.attempt fun result => ?_
    exact Task.Within.bind (Task.within_modify hleave) fun _ => Task.within_done _

end Within

/-- The claim of a rescanned swap, if its server lockup is confirmed by now. -/
def claimConfirmedServerLockup (swap : ChainSwap) : Async Unit :=
  match swap.serverLockupTxId with
  | none => return ()
  | some txId => do
      let swapScript ← Task.ofExcept (swap.getClaimSwapScript sdk.bz)
      let scriptHistory ← fetchScriptHistory swapScript
      let h ← Task.ofExcept (okOr (scriptHistory.find? fun h => h.txid = txId)
        ("Server lockup tx for Chain Swap " ++ swap.id ++ " was not found, txid=" ++ txId))
      if 0 < h.height then
        mapErr (Err.after ("Could not claim Chain Swap " ++ swap.id ++ ": ")) (claim swap.id)
      else return ()

/-- The swaps whose server lockups are rescanned on a block. -/
def claimable (direction : Direction) (db : Db) : List ChainSwap :=
  db.listChainSwaps.filter fun s =>
    s.direction = direction && s.state = .pending && s.claimTxId.isNone

def claimAll (direction : Direction) : Async Unit := do
  let chainSwaps ← fetch (claimable direction)
  Task.forEach chainSwaps fun swap => do
    let _ ← (claimConfirmedServerLockup sdk swap).attempt
    return ()

def claimIncoming : Async Unit := claimAll sdk .incoming

def claimOutgoing : Async Unit := claimAll sdk .outgoing

/-! ## Refunds -/

def ensureRefundAddress (swap : ChainSwap) : Async Address :=
  match swap.refundAddress with
  | some refundAddress => return refundAddress
  | none => do
      let address ← Task.askOk .nextUnusedAddress Call.answer_nextUnusedAddress
      write fun now db => db.setChainSwapRefundAddress now swap.id address
      return address

/-- `refund_outgoing_swap`: one transaction spends everything at the lockup script. -/
def refundOutgoingSwap (swap : ChainSwap) (isCooperative : Bool) : Async TxId :=
  if swap.refundTxId.isSome then
    Task.throw (.generic ("A refund tx for outgoing Chain Swap " ++ swap.id ++
      " was already broadcast"))
  else do
    match ← Task.ofExcept (swap.getLockupSwapScript sdk.bz) with
    | .bitcoin _ => Task.throw (.generic "Unexpected swap script type found")
    | .liquid swapScript => do
        let scriptPk ← Task.ofExcept
          (okOr swapScript.toAddress "Could not retrieve address from swap script")
        let utxos ← Task.askOk (.liquidScriptUtxos scriptPk) (Call.answer_liquidScriptUtxos scriptPk)
        let refundAddress ← ensureRefundAddress swap
        match ← Task.askOk (.createRefundTx (.chain swap) refundAddress utxos isCooperative) rfl with
        | .liquid refundTx => Task.askOk (.liquidBroadcast (.refund swap.id) refundTx) rfl
        | .bitcoin _ =>
            Task.throw (.generic
              ("Unexpected refund tx type returned for outgoing Chain swap " ++ swap.id))

/-- `refund_incoming_swap`, at the request of the user. -/
def refundIncomingSwap (lockupAddress refundAddress : Address) (isCooperative : Bool) :
    Async TxId := do
  let swap ← fetch (·.fetchChainSwapByLockupAddress lockupAddress)
  let swap ← Task.ofExcept
    (okOr swap ("Swap for lockup address " ++ lockupAddress ++ " not found"))
  if swap.state.isRefundable then do
    match ← Task.ofExcept (swap.getLockupSwapScript sdk.bz) with
    | .liquid _ => Task.throw (.generic "Unexpected swap script type found")
    | .bitcoin swapScript => do
        let scriptPk ← Task.ofExcept
          (okOr swapScript.toAddress "Could not retrieve address from swap script")
        let utxos ← Task.askOk (.bitcoinScriptUtxos scriptPk) rfl
        match ← Task.askOk (.createRefundTx (.chain swap) refundAddress utxos isCooperative) rfl with
        | .liquid _ =>
            Task.throw (.generic
              ("Unexpected refund tx type returned for incoming Chain swap " ++ swap.id))
        | .bitcoin refundTx => do
            let refundTxId ← Task.askOk (.bitcoinBroadcast (.refund swap.id) refundTx) rfl
            updateSwapInfo
              { swapId := swap.id, toState := .refundPending, refundTxId := some refundTxId }
            return refundTxId
  else Task.throw (.generic ("Chain Swap " ++ swap.id ++ " was not in refundable state"))

/-- The refund attempts for a swap in `RefundPending`. -/
def refundPendingSwap (swap : ChainSwap) (hasSwapExpired : Bool) : Async TxId :=
  if hasSwapExpired then do
    match ← (refundOutgoingSwap sdk swap true).attempt with
    | .ok refundTxId => return refundTxId
    | .error _ => refundOutgoingSwap sdk swap false
  else refundOutgoingSwap sdk swap true

/-- Record a refund; an error is only logged. -/
def recordRefund (swapId : SwapId) (refund : Except Err TxId) : Async Unit :=
  match refund with
  | .ok refundTxId => do
      let _ ← (updateSwapInfo
        { swapId, toState := .refundPending, refundTxId := some refundTxId }).attempt
      return ()
  | .error _ => return ()

/-- One round of the loop of `refund_outgoing`. -/
def tryRefundOutgoing (height : Nat) (swap : ChainSwap) : Async Unit := do
  let lockupScript ← Task.ofExcept (swap.getLockupSwapScript sdk.bz)
  let swapScript ← Task.ofExcept lockupScript.asLiquidScript
  let locktimeFromHeight ← Task.ofExcept (LockTime.fromHeight height)
  let hasSwapExpired := isLocktimeExpired locktimeFromHeight swapScript.locktime
  if hasSwapExpired ∨ swap.state = .refundPending then
    match swap.state with
    | .pending => do
        let refundTxIdRes ← (refundOutgoingSwap sdk swap false).attempt
        recordRefund swap.id refundTxIdRes
    | .refundPending => do
        let refundTxIdRes ← (refundPendingSwap sdk swap hasSwapExpired).attempt
        recordRefund swap.id refundTxIdRes
    | _ => return ()
  else return ()

/-- The pending outgoing swaps are refunded one after the other. -/
def refundOutgoing (height : Nat) : Async Unit := do
  let pendingSwaps ← fetch fun db =>
    db.listPendingChainSwaps.filter fun s => s.direction = .outgoing && s.refundTxId.isNone
  Task.forEach pendingSwaps (tryRefundOutgoing sdk height)

/-! ## Blocks -/

def onBitcoinBlock : Async Unit := do
  let _ ← (claimOutgoing sdk).attempt
  return ()

def onLiquidBlock (height : Nat) : Async Unit := do
  let _ ← (refundOutgoing sdk height).attempt
  let _ ← (claimIncoming sdk).attempt
  return ()

/-! ## Zero-amount swaps -/

def DEFAULT_ONCHAIN_FEE_RATE_LEEWAY_SAT : Nat := 500

inductive ValidateAmountlessSwapResult where
  | readyForAccepting (userLockupAmountSat receiverAmountSat : Nat)
  | requiresUserAction (userLockupAmountSat : Nat)
  deriving DecidableEq, Repr

/-- The confirmed balance of the lockup script, or else the unconfirmed one. -/
def userLockupAmount (scriptBalance : BtcScriptBalance) : Nat :=
  if 0 < scriptBalance.confirmed then scriptBalance.confirmed
  else if 0 < scriptBalance.unconfirmed then scriptBalance.unconfirmed.natAbs
  else 0

/-- The least quote for the server lockup that is accepted without asking the user. -/
def minAutoAcceptServerLockupAmountSat (pair : ChainPair) (userLockupAmountSat : Nat) : Nat :=
  u64Sub (u64Sub userLockupAmountSat pair.serverFee) (pair.boltzFee userLockupAmountSat) -
    sdk.onchainFeeRateLeewaySat.getD DEFAULT_ONCHAIN_FEE_RATE_LEEWAY_SAT

/-- `validate_amountless_swap`: whether the quote can be accepted, or the user is asked. -/
def validateAmountlessSwap (swap : ChainSwap) (quoteServerLockupAmountSat : Nat) :
    Async ValidateAmountlessSwapResult :=
  if swap.direction ≠ .incoming then
    Task.throw (.generic ("Only an incoming chain swap can be a zero-amount swap. Swap ID: " ++
      swap.id))
  else do
    let lockupScript ← Task.ofExcept (swap.getLockupSwapScript sdk.bz)
    let bitcoinScript ← Task.ofExcept lockupScript.asBitcoinScript
    let script ← Task.ofExcept (okOr bitcoinScript.toAddress "Error getting script address")
    let scriptBalance ← Task.askOk (.bitcoinScriptBalance script) rfl
    let userLockupAmountSat := userLockupAmount scriptBalance
    if userLockupAmountSat = 0 then
      Task.throw (.generic "Lockup address has no confirmed or unconfirmed balance")
    else do
      let pair ← Task.ofExcept (swap.getBoltzPair sdk.bz)
      if quoteServerLockupAmountSat <
          minAutoAcceptServerLockupAmountSat sdk pair userLockupAmountSat then
        return .requiresUserAction userLockupAmountSat
      else
        return .readyForAccepting userLockupAmountSat
          (u64Sub quoteServerLockupAmountSat swap.claimFeesSat)

def updateAcceptedReceiverAmount (swapId : SwapId) (acceptedReceiverAmountSat : Option Nat) :
    Async Unit :=
  write fun now db => db.updateAcceptedReceiverAmount sdk.persister now swapId
    acceptedReceiverAmountSat

/-- Accept a quote; if that fails, erase the accepted amount. -/
def acceptQuote (swapId : SwapId) (quote : Nat) : Async Unit := do
  match ← (Task.askOk (.acceptZeroAmountChainSwapQuote swapId quote) rfl).attempt with
  | .ok _ => return ()
  | .error err => do
      updateAcceptedReceiverAmount sdk swapId none
      Task.throw err

/-- The accepted amount was persisted optimistically; a failed acceptance may have left it behind. -/
def eraseAcceptedReceiverAmount (swap : ChainSwap) : Async Unit :=
  if swap.acceptedReceiverAmountSat.isSome then updateAcceptedReceiverAmount sdk swap.id none
  else return ()

/-- `handle_amountless_update`. -/
def handleAmountlessUpdate (swap : ChainSwap) : Async Unit := do
  eraseAcceptedReceiverAmount sdk swap
  let quote ← Task.askOk (.getZeroAmountChainSwapQuote swap.id) rfl
  match ← validateAmountlessSwap sdk swap quote with
  | .readyForAccepting userLockupAmountSat receiverAmountSat => do
      write fun now db => db.updateActualPayerAmount now swap.id userLockupAmountSat
      updateAcceptedReceiverAmount sdk swap.id (some receiverAmountSat)
      acceptQuote sdk swap.id quote
      write fun now db => db.setChainSwapAutoAcceptedFees sdk.persister now swap.id
  | .requiresUserAction userLockupAmountSat => do
      write fun now db => db.updateActualPayerAmount now swap.id userLockupAmountSat
      updateSwapInfo { swapId := swap.id, toState := .waitingFeeAcceptance }

/-! ## Status updates -/

/-- `TransactionInfo` of an update about the server lockup. -/
def serverTransaction (update : SwapStatus) : Async TransactionInfo :=
  Task.ofExcept (okOr update.transaction "Unexpected payload from Boltz status stream")

/-- The verification of the user lockup that comes before that of the server lockup. -/
def requireUserLockup (swap : ChainSwap) : Async Unit :=
  mapErr (Err.after "Could not verify user lockup transaction: ") (verifyUserLockupTx sdk swap)

def requireServerLockup (swap : ChainSwap) (transaction : TransactionInfo)
    (verifyConfirmation : Bool) : Async Unit :=
  mapErr (Err.after ("Could not verify server lockup transaction " ++ transaction.id ++ ": "))
    (verifyServerLockupTx sdk swap transaction verifyConfirmation)

/-- The claim after a status update. -/
def delayedClaim (swap : ChainSwap) (swapId : SwapId) : Async Unit := do
  maybeDelayBeforeClaim swap.metadata.isLocal
  mapErr (Err.after "Could not post claim details. Err: ") (claim swapId)

/-- The server lockup is in the mempool: verify it, and claim if zero-conf. -/
def onTransactionServerMempool (swap : ChainSwap) (update : SwapStatus) : Async Unit :=
  match swap.claimTxId with
  | some _ => return ()
  | none => do
      let transaction ← serverTransaction update
      requireUserLockup sdk swap
      requireServerLockup sdk swap transaction false
      updateSwapInfo
        { swapId := update.id, toState := .pending, serverLockupTxId := some transaction.id }
      if swap.acceptZeroConf then delayedClaim swap update.id else return ()

/-- The server lockup of an outgoing swap is confirmed: verify it and claim. -/
def onOutgoingServerConfirmed (swap : ChainSwap) (update : SwapStatus) : Async Unit :=
  match swap.claimTxId with
  | some _ => return ()
  | none => do
      let transaction ← serverTransaction update
      requireUserLockup sdk swap
      requireServerLockup sdk swap transaction true
      updateSwapInfo
        { swapId := update.id, toState := .pending, serverLockupTxId := some transaction.id }
      delayedClaim swap update.id

/-- Mark a server lockup that could not be verified. -/
def noteUnverified (swapId : SwapId) (txId : TxId) (verifyRes : Except Err Unit) : Async Unit :=
  match verifyRes with
  | .ok _ => return ()
  | .error _ => note (.lockupUnverified swapId txId)

/-- The server lockup of an incoming swap is confirmed. Its id is recorded whether it is verified or
not: if it is not confirmed yet, a rescan is to claim it later. -/
def onIncomingServerConfirmed (swap : ChainSwap) (update : SwapStatus) : Async Unit :=
  match swap.claimTxId with
  | some _ => return ()
  | none => do
      let transaction ← serverTransaction update
      requireUserLockup sdk swap
      let verifyRes ← (requireServerLockup sdk swap transaction true).attempt
      noteUnverified update.id transaction.id verifyRes
      updateSwapInfo
        { swapId := update.id, toState := .pending, serverLockupTxId := some transaction.id }
      match verifyRes with
      | .ok _ => delayedClaim swap update.id
      | .error err => Task.throw err

/-- `update_chain_swap_accept_zero_conf`, if the update says so. -/
def updateAcceptZeroConf (update : SwapStatus) : Async Unit :=
  match update.zeroConfRejected with
  | some zeroConfRejected => write fun now db =>
      db.updateChainSwapAcceptZeroConf sdk.persister now update.id (!zeroConfRejected)
  | none => return ()

/-- The user lockup of an incoming swap is in the mempool or confirmed. -/
def onIncomingUserLockup (swap : ChainSwap) (update : SwapStatus) : Async Unit := do
  updateAcceptZeroConf sdk update
  match update.transaction with
  | some transaction => do
      let actualPayerAmount ← fetchIncomingSwapActualPayerAmount sdk swap
      write fun now db => db.updateActualPayerAmount now swap.id actualPayerAmount
      updateSwapInfo
        { swapId := update.id, toState := .pending, userLockupTxId := some transaction.id }
  | none => return ()

/-- The user lockup of an outgoing swap is in the mempool or confirmed. -/
def onOutgoingUserLockup (update : SwapStatus) : Async Unit := do
  updateAcceptZeroConf sdk update
  match update.transaction with
  | some transaction =>
      updateSwapInfo
        { swapId := update.id, toState := .pending, userLockupTxId := some transaction.id }
  | none => return ()

/-- An incoming swap that cannot succeed any more. -/
def onIncomingUnrecoverable (swap : ChainSwap) (swapId : SwapId) : Async Unit :=
  match swap.refundTxId with
  | some _ => return ()
  | none => do
      let lockupExists ← mapErr (fun _ => .generic "Failed to check if user lockup tx exists")
        (userLockupTxExists sdk swap)
      if lockupExists then
        updateSwapInfo { swapId, toState := .refundable }
      else updateSwapInfo { swapId, toState := .failed }

/-- A failed lockup; for a zero-amount swap it may only mean that a quote is to be accepted. -/
def onIncomingLockupFailed (swap : ChainSwap) (swapId : SwapId) : Async Unit :=
  if swap.payerAmountSat = 0 then do
    match ← (handleAmountlessUpdate sdk swap).attempt with
    | .ok _ => return ()
    | .error _ => onIncomingUnrecoverable sdk swap swapId
  else onIncomingUnrecoverable sdk swap swapId

def chainSwapState (update : SwapStatus) : Async ChainSwapStates :=
  Task.ofExcept (okOr (sdk.bz.chainSwapStates update.status)
    ("Invalid ChainSwapState for Chain Swap " ++ update.id ++ ": " ++ update.status))

/-- `on_new_incoming_status` ... -/
def onNewIncomingStatus (swap : ChainSwap) (update : SwapStatus) : Async Unit := do
  match ← chainSwapState sdk update with
  | .transactionMempool | .transactionConfirmed => onIncomingUserLockup sdk swap update
  | .transactionServerMempool => onTransactionServerMempool sdk swap update
  | .transactionServerConfirmed => onIncomingServerConfirmed sdk swap update
  | .transactionLockupFailed => onIncomingLockupFailed sdk swap update.id
  | .transactionFailed | .transactionRefunded | .swapExpired =>
      onIncomingUnrecoverable sdk swap update.id
  | .created | .unhandled => return ()

/-- `lockup_funds`. -/
def lockupFunds (swapId : SwapId) (createResponse : InternalCreateChainResponse) :
    Async LBtcTransaction := do
  let lockupDetails := createResponse.lockupDetails
  let lockupTx ← Task.askOk
    (.buildTxOrDrainTx lockupDetails.lockupAddress lockupDetails.amount) rfl
  let _ ← Task.askOk (.liquidBroadcast (.lockup swapId) lockupTx) rfl
  return lockupTx

/-- The user lockup, unless the swap timed out or has one already. -/
def onCreated (swap : ChainSwap) (swapId : SwapId) : Async Unit :=
  match swap.state, swap.userLockupTxId with
  | .timedOut, _ => return ()
  | _, none => do
      note (.lockupAttempted swapId)
      let createResponse ← Task.ofExcept (swap.getBoltzCreateResponse sdk.bz)
      let userLockupTx ← lockupFunds swapId createResponse
      write fun now db => db.insertOrUpdatePayment now
        { txId := userLockupTx.txid, timestamp := some now, feesSat := userLockupTx.feesSat }
      updateSwapInfo { swapId, toState := .pending, userLockupTxId := some userLockupTx.txid }
  | _, some _ => return ()

/-- An outgoing swap that cannot succeed any more: refund it if its lockup was broadcast. -/
def onOutgoingUnrecoverable (swap : ChainSwap) (swapId : SwapId) : Async Unit :=
  match swap.refundTxId with
  | some _ => return ()
  | none =>
      match swap.userLockupTxId with
      | some _ => do
          let refundTxId ← (refundOutgoingSwap sdk swap true).attempt
          updateSwapInfo
            { swapId, toState := .refundPending, refundTxId := refundTxId.toOption }
      | none => updateSwapInfo { swapId, toState := .failed }

/-- ... and `on_new_outgoing_status`. -/
def onNewOutgoingStatus (swap : ChainSwap) (update : SwapStatus) : Async Unit := do
  match ← chainSwapState sdk update with
  | .created => onCreated sdk swap update.id
  | .transactionMempool | .transactionConfirmed => onOutgoingUserLockup sdk update
  | .transactionServerMempool => onTransactionServerMempool sdk swap update
  | .transactionServerConfirmed => onOutgoingServerConfirmed sdk swap update
  | .transactionFailed | .transactionLockupFailed | .transactionRefunded | .swapExpired =>
      onOutgoingUnrecoverable sdk swap update.id
  | .unhandled => return ()

def onNewStatus (update : SwapStatus) : Async Unit := do
  let swap ← fetchChainSwapById update.id
  match swap.direction with
  | .incoming => onNewIncomingStatus sdk swap update
  | .outgoing => onNewOutgoingStatus sdk swap update

/-! ## Callers in `sdk.rs` -/

/-- `accept_payment_proposed_fees`, with the fields of the request it uses. -/
def acceptPaymentProposedFees (swapId : SwapId) (feesSat payerAmountSat : Nat) : Async Unit := do
  let chainSwap ← fetch (·.fetchChainSwapById swapId)
  let chainSwap ← Task.ofExcept (okOr chainSwap ("Could not find Swap " ++ swapId))
  if chainSwap.state = .waitingFeeAcceptance then do
    let quote ← Task.askOk (.getZeroAmountChainSwapQuote swapId) rfl
    if feesSat = u64Add (u64Sub payerAmountSat quote) chainSwap.claimFeesSat then do
      updateAcceptedReceiverAmount sdk swapId (some (u64Sub payerAmountSat feesSat))
      acceptQuote sdk swapId quote
      updateSwapInfo { swapId, toState := .pending }
    else Task.throw .invalidOrExpiredFees
  else Task.throw (.generic "Payment is not WaitingFeeAcceptance")

/-- The timeout in `wait_for_payment_with_timeout`. -/
def onPaymentTimeout (swapId : SwapId) : Async Unit :=
  updateSwapInfo { swapId, toState := .timedOut }

/-- The chain swaps at the end of `sync_payments_with_chain_data` and of `rescan_onchain_swaps`: every
recovered swap is written, recovered or not; an error is only logged. -/
def persistRecovered (results : List (Swap × Outcome)) : Async Unit :=
  Task.forEach results fun result =>
    match result.1 with
    | .chain chainSwap => do
        let _ ← (updateSwap sdk chainSwap).attempt
        return ()
    | _ => return ()

/-- Recover swaps that were read before, and write the chain swaps among them. -/
def syncRecoverableSwaps (recoverableSwaps : List Swap) (chainTips : Option ChainTips) :
    Async Unit := do
  let (results, _) ← Recoverer.recoverFromOnchain sdk recoverableSwaps chainTips
  persistRecovered sdk results

/-- `rescan_onchain_swaps`. -/
def rescanOnchainSwaps : Async Unit := do
  let rescannableSwaps ← fetch (·.listChainSwaps)
  syncRecoverableSwaps sdk (rescannableSwaps.map Swap.chain) none

end Tasks

end BreezLiquid.Chain
