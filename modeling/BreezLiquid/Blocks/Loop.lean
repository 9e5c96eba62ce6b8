/-
# BreezLiquid.Blocks.Loop — the loop that follows the chains, and the syncs.

Every ten seconds `track_new_blocks` fetches the tips, recovers the swaps that are monitored, and calls the swap
handlers for a block that is new. The tips it has got to are stored, and a later start goes on from them. `sync` does
the first two of these on demand, next to the loop. During a first sync nobody is notified.

Around the loop is a `Device`: the world of the handlers, the cached items, and whether notifications are paused. The
cached tips can fail to be read or stored. The loop goes on all the same, and a later start may go on from older tips.
-/
import BreezLiquid.Chain.Monitoring

namespace BreezLiquid.Blocks

open Interleaving Recover

/-! ## The state -/

/-- The two chains. -/
inductive Blockchain where
  | liquid
  | bitcoin
  deriving DecidableEq, Repr

/-- The tips of both chains, as they are stored. -/
structure BlockchainInfo where
  liquidTip : Nat := 0
  bitcoinTip : Nat := 0
  deriving DecidableEq, Repr

def BlockchainInfo.tip (info : BlockchainInfo) : Blockchain → Nat
  | .liquid => info.liquidTip
  | .bitcoin => info.bitcoinTip

/-- Points of the loop. -/
inductive BlockEvent where
  /-- A fetched tip is the current one from now on. -/
  | tip (chain : Blockchain) (height : Nat)
  /-- The loop starts without the stored tips. -/
  | reset
  /-- It starts from this stored tip, though that it had got to could not be stored. -/
  | stale (chain : Blockchain) (height : Nat)
  /-- The handlers are about to be called for a new block. -/
  | block (chain : Blockchain) (height : Nat)
  deriving DecidableEq, Repr

/-- The loop, or a call of `sync`. -/
inductive Role where
  | loop
  | sync (n : Nat)
  deriving DecidableEq, Repr

/-- Points of a first sync. -/
inductive Phase where
  /-- No first sync was complete. -/
  | checked
  | paused
  | resumed
  | completed
  deriving DecidableEq, Repr

/-- What the loop and the syncs notify the listeners of. The events of payments and of swaps are not noted. -/
inductive Notification where
  | synced
  | syncFailed (error : Err)
  deriving DecidableEq, Repr

/-- What works of the cached items for now: a connection, a query, a write. -/
structure CacheAccess where
  opens : Bool := true
  reads : Bool := true
  writes : Bool := true
  deriving DecidableEq, Repr

/-- `blocks` and `syncs` are history variables, newest first; `syncs` says whose points they are. So is `unstored`: an
access to the stored tip of a chain has failed since it was last stored. -/
structure Device where
  world : World := {}
  access : CacheAccess := {}
  walletInfo : Option WalletInfo := none
  blockchainInfo : Option BlockchainInfo := none
  unstored : Blockchain → Bool := fun _ => false
  isFirstSyncComplete : Option Bool := none
  isPaused : Bool := false
  notified : List Notification := []
  blocks : List BlockEvent := []
  syncs : List (Role × Phase) := []

/-- The tasks of the loop and of the syncs. -/
abbrev DeviceAsync (α : Type) := Task Device Call Call.Answer Err α

namespace Device

/-- The answers of the services change the world of the device. -/
def effect (sdk : Sdk) (q : Call) (a : q.Answer) (d : Device) : Device :=
  { d with world := World.effect sdk q a d.world }

/-- The persister's `get_info`, of which the loop needs the tips: nothing without a wallet info. -/
def getInfo (d : Device) : Except Err (Option BlockchainInfo) :=
  if d.access.opens && d.access.reads then .ok (d.walletInfo.map fun _ => d.blockchainInfo.getD {})
  else .error (.generic "get_info")

/-- `get_cached_item`: a query that fails finds nothing. -/
def getBlockchainInfo (d : Device) : Except Err (Option BlockchainInfo) :=
  if d.access.opens then .ok (if d.access.reads then d.blockchainInfo else none)
  else .error (.generic "get_cached_item")

/-- A read that fails is remembered: the tips it would have found are unknown. -/
def noteUnread (d : Device) : Device :=
  { d with unstored := fun chain => d.unstored chain || !(d.access.opens && d.access.reads) }

/-- The database opens and takes a write. -/
def canStore (d : Device) : Bool := d.access.opens && d.access.writes

/-- A block is handed to the handlers. -/
def noteBlock (e : BlockEvent) (d : Device) : Device := { d with blocks := e :: d.blocks }

/-- The fetched tips become the current ones. -/
def noteTips (maybeLiquidTip maybeBitcoinTip : Option Nat) (d : Device) : Device :=
  { d with
    blocks := (maybeBitcoinTip.toList.map (.tip .bitcoin)) ++ (maybeLiquidTip.toList.map (.tip .liquid)) ++ d.blocks }

/-- `update_cached_item` with the tips, of which those of `chains` were fetched. -/
def setBlockchainInfo (chains : List Blockchain) (info : BlockchainInfo) (d : Device) : Device :=
  if d.canStore then
    { d with blockchainInfo := some info, unstored := fun chain => d.unstored chain && chain ∉ chains }
  else { d with unstored := fun chain => d.unstored chain || chain ∈ chains }

/-- The loop starts from these tips. -/
def noteStart (info : BlockchainInfo) (d : Device) : Device :=
  { d with
    blocks := (([.liquid, .bitcoin].filter d.unstored).map fun chain => .stale chain (info.tip chain)) ++ d.blocks }

/-- `EventManager::notify`. -/
def notify (e : Notification) (d : Device) : Device :=
  if d.isPaused then d else { d with notified := e :: d.notified }

/-- No completed sync is stored. -/
def isFirstSync (d : Device) : Bool := !d.isFirstSyncComplete.getD false

/-- A sync looks whether it is the first one. -/
def check (r : Role) (d : Device) : Device :=
  if d.isFirstSync then { d with syncs := (r, .checked) :: d.syncs } else d

/-- The first sync pauses the notifications of payments ... -/
def pauseNotifications (r : Role) (d : Device) : Device :=
  { d with isPaused := true, syncs := (r, .paused) :: d.syncs }

/-- ... resumes them ... -/
def resumeNotifications (r : Role) (d : Device) : Device :=
  { d with isPaused := false, syncs := (r, .resumed) :: d.syncs }

/-- ... and is complete. -/
def setIsFirstSyncComplete (r : Role) (d : Device) : Device :=
  { d with isFirstSyncComplete := some true, syncs := (r, .completed) :: d.syncs }

end Device

/-- A task of the handlers. -/
def onWorld {α : Type} (t : Async α) : DeviceAsync α := t.zoom Device.world fun world d => { d with world }

/-! ## The tips and the swaps -/

/-- `update_wallet_info`, as far as `get_info` needs it. -/
def updateWalletInfo : DeviceAsync Unit := do
  let walletInfo ← Task.askOk .getWalletInfo Call.answer_getWalletInfo
  Task.modify fun d => { d with walletInfo := some walletInfo }

/-- The persister's `get_info`. -/
def readInfo : DeviceAsync (Option BlockchainInfo) := .atomic id fun d => .done d.getInfo

/-- `get_info`, as far as the tips go. -/
def getInfo : DeviceAsync BlockchainInfo := do
  match ← readInfo with
  | some info => return info
  | none => do
      updateWalletInfo
      let maybeInfo ← readInfo
      Task.ofExcept (okOr maybeInfo "Info not found")

/-- Read the stored tips; a failed read finds nothing. -/
def readBlockchainInfo : DeviceAsync (Option BlockchainInfo) :=
  .atomic Device.noteUnread fun d => .done d.getBlockchainInfo

/-- Store tips, which fails if the database does. -/
def storeBlockchainInfo (chains : List Blockchain) (info : BlockchainInfo) : DeviceAsync Unit :=
  .atomic (Device.setBlockchainInfo chains info) fun d =>
    .done (if d.canStore then .ok () else .error (.generic "update_cached_item"))

/-- `update_blockchain_info`: without a Bitcoin tip the stored one is kept. -/
def updateBlockchainInfo (liquidTip : Nat) (bitcoinTip : Option Nat) : DeviceAsync Unit :=
  match bitcoinTip with
  | some bitcoinTip => storeBlockchainInfo [.liquid, .bitcoin] { liquidTip, bitcoinTip }
  | none => do
      let info ← readBlockchainInfo
      let currentTip := (info.map (·.bitcoinTip)).getD 0
      storeBlockchainInfo [.liquid] { liquidTip, bitcoinTip := currentTip }

/-- `GetSyncContextRequest`. -/
structure GetSyncContextRequest where
  partialSync : Option Bool
  lastLiquidTip : Nat
  lastBitcoinTip : Nat

/-- `SyncContext`: the tips that were fetched, the swaps to recover, and whether a tip is new. -/
structure SyncContext where
  maybeLiquidTip : Option Nat
  maybeBitcoinTip : Option Nat
  recoverableSwaps : List Swap
  isNewLiquidBlock : Bool
  isNewBitcoinBlock : Bool

/-- Only chain swaps need the Bitcoin tip. -/
def isChain : Swap → Bool
  | .chain _ => true
  | .send _ | .receive _ => false

/-- The tip was fetched and is above the last one. -/
def isNew (tip : Option Nat) (lastTip : Nat) : Bool := tip.any fun t => lastTip < t

/-- The Liquid tip, if it can be fetched. -/
def liquidTip : DeviceAsync (Option Nat) := do
  match ← (Task.askOk .liquidTip Call.answer_liquidTip).attempt with
  | .ok tip => return some tip
  | .error _ => return none

/-- `get_monitored_swaps_list`. -/
def getMonitoredSwapsList (onlyReceiveSwaps includeExpiredIncomingChainSwaps : Bool) (chainTips : ChainTips) :
    DeviceAsync (List Swap) :=
  onWorld (fetch fun db => db.getMonitoredSwapsList onlyReceiveSwaps includeExpiredIncomingChainSwaps chainTips)

/-- The Bitcoin tip is fetched only if there is a new Liquid block and a chain swap to look after. -/
def bitcoinTip (isNewLiquidBlock : Bool) (recoverableSwaps : List Swap) : DeviceAsync (Option Nat × List Swap) :=
  if !isNewLiquidBlock then return (none, recoverableSwaps)
  else if !recoverableSwaps.any isChain then return (none, recoverableSwaps)
  else do
    match ← (Task.askOk .bitcoinTip Call.answer_bitcoinTip).attempt with
    | .ok tip => return (some tip, recoverableSwaps)
    | .error _ => return (none, recoverableSwaps.filter fun swap => !isChain swap)

/-- The list is made again with the fetched tips, unless the caller has said what to sync. -/
def updatedSwaps (req : GetSyncContextRequest) (maybeLiquidTip maybeBitcoinTip : Option Nat)
    (recoverableSwaps : List Swap) : DeviceAsync (List Swap) :=
  match maybeLiquidTip, req.partialSync with
  | none, _ => return []
  | some _, some _ => return recoverableSwaps
  | some liquidTip, none =>
      let isNewLiquidBlock := isNew maybeLiquidTip req.lastLiquidTip
      let isNewBitcoinBlock := isNew maybeBitcoinTip req.lastBitcoinTip
      getMonitoredSwapsList (!isNewLiquidBlock && !isNewBitcoinBlock) isNewBitcoinBlock
        ⟨liquidTip, maybeBitcoinTip⟩

/-- `get_sync_context`. -/
def getSyncContext (req : GetSyncContextRequest) : DeviceAsync SyncContext := do
  let maybeLiquidTip ← liquidTip
  let isNewLiquidBlock := isNew maybeLiquidTip req.lastLiquidTip
  let recoverableSwaps ← getMonitoredSwapsList (req.partialSync.getD false) true
    ⟨maybeLiquidTip.getD req.lastLiquidTip, some req.lastBitcoinTip⟩
  let fetched ← bitcoinTip isNewLiquidBlock recoverableSwaps
  let recoverableSwaps ← updatedSwaps req maybeLiquidTip fetched.1 fetched.2
  return {
    maybeLiquidTip
    maybeBitcoinTip := fetched.1
    recoverableSwaps
    isNewLiquidBlock
    isNewBitcoinBlock := isNew fetched.1 req.lastBitcoinTip }

/-! ## Syncs -/

section Sync

variable (sdk : Sdk)

/-- The sync itself, with the notifications paused if it is the first one. -/
def syncPaymentsOnce (r : Role) (isFirstSync : Bool) (recoverableSwaps : List Swap) (chainTips : ChainTips) :
    DeviceAsync Unit :=
  match isFirstSync with
  | true => do
      Task.modify (Device.pauseNotifications r)
      onWorld (Chain.syncPaymentsWithChainData sdk recoverableSwaps chainTips)
      Task.modify (Device.resumeNotifications r)
      Task.modify (Device.setIsFirstSyncComplete r)
  | false => onWorld (Chain.syncPaymentsWithChainData sdk recoverableSwaps chainTips)

/-- Whether a sync is the first one, with a mark of the answer. -/
def getIsFirstSync (r : Role) : DeviceAsync Bool := .atomic (Device.check r) fun d => .done (.ok d.isFirstSync)

/-- `sync_inner`, from the scan of the wallet to the event. -/
def syncInner (r : Role) (recoverableSwaps : List Swap) (chainTips : ChainTips) : DeviceAsync Unit := do
  Task.askOk .fullScan Call.answer_fullScan
  let isFirstSync ← getIsFirstSync r
  syncPaymentsOnce sdk r isFirstSync recoverableSwaps chainTips
  Task.modify (Device.notify .synced)

/-- `sync`. -/
def sync (r : Role) (partialSync : Bool) : DeviceAsync Unit := do
  let blockchainInfo ← getInfo
  let syncContext ← getSyncContext
    { partialSync := some partialSync
      lastLiquidTip := blockchainInfo.liquidTip
      lastBitcoinTip := blockchainInfo.bitcoinTip }
  let liquidTip ← Task.ofExcept (okOr syncContext.maybeLiquidTip "Liquid tip not available")
  syncInner sdk r syncContext.recoverableSwaps ⟨liquidTip, syncContext.maybeBitcoinTip⟩

/-! ## The loop -/

/-- What is stored and recovered once the Liquid tip is known. -/
def syncToTips (syncContext : SyncContext) : DeviceAsync Unit :=
  match syncContext.maybeLiquidTip with
  | none => return ()
  | some liquidTip => do
      -- that the tips could not be stored is a warning only
      let _ ← (updateBlockchainInfo liquidTip syncContext.maybeBitcoinTip).attempt
      match ← (syncInner sdk .loop syncContext.recoverableSwaps
          ⟨liquidTip, syncContext.maybeBitcoinTip⟩).attempt with
      | .ok _ => return ()
      | .error error => Task.modify (Device.notify (.syncFailed error))

/-- The handlers of a new Liquid block. -/
def onLiquidBlock (isNewLiquidBlock : Bool) (height : Nat) : DeviceAsync Unit :=
  if isNewLiquidBlock then do
    Task.modify (Device.noteBlock (.block .liquid height))
    onWorld (Chain.onLiquidBlock sdk height)
    onWorld (Receive.onLiquidBlock sdk)
    onWorld (Send.onLiquidBlock sdk)
  else return ()

/-- The handlers of a new Bitcoin block; those of the receive and send swaps do nothing. -/
def onBitcoinBlock (isNewBitcoinBlock : Bool) (height : Nat) : DeviceAsync Unit :=
  if isNewBitcoinBlock then do
    Task.modify (Device.noteBlock (.block .bitcoin height))
    onWorld (Chain.onBitcoinBlock sdk)
  else return ()

/-- The tips that are current after a fetch. -/
def SyncContext.current (syncContext : SyncContext) (last : BlockchainInfo) : BlockchainInfo where
  liquidTip := syncContext.maybeLiquidTip.getD last.liquidTip
  bitcoinTip := syncContext.maybeBitcoinTip.getD last.bitcoinTip

/-- What is done once the context is there. -/
def onSyncContext (last : BlockchainInfo) (syncContext : SyncContext) : DeviceAsync BlockchainInfo := do
  let current := syncContext.current last
  Task.modify (Device.noteTips syncContext.maybeLiquidTip syncContext.maybeBitcoinTip)
  syncToTips sdk syncContext
  onLiquidBlock sdk syncContext.isNewLiquidBlock current.liquidTip
  onBitcoinBlock sdk syncContext.isNewBitcoinBlock current.bitcoinTip
  return current

/-- One iteration, from the tips that were current before it to those that are after it. -/
def trackNewBlocks (last : BlockchainInfo) : DeviceAsync BlockchainInfo := do
  match ← (getSyncContext
      { partialSync := none, lastLiquidTip := last.liquidTip, lastBitcoinTip := last.bitcoinTip }).attempt with
  | .error _ => return last
  | .ok syncContext => onSyncContext sdk last syncContext

/-- Some iterations, with a pause before each. -/
def trackNewBlocksLoop : Nat → BlockchainInfo → DeviceAsync Unit
  | 0, _ => return ()
  | n + 1, last => do
      let _ ← Task.ask (.sleep 10)
      let current ← trackNewBlocks sdk last
      trackNewBlocksLoop n current

/-- The stored tips, or zeros. -/
def lastBlockchainInfo : DeviceAsync BlockchainInfo := do
  match ← getInfo.attempt with
  | .ok info => do
      Task.modify (Device.noteStart info)
      return info
  | .error _ => do
      Task.modify (Device.noteBlock .reset)
      return {}

/-- The task that `start` spawns: the tips are read once, and every iteration goes on from those of the last
one. -/
def trackNewBlocksTask (iterations : Nat) : DeviceAsync Unit := do
  let last ← lastBlockchainInfo
  let current ← trackNewBlocks sdk last
  trackNewBlocksLoop sdk iterations current

end Sync

/-! ## What the tasks of the handlers leave alone -/

/-- What changes the world or the wallet info alone is among the transactions. -/
structure Leaves (F : (Device → Device) → Prop) : Prop where
  id : F id
  world : ∀ f : World → World, F fun d => { d with world := f d.world }
  walletInfo : ∀ walletInfo : WalletInfo, F fun d => { d with walletInfo := some walletInfo }

section Leaves

variable {F : (Device → Device) → Prop}

/-- Fetching tips and reading the database are among what every role may do. -/
theorem within_bitcoinTip (isNewLiquidBlock : Bool) (swaps : List Swap) :
    (bitcoinTip isNewLiquidBlock swaps).Within F fun _ => True := by
  unfold bitcoinTip
  split
  · exact Task.within_done _
  split
  · exact Task.within_done _
  · refine Task.Within.bind (Task.within_askOk trivial rfl).attempt fun tip => ?_
    cases tip with
    | ok tip => exact Task.within_done _
    | error err => exact Task.within_done _

variable (hF : Leaves F)

include hF

/-- A task over the world leaves the device's own fields alone. -/
theorem Leaves.onWorld {α : Type} (t : Async α) : (onWorld t).Within F fun _ => True :=
  Task.within_zoom _ _ hF.world (fun _ => trivial) t

theorem Leaves.readInfo : readInfo.Within F fun _ => True := ⟨hF.id, fun _ => trivial⟩

/-- So do the parts of a sync before the swaps are recovered. -/
theorem Leaves.getInfo : getInfo.Within F fun _ => True := by
  refine Task.Within.bind hF.readInfo fun maybeInfo => ?_
  cases maybeInfo with
  | some info => exact Task.within_done _
  | none =>
      refine Task.Within.bind ?_ fun _ => Task.Within.bind hF.readInfo fun _ => Task.within_done _
      refine Task.Within.bind (Task.within_askOk trivial rfl) fun walletInfo => ?_
      exact Task.within_modify (hF.walletInfo walletInfo)

theorem Leaves.updatedSwaps (req : GetSyncContextRequest) (maybeLiquidTip maybeBitcoinTip : Option Nat)
    (swaps : List Swap) : (updatedSwaps req maybeLiquidTip maybeBitcoinTip swaps).Within F fun _ => True := by
  unfold Blocks.updatedSwaps
  split
  · exact Task.within_done _
  · exact Task.within_done _
  · exact hF.onWorld _

theorem Leaves.getSyncContext (req : GetSyncContextRequest) : (getSyncContext req).Within F fun _ => True := by
  refine Task.Within.bind ?_ fun maybeLiquidTip => ?_
  · refine Task.Within.bind (Task.within_askOk trivial rfl).attempt fun tip => ?_
    cases tip with
    | ok tip => exact Task.within_done _
    | error err => exact Task.within_done _
  · refine Task.Within.bind (hF.onWorld _) fun swaps => ?_
    refine Task.Within.bind (within_bitcoinTip _ swaps) fun fetched => ?_
    exact Task.Within.bind (hF.updatedSwaps req _ _ _) fun swaps => Task.within_done _

end Leaves

/-! ## The system -/

section System

variable (sdk : Sdk)

/-- The loop, or a call of `sync`. -/
inductive Spawned : Role → DeviceAsync Unit → Prop where
  | loop (iterations : Nat) : Spawned .loop (trackNewBlocksTask sdk iterations)
  | sync (n : Nat) (partialSync : Bool) : Spawned (.sync n) (sync sdk (.sync n) partialSync)

/-- One loop and any number of syncs, each under a role of its own. The rest of the SDK may change the world and the
wallet info in any way, and the cached items may become inaccessible and accessible again at any time. A stop aborts the
loop, and a start spawns it again. -/
def deviceSystem : System Device Call Call.Answer Err Role where
  effect := Device.effect sdk
  spawns roles _ r t := r ∉ roles ∧ Spawned sdk r t
  env d d' := ∃ world access walletInfo, d' = { d with world, access, walletInfo }

end System

/-! ## A fresh device -/

/-- A device for the examples ... -/
def blocksSdk : Sdk where
  bz := .byAddress 0
  persister := { codec := .table fun _ => none }

/-- ... just started, with the wallet info it read. -/
def startedDevice : Device := { walletInfo := some { balanceSat := 0 } }

/-- The Liquid tip can be fetched. -/
def tipAnswers (tip : Nat) : Nat → (q : Call) → q.Answer
  | _, .liquidTip => .ok tip
  | _, .fullScan => .ok ()
  | _, q => q.offline

end BreezLiquid.Blocks
