/-
# BreezLiquid.Receive.LockupAmount — what a lockup has to pay.

Two checks compare a Liquid lockup with the expected amount: the one of a receive swap looks at the first output
to the claim script, the one of an incoming chain swap adds all of them up, in 64 bits. Neither looks at the asset. They
are compared with what the outputs hold of L-BTC.
-/
import BreezLiquid.Chain.Footprint
import BreezLiquid.Receive.Handler

namespace BreezLiquid.Receive

open Interleaving Wrapping

/-! ## What outputs hold -/

/-- The outputs of a transaction to a script. -/
def outputsTo (script : Script) (tx : LBtcTransaction) : List LBtcTxOut :=
  tx.output.filter fun out => out.scriptPubkey = script

namespace LBtcTxOut

/-- What an output holds of an asset. -/
def valueOf (asset : AssetId) (out : LBtcTxOut) : Nat :=
  match out.unblinded with
  | some (outAsset, value) => if outAsset = asset then value else 0
  | none => 0

end LBtcTxOut

/-- What outputs hold of an asset in total. -/
def assetValue (asset : AssetId) (outs : List LBtcTxOut) : Nat := (outs.map (LBtcTxOut.valueOf asset)).sum

/-! ## What the checks accept -/

section Checks

variable {sdk : Sdk} {script : Script} {tx : LBtcTransaction}

/-- The script and the amount of a receive swap's lockup. -/
structure AwaitsLockup (sdk : Sdk) (receiveSwap : ReceiveSwap) (script : Script) (expected : Nat) : Prop where
  address : swapAddress sdk receiveSwap = .ok script
  blindingKey : ∃ response key, receiveSwap.getBoltzCreateResponse sdk.bz = .ok response ∧
    response.blindingKey = some key
  expected_eq : expectedLockupAmountSat receiveSwap = expected

/-- The script and the amount of the server lockup of an incoming chain swap. -/
structure AwaitsServerLockup (sdk : Sdk) (chainSwap : ChainSwap) (script : Script) (expected : Nat) : Prop where
  incoming : chainSwap.direction = .incoming
  address : ∃ swapScript liquidSwapScript, chainSwap.getClaimSwapScript sdk.bz = .ok swapScript ∧
    swapScript.asLiquidScript = .ok liquidSwapScript ∧ Chain.scriptPubkey liquidSwapScript = .ok script
  expected_eq : ∃ response, chainSwap.getBoltzCreateResponse sdk.bz = .ok response ∧
    Chain.expectedServerLockupAmountSat chainSwap response.claimDetails = expected

/-- The check of a receive swap's lockup passes. -/
def Accepts (sdk : Sdk) (receiveSwap : ReceiveSwap) (tx : LBtcTransaction) : Prop :=
  checkLockupAmount sdk receiveSwap tx = .ok ()

/-- The chain service has found the transaction. -/
def foundAnswers (tx : LBtcTransaction) : Nat → (q : Call) → q.Answer
  | _, .liquidVerifyTx .. => .ok tx
  | _, q => q.offline

/-- The verification of a server lockup passes for a transaction that is found and confirmed. -/
def AcceptsServer (sdk : Sdk) (chainSwap : ChainSwap) (tx : LBtcTransaction) : Prop :=
  ((Chain.verifyIncomingServerLockupTx sdk chainSwap { id := tx.txid, hex := some (sdk.serializeTx tx) } true).run
    (World.effect sdk) (foundAnswers tx) (0, {})).1 = .ok ()

/-- A receive swap's check reads the first output to the script. -/
theorem accepts_iff {receiveSwap : ReceiveSwap} {expected : Nat}
    (h : AwaitsLockup sdk receiveSwap script expected) :
    Accepts sdk receiveSwap tx ↔
      ∃ out rest secrets, outputsTo script tx = out :: rest ∧ out.unblinded = some secrets ∧ expected ≤ secrets.2 := by
  obtain ⟨response, key, hresponse, hkey⟩ := h.blindingKey
  have hfirst : tx.output.find? (fun out => out.scriptPubkey = script) = (outputsTo script tx).head? := by
    unfold outputsTo
    rw [List.head?_filter]
  have hcheck : checkLockupAmount sdk receiveSwap tx = (do
      let lockupAmountSat ← lockupAmount script tx
      if lockupAmountSat < expected then
        .error (.generic ("Failed to verify lockup amount for Receive Swap " ++ receiveSwap.id ++ ": " ++
          toString expected ++ " sat vs " ++ toString lockupAmountSat ++ " sat"))
      else .ok ()) := by
    unfold checkLockupAmount
    rw [h.address, hresponse, h.expected_eq]
    show (okOr response.blindingKey "Missing blinding key" >>= fun _ => _) = _
    rw [hkey]
    rfl
  unfold Accepts
  rw [hcheck, except_bind_eq_ok]
  unfold lockupAmount
  rw [hfirst]
  constructor
  · rintro ⟨amount, hamount, hle⟩
    obtain ⟨out, hout, hamount⟩ := except_bind_eq_ok.mp hamount
    rw [okOr_eq_ok] at hout hamount
    obtain ⟨secrets, hsecrets, rfl⟩ := Option.map_eq_some_iff.mp hamount
    obtain ⟨rest, hrest⟩ := List.head?_eq_some_iff.mp hout
    refine ⟨out, rest, secrets, hrest, hsecrets, ?_⟩
    split at hle
    · cases hle
    · omega
  · rintro ⟨out, rest, secrets, hrest, hsecrets, hle⟩
    refine ⟨secrets.2, ?_, if_neg (by omega)⟩
    rw [hrest]
    show (okOr (out.unblinded.map Prod.snd) "Failed to unblind the output") = _
    rw [hsecrets]
    rfl

/-- A chain swap's check adds up all outputs to the script. -/
theorem acceptsServer_iff {chainSwap : ChainSwap} {expected : Nat}
    (h : AwaitsServerLockup sdk chainSwap script expected) :
    AcceptsServer sdk chainSwap tx ↔
      (∀ out ∈ outputsTo script tx, out.unblinded.isSome) ∧
        expected ≤ u64Sum ((outputsTo script tx).map LBtcTxOut.value) := by
  obtain ⟨swapScript, liquidSwapScript, hclaim, hliquid, haddress⟩ := h.address
  obtain ⟨response, hresponse, rfl⟩ := h.expected_eq
  unfold AcceptsServer Chain.verifyIncomingServerLockupTx
  rw [hclaim, hresponse]
  simp only [Task.bind_eq, Task.run_bind, Task.run_ofExcept]
  rw [hliquid]
  simp only [haddress]
  -- the transaction is found, and as it is confirmed its replaceability does not matter
  show (((Task.ofExcept (Chain.liquidValueTo script tx.output)).bind fun value =>
      Chain.checkServerLockupAmount chainSwap response.claimDetails (.liquid tx) value).run (World.effect sdk)
        (foundAnswers tx) (1, {})).1 = .ok () ↔ _
  rw [Task.run_bind_ok]
  constructor
  · rintro ⟨total, w', hvalue, hcheck⟩
    rw [Task.run_ofExcept, Prod.mk.injEq] at hvalue
    obtain ⟨hunblinded, rfl⟩ := Chain.liquidValueTo_eq_ok.mp hvalue.1
    exact ⟨hunblinded, Chain.run_checkServerLockupAmount.mp hcheck⟩
  · rintro ⟨hunblinded, hle⟩
    have hvalue : Chain.liquidValueTo script tx.output =
        .ok (u64Sum ((outputsTo script tx).map LBtcTxOut.value)) :=
      Chain.liquidValueTo_eq_ok.mpr ⟨hunblinded, rfl⟩
    refine ⟨_, (1, {}), ?_, Chain.run_checkServerLockupAmount.mpr hle⟩
    rw [Task.run_ofExcept, hvalue]

/-! ## Exactness -/

/-- The first output to the script decides: with enough L-BTC it has enough by itself, and without it is not of
another asset. -/
structure FirstDecides (lbtc : AssetId) (expected : Nat) (outs : List LBtcTxOut) : Prop where
  enough : expected ≤ assetValue lbtc outs → ∃ out rest secrets, outs = out :: rest ∧
    out.unblinded = some secrets ∧ expected ≤ secrets.2
  short : assetValue lbtc outs < expected → ∀ out rest asset value, outs = out :: rest →
    out.unblinded = some (asset, value) → asset ≠ lbtc → value < expected

/-- The sum in 64 bits decides: with enough L-BTC all outputs to the script can be unblinded, and what else they hold does
not make the sum wrap around to less; without, other assets do not make up for it. -/
structure SumDecides (lbtc : AssetId) (expected : Nat) (outs : List LBtcTxOut) : Prop where
  enough : expected ≤ assetValue lbtc outs →
    (∀ out ∈ outs, out.unblinded.isSome) ∧ expected ≤ u64Sum (outs.map LBtcTxOut.value)
  short : assetValue lbtc outs < expected → (∀ out ∈ outs, out.unblinded.isSome) →
    u64Sum (outs.map LBtcTxOut.value) < expected

/-- Both checks accept the transaction exactly when the outputs to the script hold enough L-BTC, and for the same
script and amount they agree. -/
structure ChecksExact (sdk : Sdk) (receiveSwap : ReceiveSwap) (chainSwap : ChainSwap) (receiveScript claimScript : Script)
    (receiveExpected claimExpected : Nat) (tx : LBtcTransaction) : Prop where
  receive : Accepts sdk receiveSwap tx ↔ receiveExpected ≤ assetValue sdk.lbtcAssetId (outputsTo receiveScript tx)
  server : AcceptsServer sdk chainSwap tx ↔ claimExpected ≤ assetValue sdk.lbtcAssetId (outputsTo claimScript tx)
  agree : receiveScript = claimScript → receiveExpected = claimExpected →
    (Accepts sdk receiveSwap tx ↔ AcceptsServer sdk chainSwap tx)

theorem accepts_exact_iff {receiveSwap : ReceiveSwap} {expected : Nat}
    (h : AwaitsLockup sdk receiveSwap script expected) :
    (Accepts sdk receiveSwap tx ↔ expected ≤ assetValue sdk.lbtcAssetId (outputsTo script tx)) ↔
      FirstDecides sdk.lbtcAssetId expected (outputsTo script tx) := by
  rw [accepts_iff h]
  constructor
  · intro hexact
    refine ⟨hexact.mpr, fun hshort out rest asset value houts hsecrets _ => ?_⟩
    by_contra hle
    have henough := hexact.mp ⟨out, rest, (asset, value), houts, hsecrets, not_lt.mp hle⟩
    omega
  · rintro ⟨henough, hshort⟩
    refine ⟨?_, henough⟩
    rintro ⟨out, rest, ⟨asset, value⟩, houts, hsecrets, hle⟩
    by_contra hlt
    rw [not_le] at hlt
    by_cases hasset : asset = sdk.lbtcAssetId
    · -- the first output alone would be enough
      have hfirst : LBtcTxOut.valueOf sdk.lbtcAssetId out = value := by
        unfold LBtcTxOut.valueOf
        rw [hsecrets]
        exact if_pos hasset
      rw [houts] at hlt
      unfold assetValue at hlt
      rw [List.map_cons, List.sum_cons, hfirst] at hlt
      dsimp only at hle
      omega
    · have hvalue := hshort hlt out rest asset value houts hsecrets hasset
      dsimp only at hle
      omega

theorem acceptsServer_exact_iff {chainSwap : ChainSwap} {expected : Nat}
    (h : AwaitsServerLockup sdk chainSwap script expected) :
    (AcceptsServer sdk chainSwap tx ↔ expected ≤ assetValue sdk.lbtcAssetId (outputsTo script tx)) ↔
      SumDecides sdk.lbtcAssetId expected (outputsTo script tx) := by
  rw [acceptsServer_iff h]
  constructor
  · intro hexact
    refine ⟨hexact.mpr, fun hshort hunblinded => ?_⟩
    by_contra hle
    have henough := hexact.mp ⟨hunblinded, not_lt.mp hle⟩
    omega
  · rintro ⟨henough, hshort⟩
    refine ⟨?_, henough⟩
    rintro ⟨hunblinded, hle⟩
    by_contra hlt
    have hless := hshort (not_le.mp hlt) hunblinded
    omega

/-- Exactly when the two checks accept what holds enough L-BTC. -/
theorem lockupChecks_exact_iff {receiveSwap : ReceiveSwap} {chainSwap : ChainSwap}
    {receiveScript claimScript : Script} {receiveExpected claimExpected : Nat} {tx : LBtcTransaction}
    (hreceive : AwaitsLockup sdk receiveSwap receiveScript receiveExpected)
    (hserver : AwaitsServerLockup sdk chainSwap claimScript claimExpected) :
    ChecksExact sdk receiveSwap chainSwap receiveScript claimScript receiveExpected claimExpected tx ↔
      FirstDecides sdk.lbtcAssetId receiveExpected (outputsTo receiveScript tx) ∧
        SumDecides sdk.lbtcAssetId claimExpected (outputsTo claimScript tx) := by
  rw [← accepts_exact_iff hreceive, ← acceptsServer_exact_iff hserver]
  constructor
  · rintro ⟨h, h', -⟩
    exact ⟨h, h'⟩
  · rintro ⟨h, h'⟩
    refine ⟨h, h', ?_⟩
    rintro rfl rfl
    exact h.trans h'.symm

end Checks

/-! ## Lockups of both kinds -/

def amountSdk : Sdk where
  bz := .byAddress 1000
  persister := { codec := .table fun _ => none }

def awaitingSwap : ReceiveSwap where
  id := "r"
  createResponseJson := "c-claim"
  claimPrivateKey := "key"
  receiverAmountSat := 900
  claimFeesSat := 100

def awaitingChainSwap : ChainSwap where
  id := "c"
  direction := .incoming
  createResponseJson := "c"
  claimPrivateKey := "key"

theorem awaitingSwap_awaits : AwaitsLockup amountSdk awaitingSwap "c-claim" 1000 :=
  ⟨rfl, ⟨_, "key", rfl, rfl⟩, rfl⟩

theorem awaitingChainSwap_awaits : AwaitsServerLockup amountSdk awaitingChainSwap "c-claim" 1000 :=
  ⟨rfl, ⟨_, _, rfl, rfl, rfl⟩, ⟨_, rfl, rfl⟩⟩

/-- A transaction that pays the script in the given outputs, and a fee. -/
def lockupTx (outputs : List (AssetId × Nat)) : LBtcTransaction where
  txid := "lockup"
  output := outputs.map (fun secrets => ⟨"c-claim", some secrets⟩) ++ [⟨"", some ("lbtc", 1)⟩]

/-- One output of the expected amount. -/
theorem lockupChecks_exact_single : ChecksExact amountSdk awaitingSwap awaitingChainSwap "c-claim" "c-claim" 1000 1000
    (lockupTx [("lbtc", 1000)]) := by
  refine (lockupChecks_exact_iff awaitingSwap_awaits awaitingChainSwap_awaits).mpr ⟨⟨fun _ => ?_, ?_⟩, ⟨?_, ?_⟩⟩
  · exact ⟨⟨"c-claim", some ("lbtc", 1000)⟩, [], ("lbtc", 1000), by decide, rfl, le_rfl⟩
  · intro hshort
    exact absurd hshort (by decide)
  · intro _
    decide
  · intro hshort
    exact absurd hshort (by decide)

/-- Another asset is taken for L-BTC, an amount in two outputs is not enough for a receive swap, and what another asset
adds to enough L-BTC makes the sum wrap around. -/
theorem lockupChecks_not_exact :
    ¬ ChecksExact amountSdk awaitingSwap awaitingChainSwap "c-claim" "c-claim" 1000 1000
        (lockupTx [("usdt", 1000)]) ∧
      ¬ ChecksExact amountSdk awaitingSwap awaitingChainSwap "c-claim" "c-claim" 1000 1000
        (lockupTx [("lbtc", 600), ("lbtc", 400)]) ∧
      ¬ ChecksExact amountSdk awaitingSwap awaitingChainSwap "c-claim" "c-claim" 1000 1000
        (lockupTx [("lbtc", 1000), ("usdt", 2 ^ 64 - 1000)]) := by
  refine ⟨?_, ?_, ?_⟩
  · intro h
    have haccepts : Accepts amountSdk awaitingSwap (lockupTx [("usdt", 1000)]) := rfl
    exact absurd (h.receive.mp haccepts) (by decide)
  · intro h
    obtain ⟨out, rest, secrets, houts, hsecrets, hle⟩ :=
      (accepts_iff awaitingSwap_awaits).mp (h.receive.mpr (by decide))
    have hfirst : outputsTo "c-claim" (lockupTx [("lbtc", 600), ("lbtc", 400)]) =
        [⟨"c-claim", some ("lbtc", 600)⟩, ⟨"c-claim", some ("lbtc", 400)⟩] := by decide
    rw [hfirst] at houts
    cases houts
    cases hsecrets
    exact absurd hle (by decide)
  · intro h
    have haccepts := (acceptsServer_iff awaitingChainSwap_awaits).mp (h.server.mpr (by decide))
    exact absurd haccepts.2 (by decide)

end BreezLiquid.Receive
