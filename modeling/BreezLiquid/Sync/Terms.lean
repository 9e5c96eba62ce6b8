/-
# BreezLiquid.Sync.Terms — what a swap is created with, as it is synced.

The columns that no update names pass unchanged from the row of one device to the row of another: through the record
that is pushed, the merge with what is queued, the recovery from the chain, and the commit over a row that may be
there already.
-/
import BreezLiquid.Persist.Terms
import BreezLiquid.Sync.Tables

namespace BreezLiquid

open Interleaving Recover Tables

/-! ## The terms of a swap and of its sync data -/

def Swap.terms : Swap → Swap
  | .send s => .send s.terms
  | .receive s => .receive s.terms
  | .chain s => .chain s.terms

/-- What is pushed of the swap. -/
def Swap.syncData : Swap → SyncData
  | .send s => .send (.ofSwap s)
  | .receive s => .receive (.ofSwap s)
  | .chain s => .chain (.ofSwap s)

/-! The synced columns that no update names. -/

def SendSyncData.terms (data : SendSyncData) : SendSyncData := { data with preimage := none, description := none }

def ReceiveSyncData.terms (data : ReceiveSyncData) : ReceiveSyncData :=
  { data with
    bolt12Offer := none, description := none, payerNote := none
    payerAmountSat := 0, receiverAmountSat := 0 }

def ChainSyncData.terms (data : ChainSyncData) : ChainSyncData :=
  { data with
    claimAddress := none, description := none, pairFeesJson := ""
    acceptedReceiverAmountSat := none, acceptZeroConf := false, autoAcceptedFees := false }

/-- The terms of the swap, if the data is one of a swap. -/
def SyncData.swapTerms : SyncData → Option SyncData
  | .send data => some (.send data.terms)
  | .receive data => some (.receive data.terms)
  | .chain data => some (.chain data.terms)
  | _ => none

namespace Swap

theorem syncTerms_terms (s : Swap) : s.terms.syncData.swapTerms = s.syncData.swapTerms := by
  cases s with
  | send s => rfl
  | receive s => rfl
  | chain s => rfl

/-- Swaps of the same terms have the same synced ones. -/
theorem syncTerms_congr {s s' : Swap} (h : s'.terms = s.terms) : s'.syncData.swapTerms = s.syncData.swapTerms := by
  rw [← syncTerms_terms s', h, syncTerms_terms]

/-- The synced terms are all that a claim or a refund needs. -/
theorem sameAccess_of_syncTerms (bz : BoltzClient) {s s' : Swap} (h : s'.syncData.swapTerms = s.syncData.swapTerms) :
    SameAccess bz s s' := by
  cases s with
  | send s =>
      cases s' with
      | send s' =>
          have hdata := SyncData.send.inj (Option.some.inj h)
          have hscript : ∀ s : SendSwap,
              s.getSwapScript bz = (SendSyncData.ofSwap s).terms.toSwap.getSwapScript bz := fun _ => rfl
          refine ⟨?_, (congrArg SendSyncData.refundPrivateKey hdata :)⟩
          rw [hscript s', hdata]
          rfl
      | receive s' => cases h
      | chain s' => cases h
  | receive s =>
      cases s' with
      | send s' => cases h
      | receive s' =>
          have hdata := SyncData.receive.inj (Option.some.inj h)
          have hscript : ∀ s : ReceiveSwap,
              s.getSwapScript bz = (ReceiveSyncData.ofSwap s).terms.toSwap.getSwapScript bz := fun _ => rfl
          refine ⟨?_, (congrArg ReceiveSyncData.claimPrivateKey hdata :),
            (congrArg ReceiveSyncData.preimage hdata :)⟩
          rw [hscript s', hdata]
          rfl
      | chain s' => cases h
  | chain s =>
      cases s' with
      | send s' => cases h
      | receive s' => cases h
      | chain s' =>
          have hdata := SyncData.chain.inj (Option.some.inj h)
          have hclaim : ∀ s : ChainSwap,
              s.getClaimSwapScript bz = ((ChainSyncData.ofSwap s).terms.toSwap bz).getClaimSwapScript bz :=
            fun _ => rfl
          have hlockup : ∀ s : ChainSwap,
              s.getLockupSwapScript bz = ((ChainSyncData.ofSwap s).terms.toSwap bz).getLockupSwapScript bz :=
            fun _ => rfl
          refine ⟨?_, ?_, (congrArg ChainSyncData.claimPrivateKey hdata :),
            (congrArg ChainSyncData.refundPrivateKey hdata :), (congrArg ChainSyncData.preimage hdata :)⟩
          · rw [hclaim s', hdata]
            rfl
          · rw [hlockup s', hdata]
            rfl

/-- A pulled swap has the terms of its data. -/
theorem syncTerms_toSwap {bz : BoltzClient} {data : SyncData} {swap : Swap} (h : data.toSwap bz = .ok swap) :
    swap.syncData.swapTerms = data.swapTerms := by
  cases data with
  | chain data =>
      cases h
      rfl
  | send data =>
      cases h
      rfl
  | receive data =>
      cases h
      rfl
  | lastDerivationIndex index => cases h
  | paymentDetails data => cases h
  | bolt12Offer data => cases h

theorem terms_setVersion (s : Swap) (version : Nat) : (s.setVersion version).terms = s.terms := by
  cases s with
  | send s => rfl
  | receive s => rfl
  | chain s => rfl

end Swap

/-- Merging keeps the fields of a swap that were changed here. The terms are not among them. -/
theorem SyncData.swapTerms_merge {base other data : SyncData} {l : List String} (h : base.merge other l = .ok data) :
    data.swapTerms = base.swapTerms := by
  cases base with
  | chain base =>
      cases other with
      | chain other =>
          cases h
          have hterms : (base.merge other l).terms = base.terms := by
            refine Sync.mergeFields_keeps ChainSyncData.terms (fun base n => ?_) base l
            repeat' split
            all_goals rfl
          show some (SyncData.chain (base.merge other l).terms) = _
          rw [hterms]
          rfl
      | _ => cases h
  | send base =>
      cases other with
      | send other =>
          cases h
          have hterms : (base.merge other l).terms = base.terms := by
            refine Sync.mergeFields_keeps SendSyncData.terms (fun base n => ?_) base l
            split <;> rfl
          show some (SyncData.send (base.merge other l).terms) = _
          rw [hterms]
          rfl
      | _ => cases h
  | receive base => cases other <;> cases h
  | lastDerivationIndex base =>
      cases other with
      | lastDerivationIndex other =>
          cases h
          rfl
      | _ => cases h
  | paymentDetails base =>
      cases other with
      | paymentDetails other =>
          cases h
          rfl
      | _ => cases h
  | bolt12Offer base =>
      cases other with
      | bolt12Offer other =>
          cases h
          rfl
      | _ => cases h

/-! ## Recovery -/

namespace Recover

/-- No recovery changes the terms ... -/
theorem SendSwapHandler.updateSwap_terms (verifyPaymentHash : String → String → Bool) (s : SendSwap)
    (r : RecoveredOnchainDataSend) (height : Nat) (grace : Bool) :
    (updateSwap verifyPaymentHash s r height grace).terms = s.terms := by
  unfold updateSwap
  dsimp only
  repeat' split
  all_goals rfl

theorem ReceiveSwapHandler.updateSwap_terms (s : ReceiveSwap) (r : RecoveredOnchainDataReceive) (height : Nat)
    (grace : Bool) : (updateSwap s r height grace).terms = s.terms := by
  unfold updateSwap
  dsimp only
  repeat' split
  all_goals rfl

theorem ChainSendSwapHandler.updateSwap_terms (s : ChainSwap) (r : RecoveredOnchainDataChainSend)
    (liquidHeight bitcoinHeight : Nat) (grace : Bool) :
    (updateSwap s r liquidHeight bitcoinHeight grace).terms = s.terms := by
  unfold updateSwap
  dsimp only
  repeat' split
  all_goals rfl

theorem ChainReceiveSwapHandler.updateSwap_terms (bz : BoltzClient) (s : ChainSwap)
    (r : RecoveredOnchainDataChainReceive) (liquidHeight bitcoinHeight : Nat) (grace : Bool) :
    (updateSwap bz s r liquidHeight bitcoinHeight grace).1.terms = s.terms := by
  unfold updateSwap
  dsimp only
  repeat' split
  all_goals rfl

section Terms

variable (sdk : Sdk)

/-- ... whatever was fetched for it. -/
theorem sendRecoverSwap_terms (context : ReceiveOrSendSwapRecoveryContext) (s : SendSwap) (grace : Bool) :
    (SendSwapHandler.recoverSwap sdk context s grace).Yields fun x => ∀ r, x = .ok r → r.1.terms = s.terms := by
  unfold SendSwapHandler.recoverSwap
  split
  · rintro r ⟨⟩
    rfl
  · refine Task.Yields.bind (Task.Yields.mono (Task.yields_true _) fun x _ => ?_)
    cases x with
    | error err => rintro r ⟨⟩
    | ok data =>
        rintro r ⟨⟩
        apply SendSwapHandler.updateSwap_terms

theorem receiveRecoverSwap_terms (context : ReceiveOrSendSwapRecoveryContext) (s : ReceiveSwap) (grace : Bool) :
    (ReceiveSwapHandler.recoverSwap sdk.bz context s grace).1.terms = s.terms := by
  unfold ReceiveSwapHandler.recoverSwap
  split
  · rfl
  · apply ReceiveSwapHandler.updateSwap_terms

theorem chainSendRecoverSwap_terms (context : ChainSwapRecoveryContext) (s : ChainSwap) (grace : Bool) :
    (ChainSendSwapHandler.recoverSwap sdk.bz context s grace).1.terms = s.terms := by
  unfold ChainSendSwapHandler.recoverSwap
  split
  · rfl
  · apply ChainSendSwapHandler.updateSwap_terms

theorem chainReceiveRecoverSwap_terms (context : ChainSwapRecoveryContext) (s : ChainSwap) (grace : Bool) :
    (ChainReceiveSwapHandler.recoverSwap sdk.bz context s grace).1.terms = s.terms := by
  unfold ChainReceiveSwapHandler.recoverSwap
  split
  · rfl
  · apply ChainReceiveSwapHandler.updateSwap_terms

/-- A recovery finds out what happened to a swap, not what it is. -/
theorem recoverSwap_terms (swapContext : ReceiveOrSendSwapRecoveryContext)
    (chainContext : Option ChainSwapRecoveryContext) (startedAt : Nat) (swap : Swap) :
    (Recoverer.recoverSwap sdk swapContext chainContext startedAt swap).Yields fun x =>
      ∀ r, x = .ok r → r.1.terms = swap.terms := by
  cases swap with
  | send s =>
      refine Task.Yields.bind (Task.Yields.mono (sendRecoverSwap_terms sdk _ s _) fun x h => ?_)
      cases x with
      | error err => rintro r ⟨⟩
      | ok data =>
          rintro r ⟨⟩
          exact congrArg Swap.send (h data rfl)
  | receive s =>
      rintro r ⟨⟩
      exact congrArg Swap.receive (receiveRecoverSwap_terms sdk swapContext s _)
  | chain s =>
      simp only [Recoverer.recoverSwap]
      cases chainContext with
      | none =>
          rintro r ⟨⟩
          rfl
      | some context =>
          cases s.direction with
          | outgoing =>
              rintro r ⟨⟩
              exact congrArg Swap.chain (chainSendRecoverSwap_terms sdk context s _)
          | incoming =>
              rintro r ⟨⟩
              exact congrArg Swap.chain (chainReceiveRecoverSwap_terms sdk context s _)

end Terms

end Recover

/-! ## The rows of the swap tables -/

section Rows

variable {db db' : Db} {id : SwapId} {now : Nat}

/-- Where a row comes from when the whole row of a swap is written. -/
theorem terms_of_execAll {ρ : Type} {key : ρ → SwapId} {version : ρ → Nat} {terms : ρ → ρ} {row : ρ}
    {t : Table key} {l : List (Statement key version)}
    (hl : ∀ statement ∈ l, statement.Respects fun r r' => terms r' = terms r)
    (h : (Statement.execAll l t).get? id = some row) :
    ∃ r, (t.get? id = some r ∨ Statement.insert r ∈ l) ∧ terms row = terms r := by
  obtain ⟨r, horigin, hterms⟩ := Statement.execAll_origin (R := fun r r' => terms r' = terms r) (fun _ => rfl)
    (fun h h' => h'.trans h) hl h
  rcases horigin with hr | ⟨-, hmem⟩
  · exact ⟨r, .inl hr, hterms⟩
  · exact ⟨r, .inr hmem, hterms⟩

/-- What a whole write inserts has the terms of the swap. -/
theorem insert_mem_wholeSend {s r : SendSwap} (h : Statement.insert r ∈ wholeSend now s db) : r.terms = s.terms := by
  unfold wholeSend at h
  rcases List.mem_append.mp h with h | h
  · split at h
    · exact (List.not_mem_nil h).elim
    · cases List.mem_singleton.mp h
      rfl
  · cases List.mem_singleton.mp h

theorem insert_mem_wholeReceive {s r : ReceiveSwap} (h : Statement.insert r ∈ wholeReceive now s) :
    r.terms = s.terms := by
  unfold wholeReceive at h
  rcases List.mem_cons.mp h with h | h
  · cases h
    rfl
  · cases List.mem_singleton.mp h

theorem insert_mem_wholeChain {s r : ChainSwap} (h : Statement.insert r ∈ wholeChain now s) :
    r.terms = s.terms := by
  unfold wholeChain at h
  rcases List.mem_cons.mp h with h | h
  · cases h
    rfl
  · cases List.mem_singleton.mp h

/-- The row, or one of the same terms, was there before, or it has the terms of the swap. -/
theorem rowOf_commitIncomingSwap (p : Persister) {s swap : Swap} {syncState : SyncState} {lastCommitTime : Option Nat}
    (h : db.commitIncomingSwap now s syncState lastCommitTime = .ok db') (hrow : RowOf db' id swap) :
    (∃ old, RowOf db id old ∧ swap.terms = old.terms) ∨ swap.terms = s.terms := by
  let m : Method := .commitIncomingSwap s syncState lastCommitTime
  obtain ⟨hsend, hreceive, hchain⟩ : Executed (m.statements now db) db db' := Method.executed (p := p) h
  have hkeep := m.keepTerms now db
  cases hrow with
  | send hrow =>
      rw [hsend] at hrow
      obtain ⟨r, horigin, hterms⟩ := terms_of_execAll hkeep.send hrow
      rcases horigin with hr | hmem
      · exact .inl ⟨.send r, .send hr, congrArg Swap.send hterms⟩
      · cases s with
        | send s => exact .inr (congrArg Swap.send (hterms.trans (insert_mem_wholeSend hmem)))
        | receive s => exact (List.not_mem_nil hmem).elim
        | chain s => exact (List.not_mem_nil hmem).elim
  | receive hrow =>
      rw [hreceive] at hrow
      obtain ⟨r, horigin, hterms⟩ := terms_of_execAll hkeep.receive hrow
      rcases horigin with hr | hmem
      · exact .inl ⟨.receive r, .receive hr, congrArg Swap.receive hterms⟩
      · cases s with
        | send s => exact (List.not_mem_nil hmem).elim
        | receive s => exact .inr (congrArg Swap.receive (hterms.trans (insert_mem_wholeReceive hmem)))
        | chain s => exact (List.not_mem_nil hmem).elim
  | chain hrow =>
      rw [hchain] at hrow
      obtain ⟨r, horigin, hterms⟩ := terms_of_execAll hkeep.chain hrow
      rcases horigin with hr | hmem
      · exact .inl ⟨.chain r, .chain hr, congrArg Swap.chain hterms⟩
      · cases s with
        | send s => exact (List.not_mem_nil hmem).elim
        | receive s => exact (List.not_mem_nil hmem).elim
        | chain s => exact .inr (congrArg Swap.chain (hterms.trans (insert_mem_wholeChain hmem)))

/-- The row of a swap that was there before the transactions still has its terms. -/
theorem terms_performAll {p : Persister} {l : List (Nat × Method)} {old swap : Swap} (hold : RowOf db id old)
    (h : RowOf (db.performAll p l) id swap) (htype : swap.recordType = old.recordType) : swap.terms = old.terms := by
  obtain ⟨hsend, hreceive, hchain⟩ := outlives_performAll p l db
  cases hold with
  | send hold =>
      obtain ⟨r, hr, hterms, -⟩ := hsend hold
      cases h with
      | send h =>
          rw [hr] at h
          cases h
          exact congrArg Swap.send hterms
      | receive h => cases htype
      | chain h => cases htype
  | receive hold =>
      obtain ⟨r, hr, hterms, -⟩ := hreceive hold
      cases h with
      | send h => cases htype
      | receive h =>
          rw [hr] at h
          cases h
          exact congrArg Swap.receive hterms
      | chain h => cases htype
  | chain hold =>
      obtain ⟨r, hr, hterms, -⟩ := hchain hold
      cases h with
      | send h => cases htype
      | receive h => cases htype
      | chain h =>
          rw [hr] at h
          cases h
          exact congrArg Swap.chain hterms

/-- What is loaded of a swap has the terms of its row. -/
theorem rowOf_loadSyncData {recordType : RecordType} {data terms : SyncData}
    (h : db.loadSyncData id recordType = .ok data) (hterms : data.swapTerms = some terms) :
    ∃ row, RowOf db id row ∧ row.syncData.swapTerms = some terms := by
  cases recordType with
  | receive =>
      obtain ⟨s, hs, rfl⟩ := okOr_map_eq_ok.mp h
      obtain ⟨row, hrow, rfl⟩ := Db.fetchReceiveSwapById_eq_some hs
      exact ⟨.receive row, .receive hrow, hterms⟩
  | send =>
      obtain ⟨s, hs, rfl⟩ := okOr_map_eq_ok.mp h
      obtain ⟨row, hrow, rfl⟩ := Db.fetchSendSwapById_eq_some hs
      exact ⟨.send row, .send hrow, hterms⟩
  | chain =>
      obtain ⟨s, hs, rfl⟩ := okOr_map_eq_ok.mp h
      obtain ⟨row, hrow, rfl⟩ := Db.fetchChainSwapById_eq_some hs
      exact ⟨.chain row, .chain hrow, hterms⟩
  | lastDerivationIndex =>
      obtain ⟨s, hs, rfl⟩ := okOr_map_eq_ok.mp h
      cases hterms
  | paymentDetails =>
      obtain ⟨s, hs, rfl⟩ := okOr_map_eq_ok.mp h
      cases hterms
  | bolt12Offer =>
      obtain ⟨s, hs, rfl⟩ := okOr_map_eq_ok.mp h
      cases hterms

theorem rowOf_congr (hsend : db'.sendSwaps = db.sendSwaps) (hreceive : db'.receiveSwaps = db.receiveSwaps)
    (hchain : db'.chainSwaps = db.chainSwaps) {swap : Swap} (h : RowOf db' id swap) : RowOf db id swap := by
  cases h with
  | send h => exact .send (hsend ▸ h)
  | receive h => exact .receive (hreceive ▸ h)
  | chain h => exact .chain (hchain ▸ h)

end Rows

end BreezLiquid
