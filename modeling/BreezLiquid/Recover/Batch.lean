/-
# BreezLiquid.Recover.Batch — a chain swap recovered in a batch and alone.

The histories of all scripts of a batch are flattened, their transactions fetched at once, and each
script gets the fetched transactions that occur in its own history. A transaction that two scripts
share is fetched twice, and each of the two gets both copies, in the order of the batch. The handlers
then index the first transaction and count the spending ones, so a chain swap recovered in a batch can
come out different from the same swap recovered alone. `SendBatchStable` and `ReceiveBatchStable` say
exactly when it does not.
-/
import BreezLiquid.Recover.Recoverer

namespace BreezLiquid.Recover

open Collections

variable (bz : BoltzClient) (chain : ChainState)

/-! ## What a script gets from the batch -/

/-- The entries of the batch's flattened histories whose transactions occur in one script's own
history: one per fetched copy, in the order of the batch. -/
def batchEntries (scripts : List Script) (script : Script) : List BtcHistory :=
  (scripts.flatMap chain.btcHistory).filter fun h =>
    ((chain.btcHistory script).map History.txid).contains h.txid

theorem relevantTxs_eq (scripts : List Script) (script : Script) :
    relevantTxs (chain.btcHistory script)
        ((btcScriptTxIds (scripts.map chain.btcHistory)).map chain.btcTx) =
      (batchEntries chain scripts script).map fun h => chain.btcTx h.txid := by
  have hflat : (scripts.map chain.btcHistory).flatten = scripts.flatMap chain.btcHistory :=
    List.flatMap_def.symm
  simp only [relevantTxs, btcScriptTxIds, batchEntries, hflat, List.map_map, List.filter_map,
    Function.comp_def, chain.btcTx_txid]

theorem batchEntries_singleton (script : Script) :
    batchEntries chain [script] script = chain.btcHistory script := by
  simp only [batchEntries, List.flatMap_cons, List.flatMap_nil, List.append_nil]
  refine List.filter_eq_self.mpr fun h hmem => ?_
  simpa using ⟨h, hmem, rfl⟩

variable {chain} in
theorem mem_of_mem_batchEntries {scripts : List Script} {script : Script} {h : BtcHistory}
    (hmem : h ∈ batchEntries chain scripts script) :
    ∃ h' ∈ chain.btcHistory script, h'.txid = h.txid := by
  have := (List.mem_filter.mp hmem).2
  simpa using this

/-- A script that is in the batch gets all entries of its own history, in their order. -/
theorem history_sublist_batchEntries {scripts : List Script} {script : Script}
    (h : script ∈ scripts) : (chain.btcHistory script).Sublist (batchEntries chain scripts script) := by
  obtain ⟨pre, post, rfl⟩ := List.append_of_mem h
  have hself : (chain.btcHistory script).filter (fun h =>
      ((chain.btcHistory script).map History.txid).contains h.txid) = chain.btcHistory script := by
    simpa only [batchEntries, List.flatMap_cons, List.flatMap_nil, List.append_nil] using
      batchEntries_singleton chain script
  rw [batchEntries, List.flatMap_append, List.flatMap_cons, List.filter_append, List.filter_append,
    hself]
  exact (List.sublist_append_left _ _).trans (List.sublist_append_right _ _)

/-! ## Lookups in the context of a batch -/

section Context

variable {bz chain} {order : HashOrder} {swaps : List Swap}

/-- A swap of the batch is among the values of the swap list, as ids identify swaps. -/
theorem mem_values {swap : Swap} (hmem : swap ∈ swaps)
    (hids : ∀ a ∈ swaps, ∀ b ∈ swaps, a.id = b.id → a = b) :
    swap ∈ order.values (SwapsList.ofSwaps swaps).swapsById := by
  have hlook : (SwapsList.ofSwaps swaps).swapsById.lookup swap.id = some swap := by
    refine HashMap.lookup_ofList_of_forall (List.mem_map.mpr ⟨swap, hmem, rfl⟩) fun w hw => ?_
    obtain ⟨s, hs, heq⟩ := List.mem_map.mp hw
    simp only [Prod.mk.injEq] at heq
    rw [← heq.2]
    exact hids s hs swap hmem heq.1
  rw [← Option.mem_def, AList.mem_lookup_iff] at hlook
  exact ((order.perm _).mem_iff).mpr (List.mem_map.mpr ⟨_, hlook, rfl⟩)

theorem values_singleton (swap : Swap) :
    order.values (SwapsList.ofSwaps [swap]).swapsById = [swap] := by
  have h := order.perm (SwapsList.ofSwaps [swap]).swapsById
  have hone : (SwapsList.ofSwaps [swap]).swapsById.entries.map Sigma.snd = [swap] := by
    simp [SwapsList.ofSwaps, HashMap.ofList]
  rw [hone] at h
  exact List.perm_singleton.mp h

/-- The context of a batch, and what it answers for the scripts of the batch. -/
theorem chainSwapRecoveryContext_spec (bz : BoltzClient) (chain : ChainState) (order : HashOrder)
    (swaps : List Swap) (txMap : TxMap) (addressFromScript : Script → Option Address)
    (liquidTipHeight bitcoinTipHeight : Nat) :
    ∃ context, chainSwapRecoveryContext bz chain order swaps txMap addressFromScript liquidTipHeight
        bitcoinTipHeight = .ok context ∧
      context.txMap = txMap ∧ context.addressFromScript = addressFromScript ∧
      (∀ script ∈ (SwapsList.ofSwaps swaps).getSwapLbtcScripts bz order,
        context.lbtcScriptToHistoryMap.lookup script = some (chain.lbtcHistory script)) ∧
      (∀ script ∈ (SwapsList.ofSwaps swaps).getSwapBtcScripts bz order,
        context.btcScriptToHistoryMap.lookup script = some (chain.btcHistory script) ∧
        context.btcScriptToTxsMap.lookup script =
          some ((batchEntries chain ((SwapsList.ofSwaps swaps).getSwapBtcScripts bz order)
            script).map fun h => chain.btcTx h.txid) ∧
        context.btcScriptToBalanceMap.lookup script = some (chain.btcBalance script)) := by
  simp only [chainSwapRecoveryContext, lbtcHistoryMap, btcScriptMaps, List.length_map, if_true,
    zip_map_self, List.map_map, Function.comp_def]
  refine ⟨_, rfl, rfl, rfl, fun script h => HashMap.lookup_ofList_map _ h, fun script h => ?_⟩
  refine ⟨HashMap.lookup_ofList_map _ h, ?_, HashMap.lookup_ofList_map _ h⟩
  rw [← relevantTxs_eq]
  exact HashMap.lookup_ofList_map
    (fun script => relevantTxs (chain.btcHistory script) _) h

end Context

/-! ## Outgoing chain swaps -/

/-- When the script has two history entries, the first fetched copy pays the script just as the first
entry of the script's own history does. -/
def SendBatchStable (scripts : List Script) (claimScript : Script) : Prop :=
  (chain.btcHistory claimScript).length = 2 →
    ∀ e h, (batchEntries chain scripts claimScript).head? = some e →
      (chain.btcHistory claimScript).head? = some h →
      pays claimScript (chain.btcTx e.txid) = pays claimScript (chain.btcTx h.txid)

namespace ChainSendSwapHandler

/-- The recovered data of a two-entry history is decided by the first fetched transaction; two
different decisions give different data unless the two entries coincide. -/
theorem recoverOnchainData_txs_iff (txMap : TxMap) (lbtcHistory : List LBtcHistory)
    (scripts : List Script) (claimScript : Script) (h : claimScript ∈ scripts) :
    recoverOnchainData txMap
        ⟨lbtcHistory, chain.btcHistory claimScript,
          (batchEntries chain scripts claimScript).map fun h => chain.btcTx h.txid⟩ claimScript =
      recoverOnchainData txMap
        ⟨lbtcHistory, chain.btcHistory claimScript,
          (chain.btcHistory claimScript).map fun h => chain.btcTx h.txid⟩ claimScript ↔
      SendBatchStable chain scripts claimScript := by
  have hsub := history_sublist_batchEntries chain h
  have hids : ∀ e ∈ batchEntries chain scripts claimScript,
      ∃ h' ∈ chain.btcHistory claimScript, h'.txid = e.txid := fun _ => mem_of_mem_batchEntries
  unfold SendBatchStable
  generalize batchEntries chain scripts claimScript = entries at *
  match hh : chain.btcHistory claimScript with
  | [] => simp [recoverOnchainData]
  | [only] => simp [recoverOnchainData]
  | _ :: _ :: _ :: _ => simp [recoverOnchainData]
  | [first, second] =>
      rw [hh] at hsub hids
      match entries with
      | [] => simp at hsub
      | e :: rest =>
          obtain ⟨h', hmem, hid⟩ := hids e List.mem_cons_self
          have hcases : e.txid = first.txid ∨ e.txid = second.txid := by
            rcases List.mem_pair.mp hmem with rfl | rfl
            · exact Or.inl hid.symm
            · exact Or.inr hid.symm
          simp only [recoverOnchainData, List.map_cons, List.head?_cons, Option.some.injEq,
            List.length_cons, List.length_nil, true_implies]
          by_cases heq : first = second
          · -- both entries are the same, whatever is decided
            subst heq
            rcases hcases with hc | hc <;> simp [hc]
          · rcases Bool.eq_false_or_eq_true (pays claimScript (chain.btcTx e.txid)) with h1 | h1 <;>
              rcases Bool.eq_false_or_eq_true (pays claimScript (chain.btcTx first.txid)) with
                h2 | h2 <;>
              simp [h1, h2, heq, Ne.symm heq]

end ChainSendSwapHandler

/-! ## Incoming chain swaps -/

/-- The entries whose transactions pay the script. -/
def incomingEntries (script : Script) (entries : List BtcHistory) : List BtcHistory :=
  entries.filter fun h => pays script (chain.btcTx h.txid)

/-- The entries whose transactions do not pay the script, as the script's own history has them. -/
def outgoingEntries (script : Script) (entries : List BtcHistory) : List BtcHistory :=
  entries.filter fun h => !pays script (chain.btcTx h.txid)

/-- The last unconfirmed spending transaction, or else the last one, with its height from the script's
own history. -/
def lastSpending (script : Script) (entries : List BtcHistory) : Option BtcHistory :=
  ChainReceiveSwapHandler.lastOutgoing <| (outgoingEntries chain script entries).filterMap fun h =>
    (chain.btcHistory script).find? fun h' => h'.txid == h.txid

/-- The first fetched copy of a funding transaction is the first funding entry of the swap's own
history. With a known claim, there is more than one copy of a spending transaction only if the
history has more than one spending entry. And where the last spending transaction is the refund
(without a claim, or with more than one spending entry) it is the same one. -/
def ReceiveBatchStable (txMap : TxMap) (scripts : List Script) (lockupScript claimScript : Script) :
    Prop :=
  let own := chain.btcHistory lockupScript
  let entries := batchEntries chain scripts lockupScript
  let claimed :=
    (determineIncomingLockupAndClaimTxs (chain.lbtcHistory claimScript) txMap).2.isSome
  (incomingEntries chain lockupScript entries).head?.map History.txid =
      (incomingEntries chain lockupScript own).head?.map History.txid ∧
    (claimed → 1 < (outgoingEntries chain lockupScript entries).length →
      1 < (outgoingEntries chain lockupScript own).length) ∧
    (¬ claimed ∨ 1 < (outgoingEntries chain lockupScript own).length →
      lastSpending chain lockupScript entries = lastSpending chain lockupScript own)

namespace ChainReceiveSwapHandler

variable (addressFromScript : Script → Option Address) (txMap : TxMap)

/-- The recovered data when the fetched transactions are those of a list of entries. -/
def recoverEntries (lockupScript claimScript : Script) (entries : List BtcHistory) :
    RecoveredOnchainDataChainReceive :=
  recoverOnchainData addressFromScript txMap
    ⟨chain.lbtcHistory claimScript, chain.btcHistory lockupScript,
      entries.map fun h => chain.btcTx h.txid, some (chain.btcBalance lockupScript)⟩ lockupScript

theorem filter_txs (script : Script) (p : Bool → Bool) (entries : List BtcHistory) :
    (entries.map fun h => chain.btcTx h.txid).filter (fun tx => p (pays script tx)) =
      (entries.filter fun h => p (pays script (chain.btcTx h.txid))).map fun h =>
        chain.btcTx h.txid := by
  rw [List.filter_map]
  rfl

theorem recoverEntries_btcUserLockupTxId (lockupScript claimScript : Script)
    (entries : List BtcHistory) :
    (recoverEntries chain addressFromScript txMap lockupScript claimScript
        entries).btcUserLockupTxId =
      (incomingEntries chain lockupScript entries).head?.bind fun h =>
        (chain.btcHistory lockupScript).find? fun h' => h'.txid == h.txid := by
  have hin := filter_txs chain lockupScript id entries
  simp only [id] at hin
  simp only [recoverEntries, recoverOnchainData, hin, incomingEntries, List.head?_map,
    Option.bind_map, historyOf, chain.btcTx_txid, Function.comp_def]

theorem recoverEntries_btcUserLockupAmountSat (lockupScript claimScript : Script)
    (entries : List BtcHistory) :
    (recoverEntries chain addressFromScript txMap lockupScript claimScript
        entries).btcUserLockupAmountSat =
      (((incomingEntries chain lockupScript entries).head?.bind fun h =>
        (chain.btcTx h.txid).output.find? fun out => out.scriptPubkey == lockupScript).map
          BtcTxOut.value).getD 0 := by
  have hin := filter_txs chain lockupScript id entries
  simp only [id] at hin
  simp only [recoverEntries, recoverOnchainData, hin, incomingEntries, List.head?_map]
  cases (entries.filter fun h => pays lockupScript (chain.btcTx h.txid)).head? with
  | none => rfl
  | some h =>
      simp only [Option.map_some, Option.bind_eq_bind, Option.bind_some]
      cases (chain.btcTx h.txid).output.find? fun out => out.scriptPubkey == lockupScript <;> rfl

theorem recoverEntries_btcRefundTxId (lockupScript claimScript : Script)
    (entries : List BtcHistory) :
    (recoverEntries chain addressFromScript txMap lockupScript claimScript entries).btcRefundTxId =
      if (determineIncomingLockupAndClaimTxs (chain.lbtcHistory claimScript) txMap).2.isSome then
        if 1 < (outgoingEntries chain lockupScript entries).length
        then lastSpending chain lockupScript entries else none
      else lastSpending chain lockupScript entries := by
  have hout := filter_txs chain lockupScript not entries
  simp only [recoverEntries, recoverOnchainData, hout, outgoingEntries, lastSpending,
    List.length_map, List.filterMap_map, historyOf, chain.btcTx_txid, Function.comp_def]
  rfl

/-- An entry of the batch resolves to an entry of the own history with the same id. -/
theorem resolve_txid {script : Script} {entries : List BtcHistory}
    (hids : ∀ e ∈ entries, ∃ h ∈ chain.btcHistory script, h.txid = e.txid) {e : BtcHistory}
    (he : e ∈ entries) :
    ((chain.btcHistory script).find? fun h => h.txid == e.txid).map History.txid =
      some e.txid := by
  obtain ⟨h, hmem, hid⟩ := hids e he
  cases hfind : (chain.btcHistory script).find? fun h => h.txid == e.txid with
  | none =>
      have := List.find?_eq_none.mp hfind h hmem
      simp [hid] at this
  | some h' =>
      have := List.find?_some hfind
      simpa using this

theorem userLockup_eq_iff (lockupScript claimScript : Script) {entries : List BtcHistory}
    (hids : ∀ e ∈ entries, ∃ h ∈ chain.btcHistory lockupScript, h.txid = e.txid) :
    (recoverEntries chain addressFromScript txMap lockupScript claimScript
        entries).btcUserLockupTxId =
      (recoverEntries chain addressFromScript txMap lockupScript claimScript
        (chain.btcHistory lockupScript)).btcUserLockupTxId ↔
      (incomingEntries chain lockupScript entries).head?.map History.txid =
        (incomingEntries chain lockupScript (chain.btcHistory lockupScript)).head?.map
          History.txid := by
  rw [recoverEntries_btcUserLockupTxId, recoverEntries_btcUserLockupTxId]
  have hmap : ∀ l : List BtcHistory,
      (∀ e ∈ l, ∃ h ∈ chain.btcHistory lockupScript, h.txid = e.txid) →
      ((incomingEntries chain lockupScript l).head?.bind fun h =>
        (chain.btcHistory lockupScript).find? fun h' => h'.txid == h.txid).map History.txid =
          (incomingEntries chain lockupScript l).head?.map History.txid := by
    intro l hl
    cases hhead : (incomingEntries chain lockupScript l).head? with
    | none => rfl
    | some e =>
        have he : e ∈ l := (List.mem_filter.mp (List.mem_of_mem_head? hhead)).1
        simpa using resolve_txid chain hl he
  have hbind : ∀ o : Option BtcHistory,
      (o.bind fun h => (chain.btcHistory lockupScript).find? fun h' => h'.txid == h.txid) =
        (o.map History.txid).bind fun id =>
          (chain.btcHistory lockupScript).find? fun h' => h'.txid == id := by
    intro o
    cases o <;> rfl
  constructor
  · intro h
    rw [← hmap entries hids, h]
    exact hmap _ fun e he => ⟨e, he, rfl⟩
  · intro h
    rw [hbind, h, ← hbind]

theorem userLockupAmount_eq (lockupScript claimScript : Script) {entries : List BtcHistory}
    (h : (incomingEntries chain lockupScript entries).head?.map History.txid =
      (incomingEntries chain lockupScript (chain.btcHistory lockupScript)).head?.map
        History.txid) :
    (recoverEntries chain addressFromScript txMap lockupScript claimScript
        entries).btcUserLockupAmountSat =
      (recoverEntries chain addressFromScript txMap lockupScript claimScript
        (chain.btcHistory lockupScript)).btcUserLockupAmountSat := by
  have hbind : ∀ o : Option BtcHistory,
      (o.bind fun h => (chain.btcTx h.txid).output.find? fun out =>
        out.scriptPubkey == lockupScript) =
        (o.map History.txid).bind fun id => (chain.btcTx id).output.find? fun out =>
          out.scriptPubkey == lockupScript := by
    intro o
    cases o <;> rfl
  rw [recoverEntries_btcUserLockupAmountSat, recoverEntries_btcUserLockupAmountSat, hbind, h,
    ← hbind]

theorem lastSpending_ne_none {script : Script} {entries : List BtcHistory}
    (hids : ∀ e ∈ entries, ∃ h ∈ chain.btcHistory script, h.txid = e.txid)
    (hlen : 1 < (outgoingEntries chain script entries).length) :
    lastSpending chain script entries ≠ none := by
  rw [lastSpending, Ne, lastOutgoing_eq_none, List.filterMap_eq_nil_iff]
  intro hnone
  obtain ⟨e, he⟩ := List.exists_mem_of_length_pos (Nat.zero_lt_of_lt hlen)
  have := resolve_txid chain hids (List.mem_filter.mp he).1
  rw [hnone e he] at this
  cases this

theorem recoverEntries_eq_iff {scripts : List Script} {lockupScript : Script}
    (claimScript : Script) (h : lockupScript ∈ scripts) :
    recoverEntries chain addressFromScript txMap lockupScript claimScript
        (batchEntries chain scripts lockupScript) =
      recoverEntries chain addressFromScript txMap lockupScript claimScript
        (chain.btcHistory lockupScript) ↔
      ReceiveBatchStable chain txMap scripts lockupScript claimScript := by
  have hids : ∀ e ∈ batchEntries chain scripts lockupScript,
      ∃ h' ∈ chain.btcHistory lockupScript, h'.txid = e.txid := fun _ => mem_of_mem_batchEntries
  have hlen : (outgoingEntries chain lockupScript (chain.btcHistory lockupScript)).length ≤
      (outgoingEntries chain lockupScript (batchEntries chain scripts lockupScript)).length :=
    ((history_sublist_batchEntries chain h).filter _).length_le
  have hlockup := userLockup_eq_iff chain addressFromScript txMap lockupScript claimScript hids
  have hrefund := recoverEntries_btcRefundTxId chain addressFromScript txMap lockupScript claimScript
  have hlast := lastSpending_ne_none chain hids
  simp only [ReceiveBatchStable]
  constructor
  · intro heq
    have hr := congrArg RecoveredOnchainDataChainReceive.btcRefundTxId heq
    rw [hrefund, hrefund] at hr
    refine ⟨hlockup.mp (congrArg _ heq), fun hclaim hmany => ?_, fun hcase => ?_⟩
    · by_contra hfew
      rw [if_pos hclaim, if_pos hclaim, if_pos hmany, if_neg hfew] at hr
      exact hlast hmany hr
    · by_cases hclaim : (determineIncomingLockupAndClaimTxs (chain.lbtcHistory claimScript)
          txMap).2.isSome = true
      · have hmany := hcase.resolve_left (not_not.mpr hclaim)
        rw [if_pos hclaim, if_pos hclaim, if_pos hmany, if_pos (lt_of_lt_of_le hmany hlen)] at hr
        exact hr
      · rw [if_neg hclaim, if_neg hclaim] at hr
        exact hr
  · rintro ⟨hhead, hfew, hsame⟩
    have hr : (recoverEntries chain addressFromScript txMap lockupScript claimScript
          (batchEntries chain scripts lockupScript)).btcRefundTxId =
        (recoverEntries chain addressFromScript txMap lockupScript claimScript
          (chain.btcHistory lockupScript)).btcRefundTxId := by
      rw [hrefund, hrefund]
      by_cases hclaim : (determineIncomingLockupAndClaimTxs (chain.lbtcHistory claimScript)
          txMap).2.isSome = true
      · rw [if_pos hclaim, if_pos hclaim]
        by_cases hmany : 1 < (outgoingEntries chain lockupScript
            (chain.btcHistory lockupScript)).length
        · rw [if_pos hmany, if_pos (lt_of_lt_of_le hmany hlen), hsame (Or.inr hmany)]
        · rw [if_neg hmany, if_neg fun hm => hmany (hfew hclaim hm)]
      · rw [if_neg hclaim, if_neg hclaim, hsame (Or.inl hclaim)]
    have ha := userLockupAmount_eq chain addressFromScript txMap lockupScript claimScript hhead
    -- the Liquid half and the balance do not read the fetched transactions
    exact RecoveredOnchainDataChainReceive.ext rfl rfl rfl (hlockup.mpr hhead) rfl ha hr

end ChainReceiveSwapHandler

/-! ## The batch against the single swap -/

/-- The onchain data recovered for a chain swap of either direction. -/
inductive RecoveredOnchainDataChain where
  | send (data : RecoveredOnchainDataChainSend)
  | receive (data : RecoveredOnchainDataChainReceive)
  deriving DecidableEq, Repr

/-- What the handler of the swap's direction recovers out of a context. -/
def recoveredChainData (context : ChainSwapRecoveryContext) (swap : ChainSwap) :
    Except Err RecoveredOnchainDataChain :=
  match swap.direction with
  | .outgoing => (ChainSendSwapHandler.recoveredData bz context swap).map .send
  | .incoming => (ChainReceiveSwapHandler.recoveredData bz context swap).map .receive

/-- The onchain data recovered for a chain swap when a list of swaps is recovered together. -/
def batchRecoveredData (order : HashOrder) (txMap : TxMap)
    (addressFromScript : Script → Option Address) (liquidTipHeight bitcoinTipHeight : Nat)
    (swaps : List Swap) (swap : ChainSwap) : Except Err RecoveredOnchainDataChain := do
  let context ← chainSwapRecoveryContext bz chain order swaps txMap addressFromScript
    liquidTipHeight bitcoinTipHeight
  recoveredChainData bz context swap

/-- The stability condition of the swap's direction, at the scripts of the swap. -/
def BatchStable (txMap : TxMap) (scripts : List Script) (swap : ChainSwap) : Prop :=
  match swap.direction with
  | .outgoing => ∀ claimScript lockupScript,
      ChainSendSwapHandler.claimScript bz swap = .ok claimScript →
      ChainSendSwapHandler.lockupScript bz swap = .ok lockupScript →
      SendBatchStable chain scripts claimScript
  | .incoming => ∀ lockupScript claimScript,
      ChainReceiveSwapHandler.lockupScript bz swap = .ok lockupScript →
      ChainReceiveSwapHandler.claimScript bz swap = .ok claimScript →
      ReceiveBatchStable chain txMap scripts lockupScript claimScript

section Batch

variable {bz chain} {order : HashOrder} {swaps : List Swap} {txMap : TxMap}
  {addressFromScript : Script → Option Address} {liquidTipHeight bitcoinTipHeight : Nat}

/-- A funding script that an `ok_or` accepted is one of the swap's scripts. -/
theorem mem_fundingScripts {x : Except Err SwapScript} {err err' : String} {script : Script}
    (h : (match x with
      | .ok s => okOr s.fundingAddrs err
      | .error _ => .error (.generic err')) = .ok script) :
    fundingScripts x = [script] := by
  match x with
  | .error _ => cases h
  | .ok ⟨none, _, _⟩ => cases h
  | .ok ⟨some _, _, _⟩ =>
      cases h
      rfl

theorem batchRecoveredData_outgoing {swap : ChainSwap} (hdir : swap.direction = .outgoing)
    (hmem : Swap.chain swap ∈ order.values (SwapsList.ofSwaps swaps).swapsById)
    {claimScript lockupScript : Script}
    (hclaim : ChainSendSwapHandler.claimScript bz swap = .ok claimScript)
    (hlockup : ChainSendSwapHandler.lockupScript bz swap = .ok lockupScript) :
    claimScript ∈ (SwapsList.ofSwaps swaps).getSwapBtcScripts bz order ∧
      batchRecoveredData bz chain order txMap addressFromScript liquidTipHeight bitcoinTipHeight
        swaps swap = .ok (.send (ChainSendSwapHandler.recoverOnchainData txMap
          ⟨chain.lbtcHistory lockupScript, chain.btcHistory claimScript,
            (batchEntries chain ((SwapsList.ofSwaps swaps).getSwapBtcScripts bz order)
              claimScript).map fun h => chain.btcTx h.txid⟩ claimScript)) := by
  have hbtc : claimScript ∈ (SwapsList.ofSwaps swaps).getSwapBtcScripts bz order := by
    refine List.mem_flatMap.mpr ⟨_, hmem, ?_⟩
    simp [swapBtcScripts, hdir, mem_fundingScripts hclaim]
  have hlbtc : lockupScript ∈ (SwapsList.ofSwaps swaps).getSwapLbtcScripts bz order := by
    refine List.mem_flatMap.mpr ⟨_, hmem, ?_⟩
    simp [swapLbtcScripts, hdir, mem_fundingScripts hlockup]
  obtain ⟨context, hok, htx, -, hl, hb⟩ := chainSwapRecoveryContext_spec bz chain order swaps
    txMap addressFromScript liquidTipHeight bitcoinTipHeight
  refine ⟨hbtc, ?_⟩
  rw [batchRecoveredData, hok]
  obtain ⟨hhistory, htxs, -⟩ := hb _ hbtc
  simp only [recoveredChainData, hdir, ChainSendSwapHandler.recoveredData, hclaim, hlockup]
  simp only [bind, Except.bind, pure, Except.pure, Except.map, hl _ hlbtc, hhistory, htxs, htx,
    Option.getD_some]

theorem batchRecoveredData_incoming {swap : ChainSwap} (hdir : swap.direction = .incoming)
    (hmem : Swap.chain swap ∈ order.values (SwapsList.ofSwaps swaps).swapsById)
    {lockupScript claimScript : Script}
    (hlockup : ChainReceiveSwapHandler.lockupScript bz swap = .ok lockupScript)
    (hclaim : ChainReceiveSwapHandler.claimScript bz swap = .ok claimScript) :
    lockupScript ∈ (SwapsList.ofSwaps swaps).getSwapBtcScripts bz order ∧
      batchRecoveredData bz chain order txMap addressFromScript liquidTipHeight bitcoinTipHeight
        swaps swap = .ok (.receive (ChainReceiveSwapHandler.recoverEntries chain addressFromScript
          txMap lockupScript claimScript
          (batchEntries chain ((SwapsList.ofSwaps swaps).getSwapBtcScripts bz order)
            lockupScript))) := by
  have hbtc : lockupScript ∈ (SwapsList.ofSwaps swaps).getSwapBtcScripts bz order := by
    refine List.mem_flatMap.mpr ⟨_, hmem, ?_⟩
    simp [swapBtcScripts, hdir, mem_fundingScripts hlockup]
  have hlbtc : claimScript ∈ (SwapsList.ofSwaps swaps).getSwapLbtcScripts bz order := by
    refine List.mem_flatMap.mpr ⟨_, hmem, ?_⟩
    simp [swapLbtcScripts, hdir, mem_fundingScripts hclaim]
  obtain ⟨context, hok, htx, haddr, hl, hb⟩ := chainSwapRecoveryContext_spec bz chain order swaps
    txMap addressFromScript liquidTipHeight bitcoinTipHeight
  refine ⟨hbtc, ?_⟩
  rw [batchRecoveredData, hok]
  obtain ⟨hhistory, htxs, hbalance⟩ := hb _ hbtc
  simp only [recoveredChainData, hdir, ChainReceiveSwapHandler.recoveredData, hclaim, hlockup,
    ChainReceiveSwapHandler.recoverEntries]
  simp only [bind, Except.bind, pure, Except.pure, Except.map, hl _ hlbtc, hhistory, htxs, htx,
    haddr, hbalance, Option.getD_some]

/-- A swap whose scripts cannot be derived fails the same way in every context. -/
theorem recoveredChainData_of_error {swap : ChainSwap}
    (h : match swap.direction with
      | .outgoing => ∀ c l, ChainSendSwapHandler.claimScript bz swap = .ok c →
          ChainSendSwapHandler.lockupScript bz swap ≠ .ok l
      | .incoming => ∀ l c, ChainReceiveSwapHandler.lockupScript bz swap = .ok l →
          ChainReceiveSwapHandler.claimScript bz swap ≠ .ok c)
    (context context' : ChainSwapRecoveryContext) :
    recoveredChainData bz context swap = recoveredChainData bz context' swap := by
  unfold recoveredChainData
  cases hdir : swap.direction with
  | outgoing =>
      simp only [hdir] at h ⊢
      simp only [ChainSendSwapHandler.recoveredData]
      cases hc : ChainSendSwapHandler.claimScript bz swap with
      | error _ => rfl
      | ok c =>
          cases hl : ChainSendSwapHandler.lockupScript bz swap with
          | error _ => rfl
          | ok l => exact absurd hl (h c l hc)
  | incoming =>
      simp only [hdir] at h ⊢
      simp only [ChainReceiveSwapHandler.recoveredData]
      cases hl : ChainReceiveSwapHandler.lockupScript bz swap with
      | error _ => rfl
      | ok l =>
          cases hc : ChainReceiveSwapHandler.claimScript bz swap with
          | error _ => rfl
          | ok c => exact absurd hc (h l c hl)

/-- **A chain swap in a batch.** The onchain data recovered for a chain swap of a list of swaps is the
data recovered for it alone exactly when the batch is stable at the swap's scripts. -/
theorem batchRecoveredData_eq_alone_iff (addressFromScript : Script → Option Address)
    (liquidTipHeight bitcoinTipHeight : Nat) {swap : ChainSwap} (hmem : Swap.chain swap ∈ swaps)
    (hids : ∀ a ∈ swaps, ∀ b ∈ swaps, a.id = b.id → a = b) :
    batchRecoveredData bz chain order txMap addressFromScript liquidTipHeight bitcoinTipHeight
        swaps swap =
      batchRecoveredData bz chain order txMap addressFromScript liquidTipHeight bitcoinTipHeight
        [.chain swap] swap ↔
      BatchStable bz chain txMap ((SwapsList.ofSwaps swaps).getSwapBtcScripts bz order) swap := by
  have hvalues : Swap.chain swap ∈ order.values (SwapsList.ofSwaps swaps).swapsById :=
    mem_values hmem hids
  have halone : Swap.chain swap ∈
      order.values (SwapsList.ofSwaps [.chain swap]).swapsById := by
    rw [values_singleton]
    exact List.mem_singleton_self _
  have hscripts : (SwapsList.ofSwaps [.chain swap]).getSwapBtcScripts bz order =
      swapBtcScripts bz (.chain swap) := by
    simp [SwapsList.getSwapBtcScripts, values_singleton]
  unfold BatchStable
  cases hdir : swap.direction with
  | outgoing =>
      -- a swap whose scripts cannot be derived fails alone and in the batch
      by_cases hderive : ∃ c l, ChainSendSwapHandler.claimScript bz swap = .ok c ∧
          ChainSendSwapHandler.lockupScript bz swap = .ok l
      · obtain ⟨c, l, hc, hl⟩ := hderive
        obtain ⟨hbtc, hbatch⟩ := batchRecoveredData_outgoing hdir hvalues hc hl
        obtain ⟨-, hown⟩ := batchRecoveredData_outgoing hdir halone hc hl
        -- alone its only Bitcoin script is the claim script; the transactions of the others may differ
        have hone : swapBtcScripts bz (.chain swap) = [c] := by
          simp [swapBtcScripts, hdir, mem_fundingScripts hc]
        rw [hbatch, hown, hscripts, hone, batchEntries_singleton]
        simp only [Except.ok.injEq, RecoveredOnchainDataChain.send.injEq, hc, hl]
        rw [ChainSendSwapHandler.recoverOnchainData_txs_iff chain txMap _ _ c hbtc]
        exact ⟨fun h c' l' hc' _ => hc' ▸ h, fun h => h c l rfl rfl⟩
      · push Not at hderive
        obtain ⟨context, hok, -⟩ := chainSwapRecoveryContext_spec bz chain order swaps txMap
          addressFromScript liquidTipHeight bitcoinTipHeight
        obtain ⟨context', hok', -⟩ := chainSwapRecoveryContext_spec bz chain order [.chain swap]
          txMap addressFromScript liquidTipHeight bitcoinTipHeight
        rw [batchRecoveredData, batchRecoveredData, hok, hok']
        refine iff_of_true (recoveredChainData_of_error (by rw [hdir]; exact hderive) _ _) ?_
        exact fun c l hc hl => absurd hl (hderive c l hc)
  | incoming =>
      by_cases hderive : ∃ l c, ChainReceiveSwapHandler.lockupScript bz swap = .ok l ∧
          ChainReceiveSwapHandler.claimScript bz swap = .ok c
      · obtain ⟨l, c, hl, hc⟩ := hderive
        obtain ⟨hbtc, hbatch⟩ := batchRecoveredData_incoming hdir hvalues hl hc
        obtain ⟨-, hown⟩ := batchRecoveredData_incoming hdir halone hl hc
        -- here it is the lockup script
        have hone : swapBtcScripts bz (.chain swap) = [l] := by
          simp [swapBtcScripts, hdir, mem_fundingScripts hl]
        rw [hbatch, hown, hscripts, hone, batchEntries_singleton]
        simp only [Except.ok.injEq, RecoveredOnchainDataChain.receive.injEq, hc, hl]
        rw [ChainReceiveSwapHandler.recoverEntries_eq_iff chain addressFromScript txMap c hbtc]
        exact ⟨fun h l' c' hl' hc' => hl' ▸ hc' ▸ h, fun h => h l c rfl rfl⟩
      · push Not at hderive
        obtain ⟨context, hok, -⟩ := chainSwapRecoveryContext_spec bz chain order swaps txMap
          addressFromScript liquidTipHeight bitcoinTipHeight
        obtain ⟨context', hok', -⟩ := chainSwapRecoveryContext_spec bz chain order [.chain swap]
          txMap addressFromScript liquidTipHeight bitcoinTipHeight
        rw [batchRecoveredData, batchRecoveredData, hok, hok']
        refine iff_of_true (recoveredChainData_of_error (by rw [hdir]; exact hderive) _ _) ?_
        exact fun l c hl hc => absurd hc (hderive l c hl)

end Batch

/-! ## A shared server claim -/

/-- Two incoming chain swaps `a` and `b` were locked up separately and claimed by the swapper in one
transaction; a third swap `c` was locked up and claimed on its own. -/
def sharedClaim : ChainState where
  lbtcHistory script :=
    if script = "a-claim" then [⟨"server-a", 10⟩, ⟨"claim-a", 12⟩] else []
  btcHistory script :=
    if script = "a-lockup" then [⟨"user-a", 5⟩, ⟨"batch", 8⟩]
    else if script = "b-lockup" then [⟨"user-b", 5⟩, ⟨"batch", 8⟩]
    else if script = "c-lockup" then [⟨"user-c", 5⟩, ⟨"swapper-c", 8⟩]
    else []
  btcTx id :=
    if id = "user-a" then ⟨id, [], [⟨1000, "a-lockup"⟩]⟩
    else if id = "user-b" then ⟨id, [], [⟨1000, "b-lockup"⟩]⟩
    else if id = "user-c" then ⟨id, [], [⟨1000, "c-lockup"⟩]⟩
    else ⟨id, [], [⟨900, "swapper"⟩]⟩
  btcTx_txid id := by split_ifs <;> rfl
  btcBalance _ := { confirmed := 0 }

def incomingSwap (id : SwapId) : ChainSwap :=
  { id, direction := .incoming, createResponseJson := id, payerAmountSat := 1000 }

/-- The wallet knows its claim of swap `a`. -/
def claimAKnown : TxMap :=
  .fromRawTxMap (transactionsByTxId
    [{ txid := "claim-a", balance := HashMap.ofList [("lbtc", 900)] }])

/-- Swap `a` next to swap `c`, which shares no transaction with it. -/
theorem batchRecoveredData_eq_alone_iff_disjoint :
    BatchStable (.byAddress 900) sharedClaim claimAKnown
      ((SwapsList.ofSwaps [.chain (incomingSwap "a"), .chain (incomingSwap "c")]).getSwapBtcScripts
        (.byAddress 900) .insertion) (incomingSwap "a") :=
  (batchRecoveredData_eq_alone_iff (fun _ => none) 20 20 (by decide) (by decide)).mp
    (by decide +kernel)

/-- Next to swap `b` the swapper's one claim is counted twice and reported as our refund of swap
`a`; alone no refund is reported. -/
theorem batchRecoveredData_shared_claim :
    batchRecoveredData (.byAddress 900) sharedClaim .insertion claimAKnown (fun _ => none) 20 20
        [.chain (incomingSwap "a"), .chain (incomingSwap "b")] (incomingSwap "a") ≠
      batchRecoveredData (.byAddress 900) sharedClaim .insertion claimAKnown (fun _ => none) 20 20
        [.chain (incomingSwap "a")] (incomingSwap "a") := by
  decide +kernel

end BreezLiquid.Recover
