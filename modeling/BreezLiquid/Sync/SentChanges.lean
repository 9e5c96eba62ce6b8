/-
# BreezLiquid.Sync.SentChanges — a push removes what it sent.

A push reads the queue, loads and sends one record after the other, and at last removes the queued changes of
what was accepted, by their record ids. Local writes come in between, at any await point. What they queue for a
record that was loaded before is removed with the rest, sent or not.

The condition `QueuesSent` is about the local writes and speaks of the time between the load of a record and the removal
of its queued change: what is queued of it last has to be the data that was sent. `pushProtocol` carries, for the
records that were accepted so far, that this has been the case (`SentSoFar`), through the loop over the queue, and the
removal at its end then meets only changes that were sent.
-/
import BreezLiquid.Sync.Footprint

namespace BreezLiquid.Sync

open Interleaving Tables

/-! ## The local commits of a record -/

/-- The commits of a record in a log. -/
def commitsOf (recordId : RecordId) (log : List OutgoingCommit) : List OutgoingCommit :=
  log.filter fun c => c.recordId = recordId

/-- What was queued last is what was sent. -/
def Unchanged (sent : SyncData) (commits : List OutgoingCommit) : Prop :=
  ∀ c ∈ commits.head?, c.data = .ok sent

theorem commitsOf_append (recordId : RecordId) (log log' : List OutgoingCommit) :
    commitsOf recordId (log ++ log') = commitsOf recordId log ++ commitsOf recordId log' :=
  List.filter_append ..

/-- What was committed since some point, when the log has grown. -/
theorem commitsSince_of_append {db db' : Db} {new : List OutgoingCommit} {n : Nat}
    (h : db'.outgoingCommits = new ++ db.outgoingCommits) (hn : n ≤ db.outgoingCommits.length)
    (recordId : RecordId) :
    db'.commitsSince n recordId = commitsOf recordId new ++ db.commitsSince n recordId := by
  have hlength : (new ++ db.outgoingCommits).length - n = new.length + (db.outgoingCommits.length - n) := by
    rw [List.length_append]
    omega
  unfold Db.commitsSince commitsOf
  rw [h, hlength, List.take_length_add_append, List.filter_append]

/-- The commits since a moment are those that were added. -/
theorem commitsSince_of_length {db db' : Db} {new : List OutgoingCommit}
    (h : db'.outgoingCommits = new ++ db.outgoingCommits) (recordId : RecordId) :
    db'.commitsSince db.outgoingCommits.length recordId = commitsOf recordId new := by
  rw [commitsSince_of_append h le_rfl]
  simp [Db.commitsSince]

theorem Unchanged.append {sent : SyncData} {new old : List OutgoingCommit} (hnew : Unchanged sent new)
    (hold : Unchanged sent old) : Unchanged sent (new ++ old) := by
  cases new with
  | nil => exact hold
  | cons c new => exact hnew

theorem unchanged_nil (sent : SyncData) : Unchanged sent [] := nofun

/-! ## One push among local writes -/

/-- What others do next to a push: whatever they write, the log of local commits only grows. -/
structure LocalWrites (w w' : World) : Prop where
  commits : ∃ new, w'.db.outgoingCommits = new ++ w.db.outgoingCommits
  trace : w'.trace = w.trace

section Push

variable (sdk : Sdk)

/-- One push, and local writes. -/
def pushSystem : System World Call Call.Answer Err Unit where
  effect := World.effect sdk
  spawns _ _ _ _ := False
  env := LocalWrites

def pushTask : Async Unit := do
  let _ ← push sdk
  return ()

/-- The push has not come to its end. -/
def NoneRemoved (w : World) : Prop :=
  ∀ recordId sent commits, .outgoingRemoved recordId sent commits ∉ w.trace

/-- The record was sent with this data and accepted, and its queued change will be removed. -/
def InFlight (recordId : RecordId) (sent : SyncData) (w : World) : Prop :=
  (∃ commits, .pushAccepted recordId sent commits ∈ w.trace) ∧ NoneRemoved w

/-- Nothing but what was sent is queued of an accepted record: not from its load until the acceptance is stored,
and not from then until the end of the push. -/
def QueuesSent : Cond World Unit
  | .own _, w, w' => ∀ recordId sent commits,
      w'.trace = .pushAccepted recordId sent commits :: w.trace → Unchanged sent commits
  | .env, w, w' => ∀ recordId sent, InFlight recordId sent w →
      Unchanged sent (w'.db.commitsSince w.db.outgoingCommits.length recordId)
  | _, _, _ => True

/-- The queued changes that are gone were sent. -/
def RemovesSent (w w' : World) : Prop :=
  ∀ change ∈ w.db.getSyncOutgoingChanges, change ∈ w'.db.getSyncOutgoingChanges ∨
    ∃ sent commits, .outgoingRemoved change.recordId sent commits ∈ w'.trace ∧
      .outgoingRemoved change.recordId sent commits ∉ w.trace

/-- What a push relies on. -/
def PushRely (w w' : World) : Prop :=
  w'.trace = w.trace ∧ ∃ new, w'.db.outgoingCommits = new ++ w.db.outgoingCommits ∧
    ∀ recordId sent, InFlight recordId sent w → Unchanged sent (commitsOf recordId new)

/-- A record in flight stays so until something happens to it. -/
theorem InFlight.of_trace {recordId : RecordId} {sent : SyncData} {w w' : World}
    (h : InFlight recordId sent w) (htrace : w'.trace = w.trace) : InFlight recordId sent w' := by
  obtain ⟨⟨commits, haccepted⟩, hnone⟩ := h
  refine ⟨⟨commits, htrace ▸ haccepted⟩, fun r s c hmem => ?_⟩
  rw [htrace] at hmem
  exact hnone r s c hmem

theorem PushRely.refl (w : World) : PushRely w w :=
  ⟨rfl, [], rfl, fun _ sent _ => unchanged_nil sent⟩

theorem PushRely.trans {w w' w'' : World} (h : PushRely w w') (h' : PushRely w' w'') : PushRely w w'' := by
  obtain ⟨htrace, new, hcommits, hnew⟩ := h
  obtain ⟨htrace', new', hcommits', hnew'⟩ := h'
  refine ⟨htrace'.trans htrace, new' ++ new, ?_, ?_⟩
  · rw [hcommits', hcommits, List.append_assoc]
  · intro recordId sent hflight
    rw [commitsOf_append]
    exact (hnew' recordId sent (hflight.of_trace htrace)).append (hnew recordId sent hflight)

/-- What was removed had been sent. -/
def pushProtocol : Protocol World Unit where
  inv w := ∀ recordId sent commits, .outgoingRemoved recordId sent commits ∈ w.trace → Unchanged sent commits
  rely _ := PushRely
  guar _ := RemovesSent
  idle _ _ := True
  rely_refl _ := PushRely.refl
  rely_trans _ _ _ _ := PushRely.trans
  idle_stable _ _ _ _ _ _ := trivial

/-- Where the queue stays nothing is removed. -/
theorem removesSent_of_queue {w w' : World} (h : w'.db.syncOutgoing = w.db.syncOutgoing) : RemovesSent w w' := by
  intro change hchange
  refine .inl ?_
  show change ∈ w'.db.syncOutgoing.rows
  rw [h]
  exact hchange

/-! ## What was sent so far -/

/-- The records are in flight, and nothing else was queued of them since they were loaded. -/
def SentSoFar (succeded : List Sent) (w : World) : Prop :=
  NoneRemoved w ∧ ∀ sent ∈ succeded, InFlight sent.recordId sent.data w ∧
    sent.commitsBefore ≤ w.db.outgoingCommits.length ∧ Unchanged sent.data (sent.commits w.db)

/-- What was sent stays sent. -/
theorem SentSoFar.rely {succeded : List Sent} {w w' : World} (h : SentSoFar succeded w) (hr : PushRely w w') :
    SentSoFar succeded w' := by
  obtain ⟨hnone, hsent⟩ := h
  obtain ⟨htrace, new, hcommits, hnew⟩ := hr
  constructor
  · intro r s c hmem
    rw [htrace] at hmem
    exact hnone r s c hmem
  · intro sent hmem
    obtain ⟨hflight, hlength, hunchanged⟩ := hsent sent hmem
    refine ⟨hflight.of_trace htrace, ?_, ?_⟩
    · rw [hcommits, List.length_append]
      omega
    · show Unchanged sent.data (w'.db.commitsSince sent.commitsBefore sent.recordId)
      rw [commitsSince_of_append hcommits hlength]
      exact (hnew _ _ hflight).append hunchanged

/-- A push answered leaves the database and the history as they are. -/
theorem effect_push (record : Record) (a : (Call.push record).Answer) (w : World) :
    (World.effect sdk (.push record) a w).db = w.db ∧ (World.effect sdk (.push record) a w).trace = w.trace := by
  refine ⟨effect_db sdk _ a w, ?_⟩
  cases a with
  | error err => rfl
  | ok reply =>
      unfold World.effect
      dsimp only
      split <;> rfl

variable {sdk}

/-- What the push of one record leaves for the rest of the push. -/
def AfterPush (succeded : List Sent) (x : Except Err Sent) (w : World) : Prop :=
  SentSoFar succeded w ∧ ∀ sent, x = .ok sent → SentSoFar [sent] w

/-- A failed push removes nothing. -/
theorem afterPush_error {succeded : List Sent} {err : Err} {w : World} (h : SentSoFar succeded w) :
    Safe (pushSystem sdk) QueuesSent pushProtocol () (.done (.error err)) (AfterPush succeded) w :=
  fun _ hr _ => ⟨h.rely hr, nofun⟩

/-- The acceptance of a record is stored. -/
theorem safe_accept {succeded : List Sent} {sent : Sent} {syncState : SyncState} {w : World}
    (h : SentSoFar succeded w) (hlength : sent.commitsBefore ≤ w.db.outgoingCommits.length) :
    Safe (pushSystem sdk) QueuesSent pushProtocol ()
      ((Task.modify fun w => (w.note (.pushAccepted sent.recordId sent.data (sent.commits w.db))).write
        fun _ db => db.setSyncState syncState : Async Unit).bind fun _ => .done (.ok sent))
      (AfterPush succeded) w := by
  intro w₁ hr hi hc
  have hsoFar := h.rely hr
  obtain ⟨htrace, new, hcommits, -⟩ := hr
  have hunchanged : Unchanged sent.data (sent.commits w₁.db) := hc sent.recordId sent.data _ rfl
  refine ⟨?_, removesSent_of_queue rfl, ?_⟩
  · intro r s c hmem
    rcases List.mem_cons.mp hmem with heq | hmem
    · cases heq
    · exact hi r s c hmem
  · have hnone : NoneRemoved ((w₁.note (.pushAccepted sent.recordId sent.data (sent.commits w₁.db))).write
        fun _ db => db.setSyncState syncState) := by
      intro r s c hmem
      rcases List.mem_cons.mp hmem with heq | hmem
      · cases heq
      · exact hsoFar.1 r s c hmem
    have hall : SentSoFar (sent :: succeded)
        ((w₁.note (.pushAccepted sent.recordId sent.data (sent.commits w₁.db))).write
          fun _ db => db.setSyncState syncState) := by
      refine ⟨hnone, fun sent' hmem => ?_⟩
      rcases List.mem_cons.mp hmem with rfl | hmem
      · refine ⟨⟨⟨_, List.mem_cons_self⟩, hnone⟩, ?_, hunchanged⟩
        show sent'.commitsBefore ≤ w₁.db.outgoingCommits.length
        rw [hcommits, List.length_append]
        omega
      · obtain ⟨⟨⟨commits, haccepted⟩, -⟩, hlength', hunchanged'⟩ := hsoFar.2 sent' hmem
        exact ⟨⟨⟨commits, List.mem_cons_of_mem _ haccepted⟩, hnone⟩, hlength', hunchanged'⟩
    intro w₂ hr₂ _
    have hall₂ := hall.rely hr₂
    refine ⟨⟨hall₂.1, fun s hs => hall₂.2 s (List.mem_cons_of_mem _ hs)⟩, ?_⟩
    rintro s ⟨⟩
    refine ⟨hall₂.1, fun s' hs' => ?_⟩
    rw [List.mem_singleton.mp hs']
    exact hall₂.2 sent List.mem_cons_self

/-- One record: the reply is noted with the data that was sent ... -/
theorem safe_handlePush {succeded : List Sent} (recordId : RecordId) (dataId : DataId) (recordType : RecordType)
    {w : World} (h : SentSoFar succeded w) :
    Safe (pushSystem sdk) QueuesSent pushProtocol () (handlePush sdk recordId dataId recordType)
      (AfterPush succeded) w := by
  have hguar : ∀ w, RemovesSent w w := fun w => removesSent_of_queue rfl
  refine safe_reads_bind hguar fun w₁ hr₁ _ => ?_
  refine safe_reads_bind hguar fun w₂ hr₂ _ => ?_
  have h₂ := (h.rely hr₁).rely hr₂
  dsimp only
  cases w₂.db.loadSyncData dataId recordType with
  | error err => exact afterPush_error h₂
  | ok data =>
      dsimp only [Task.ofExcept, Task.bind_eq, Task.done_ok_bind]
      cases Record.make sdk.persister.codec data _ with
      | error err => exact afterPush_error h₂
      | ok record =>
          intro w₃ hr₃ hi₃ reply _ _
          obtain ⟨hdb, htrace⟩ := effect_push sdk record reply w₃
          have heffect : PushRely w₃ (World.effect sdk (.push record) reply w₃) :=
            ⟨htrace, [], by rw [hdb]; rfl, fun _ sent _ => unchanged_nil sent⟩
          have hrely := PushRely.trans hr₃ heffect
          refine ⟨?_, removesSent_of_queue (congrArg Db.syncOutgoing hdb), ?_⟩
          · intro r s c hmem
            have hmem' : Event.outgoingRemoved r s c ∈ (World.effect sdk (.push record) reply w₃).trace := hmem
            rw [htrace] at hmem'
            exact hi₃ r s c hmem'
          · cases reply with
            | error err => exact afterPush_error (h₂.rely hrely)
            | ok reply =>
                obtain ⟨status, revision⟩ := reply
                cases status with
                | conflict => exact afterPush_error (h₂.rely hrely)
                | success =>
                    have hlength : w₂.db.outgoingCommits.length ≤
                        (World.effect sdk (.push record) (.ok ⟨.success, revision⟩) w₃).db.outgoingCommits.length := by
                      obtain ⟨-, new, hcommits, -⟩ := hrely
                      rw [hcommits, List.length_append]
                      omega
                    exact @safe_accept sdk succeded ⟨recordId, data, w₂.db.outgoingCommits.length⟩ _ _
                      (h₂.rely hrely) hlength

/-- What the loop leaves: what it returns as sent was sent, and so was what had been sent before. -/
def AfterPushes (succeded : List Sent) (x : Except Err (List Sent × Nat)) (w : World) : Prop :=
  SentSoFar succeded w ∧ ∀ out, x = .ok out → SentSoFar out.1 w

/-- ... by induction on the queue, for all of them ... -/
theorem safe_pushChanges (changes : List SyncOutgoingChanges) {succeded : List Sent} {w : World}
    (h : SentSoFar succeded w) :
    Safe (pushSystem sdk) QueuesSent pushProtocol () (pushChanges sdk changes) (AfterPushes succeded) w := by
  induction changes generalizing succeded w with
  | nil =>
      intro w₁ hr _
      refine ⟨h.rely hr, ?_⟩
      rintro out ⟨⟩
      exact ⟨(h.rely hr).1, nofun⟩
  | cons c changes ih =>
      refine Safe.bind (Safe.attempt ((safe_handlePush c.recordId c.dataId c.recordType h).mono ?_))
      intro res w₁ _ hres
      -- the rest of the loop keeps what was sent so far, this record included
      cases res with
      | error err =>
          refine Safe.bind ((ih hres.1).mono ?_)
          intro rest w₂ _ hrest
          cases rest with
          | error err' => exact ⟨hrest.1, nofun⟩
          | ok out =>
              obtain ⟨sents, errors⟩ := out
              have hout := hrest.2 _ rfl
              have hdone : ∀ m, Safe (pushSystem sdk) QueuesSent pushProtocol () (.done (.ok (sents, m)))
                  (AfterPushes succeded) w₂ := by
                intro m w₃ hr _
                refine ⟨hrest.1.rely hr, ?_⟩
                rintro out ⟨⟩
                exact hout.rely hr
              dsimp only
              split
              · rename_i heq
                cases heq
              · exact hdone _
              · exact hdone _
      | ok sent =>
          have hsent : SentSoFar (sent :: succeded) w₁ := by
            refine ⟨hres.1.1, fun s hs => ?_⟩
            rcases List.mem_cons.mp hs with rfl | hs
            · exact (hres.2 _ rfl).2 _ List.mem_cons_self
            · exact hres.1.2 s hs
          refine Safe.bind ((ih hsent).mono ?_)
          intro rest w₂ _ hrest
          have hbefore : SentSoFar succeded w₂ :=
            ⟨hrest.1.1, fun s hs => hrest.1.2 s (List.mem_cons_of_mem _ hs)⟩
          cases rest with
          | error err' => exact ⟨hbefore, nofun⟩
          | ok out =>
              obtain ⟨sents, errors⟩ := out
              intro w₃ hr _
              refine ⟨hbefore.rely hr, ?_⟩
              rintro out ⟨⟩
              refine SentSoFar.rely ⟨hrest.1.1, fun s hs => ?_⟩ hr
              rcases List.mem_cons.mp hs with rfl | hs
              · exact hrest.1.2 _ List.mem_cons_self
              · exact (hrest.2 _ rfl).2 s hs

/-- The queued changes of what was sent are removed. -/
theorem safe_removeSent {α : Type} {succeded : List Sent} {x : Except Err α} {w : World}
    (h : SentSoFar succeded w) :
    Safe (pushSystem sdk) QueuesSent pushProtocol () ((removeSent succeded).bind fun _ => .done x)
      (fun _ _ => True) w := by
  intro w₁ hr hi _
  have hsoFar := h.rely hr
  refine ⟨?_, ?_, fun _ _ _ => trivial⟩
  · intro r s c hmem
    rcases List.mem_append.mp hmem with hmem | hmem
    · obtain ⟨sent, hsent, heq⟩ := List.mem_map.mp hmem
      cases heq
      exact (hsoFar.2 sent hsent).2.2
    · exact hi r s c hmem
  · intro change hchange
    by_cases hid : change.recordId ∈ succeded.map Sent.recordId
    · obtain ⟨sent, hsent, heq⟩ := List.mem_map.mp hid
      refine .inr ⟨sent.data, sent.commits w₁.db, ?_, hsoFar.1 _ _ _⟩
      refine List.mem_append_left _ (List.mem_map.mpr ⟨sent, hsent, ?_⟩)
      rw [heq]
    · refine .inl (List.mem_filter.mpr ⟨hchange, ?_⟩)
      simpa using hid

/-- ... and what is removed then is what was sent. -/
theorem safe_push {w : World} (h : NoneRemoved w) :
    Safe (pushSystem sdk) QueuesSent pushProtocol () (pushTask sdk) (fun _ _ => True) w := by
  have hpush : Safe (pushSystem sdk) QueuesSent pushProtocol () (push sdk) (fun _ _ => True) w := by
    refine safe_reads_bind (fun w => removesSent_of_queue rfl) fun w₁ hr₁ _ => ?_
    have hnone : SentSoFar [] w₁ := SentSoFar.rely ⟨h, nofun⟩ hr₁
    refine Safe.bind ((safe_pushChanges _ hnone).mono fun x w₂ _ hx => ?_)
    cases x with
    | error err => trivial
    | ok out =>
        have hout := hx.2 out rfl
        dsimp only
        split
        · split
          · exact safe_removeSent hout
          · exact safe_removeSent hout
        · split
          · exact fun _ _ _ => trivial
          · exact fun _ _ _ => trivial
  refine Safe.bind (hpush.mono fun x w₁ _ _ => ?_)
  cases x with
  | error err => trivial
  | ok n => exact fun _ _ _ => trivial

/-- There is one push at a time. -/
theorem push_sound : Sound (pushSystem sdk) QueuesSent pushProtocol fun _ _ => False where
  compat r r' h := by
    rcases h with h | h
    · exact absurd rfl h
    · exact h.elim
  spawn _ _ _ _ h := h.elim
  abort _ _ _ _ := trivial
  env w w' h hi hc := by
    obtain ⟨⟨new, hcommits⟩, htrace⟩ := h
    constructor
    · intro r s c hmem
      rw [htrace] at hmem
      exact hi r s c hmem
    · intro _
      refine ⟨htrace, new, hcommits, fun recordId sent hflight => ?_⟩
      rw [← commitsSince_of_length hcommits]
      exact hc recordId sent hflight

/-- It starts with nothing removed. -/
theorem kept_push {w : World} (hw : w.trace = []) :
    Kept (pushSystem sdk) QueuesSent pushProtocol (fun _ _ => False) ⟨w, [((), pushTask sdk)]⟩ where
  inv r s c hmem := by
    have hmem : Event.outgoingRemoved r s c ∈ w.trace := hmem
    rw [hw] at hmem
    exact absurd hmem List.not_mem_nil
  roles := List.pairwise_singleton _ _
  safe e he := by
    rw [List.mem_singleton.mp he]
    refine safe_push fun r s c hmem => ?_
    rw [hw] at hmem
    exact absurd hmem List.not_mem_nil
  idle _ _ := trivial

/-- In every interleaving of one push with local writes that queue nothing else of a record while it is being
pushed: a queued change that is gone after an action of the push was removed at its end, after its data was sent,
and what was queued of the record since it was loaded is what was sent. -/
theorem push_removes_sent {w : World} {c c' : Pool World Call Call.Answer Err Unit} (hw : w.trace = [])
    (hrun : Runs (pushSystem sdk) QueuesSent ⟨w, [((), pushTask sdk)]⟩ c)
    (hstep : Step (pushSystem sdk) c (.own ()) c') (hcond : QueuesSent (.own ()) c.state c'.state)
    {change : SyncOutgoingChanges} (hchange : change ∈ c.state.db.getSyncOutgoingChanges) :
    change ∈ c'.state.db.getSyncOutgoingChanges ∨
      ∃ sent commits, .outgoingRemoved change.recordId sent commits ∈ c'.state.trace ∧
        Unchanged sent commits := by
  obtain ⟨hi, hg⟩ := Step.guaranteed (Runs.keep push_sound (kept_push hw) hrun) hstep hcond
  rcases hg change hchange with hqueued | ⟨sent, commits, hremoved, -⟩
  · exact .inl hqueued
  · exact .inr ⟨sent, commits, hremoved, hi _ _ _ hremoved⟩

end Push

/-! ## A change that is lost -/

def indexSdk : Sdk where
  bz := .byAddress 0
  persister := { codec := .table fun _ => none }

/-- The remote accepts. -/
def acceptAnswers : Nat → (q : Call) → q.Answer
  | _, .push _ => .ok ⟨.success, 1⟩
  | _, q => q.offline

/-- The wallet has used the derivation index 5, and queued it. -/
def indexQueued : World :=
  { db := ({} : Db).setLastDerivationIndex indexSdk.persister 0 5 }

/-- Some actions of a task. -/
def actions (n : Nat) (t : Async Unit) (w : Nat × World) : Async Unit × (Nat × World) :=
  t.advance (World.effect indexSdk) acceptAnswers n w

/-- The push when it has loaded the index. -/
def loadedIndex : Async Unit × (Nat × World) := actions 3 (pushTask indexSdk) (0, indexQueued)

/-- The wallet uses the next index. -/
def nextIndexUsed (w : World) : World := w.write fun now db => db.setLastDerivationIndex indexSdk.persister now 6

/-- The push of the old index when its removal is next. -/
def pushedOldIndex : Async Unit × (Nat × World) :=
  actions 2 loadedIndex.1 (loadedIndex.2.1, nextIndexUsed loadedIndex.2.2)

/-- The wallet stores the same index again, and the details of a payment. -/
def sameIndexUsed (w : World) : World := w.write fun now db => db.setLastDerivationIndex indexSdk.persister now 5

def detailsAdded (w : World) : World :=
  w.write fun now db => db.insertOrUpdatePaymentDetails indexSdk.persister now { txId := "tx", destination := "address" }

/-- The push among these writes when its removal is next. -/
def pushedIndex : Async Unit × (Nat × World) :=
  actions 2 loadedIndex.1 (loadedIndex.2.1, detailsAdded (sameIndexUsed loadedIndex.2.2))

/-- An acceptance that is stored with nothing queued in between but what was sent. -/
def acceptsUnchanged (w : World) : Bool :=
  match w.trace with
  | .pushAccepted _ sent commits :: _ => commits.head?.all fun c => c.data = .ok sent
  | _ => true

theorem queuesSent_of_accepts {w w' : World} (h : acceptsUnchanged w' = true) : QueuesSent (.own ()) w w' := by
  intro recordId sent commits heq c hc
  unfold acceptsUnchanged at h
  rw [heq] at h
  dsimp only at h
  rw [Option.mem_def.mp hc] at h
  exact of_decide_eq_true h

/-- Nothing was accepted yet, so other writes may queue anything. -/
theorem queuesSent_of_trace {w w' : World} (h : w.trace.isEmpty = true) : QueuesSent .env w w' := by
  rintro recordId sent ⟨⟨commits, hmem⟩, -⟩
  rw [List.isEmpty_iff.mp h] at hmem
  cases hmem

/-- The index is removed once it was sent, though it was stored again. The details stay. -/
theorem push_removes_sent_index :
    ((actions 1 pushedIndex.1 pushedIndex.2).2.2.db.getSyncOutgoingChanges.map (·.recordId) = ["payment-details:tx"]) ∧
    ∀ change ∈ pushedIndex.2.2.db.getSyncOutgoingChanges,
      change ∈ (actions 1 pushedIndex.1 pushedIndex.2).2.2.db.getSyncOutgoingChanges ∨
        ∃ sent commits, .outgoingRemoved change.recordId sent commits ∈
          (actions 1 pushedIndex.1 pushedIndex.2).2.2.trace ∧ Unchanged sent commits := by
  have hS : ∀ q a s, (pushSystem indexSdk).answers q a s := fun _ _ _ => trivial
  have hloadSteps : (pushTask indexSdk).Steps (pushSystem indexSdk).effect acceptAnswers (QueuesSent (.own ()))
      (0, indexQueued) := by
    refine Task.Steps.mono (p := fun _ w' => acceptsUnchanged w' = true) _ _ ?_ fun w w' h =>
      queuesSent_of_accepts h
    decide +kernel
  have hload : Runs (pushSystem indexSdk) QueuesSent ⟨indexQueued, [((), pushTask indexSdk)]⟩
      ⟨loadedIndex.2.2, [((), loadedIndex.1)]⟩ := runs_advance hS acceptAnswers 3 hloadSteps
  have hindex : Runs (pushSystem indexSdk) QueuesSent ⟨loadedIndex.2.2, [((), loadedIndex.1)]⟩
      ⟨sameIndexUsed loadedIndex.2.2, [((), loadedIndex.1)]⟩ :=
    .single ⟨.env, .env ⟨⟨[⟨"derivation-index:last-derivation-index", .ok (.lastDerivationIndex 5)⟩], rfl⟩, rfl⟩,
      queuesSent_of_trace (by decide +kernel)⟩
  have hdetails : Runs (pushSystem indexSdk) QueuesSent ⟨sameIndexUsed loadedIndex.2.2, [((), loadedIndex.1)]⟩
      ⟨detailsAdded (sameIndexUsed loadedIndex.2.2), [((), loadedIndex.1)]⟩ :=
    .single ⟨.env, .env ⟨⟨[⟨_, _⟩], rfl⟩, rfl⟩, queuesSent_of_trace (by decide +kernel)⟩
  have hpushSteps : loadedIndex.1.Steps (pushSystem indexSdk).effect acceptAnswers (QueuesSent (.own ()))
      (loadedIndex.2.1, detailsAdded (sameIndexUsed loadedIndex.2.2)) := by
    refine Task.Steps.mono (p := fun _ w' => acceptsUnchanged w' = true) _ _ ?_ fun w w' h =>
      queuesSent_of_accepts h
    decide +kernel
  have hpush : Runs (pushSystem indexSdk) QueuesSent
      ⟨detailsAdded (sameIndexUsed loadedIndex.2.2), [((), loadedIndex.1)]⟩
      ⟨pushedIndex.2.2, [((), pushedIndex.1)]⟩ := runs_advance hS acceptAnswers 2 hpushSteps
  have hlast : acceptsUnchanged (actions 1 pushedIndex.1 pushedIndex.2).2.2 = true := by decide +kernel
  refine ⟨by decide +kernel, fun change hchange => ?_⟩
  exact push_removes_sent rfl (((hload.trans hindex).trans hdetails).trans hpush)
    (step_advance hS acceptAnswers (m := pushedIndex.2.1) (by decide +kernel))
    (queuesSent_of_accepts hlast) hchange

/-- The queue is emptied of a record after other data than what is queued was sent. -/
def losesChange (w w' : World) : Bool :=
  match w'.trace, w.db.getSyncOutgoingChanges with
  | .outgoingRemoved recordId sent (c :: _) :: _, [change] =>
      change.recordId == recordId && w'.db.getSyncOutgoingChanges.isEmpty &&
        match c.data with
        | .ok data => data != sent
        | .error _ => true
  | _, _ => false

theorem lost_of_losesChange {w w' : World} (h : losesChange w w' = true) : ∃ change sent commits,
    change ∈ w.db.getSyncOutgoingChanges ∧ change ∉ w'.db.getSyncOutgoingChanges ∧
      w'.trace.head? = some (.outgoingRemoved change.recordId sent commits) ∧ ¬ Unchanged sent commits := by
  unfold losesChange at h
  split at h
  · rename_i recordId sent c commits trace change htrace hqueue
    simp only [Bool.and_eq_true, beq_iff_eq, List.isEmpty_iff] at h
    obtain ⟨⟨hid, hempty⟩, hdata⟩ := h
    refine ⟨change, sent, c :: commits, ?_, ?_, ?_, ?_⟩
    · rw [hqueue]
      exact List.mem_singleton.mpr rfl
    · rw [hempty]
      exact List.not_mem_nil
    · rw [htrace, hid]
      rfl
    · intro hsent
      rw [hsent c rfl] at hdata
      simp at hdata
  · cases h

/-- The wallet uses the next index after the push has loaded the old one: the change is removed, and only the
old index was sent. -/
theorem push_loses_change : ∃ c c', Runs (pushSystem indexSdk) .any ⟨indexQueued, [((), pushTask indexSdk)]⟩ c ∧
    Step (pushSystem indexSdk) c (.own ()) c' ∧
    ∃ change sent commits, change ∈ c.state.db.getSyncOutgoingChanges ∧
      change ∉ c'.state.db.getSyncOutgoingChanges ∧
      c'.state.trace.head? = some (.outgoingRemoved change.recordId sent commits) ∧
      ¬ Unchanged sent commits := by
  have hS : ∀ q a s, (pushSystem indexSdk).answers q a s := fun _ _ _ => trivial
  have hany : ∀ (t : Async Unit) w, t.Steps (pushSystem indexSdk).effect acceptAnswers
      ((Cond.any : Cond World Unit) (.own ())) w :=
    fun t w => Task.steps_of_forall _ _ (fun _ _ => trivial) t w
  have hload : Runs (pushSystem indexSdk) .any ⟨indexQueued, [((), pushTask indexSdk)]⟩
      ⟨loadedIndex.2.2, [((), loadedIndex.1)]⟩ := runs_advance hS acceptAnswers 3 (hany _ _)
  -- the next index is used after the old one was loaded
  have hwrite : Runs (pushSystem indexSdk) .any ⟨loadedIndex.2.2, [((), loadedIndex.1)]⟩
      ⟨nextIndexUsed loadedIndex.2.2, [((), loadedIndex.1)]⟩ := by
    exact .single ⟨.env, .env ⟨⟨[⟨"derivation-index:last-derivation-index", .ok (.lastDerivationIndex 6)⟩], rfl⟩,
      rfl⟩, trivial⟩
  have hpush : Runs (pushSystem indexSdk) .any ⟨nextIndexUsed loadedIndex.2.2, [((), loadedIndex.1)]⟩
      ⟨pushedOldIndex.2.2, [((), pushedOldIndex.1)]⟩ := runs_advance hS acceptAnswers 2 (hany _ _)
  refine ⟨_, _, (hload.trans hwrite).trans hpush,
    step_advance hS acceptAnswers (m := pushedOldIndex.2.1) (by decide +kernel), ?_⟩
  exact lost_of_losesChange (by decide +kernel)

end BreezLiquid.Sync
