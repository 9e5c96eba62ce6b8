/-
# BreezLiquid.Model.Slots — columns of the database as slots.

A claim or a lockup is broadcast by whoever got its id into a column that was empty. The column is the
slot, and what the history has of broadcasts for the swap is what was published. This module has the parts
such tasks are made of: the guarded write that takes the slot, the write that frees it, and what neither
writes the column nor broadcasts.
-/
import BreezLiquid.Lib.Slot
import BreezLiquid.Model.World

namespace BreezLiquid

open Interleaving

variable {V ρ α : Type} {S : System World Call Call.Answer Err ρ} {L : Slot World V} {inv : World → Prop}
  {p : Phase V}

/-- A part of a task that keeps `inv` and has nothing to do with the slot. -/
abbrev Apart (L : Slot World V) (inv : World → Prop) (p : Phase V) (t : Async α) : Prop :=
  t.Within (fun f => ∀ w, Idle L inv p w (f w)) Call.Quiet

theorem idle_refl (w : World) : Idle L inv p w w := fun hi _ => ⟨hi, .refl w⟩

theorem Apart.within {sdk : Sdk} (hS : S.effect = World.effect sdk) {t : Async α} (h : Apart L inv p t) :
    t.Within (fun f => ∀ w, Idle L inv p w (f w)) (fun q => ∀ a w, Idle L inv p w (S.effect q a w)) := by
  refine h.mono (fun f hf => hf) fun q hq a w => ?_
  rw [hS, effect_of_quiet sdk hq]
  exact idle_refl w

theorem apart_fetch (g : Db → α) : Apart L inv p (fetch g) := within_fetch idle_refl g

theorem apart_done (x : Except Err α) : Apart L inv p (Task.done x : Async α) := Task.within_done x

theorem apart_askOk {q : Call} (h : q.Quiet) (hq : q.Answer = Except Err α) :
    Apart L inv p (Task.askOk q hq) := Task.within_askOk h hq

/-- A write that changes nothing of what the slot is about. -/
theorem apart_write {f : Nat → Db → Db} (h : ∀ w : World, Idle L inv p w (w.write f)) :
    Apart L inv p (write f) := within_write h

/-- After a try to take the slot. -/
def Taken (v : V) : Except Err α → Phase V → Prop
  | .ok _, p => p = .holds v
  | .error _, p => p = .free

/-- A guarded write that takes the slot where it succeeds. -/
theorem follows_take {v : V} {f : Nat → Db → Except Err Db}
    (h : ∀ (w : World) db, f w.now w.db = .ok db → inv w →
      inv { w with db } ∧ L.Takes v w { w with db }) :
    Follows S L inv .free (tryWrite f) (Taken v) := by
  intro w hi _
  rcases hf : f w.now w.db with err | db
  · have hsame : w.tryWrite f = w := by
      unfold World.tryWrite
      rw [hf]
    rw [hsame]
    refine ⟨hi, nofun, _, .outside (.refl w), ?_⟩
    show Taken v ((f w.now w.db).map _) _
    rw [hf]
    rfl
  · have hwrite : w.tryWrite f = { w with db } := by
      unfold World.tryWrite
      rw [hf]
    obtain ⟨hi', htakes⟩ := h w db hf hi
    rw [hwrite]
    refine ⟨hi', nofun, _, .takes htakes, ?_⟩
    show Taken v ((f w.now w.db).map _) _
    rw [hf]
    rfl

/-- A write that frees the slot. -/
theorem follows_release {v : V} {f : Nat → Db → Db}
    (h : ∀ w : World, inv w → L.value w = some v → inv (w.write f) ∧ L.Releases w (w.write f)) :
    Follows S L inv (.holds v) (write f) (fun _ p => p = .free) := by
  intro w hi hv
  obtain ⟨hi', hrel⟩ := h w hi hv
  refine ⟨hi', fun _ ho => ?_, _, .releases hrel, rfl⟩
  cases (ho.1.symm.trans hrel.1).symm.trans hv

/-! ## Broadcasts

A broadcast for a purpose publishes the id of the transaction, when its event counts for the slot. One whose reply was
lost counts as failed, as it does for the task. -/

/-- The next action of the task broadcasts a transaction for a purpose. -/
inductive Broadcasts (purpose : Purpose) : TxId → Async α → Prop where
  | liquid (tx : LBtcTransaction) (k : Except Err TxId → Async α) :
      Broadcasts purpose tx.txid (.call (.liquidBroadcast purpose tx) k)
  | swapper (tx : LBtcTransaction) (k : Except Err TxId → Async α) :
      Broadcasts purpose tx.txid (.call (.broadcastTx purpose tx) k)
  | bitcoin (tx : BtcTransaction) (k : Except Err TxId → Async α) :
      Broadcasts purpose tx.txid (.call (.bitcoinBroadcast purpose tx) k)

/-- Broadcasts for a purpose publish what they broadcast. -/
structure Publishing (L : Slot World TxId) (inv : World → Prop) (purpose : Purpose) : Prop where
  published : ∀ txId (w : World) answered, inv w → inv (w.note (w.broadcastEvent txId answered purpose)) ∧
    L.Publishes txId w (w.note (w.broadcastEvent txId answered purpose))
  lost : ∀ txId (w : World), inv w → inv (w.note (.replyLost purpose txId)) ∧
    L.Outside w (w.note (.replyLost purpose txId))

/-- Broadcasts for a purpose publish, when the slot does not depend on the history, and what is published is known from
their events alone. -/
theorem publishing_of_event {L : Slot World TxId} {purpose : Purpose} {event : Event → Option TxId}
    (hinv : ∀ (w : World) e, inv w → inv (w.note e)) (hvalue : ∀ (w : World) e, L.value (w.note e) = L.value w)
    (hpublished : ∀ w : World, L.published w = w.trace.filterMap event)
    (hevent : ∀ (w : World) txId answered, event (w.broadcastEvent txId answered purpose) = some txId)
    (hlost : ∀ txId, event (.replyLost purpose txId) = none) : Publishing L inv purpose where
  published txId w answered hi := by
    refine ⟨hinv w _ hi, hvalue w _, ?_⟩
    rw [hpublished, hpublished]
    exact List.filterMap_cons_some (hevent w txId answered)
  lost txId w hi := by
    refine ⟨hinv w _ hi, hvalue w _, ?_⟩
    rw [hpublished, hpublished]
    exact List.filterMap_cons_none (hlost txId)

section Broadcast

variable {sdk : Sdk} (hS : S.effect = World.effect sdk) (hanswers : ∀ q a w, S.answers q a w)
  {purpose : Purpose} {txId : TxId} {L : Slot World TxId} (h : Publishing L inv purpose)

include h in
/-- A broadcast that is answered with an error publishes nothing. -/
theorem Publishing.failed {w : World} (hi : inv w) (err : Err) :
    inv (w.broadcastEffect purpose txId (.error err)) ∧
      L.Outside w (w.broadcastEffect purpose txId (.error err)) := by
  unfold World.broadcastEffect
  split
  · rename_i heq
    cases heq
  · exact h.lost txId w hi
  · exact ⟨hi, .refl w⟩

include hS hanswers h

theorem follows_liquidBroadcast {tx : LBtcTransaction} (htx : tx.txid = txId) :
    Follows S L inv (.holds txId) (Task.askOk (.liquidBroadcast purpose tx) rfl) (Tried txId) := by
  subst htx
  refine follows_publish rfl (fun _ => ⟨.ok tx.txid, tx.txid, hanswers _ _ _, rfl⟩) ?_ ?_
  · rintro _ answered w rfl hi
    rw [hS]
    exact h.published _ w answered hi
  · rintro _ err w rfl hi
    rw [hS]
    exact h.failed hi err

theorem follows_broadcastTx {tx : LBtcTransaction} (htx : tx.txid = txId) :
    Follows S L inv (.holds txId) (Task.askOk (.broadcastTx purpose tx) rfl) (Tried txId) := by
  subst htx
  refine follows_publish rfl (fun _ => ⟨.ok tx.txid, tx.txid, hanswers _ _ _, rfl⟩) ?_ ?_
  · rintro _ answered w rfl hi
    rw [hS]
    exact h.published _ w answered hi
  · rintro _ err w rfl hi
    rw [hS]
    exact h.failed hi err

theorem follows_bitcoinBroadcast {tx : BtcTransaction} (htx : tx.txid = txId) :
    Follows S L inv (.holds txId) (Task.askOk (.bitcoinBroadcast purpose tx) rfl) (Tried txId) := by
  subst htx
  refine follows_publish rfl (fun _ => ⟨.ok tx.txid, tx.txid, hanswers _ _ _, rfl⟩) ?_ ?_
  · rintro _ answered w rfl hi
    rw [hS]
    exact h.published _ w answered hi
  · rintro _ err w rfl hi
    rw [hS]
    exact h.failed hi err

/-- A broadcast may be accepted, so whoever is about to make it is about to publish. -/
theorem Broadcasts.holding {t : Async α} (ht : Broadcasts purpose txId t) {w : World} (hi : inv w) :
    Holding S L t w txId := by
  cases ht with
  | liquid tx k =>
      refine ⟨_, _, .call (.liquidBroadcast purpose tx) k (Except.ok tx.txid) w (hanswers _ _ _), .inl ?_⟩
      rw [hS]
      exact (h.published _ w tx.txid hi).2
  | swapper tx k =>
      refine ⟨_, _, .call (.broadcastTx purpose tx) k (Except.ok tx.txid) w (hanswers _ _ _), .inl ?_⟩
      rw [hS]
      exact (h.published _ w tx.txid hi).2
  | bitcoin tx k =>
      refine ⟨_, _, .call (.bitcoinBroadcast purpose tx) k (Except.ok tx.txid) w (hanswers _ _ _), .inl ?_⟩
      rw [hS]
      exact (h.published _ w tx.txid hi).2

end Broadcast

/-- What tasks that keep to the slot come to, in every run. -/
theorem disciplined_runs {sdk : Sdk} {L : Slot World TxId} (hD : Disciplined S L inv)
    (hS : S.effect = World.effect sdk) (hanswers : ∀ q a w, S.answers q a w) {purpose : Purpose}
    (hpub : Publishing L inv purpose)
    {w : World} (hi : inv w) (hw : L.Settled w) {c : Pool World Call Call.Answer Err ρ}
    (hrun : Runs S .any ⟨w, []⟩ c) :
    Exclusive S L c ∧
      (∀ e ∈ c.tasks, ∀ txId, Broadcasts purpose txId e.2 → L.value c.state = some txId) ∧
      (Runs S NoAborts ⟨w, []⟩ c → c.tasks = [] → L.Settled c.state) := by
  obtain ⟨phased, h⟩ := Runs.tracked hD hi hw (fun _ _ _ _ => True.intro) hrun
  refine ⟨h.exclusive, fun e he txId ht => ?_, fun hrun' hc => ?_⟩
  · exact (h.exclusive.holds e he txId (ht.holding hS hanswers hpub h.kept)).1
  · obtain ⟨phased', h'⟩ := Runs.tracked hD hi hw (fun r _ _ hC => hC r rfl) hrun'
    exact h'.settled hc

/-! ## One task after the other -/

/-- The world after a task alone. -/
def World.after (sdk : Sdk) (ans : Nat → (q : Call) → q.Answer) (t : Async Unit) (w : World) : World :=
  (t.run (World.effect sdk) ans (0, w)).2.2

/-- A task alone is a run without aborts. -/
theorem runs_alone {sdk : Sdk} (hS : S.effect = World.effect sdk) (hanswers : ∀ q a w, S.answers q a w)
    {C : Cond World ρ} (hC : ∀ l w w', (∀ r, l ≠ .abort r) → C l w w')
    (ans : Nat → (q : Call) → q.Answer) {r : ρ} (t : Async Unit) (w : World) (ht : S.spawns [] w r t) :
    Runs S C ⟨w, []⟩ ⟨w.after sdk ans t, []⟩ := by
  have hrun := runs_spawn hanswers ans ht (fun w => ⟨hC (.spawn r) w w nofun, hC (.finish r) w w nofun⟩)
    (Task.steps_of_forall _ _ (fun w w' => hC (.own r) w w' nofun) t (0, w))
  rw [hS] at hrun
  exact hrun

end BreezLiquid
