/-
# BreezLiquid.Lib.Slot — a slot taken by compare-and-set.

Several tasks want to publish a value each, and one of them at most is to succeed. They share a slot: a
task takes it while it is free, tries to publish what it put there, and frees it again when that fails.
`Follows` says of one task that it keeps to this, whatever state its actions find. `Runs.tracked` adds the
tasks of a pool up, and `Tracked.exclusive` says what comes of it: at most one task is between taking and
publishing or freeing, the slot has its value, and nothing has been published.

No other means of exclusion is used. A task may be in the middle of anything when another one starts.
-/
import BreezLiquid.Lib.Pool

namespace Interleaving

variable {σ Q : Type} {A : Q → Type} {ε ρ α β V : Type}

/-! ## Slots and what a step does to them -/

/-- A slot of the shared state, and the values published so far, newest first. -/
structure Slot (σ V : Type) where
  value : σ → Option V
  published : σ → List V

namespace Slot

variable (L : Slot σ V)

/-- A step that has nothing to do with the slot. -/
def Outside (s s' : σ) : Prop := L.value s' = L.value s ∧ L.published s' = L.published s

/-- The free slot is taken. -/
def Takes (v : V) (s s' : σ) : Prop :=
  L.value s = none ∧ L.value s' = some v ∧ L.published s' = L.published s

def Releases (s s' : σ) : Prop := L.value s' = none ∧ L.published s' = L.published s

def Publishes (v : V) (s s' : σ) : Prop :=
  L.value s' = L.value s ∧ L.published s' = v :: L.published s

/-- Nobody is at it: the slot is free and nothing was published, or it has the one published value. -/
def Settled (s : σ) : Prop :=
  L.value s = none ∧ L.published s = [] ∨ ∃ v, L.value s = some v ∧ L.published s = [v]

/-- The slot has a value that is not published yet. -/
def Held (v : V) (s : σ) : Prop := L.value s = some v ∧ L.published s = []

variable {L}

theorem Outside.refl (s : σ) : L.Outside s s := ⟨rfl, rfl⟩

/-- A slot that was left alone is as settled as before. -/
theorem Outside.settled {s s' : σ} (h : L.Outside s s') (hs : L.Settled s) : L.Settled s' := by
  unfold Settled
  rw [h.1, h.2]
  exact hs

/-- A value that is held stays held while others leave the slot alone. -/
theorem Outside.held {s s' : σ} {v : V} (h : L.Outside s s') (hs : L.Held v s) : L.Held v s' := by
  unfold Held
  rw [h.1, h.2]
  exact hs

/-- Where the slot is a column of a row, and what else is kept of the row is known, so is what depends on both. -/
theorem Outside.map_row {row β κ : Type} (look : σ → Option row) {column : row → Option V} {kept : row → κ}
    {f : row → β} (hvalue : ∀ s, L.value s = (look s).bind column)
    (hf : ∀ r r', kept r' = kept r → column r' = column r → f r' = f r) {s s' : σ}
    (hkept : (look s').map kept = (look s).map kept) (h : L.Outside s s') :
    (look s').map f = (look s).map f := by
  have hcolumn : (look s').bind column = (look s).bind column := by
    rw [← hvalue, ← hvalue]
    exact h.1
  rcases hrow' : look s' with _ | r'
  · rcases hrow : look s with _ | r
    · rfl
    · rw [hrow, hrow'] at hkept
      cases hkept
  · rcases hrow : look s with _ | r
    · rw [hrow, hrow'] at hkept
      cases hkept
    · rw [hrow, hrow'] at hkept hcolumn
      exact congrArg some (hf r r' (Option.some.inj hkept) hcolumn)

/-- To publish is not to leave alone: one more value is published. -/
theorem Publishes.not_outside {s s' : σ} {v : V} (h : L.Publishes v s s') : ¬ L.Outside s s' := by
  intro ho
  have hlen := congrArg List.length (h.2.symm.trans ho.2)
  simp at hlen

end Slot

/-! ## Phases of a task -/

/-- Where a task is: it has not taken the slot (any more), it holds a value, or it has published it. -/
inductive Phase (V : Type) where
  | free
  | holds (v : V)
  | spent (v : V)

namespace Phase

def held : Phase V → Option V
  | holds v => some v
  | _ => none

/-- What a task knows of the slot in a phase. -/
def Knows (L : Slot σ V) : Phase V → σ → Prop
  | free, _ => True
  | holds v, s => L.value s = some v
  | spent v, s => L.value s = some v

end Phase

/-- What a step from `s` to `s'` may do in a phase, and the phase after it. -/
inductive Move (L : Slot σ V) (s s' : σ) : Phase V → Phase V → Prop where
  | outside {p : Phase V} (h : L.Outside s s') : Move L s s' p p
  | takes {v : V} (h : L.Takes v s s') : Move L s s' .free (.holds v)
  | releases {v : V} (h : L.Releases s s') : Move L s s' (.holds v) .free
  | publishes {v : V} (h : L.Publishes v s s') : Move L s s' (.holds v) (.spent v)

section Follows

variable (S : System σ Q A ε ρ) (L : Slot σ V) (inv : σ → Prop)

/-- The next action of the task may publish `v`, or free the slot that has `v`. -/
def Holding (t : Task σ Q A ε α) (s : σ) (v : V) : Prop :=
  ∃ t' s', TaskStep S t s t' s' ∧ (L.Publishes v s s' ∨ L.value s = some v ∧ L.Releases s s')

/-- Every action of the task is a move of its phase and keeps `inv`, whatever state it finds, and the
task returns in a phase with `post`. A task that holds the slot does nothing but what may end that. -/
def Follows : Phase V → Task σ Q A ε α → (Except ε α → Phase V → Prop) → Prop
  | p, .done x, post => post x p
  | p, .atomic f k, post => ∀ s, inv s → p.Knows L s →
      inv (f s) ∧ (p.held.isSome → ¬ L.Outside s (f s)) ∧
        ∃ p', Move L s (f s) p p' ∧ Follows p' (k s) post
  | p, .call q k, post =>
      (p.held.isSome → ∀ s, inv s → p.Knows L s → ∃ a, S.answers q a s ∧ ¬ L.Outside s (S.effect q a s)) ∧
      ∀ a s, inv s → p.Knows L s → S.answers q a s →
        inv (S.effect q a s) ∧ ∃ p', Move L s (S.effect q a s) p p' ∧ Follows p' (k a) post

/-- A task returns when it holds nothing. -/
def Returned : Except ε α → Phase V → Prop := fun _ p => p.held = none

variable {S L inv}

theorem Follows.mono {p : Phase V} {t : Task σ Q A ε α} {post post' : Except ε α → Phase V → Prop}
    (h : Follows S L inv p t post) (hpost : ∀ x p, post x p → post' x p) :
    Follows S L inv p t post' := by
  induction t generalizing p with
  | done x => exact hpost x p h
  | atomic f k ih =>
      intro s hi hp
      obtain ⟨hi', hbusy, p', hmove, hk⟩ := h s hi hp
      exact ⟨hi', hbusy, p', hmove, ih s hk⟩
  | call q k ih =>
      refine ⟨h.1, fun a s hi hp ha => ?_⟩
      obtain ⟨hi', p', hmove, hk⟩ := h.2 a s hi hp ha
      exact ⟨hi', p', hmove, ih a hk⟩

/-- Sequencing. -/
theorem Follows.bind {p : Phase V} {t : Task σ Q A ε α} {g : α → Task σ Q A ε β}
    {post : Except ε β → Phase V → Prop}
    (h : Follows S L inv p t fun x p => match x with
      | .ok a => Follows S L inv p (g a) post
      | .error e => post (.error e) p) :
    Follows S L inv p (t.bind g) post := by
  induction t generalizing p with
  | done x =>
      cases x with
      | ok a => exact h
      | error e => exact h
  | atomic f k ih =>
      intro s hi hp
      obtain ⟨hi', hbusy, p', hmove, hk⟩ := h s hi hp
      exact ⟨hi', hbusy, p', hmove, ih s hk⟩
  | call q k ih =>
      refine ⟨h.1, fun a s hi hp ha => ?_⟩
      obtain ⟨hi', p', hmove, hk⟩ := h.2 a s hi hp ha
      exact ⟨hi', p', hmove, ih a hk⟩

/-- Catching an error leaves the phase. -/
theorem Follows.attempt {p : Phase V} {t : Task σ Q A ε α}
    {post : Except ε (Except ε α) → Phase V → Prop}
    (h : Follows S L inv p t fun x p => post (.ok x) p) : Follows S L inv p t.attempt post := by
  induction t generalizing p with
  | done x => exact h
  | atomic f k ih =>
      intro s hi hp
      obtain ⟨hi', hbusy, p', hmove, hk⟩ := h s hi hp
      exact ⟨hi', hbusy, p', hmove, ih s hk⟩
  | call q k ih =>
      refine ⟨h.1, fun a s hi hp ha => ?_⟩
      obtain ⟨hi', p', hmove, hk⟩ := h.2 a s hi hp ha
      exact ⟨hi', p', hmove, ih a hk⟩

variable (L inv) in
/-- A step that keeps `inv` and has nothing to do with the slot, when the task is in the phase. -/
def Idle (p : Phase V) (s s' : σ) : Prop := inv s → p.Knows L s → inv s' ∧ L.Outside s s'

/-- A part of a task that has nothing to do with the slot, in a phase in which the slot is not held. -/
theorem follows_idle {p : Phase V} (hp : p.held = none) {t : Task σ Q A ε α}
    (h : t.Within (fun f => ∀ s, Idle L inv p s (f s)) (fun q => ∀ a s, Idle L inv p s (S.effect q a s)))
    {post : Except ε α → Phase V → Prop} (hpost : ∀ x, post x p) : Follows S L inv p t post := by
  have hfree : ¬ p.held.isSome := by
    rw [hp]
    exact Bool.false_ne_true
  induction t with
  | done x => exact hpost x
  | atomic f k ih =>
      intro s hi hk
      obtain ⟨hi', ho⟩ := h.1 s hi hk
      exact ⟨hi', fun hs => absurd hs hfree, p, .outside ho, ih s (h.2 s)⟩
  | call q k ih =>
      refine ⟨fun hs => absurd hs hfree, fun a s hi hk _ => ?_⟩
      obtain ⟨hi', ho⟩ := h.1 a s hi hk
      exact ⟨hi', p, .outside ho, ih a (h.2 a)⟩

/-- An idle part, then the rest. -/
theorem follows_idle_bind {p : Phase V} (hp : p.held = none) {t : Task σ Q A ε α}
    {g : α → Task σ Q A ε β}
    (h : t.Within (fun f => ∀ s, Idle L inv p s (f s)) (fun q => ∀ a s, Idle L inv p s (S.effect q a s)))
    {post : Except ε β → Phase V → Prop} (herror : ∀ e, post (.error e) p)
    (hg : ∀ a, Follows S L inv p (g a) post) : Follows S L inv p (t.bind g) post := by
  refine Follows.bind (follows_idle hp h fun x => ?_)
  cases x with
  | ok a => exact hg a
  | error e => exact herror e

/-- After a try to publish `v`: it is published, or the slot is still held. -/
def Tried (v : V) : Except ε α → Phase V → Prop
  | .ok _, p => p = .spent v
  | .error _, p => p = .holds v

/-- A query that publishes the held value when it is answered without an error, and does nothing to the slot
otherwise. -/
theorem follows_publish {v : V} {q : Q} (hq : A q = Except ε α)
    (hanswers : ∀ s, ∃ a b, S.answers q a s ∧ cast hq a = .ok b)
    (hok : ∀ a b s, cast hq a = .ok b → inv s → inv (S.effect q a s) ∧ L.Publishes v s (S.effect q a s))
    (herror : ∀ a e s, cast hq a = .error e → inv s → inv (S.effect q a s) ∧ L.Outside s (S.effect q a s)) :
    Follows S L inv (.holds v) (Task.askOk q hq) (Tried v) := by
  refine ⟨fun _ s hi _ => ?_, fun a s hi _ _ => ?_⟩
  · obtain ⟨a, b, ha, hb⟩ := hanswers s
    exact ⟨a, ha, (hok a b s hb hi).2.not_outside⟩
  · rcases hx : cast hq a with e | b
    · obtain ⟨hi', houtside⟩ := herror a e s hx hi
      refine ⟨hi', _, .outside houtside, ?_⟩
      show Tried v (cast hq a) _
      rw [hx]
      rfl
    · obtain ⟨hi', hpub⟩ := hok a b s hx hi
      refine ⟨hi', _, .publishes hpub, ?_⟩
      show Tried v (cast hq a) _
      rw [hx]
      rfl

/-- The move of a step, read off the task. -/
theorem Follows.step {p : Phase V} {t t' : Task σ Q A ε α} {post : Except ε α → Phase V → Prop}
    {s s' : σ} (h : Follows S L inv p t post) (hi : inv s) (hp : p.Knows L s)
    (hstep : TaskStep S t s t' s') :
    inv s' ∧ ∃ p', Move L s s' p p' ∧ Follows S L inv p' t' post := by
  cases hstep with
  | atomic f k =>
      obtain ⟨hi', -, hmove⟩ := h s hi hp
      exact ⟨hi', hmove⟩
  | call q k a _ ha => exact h.2 a s hi hp ha

/-- Only a task that holds a value is about to publish it or to free the slot. -/
theorem Follows.held_of_holding {p : Phase V} {t : Task σ Q A ε α}
    {post : Except ε α → Phase V → Prop} {s : σ} {v : V} (h : Follows S L inv p t post) (hi : inv s)
    (hp : p.Knows L s) (hold : Holding S L t s v) : p = .holds v := by
  obtain ⟨t', s', hstep, hends⟩ := hold
  obtain ⟨-, p', hmove, -⟩ := h.step hi hp hstep
  rcases hends with hpub | ⟨hv, hrel⟩
  · cases hmove with
    | outside ho => exact absurd ho hpub.not_outside
    | takes ht =>
        have hsame := hpub.1.symm.trans ht.2.1
        rw [ht.1] at hsame
        cases hsame
    | releases hr => exact absurd ⟨hpub.1, hr.2⟩ hpub.not_outside
    | publishes hpub' =>
        obtain ⟨rfl, -⟩ := List.cons.inj (hpub.2.symm.trans hpub'.2)
        rfl
  · cases hmove with
    | outside ho =>
        have hnone := ho.1.symm.trans hrel.1
        rw [hv] at hnone
        cases hnone
    | takes ht =>
        have hnone := hv.symm.trans ht.1
        cases hnone
    | releases hr =>
        have hsame := hp.symm.trans hv
        cases hsame
        rfl
    | publishes hpub =>
        have hnone := hpub.1.symm.trans hrel.1
        rw [hv] at hnone
        cases hnone

/-- A task that holds a value is about to publish it or to free the slot. -/
theorem Follows.holding {t : Task σ Q A ε α} {s : σ} {v : V}
    (h : Follows S L inv (.holds v) t Returned) (hi : inv s) (hv : L.value s = some v) :
    Holding S L t s v := by
  have hends : ∀ t' s', TaskStep S t s t' s' → ¬ L.Outside s s' → Holding S L t s v := by
    intro t' s' hstep hbusy
    obtain ⟨-, p', hmove, -⟩ := h.step hi hv hstep
    cases hmove with
    | outside ho => exact absurd ho hbusy
    | releases hr => exact ⟨t', s', hstep, .inr ⟨hv, hr⟩⟩
    | publishes hpub => exact ⟨t', s', hstep, .inl hpub⟩
  cases t with
  | done x => cases h
  | atomic f k => exact hends _ _ (.atomic f k s) ((h s hi hv).2.1 rfl)
  | call q k =>
      obtain ⟨a, ha, hbusy⟩ := h.1 rfl s hi hv
      exact hends _ _ (.call q k a s ha) hbusy

end Follows

/-! ## A task alone -/

section Alone

variable {S : System σ Q A ε ρ} {L : Slot σ V} {inv : σ → Prop}

/-- What a task that runs alone has done to the slot since `s₀`, by its phase. -/
def Phase.Since (L : Slot σ V) (s₀ s : σ) : Phase V → Prop
  | free => L.Outside s₀ s
  | holds v => L.value s₀ = none ∧ L.value s = some v ∧ L.published s = L.published s₀
  | spent v => L.value s = some v ∧ L.published s = v :: L.published s₀

/-- What happened since the start tells what the task knows of the slot. -/
theorem Phase.Since.knows {p : Phase V} {s₀ s : σ} (h : p.Since L s₀ s) : p.Knows L s := by
  cases p with
  | free => trivial
  | holds v => exact h.2.1
  | spent v => exact h.1

/-- A move of the task continues what happened. -/
theorem Move.since {p p' : Phase V} {s₀ s s' : σ} (hmove : Move L s s' p p') (h : p.Since L s₀ s) :
    p'.Since L s₀ s' := by
  cases hmove with
  | outside ho =>
      cases p with
      | free => exact ⟨ho.1.trans h.1, ho.2.trans h.2⟩
      | holds v => exact ⟨h.1, ho.1.trans h.2.1, ho.2.trans h.2.2⟩
      | spent v => exact ⟨ho.1.trans h.1, ho.2.trans h.2⟩
  | takes ht => exact ⟨h.1.symm.trans ht.1, ht.2.1, ht.2.2.trans h.2⟩
  | releases hr => exact ⟨hr.1.trans h.1.symm, hr.2.trans h.2.2⟩
  | publishes hp =>
      refine ⟨hp.1.trans h.2.1, ?_⟩
      rw [hp.2, h.2.2]

/-- A task that keeps to the slot, executed alone. -/
theorem Follows.run {p : Phase V} {t : Task σ Q A ε α} {post : Except ε α → Phase V → Prop}
    (h : Follows S L inv p t post) (ans : Nat → (q : Q) → A q) (hanswers : ∀ q a s, S.answers q a s)
    {s₀ : σ} {w : Nat × σ} (hi : inv w.2) (hp : p.Since L s₀ w.2) :
    ∃ p', post (t.run S.effect ans w).1 p' ∧ p'.Since L s₀ (t.run S.effect ans w).2.2 := by
  induction t generalizing p w with
  | done x => exact ⟨p, h, hp⟩
  | atomic f k ih =>
      obtain ⟨hi', -, p', hmove, hk⟩ := h w.2 hi hp.knows
      exact ih w.2 hk hi' (hmove.since hp)
  | call q k ih =>
      obtain ⟨hi', p', hmove, hk⟩ := h.2 (ans w.1 q) w.2 hi hp.knows (hanswers _ _ _)
      exact ih (ans w.1 q) hk hi' (hmove.since hp)

/-- Alone, a task leaves the slot as it was, or has published a value more. -/
theorem Follows.run_returned {t : Task σ Q A ε α} (h : Follows S L inv .free t Returned)
    (ans : Nat → (q : Q) → A q) (hanswers : ∀ q a s, S.answers q a s) {w : Nat × σ} (hi : inv w.2) :
    L.Outside w.2 (t.run S.effect ans w).2.2 ∨
      ∃ v, L.published (t.run S.effect ans w).2.2 = v :: L.published w.2 := by
  obtain ⟨p, hreturned, hsince⟩ := h.run ans hanswers hi (Slot.Outside.refl w.2)
  cases p with
  | free => exact .inl hsince
  | holds v => cases hreturned
  | spent v => exact .inr ⟨v, hsince.2⟩

/-- So it left the slot as it was if nothing more is published. -/
theorem Follows.run_outside {t : Task σ Q A ε α} (h : Follows S L inv .free t Returned)
    (ans : Nat → (q : Q) → A q) (hanswers : ∀ q a s, S.answers q a s) {w : Nat × σ} (hi : inv w.2)
    (hnone : L.published (t.run S.effect ans w).2.2 = L.published w.2) :
    L.Outside w.2 (t.run S.effect ans w).2.2 := by
  rcases h.run_returned ans hanswers hi with houtside | ⟨v, hpublished⟩
  · exact houtside
  · have hlength := congrArg List.length (hpublished.symm.trans hnone)
    simp at hlength

end Alone

/-! ## Pools -/

section Pools

variable {S : System σ Q A ε ρ} {L : Slot σ V} {inv : σ → Prop}

/-- A task of a pool with its phase. -/
abbrev Phased (ρ σ Q : Type) (A : Q → Type) (ε V : Type) : Type := Phase V × ρ × Task σ Q A ε Unit

/-- The values the tasks hold. -/
def heldBy (phased : List (Phased ρ σ Q A ε V)) : List V := phased.filterMap fun e => e.1.held

/-- The values held in a pool, task by task. -/
theorem heldBy_append (l l' : List (Phased ρ σ Q A ε V)) : heldBy (l ++ l') = heldBy l ++ heldBy l' :=
  List.filterMap_append

theorem heldBy_cons_none {e : Phased ρ σ Q A ε V} {l : List (Phased ρ σ Q A ε V)}
    (h : e.1.held = none) : heldBy (e :: l) = heldBy l := List.filterMap_cons_none h

theorem heldBy_cons_some {e : Phased ρ σ Q A ε V} {l : List (Phased ρ σ Q A ε V)} {v : V}
    (h : e.1.held = some v) : heldBy (e :: l) = v :: heldBy l := List.filterMap_cons_some h

/-- One value around which nothing is held. -/
theorem around_eq_singleton {l l' : List V} {v v' : V} (h : l ++ v :: l' = [v']) :
    l = [] ∧ v = v' ∧ l' = [] := by
  rcases l with _ | ⟨u, l⟩
  · obtain ⟨hv, hl'⟩ := List.cons.inj h
    exact ⟨rfl, hv, hl'⟩
  · obtain ⟨-, hl⟩ := List.cons.inj h
    simp at hl

/-- What a pool of tasks that keep to the slot looks like, with the phases of its tasks: nobody holds the
slot and it is settled, or one task does, or the task that did was aborted. -/
structure Tracked (S : System σ Q A ε ρ) (L : Slot σ V) (inv : σ → Prop) (aborts : Prop)
    (c : Pool σ Q A ε ρ) (phased : List (Phased ρ σ Q A ε V)) : Prop where
  kept : inv c.state
  tasks : phased.map Prod.snd = c.tasks
  follows : ∀ e ∈ phased, Follows S L inv e.1 e.2.2 Returned
  spent : ∀ e ∈ phased, ∀ v, e.1 = .spent v → L.value c.state = some v ∧ L.published c.state = [v]
  held : L.Settled c.state ∧ heldBy phased = [] ∨
    ∃ v, L.Held v c.state ∧ (heldBy phased = [v] ∨ aborts ∧ heldBy phased = [])

variable {aborts : Prop} {c : Pool σ Q A ε ρ} {phased : List (Phased ρ σ Q A ε V)}

/-- A task that holds a value is the only one that holds any. -/
theorem Tracked.held_around (h : Tracked S L inv aborts c phased) {l l' : List (Phased ρ σ Q A ε V)}
    {e : Phased ρ σ Q A ε V} {v : V} (hsplit : phased = l ++ e :: l') (hv : e.1 = .holds v) :
    L.Held v c.state ∧ heldBy l = [] ∧ heldBy l' = [] := by
  have hheldBy : heldBy phased = heldBy l ++ v :: heldBy l' := by
    have he : e.1.held = some v := by
      rw [hv]
      rfl
    rw [hsplit, heldBy_append, heldBy_cons_some he]
  rcases h.held with ⟨-, hnil⟩ | ⟨v', hheld, hone | ⟨-, hnil⟩⟩
  · rw [hnil] at hheldBy
    simp at hheldBy
  · rw [hone] at hheldBy
    obtain ⟨hl, rfl, hl'⟩ := around_eq_singleton hheldBy.symm
    exact ⟨hheld, hl, hl'⟩
  · rw [hnil] at hheldBy
    simp at hheldBy

/-- In a tracked pool every task knows of the slot what its phase says. -/
theorem Tracked.knows (h : Tracked S L inv aborts c phased) {e : Phased ρ σ Q A ε V}
    (he : e ∈ phased) : e.1.Knows L c.state := by
  cases hp : e.1 with
  | free => trivial
  | holds v =>
      obtain ⟨l, l', hsplit⟩ := List.append_of_mem he
      exact (h.held_around hsplit hp).1.1
  | spent v => exact (h.spent e he v hp).1

/-- The task that steps, in the list with the phases. -/
theorem phased_split {pre post : List (ρ × Task σ Q A ε Unit)} {e : ρ × Task σ Q A ε Unit}
    (h : phased.map Prod.snd = pre ++ e :: post) :
    ∃ l p l', phased = l ++ (p, e) :: l' ∧ l.map Prod.snd = pre ∧ l'.map Prod.snd = post := by
  obtain ⟨l, rest, rfl, hl, hrest⟩ := List.map_eq_append_iff.mp h
  obtain ⟨⟨p, e'⟩, l', rfl, he, hl'⟩ := List.map_eq_cons_iff.mp hrest
  cases he
  exact ⟨l, p, l', rfl, hl, hl'⟩

/-- A task steps: one lemma for the four moves. -/
theorem Tracked.own {s s' : σ} {r : ρ} {t t' : Task σ Q A ε Unit} {tasks tasks' : List (ρ × Task σ Q A ε Unit)}
    {l l' : List (Phased ρ σ Q A ε V)} {p : Phase V}
    (h : Tracked S L inv aborts ⟨s, tasks⟩ (l ++ (p, r, t) :: l')) (hstep : TaskStep S t s t' s')
    (htasks : tasks' = l.map Prod.snd ++ (r, t') :: l'.map Prod.snd) :
    ∃ p', Move L s s' p p' ∧ Tracked S L inv aborts ⟨s', tasks'⟩ (l ++ (p', r, t') :: l') := by
  have hmem : (p, r, t) ∈ l ++ (p, r, t) :: l' := by simp
  obtain ⟨hi', p', hmove, ht'⟩ := (h.follows _ hmem).step h.kept (h.knows hmem) hstep
  refine ⟨p', hmove, hi', by simp [htasks], fun e he => ?_, ?_, ?_⟩
  · rcases mem_around he with rfl | he
    · exact ht'
    · exact h.follows e (mem_of_mem_around he)
  · -- a published value stays where it is
    intro e he v hv
    cases hmove with
    | outside ho =>
        have hspent : L.value s = some v ∧ L.published s = [v] := by
          rcases mem_around he with rfl | he
          · exact h.spent (p, r, t) hmem v hv
          · exact h.spent e (mem_of_mem_around he) v hv
        exact ⟨ho.1.trans hspent.1, ho.2.trans hspent.2⟩
    | takes ht =>
        rcases mem_around he with rfl | he
        · cases hv
        · have hspent := (h.spent e (mem_of_mem_around he) v hv).1
          cases ht.1.symm.trans hspent
    | releases hr =>
        have hfree := (h.held_around rfl rfl).1.2
        rcases mem_around he with rfl | he
        · cases hv
        · have hspent := (h.spent e (mem_of_mem_around he) v hv).2
          cases hfree.symm.trans hspent
    | publishes hpub =>
        have hheld := (h.held_around rfl rfl).1
        rcases mem_around he with rfl | he
        · cases hv
          exact ⟨hpub.1.trans hheld.1, hpub.2.trans (congrArg _ hheld.2)⟩
        · have hspent := (h.spent e (mem_of_mem_around he) v hv).2
          cases hheld.2.symm.trans hspent
  · cases hmove with
    | outside ho =>
        have hsame : heldBy (l ++ (p, r, t') :: l') = heldBy (l ++ (p, r, t) :: l') := by
          rw [heldBy_append, heldBy_append]
          rfl
        rw [hsame]
        rcases h.held with ⟨hs, hnil⟩ | ⟨v, hheld, hby⟩
        · exact .inl ⟨ho.settled hs, hnil⟩
        · exact .inr ⟨v, ho.held hheld, hby⟩
    | @takes v ht =>
        -- the slot was free, so nobody held it
        rcases h.held with ⟨hs, hnil⟩ | ⟨v', hheld, -⟩
        · rw [heldBy_append, heldBy_cons_none rfl, List.append_eq_nil_iff] at hnil
          refine .inr ⟨v, ⟨ht.2.1, ?_⟩, .inl ?_⟩
          · rcases hs with ⟨-, hpub⟩ | ⟨v', hv', -⟩
            · exact ht.2.2.trans hpub
            · cases ht.1.symm.trans hv'
          · rw [heldBy_append, heldBy_cons_some rfl, hnil.1, hnil.2]
            rfl
        · cases ht.1.symm.trans hheld.1
    | releases hr =>
        obtain ⟨hheld, hl, hl'⟩ := h.held_around rfl rfl
        refine .inl ⟨.inl ⟨hr.1, hr.2.trans hheld.2⟩, ?_⟩
        rw [heldBy_append, heldBy_cons_none rfl, hl, hl']
        rfl
    | @publishes v hpub =>
        obtain ⟨hheld, hl, hl'⟩ := h.held_around rfl rfl
        refine .inl ⟨.inr ⟨v, hpub.1.trans hheld.1, hpub.2.trans (congrArg _ hheld.2)⟩, ?_⟩
        rw [heldBy_append, heldBy_cons_none rfl, hl, hl']
        rfl

/-- A task that holds nothing is dropped. -/
theorem Tracked.drop {l l' : List (Phased ρ σ Q A ε V)} {e : Phased ρ σ Q A ε V}
    (h : Tracked S L inv aborts c (l ++ e :: l')) {tasks : List (ρ × Task σ Q A ε Unit)}
    (htasks : tasks = l.map Prod.snd ++ l'.map Prod.snd) (he : e.1.held = none ∨ aborts) :
    Tracked S L inv aborts ⟨c.state, tasks⟩ (l ++ l') := by
  refine ⟨h.kept, by simp [htasks], fun e' he' => h.follows e' (mem_of_mem_around he'),
    fun e' he' => h.spent e' (mem_of_mem_around he'), ?_⟩
  cases hp : e.1 with
  | holds v =>
      obtain ⟨hheld, hl, hl'⟩ := h.held_around rfl hp
      rw [hp] at he
      have hab := he.resolve_left nofun
      refine .inr ⟨v, hheld, .inr ⟨hab, ?_⟩⟩
      rw [heldBy_append, hl, hl']
      rfl
  | _ =>
      have hheld : heldBy (l ++ e :: l') = heldBy (l ++ l') := by
        rw [heldBy_append, heldBy_append, heldBy_cons_none]
        rw [hp]
        rfl
      rw [← hheld]
      exact h.held

/-- The systems whose tasks keep to the slot and whose environment leaves it alone. -/
structure Disciplined (S : System σ Q A ε ρ) (L : Slot σ V) (inv : σ → Prop) : Prop where
  spawn : ∀ roles s r t, S.spawns roles s r t → Follows S L inv .free t Returned
  env : ∀ s s', S.env s s' → inv s → inv s' ∧ L.Outside s s'

/-- **One step.** -/
theorem Step.tracked (hS : Disciplined S L inv) {c' : Pool σ Q A ε ρ} {label : Label ρ}
    (h : Tracked S L inv aborts c phased) (hstep : Step S c label c')
    (haborts : ∀ r, label = .abort r → aborts) : ∃ phased', Tracked S L inv aborts c' phased' := by
  cases hstep with
  | own pre post hstep =>
      obtain ⟨l, p, l', rfl, rfl, rfl⟩ := phased_split h.tasks
      obtain ⟨p', -, h'⟩ := h.own hstep rfl
      exact ⟨_, h'⟩
  | @spawn r t s tasks hspawn =>
      refine ⟨phased ++ [(.free, r, t)], h.kept, by simp [h.tasks], fun e he => ?_, fun e he v hv => ?_, ?_⟩
      · rcases List.mem_append.mp he with he | he
        · exact h.follows e he
        · rw [List.mem_singleton.mp he]
          exact hS.spawn _ _ _ _ hspawn
      · rcases List.mem_append.mp he with he | he
        · exact h.spent e he v hv
        · rw [List.mem_singleton.mp he] at hv
          cases hv
      · have hsame : heldBy (phased ++ [(Phase.free, r, t)]) = heldBy phased := by
          rw [heldBy_append, heldBy_cons_none rfl]
          exact List.append_nil _
        rw [hsame]
        exact h.held
  | finish pre post =>
      obtain ⟨l, p, l', rfl, rfl, rfl⟩ := phased_split h.tasks
      refine ⟨_, h.drop rfl (.inl ?_)⟩
      exact h.follows (p, _) (List.mem_append_right l List.mem_cons_self)
  | abort pre post =>
      obtain ⟨l, p, l', rfl, rfl, rfl⟩ := phased_split h.tasks
      exact ⟨_, h.drop rfl (.inr (haborts _ rfl))⟩
  | env henv =>
      obtain ⟨hi', ho⟩ := hS.env _ _ henv h.kept
      refine ⟨phased, hi', h.tasks, h.follows, fun e he v hv => ?_, ?_⟩
      · obtain ⟨hvalue, hpub⟩ := h.spent e he v hv
        exact ⟨ho.1.trans hvalue, ho.2.trans hpub⟩
      · rcases h.held with ⟨hs, hnil⟩ | ⟨v, hheld, hby⟩
        · exact .inl ⟨ho.settled hs, hnil⟩
        · exact .inr ⟨v, ho.held hheld, hby⟩

/-- No task is aborted. -/
def NoAborts : Cond σ ρ := fun label _ _ => ∀ r, label ≠ .abort r

/-- **Whole runs**, from a pool without tasks. -/
theorem Runs.tracked (hS : Disciplined S L inv) {C : Cond σ ρ} {s : σ} (hi : inv s) (hs : L.Settled s)
    (haborts : ∀ r s s', C (.abort r) s s' → aborts) (hrun : Runs S C ⟨s, []⟩ c) :
    ∃ phased, Tracked S L inv aborts c phased := by
  induction hrun with
  | refl => exact ⟨[], hi, rfl, nofun, nofun, .inl ⟨hs, rfl⟩⟩
  | tail _ hstep ih =>
      obtain ⟨phased, h⟩ := ih
      obtain ⟨label, hstep, hC⟩ := hstep
      refine Step.tracked hS h hstep fun r hr => ?_
      rw [hr] at hC
      exact haborts r _ _ hC

/-! ## What comes of it -/

/-- At most one task of the pool is at its value, and at most one value is published. -/
structure Exclusive (S : System σ Q A ε ρ) (L : Slot σ V) (c : Pool σ Q A ε ρ) : Prop where
  /-- What was published is one value, and the slot has it. -/
  once : L.published c.state = [] ∨ ∃ v, L.value c.state = some v ∧ L.published c.state = [v]
  /-- A task is only about to publish or release what the slot has, and before anything was published. -/
  holds : ∀ e ∈ c.tasks, ∀ v, Holding S L e.2 c.state v → L.Held v c.state
  /-- Two tasks are never at it at a time. -/
  alone : c.tasks.Pairwise fun e e' => ∀ v v', Holding S L e.2 c.state v →
    ¬ Holding S L e'.2 c.state v'
  /-- Such a task publishes its value, or frees the slot, or tries again. -/
  keeps : ∀ e ∈ c.tasks, ∀ v, Holding S L e.2 c.state v → ∀ t' s', TaskStep S e.2 c.state t' s' →
    L.Publishes v c.state s' ∨ L.Releases c.state s' ∨
      L.Outside c.state s' ∧ Holding S L t' s' v
  /-- The other tasks leave the slot alone, or take it while it is free. -/
  others : ∀ e ∈ c.tasks, (∀ v, ¬ Holding S L e.2 c.state v) → ∀ t' s', TaskStep S e.2 c.state t' s' →
    L.Outside c.state s' ∨ ∃ v, L.Takes v c.state s'

/-- Every task has a phase. -/
theorem Tracked.mem_phased (h : Tracked S L inv aborts c phased) {e : ρ × Task σ Q A ε Unit}
    (he : e ∈ c.tasks) : ∃ p, (p, e) ∈ phased := by
  rw [← h.tasks] at he
  obtain ⟨⟨p, e'⟩, he', rfl⟩ := List.mem_map.mp he
  exact ⟨p, he'⟩

/-- A task whose next action may publish or free the value is in the phase that holds it. -/
theorem Tracked.phase_of_holding (h : Tracked S L inv aborts c phased) {e : Phased ρ σ Q A ε V}
    (he : e ∈ phased) {v : V} (hold : Holding S L e.2.2 c.state v) : e.1 = .holds v :=
  (h.follows e he).held_of_holding h.kept (h.knows he) hold

/-- **Exclusion.** At most one value is held or published. -/
theorem Tracked.exclusive (h : Tracked S L inv aborts c phased) : Exclusive S L c where
  once := by
    rcases h.held with ⟨⟨-, hpub⟩ | hone, -⟩ | ⟨v, hheld, -⟩
    · exact .inl hpub
    · exact .inr hone
    · exact .inl hheld.2
  holds e he v hold := by
    obtain ⟨p, hp⟩ := h.mem_phased he
    obtain ⟨l, l', hsplit⟩ := List.append_of_mem hp
    exact (h.held_around hsplit (h.phase_of_holding hp hold)).1
  alone := by
    rw [← h.tasks, List.pairwise_map]
    have hind : ∀ l, l <:+ phased → l.Pairwise fun e e' => ∀ v v', Holding S L e.2.2 c.state v →
        ¬ Holding S L e'.2.2 c.state v' := by
      intro l
      induction l with
      | nil => exact fun _ => .nil
      | cons e l ih =>
          intro hsuffix
          obtain ⟨pre, rfl⟩ := hsuffix
          refine .cons (fun e' he' v v' hold hold' => ?_) (ih ((List.suffix_cons e l).trans ⟨pre, rfl⟩))
          -- nothing is held after the task that holds
          have hrest := (h.held_around rfl (h.phase_of_holding (by simp) hold)).2.2
          have hmem : v' ∈ heldBy l := by
            refine List.mem_filterMap.mpr ⟨e', he', ?_⟩
            rw [h.phase_of_holding (by simp [he']) hold']
            rfl
          rw [hrest] at hmem
          cases hmem
    exact hind phased (List.suffix_refl phased)
  keeps e he v hold t' s' hstep := by
    obtain ⟨p, hp⟩ := h.mem_phased he
    have hph : p = .holds v := h.phase_of_holding hp hold
    obtain ⟨hi', p', hmove, ht'⟩ := (h.follows _ hp).step h.kept (h.knows hp) hstep
    have hvalue : L.value c.state = some v := by
      have hknows := h.knows hp
      rw [hph] at hknows
      exact hknows
    subst hph
    cases hmove with
    | outside ho => exact .inr (.inr ⟨ho, ht'.holding hi' (ho.1.trans hvalue)⟩)
    | releases hr => exact .inr (.inl hr)
    | publishes hpub => exact .inl hpub
  others e he hnot t' s' hstep := by
    obtain ⟨p, hp⟩ := h.mem_phased he
    obtain ⟨-, p', hmove, -⟩ := (h.follows _ hp).step h.kept (h.knows hp) hstep
    have hends : ∀ v, p ≠ .holds v := by
      rintro v rfl
      exact hnot v ((h.follows _ hp).holding h.kept (h.knows hp))
    cases hmove with
    | outside ho => exact .inl ho
    | takes ht => exact .inr ⟨_, ht⟩
    | releases hr => exact absurd rfl (hends _)
    | publishes hpub => exact absurd rfl (hends _)

/-- When all tasks have returned, the slot is settled. -/
theorem Tracked.settled (h : Tracked S L inv False c phased) (hc : c.tasks = []) :
    L.Settled c.state := by
  rcases h.held with ⟨hs, -⟩ | ⟨v, -, hone | ⟨hfalse, -⟩⟩
  · exact hs
  · have htasks := h.tasks
    rw [hc, List.map_eq_nil_iff] at htasks
    rw [htasks] at hone
    cases hone
  · exact hfalse.elim

end Pools

end Interleaving
