/-
# BreezLiquid.Lib.Task — asynchronous tasks over a shared state.

An `async fn` that talks to a database and to remote services is a tree: an atomic transaction on the
shared state (whose continuation sees the state the transaction found), or a call of a service (whose
continuation sees the answer), or a result. `Task.bind` short-circuits on errors, as the `?` operator
does, and `Task.attempt` turns an error into a value.

Two readings of a task are given. `Task.run` executes it alone, against a stream of answers, and is
executable. The pool semantics of `BreezLiquid.Lib.Pool` interleaves many tasks.
-/
import Mathlib.Order.Basic
import Mathlib.Data.List.Forall2

namespace Interleaving

variable {σ Q : Type} {A : Q → Type} {ε α β γ : Type}

/-- A successful sequence of fallible computations was successful at both. -/
theorem except_bind_eq_ok {x : Except ε α} {f : α → Except ε β} {b : β} :
    x >>= f = .ok b ↔ ∃ a, x = .ok a ∧ f a = .ok b := by
  rcases x with err | a
  · constructor
    · intro h
      cases h
    · rintro ⟨a, h, -⟩
      cases h
  · constructor
    · intro h
      exact ⟨a, rfl, h⟩
    · rintro ⟨a', h, hf⟩
      cases h
      exact hf

/-- A successful `mapM` was successful at every element. -/
theorem mapM_eq_ok {f : α → Except ε β} {l : List α} {r : List β} :
    l.mapM f = .ok r ↔ List.Forall₂ (fun a b => f a = .ok b) l r := by
  induction l generalizing r with
  | nil =>
      rw [List.mapM_nil]
      constructor
      · intro h
        cases h
        exact .nil
      · intro h
        cases h
        rfl
  | cons a l ih =>
      rw [List.mapM_cons, except_bind_eq_ok]
      constructor
      · rintro ⟨b, hb, h⟩
        obtain ⟨rest, hrest, h⟩ := except_bind_eq_ok.mp h
        cases h
        exact .cons hb (ih.mp hrest)
      · intro h
        cases h with
        | cons hb hrest => exact ⟨_, hb, except_bind_eq_ok.mpr ⟨_, ih.mpr hrest, rfl⟩⟩


/-- A task over the shared state `σ` that calls services with queries `q : Q` answered in `A q`. -/
inductive Task (σ Q : Type) (A : Q → Type) (ε α : Type) where
  /-- The task has returned. -/
  | done (r : Except ε α) : Task σ Q A ε α
  /-- One transaction on the shared state; the rest sees the state the transaction found. -/
  | atomic (f : σ → σ) (k : σ → Task σ Q A ε α) : Task σ Q A ε α
  /-- A request to a service, the task's only await point. -/
  | call (q : Q) (k : A q → Task σ Q A ε α) : Task σ Q A ε α

namespace Task

/-- Sequencing; an error ends the task, as `?` does. -/
def bind : Task σ Q A ε α → (α → Task σ Q A ε β) → Task σ Q A ε β
  | done (.ok a), g => g a
  | done (.error e), _ => done (.error e)
  | atomic f k, g => atomic f fun s => (k s).bind g
  | call q k, g => call q fun a => (k a).bind g

instance : Monad (Task σ Q A ε) where
  pure a := done (.ok a)
  bind := bind

/-- Early return with an error. -/
def throw (e : ε) : Task σ Q A ε α := done (.error e)

/-- Run a task for its result, error or not. -/
def attempt : Task σ Q A ε α → Task σ Q A ε (Except ε α)
  | done r => done (.ok r)
  | atomic f k => atomic f fun s => (k s).attempt
  | call q k => call q fun a => (k a).attempt

/-- Lift a pure fallible computation. -/
def ofExcept (r : Except ε α) : Task σ Q A ε α := done r

/-- Read the shared state. -/
def reads (g : σ → α) : Task σ Q A ε α := atomic id fun s => done (.ok (g s))

/-- Change the shared state in one transaction. -/
def modify (f : σ → σ) : Task σ Q A ε Unit := atomic f fun _ => done (.ok ())

/-- A transaction that may fail: on an error the state is rolled back. -/
def transact (f : σ → Except ε (α × σ)) : Task σ Q A ε α :=
  atomic (fun s => match f s with | .ok (_, s') => s' | .error _ => s)
    fun s => done ((f s).map Prod.fst)

/-- Call a service. -/
def ask (q : Q) : Task σ Q A ε (A q) := call q fun a => done (.ok a)

/-- Call a fallible service and propagate its error. -/
def askOk (q : Q) (h : A q = Except ε α) : Task σ Q A ε α := call q fun a => done (cast h a)

/-- A `for` loop over a list. -/
def forEach : List β → (β → Task σ Q A ε Unit) → Task σ Q A ε Unit
  | [], _ => done (.ok ())
  | b :: bs, g => (g b).bind fun _ => forEach bs g

@[simp] theorem bind_eq (t : Task σ Q A ε α) (g : α → Task σ Q A ε β) : t >>= g = t.bind g := rfl

@[simp] theorem pure_eq (a : α) : (pure a : Task σ Q A ε α) = done (.ok a) := rfl

@[simp] theorem done_ok_bind (a : α) (g : α → Task σ Q A ε β) : (done (.ok a)).bind g = g a := rfl

@[simp] theorem done_error_bind (e : ε) (g : α → Task σ Q A ε β) :
    (done (.error e)).bind g = done (.error e) := rfl

@[simp] theorem atomic_bind (f : σ → σ) (k : σ → Task σ Q A ε α) (g : α → Task σ Q A ε β) :
    (atomic f k).bind g = atomic f fun s => (k s).bind g := rfl

@[simp] theorem call_bind (q : Q) (k : A q → Task σ Q A ε α) (g : α → Task σ Q A ε β) :
    (call q k).bind g = call q fun a => (k a).bind g := rfl

/-- The monad law, by induction on the first task. -/
theorem bind_assoc (t : Task σ Q A ε α) (g : α → Task σ Q A ε β) (h : β → Task σ Q A ε γ) :
    (t.bind g).bind h = t.bind fun a => (g a).bind h := by
  induction t with
  | done r => cases r <;> rfl
  | atomic f k ih => simp only [atomic_bind]; congr 1; funext s; exact ih s
  | call q k ih => simp only [call_bind]; congr 1; funext a; exact ih a

@[simp] theorem ofExcept_error_bind (e : ε) (g : α → Task σ Q A ε β) :
    (ofExcept (.error e)).bind g = done (.error e) := rfl

@[simp] theorem ofExcept_ok_bind (a : α) (g : α → Task σ Q A ε β) :
    (ofExcept (.ok a)).bind g = g a := rfl

/-! ## What a task does and returns, whatever happens around it -/

/-- All transactions of the task are among `F`, all its queries among `G`. -/
def Within (F : (σ → σ) → Prop) (G : Q → Prop) : Task σ Q A ε α → Prop
  | done _ => True
  | atomic f k => F f ∧ ∀ s, (k s).Within F G
  | call q k => G q ∧ ∀ a, (k a).Within F G

/-- Whatever the task returns satisfies `post`. -/
def Yields (post : Except ε α → Prop) : Task σ Q A ε α → Prop
  | done r => post r
  | atomic _ k => ∀ s, (k s).Yields post
  | call _ k => ∀ a, (k a).Yields post

section Within

variable {F : (σ → σ) → Prop} {G : Q → Prop}

/-- More may be done than is. -/
theorem Within.mono {F' : (σ → σ) → Prop} {G' : Q → Prop} {t : Task σ Q A ε α}
    (h : t.Within F G) (hF : ∀ f, F f → F' f) (hG : ∀ q, G q → G' q) : t.Within F' G' := by
  induction t with
  | done r => trivial
  | atomic f k ih => exact ⟨hF f h.1, fun s => ih s (h.2 s)⟩
  | call q k ih => exact ⟨hG q h.1, fun a => ih a (h.2 a)⟩

/-- What a task is made of, part by part. -/
theorem Within.bind {t : Task σ Q A ε α} {g : α → Task σ Q A ε β} (h : t.Within F G)
    (hg : ∀ a, (g a).Within F G) : (t.bind g).Within F G := by
  induction t with
  | done r =>
      cases r with
      | ok a => exact hg a
      | error e => trivial
  | atomic f k ih => exact ⟨h.1, fun s => ih s (h.2 s)⟩
  | call q k ih => exact ⟨h.1, fun a => ih a (h.2 a)⟩

/-- Catching an error adds nothing to a task. -/
theorem Within.attempt {t : Task σ Q A ε α} (h : t.Within F G) : t.attempt.Within F G := by
  induction t with
  | done r => trivial
  | atomic f k ih => exact ⟨h.1, fun s => ih s (h.2 s)⟩
  | call q k ih => exact ⟨h.1, fun a => ih a (h.2 a)⟩

/-- A loop does what its rounds do. -/
theorem Within.forEach {l : List β} {g : β → Task σ Q A ε Unit}
    (h : ∀ b ∈ l, (g b).Within F G) : (forEach l g).Within F G := by
  induction l with
  | nil => trivial
  | cons b l ih =>
      exact (h b List.mem_cons_self).bind fun _ => ih fun b' hb' => h b' (List.mem_cons_of_mem _ hb')

theorem within_done (r : Except ε α) : (done r : Task σ Q A ε α).Within F G := trivial

theorem within_reads (h : F id) (g : σ → α) : (reads g : Task σ Q A ε α).Within F G :=
  ⟨h, fun _ => trivial⟩

theorem within_modify {f : σ → σ} (h : F f) : (modify f : Task σ Q A ε Unit).Within F G :=
  ⟨h, fun _ => trivial⟩

theorem within_ask {q : Q} (h : G q) : (ask q : Task σ Q A ε (A q)).Within F G :=
  ⟨h, fun _ => trivial⟩

/-- Asking is a call and nothing else. -/
theorem within_askOk {q : Q} (h : G q) (hq : A q = Except ε α) :
    (askOk q hq : Task σ Q A ε α).Within F G := ⟨h, fun _ => trivial⟩

end Within

section Yields

variable {post post' : Except ε α → Prop}

/-- A result with more is known to have less. -/
theorem Yields.mono {t : Task σ Q A ε α} (h : t.Yields post) (hpost : ∀ x, post x → post' x) :
    t.Yields post' := by
  induction t with
  | done r => exact hpost r h
  | atomic f k ih => exact fun s => ih s (h s)
  | call q k ih => exact fun a => ih a (h a)

theorem yields_true (t : Task σ Q A ε α) : t.Yields fun _ => True := by
  induction t with
  | done r => trivial
  | atomic f k ih => exact ih
  | call q k ih => exact ih

/-- What follows is known for the value that was returned; an error is passed on. -/
theorem Yields.bind {t : Task σ Q A ε α} {g : α → Task σ Q A ε β} {post : Except ε β → Prop}
    (h : t.Yields fun x => match x with
      | .ok a => (g a).Yields post
      | .error e => post (.error e)) : (t.bind g).Yields post := by
  induction t with
  | done r => cases r <;> exact h
  | atomic f k ih => exact fun s => ih s (h s)
  | call q k ih => exact fun a => ih a (h a)

/-- Whatever the first part returns, an error of it is fine. -/
theorem Yields.bind_any {t : Task σ Q A ε α} {g : α → Task σ Q A ε β} {post : Except ε β → Prop}
    (herror : ∀ e, post (.error e)) (hg : ∀ a, (g a).Yields post) : (t.bind g).Yields post := by
  refine Yields.bind ((yields_true t).mono fun x _ => ?_)
  rcases x with e | a
  · exact herror e
  · exact hg a

/-- A pure step. -/
theorem Yields.ofExcept_bind {x : Except ε α} {g : α → Task σ Q A ε β} {post : Except ε β → Prop}
    (herror : ∀ e, post (.error e)) (hg : ∀ a, x = .ok a → (g a).Yields post) :
    ((ofExcept x).bind g).Yields post := by
  rcases x with e | a
  · exact herror e
  · exact hg a rfl

/-- A caught error is a result. -/
theorem Yields.attempt {t : Task σ Q A ε α} {post : Except ε (Except ε α) → Prop}
    (h : t.Yields fun x => post (.ok x)) : t.attempt.Yields post := by
  induction t with
  | done r => exact h
  | atomic f k ih => exact fun s => ih s (h s)
  | call q k ih => exact fun a => ih a (h a)

/-- What follows keeps to the actions for every value that the first part may return. -/
theorem Within.bind_yields {F : (σ → σ) → Prop} {G : Q → Prop} {t : Task σ Q A ε α} {g : α → Task σ Q A ε β}
    (h : t.Within F G) (hy : t.Yields post) (hg : ∀ a, post (.ok a) → (g a).Within F G) : (t.bind g).Within F G := by
  induction t with
  | done r =>
      cases r with
      | ok a => exact hg a hy
      | error e => trivial
  | atomic f k ih => exact ⟨h.1, fun s => ih s (h.2 s) (hy s)⟩
  | call q k ih => exact ⟨h.1, fun a => ih a (h.2 a) (hy a)⟩

theorem Within.ofExcept_bind {F : (σ → σ) → Prop} {G : Q → Prop} {x : Except ε α} {g : α → Task σ Q A ε β}
    (hg : ∀ a, x = .ok a → (g a).Within F G) : ((ofExcept x).bind g).Within F G := by
  cases x with
  | ok a => exact hg a rfl
  | error e => trivial

end Yields

/-! ## Running a task alone -/

section Run

variable (effect : (q : Q) → A q → σ → σ) (ans : Nat → (q : Q) → A q)

/-- Execute a task alone. `ans n` answers the `n`-th service call, `effect` is what a call that got
the given answer changes; the counter and the state are threaded through. -/
def run : Task σ Q A ε α → Nat × σ → Except ε α × (Nat × σ)
  | done r, w => (r, w)
  | atomic f k, w => (k w.2).run (w.1, f w.2)
  | call q k, w => (k (ans w.1 q)).run (w.1 + 1, effect q (ans w.1 q) w.2)

@[simp] theorem run_done (r : Except ε α) (w : Nat × σ) :
    run effect ans (done r : Task σ Q A ε α) w = (r, w) := rfl

@[simp] theorem run_atomic (f : σ → σ) (k : σ → Task σ Q A ε α) (w : Nat × σ) :
    run effect ans (atomic f k) w = run effect ans (k w.2) (w.1, f w.2) := rfl

@[simp] theorem run_call (q : Q) (k : A q → Task σ Q A ε α) (w : Nat × σ) :
    run effect ans (call q k) w =
      run effect ans (k (ans w.1 q)) (w.1 + 1, effect q (ans w.1 q) w.2) := rfl

@[simp] theorem run_ofExcept (r : Except ε α) (w : Nat × σ) :
    run effect ans (ofExcept r : Task σ Q A ε α) w = (r, w) := rfl

/-- Alone, one task runs after the other. -/
theorem run_bind (t : Task σ Q A ε α) (g : α → Task σ Q A ε β) (w : Nat × σ) :
    run effect ans (t.bind g) w =
      match run effect ans t w with
      | (.ok a, w') => run effect ans (g a) w'
      | (.error e, w') => (.error e, w') := by
  induction t generalizing w with
  | done r => cases r <;> rfl
  | atomic f k ih => exact ih _ _
  | call q k ih => exact ih _ _

/-- A sequence returns if its two parts do. -/
theorem run_bind_ok {t : Task σ Q A ε α} {g : α → Task σ Q A ε β} {w : Nat × σ} {b : β} :
    (run effect ans (t.bind g) w).1 = .ok b ↔
      ∃ a w', run effect ans t w = (.ok a, w') ∧ (run effect ans (g a) w').1 = .ok b := by
  rw [run_bind]
  rcases run effect ans t w with ⟨e | a, w'⟩
  · constructor
    · intro h
      cases h
    · rintro ⟨a, w', h, -⟩
      cases h
  · constructor
    · intro h
      exact ⟨a, w', rfl, h⟩
    · rintro ⟨a', w'', h, hg⟩
      cases h
      exact hg

/-- Alone, the task returns, and `post` says what result and what state it leaves. -/
def Returns (t : Task σ Q A ε α) (w : Nat × σ) (post : α → σ → Prop) : Prop :=
  ∃ a w', run effect ans t w = (.ok a, w') ∧ post a w'.2

section Returns

variable {effect : (q : Q) → A q → σ → σ} {ans : Nat → (q : Q) → A q} {w w' : Nat × σ} {post : β → σ → Prop}

/-- The first task returned this value, and the rest returns. -/
theorem Returns.bind {t : Task σ Q A ε α} {a : α} {g : α → Task σ Q A ε β} (hrun : run effect ans t w = (.ok a, w'))
    (h : Returns effect ans (g a) w' post) : Returns effect ans (t.bind g) w post := by
  obtain ⟨b, w'', hg, hpost⟩ := h
  refine ⟨b, w'', ?_, hpost⟩
  rw [run_bind, hrun]
  exact hg

/-- Of the first task it is enough to know what it leaves behind. -/
theorem Returns.bind_returns {t : Task σ Q A ε α} {g : α → Task σ Q A ε β} {φ : α → σ → Prop}
    (h : Returns effect ans t w φ) (hg : ∀ a w', φ a w'.2 → Returns effect ans (g a) w' post) :
    Returns effect ans (t.bind g) w post := by
  obtain ⟨a, w', hrun, hφ⟩ := h
  exact .bind hrun (hg a w' hφ)

theorem Returns.ofExcept_bind {x : Except ε α} {a : α} {g : α → Task σ Q A ε β} (hx : x = .ok a)
    (h : Returns effect ans (g a) w post) : Returns effect ans ((ofExcept x).bind g) w post :=
  Returns.bind (congrArg (·, w) hx) h

end Returns

/-- Catching the error does not change the run. -/
theorem run_attempt (t : Task σ Q A ε α) (w : Nat × σ) :
    run effect ans t.attempt w = (.ok (run effect ans t w).1, (run effect ans t w).2) := by
  induction t generalizing w with
  | done r => rfl
  | atomic f k ih => exact ih _ _
  | call q k ih => exact ih _ _

/-- What a task yields it yields alone. -/
theorem Yields.run {post : Except ε α → Prop} {t : Task σ Q A ε α} (h : t.Yields post)
    (w : Nat × σ) : post (run effect ans t w).1 := by
  induction t generalizing w with
  | done r => exact h
  | atomic f k ih => exact ih _ (h _) _
  | call q k ih => exact ih _ (h _) _

/-- A loop whose rounds all return goes through its list piece by piece. -/
theorem run_forEach_append {g : β → Task σ Q A ε Unit} (h : ∀ b, (g b).Yields fun x => x = .ok ())
    (l l' : List β) (w : Nat × σ) :
    run effect ans (forEach (l ++ l') g) w =
      run effect ans (forEach l' g) (run effect ans (forEach l g) w).2 := by
  induction l generalizing w with
  | nil => rfl
  | cons b l ih =>
      have hb := (h b).run effect ans w
      rw [List.cons_append, forEach, forEach, run_bind, run_bind]
      generalize run effect ans (g b) w = res at hb
      obtain ⟨x, w'⟩ := res
      subst hb
      exact ih w'

/-- The task has returned. -/
def isDone : Task σ Q A ε α → Bool
  | done _ => true
  | _ => false

/-- Execute the first `n` actions of a task alone: the rest of it, and what it was executed to. -/
def advance : Nat → Task σ Q A ε α → Nat × σ → Task σ Q A ε α × (Nat × σ)
  | 0, t, w => (t, w)
  | _ + 1, done r, w => (done r, w)
  | n + 1, atomic f k, w => (k w.2).advance n (w.1, f w.2)
  | n + 1, call q k, w => (k (ans w.1 q)).advance n (w.1 + 1, effect q (ans w.1 q) w.2)

/-- Every action of the task executed alone satisfies `p`, of the states before and after it. -/
def Steps (p : σ → σ → Prop) : Task σ Q A ε α → Nat × σ → Prop
  | done _, _ => True
  | atomic f k, w => p w.2 (f w.2) ∧ (k w.2).Steps p (w.1, f w.2)
  | call q k, w => p w.2 (effect q (ans w.1 q) w.2) ∧
      (k (ans w.1 q)).Steps p (w.1 + 1, effect q (ans w.1 q) w.2)

instance decidableSteps (p : σ → σ → Prop) [∀ s s', Decidable (p s s')] :
    (t : Task σ Q A ε α) → (w : Nat × σ) → Decidable (t.Steps effect ans p w)
  | done _, _ => .isTrue trivial
  | atomic f k, w =>
      have := decidableSteps p (k w.2) (w.1, f w.2)
      inferInstanceAs (Decidable (_ ∧ _))
  | call q k, w =>
      have := decidableSteps p (k (ans w.1 q)) (w.1 + 1, effect q (ans w.1 q) w.2)
      inferInstanceAs (Decidable (_ ∧ _))

theorem Steps.mono {p p' : σ → σ → Prop} {t : Task σ Q A ε α} {w : Nat × σ}
    (h : t.Steps effect ans p w) (hp : ∀ s s', p s s' → p' s s') : t.Steps effect ans p' w := by
  induction t generalizing w with
  | done r => trivial
  | atomic f k ih => exact ⟨hp _ _ h.1, ih _ h.2⟩
  | call q k ih => exact ⟨hp _ _ h.1, ih _ h.2⟩

/-- What all steps have, the steps of a task have. -/
theorem steps_of_forall {p : σ → σ → Prop} (hp : ∀ s s', p s s') (t : Task σ Q A ε α) (w : Nat × σ) :
    t.Steps effect ans p w := by
  induction t generalizing w with
  | done r => trivial
  | atomic f k ih => exact ⟨hp _ _, ih _ _⟩
  | call q k ih => exact ⟨hp _ _, ih _ _⟩

/-- A task alone preserves what none of its actions changes. -/
theorem run_preserves {γ : Type} (φ : σ → γ) {F : (σ → σ) → Prop} {G : Q → Prop}
    (hF : ∀ f, F f → ∀ s, φ (f s) = φ s) (hG : ∀ q, G q → ∀ a s, φ (effect q a s) = φ s)
    {t : Task σ Q A ε α} (h : t.Within F G) (w : Nat × σ) : φ (run effect ans t w).2.2 = φ w.2 := by
  induction t generalizing w with
  | done r => rfl
  | atomic f k ih =>
      rw [run_atomic, ih _ (h.2 _)]
      exact hF f h.1 w.2
  | call q k ih =>
      rw [run_call, ih _ (h.2 _)]
      exact hG q h.1 _ w.2

end Run

/-! ## A task on a part of the state -/

section Zoom

variable {τ : Type} (get : τ → σ) (set : σ → τ → τ)

/-- The same task where the shared state is a part of a larger one. -/
def zoom : Task σ Q A ε α → Task τ Q A ε α
  | done r => done r
  | atomic f k => atomic (fun t => set (f (get t)) t) fun t => (k (get t)).zoom
  | call q k => call q fun a => (k a).zoom

/-- It leaves the other parts. -/
theorem within_zoom {F : (τ → τ) → Prop} {G : Q → Prop} (hF : ∀ f : σ → σ, F fun t => set (f (get t)) t)
    (hG : ∀ q, G q) (t : Task σ Q A ε α) : (t.zoom get set).Within F G := by
  induction t with
  | done r => trivial
  | atomic f k ih => exact ⟨hF f, fun s => ih (get s)⟩
  | call q k ih => exact ⟨hG q, ih⟩

end Zoom

/-! ## Executions among others -/

section Executions

/-- What a task meets: a state that it finds, or an answer that it gets. -/
inductive Met (σ Q : Type) (A : Q → Type) where
  | found (s : σ)
  | got (q : Q) (a : A q)

/-- The task returns `x` when it meets what is listed, whatever the others do in between. -/
def Executes : Task σ Q A ε α → List (Met σ Q A) → Except ε α → Prop
  | done r, met, x => met = [] ∧ x = r
  | atomic _ k, met, x => ∃ s rest, met = .found s :: rest ∧ (k s).Executes rest x
  | call q k, met, x => ∃ a rest, met = .got q a :: rest ∧ (k a).Executes rest x

/-- A sequence stops with an error of its first part, or executes both parts. -/
theorem Executes.of_bind {t : Task σ Q A ε α} {g : α → Task σ Q A ε β} {met : List (Met σ Q A)}
    {x : Except ε β} (h : (t.bind g).Executes met x) :
    (∃ e, t.Executes met (.error e) ∧ x = .error e) ∨
      ∃ a m m', met = m ++ m' ∧ t.Executes m (.ok a) ∧ (g a).Executes m' x := by
  induction t generalizing met with
  | done r =>
      rcases r with e | a
      · exact .inl ⟨e, ⟨h.1, rfl⟩, h.2⟩
      · exact .inr ⟨a, [], met, rfl, ⟨rfl, rfl⟩, h⟩
  | atomic f k ih =>
      obtain ⟨s, rest, rfl, h⟩ := h
      rcases ih s h with ⟨e, he, hx⟩ | ⟨a, m, m', rfl, ha, hg⟩
      · exact .inl ⟨e, ⟨s, rest, rfl, he⟩, hx⟩
      · exact .inr ⟨a, .found s :: m, m', rfl, ⟨s, m, rfl, ha⟩, hg⟩
  | call q k ih =>
      obtain ⟨b, rest, rfl, h⟩ := h
      rcases ih b h with ⟨e, he, hx⟩ | ⟨a, m, m', rfl, ha, hg⟩
      · exact .inl ⟨e, ⟨b, rest, rfl, he⟩, hx⟩
      · exact .inr ⟨a, .got q b :: m, m', rfl, ⟨b, m, rfl, ha⟩, hg⟩

/-- An execution of the caught task is one of the task ... -/
theorem Executes.of_attempt {t : Task σ Q A ε α} {met : List (Met σ Q A)} {x : Except ε (Except ε α)}
    (h : t.attempt.Executes met x) : ∃ y, x = .ok y ∧ t.Executes met y := by
  induction t generalizing met with
  | done r => exact ⟨r, h.2, h.1, rfl⟩
  | atomic f k ih =>
      obtain ⟨s, rest, rfl, h⟩ := h
      obtain ⟨y, hx, hy⟩ := ih s h
      exact ⟨y, hx, s, rest, rfl, hy⟩
  | call q k ih =>
      obtain ⟨b, rest, rfl, h⟩ := h
      obtain ⟨y, hx, hy⟩ := ih b h
      exact ⟨y, hx, b, rest, rfl, hy⟩

/-- Executions are put one after the other. -/
theorem Executes.bind {t : Task σ Q A ε α} {g : α → Task σ Q A ε β} {m m' : List (Met σ Q A)} {a : α}
    {x : Except ε β} (h : t.Executes m (.ok a)) (hg : (g a).Executes m' x) : (t.bind g).Executes (m ++ m') x := by
  induction t generalizing m with
  | done r =>
      obtain ⟨rfl, rfl⟩ := h
      exact hg
  | atomic f k ih =>
      obtain ⟨s, rest, rfl, h⟩ := h
      exact ⟨s, rest ++ m', rfl, ih s h⟩
  | call q k ih =>
      obtain ⟨b, rest, rfl, h⟩ := h
      exact ⟨b, rest ++ m', rfl, ih b h⟩

/-- ... and the other way round. -/
theorem Executes.attempt {t : Task σ Q A ε α} {met : List (Met σ Q A)} {y : Except ε α} (h : t.Executes met y) :
    t.attempt.Executes met (.ok y) := by
  induction t generalizing met with
  | done r =>
      obtain ⟨rfl, rfl⟩ := h
      exact ⟨rfl, rfl⟩
  | atomic f k ih =>
      obtain ⟨s, rest, rfl, h⟩ := h
      exact ⟨s, rest, rfl, ih s h⟩
  | call q k ih =>
      obtain ⟨b, rest, rfl, h⟩ := h
      exact ⟨b, rest, rfl, ih b h⟩

/-- What is met decides how much of it a task takes, and what it returns. -/
theorem Executes.append_unique {t : Task σ Q A ε α} {m m' l l' : List (Met σ Q A)} {x y : Except ε α}
    (hx : t.Executes m x) (hy : t.Executes m' y) (h : m ++ l = m' ++ l') : m = m' ∧ x = y := by
  induction t generalizing m m' with
  | done r => exact ⟨hx.1.trans hy.1.symm, hx.2.trans hy.2.symm⟩
  | atomic f k ih =>
      obtain ⟨s, rest, rfl, hx⟩ := hx
      obtain ⟨s', rest', rfl, hy⟩ := hy
      obtain ⟨heq, htail⟩ := List.cons.inj h
      cases heq
      obtain ⟨rfl, hxy⟩ := ih s hx hy htail
      exact ⟨rfl, hxy⟩
  | call q k ih =>
      obtain ⟨a, rest, rfl, hx⟩ := hx
      obtain ⟨a', rest', rfl, hy⟩ := hy
      obtain ⟨heq, htail⟩ := List.cons.inj h
      cases heq
      obtain ⟨rfl, hxy⟩ := ih a hx hy htail
      exact ⟨rfl, hxy⟩

/-- The task returns a value only after it met something with the property. -/
def OnlyAfter (P : Met σ Q A → Prop) : Task σ Q A ε α → Prop
  | done r => ∃ e, r = .error e
  | atomic _ k => ∀ s, P (.found s) ∨ (k s).OnlyAfter P
  | call q k => ∀ a, P (.got q a) ∨ (k a).OnlyAfter P

/-- An execution that returned met what it had to. -/
theorem OnlyAfter.executes {P : Met σ Q A → Prop} {t : Task σ Q A ε α} (h : t.OnlyAfter P)
    {met : List (Met σ Q A)} {a : α} (hexec : t.Executes met (.ok a)) : ∃ m ∈ met, P m := by
  induction t generalizing met with
  | done r =>
      obtain ⟨e, rfl⟩ := h
      cases hexec.2
  | atomic f k ih =>
      obtain ⟨s, rest, rfl, hexec⟩ := hexec
      rcases h s with hmet | hk
      · exact ⟨_, List.mem_cons_self, hmet⟩
      · obtain ⟨m, hmem, hm⟩ := ih s hk hexec
        exact ⟨m, List.mem_cons_of_mem _ hmem, hm⟩
  | call q k ih =>
      obtain ⟨b, rest, rfl, hexec⟩ := hexec
      rcases h b with hmet | hk
      · exact ⟨_, List.mem_cons_self, hmet⟩
      · obtain ⟨m, hmem, hm⟩ := ih b hk hexec
        exact ⟨m, List.mem_cons_of_mem _ hmem, hm⟩

/-- A task with a part that has to meet something has to meet it. -/
theorem OnlyAfter.bind_left {P : Met σ Q A → Prop} {t : Task σ Q A ε α} (h : t.OnlyAfter P)
    (g : α → Task σ Q A ε β) : (t.bind g).OnlyAfter P := by
  induction t with
  | done r =>
      obtain ⟨e, rfl⟩ := h
      exact ⟨e, rfl⟩
  | atomic f k ih => exact fun s => (h s).imp_right (ih s)
  | call q k ih => exact fun a => (h a).imp_right (ih a)

theorem OnlyAfter.bind_right {P : Met σ Q A → Prop} (t : Task σ Q A ε α) {g : α → Task σ Q A ε β}
    (h : ∀ a, (g a).OnlyAfter P) : (t.bind g).OnlyAfter P := by
  induction t with
  | done r =>
      rcases r with e | a
      · exact ⟨e, rfl⟩
      · exact h a
  | atomic f k ih => exact fun s => .inr (ih s)
  | call q k ih => exact fun a => .inr (ih a)

theorem onlyAfter_throw {P : Met σ Q A → Prop} (e : ε) : (throw e : Task σ Q A ε α).OnlyAfter P := ⟨e, rfl⟩

/-- Only the queries of the task are answered. -/
theorem Within.executes {F : (σ → σ) → Prop} {G : Q → Prop} {t : Task σ Q A ε α} (h : t.Within F G)
    {met : List (Met σ Q A)} {x : Except ε α} (hexec : t.Executes met x) {q : Q} {a : A q}
    (hmem : .got q a ∈ met) : G q := by
  induction t generalizing met with
  | done r =>
      rw [hexec.1] at hmem
      exact absurd hmem List.not_mem_nil
  | atomic f k ih =>
      obtain ⟨s, rest, rfl, hexec⟩ := hexec
      rcases List.mem_cons.mp hmem with heq | hmem
      · cases heq
      · exact ih s (h.2 s) hexec hmem
  | call q' k ih =>
      obtain ⟨b, rest, rfl, hexec⟩ := hexec
      rcases List.mem_cons.mp hmem with heq | hmem
      · cases heq
        exact h.1
      · exact ih b (h.2 b) hexec hmem

variable (effect : (q : Q) → A q → σ → σ) (ans : Nat → (q : Q) → A q)

/-- What a task executed alone meets. -/
def metAlone : Task σ Q A ε α → Nat × σ → List (Met σ Q A)
  | done _, _ => []
  | atomic f k, w => .found w.2 :: (k w.2).metAlone (w.1, f w.2)
  | call q k, w => .got q (ans w.1 q) :: (k (ans w.1 q)).metAlone (w.1 + 1, effect q (ans w.1 q) w.2)

/-- A run alone is an execution, with the state it met each time. -/
theorem executes_alone (t : Task σ Q A ε α) (w : Nat × σ) :
    t.Executes (t.metAlone effect ans w) (t.run effect ans w).1 := by
  induction t generalizing w with
  | done r => exact ⟨rfl, rfl⟩
  | atomic f k ih => exact ⟨_, _, rfl, ih _ _⟩
  | call q k ih => exact ⟨_, _, rfl, ih _ _⟩

end Executions

end Task

end Interleaving
