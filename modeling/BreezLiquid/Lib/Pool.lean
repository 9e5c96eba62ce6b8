/-
# BreezLiquid.Lib.Pool — interleaved tasks and rely-guarantee reasoning.

A pool is a shared state and a list of running tasks, each under a role. A step runs one action of one
task, starts a task the system allows, drops a task (finished, or aborted by a crash or a failing
store), or lets the environment change the state. `Runs` are the sequences of steps that meet a
condition on their labels and states.

The proof method is rely-guarantee. A `Protocol` has an invariant of the state and, for each role, what
it relies on from the others, what it guarantees to them, and what holds while no task of the role is
running. `Safe` says of one task that all its actions keep the protocol, whatever the others do in
between as long as they keep theirs; `Runs.keep` adds the tasks up. `Benign` tasks keep the protocol
without needing to know anything.
-/
import Mathlib.Logic.Relation
import BreezLiquid.Lib.Task

namespace Interleaving

variable {σ Q : Type} {A : Q → Type} {ε ρ α β : Type}

/-! ## Pools and their steps -/

/-- What is around the tasks: the answers the services may give, the effect of an answered call on the
state, which tasks may be started next to the running roles, and what the environment may do. -/
structure System (σ Q : Type) (A : Q → Type) (ε ρ : Type) where
  answers : (q : Q) → A q → σ → Prop := fun _ _ _ => True
  effect : (q : Q) → A q → σ → σ
  spawns : List ρ → σ → ρ → Task σ Q A ε Unit → Prop
  env : σ → σ → Prop

/-- A shared state and the running tasks with their roles. -/
structure Pool (σ Q : Type) (A : Q → Type) (ε ρ : Type) where
  state : σ
  tasks : List (ρ × Task σ Q A ε Unit)

/-- What kind of step was taken, and by which role. -/
inductive Label (ρ : Type) where
  | own (r : ρ)
  | spawn (r : ρ)
  | finish (r : ρ)
  | abort (r : ρ)
  | env
  deriving DecidableEq

/-- One action of one task. -/
inductive TaskStep (S : System σ Q A ε ρ) : Task σ Q A ε α → σ → Task σ Q A ε α → σ → Prop where
  | atomic (f : σ → σ) (k : σ → Task σ Q A ε α) (s : σ) : TaskStep S (.atomic f k) s (k s) (f s)
  | call (q : Q) (k : A q → Task σ Q A ε α) (a : A q) (s : σ) (h : S.answers q a s) :
      TaskStep S (.call q k) s (k a) (S.effect q a s)

inductive Step (S : System σ Q A ε ρ) : Pool σ Q A ε ρ → Label ρ → Pool σ Q A ε ρ → Prop where
  | own {r : ρ} {t t' : Task σ Q A ε Unit} {s s' : σ} (pre post : List (ρ × Task σ Q A ε Unit))
      (h : TaskStep S t s t' s') :
      Step S ⟨s, pre ++ (r, t) :: post⟩ (.own r) ⟨s', pre ++ (r, t') :: post⟩
  | spawn {r : ρ} {t : Task σ Q A ε Unit} {s : σ} {tasks : List (ρ × Task σ Q A ε Unit)}
      (h : S.spawns (tasks.map Prod.fst) s r t) :
      Step S ⟨s, tasks⟩ (.spawn r) ⟨s, tasks ++ [(r, t)]⟩
  | finish {r : ρ} {x : Except ε Unit} {s : σ} (pre post : List (ρ × Task σ Q A ε Unit)) :
      Step S ⟨s, pre ++ (r, .done x) :: post⟩ (.finish r) ⟨s, pre ++ post⟩
  | abort {r : ρ} {t : Task σ Q A ε Unit} {s : σ} (pre post : List (ρ × Task σ Q A ε Unit)) :
      Step S ⟨s, pre ++ (r, t) :: post⟩ (.abort r) ⟨s, pre ++ post⟩
  | env {s s' : σ} {tasks : List (ρ × Task σ Q A ε Unit)} (h : S.env s s') :
      Step S ⟨s, tasks⟩ .env ⟨s', tasks⟩

/-- A condition on steps: the label, the state before and the state after. -/
abbrev Cond (σ ρ : Type) := Label ρ → σ → σ → Prop

/-- No condition. -/
def Cond.any : Cond σ ρ := fun _ _ _ => True

/-- Sequences of steps that all meet a condition. -/
def Runs (S : System σ Q A ε ρ) (C : Cond σ ρ) : Pool σ Q A ε ρ → Pool σ Q A ε ρ → Prop :=
  Relation.ReflTransGen fun c c' => ∃ l, Step S c l c' ∧ C l c.state c'.state

/-! ## Protocols -/

/-- An invariant of the shared state, what each role relies on and guarantees, and what holds while the
role is idle. -/
structure Protocol (σ ρ : Type) where
  inv : σ → Prop
  rely : ρ → σ → σ → Prop
  guar : ρ → σ → σ → Prop
  idle : ρ → σ → Prop
  rely_refl : ∀ r s, rely r s s
  rely_trans : ∀ r {s s' s''}, rely r s s' → rely r s' s'' → rely r s s''
  idle_stable : ∀ r {s s'}, rely r s s' → inv s' → idle r s → idle r s'

/-- The protocol in which every role relies on and guarantees the same preorder. -/
def Protocol.uniform (inv : σ → Prop) (keep : σ → σ → Prop) (hrefl : ∀ s, keep s s)
    (htrans : ∀ {s s' s''}, keep s s' → keep s' s'' → keep s s'') : Protocol σ ρ where
  inv := inv
  rely _ := keep
  guar _ := keep
  idle _ _ := True
  rely_refl _ := hrefl
  rely_trans _ := htrans
  idle_stable _ _ _ _ _ _ := trivial

section Safe

variable (S : System σ Q A ε ρ) (C : Cond σ ρ) (P : Protocol σ ρ) (r : ρ)

/-- A step of the role from `s` to `s'` keeps the protocol, given that it meets the condition. -/
def Keeps (s s' : σ) : Prop := P.inv s → C (.own r) s s' → P.inv s' ∧ P.guar r s s'

/-- Every action of the task keeps the protocol, whatever the others do in between, and if it returns
then `post` holds and stays true. -/
def Safe : Task σ Q A ε α → (Except ε α → σ → Prop) → σ → Prop
  | .done x, post, s => ∀ s₁, P.rely r s s₁ → P.inv s₁ → post x s₁
  | .atomic f k, post, s => ∀ s₁, P.rely r s s₁ → P.inv s₁ → C (.own r) s₁ (f s₁) →
      P.inv (f s₁) ∧ P.guar r s₁ (f s₁) ∧ Safe (k s₁) post (f s₁)
  | .call q k, post, s => ∀ s₁, P.rely r s s₁ → P.inv s₁ → ∀ a, S.answers q a s₁ →
      C (.own r) s₁ (S.effect q a s₁) →
      P.inv (S.effect q a s₁) ∧ P.guar r s₁ (S.effect q a s₁) ∧ Safe (k a) post (S.effect q a s₁)

/-- Every action of the task keeps the protocol in every state, whatever the task was told before. -/
abbrev Benign (t : Task σ Q A ε α) : Prop :=
  t.Within (fun f => ∀ s, Keeps C P r s (f s))
    (fun q => ∀ a s, S.answers q a s → Keeps C P r s (S.effect q a s))

variable {S C P r}

theorem Safe.rely {t : Task σ Q A ε α} {post : Except ε α → σ → Prop} {s s' : σ}
    (h : Safe S C P r t post s) (hr : P.rely r s s') : Safe S C P r t post s' := by
  cases t with
  | done x => exact fun s₁ h₁ => h s₁ (P.rely_trans r hr h₁)
  | atomic f k => exact fun s₁ h₁ => h s₁ (P.rely_trans r hr h₁)
  | call q k => exact fun s₁ h₁ => h s₁ (P.rely_trans r hr h₁)

/-- It is enough to be safe in every invariant state the others may bring about. -/
theorem Safe.of_rely {t : Task σ Q A ε α} {post : Except ε α → σ → Prop} {s : σ}
    (h : ∀ s₁, P.rely r s s₁ → P.inv s₁ → Safe S C P r t post s₁) : Safe S C P r t post s := by
  cases t with
  | done x => exact fun s₁ h₁ hi => h s₁ h₁ hi s₁ (P.rely_refl r s₁) hi
  | atomic f k => exact fun s₁ h₁ hi => h s₁ h₁ hi s₁ (P.rely_refl r s₁) hi
  | call q k => exact fun s₁ h₁ hi => h s₁ h₁ hi s₁ (P.rely_refl r s₁) hi

theorem Safe.mono {t : Task σ Q A ε α} {post post' : Except ε α → σ → Prop} {s : σ}
    (h : Safe S C P r t post s) (hpost : ∀ x s, P.inv s → post x s → post' x s) :
    Safe S C P r t post' s := by
  induction t generalizing s with
  | done x => exact fun s₁ h₁ hi => hpost x s₁ hi (h s₁ h₁ hi)
  | atomic f k ih =>
      intro s₁ h₁ hi hc
      obtain ⟨hi', hg, hk⟩ := h s₁ h₁ hi hc
      exact ⟨hi', hg, ih s₁ hk⟩
  | call q k ih =>
      intro s₁ h₁ hi a ha hc
      obtain ⟨hi', hg, hk⟩ := h s₁ h₁ hi a ha hc
      exact ⟨hi', hg, ih a hk⟩

/-- **Sequencing.** The second task is safe wherever the first one returns. -/
theorem Safe.bind {t : Task σ Q A ε α} {g : α → Task σ Q A ε β} {post : Except ε β → σ → Prop}
    {s : σ}
    (h : Safe S C P r t (fun x s => match x with
      | .ok a => Safe S C P r (g a) post s
      | .error e => post (.error e) s) s) :
    Safe S C P r (t.bind g) post s := by
  induction t generalizing s with
  | done x =>
      cases x with
      | ok a => exact Safe.of_rely fun s₁ h₁ hi => h s₁ h₁ hi
      | error e => exact h
  | atomic f k ih =>
      intro s₁ h₁ hi hc
      obtain ⟨hi', hg, hk⟩ := h s₁ h₁ hi hc
      exact ⟨hi', hg, ih s₁ hk⟩
  | call q k ih =>
      intro s₁ h₁ hi a ha hc
      obtain ⟨hi', hg, hk⟩ := h s₁ h₁ hi a ha hc
      exact ⟨hi', hg, ih a hk⟩

theorem Safe.attempt {t : Task σ Q A ε α} {post : Except ε (Except ε α) → σ → Prop} {s : σ}
    (h : Safe S C P r t (fun x s => post (.ok x) s) s) : Safe S C P r t.attempt post s := by
  induction t generalizing s with
  | done x => exact h
  | atomic f k ih =>
      intro s₁ h₁ hi hc
      obtain ⟨hi', hg, hk⟩ := h s₁ h₁ hi hc
      exact ⟨hi', hg, ih s₁ hk⟩
  | call q k ih =>
      intro s₁ h₁ hi a ha hc
      obtain ⟨hi', hg, hk⟩ := h s₁ h₁ hi a ha hc
      exact ⟨hi', hg, ih a hk⟩

/-- What a task returns in any case may be added to the postcondition. -/
theorem Safe.yields {t : Task σ Q A ε α} {post : Except ε α → σ → Prop} {res : Except ε α → Prop}
    {s : σ} (h : Safe S C P r t post s) (hres : t.Yields res) :
    Safe S C P r t (fun x s => res x ∧ post x s) s := by
  induction t generalizing s with
  | done x => exact fun s₁ h₁ hi => ⟨hres, h s₁ h₁ hi⟩
  | atomic f k ih =>
      intro s₁ h₁ hi hc
      obtain ⟨hi', hg, hk⟩ := h s₁ h₁ hi hc
      exact ⟨hi', hg, ih s₁ hk (hres s₁)⟩
  | call q k ih =>
      intro s₁ h₁ hi a ha hc
      obtain ⟨hi', hg, hk⟩ := h s₁ h₁ hi a ha hc
      exact ⟨hi', hg, ih a hk (hres a)⟩

/-- When a role may rely on its own guarantee, whatever its rely preserves is still there at the end. -/
theorem Safe.frame {t : Task σ Q A ε α} {post : Except ε α → σ → Prop} {s : σ}
    (h : Safe S C P r t post s) (hself : ∀ s s', P.guar r s s' → P.rely r s s') :
    Safe S C P r t (fun x s₁ => post x s₁ ∧ P.rely r s s₁) s := by
  have hind : ∀ s₀, P.rely r s₀ s → Safe S C P r t (fun x s₁ => post x s₁ ∧ P.rely r s₀ s₁) s := by
    induction t generalizing s with
    | done x => exact fun s₀ h₀ s₁ h₁ hi => ⟨h s₁ h₁ hi, P.rely_trans r h₀ h₁⟩
    | atomic f k ih =>
        intro s₀ h₀ s₁ h₁ hi hc
        obtain ⟨hi', hg, hk⟩ := h s₁ h₁ hi hc
        refine ⟨hi', hg, ih s₁ hk s₀ ?_⟩
        exact P.rely_trans r h₀ (P.rely_trans r h₁ (hself _ _ hg))
    | call q k ih =>
        intro s₀ h₀ s₁ h₁ hi a ha hc
        obtain ⟨hi', hg, hk⟩ := h s₁ h₁ hi a ha hc
        refine ⟨hi', hg, ih a hk s₀ ?_⟩
        exact P.rely_trans r h₀ (P.rely_trans r h₁ (hself _ _ hg))
  exact hind s (P.rely_refl r s)

/-- A postcondition on results only. -/
def OnOk (ψ : α → σ → Prop) : Except ε α → σ → Prop
  | .ok a, s => ψ a s
  | .error _, _ => True

/-- Sequencing, with what the first task guaranteed on its way. -/
theorem Safe.bind_ok {t : Task σ Q A ε α} {g : α → Task σ Q A ε β} {φ : α → σ → Prop}
    {ψ : β → σ → Prop} {s : σ} (hself : ∀ s s', P.guar r s s' → P.rely r s s')
    (h : Safe S C P r t (OnOk φ) s)
    (hg : ∀ a s₁, P.rely r s s₁ → P.inv s₁ → φ a s₁ → Safe S C P r (g a) (OnOk ψ) s₁) :
    Safe S C P r (t.bind g) (OnOk ψ) s := by
  refine ((h.frame hself).mono fun x s₁ hi hx => ?_).bind
  cases x with
  | error err => trivial
  | ok a => exact hg a s₁ hx.2 hi hx.1

theorem Safe.attempt_ok {t : Task σ Q A ε α} {φ : α → σ → Prop} {s : σ}
    (h : Safe S C P r t (OnOk φ) s) :
    Safe S C P r t.attempt (OnOk fun x s => ∀ a, x = .ok a → φ a s) s := by
  refine Safe.attempt (h.mono fun x s₁ _ hx => ?_)
  rintro a rfl
  exact hx

/-- A pure step. -/
theorem Safe.ofExcept_bind {x : Except ε α} {g : α → Task σ Q A ε β} {ψ : β → σ → Prop} {s : σ}
    (h : ∀ a, x = .ok a → Safe S C P r (g a) (OnOk ψ) s) :
    Safe S C P r ((Task.ofExcept x).bind g) (OnOk ψ) s := by
  cases x with
  | ok a => exact h a rfl
  | error err => exact fun _ _ _ => trivial

theorem safe_ok {a : α} {φ : α → σ → Prop} {s : σ} (h : ∀ s₁, P.rely r s s₁ → P.inv s₁ → φ a s₁) :
    Safe S C P r (.done (.ok a)) (OnOk φ) s := h

theorem safe_error {err : ε} {φ : α → σ → Prop} {s : σ} :
    Safe S C P r (.done (.error err)) (OnOk φ) s := fun _ _ _ => trivial

/-- Reading the state, when a role guarantees that nothing happens. -/
theorem safe_reads_bind {γ : Type} {g : σ → γ} {k : γ → Task σ Q A ε α} {post : Except ε α → σ → Prop} {s : σ}
    (hguar : ∀ s, P.guar r s s)
    (h : ∀ s₁, P.rely r s s₁ → P.inv s₁ → Safe S C P r (k (g s₁)) post s₁) :
    Safe S C P r ((Task.reads g).bind k) post s := by
  intro s₁ h₁ hi _
  exact ⟨hi, hguar s₁, h s₁ h₁ hi⟩

/-- A transaction that may fail: it is safe either way. -/
theorem safe_transact {f : σ → Except ε (α × σ)} {post : Except ε α → σ → Prop} {s : σ}
    (hok : ∀ s₁ a s', P.rely r s s₁ → P.inv s₁ → C (.own r) s₁ s' → f s₁ = .ok (a, s') →
      P.inv s' ∧ P.guar r s₁ s' ∧ ∀ s₂, P.rely r s' s₂ → P.inv s₂ → post (.ok a) s₂)
    (herror : ∀ s₁ e, P.rely r s s₁ → P.inv s₁ → C (.own r) s₁ s₁ → f s₁ = .error e →
      P.guar r s₁ s₁ ∧ ∀ s₂, P.rely r s₁ s₂ → P.inv s₂ → post (.error e) s₂) :
    Safe S C P r (Task.transact f) post s := by
  intro s₁ h₁ hi hc
  dsimp only at hc ⊢
  cases hf : f s₁ with
  | ok result =>
      obtain ⟨a, s'⟩ := result
      rw [hf] at hc
      exact hok s₁ a s' h₁ hi hc hf
  | error e =>
      rw [hf] at hc
      exact ⟨hi, herror s₁ e h₁ hi hc hf⟩

/-- What every action of a task keeps, and the role's rely as well, holds at the end of the task. -/
theorem safe_of_within {J : σ → Prop} {F : (σ → σ) → Prop} {G : Q → Prop}
    (hrely : ∀ s s', P.rely r s s' → P.inv s' → J s → J s')
    (hF : ∀ f, F f → ∀ s, P.inv s → J s → C (.own r) s (f s) →
      P.inv (f s) ∧ P.guar r s (f s) ∧ J (f s))
    (hG : ∀ q, G q → ∀ a s, P.inv s → J s → C (.own r) s (S.effect q a s) →
      P.inv (S.effect q a s) ∧ P.guar r s (S.effect q a s) ∧ J (S.effect q a s))
    {t : Task σ Q A ε α} (h : t.Within F G) {s : σ} (hs : J s) :
    Safe S C P r t (fun _ s => J s) s := by
  induction t generalizing s with
  | done x => exact fun s₁ h₁ hi => hrely s s₁ h₁ hi hs
  | atomic f k ih =>
      intro s₁ h₁ hi hc
      obtain ⟨hi', hg, hJ⟩ := hF f h.1 s₁ hi (hrely s s₁ h₁ hi hs) hc
      exact ⟨hi', hg, ih s₁ (h.2 s₁) hJ⟩
  | call q k ih =>
      intro s₁ h₁ hi a _ hc
      obtain ⟨hi', hg, hJ⟩ := hG q h.1 a s₁ hi (hrely s s₁ h₁ hi hs) hc
      exact ⟨hi', hg, ih a (h.2 a) hJ⟩

/-- What all actions of a task and the role's rely preserve is there at the end of the task. -/
theorem Safe.carry {R : σ → σ → Prop} (hrefl : ∀ s, R s s) (htrans : ∀ {s s' s''}, R s s' → R s' s'' → R s s'')
    (hrely : ∀ s s', P.rely r s s' → R s s') {F : (σ → σ) → Prop} {G : Q → Prop}
    (hF : ∀ f, F f → ∀ s, R s (f s)) (hG : ∀ q, G q → ∀ a s, R s (S.effect q a s)) {t : Task σ Q A ε α}
    (hw : t.Within F G) {post : Except ε α → σ → Prop} {s : σ} (h : Safe S C P r t post s) :
    Safe S C P r t (fun x s₁ => post x s₁ ∧ R s s₁) s := by
  have hind : ∀ s₀, R s₀ s → Safe S C P r t (fun x s₁ => post x s₁ ∧ R s₀ s₁) s := by
    induction t generalizing s with
    | done x => exact fun s₀ h₀ s₁ h₁ hi => ⟨h s₁ h₁ hi, htrans h₀ (hrely _ _ h₁)⟩
    | atomic f k ih =>
        intro s₀ h₀ s₁ h₁ hi hc
        obtain ⟨hi', hg, hk⟩ := h s₁ h₁ hi hc
        exact ⟨hi', hg, ih s₁ (hw.2 s₁) hk s₀ (htrans h₀ (htrans (hrely _ _ h₁) (hF f hw.1 s₁)))⟩
    | call q k ih =>
        intro s₀ h₀ s₁ h₁ hi a ha hc
        obtain ⟨hi', hg, hk⟩ := h s₁ h₁ hi a ha hc
        exact ⟨hi', hg, ih a (hw.2 a) hk s₀ (htrans h₀ (htrans (hrely _ _ h₁) (hG q hw.1 a s₁)))⟩
  exact hind s (hrefl s)

/-- A loop is safe if its rounds are, in whatever states the rely allows. -/
theorem Safe.forEach {l : List β} {g : β → Task σ Q A ε Unit} {s : σ}
    (hself : ∀ s s', P.guar r s s' → P.rely r s s')
    (h : ∀ b ∈ l, ∀ s₁, P.rely r s s₁ → P.inv s₁ →
      Safe S C P r (g b) (OnOk fun _ _ => True) s₁) :
    Safe S C P r (Task.forEach l g) (OnOk fun _ _ => True) s := by
  induction l generalizing s with
  | nil => exact safe_ok fun _ _ _ => trivial
  | cons b l ih =>
      refine Safe.of_rely fun s₁ h₁ hi => ?_
      refine (h b List.mem_cons_self s₁ h₁ hi).bind_ok hself fun _ s₂ h₂ _ _ => ?_
      refine ih fun b' hb' s₃ h₃ => h b' (List.mem_cons_of_mem _ hb') s₃ ?_
      exact P.rely_trans r h₁ (P.rely_trans r h₂ h₃)

/-! ## Benign tasks -/

/-- When a role may rely on its own guarantee, a benign task carries along whatever the role's rely
preserves. -/
theorem Benign.safe_of {t : Task σ Q A ε α} (h : Benign S C P r t)
    (hself : ∀ s s', P.guar r s s' → P.rely r s s') {post : Except ε α → σ → Prop} {s : σ}
    (hpost : ∀ x s₁, P.rely r s s₁ → P.inv s₁ → post x s₁) : Safe S C P r t post s := by
  induction t generalizing s with
  | done x => exact fun s₁ h₁ hi => hpost x s₁ h₁ hi
  | atomic f k ih =>
      intro s₁ h₁ hi hc
      obtain ⟨hi', hg⟩ := h.1 s₁ hi hc
      refine ⟨hi', hg, ih s₁ (h.2 s₁) fun x s₂ h₂ => hpost x s₂ ?_⟩
      exact P.rely_trans r h₁ (P.rely_trans r (hself _ _ hg) h₂)
  | call q k ih =>
      intro s₁ h₁ hi a ha hc
      obtain ⟨hi', hg⟩ := h.1 a s₁ ha hi hc
      refine ⟨hi', hg, ih a (h.2 a) fun x s₂ h₂ => hpost x s₂ ?_⟩
      exact P.rely_trans r h₁ (P.rely_trans r (hself _ _ hg) h₂)

/-- A benign task before a safe one. -/
theorem Benign.safe_bind {t : Task σ Q A ε α} {g : α → Task σ Q A ε β} (h : Benign S C P r t)
    (hself : ∀ s s', P.guar r s s' → P.rely r s s') {post : Except ε β → σ → Prop} {s : σ}
    (herror : ∀ e s₁, P.rely r s s₁ → P.inv s₁ → post (.error e) s₁)
    (hg : ∀ a s₁, P.rely r s s₁ → P.inv s₁ → Safe S C P r (g a) post s₁) :
    Safe S C P r (t.bind g) post s := by
  refine (h.safe_of hself fun x s₁ h₁ hi => ?_).bind
  cases x with
  | ok a => exact hg a s₁ h₁ hi
  | error e => exact herror e s₁ h₁ hi

end Safe

/-! ## From tasks to runs -/

section Keep

variable {S : System σ Q A ε ρ} {C : Cond σ ρ} {P : Protocol σ ρ}

/-- The state keeps the invariant, the roles may stand next to each other, every task is safe up to
the point where its role is idle again, and the roles that are not running are idle. -/
structure Kept (S : System σ Q A ε ρ) (C : Cond σ ρ) (P : Protocol σ ρ) (coexist : ρ → ρ → Prop)
    (c : Pool σ Q A ε ρ) : Prop where
  inv : P.inv c.state
  roles : (c.tasks.map Prod.fst).Pairwise fun r r' => coexist r r' ∧ coexist r' r
  safe : ∀ e ∈ c.tasks, Safe S C P e.1 e.2 (fun _ s => P.idle e.1 s) c.state
  idle : ∀ r, r ∉ c.tasks.map Prod.fst → P.idle r c.state

variable {coexist : ρ → ρ → Prop}

/-- The roles around a task may all stand next to its role. -/
theorem coexist_of_pairwise {pre post : List (ρ × Task σ Q A ε Unit)} {r : ρ}
    {t : Task σ Q A ε Unit}
    (h : ((pre ++ (r, t) :: post).map Prod.fst).Pairwise fun r r' => coexist r r' ∧ coexist r' r)
    {e : ρ × Task σ Q A ε Unit} (he : e ∈ pre ++ post) : coexist r e.1 := by
  rw [List.map_append, List.map_cons, List.pairwise_append, List.pairwise_cons] at h
  obtain ⟨-, ⟨hpost, -⟩, hpre⟩ := h
  rcases List.mem_append.mp he with he | he
  · exact (hpre e.1 (List.mem_map_of_mem he) r List.mem_cons_self).2
  · exact (hpost e.1 (List.mem_map_of_mem he)).1

theorem mem_around {pre post : List β} {b e : β} (he : e ∈ pre ++ b :: post) :
    e = b ∨ e ∈ pre ++ post := by
  rcases List.mem_append.mp he with he | he
  · exact Or.inr (List.mem_append_left _ he)
  · rcases List.mem_cons.mp he with he | he
    · exact Or.inl he
    · exact Or.inr (List.mem_append_right _ he)

theorem mem_of_mem_around {pre post : List β} {b e : β} (he : e ∈ pre ++ post) :
    e ∈ pre ++ b :: post := by
  rcases List.mem_append.mp he with he | he
  · exact List.mem_append_left _ he
  · exact List.mem_append_right _ (List.mem_cons_of_mem _ he)

theorem pairwise_drop {R : ρ → ρ → Prop} {pre post : List (ρ × Task σ Q A ε Unit)}
    {e : ρ × Task σ Q A ε Unit}
    (h : ((pre ++ e :: post).map Prod.fst).Pairwise R) :
    ((pre ++ post).map Prod.fst).Pairwise R :=
  h.sublist (((List.Sublist.refl pre).append (List.sublist_cons_self e post)).map _)

/-- A safe task makes a step: the protocol is kept and the rest of the task is safe. -/
theorem Safe.step {r : ρ} {t t' : Task σ Q A ε α} {post : Except ε α → σ → Prop} {s s' : σ}
    (h : Safe S C P r t post s) (hi : P.inv s) (hstep : TaskStep S t s t' s')
    (hc : C (.own r) s s') : P.inv s' ∧ P.guar r s s' ∧ Safe S C P r t' post s' := by
  cases hstep with
  | atomic f k => exact h s (P.rely_refl r s) hi hc
  | call q k a _ ha => exact h s (P.rely_refl r s) hi a ha hc

/-- What the proof of a system has to supply: guarantees that imply the relies of the other roles,
safe spawns, aborts that leave the role idle, and a kept environment. -/
structure Sound (S : System σ Q A ε ρ) (C : Cond σ ρ) (P : Protocol σ ρ) (coexist : ρ → ρ → Prop) :
    Prop where
  compat : ∀ r r', r ≠ r' ∨ coexist r r' → ∀ s s', P.guar r s s' → P.rely r' s s'
  spawn : ∀ roles s r t, S.spawns roles s r t → P.inv s → C (.spawn r) s s →
    (r ∉ roles → P.idle r s) → (∀ r' ∈ roles, coexist r' r ∧ coexist r r') ∧
      Safe S C P r t (fun _ s => P.idle r s) s
  abort : ∀ r s, P.inv s → C (.abort r) s s → P.idle r s
  env : ∀ s s', S.env s s' → P.inv s → C .env s s' → P.inv s' ∧ ∀ r, P.rely r s s'

/-- **One step.** Every step keeps the pool. -/
theorem Step.keep (hS : Sound S C P coexist) {c c' : Pool σ Q A ε ρ} {l : Label ρ}
    (hkept : Kept S C P coexist c) (hstep : Step S c l c') (hc : C l c.state c'.state) :
    Kept S C P coexist c' := by
  cases hstep with
  -- the other tasks rely on what this one guarantees, and so do the roles without a task
  | @own r t t' s s' pre post h =>
      obtain ⟨hi', hg, ht⟩ := (hkept.safe (r, t) (by simp)).step hkept.inv h hc
      refine ⟨hi', by simpa using hkept.roles, fun e he => ?_, fun r' hr' => ?_⟩
      · rcases mem_around he with rfl | he
        · exact ht
        · have hco := coexist_of_pairwise hkept.roles he
          exact (hkept.safe e (mem_of_mem_around he)).rely (hS.compat r e.1 (.inr hco) _ _ hg)
      · have hne : r ≠ r' := by
          rintro rfl
          simp at hr'
        have hr : r' ∉ (pre ++ (r, t) :: post).map Prod.fst := by simpa using hr'
        exact P.idle_stable r' (hS.compat r r' (.inl hne) _ _ hg) hi' (hkept.idle r' hr)
  | @spawn r t s tasks h =>
      obtain ⟨hroles, ht⟩ := hS.spawn _ _ _ _ h hkept.inv hc (hkept.idle r)
      refine ⟨hkept.inv, ?_, fun e he => ?_, fun r' hr' => hkept.idle r' fun hm => hr' ?_⟩
      · rw [List.map_append, List.pairwise_append]
        refine ⟨hkept.roles, List.pairwise_singleton _ _, fun r' hr' r'' hr'' => ?_⟩
        have : r'' = r := by simpa using hr''
        exact this ▸ hroles r' hr'
      · rcases List.mem_append.mp he with he | he
        · exact hkept.safe e he
        · rw [List.mem_singleton.mp he]
          exact ht
      · rw [List.map_append]
        exact List.mem_append_left _ hm
  -- a finished task leaves its role idle
  | @finish r x s pre post =>
      refine ⟨hkept.inv, pairwise_drop hkept.roles,
        fun e he => hkept.safe e (mem_of_mem_around he), fun r' hr' => ?_⟩
      by_cases hr : r' = r
      · subst hr
        exact hkept.safe (r', .done x) (by simp) s (P.rely_refl r' s) hkept.inv
      · refine hkept.idle r' fun hm => hr' ?_
        simp only [List.map_append, List.map_cons, List.mem_append, List.mem_cons, hr,
          false_or] at hm
        simpa using hm
  | @abort r t s pre post =>
      refine ⟨hkept.inv, pairwise_drop hkept.roles,
        fun e he => hkept.safe e (mem_of_mem_around he), fun r' hr' => ?_⟩
      by_cases hr : r' = r
      · subst hr
        exact hS.abort r' s hkept.inv hc
      · refine hkept.idle r' fun hm => hr' ?_
        simp only [List.map_append, List.map_cons, List.mem_append, List.mem_cons, hr,
          false_or] at hm
        simpa using hm
  | env h =>
      obtain ⟨hi', hr⟩ := hS.env _ _ h hkept.inv hc
      exact ⟨hi', hkept.roles, fun e he => (hkept.safe e he).rely (hr e.1),
        fun r hr' => P.idle_stable r (hr r) hi' (hkept.idle r hr')⟩

/-- An action of a task of a kept pool. -/
theorem Step.guaranteed {c c' : Pool σ Q A ε ρ} {r : ρ} (hkept : Kept S C P coexist c)
    (hstep : Step S c (.own r) c') (hc : C (.own r) c.state c'.state) :
    P.inv c'.state ∧ P.guar r c.state c'.state := by
  cases hstep with
  | @own _ t t' s s' pre post h =>
      obtain ⟨hi, hg, -⟩ := (hkept.safe (r, t) (by simp)).step hkept.inv h hc
      exact ⟨hi, hg⟩

/-- A preorder that all guarantees, and all steps of the environment, are in. -/
theorem Step.related (hS : Sound S C P coexist) {T : σ → σ → Prop} (hrefl : ∀ s, T s s)
    (hguar : ∀ r s s', P.guar r s s' → T s s') (henv : ∀ s s', (∀ r, P.rely r s s') → T s s')
    {c c' : Pool σ Q A ε ρ} {l : Label ρ} (hkept : Kept S C P coexist c) (hstep : Step S c l c')
    (hc : C l c.state c'.state) : T c.state c'.state := by
  cases hstep with
  | @own r t t' s s' pre post h =>
      exact hguar r _ _ (Step.guaranteed hkept (.own pre post h) hc).2
  | spawn h => exact hrefl _
  | finish pre post => exact hrefl _
  | abort pre post => exact hrefl _
  | env h => exact henv _ _ (hS.env _ _ h hkept.inv hc).2

/-- **Whole runs.** Every pool a run reaches is kept. -/
theorem Runs.keep (hS : Sound S C P coexist) {c c' : Pool σ Q A ε ρ}
    (hkept : Kept S C P coexist c) (hrun : Runs S C c c') : Kept S C P coexist c' := by
  induction hrun with
  | refl => exact hkept
  | tail _ hstep ih =>
      obtain ⟨l, hstep, hc⟩ := hstep
      exact Step.keep hS ih hstep hc

/-- The steps of a run meet every condition that the guarantees of the roles imply. -/
theorem Runs.guaranteed (hS : Sound S C P coexist) {D : Cond σ ρ}
    (hD : ∀ l s s', (∀ r, l = .own r → P.guar r s s') → C l s s' → D l s s') {c c' : Pool σ Q A ε ρ}
    (hkept : Kept S C P coexist c) (hrun : Runs S C c c') : Runs S D c c' := by
  induction hrun with
  | refl => exact .refl
  | tail hrun hstep ih =>
      obtain ⟨l, hstep, hc⟩ := hstep
      refine .tail ih ⟨l, hstep, hD l _ _ (fun r hr => ?_) hc⟩
      subst hr
      exact (Step.guaranteed (Runs.keep hS hkept hrun) hstep hc).2

/-- Any two states of a run are related by such a preorder. -/
theorem Runs.related (hS : Sound S C P coexist) {T : σ → σ → Prop} (hrefl : ∀ s, T s s)
    (htrans : ∀ {s s' s''}, T s s' → T s' s'' → T s s'') (hguar : ∀ r s s', P.guar r s s' → T s s')
    (henv : ∀ s s', (∀ r, P.rely r s s') → T s s') {c c' : Pool σ Q A ε ρ}
    (hkept : Kept S C P coexist c) (hrun : Runs S C c c') : T c.state c'.state := by
  induction hrun with
  | refl => exact hrefl _
  | tail hrun hstep ih =>
      obtain ⟨l, hstep, hc⟩ := hstep
      exact htrans ih (Step.related hS hrefl hguar henv (Runs.keep hS hkept hrun) hstep hc)

end Keep

/-! ## Runs of tasks that keep to some actions -/

section Within

variable {S : System σ Q A ε ρ} {F : (σ → σ) → Prop} {G : Q → Prop} {I : σ → Prop}

/-- A step of a task keeps what its transactions and calls keep. -/
theorem TaskStep.within (hF : ∀ f, F f → ∀ s, I s → I (f s))
    (hG : ∀ q, G q → ∀ a s, S.answers q a s → I s → I (S.effect q a s)) {t t' : Task σ Q A ε α} {s s' : σ}
    (hstep : TaskStep S t s t' s') (ht : t.Within F G) (hs : I s) : t'.Within F G ∧ I s' := by
  cases hstep with
  | atomic f k => exact ⟨ht.2 s, hF f ht.1 s hs⟩
  | call q k a _ ha => exact ⟨ht.2 a, hG q ht.1 a s ha hs⟩

/-- What all allowed transactions, calls and the environment keep is kept by every run. -/
theorem Runs.within (hF : ∀ f, F f → ∀ s, I s → I (f s))
    (hG : ∀ q, G q → ∀ a s, S.answers q a s → I s → I (S.effect q a s))
    (hspawn : ∀ roles s r t, S.spawns roles s r t → t.Within F G) (henv : ∀ s s', S.env s s' → I s → I s')
    {C : Cond σ ρ} {c c' : Pool σ Q A ε ρ} (hrun : Runs S C c c') (htasks : ∀ e ∈ c.tasks, e.2.Within F G)
    (hs : I c.state) : (∀ e ∈ c'.tasks, e.2.Within F G) ∧ I c'.state := by
  induction hrun with
  | refl => exact ⟨htasks, hs⟩
  | tail _ hstep ih =>
      obtain ⟨htasks, hs⟩ := ih
      obtain ⟨l, hstep, -⟩ := hstep
      cases hstep with
      | @own r t t' s s' pre post h =>
          obtain ⟨ht', hs'⟩ := h.within hF hG (htasks (r, t) (by simp)) hs
          refine ⟨fun e he => ?_, hs'⟩
          rcases mem_around he with rfl | he
          · exact ht'
          · exact htasks e (mem_of_mem_around he)
      | @spawn r t s tasks h =>
          refine ⟨fun e he => ?_, hs⟩
          rcases List.mem_append.mp he with he | he
          · exact htasks e he
          · rw [List.mem_singleton.mp he]
            exact hspawn _ _ _ _ h
      | finish pre post => exact ⟨fun e he => htasks e (mem_of_mem_around he), hs⟩
      | abort pre post => exact ⟨fun e he => htasks e (mem_of_mem_around he), hs⟩
      | env h => exact ⟨htasks, henv _ _ h hs⟩

/-- Every action of a task in such a run is one of them. -/
theorem Step.within (hspawn : ∀ roles s r t, S.spawns roles s r t → t.Within F G) {C : Cond σ ρ}
    {c₀ c c' : Pool σ Q A ε ρ} (htasks : ∀ e ∈ c₀.tasks, e.2.Within F G) (hrun : Runs S C c₀ c) {r : ρ}
    (hstep : Step S c (.own r) c') : (∃ f, F f ∧ c'.state = f c.state) ∨
      ∃ q a, G q ∧ c'.state = S.effect q a c.state := by
  obtain ⟨htasks, -⟩ := Runs.within (I := fun _ => True) (fun _ _ _ _ => trivial) (fun _ _ _ _ _ _ => trivial)
    hspawn (fun _ _ _ _ => trivial) hrun htasks trivial
  cases hstep with
  | @own r t t' s s' pre post h =>
      have ht := htasks (r, t) (by simp)
      cases h with
      | atomic f k => exact .inl ⟨f, ht.1, rfl⟩
      | call q k a _ ha => exact .inr ⟨q, a, ht.1, rfl⟩

end Within

/-! ## Runs of one task after the other -/

section Sequential

variable {S : System σ Q A ε ρ} {C : Cond σ ρ}

theorem Runs.trans {c c' c'' : Pool σ Q A ε ρ} (h : Runs S C c c') (h' : Runs S C c' c'') :
    Runs S C c c'' := Relation.ReflTransGen.trans h h'

/-- Executing a task alone is a run of the pool, when its services may answer so and its steps meet the
condition. -/
theorem runs_task {ans : Nat → (q : Q) → A q} (hS : ∀ n q s, S.answers q (ans n q) s) {r : ρ}
    {t : Task σ Q A ε Unit} {n : Nat} {s : σ} (h : t.Steps S.effect ans (C (.own r)) (n, s))
    (pre post : List (ρ × Task σ Q A ε Unit)) :
    Runs S C ⟨s, pre ++ (r, t) :: post⟩
      ⟨(t.run S.effect ans (n, s)).2.2,
        pre ++ (r, .done (t.run S.effect ans (n, s)).1) :: post⟩ := by
  induction t generalizing n s with
  | done x => exact .refl
  | atomic f k ih => exact .head ⟨_, .own pre post (.atomic f k s), h.1⟩ (ih s h.2)
  | call q k ih =>
      exact .head ⟨_, .own pre post (.call q k (ans n q) s (hS n q s)), h.1⟩ (ih (ans n q) h.2)

/-- Some actions of a task that is alone, when its services may answer so. -/
theorem runs_advance_answers {ans : Nat → (q : Q) → A q} (hS : ∀ n q s, S.answers q (ans n q) s) {r : ρ} (n : Nat)
    {m : Nat} {t : Task σ Q A ε Unit} {s : σ} (h : t.Steps S.effect ans (C (.own r)) (m, s)) :
    Runs S C ⟨s, [(r, t)]⟩
      ⟨(t.advance S.effect ans n (m, s)).2.2, [(r, (t.advance S.effect ans n (m, s)).1)]⟩ := by
  induction n generalizing m t s with
  | zero => exact .refl
  | succ n ih =>
      cases t with
      | done x => exact .refl
      | atomic f k => exact .head ⟨_, .own [] [] (.atomic f k s), h.1⟩ (ih h.2)
      | call q k => exact .head ⟨_, .own [] [] (.call q k (ans m q) s (hS m q s)), h.1⟩ (ih h.2)

theorem runs_advance (hS : ∀ q a s, S.answers q a s) (ans : Nat → (q : Q) → A q) {r : ρ} (n : Nat) {m : Nat}
    {t : Task σ Q A ε Unit} {s : σ} (h : t.Steps S.effect ans (C (.own r)) (m, s)) :
    Runs S C ⟨s, [(r, t)]⟩
      ⟨(t.advance S.effect ans n (m, s)).2.2, [(r, (t.advance S.effect ans n (m, s)).1)]⟩ :=
  runs_advance_answers (fun _ _ _ => hS _ _ _) n h

/-- Some actions of a task among others. -/
theorem runs_advance_among (hS : ∀ q a s, S.answers q a s) (ans : Nat → (q : Q) → A q) {r : ρ} (n : Nat) {m : Nat}
    {t : Task σ Q A ε Unit} {s : σ} (pre post : List (ρ × Task σ Q A ε Unit)) :
    Runs S .any ⟨s, pre ++ (r, t) :: post⟩
      ⟨(t.advance S.effect ans n (m, s)).2.2, pre ++ (r, (t.advance S.effect ans n (m, s)).1) :: post⟩ := by
  induction n generalizing m t s with
  | zero => exact .refl
  | succ n ih =>
      cases t with
      | done x => exact .refl
      | atomic f k => exact .head ⟨_, .own pre post (.atomic f k s), trivial⟩ ih
      | call q k => exact .head ⟨_, .own pre post (.call q k (ans m q) s (hS _ _ _)), trivial⟩ ih

/-- The next action of a task that is alone. -/
theorem step_advance (hS : ∀ q a s, S.answers q a s) (ans : Nat → (q : Q) → A q) {r : ρ} {m : Nat}
    {t : Task σ Q A ε Unit} {s : σ} (h : t.isDone = false) :
    Step S ⟨s, [(r, t)]⟩ (.own r)
      ⟨(t.advance S.effect ans 1 (m, s)).2.2, [(r, (t.advance S.effect ans 1 (m, s)).1)]⟩ := by
  cases t with
  | done x => cases h
  | atomic f k => exact .own [] [] (.atomic f k s)
  | call q k => exact .own [] [] (.call q k (ans m q) s (hS _ _ _))

/-- A task that is stopped after some of its actions. -/
theorem runs_stopped (hS : ∀ q a s, S.answers q a s) (ans : Nat → (q : Q) → A q) {r : ρ}
    {t : Task σ Q A ε Unit} {s : σ} (h : S.spawns [] s r t) (n : Nat) :
    Runs S .any ⟨s, []⟩ ⟨(t.advance S.effect ans n (0, s)).2.2, []⟩ := by
  have hsteps : t.Steps S.effect ans (Cond.any (.own r)) (0, s) :=
    Task.steps_of_forall _ _ (fun _ _ => trivial) t (0, s)
  refine .head ⟨_, .spawn h, trivial⟩ ((runs_advance hS ans n hsteps).tail ?_)
  exact ⟨_, .abort [] [], trivial⟩

/-- Starting a task in an idle pool, executing it and dropping it. -/
theorem runs_spawn_answers {ans : Nat → (q : Q) → A q} (hS : ∀ n q s, S.answers q (ans n q) s) {r : ρ}
    {t : Task σ Q A ε Unit} {s : σ} (h : S.spawns [] s r t)
    (hC : ∀ s, C (.spawn r) s s ∧ C (.finish r) s s)
    (hsteps : t.Steps S.effect ans (C (.own r)) (0, s)) :
    Runs S C ⟨s, []⟩ ⟨(t.run S.effect ans (0, s)).2.2, []⟩ := by
  refine .head ⟨_, .spawn h, (hC s).1⟩ (.tail (runs_task hS hsteps [] []) ?_)
  exact ⟨_, .finish [] [], (hC _).2⟩

/-- The same when the services may answer anything. -/
theorem runs_spawn (hS : ∀ q a s, S.answers q a s) (ans : Nat → (q : Q) → A q) {r : ρ}
    {t : Task σ Q A ε Unit} {s : σ} (h : S.spawns [] s r t)
    (hC : ∀ s, C (.spawn r) s s ∧ C (.finish r) s s)
    (hsteps : t.Steps S.effect ans (C (.own r)) (0, s)) :
    Runs S C ⟨s, []⟩ ⟨(t.run S.effect ans (0, s)).2.2, []⟩ :=
  runs_spawn_answers (fun _ _ _ => hS _ _ _) h hC hsteps

/-- Any task may be executed with answers that the services may give. -/
theorem runs_spawn_any_answers {ans : Nat → (q : Q) → A q} (hS : ∀ n q s, S.answers q (ans n q) s) {r : ρ}
    {t : Task σ Q A ε Unit} {s : σ} (h : S.spawns [] s r t) :
    Runs S .any ⟨s, []⟩ ⟨(t.run S.effect ans (0, s)).2.2, []⟩ :=
  runs_spawn_answers hS h (fun _ => ⟨trivial, trivial⟩) (Task.steps_of_forall _ _ (fun _ _ => trivial) t (0, s))

/-- Any task may be executed when there is no condition. -/
theorem runs_spawn_any (hS : ∀ q a s, S.answers q a s) (ans : Nat → (q : Q) → A q) {r : ρ}
    {t : Task σ Q A ε Unit} {s : σ} (h : S.spawns [] s r t) :
    Runs S .any ⟨s, []⟩ ⟨(t.run S.effect ans (0, s)).2.2, []⟩ :=
  runs_spawn_any_answers (fun _ _ _ => hS _ _ _) h

end Sequential

/-! ## Fleets: several pools side by side -/

section Fleet

variable {ι : Type} [DecidableEq ι] {S : ι → System σ Q A ε ρ}

/-- A condition on the steps of a fleet: the pool that steps, the label, the states of all pools before
and the state of that pool after. -/
abbrev FleetCond (ι σ ρ : Type) := ι → Label ρ → (ι → σ) → σ → Prop

/-- One pool of the fleet makes a step. -/
def FleetStep (S : ι → System σ Q A ε ρ) (C : FleetCond ι σ ρ) (c c' : ι → Pool σ Q A ε ρ) : Prop :=
  ∃ d l p, Step (S d) (c d) l p ∧ C d l (fun i => (c i).state) p.state ∧ c' = Function.update c d p

/-- Interleavings of the pools of a fleet. -/
def FleetRuns (S : ι → System σ Q A ε ρ) (C : FleetCond ι σ ρ) :
    (ι → Pool σ Q A ε ρ) → (ι → Pool σ Q A ε ρ) → Prop := Relation.ReflTransGen (FleetStep S C)

/-- What a run of the fleet is to one of its pools. -/
theorem FleetRuns.runs {C : FleetCond ι σ ρ} {c c' : ι → Pool σ Q A ε ρ} (h : FleetRuns S C c c')
    {D : Cond σ ρ} (d : ι) (hC : ∀ l states s', C d l states s' → D l (states d) s') :
    Runs (S d) D (c d) (c' d) := by
  induction h with
  | refl => exact .refl
  | @tail c₁ c₂ _ hstep ih =>
      obtain ⟨i, l, p, hp, hcond, rfl⟩ := hstep
      by_cases hi : d = i
      · subst hi
        rw [Function.update_self]
        exact .tail ih ⟨l, hp, hC _ _ _ hcond⟩
      · rw [Function.update_of_ne hi]
        exact ih

/-- A property of the states of a fleet that its steps keep holds after every run. -/
theorem FleetRuns.keep {C : FleetCond ι σ ρ} {c c' : ι → Pool σ Q A ε ρ} (h : FleetRuns S C c c')
    {I : (ι → σ) → Prop} (hI : I fun i => (c i).state)
    (hkeep : ∀ d l states s', C d l states s' → I states → I (Function.update states d s')) :
    I fun i => (c' i).state := by
  induction h with
  | refl => exact hI
  | @tail c₁ c₂ _ hstep ih =>
      obtain ⟨d, l, p, -, hcond, rfl⟩ := hstep
      have hnext := hkeep d l _ p.state hcond ih
      convert hnext using 2 with i
      by_cases hi : i = d
      · subst hi
        rw [Function.update_self, Function.update_self]
      · rw [Function.update_of_ne hi, Function.update_of_ne hi]

theorem FleetRuns.trans {C : FleetCond ι σ ρ} {c c' c'' : ι → Pool σ Q A ε ρ}
    (h : FleetRuns S C c c') (h' : FleetRuns S C c' c'') : FleetRuns S C c c'' :=
  Relation.ReflTransGen.trans h h'

/-- A run of one pool, while the others rest. -/
theorem Runs.fleet {C : FleetCond ι σ ρ} {D : Cond σ ρ} {c : ι → Pool σ Q A ε ρ} {d : ι}
    {p p' : Pool σ Q A ε ρ} (h : Runs (S d) D p p')
    (hC : ∀ l s s', D l s s' → C d l (fun i => (Function.update c d ⟨s, []⟩ i).state) s') :
    FleetRuns S C (Function.update c d p) (Function.update c d p') := by
  induction h with
  | refl => exact .refl
  | @tail p₁ p₂ _ hstep ih =>
      obtain ⟨l, hstep, hD⟩ := hstep
      refine .tail ih ⟨d, l, p₂, ?_, ?_, ?_⟩
      · rw [Function.update_self]
        exact hstep
      · convert hC l _ _ hD using 2 with i
        by_cases hi : i = d
        · subst hi
          rw [Function.update_self, Function.update_self]
        · rw [Function.update_of_ne hi, Function.update_of_ne hi]
      · rw [Function.update_idem]

end Fleet

end Interleaving
