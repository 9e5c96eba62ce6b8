/-
# BreezLiquid.Lib.Commit — tasks that have only local work left after their commit point.

A task commits by a call, and what it then owes to the shared state it pays by transactions alone: it waits for nobody
any more. Between the two the state is unsettled. `CommitsLast` says this of a task; `Runs.committed` says of a pool in
which such tasks run one at a time that an unsettled state is one between the commit of a running task and its end, and
`Safe.run_local` what the task comes to when it is left alone then.
-/
import BreezLiquid.Lib.Pool

namespace Interleaving

variable {σ Q : Type} {A : Q → Type} {ε ρ α β : Type}

namespace Task

/-- The task makes no call, and its transactions are in a relation. -/
abbrev Local (R : σ → σ → Prop) (t : Task σ Q A ε α) : Prop :=
  t.Within (fun f => ∀ s, R s (f s)) fun _ => False

/-- Transactions are in the relation, and so are answered calls, but for those after which the task is local. -/
def CommitsLast (R : σ → σ → Prop) (effect : (q : Q) → A q → σ → σ) : Task σ Q A ε α → Prop
  | .done _ => True
  | .atomic f k => (∀ s, R s (f s)) ∧ ∀ s, (k s).CommitsLast R effect
  | .call q k => ∀ a, (∀ s, R s (effect q a s)) ∧ (k a).CommitsLast R effect ∨ (k a).Local R

section CommitsLast

variable {R : σ → σ → Prop} {effect : (q : Q) → A q → σ → σ}

/-- A task that never leaves the relation has nothing to commit. -/
theorem Within.commitsLast {t : Task σ Q A ε α}
    (h : t.Within (fun f => ∀ s, R s (f s)) fun q => ∀ a s, R s (effect q a s)) : t.CommitsLast R effect := by
  induction t with
  | done x => trivial
  | atomic f k ih => exact ⟨h.1, fun s => ih s (h.2 s)⟩
  | call q k ih => exact fun a => .inl ⟨h.1 a, ih a (h.2 a)⟩

theorem Local.commitsLast {t : Task σ Q A ε α} (h : t.Local R) : t.CommitsLast R effect :=
  (Within.mono h (fun _ hf => hf) fun _ hq => hq.elim).commitsLast

/-- Before the part that commits there may be others. -/
theorem CommitsLast.bind_right {t : Task σ Q A ε α} {g : α → Task σ Q A ε β}
    (h : t.Within (fun f => ∀ s, R s (f s)) fun q => ∀ a s, R s (effect q a s))
    (hg : ∀ b, (g b).CommitsLast R effect) : (t.bind g).CommitsLast R effect := by
  induction t with
  | done x =>
      cases x with
      | ok b => exact hg b
      | error e => trivial
  | atomic f k ih => exact ⟨h.1, fun s => ih s (h.2 s)⟩
  | call q k ih => exact fun a => .inl ⟨h.1 a, ih a (h.2 a)⟩

/-- After it there is only local work. -/
theorem CommitsLast.bind_left {t : Task σ Q A ε α} {g : α → Task σ Q A ε β} (h : t.CommitsLast R effect)
    (hg : ∀ b, (g b).Local R) : (t.bind g).CommitsLast R effect := by
  induction t with
  | done x =>
      cases x with
      | ok b => exact (hg b).commitsLast
      | error e => trivial
  | atomic f k ih => exact ⟨h.1, fun s => ih s (h.2 s)⟩
  | call q k ih =>
      intro a
      rcases h a with ⟨hR, hk⟩ | hk
      · exact .inl ⟨hR, ih a hk⟩
      · exact .inr (Within.bind hk hg)

/-- The call that commits. -/
theorem commitsLast_askOk (q : Q) (hq : A q = Except ε α) : (askOk q hq : Task σ Q A ε α).CommitsLast R effect :=
  fun _ => .inr trivial

end CommitsLast

end Task

/-- A safe task that is local comes to its postcondition when it is left alone. -/
theorem Safe.run_local {S : System σ Q A ε ρ} {C : Cond σ ρ} {P : Protocol σ ρ} {r : ρ} {R : σ → σ → Prop}
    (hC : ∀ s s', R s s' → C (.own r) s s') {t : Task σ Q A ε α} {post : Except ε α → σ → Prop} {s : σ}
    (h : Safe S C P r t post s) (hi : P.inv s) (hl : t.Local R) (ans : Nat → (q : Q) → A q) (n : Nat) :
    post (t.run S.effect ans (n, s)).1 (t.run S.effect ans (n, s)).2.2 := by
  induction t generalizing s with
  | done x => exact h s (P.rely_refl r s) hi
  | atomic f k ih =>
      obtain ⟨hi', -, hk⟩ := h s (P.rely_refl r s) hi (hC s (f s) (hl.1 s))
      exact ih s hk hi' (hl.2 s)
  | call q k ih => exact hl.1.elim

/-- What a local task does to the state is in the relation, if that is a preorder. -/
theorem Task.run_local {R : σ → σ → Prop} (hrefl : ∀ s, R s s) (htrans : ∀ {s s' s''}, R s s' → R s' s'' → R s s'')
    {t : Task σ Q A ε α} (h : t.Local R) (effect : (q : Q) → A q → σ → σ) (ans : Nat → (q : Q) → A q) (n : Nat) (s : σ) :
    R s (t.run effect ans (n, s)).2.2 := by
  induction t generalizing s with
  | done x => exact hrefl s
  | atomic f k ih => exact htrans (h.1 s) (ih s (h.2 s) (f s))
  | call q k ih => exact h.1.elim

section Committed

variable {S : System σ Q A ε ρ} {C : Cond σ ρ} {P : Protocol σ ρ} {coexist : ρ → ρ → Prop} {r : ρ}
  {R : σ → σ → Prop} {J : σ → Prop}

/-- One step of a task: it stays settled, or the task has just committed. -/
theorem TaskStep.committed (hR : ∀ s s', R s s' → J s → J s') {t t' : Task σ Q A ε Unit} {s s' : σ}
    (hstep : TaskStep S t s t' s') (ht : t.CommitsLast R S.effect) (hs : J s ∨ t.Local R) :
    t'.CommitsLast R S.effect ∧ (J s' ∨ t'.Local R) := by
  cases hstep with
  | atomic f k => exact ⟨ht.2 s, hs.imp (hR s (f s) (ht.1 s)) fun hl => hl.2 s⟩
  | call q k a _ ha =>
      rcases ht a with ⟨hsame, hk⟩ | hk
      · rcases hs with hs | hl
        · exact ⟨hk, .inl (hR s _ (hsame s) hs)⟩
        · exact hl.1.elim
      · exact ⟨hk.commitsLast, .inr hk⟩

/-- **Commit points.** Tasks of a role that run one at a time, commit last and leave the state settled: in every pool that a
run reaches, the state is settled or the running task of the role has committed. -/
theorem Runs.committed (hS : Sound S C P coexist) (hone : ¬ coexist r r) (hR : ∀ s s', R s s' → J s → J s')
    (hrely : ∀ s s', P.rely r s s' → J s → J s') (hidle : ∀ s, P.idle r s → J s)
    (hspawn : ∀ roles s t, S.spawns roles s r t → t.CommitsLast R S.effect) {s : σ} {c : Pool σ Q A ε ρ}
    (hkept : Kept S C P coexist ⟨s, []⟩) (hrun : Runs S C ⟨s, []⟩ c) :
    ∀ t, (r, t) ∈ c.tasks → t.CommitsLast R S.effect ∧ (J c.state ∨ t.Local R) := by
  induction hrun with
  | refl => exact fun t ht => absurd ht List.not_mem_nil
  | @tail c₁ c₂ hrun hstep ih =>
      obtain ⟨l, hstep, hc⟩ := hstep
      have hkept₁ : Kept S C P coexist c₁ := Runs.keep hS hkept hrun
      cases hstep with
      | @own r' t₁ t₁' s₁ s₁' pre post h =>
          obtain ⟨-, hguar⟩ := Step.guaranteed hkept₁ (.own pre post h) hc
          intro t ht
          rcases mem_around ht with heq | ht
          · cases heq
            exact h.committed hR (ih t₁ (by simp)).1 (ih t₁ (by simp)).2
          · -- another task of the role may not stand next to one of the role
            have hco : coexist r' r := coexist_of_pairwise hkept₁.roles ht
            have hne : r' ≠ r := by
              rintro rfl
              exact hone hco
            obtain ⟨hlast, hor⟩ := ih t (mem_of_mem_around ht)
            exact ⟨hlast, hor.imp_left (hrely _ _ (hS.compat r' r (.inl hne) _ _ hguar))⟩
      | @spawn r' t₁ s₁ tasks h =>
          intro t ht
          rcases List.mem_append.mp ht with ht | ht
          · exact ih t ht
          · cases List.mem_singleton.mp ht
            obtain ⟨hroles, -⟩ := hS.spawn _ _ _ _ h hkept₁.inv hc (hkept₁.idle r)
            have hfree : r ∉ tasks.map Prod.fst := fun hmem => hone (hroles r hmem).1
            exact ⟨hspawn _ _ _ h, .inl (hidle _ (hkept₁.idle r hfree))⟩
      | finish pre post => exact fun t ht => ih t (mem_of_mem_around ht)
      | abort pre post => exact fun t ht => ih t (mem_of_mem_around ht)
      | env h =>
          intro t ht
          obtain ⟨hlast, hor⟩ := ih t ht
          exact ⟨hlast, hor.imp_left (hrely _ _ ((hS.env _ _ h hkept₁.inv hc).2 r))⟩

end Committed

end Interleaving
