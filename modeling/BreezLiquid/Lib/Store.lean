/-
# BreezLiquid.Lib.Store — clients of a store that forgets nothing.

Every client is a pool of its own. Some calls send a message to the store: while the call is not answered the store
may take the message, once or several times or not at all, and whatever the answer will be. Some answers carry
messages. These are among the ones the store has taken at any time, so old messages may come again, in any order.

What all clients keep while they are told good messages, and what makes them send good messages only, holds in every
run (`NetRuns.kept`).
-/
import BreezLiquid.Lib.Pool

namespace Interleaving

variable {ι σ Q M : Type} {A : Q → Type} {ε ρ : Type}

/-- Which messages go to the store with a call, and come from it with an answer. -/
structure Mail (Q : Type) (A : Q → Type) (M : Type) where
  sends : Q → Option M
  carries : (q : Q) → A q → List M

/-- A client that is told only some messages. -/
def System.receiving (S : System σ Q A ε ρ) (mail : Mail Q A M) (p : M → Prop) : System σ Q A ε ρ where
  answers q a s := S.answers q a s ∧ ∀ m ∈ mail.carries q a, p m
  effect := S.effect
  spawns := S.spawns
  env := S.env

/-- The clients, and the messages that the store has taken. -/
structure Net (ι σ Q : Type) (A : Q → Type) (ε ρ M : Type) where
  clients : ι → Pool σ Q A ε ρ
  taken : List M := []

section Steps

variable [DecidableEq ι] (S : ι → System σ Q A ε ρ) (mail : Mail Q A M) (C : ι → Cond σ ρ)

inductive NetStep : Net ι σ Q A ε ρ M → Net ι σ Q A ε ρ M → Prop where
  | client {net : Net ι σ Q A ε ρ M} (d : ι) {l : Label ρ} {p : Pool σ Q A ε ρ}
      (h : Step ((S d).receiving mail (· ∈ net.taken)) (net.clients d) l p)
      (hc : C d l (net.clients d).state p.state) :
      NetStep net { net with clients := Function.update net.clients d p }
  | take {net : Net ι σ Q A ε ρ M} (d : ι) {r : ρ} {q : Q} {k : A q → Task σ Q A ε Unit} {m : M}
      (h : (r, .call q k) ∈ (net.clients d).tasks) (hm : mail.sends q = some m) :
      NetStep net { net with taken := m :: net.taken }

/-- Interleavings of the clients and the store. -/
def NetRuns : Net ι σ Q A ε ρ M → Net ι σ Q A ε ρ M → Prop := Relation.ReflTransGen (NetStep S mail C)

end Steps

section Receiving

variable {S : System σ Q A ε ρ} {mail : Mail Q A M} {p p' : M → Prop}

/-- More messages, more steps. -/
theorem Step.receiving_mono (hp : ∀ m, p m → p' m) {c c' : Pool σ Q A ε ρ} {l : Label ρ}
    (h : Step (S.receiving mail p) c l c') : Step (S.receiving mail p') c l c' := by
  cases h with
  | own pre post h =>
      refine .own pre post ?_
      cases h with
      | atomic f k => exact .atomic f k _
      | call q k a _ ha => exact .call q k a _ ⟨ha.1, fun m hm => hp m (ha.2 m hm)⟩
  | spawn h => exact .spawn h
  | finish pre post => exact .finish pre post
  | abort pre post => exact .abort pre post
  | env h => exact .env h

end Receiving

/-! ## Good messages -/

section Kept

variable [DecidableEq ι] {S : ι → System σ Q A ε ρ} {mail : Mail Q A M} {C : ι → Cond σ ρ} {P : ι → Protocol σ ρ}
  {coexist : ρ → ρ → Prop} {good : M → Prop}

/-- Every client keeps its protocol, and what was taken is good. -/
structure Net.Kept (S : ι → System σ Q A ε ρ) (mail : Mail Q A M) (C : ι → Cond σ ρ) (P : ι → Protocol σ ρ)
    (coexist : ρ → ρ → Prop) (good : M → Prop) (net : Net ι σ Q A ε ρ M) : Prop where
  clients : ∀ d, Interleaving.Kept ((S d).receiving mail good) (C d) (P d) coexist (net.clients d)
  taken : ∀ m ∈ net.taken, good m

/-- A message is good if the client may be answered: the answer must not break the invariant. -/
def SendsGood (S : System σ Q A ε ρ) (mail : Mail Q A M) (C : Cond σ ρ) (P : Protocol σ ρ) (good : M → Prop) : Prop :=
  ∀ r s q m, mail.sends q = some m → P.inv s →
    (∀ a, S.answers q a s → (∀ m' ∈ mail.carries q a, good m') → C (.own r) s (S.effect q a s) →
      P.inv (S.effect q a s)) → good m

theorem NetStep.kept (hS : ∀ d, Sound ((S d).receiving mail good) (C d) (P d) coexist)
    (hsends : ∀ d, SendsGood (S d) mail (C d) (P d) good) {net net' : Net ι σ Q A ε ρ M}
    (hkept : net.Kept S mail C P coexist good) (hstep : NetStep S mail C net net') :
    net'.Kept S mail C P coexist good := by
  cases hstep with
  | @client d l p h hc =>
      refine ⟨fun i => ?_, hkept.taken⟩
      show Interleaving.Kept _ _ _ _ (Function.update net.clients d p i)
      by_cases hi : i = d
      · subst hi
        rw [Function.update_self]
        exact Step.keep (hS i) (hkept.clients i) (h.receiving_mono hkept.taken) hc
      · rw [Function.update_of_ne hi]
        exact hkept.clients i
  | @take d r q k m h hm =>
      refine ⟨hkept.clients, fun m' hm' => ?_⟩
      rcases List.mem_cons.mp hm' with rfl | hm'
      · -- The call is safe, so whatever it is answered the invariant survives.
        have hi := (hkept.clients d).inv
        have hsafe := (hkept.clients d).safe _ h
        refine hsends d r _ q m' hm hi fun a ha hgood hc => ?_
        exact (hsafe _ ((P d).rely_refl r _) hi a ⟨ha, hgood⟩ hc).1
      · exact hkept.taken m' hm'

/-- **Whole runs.** Clients that keep their protocol as long as they are told good messages, and that send good
messages then, keep it together. -/
theorem NetRuns.kept (hS : ∀ d, Sound ((S d).receiving mail good) (C d) (P d) coexist)
    (hsends : ∀ d, SendsGood (S d) mail (C d) (P d) good) {net net' : Net ι σ Q A ε ρ M}
    (hkept : net.Kept S mail C P coexist good) (hrun : NetRuns S mail C net net') :
    net'.Kept S mail C P coexist good := by
  induction hrun with
  | refl => exact hkept
  | tail _ hstep ih => exact NetStep.kept hS hsends ih hstep

end Kept

/-! ## Runs of one client -/

section Client

variable [DecidableEq ι] {S : ι → System σ Q A ε ρ} {mail : Mail Q A M} {C : ι → Cond σ ρ}

/-- A run of one client, while the others rest and the store takes nothing. -/
theorem Runs.net {d : ι} {clients : ι → Pool σ Q A ε ρ} {taken : List M} {p p' : Pool σ Q A ε ρ}
    (h : Runs ((S d).receiving mail (· ∈ taken)) (C d) p p') :
    NetRuns S mail C ⟨Function.update clients d p, taken⟩ ⟨Function.update clients d p', taken⟩ := by
  induction h with
  | refl => exact .refl
  | @tail p₁ p₂ _ hstep ih =>
      obtain ⟨l, hstep, hc⟩ := hstep
      refine .tail ih ?_
      have hclient : Function.update clients d p₂ = Function.update (Function.update clients d p₁) d p₂ :=
        (Function.update_idem ..).symm
      rw [hclient]
      refine .client (l := l) d ?_ ?_
      · show Step _ (Function.update clients d p₁ d) l p₂
        rw [Function.update_self]
        exact hstep
      · show C d l (Function.update clients d p₁ d).state p₂.state
        rw [Function.update_self]
        exact hc

end Client

end Interleaving
