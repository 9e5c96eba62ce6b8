/-
# BreezLiquid.Lib.Broadcast — a bounded broadcast channel, as one of its receivers sees it.

A channel keeps a bounded number of messages. A receiver that falls further behind loses the oldest ones; the
next time it receives, it is told how many it has missed, and goes on with the oldest message that is left.

The channel is not shared state here. A receiver has the messages it has not read and the number of those it has missed,
and `push` is what sending does to it. By `mem_push` and `mem_recv` an unread message stays unread until it is received
or lost, and `Loses` says when the latter happens.
-/
import Mathlib.Data.List.Basic

namespace Broadcast

variable {μ : Type} {capacity : Nat}

/-- What a receiver has not read yet, oldest first, and how many messages it has missed. -/
structure Receiver (μ : Type) (capacity : Nat) where
  unread : List μ := []
  missed : Nat := 0
  bounded : unread.length ≤ capacity := by exact Nat.zero_le _

inductive Received (μ : Type) where
  | empty
  | lagged (missed : Nat)
  | message (m : μ)
  deriving DecidableEq, Repr

namespace Receiver

/-- A message is sent: a full channel gives up its oldest one. -/
def push (m : μ) (r : Receiver μ capacity) : Receiver μ capacity :=
  if h : r.unread.length < capacity then
    { unread := r.unread ++ [m]
      missed := r.missed
      bounded := by
        rw [List.length_append]
        exact h }
  else
    { unread := (r.unread ++ [m]).tail
      missed := r.missed + 1
      bounded := by
        rw [List.length_tail, List.length_append]
        exact r.bounded }

def recv (r : Receiver μ capacity) : Received μ × Receiver μ capacity :=
  if 0 < r.missed then (.lagged r.missed, { r with missed := 0 })
  else
    match h : r.unread with
    | [] => (.empty, r)
    | m :: unread =>
        (.message m, { r with
          unread
          bounded := by
            have hbounded := r.bounded
            rw [h, List.length_cons] at hbounded
            omega })

/-- Nothing is left to receive. -/
def Drained (r : Receiver μ capacity) : Prop := r.missed = 0 ∧ r.unread = []

instance (r : Receiver μ capacity) : Decidable r.Drained :=
  decidable_of_iff (r.missed = 0 ∧ r.unread.isEmpty = true) (by simp [Drained])

/-- A message is lost by the next one that is sent, if it is the oldest in a full channel. -/
def Loses (r : Receiver μ capacity) (m : μ) : Prop := capacity ≤ r.unread.length ∧ r.unread.head? = some m

/-- Sending keeps a message that is not lost, and the channel has the sent one. -/
theorem mem_push {r : Receiver μ capacity} {m x : μ} (hx : x ∈ r.unread) :
    x ∈ (r.push m).unread ∨ r.Loses x := by
  unfold push
  split
  · exact .inl (List.mem_append_left _ hx)
  · rename_i hfull
    show x ∈ (r.unread ++ [m]).tail ∨ _
    cases hunread : r.unread with
    | nil =>
        rw [hunread] at hx
        cases hx
    | cons y unread =>
        rw [hunread] at hx
        rcases List.mem_cons.mp hx with rfl | hx
        · refine .inr ⟨?_, ?_⟩
          · omega
          · rw [hunread]
            rfl
        · exact .inl (List.mem_append_left _ hx)

theorem self_mem_push (hcapacity : 0 < capacity) (m : μ) (r : Receiver μ capacity) : m ∈ (r.push m).unread := by
  unfold push
  split
  · exact List.mem_append_right _ List.mem_cons_self
  · rename_i hfull
    show m ∈ (r.unread ++ [m]).tail
    cases hunread : r.unread with
    | nil =>
        rw [hunread] at hfull
        exact absurd hcapacity hfull
    | cons y unread => exact List.mem_append_right _ List.mem_cons_self

/-- What receiving leaves unread: everything but the received message. -/
theorem mem_recv {r : Receiver μ capacity} {x : μ} (hx : x ∈ r.unread) :
    x ∈ r.recv.2.unread ∨ r.recv.1 = .message x := by
  unfold recv
  split
  · exact .inl hx
  · split
    · rename_i hunread
      rw [hunread] at hx
      cases hx
    · rename_i m unread hunread
      rw [hunread] at hx
      rcases List.mem_cons.mp hx with rfl | hx
      · exact .inr rfl
      · exact .inl hx

end Receiver

end Broadcast
