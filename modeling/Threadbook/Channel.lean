import Mathlib.Data.List.Basic

/-!
# Bounded channels

A channel between two threads holds a bounded number of messages. Sending waits while the channel
is full, receiving waits while it is empty, and each end notices when the other is gone: what is
sent to a receiver that is gone is lost, while what was sent before the sender went is still
received.
-/

namespace Threadbook

universe u

/-- A channel, with the messages that are sent and not received, the oldest first. -/
structure Channel (M : Type u) where
  buffer : List M
  sender : Bool
  receiver : Bool

namespace Channel

variable {M : Type u} {capacity : ℕ} {m : M} {c c' : Channel M}

/-- A channel whose two ends are in place. -/
def opened : Channel M := ⟨[], true, true⟩

/-- Send a message, and learn whether the receiver was there. `none` while the channel is full. -/
def send (capacity : ℕ) (m : M) (c : Channel M) : Option (Bool × Channel M) :=
  if c.receiver then
    if c.buffer.length < capacity then some (true, { c with buffer := c.buffer ++ [m] }) else none
  else some (false, c)

/-- Receive a message, or learn that there will be none. `none` while the channel is empty. -/
def recv (c : Channel M) : Option (Option M × Channel M) :=
  match c.buffer with
  | m :: rest => some (some m, { c with buffer := rest })
  | [] => if c.sender then none else some (none, c)

def dropSender (c : Channel M) : Channel M := { c with sender := false }

def dropReceiver (c : Channel M) : Channel M := { c with buffer := [], receiver := false }

@[simp] theorem opened_buffer : (opened : Channel M).buffer = [] := rfl
@[simp] theorem opened_sender : (opened : Channel M).sender = true := rfl
@[simp] theorem opened_receiver : (opened : Channel M).receiver = true := rfl
@[simp] theorem dropSender_buffer : c.dropSender.buffer = c.buffer := rfl
@[simp] theorem dropSender_sender : c.dropSender.sender = false := rfl
@[simp] theorem dropSender_receiver : c.dropSender.receiver = c.receiver := rfl
@[simp] theorem dropReceiver_buffer : c.dropReceiver.buffer = [] := rfl
@[simp] theorem dropReceiver_sender : c.dropReceiver.sender = c.sender := rfl
@[simp] theorem dropReceiver_receiver : c.dropReceiver.receiver = false := rfl

/-- **Sending** to a receiver that is there delivers the message, after those before it. -/
theorem send_eq_some (hreceiver : c.receiver = true) {delivered : Bool}
    (h : c.send capacity m = some (delivered, c')) :
    delivered = true ∧ c.buffer.length < capacity ∧ c' = { c with buffer := c.buffer ++ [m] } := by
  unfold send at h
  rw [if_pos hreceiver] at h
  split at h
  · rename_i hroom
    obtain ⟨rfl, rfl⟩ := Prod.mk.inj (Option.some.inj h)
    exact ⟨rfl, hroom, rfl⟩
  · cases h

theorem send_dropped (hreceiver : c.receiver = false) :
    c.send capacity m = some (false, c) := by
  simp [send, hreceiver]

/-- **Receiving** takes the oldest message, or finds the sender gone and nothing left. -/
theorem recv_eq_some {received : Option M} (h : c.recv = some (received, c')) :
    (∃ m, received = some m ∧ c.buffer = m :: c'.buffer ∧ c'.sender = c.sender ∧
      c'.receiver = c.receiver) ∨
    (received = none ∧ c.buffer = [] ∧ c.sender = false ∧ c' = c) := by
  unfold recv at h
  split at h
  · rename_i m rest hbuffer
    obtain ⟨rfl, rfl⟩ := Prod.mk.inj (Option.some.inj h)
    exact Or.inl ⟨m, rfl, hbuffer, rfl, rfl⟩
  · rename_i hbuffer
    split at h
    · cases h
    · rename_i hsender
      obtain ⟨rfl, rfl⟩ := Prod.mk.inj (Option.some.inj h)
      exact Or.inr ⟨rfl, hbuffer, Bool.eq_false_iff.mpr hsender, rfl⟩

end Channel

end Threadbook
