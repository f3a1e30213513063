import Mathlib.Data.List.Basic
/-! # Broadcasting with a bounded buffer

Messages are sent to whoever listens, and a sender never waits: only the last `capacity` of them are kept.
A listener reads at its own pace.  One that has fallen further behind misses what is gone, is told how much
it was, and goes on with the oldest message that is left.

The channel is seen from one listener: all that was sent since it began to listen, and how far it is. -/

/-- A broadcast channel, as one listener sees it. -/
structure Broadcast (α : Type*) where
  /-- All that was sent since the listener began to listen. -/
  sent : List α
  /-- The senders are gone. -/
  closed : Bool
  /-- Where in `sent` the listener reads next. -/
  next : ℕ
  /-- How many messages it missed. -/
  missed : ℕ

namespace Broadcast

variable {α : Type*}

/-- What a listener finds. -/
inductive Received (α : Type*) where
  | message (a : α)
  | lagged (missed : ℕ)
  /-- Nothing yet: it waits. -/
  | empty
  | closed

/-- The channel of a new listener. -/
def listen : Broadcast α := ⟨[], false, 0, 0⟩

/-- Something is sent; once the senders are gone nothing is. -/
def send (a : α) (c : Broadcast α) : Broadcast α :=
  if c.closed then c else { c with sent := c.sent ++ [a] }

/-- The senders go. -/
def close (c : Broadcast α) : Broadcast α := { c with closed := true }

/-- **The listener reads once.** -/
def recv (capacity : ℕ) (c : Broadcast α) : Received α × Broadcast α :=
  match c.sent[c.next]? with
  | some a =>
    -- How many messages that it has not read are no longer kept.
    let gone := c.sent.length - capacity - c.next
    if gone = 0 then (.message a, { c with next := c.next + 1 })
    else (.lagged gone, { c with next := c.next + gone, missed := c.missed + gone })
  | none => if c.closed then (.closed, c) else (.empty, c)

/-- What the listener has read or missed so far. -/
def past (c : Broadcast α) : List α := c.sent.take c.next

/-- The listener is at most at the end of what was sent. -/
def Valid (c : Broadcast α) : Prop := c.next ≤ c.sent.length

variable {c : Broadcast α}

/-- A receiver that was just made is valid. -/
theorem valid_listen : (listen : Broadcast α).Valid := Nat.le_refl 0

/-- A receiver stays valid when something is sent. -/
theorem Valid.send (valid : c.Valid) (a : α) : (c.send a).Valid := by
  unfold Broadcast.send
  split
  · exact valid
  · rw [Valid, List.length_append]
    exact Nat.le_add_right_of_le valid

/-- Sending leaves the past. -/
@[simp] theorem past_send (valid : c.Valid) (a : α) : (c.send a).past = c.past := by
  unfold Broadcast.send past
  split
  · rfl
  · exact List.take_append_of_le_length valid

/-- Sending leaves what was missed. -/
@[simp] theorem send_missed (c : Broadcast α) (a : α) : (c.send a).missed = c.missed := by
  unfold send
  split <;> rfl

/-- **What a reading does**, in its four cases: a message is the next one behind the past; who lags skips a
part of what was sent; else nothing changes. -/
theorem recv_cases (capacity : ℕ) :
    (∃ a, c.recv capacity = (.message a, { c with next := c.next + 1 }) ∧
      ({ c with next := c.next + 1 } : Broadcast α).Valid ∧
      ({ c with next := c.next + 1 } : Broadcast α).past = c.past ++ [a]) ∨
    (∃ gone, 0 < gone ∧ c.recv capacity = (.lagged gone, { c with next := c.next + gone, missed := c.missed + gone }) ∧
      c.next + gone ≤ c.sent.length) ∨
    (c.recv capacity = (.empty, c)) ∨ (c.recv capacity = (.closed, c)) := by
  unfold recv
  rcases held : c.sent[c.next]? with - | a
  · dsimp only
    by_cases closed : c.closed = true
    · exact .inr (.inr (.inr (if_pos closed)))
    · exact .inr (.inr (.inl (if_neg closed)))
  · obtain ⟨inside, at_⟩ := List.getElem?_eq_some_iff.1 held
    dsimp only
    by_cases none : c.sent.length - capacity - c.next = 0
    · refine .inl ⟨a, if_pos none, inside, ?_⟩
      exact (List.take_add_one (l := c.sent)).trans (by rw [held]; rfl)
    · refine .inr (.inl ⟨_, Nat.pos_of_ne_zero none, if_neg none, ?_⟩)
      omega

end Broadcast
