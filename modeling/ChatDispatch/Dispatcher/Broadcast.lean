/-!
# Broadcasts

A broadcast keeps the last messages for its subscribers. A subscriber sees the messages sent after
it subscribed, each once and in order; one that reads too late is told how many messages it has
lost and goes on with the oldest that is kept.
-/

namespace ChatDispatch

/-- A broadcast that keeps up to `capacity` messages. -/
structure Broadcast (α : Type) where
  capacity : Nat
  /-- How many messages have been dropped because newer ones came. -/
  dropped : Nat
  /-- The messages that are kept, oldest first. -/
  kept : List α
  capacity_pos : 0 < capacity
  length_kept_le : kept.length ≤ capacity

/-- How many messages of a broadcast a subscriber is past. -/
structure Cursor where
  position : Nat

/-- What a subscriber gets. -/
inductive Received (α : Type) where
  | message (a : α)
  /-- No message is left. -/
  | empty
  /-- This many messages have been lost. -/
  | lagged (count : Nat)

namespace Broadcast

variable {α : Type}

/-- The least power of two, within `fuel` doublings of `power`, that is not below `n`. -/
def powerFrom (n : Nat) : (fuel power : Nat) → Nat
  | 0, power => power
  | fuel + 1, power => if n ≤ power then power else powerFrom n fuel (2 * power)

theorem powerFrom_pos {n fuel power : Nat} (h : 0 < power) : 0 < powerFrom n fuel power := by
  induction fuel generalizing power with
  | zero => exact h
  | succ fuel ih =>
    unfold powerFrom
    split
    · exact h
    · exact ih (by omega)

/-- A broadcast without messages. It keeps at least one message, and their number is rounded up to
a power of two. -/
def ofCapacity (n : Nat) : Broadcast α where
  capacity := powerFrom (max n 1) 64 1
  dropped := 0
  kept := []
  capacity_pos := powerFrom_pos (by decide)
  length_kept_le := Nat.zero_le _

/-- Sends a message. The oldest is dropped when there is no room. -/
def send (b : Broadcast α) (a : α) : Broadcast α :=
  if h : b.kept.length < b.capacity then
    { b with
      kept := b.kept ++ [a]
      length_kept_le := by simp only [List.length_append, List.length_singleton]; omega }
  else
    { b with
      dropped := b.dropped + 1
      kept := b.kept.drop 1 ++ [a]
      length_kept_le := by
        have := b.capacity_pos
        have := b.length_kept_le
        simp only [List.length_append, List.length_drop, List.length_singleton]
        omega }

/-- A subscription to the messages from now on. -/
def subscribe (b : Broadcast α) : Cursor := ⟨b.dropped + b.kept.length⟩

/-- What the subscriber gets next, and where it is then. -/
def receive (b : Broadcast α) (c : Cursor) : Received α × Cursor :=
  if c.position < b.dropped then (.lagged (b.dropped - c.position), ⟨b.dropped⟩)
  else
    match b.kept[c.position - b.dropped]? with
    | some a => (.message a, ⟨c.position + 1⟩)
    | none => (.empty, c)

end Broadcast

end ChatDispatch
