/-
This file is a library for buffered channels. A channel has a capacity, which its
buffer never exceeds, and may be closed. Closing a closed channel and sending on
one panic; receiving from one first drains its buffer.
-/

import Mathlib.Data.List.Basic

namespace SharedGo

/-- What makes an operation on a channel panic. -/
inductive ChannelPanic where
  | closeOfNilChannel
  | closeOfClosedChannel
  | sendOnClosedChannel
  deriving DecidableEq, Repr

/-- A buffered channel. -/
structure Channel (Element : Type) where
  capacity : Nat
  buffer : List Element
  closed : Bool
  bounded : buffer.length ≤ capacity

namespace Channel

variable {Element : Type}

/-- A new channel. -/
def make (capacity : Nat) : Channel Element := ⟨capacity, [], false, Nat.zero_le capacity⟩

/-- Whether a send finds room in the buffer. -/
def hasRoom (channel : Channel Element) : Bool := channel.buffer.length < channel.capacity

def close (channel : Channel Element) : Except ChannelPanic (Channel Element) :=
  if channel.closed then .error .closeOfClosedChannel else .ok { channel with closed := true }

/-- A send that does not block: without room in the buffer the element is dropped. -/
def trySend (channel : Channel Element) (element : Element) :
    Except ChannelPanic (Channel Element) :=
  if channel.closed then .error .sendOnClosedChannel
  else if room : channel.buffer.length < channel.capacity then
    .ok { channel with
      buffer := channel.buffer ++ [element]
      bounded := by
        rw [List.length_append]
        exact room }
  else .ok channel

/-- A receive: nothing where it blocks, and no element from a closed channel that is drained. -/
def receive (channel : Channel Element) : Option (Option Element × Channel Element) :=
  match split : channel.buffer with
  | element :: rest =>
    some (some element,
      { channel with
        buffer := rest
        bounded := by
          have bounded := channel.bounded
          rw [split] at bounded
          exact Nat.le_of_succ_le bounded })
  | [] => if channel.closed then some (none, channel) else none

/-! ### What the operations do to an open channel -/

theorem close_of_open (channel : Channel Element) (isOpen : channel.closed = false) :
    channel.close = .ok { channel with closed := true } := by
  rw [close, isOpen]
  rfl

/-- A send to an open channel does not panic and leaves it open; its element is at the end of the
buffer if there was room. -/
theorem trySend_of_open (channel : Channel Element) (element : Element)
    (isOpen : channel.closed = false) :
    ∃ next, channel.trySend element = .ok next ∧ next.closed = false ∧
      next.capacity = channel.capacity ∧
      next.buffer = if channel.hasRoom then channel.buffer ++ [element] else channel.buffer := by
  have unclosed : ¬channel.closed = true := by simp [isOpen]
  by_cases room : channel.buffer.length < channel.capacity
  · rw [trySend, if_neg unclosed, dif_pos room]
    refine ⟨_, rfl, isOpen, rfl, ?_⟩
    rw [hasRoom, decide_eq_true room]
    rfl
  · rw [trySend, if_neg unclosed, dif_neg room]
    refine ⟨channel, rfl, isOpen, rfl, ?_⟩
    rw [hasRoom, decide_eq_false room]
    rfl

/-- A receive leaves the channel open or closed, and takes its element from the front. -/
theorem receive_cases (channel next : Channel Element) (element : Option Element)
    (received : channel.receive = some (element, next)) :
    next.closed = channel.closed ∧ next.capacity = channel.capacity ∧
      channel.buffer = element.toList ++ next.buffer := by
  unfold receive at received
  split at received
  · rename_i first rest split
    obtain ⟨rfl, rfl⟩ := Prod.mk.inj (Option.some_inj.mp received)
    exact ⟨rfl, rfl, split⟩
  · rename_i split
    split at received
    · obtain ⟨rfl, rfl⟩ := Prod.mk.inj (Option.some_inj.mp received)
      exact ⟨rfl, rfl, rfl⟩
    · cases received

/-- Only from a closed channel that is drained comes no element. -/
theorem receive_none (channel next : Channel Element)
    (received : channel.receive = some (none, next)) :
    next = channel ∧ channel.closed = true ∧ channel.buffer = [] := by
  unfold receive at received
  split at received
  · cases received
  · rename_i split
    split at received
    · rename_i closed
      exact ⟨(Prod.mk.inj (Option.some_inj.mp received)).2.symm, closed, split⟩
    · cases received

theorem receive_of_closed (channel : Channel Element) (drained : channel.buffer = [])
    (closed : channel.closed = true) : channel.receive = some (none, channel) := by
  unfold receive
  split
  · rename_i split
    rw [drained] at split
    cases split
  · rw [if_pos closed]

/-- A receive blocks on an open channel with an empty buffer. -/
theorem receive_eq_none_iff (channel : Channel Element) :
    channel.receive = none ↔ channel.buffer = [] ∧ channel.closed = false := by
  unfold receive
  split
  · rename_i element rest split
    simp [split]
  · rename_i split
    simp [split]

end Channel

end SharedGo
