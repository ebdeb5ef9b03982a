import PanelScript.Capacity
import PanelScript.Event.Basic

/-!
# The event bus

Events are published to all observers that have subscribed. The bus keeps the most recent events, as
many as its capacity rounded up to a power of two; an observer that falls further behind is told how
many it missed.

* `Bus` is the bus with its observers, each a place in the sequence of published events;
* `Bus.publish`, `Bus.publishAll`, `Bus.subscribe`, `Bus.unsubscribe`, `Bus.close` change it;
* `Bus.receive` hands the next event to an observer.
-/

namespace PanelScript

-- Powers are those of the core library.
attribute [local instance (2000)] instPowNat

/-- The least power of two that is at least `n`. -/
def nextPowerOfTwo (n : Nat) : Nat := if n ≤ 1 then 1 else 2 ^ (Nat.log2 (n - 1) + 1)

/-- The bus: every event that was published while someone listened, and for each observer the
number of those it is past, or that it has gone. -/
structure Bus (α : Type) where
  /-- How many events are kept. -/
  capacity : Nat
  /-- The events in the order of their publication. -/
  published : List α
  /-- The next event of each observer. -/
  cursors : List (Option Nat)
  isOpen : Bool
  deriving DecidableEq

/-- What an observer gets. -/
inductive Receipt (α : Type) where
  | event (e : α)
  | empty
  | closed
  | lagged (missed : Nat)
  | unsubscribed
  deriving DecidableEq

namespace Bus

variable {α : Type}

/-- The memory that one event takes, in bytes. -/
def eventBytes : Nat := 128

/-- A bus that keeps as many events as `capacity` rounded up to a power of two; a capacity of zero
is refused, and one that is too large. -/
def ofCapacity? (capacity : Nat) : Except CapacityFault (Bus α) :=
  if capacity = 0 then .error .noEvents
  else if maxBytes < capacity then .error .tooManyEvents
  else if maxBytes < nextPowerOfTwo capacity * eventBytes then .error .tooLarge
  else .ok ⟨nextPowerOfTwo capacity, [], [], true⟩

/-- How many events are kept unless said otherwise. -/
def defaultCapacity : Nat := 1024

/-- The number of observers. -/
def observers (b : Bus α) : Nat := b.cursors.countP Option.isSome

/-- Publish an event. Without an observer it is dropped. -/
def publish (b : Bus α) (e : α) : Bus α :=
  if b.observers = 0 then b else { b with published := b.published ++ [e] }

/-- Publish several events, one after the other. -/
def publishAll (b : Bus α) (es : List α) : Bus α :=
  if b.observers = 0 then b else { b with published := b.published ++ es }

/-- Add an observer of the events from here on. -/
def subscribe (b : Bus α) : Bus α :=
  { b with cursors := b.cursors ++ [some b.published.length] }

/-- Let an observer go. -/
def unsubscribe (b : Bus α) (observer : Nat) : Bus α :=
  { b with cursors := b.cursors.set observer none }

/-- Drop the bus: nothing more is published. -/
def close (b : Bus α) : Bus α := { b with isOpen := false }

/-- The number of the oldest event that is kept. -/
def oldest (b : Bus α) : Nat := b.published.length - b.capacity

/-- Hand an observer its next event. One that is behind the oldest event kept is told how many it
missed, and goes on there. -/
def receive (b : Bus α) (observer : Nat) : Receipt α × Bus α :=
  match b.cursors[observer]? with
  | some (some cursor) =>
    let moved (cursor : Nat) : Bus α :=
      { b with cursors := b.cursors.set observer (some cursor) }
    if cursor < b.oldest then (.lagged (b.oldest - cursor), moved b.oldest)
    else
      match b.published[cursor]? with
      | some e => (.event e, moved (cursor + 1))
      | none => (if b.isOpen then .empty else .closed, b)
  | _ => (.unsubscribed, b)

@[simp] theorem published_subscribe (b : Bus α) : b.subscribe.published = b.published := rfl

@[simp] theorem published_close (b : Bus α) : b.close.published = b.published := rfl

theorem publishAll_eq_foldl (b : Bus α) (es : List α) : b.publishAll es = es.foldl publish b := by
  induction es generalizing b with
  | nil => simp [publishAll]
  | cons e es ih =>
    rw [List.foldl_cons, ← ih]
    by_cases h : b.observers = 0
    · simp [publishAll, publish, h]
    · have : ¬ ({ b with published := b.published ++ [e] } : Bus α).observers = 0 := h
      simp [publishAll, publish, h, this]

@[simp] theorem published_receive (b : Bus α) (observer : Nat) :
    (b.receive observer).2.published = b.published := by
  unfold receive
  split
  · dsimp only
    split
    · rfl
    · split <;> rfl
  · rfl

end Bus

end PanelScript
