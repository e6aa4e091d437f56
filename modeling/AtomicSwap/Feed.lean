import AtomicSwap.Event
import AtomicSwap.Table

/-!
The announcements of a chain and those who follow them. Everything published is kept in order; a
subscriber has a cursor into it and reads on from there. Only the newest events can still be read,
as many as the ring holds: a subscriber further behind is told how many it lost, once.
-/

set_option autoImplicit false
set_option relaxedAutoImplicit false

namespace AtomicSwap

/-- The stream of a chain, the number of events that can still be read, and the cursor of each
subscriber. -/
structure Feed where
  ring : Nat
  stream : List Event
  cursors : Table String Nat

inductive Delivery
  | empty
  | event (e : Event)
  | lagged (lost : Nat)
deriving DecidableEq

namespace Feed

/-- The least power of two that is at least `n`. -/
def roundUp (n : Nat) : Nat := if n ≤ 1 then 1 else 2 ^ ((n - 1).log2 + 1)

/-- A feed with room for at least `capacity` events, and for one at least. -/
def ofCapacity (capacity : Nat) : Feed := ⟨roundUp capacity, [], Table.empty⟩

def published (f : Feed) : Nat := f.stream.length

def subscriberCount (f : Feed) : Nat := f.cursors.size

/-- Publishes an event: how many subscribers it reaches, and the feed behind it. -/
def publish (f : Feed) (e : Event) : Nat × Feed :=
  (f.subscriberCount, { f with stream := f.stream ++ [e] })

/-- The feed with a subscriber that reads what is published from now on. A subscriber of the same
name starts anew. -/
def subscribe (f : Feed) (name : String) : Feed :=
  { f with cursors := f.cursors.set name f.stream.length }

def unsubscribe (f : Feed) (name : String) : Feed := { f with cursors := f.cursors.erase name }

def pending (f : Feed) (name : String) : List Event :=
  match f.cursors.get? name with
  | some cursor => f.stream.drop cursor
  | none => []

def moveTo (f : Feed) (name : String) (cursor : Nat) : Feed :=
  { f with cursors := f.cursors.set name cursor }

/-- Reads the next event of a subscriber. One that is too far behind moves to the oldest event that
can still be read. -/
def receive (f : Feed) (name : String) : Delivery × Feed :=
  match f.cursors.get? name with
  | none => (.empty, f)
  | some cursor =>
    let behind := f.stream.length - cursor
    if f.ring < behind then (.lagged (behind - f.ring), f.moveTo name (f.stream.length - f.ring))
    else
      match f.stream[cursor]? with
      | none => (.empty, f)
      | some e => (.event e, f.moveTo name (cursor + 1))

/-- Reads until nothing is left, `steps` times at most. -/
def receiveAll (name : String) : (steps : Nat) → Feed → List Event × Feed
  | 0, f => ([], f)
  | steps + 1, f =>
    match f.receive name with
    | (.empty, f) => ([], f)
    | (.lagged _, f) => receiveAll name steps f
    | (.event e, f) =>
      let (events, f) := receiveAll name steps f
      (e :: events, f)

/-- Reads all that a subscriber can still read. Each reading takes it nearer to the end, so there
are no more of them than events it has not read. -/
def drain (f : Feed) (name : String) : List Event × Feed :=
  receiveAll name (f.pending name).length f

end Feed

end AtomicSwap
