import AtomicSwap.Numeral
import AtomicSwap.Table
import AtomicSwap.Text

/-!
What is counted of the chains: events by name, failures by operation and code, and the transfers in
escrow. Each count is the value of a double, so from `2 ^ 53` on a counter stands still. A count is
found by the fingerprint of its labels' values, written one behind the other: sixty-four bits, into
which each byte is mixed by an exclusive or and a product. Labels that share it share one count, which
is shown under those that came first.
-/

set_option autoImplicit false
set_option relaxedAutoImplicit false

namespace AtomicSwap.Fingerprint

def basis : UInt64 := 0xcbf29ce484222325

/-- The prime that every step multiplies by. -/
def prime : UInt64 := 0x100000001b3

def absorb (h : UInt64) (b : UInt8) : UInt64 := (h ^^^ b.toUInt64) * prime

def extend (h : UInt64) (bs : List UInt8) : UInt64 := bs.foldl absorb h

def ofBytes (bs : List UInt8) : UInt64 := extend basis bs

theorem extend_append (h : UInt64) (bs cs : List UInt8) :
    extend h (bs ++ cs) = extend (extend h bs) cs :=
  List.foldl_append

end AtomicSwap.Fingerprint

namespace AtomicSwap.Telemetry

inductive Family
  | escrowed | observed | failures | confirmed | locked | refunded
deriving DecidableEq

/-- A count, with the values of its labels when it was first touched. -/
structure Sample where
  labels : List String
  value : Nat
deriving DecidableEq

def fingerprint (labels : List String) : UInt64 :=
  Fingerprint.ofBytes (Text.encode (labels.flatMap String.toList))

/-- The counts that were ever touched, by their families and fingerprints. -/
abbrev Counters := Table (Family × UInt64) Sample

namespace Counters

def sample? (c : Counters) (family : Family) (labels : List String) : Option Sample :=
  c.get? (family, fingerprint labels)

/-- The value that some labels find, zero if no count was touched. -/
def value (c : Counters) (family : Family) (labels : List String) : Nat :=
  ((c.sample? family labels).map Sample.value).getD 0

def setValue (c : Counters) (family : Family) (labels : List String) (value : Nat) : Counters :=
  c.set (family, fingerprint labels)
    ⟨((c.sample? family labels).map Sample.labels).getD labels, value⟩

def increment (c : Counters) (family : Family) (labels : List String) : Counters :=
  c.setValue family labels (Binary64.round (c.value family labels + 1))

def countEvent (c : Counters) (chain name : String) : Counters :=
  let c := c.increment .observed [chain, name]
  if name = "transfer_out" then c.increment .locked [chain, "outbound"]
  else if name = "transfer_in" then c.increment .locked [chain, "inbound"]
  else if name = "transfer_confirmed" then c.increment .confirmed [chain]
  else if name = "transfer_refunded" then c.increment .refunded [chain]
  else c

def countFailure (c : Counters) (chain operation code : String) : Counters :=
  c.increment .failures [chain, operation, code]

def noteEscrow (c : Counters) (chain : String) (count : Nat) : Counters :=
  c.setValue .escrowed [chain] (Binary64.round count)

end Counters

end AtomicSwap.Telemetry
