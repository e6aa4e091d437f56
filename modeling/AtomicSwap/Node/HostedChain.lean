import AtomicSwap.Chain
import AtomicSwap.Telemetry.Counters

/-!
A chain that a node hosts: it has a label, under which it is counted, and an observer, who follows
its announcements.
-/

set_option autoImplicit false
set_option relaxedAutoImplicit false

namespace AtomicSwap.Node

open Telemetry (Counters)

structure HostedChain where
  label : String
  chain : Chain

namespace HostedChain

/-- The name by which the observer subscribes. -/
def observer : String := "observer"

def deploy (label : String) (config : AtomicSwap.Config) (custodian : Address) : HostedChain :=
  let c := Chain.deploy config custodian
  ⟨label, { c with feed := c.feed.subscribe observer }⟩

/-- The counts behind some events that were observed. -/
def countEvents (label : String) (counters : Counters) (events : List Event) : Counters :=
  events.foldl (fun counters e => counters.countEvent label e.name) counters

/-- What the observer has not read yet and can still read. Each event is counted. -/
def drain (h : HostedChain) (counters : Counters) : List Event × HostedChain × Counters :=
  let (events, feed) := h.chain.feed.drain observer
  (events, { h with chain := { h.chain with feed := feed } },
    countEvents h.label counters events)

/-- The counts behind a call to the chain: a failure is counted by its code, and the transfers in
escrow are noted either way. -/
def tally {α : Type} (h : HostedChain) (operation : String) (result : Except TransferError α)
    (counters : Counters) : Counters :=
  let counters := match result with
    | .ok _ => counters
    | .error e => counters.countFailure h.label operation e.code
  counters.noteEscrow h.label (h.chain.registry.count .locked)

def call {α : Type} (h : HostedChain) (operation : String) (f : Chain → Outcome α)
    (counters : Counters) : Except TransferError α × HostedChain × Counters :=
  let (result, chain) := f h.chain
  let h := { h with chain := chain }
  (result, h, h.tally operation result counters)

def lockOperation : Leg → String
  | .outbound => "lock_outbound"
  | .inbound => "lock_inbound"

end HostedChain

end AtomicSwap.Node
