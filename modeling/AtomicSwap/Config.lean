import AtomicSwap.Check
import AtomicSwap.Digest.Scheme
import AtomicSwap.Seconds
import AtomicSwap.Transfer.Error

/-!
The configuration of a chain.
-/

set_option autoImplicit false
set_option relaxedAutoImplicit false

namespace AtomicSwap

/-- What a chain is deployed with. -/
structure Config where
  chain : ChainId
  scheme : Scheme
  margin : Seconds
  duration : Seconds
  capacity : UInt64
deriving DecidableEq

inductive ConfigFault
  | invalidVariable (name value : String)
  | zeroCapacity
  | zeroDuration
deriving DecidableEq

def ConfigFault.message : ConfigFault → String
  | invalidVariable name value => "Invalid value for " ++ name ++ ": " ++ value
  | zeroCapacity => "event_channel_capacity must be greater than zero"
  | zeroDuration => "default_lock_duration_secs must be greater than zero"

namespace Config

/-- Six hours between the expiries of the halves, a day for the first to expire, and room for 1024
events. -/
def forChain (chain : ChainId) : Config where
  chain := chain
  scheme := .keccak256
  margin := 21600
  duration := 86400
  capacity := 1024

def standard : Config := forChain 1

/-- Refuses a configuration without room for events or without time for a swap. -/
def validate (c : Config) : Except ConfigFault Unit := do
  require (c.capacity ≠ 0) .zeroCapacity
  require (c.duration ≠ 0) .zeroDuration

def timelocks (c : Config) (now : Seconds) : Timelocks := Timelocks.recommend now c.duration c.margin

end Config

end AtomicSwap
