import AtomicSwap.Config
import AtomicSwap.Wire.Event
import AtomicSwap.Wire.Transfer

/-!
Configurations, schemes and secrets as JSON. A secret is that of a swap while only its holder knows
it: it can be revealed, and it is not shown.
-/

set_option autoImplicit false
set_option relaxedAutoImplicit false

namespace AtomicSwap

def Scheme.toJson (s : Scheme) : Json := Json.ofText s.name

def Scheme.decoder : Decoder Scheme :=
  Decoder.choice [("sha256", .sha256), ("sha3_256", .sha3), ("keccak256", .keccak256)]

namespace Config

def toJson (c : Config) : Json := Json.ofMembers [
  ("chain_id", Wire.word c.chain),
  ("hashlock_scheme", c.scheme.toJson),
  ("min_timelock_margin_secs", Wire.word c.margin),
  ("default_lock_duration_secs", Wire.word c.duration),
  ("event_channel_capacity", Wire.word c.capacity)]

def shape : Shape Config :=
  Shape.pure Config.mk
    |>.field "chain_id" Decoder.word
    |>.field "hashlock_scheme" Scheme.decoder
    |>.field "min_timelock_margin_secs" Decoder.word
    |>.field "default_lock_duration_secs" Decoder.word
    |>.field "event_channel_capacity" Decoder.word

def decoder : Decoder Config := shape.decoder .text

end Config

/-- A secret that has not been revealed. -/
structure Secret where
  preimage : Preimage
deriving DecidableEq

namespace Secret

def ofBytes? (bs : List UInt8) : Option Secret := (Bytes.ofList? 32 bs).map Secret.mk

/-- What is shown of any secret. -/
def shown (_ : Secret) : String := "SecretPreimage(***)"

def toJson (s : Secret) : Json := Wire.digits s.preimage

def decoder : Decoder Secret := fun j => Secret.mk <$> Decoder.scalar Wire.readSecret j

end Secret

end AtomicSwap
