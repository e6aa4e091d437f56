import AtomicSwap.Config
import AtomicSwap.Table
import AtomicSwap.Text

/-!
The variables that a process is started with, and the configuration of a chain that they hold. A
variable that is not a text counts as one that is not set.
-/

set_option autoImplicit false
set_option relaxedAutoImplicit false

namespace AtomicSwap

/-- The variables that are set, with their bytes. -/
abbrev Environment := Table String (List UInt8)

namespace Environment

def text? (env : Environment) (name : String) : Option String :=
  (env.get? name).bind Text.decode?

/-- The number of sixty-four bits that a text writes: digits, behind a plus or not. -/
def readWord? (s : String) : Option UInt64 :=
  let digits := match s.toList with
    | '+' :: cs => cs
    | cs => cs
  if digits.isEmpty then none
  else (Decimal.value? digits).bind fun n => if n < 2 ^ 64 then some (UInt64.ofNat n) else none

def readScheme? (s : String) : Option Scheme := (Scheme.ofText s).toOption

/-- The value of a variable, read without the blanks around it, or `standard` if it is not set. -/
def read {α : Type} (env : Environment) (name : String) (parse? : String → Option α) (standard : α) :
    Except ConfigFault α :=
  match env.text? name with
  | none => .ok standard
  | some raw =>
    match parse? (Text.trim raw) with
    | some a => .ok a
    | none => .error (.invalidVariable name raw)

def config (env : Environment) : Except ConfigFault Config := do
  let chain ← env.read "OBRIDGE_CHAIN_ID" readWord? Config.standard.chain
  let scheme ← env.read "OBRIDGE_HASHLOCK_SCHEME" readScheme? Config.standard.scheme
  let margin ← env.read "OBRIDGE_MIN_TIMELOCK_MARGIN_SECS" readWord? Config.standard.margin
  let duration ← env.read "OBRIDGE_LOCK_DURATION_SECS" readWord? Config.standard.duration
  let capacity ← env.read "OBRIDGE_EVENT_CAPACITY" readWord? Config.standard.capacity
  let config : Config := ⟨chain, scheme, margin, duration, capacity⟩
  config.validate
  pure config

end Environment

end AtomicSwap
