import AtomicSwap.Check
import AtomicSwap.Environment

/-!
The configuration of a node: the two chains that it hosts and the scenario that it plays.
-/

set_option autoImplicit false
set_option relaxedAutoImplicit false

namespace AtomicSwap.Node

/-- The course of a swap: which kinds of asset are swapped, or that the liquidity provider never
answers and the user takes the funds back. -/
inductive Scenario
  | tokenToToken | nativeToToken | tokenToNative | refund
deriving DecidableEq

/-- Why a node is not configured. -/
inductive ConfigFailure
  | unknownScenario (normalized : String)
  | sameChain (number : ChainId)
  | invalidVariable (name value : String)
  | chain (cause : ConfigFault)
deriving DecidableEq

def ConfigFailure.message : ConfigFailure → String
  | unknownScenario normalized => "Unknown scenario: " ++ normalized
  | sameChain number =>
    "Source and destination chain must differ (both " ++ decimalText number ++ ")"
  | invalidVariable name value => "Invalid value for " ++ name ++ ": " ++ value
  | chain cause => cause.message

namespace Scenario

def name : Scenario → String
  | tokenToToken => "token-to-token"
  | nativeToToken => "native-to-token"
  | tokenToNative => "token-to-native"
  | refund => "refund"

/-- The form in which names are compared: no blanks around, small letters, and a hyphen for each
underscore. -/
def normalize (s : String) : String := Text.replaceChar '_' '-' (Text.lower (Text.trim s))

def ofText (s : String) : Except ConfigFailure Scenario :=
  let key := normalize s
  match [tokenToToken, nativeToToken, tokenToNative, refund].find? fun scenario =>
    scenario.name = key with
  | some scenario => .ok scenario
  | none => .error (.unknownScenario key)

end Scenario

structure Config where
  source : AtomicSwap.Config
  destination : AtomicSwap.Config
  scenario : Scenario
deriving DecidableEq

namespace Config

def standard : Config where
  source := AtomicSwap.Config.forChain 1
  destination := AtomicSwap.Config.forChain 56
  scenario := .tokenToToken

def validateChain (c : AtomicSwap.Config) : Except ConfigFailure Unit :=
  match c.validate with
  | .ok () => .ok ()
  | .error e => .error (.chain e)

/-- Refuses two chains of the same number, and a chain that is not valid itself. -/
def validate (c : Config) : Except ConfigFailure Unit := do
  require (c.source.chain ≠ c.destination.chain) (.sameChain c.source.chain)
  validateChain c.source
  validateChain c.destination

def readChain (env : Environment) (name : String) (standard : ChainId) :
    Except ConfigFailure ChainId :=
  match env.read name Environment.readWord? standard with
  | .ok chain => .ok chain
  | .error (.invalidVariable name value) => .error (.invalidVariable name value)
  | .error e => .error (.chain e)

def readScenario (env : Environment) : Except ConfigFailure Scenario :=
  match env.text? "OBRIDGE_SCENARIO" with
  | some value => Scenario.ofText value
  | none => .ok standard.scenario

/-- The configuration of the environment. What it says of a chain holds for both, but for their
numbers. -/
def ofEnvironment (env : Environment) : Except ConfigFailure Config := do
  let base ← match env.config with
    | .ok base => pure base
    | .error e => throw (.chain e)
  let source ← readChain env "OBRIDGE_SRC_CHAIN_ID" standard.source.chain
  let destination ← readChain env "OBRIDGE_DST_CHAIN_ID" standard.destination.chain
  let scenario ← readScenario env
  let config : Config := ⟨{ base with chain := source }, { base with chain := destination }, scenario⟩
  config.validate
  pure config

end Config

end AtomicSwap.Node
