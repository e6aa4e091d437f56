import AtomicSwap.Environment

/-!
How a process reports on itself, as the environment says.
-/

set_option autoImplicit false
set_option relaxedAutoImplicit false

namespace AtomicSwap.Telemetry

/-- Where and how a process reports. -/
structure Settings where
  service : String
  level : String
  toConsole : Bool
  asJson : Bool
  network : String
deriving DecidableEq

namespace Settings

/-- The name of the service on its network. -/
def qualifiedService (s : Settings) : String := s.service ++ "-" ++ s.network

def inContainer (env : Environment) : Bool :=
  (env.text? "KUBERNETES_SERVICE_HOST").isSome || (env.text? "DOCKER_CONTAINER").isSome

/-- The settings of an environment. No letter but the ASCII ones has a small form in `true` or
`false`, so only those are compared in either case. -/
def ofEnvironment (env : Environment) : Settings where
  service := (env.text? "OBRIDGE_SERVICE_NAME").getD "obridge"
  level := ((env.text? "OBRIDGE_LOG_LEVEL").or (env.text? "RUST_LOG")).getD "info"
  toConsole :=
    match env.text? "OBRIDGE_CONSOLE_OUTPUT" with
    | some v => Text.lower v ≠ "false" ∧ v ≠ "0"
    | none => true
  asJson :=
    match env.text? "OBRIDGE_JSON_LOGS" with
    | some v => Text.lower v = "true" ∨ v = "1"
    | none => inContainer env
  network := (env.text? "OBRIDGE_NETWORK").getD "testnet"

end Settings

end AtomicSwap.Telemetry
