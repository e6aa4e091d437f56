import AtomicSwap.Node.Swap

/-!
The command line: plays the swap that the environment describes, with a secret of its own, and prints
the outcome.
-/

set_option autoImplicit false
set_option relaxedAutoImplicit false

namespace AtomicSwap.Main

/-- The variables that the configuration of a node is read from. -/
def variableNames : List String :=
  ["OBRIDGE_CHAIN_ID", "OBRIDGE_HASHLOCK_SCHEME", "OBRIDGE_MIN_TIMELOCK_MARGIN_SECS",
   "OBRIDGE_LOCK_DURATION_SECS", "OBRIDGE_EVENT_CAPACITY", "OBRIDGE_SRC_CHAIN_ID",
   "OBRIDGE_DST_CHAIN_ID", "OBRIDGE_SCENARIO"]

def environment : IO Environment := do
  let mut env : Environment := Table.empty
  for name in variableNames do
    match ← IO.getEnv name with
    | some value => env := env.set name (Text.encode value.toList)
    | none => pure ()
  pure env

def drawSecret : IO Preimage := do
  let bytes ← IO.getRandomBytes 32
  pure (Wire.fill 32 bytes.toList)

end AtomicSwap.Main

open AtomicSwap in
/-- Plays one swap. The exit code tells whether it came to its end. -/
def main : IO UInt32 := do
  match Node.Config.ofEnvironment (← Main.environment) with
  | .error e =>
    IO.eprintln ("Error: invalid node configuration: " ++ e.message)
    pure 1
  | .ok config =>
    match (Node.Swap.run config (← Main.drawSecret)).1 with
    | .error e =>
      IO.eprintln ("Error: swap failed: " ++ e.message)
      pure 1
    | .ok report =>
      IO.println report.toJson.pretty
      pure 0
