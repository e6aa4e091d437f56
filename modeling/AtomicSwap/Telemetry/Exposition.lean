import AtomicSwap.Numeral
import AtomicSwap.Telemetry.Counters

/-!
The text in which counts are shown to a collector: families in the order of their names, each behind
two lines that describe it, and its samples in the order of their labels. A family without samples
is left out.
-/

set_option autoImplicit false
set_option relaxedAutoImplicit false

namespace AtomicSwap.Telemetry

namespace Family

def all : List Family := [escrowed, observed, failures, confirmed, locked, refunded]

def name : Family → String
  | escrowed => "obridge_escrowed_transfers"
  | observed => "obridge_events_observed_total"
  | failures => "obridge_operation_failures_total"
  | confirmed => "obridge_transfers_confirmed_total"
  | locked => "obridge_transfers_locked_total"
  | refunded => "obridge_transfers_refunded_total"

def help : Family → String
  | escrowed => "Transfers currently in Locked state"
  | observed => "Transfer events observed"
  | failures => "Rejected operations"
  | confirmed => "Transfers redeemed"
  | locked => "Transfers escrowed"
  | refunded => "Transfers refunded"

/-- Whether the counts of a family only grow. -/
def kind : Family → String
  | escrowed => "gauge"
  | _ => "counter"

/-- The names of a family's labels, in the order in which their values are given. -/
def labels : Family → List String
  | escrowed => ["chain"]
  | observed => ["chain", "event"]
  | failures => ["chain", "operation", "code"]
  | confirmed => ["chain"]
  | locked => ["chain", "leg"]
  | refunded => ["chain"]

end Family

/-- Whether the first of two lists of texts comes first, or is the same. -/
def comesFirst : List String → List String → Bool
  | [], _ => true
  | _ :: _, [] => false
  | s :: ss, t :: ts => if s = t then comesFirst ss ts else s < t

/-- A character as it is written between the quotes of a label's value. -/
def escapeChar (c : Char) : List Char :=
  if c = '\\' then ['\\', '\\']
  else if c = '"' then ['\\', '"']
  else if c = '\n' then ['\\', 'n']
  else [c]

/-- The value of a label as it is written between quotes. -/
def escape (s : String) : String := String.ofList (s.toList.flatMap escapeChar)

/-- The labels of a count, in the order of their names. -/
def labelsOf (family : Family) (sample : Sample) : List (String × String) :=
  (family.labels.zip sample.labels).mergeSort fun a b => a.1 ≤ b.1

/-- Whether the first of two lists of labels comes first by its values, or has the same. -/
def inOrder (ls ms : List (String × String)) : Bool :=
  comesFirst (ls.map Prod.snd) (ms.map Prod.snd)

def labelText (label : String × String) : String := label.1 ++ "=\"" ++ escape label.2 ++ "\""

def sampleLine (family : Family) (sample : List (String × String) × Nat) : String :=
  family.name ++ "\x7b" ++ ",".intercalate (sample.1.map labelText) ++ "\x7d "
    ++ Decimal.text (Binary64.shown sample.2) ++ "\n"

namespace Counters

/-- The labels and values of a family's counts, in the order of the labels. -/
def samples (c : Counters) (family : Family) : List (List (String × String) × Nat) :=
  (c.entries.filterMap fun e =>
    if e.1.1 = family then some (labelsOf family e.2, e.2.value) else none).mergeSort
    fun a b => inOrder a.1 b.1

/-- The lines of a family, none if it has no samples. -/
def familyText (c : Counters) (family : Family) : String :=
  match c.samples family with
  | [] => ""
  | samples =>
    "# HELP " ++ family.name ++ " " ++ family.help ++ "\n"
      ++ "# TYPE " ++ family.name ++ " " ++ family.kind ++ "\n"
      ++ String.join (samples.map (sampleLine family))

def text (c : Counters) : String := String.join (Family.all.map c.familyText)

end Counters

end AtomicSwap.Telemetry
