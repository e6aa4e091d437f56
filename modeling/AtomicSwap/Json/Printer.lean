import AtomicSwap.Json.Basic
import AtomicSwap.Json.Text

/-!
The written form of a value: no blanks, members in order. Nothing is written for a fault.
-/

set_option autoImplicit false
set_option relaxedAutoImplicit false

namespace AtomicSwap.Json

mutual

def chars : Json → List Char
  | .null => ['n', 'u', 'l', 'l']
  | .bool true => ['t', 'r', 'u', 'e']
  | .bool false => ['f', 'a', 'l', 's', 'e']
  | .number l => l.print
  | .text (some s) => Text.print s
  | .text none => []
  | .array items => '[' :: items.chars ++ [']']
  | .object members => '{' :: members.chars ++ ['}']
  | .fault => []

def Items.chars : Items → List Char
  | .nil => []
  | .cons head .nil => head.chars
  | .cons head tail => head.chars ++ ',' :: tail.chars
  | .fault => []

def Members.chars : Members → List Char
  | .nil => []
  | .cons (some key) value .nil => Text.print key ++ ':' :: value.chars
  | .cons (some key) value tail => Text.print key ++ ':' :: value.chars ++ ',' :: tail.chars
  | .cons none _ _ => []
  | .stray _ => []
  | .fault => []

end

def print (j : Json) : String := String.ofList j.chars

/-- A line break and `depth` steps of two blanks. -/
def lineBreak (depth : Nat) : List Char := '\n' :: List.replicate (2 * depth) ' '

mutual

/-- The characters of a value laid out with a line for each item and each member. -/
def prettyChars (depth : Nat) : Json → List Char
  | .array .nil => ['[', ']']
  | .array items => '[' :: items.prettyChars (depth + 1) ++ lineBreak depth ++ [']']
  | .object .nil => ['{', '}']
  | .object members => '{' :: members.prettyChars (depth + 1) ++ lineBreak depth ++ ['}']
  | j => j.chars

def Items.prettyChars (depth : Nat) : Items → List Char
  | .nil => []
  | .cons head .nil => lineBreak depth ++ head.prettyChars depth
  | .cons head tail => lineBreak depth ++ head.prettyChars depth ++ ',' :: tail.prettyChars depth
  | .fault => []

def Members.prettyChars (depth : Nat) : Members → List Char
  | .nil => []
  | .cons (some key) value .nil =>
    lineBreak depth ++ Text.print key ++ ':' :: ' ' :: value.prettyChars depth
  | .cons (some key) value tail =>
    lineBreak depth ++ Text.print key ++ ':' :: ' ' :: value.prettyChars depth
      ++ ',' :: tail.prettyChars depth
  | .cons none _ _ => []
  | .stray _ => []
  | .fault => []

end

/-- The text of a value laid out over lines, two blanks for each step inwards. -/
def pretty (j : Json) : String := String.ofList (j.prettyChars 0)

end AtomicSwap.Json
