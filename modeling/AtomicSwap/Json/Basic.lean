import AtomicSwap.Json.Number

/-!
JSON values as they come out of a text that may be at fault. A fault is kept at the place where it
was met, so that whoever looks for a value in the text meets first what comes first in it.
-/

set_option autoImplicit false
set_option relaxedAutoImplicit false

namespace AtomicSwap

mutual

/-- A value. A string whose escapes write no text has none. -/
inductive Json
  | null
  | bool (b : Bool)
  | number (l : Json.Literal)
  | text (s : Option String)
  | array (items : Json.Items)
  | object (members : Json.Members)
  | fault

/-- The items of an array up to its end, or up to a fault. -/
inductive Json.Items
  | nil
  | cons (head : Json) (tail : Json.Items)
  | fault

/-- The members of an object up to its end, or up to a fault. A value may stand where a key should. -/
inductive Json.Members
  | nil
  | cons (key : Option String) (value : Json) (tail : Json.Members)
  | stray (value : Json)
  | fault

end

namespace Json

def Items.ofList : List Json → Items
  | [] => .nil
  | j :: js => .cons j (ofList js)

def Members.ofList : List (String × Json) → Members
  | [] => .nil
  | (k, j) :: ms => .cons (some k) j (ofList ms)

def ofItems (js : List Json) : Json := .array (Items.ofList js)

def ofMembers (ms : List (String × Json)) : Json := .object (Members.ofList ms)

def ofText (s : String) : Json := .text (some s)

def ofNat (n : Nat) : Json := .number (Literal.ofNat n)

def Members.find? (name : String) : Members → Option Json
  | .cons key value tail => if key = some name then some value else find? name tail
  | .nil => none
  | .stray _ => none
  | .fault => none

mutual

/-- Whether a value can be read over: it has no fault, whatever its numbers and strings write. -/
def isWhole : Json → Bool
  | .fault => false
  | .array items => items.isWhole
  | .object members => members.isWhole
  | _ => true

def Items.isWhole : Items → Bool
  | .nil => true
  | .cons head tail => head.isWhole && tail.isWhole
  | .fault => false

def Members.isWhole : Members → Bool
  | .nil => true
  | .cons _ value tail => value.isWhole && tail.isWhole
  | .stray _ => false
  | .fault => false

end

mutual

/-- Whether a value can be kept for later: it has no fault, its numbers are in range, its strings
write text, and at most `room` arrays and objects are open at once. -/
def isSound (room : Nat) : Json → Bool
  | .fault => false
  | .number l => l.kind ≠ .outOfRange
  | .text s => s.isSome
  | .array items => 0 < room && items.isSound (room - 1)
  | .object members => 0 < room && members.isSound (room - 1)
  | _ => true

def Items.isSound (room : Nat) : Items → Bool
  | .nil => true
  | .cons head tail => head.isSound room && tail.isSound room
  | .fault => false

def Members.isSound (room : Nat) : Members → Bool
  | .nil => true
  | .cons key value tail => key.isSome && value.isSound room && tail.isSound room
  | .stray _ => false
  | .fault => false

end

end Json

end AtomicSwap
