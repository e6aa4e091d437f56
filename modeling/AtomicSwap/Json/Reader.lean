import AtomicSwap.Json.Basic
import AtomicSwap.Json.Text

/-!
Reading a text. A reader answers with the value at the head of the text and with what follows it; if
there is a fault, the value holds it, and nothing follows.
-/

set_option autoImplicit false
set_option relaxedAutoImplicit false

namespace AtomicSwap.Json

/-- Whether a character may stand between the parts of a value. -/
def isBlank (c : Char) : Bool := c = ' ' ∨ c = '\n' ∨ c = '\t' ∨ c = '\r'

def skipBlanks (cs : List Char) : List Char := cs.dropWhile isBlank

mutual

def readValue : (fuel : Nat) → List Char → Json × Option (List Char)
  | 0, _ => (.fault, none)
  | fuel + 1, cs =>
    match skipBlanks cs with
    | 'n' :: 'u' :: 'l' :: 'l' :: rest => (.null, some rest)
    | 't' :: 'r' :: 'u' :: 'e' :: rest => (.bool true, some rest)
    | 'f' :: 'a' :: 'l' :: 's' :: 'e' :: rest => (.bool false, some rest)
    | '"' :: rest =>
      match Text.read? rest with
      | some (s, rest) => (.text s, some rest)
      | none => (.fault, none)
    | '[' :: rest =>
      match skipBlanks rest with
      | ']' :: rest => (.array .nil, some rest)
      | rest =>
        let (items, rest) := readItems fuel rest
        (.array items, rest)
    | '{' :: rest =>
      match skipBlanks rest with
      | '}' :: rest => (.object .nil, some rest)
      | rest =>
        let (members, rest) := readMembers fuel rest
        (.object members, rest)
    | cs =>
      match Literal.read? cs with
      | some (l, rest) => (.number l, some rest)
      | none => (.fault, none)

def readItems : (fuel : Nat) → List Char → Items × Option (List Char)
  | 0, _ => (.fault, none)
  | fuel + 1, cs =>
    match readValue fuel cs with
    | (j, none) => (.cons j .fault, none)
    | (j, some rest) =>
      match skipBlanks rest with
      | ']' :: rest => (.cons j .nil, some rest)
      | ',' :: rest =>
        let (tail, rest) := readItems fuel rest
        (.cons j tail, rest)
      | _ => (.cons j .fault, none)

def readMembers : (fuel : Nat) → List Char → Members × Option (List Char)
  | 0, _ => (.fault, none)
  | fuel + 1, cs =>
    match skipBlanks cs with
    | '"' :: rest =>
      match Text.read? rest with
      | none => (.fault, none)
      | some (key, rest) =>
        match skipBlanks rest with
        | ':' :: rest =>
          match readValue fuel rest with
          | (j, none) => (.cons key j .fault, none)
          | (j, some rest) =>
            match skipBlanks rest with
            | '}' :: rest => (.cons key j .nil, some rest)
            | ',' :: rest =>
              let (tail, rest) := readMembers fuel rest
              (.cons key j tail, rest)
            | _ => (.cons key j .fault, none)
        | _ => (.cons key .fault .fault, none)
    | cs => (.stray (readValue fuel cs).1, none)

end

/-- The value at the head of a text, and what follows it. Each step of the reading takes up a
character or opens the value of an item, so twice the length bounds the steps. -/
def read (cs : List Char) : Json × Option (List Char) := readValue (2 * cs.length + 2) cs

end AtomicSwap.Json
