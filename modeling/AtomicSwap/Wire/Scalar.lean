import AtomicSwap.Amount
import AtomicSwap.Bytes
import AtomicSwap.Text

/-!
Byte strings and amounts written as strings. Announcements write byte strings as digits alone and
amounts in decimal; records write both in hexadecimal behind `0x`, and are lenient about blanks.
-/

set_option autoImplicit false
set_option relaxedAutoImplicit false

namespace AtomicSwap

/-- Why a string does not write a byte string or an amount. -/
inductive ScalarError
  | length
  | hexCharacter (c : Char) (index : Nat)
  | oddDigits
  | digitCharacter (c : Char) (index : Nat)
  | notThirtyTwoBytes
  | preimageLength
  | decimalCharacter
  | decimalOverflow
deriving DecidableEq

/-- A character of a single byte between single quotes, written so that it can be seen. -/
def quotedChar (c : Char) : String :=
  let body :=
    if c = '\x00' then ['\\', '0']
    else if c = '\t' then ['\\', 't']
    else if c = '\r' then ['\\', 'r']
    else if c = '\n' then ['\\', 'n']
    else if c = '\'' then ['\\', '\'']
    else if c = '\\' then ['\\', '\\']
    else if c.toNat < 0x20 ∨ 0x7f ≤ c.toNat ∧ c.toNat ≤ 0xa0 ∨ c.toNat = 0xad then
      ['\\', 'u', '\x7b'] ++ Hex.digits c.toNat ++ ['\x7d']
    else [c]
  String.ofList ('\'' :: body ++ ['\''])

def ScalarError.message : ScalarError → String
  | length => "invalid length"
  | hexCharacter c index =>
    "invalid hex character: " ++ String.singleton c ++ ", at " ++ Decimal.text index
  | oddDigits => "Odd number of digits"
  | digitCharacter c index =>
    "Invalid character " ++ quotedChar c ++ " at position " ++ Decimal.text index
  | notThirtyTwoBytes => "expected 32 bytes"
  | preimageLength => "invalid preimage length"
  | decimalCharacter => "InvalidCharacter"
  | decimalOverflow => "InvalidLength"

namespace Wire

def hexDigit? (b : UInt8) : Option Nat := Hex.digit? (Text.ofByte b)

/-- The bytes that a string of digits writes in pairs, the first pair at the place `index`. -/
def strictPairs (index : Nat) : List UInt8 → Except ScalarError (List UInt8)
  | [] => .ok []
  | [_] => .error .oddDigits
  | b :: c :: rest =>
    match hexDigit? b, hexDigit? c with
    | none, _ => .error (.digitCharacter (Text.ofByte b) index)
    | some _, none => .error (.digitCharacter (Text.ofByte c) (index + 1))
    | some high, some low => do
      let bs ← strictPairs (index + 2) rest
      pure (UInt8.ofNat (16 * high + low) :: bs)

/-- The bytes that a string writes with two digits each, and nothing else. -/
def strictHex (cs : List Char) : Except ScalarError (List UInt8) :=
  let bs := Text.encode cs
  if bs.length % 2 = 1 then .error .oddDigits else strictPairs 0 bs

def dropMarks : List Char → List Char
  | '0' :: 'x' :: cs => dropMarks cs
  | cs => cs

/-- The thirty-two bytes that an announcement writes. Any number of marks may stand ahead. -/
def readWord (s : String) : Except ScalarError (Bytes 32) := do
  let bs ← strictHex (dropMarks s.toList)
  match Bytes.ofList? 32 bs with
  | some b => pure b
  | none => throw .notThirtyTwoBytes

/-- The secret that a string writes. No mark stands ahead. -/
def readSecret (s : String) : Except ScalarError (Bytes 32) := do
  let bs ← strictHex s.toList
  match Bytes.ofList? 32 bs with
  | some b => pure b
  | none => throw .preimageLength

/-- The digits `cs` in decimal, behind a number of value `acc`. -/
def decimalFrom (acc : Nat) : List Char → Except ScalarError Amount
  | [] =>
    match Amount.ofNat? acc with
    | some a => .ok a
    | none => .error .decimalOverflow
  | c :: cs =>
    match Decimal.digit? c with
    | none => .error .decimalCharacter
    | some d =>
      if 10 * acc + d < 2 ^ 256 then decimalFrom (10 * acc + d) cs else .error .decimalOverflow

/-- The amount that an announcement writes in decimal. The empty string writes zero. -/
def readDecimal (s : String) : Except ScalarError Amount := decimalFrom 0 s.toList

/-- A text without one mark `0x` at its head, and whether there was one. -/
def dropMark : List Char → List Char × Bool
  | '0' :: 'x' :: cs => (cs, true)
  | cs => (cs, false)

/-- Whether a byte is passed over between the digits of a record's byte string. -/
def isHexBlank (b : UInt8) : Bool := b = 0x20 ∨ b = 0x0d ∨ b = 0x0a ∨ b = 0x09

/-- The bytes that the digits of a string complete. A digit that waits for its pair is `pending`,
and one that finds none is left out. -/
def lenientPairs (pending : Option Nat) (index : Nat) : List UInt8 → Except ScalarError (List UInt8)
  | [] => .ok []
  | b :: rest =>
    match hexDigit? b, pending with
    | some low, some high => do
      let bs ← lenientPairs none (index + 1) rest
      pure (UInt8.ofNat (16 * high + low) :: bs)
    | some high, none => lenientPairs (some high) (index + 1) rest
    | none, _ =>
      if isHexBlank b then lenientPairs pending (index + 1) rest
      else .error (.hexCharacter (Text.ofByte b) index)

/-- The bytes that a record writes in a string whose length in bytes is one of those allowed. At an
odd length the first digit stands alone. -/
def lenientHex (allowed : Nat → Bool) (s : String) : Except ScalarError (List UInt8) :=
  let (cs, marked) := dropMark s.toList
  let bs := Text.encode cs
  if allowed bs.length then
    lenientPairs (if bs.length % 2 = 1 then some 0 else none) (if marked then 2 else 0) bs
  else .error .length

/-- The first `n` of a list of bytes, with zeros behind a shorter list. -/
def fill : (n : Nat) → List UInt8 → Bytes n
  | 0, _ => ⟨[], rfl⟩
  | n + 1, bs =>
    let rest := fill n bs.tail
    ⟨bs.headD 0 :: rest.toList, by simp [rest.length_eq]⟩

/-- The address of `n` bytes that a record writes. Bytes that blanks leave out are zeros at the
end. -/
def readAddress (n : Nat) (s : String) : Except ScalarError (Bytes n) :=
  fill n <$> lenientHex (fun length => length = 2 * n) s

/-- The amount that a record writes in up to sixty-four digits. -/
def readHexAmount (s : String) : Except ScalarError Amount := do
  let bs ← lenientHex (fun length => 0 < length ∧ length ≤ 64) s
  pure (Amount.clamp (BigEndian.decode bs))

end Wire

end AtomicSwap
