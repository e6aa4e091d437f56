import AtomicSwap.Numeral

/-!
Number literals: how they are read, and what sort of number each one writes. A literal without
fraction and exponent that fits in sixty-four bits is an integer; any other one is a double, and a
literal that no finite double is near to is out of range.
-/

set_option autoImplicit false
set_option relaxedAutoImplicit false

namespace AtomicSwap.Json

/-- A number as it is written: its sign, its digits before the point, those behind it if there is
one, and its exponent if there is one, with its sign. -/
structure Literal where
  negative : Bool
  whole : List Char
  fraction : Option (List Char)
  exponent : Option (Bool × List Char)
deriving DecidableEq

/-- The sorts of number that a reader of integers tells apart. -/
inductive NumberKind
  | natural (n : UInt64)
  | negative
  | fractional
  | outOfRange
deriving DecidableEq

namespace Literal

def ofNat (n : Nat) : Literal := ⟨false, Decimal.digits n, none, none⟩

def readDigits (cs : List Char) : List Char × List Char :=
  (cs.takeWhile Decimal.isDigit, cs.dropWhile Decimal.isDigit)

/-- The digits before the point: at least one, and no zero ahead of others. -/
def readWhole? (cs : List Char) : Option (List Char × List Char) :=
  match readDigits cs with
  | ([], _) => none
  | ('0' :: _ :: _, _) => none
  | (digits, rest) => some (digits, rest)

/-- The point and the digits behind it, at least one, if there is a point. -/
def readFraction? : List Char → Option (Option (List Char) × List Char)
  | '.' :: cs =>
    match readDigits cs with
    | ([], _) => none
    | (digits, rest) => some (some digits, rest)
  | cs => some (none, cs)

/-- The sign of an exponent: whether it is a minus. -/
def readSign : List Char → Bool × List Char
  | '-' :: cs => (true, cs)
  | '+' :: cs => (false, cs)
  | cs => (false, cs)

/-- The digits of an exponent, at least one, behind its sign. -/
def readPower? (cs : List Char) : Option (Option (Bool × List Char) × List Char) :=
  let (minus, cs) := readSign cs
  match readDigits cs with
  | ([], _) => none
  | (digits, rest) => some (some (minus, digits), rest)

/-- The exponent if there is one. -/
def readExponent? : List Char → Option (Option (Bool × List Char) × List Char)
  | 'e' :: cs => readPower? cs
  | 'E' :: cs => readPower? cs
  | cs => some (none, cs)

def readUnsigned? (negative : Bool) (cs : List Char) : Option (Literal × List Char) := do
  let (whole, cs) ← readWhole? cs
  let (fraction, cs) ← readFraction? cs
  let (exponent, cs) ← readExponent? cs
  some (⟨negative, whole, fraction, exponent⟩, cs)

def read? : List Char → Option (Literal × List Char)
  | '-' :: cs => readUnsigned? true cs
  | cs => readUnsigned? false cs

def print (l : Literal) : List Char :=
  (if l.negative then ['-'] else []) ++ l.whole
    ++ (match l.fraction with
        | some digits => '.' :: digits
        | none => [])
    ++ (match l.exponent with
        | some (minus, digits) => 'e' :: (if minus then ['-'] else []) ++ digits
        | none => [])

def valueOf (digits : List Char) : Nat := (Decimal.value? digits).getD 0

/-- The digits `cs` taken up behind a significand for as long as sixty-four bits hold it: the new
significand, and how many digits were taken up and how many were left. -/
def takeUp (significand : Nat) (cs : List Char) : Nat × Nat × Nat :=
  match cs with
  | [] => (significand, 0, 0)
  | c :: rest =>
    let next := 10 * significand + (Decimal.digit? c).getD 0
    if next < 2 ^ 64 then
      let (s, taken, left) := takeUp next rest
      (s, taken + 1, left)
    else (significand, 0, rest.length + 1)

def power (l : Literal) : Int :=
  match l.exponent with
  | none => 0
  | some (minus, digits) => if minus then -(valueOf digits : Int) else valueOf digits

/-- Whether the double near to a literal would not be finite. The significand is what sixty-four
bits hold of the digits, and it is scaled by a power of ten that is itself rounded. -/
def isOutOfRange (l : Literal) : Bool :=
  let (whole, _, left) := takeUp 0 l.whole
  let (significand, taken, _) := takeUp whole (l.fraction.getD [])
  let exponent := (left : Int) - (taken : Int) + l.power
  if significand = 0 ∨ exponent < 0 then false
  else if 308 < exponent then true
  else Binary64.overflowBound ≤ Binary64.round significand * Binary64.round (10 ^ exponent.toNat)

/-- The sort of number that a literal writes. A negative zero is a double. -/
def kind (l : Literal) : NumberKind :=
  let value := valueOf l.whole
  if l.fraction.isNone ∧ l.exponent.isNone ∧ !l.negative ∧ value < 2 ^ 64 then
    .natural (UInt64.ofNat value)
  else if l.fraction.isNone ∧ l.exponent.isNone ∧ l.negative ∧ 0 < value ∧ value ≤ 2 ^ 63 then
    .negative
  else if l.isOutOfRange then .outOfRange
  else .fractional

end Literal

end AtomicSwap.Json
