import AtomicSwap.Json.Reader
import AtomicSwap.Wire.Scalar

/-!
Taking typed values out of JSON values. Whoever expects something takes up the parts of a value in
the order of the text, and the first part at fault, or not of the sort expected, decides the error.
-/

set_option autoImplicit false
set_option relaxedAutoImplicit false

namespace AtomicSwap

/-- Why a text is not the written form of a value. -/
inductive DecodeError
  | malformed
  | invalidType
  | invalidValue
  | invalidLength
  | unknownVariant (name : String)
  | missingField (name : String)
  | duplicateField (name : String)
  | scalar (cause : ScalarError)
deriving DecidableEq

def DecodeError.message : DecodeError → String
  | malformed => "syntax"
  | invalidType => "invalid type"
  | invalidValue => "invalid value"
  | invalidLength => "invalid length"
  | unknownVariant name => "unknown variant `" ++ name ++ "`"
  | missingField name => "missing field `" ++ name ++ "`"
  | duplicateField name => "duplicate field `" ++ name ++ "`"
  | scalar cause => cause.message

/-- A way to take a typed value out of a JSON value. -/
abbrev Decoder (α : Type) := Json → Except DecodeError α

/-- Where a value is taken from: straight from the text, or from what was kept of it. An array with
too many items breaks the text in the first case, and is too long in the second. -/
inductive Source
  | text | kept
deriving DecidableEq

namespace Json

/-- The error of a value of another sort than the one expected. -/
def mismatch : Json → DecodeError
  | .fault => .malformed
  | .text none => .malformed
  | .number l => if l.kind = .outOfRange then .malformed else .invalidType
  | _ => .invalidType

/-- The end of the items that were expected. -/
def Items.finish (source : Source) : Items → Except DecodeError Unit
  | .nil => .ok ()
  | .cons _ _ =>
    match source with
    | .text => .error .malformed
    | .kept => .error .invalidLength
  | .fault => .error .malformed

def Items.next : Items → Except DecodeError (Json × Items)
  | .cons head tail => .ok (head, tail)
  | .nil => .error .invalidLength
  | .fault => .error .malformed

end Json

namespace Decoder

def text : Decoder String
  | .text (some s) => .ok s
  | j => .error j.mismatch

def word : Decoder UInt64
  | .number l =>
    match l.kind with
    | .natural n => .ok n
    | .negative => .error .invalidValue
    | .fractional => .error .invalidType
    | .outOfRange => .error .malformed
  | j => .error j.mismatch

def byte : Decoder UInt8 := fun j => do
  let n ← word j
  if n.toNat < 256 then pure (UInt8.ofNat n.toNat) else throw .invalidValue

/-- The bytes that the first `n` items write, and the items behind them. -/
def takeBytes : (n : Nat) → Json.Items → Except DecodeError (Bytes n × Json.Items)
  | 0, items => .ok (⟨[], rfl⟩, items)
  | n + 1, items => do
    let (head, items) ← items.next
    let b ← byte head
    let (bs, items) ← takeBytes n items
    pure (⟨b :: bs.toList, by simp [bs.length_eq]⟩, items)

def bytes (source : Source) (n : Nat) : Decoder (Bytes n)
  | .array items => do
    let (bs, rest) ← takeBytes n items
    rest.finish source
    pure bs
  | j => .error j.mismatch

/-- A string that a reader of scalars takes. -/
def scalar {α : Type} (read : String → Except ScalarError α) : Decoder α := fun j => do
  let s ← text j
  match read s with
  | .ok a => pure a
  | .error e => throw (.scalar e)

def optional {α : Type} (decode : Decoder α) : Decoder (Option α)
  | .null => .ok none
  | j => some <$> decode j

def variant {α : Type} (variants : List (String × α)) (name : String) : Except DecodeError α :=
  match variants.lookup name with
  | some a => .ok a
  | none => .error (.unknownVariant name)

def name {α : Type} (variants : List (String × α)) : Decoder α := fun j => do
  variant variants (← text j)

/-- One of several names. It is a string, or an object with the name as its only member and null
for a value; nothing else is well formed where a name is expected. -/
def choice {α : Type} (variants : List (String × α)) : Decoder α
  | .text (some s) => variant variants s
  | .object (.cons (some s) value tail) => do
    let a ← variant variants s
    match value, tail with
    | .null, .nil => pure a
    | .null, _ => throw .malformed
    | value, _ => throw value.mismatch
  | _ => .error .malformed

end Decoder

/-- A field of a structure: its name, and the error of a value that cannot be its. -/
structure Field where
  name : String
  check : Json → Except DecodeError Unit

/-- How a structure is taken out of a value: from the members of an object, which may come in any
order and beside others, or from the items of an array, one for each field in order. -/
structure Shape (α : Type) where
  fields : List Field
  ofMembers : Json.Members → Except DecodeError α
  ofItems : Json.Items → Except DecodeError (α × Json.Items)

namespace Shape

variable {α β : Type}

def pure (a : α) : Shape α := ⟨[], fun _ => .ok a, fun items => .ok (a, items)⟩

def field (f : Shape (α → β)) (name : String) (decode : Decoder α) : Shape β where
  fields := f.fields ++ [⟨name, fun j => (fun _ => ()) <$> decode j⟩]
  ofMembers members := do
    let build ← f.ofMembers members
    match members.find? name with
    | some j => build <$> decode j
    | none => throw (.missingField name)
  ofItems items := do
    let (build, items) ← f.ofItems items
    let (head, items) ← items.next
    let a ← decode head
    Except.ok (build a, items)

/-- A structure with one more field, which is nothing if it is null or not there. -/
def optionalField (f : Shape (Option α → β)) (name : String) (decode : Decoder α) : Shape β where
  fields := f.fields ++ [⟨name, fun j => (fun _ => ()) <$> Decoder.optional decode j⟩]
  ofMembers members := do
    let build ← f.ofMembers members
    match members.find? name with
    | some j => build <$> Decoder.optional decode j
    | none => Except.ok (build none)
  ofItems items := do
    let (build, items) ← f.ofItems items
    let (head, items) ← items.next
    let a ← Decoder.optional decode head
    Except.ok (build a, items)

/-- The members of a structure taken up in order, after those whose names have been `seen`: a field
must not come twice, its value must be one of its own, and any other value need only be whole. -/
def scan (fields : List Field) (seen : List String) : Json.Members → Except DecodeError Unit
  | .nil => .ok ()
  | .stray _ => .error .malformed
  | .fault => .error .malformed
  | .cons none _ _ => .error .malformed
  | .cons (some name) value tail =>
    match fields.find? fun f => f.name = name with
    | none => if value.isWhole then scan fields seen tail else .error .malformed
    | some f =>
      if name ∈ seen then .error (.duplicateField name)
      else do
        f.check value
        scan fields (name :: seen) tail

def decoder (shape : Shape α) (source : Source) : Decoder α
  | .object members => do
    scan shape.fields [] members
    shape.ofMembers members
  | .array items => do
    let (a, rest) ← shape.ofItems items
    rest.finish source
    Except.ok a
  | j => .error j.mismatch

end Shape

/-- The value that a whole text writes: nothing but blanks follows it. -/
def Decoder.read {α : Type} (decode : Decoder α) (text : String) : Except DecodeError α := do
  let (j, rest) := Json.read text.toList
  let a ← decode j
  match rest with
  | some rest => if (Json.skipBlanks rest).isEmpty then pure a else throw .malformed
  | none => throw .malformed

end AtomicSwap
