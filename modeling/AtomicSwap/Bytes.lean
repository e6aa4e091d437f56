/-!
Byte strings of a fixed length, and the names this library gives to the lengths it uses: an
account address has twenty bytes, an identifier, a hashlock or a preimage thirty-two.
-/

set_option autoImplicit false
set_option relaxedAutoImplicit false

namespace AtomicSwap

/-- A byte string of exactly `n` bytes. -/
structure Bytes (n : Nat) where
  toList : List UInt8
  length_eq : toList.length = n
deriving DecidableEq

namespace Bytes

variable {n : Nat}

@[ext] theorem ext {a b : Bytes n} (h : a.toList = b.toList) : a = b := by
  cases a
  cases b
  cases h
  rfl

/-- The byte string made of a list of the right length, nothing for any other list. -/
def ofList? (n : Nat) (bs : List UInt8) : Option (Bytes n) :=
  if h : bs.length = n then some ⟨bs, h⟩ else none

def replicate (n : Nat) (b : UInt8) : Bytes n :=
  ⟨List.replicate n b, List.length_replicate⟩

def zero (n : Nat) : Bytes n := replicate n 0

theorem ofList?_eq_some_iff {bs : List UInt8} {b : Bytes n} :
    ofList? n bs = some b ↔ b.toList = bs := by
  unfold ofList?
  split
  · rename_i h
    constructor
    · rintro ⟨⟩
      rfl
    · intro h'
      congr 1
      exact ext h'.symm
  · rename_i h
    constructor
    · simp
    · rintro rfl
      exact absurd b.length_eq h

@[simp] theorem ofList?_toList (b : Bytes n) : ofList? n b.toList = some b :=
  ofList?_eq_some_iff.2 rfl

end Bytes

/-- An account or contract on the chain that holds it. -/
abbrev Address := Bytes 20

/-- An account or contract of the other chain, whose form this chain does not know. -/
abbrev ForeignAddress := Bytes 32

/-- The identifier of a transfer: the digest of its parameters. -/
abbrev TransferId := Bytes 32

/-- The digest of a swap's secret. -/
abbrev Hashlock := Bytes 32

abbrev Preimage := Bytes 32

end AtomicSwap
