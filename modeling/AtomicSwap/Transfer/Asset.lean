import AtomicSwap.Bytes
import AtomicSwap.Numeral

/-!
Assets: the chain's native coin, and tokens, each known by the address of its contract. On the wire
an asset is an address, and the zero address stands for the native coin.
-/

set_option autoImplicit false
set_option relaxedAutoImplicit false

namespace AtomicSwap

def Bytes.prefixedHex {n : Nat} (b : Bytes n) : String :=
  String.ofList ('0' :: 'x' :: Hex.encode b.toList)

def Bytes.hex {n : Nat} (b : Bytes n) : String := Hex.text b.toList

inductive Asset
  | native
  | token (contract : Address)
deriving DecidableEq

namespace Asset

/-- The asset that an address of the wire stands for. -/
def ofAddress (a : Address) : Asset := if a = Bytes.zero 20 then native else token a

def address : Asset → Address
  | native => Bytes.zero 20
  | token contract => contract

def isNative : Asset → Bool
  | native => true
  | token _ => false

def text : Asset → String
  | native => "native"
  | token contract => "token " ++ contract.prefixedHex

end Asset

/-- The local address that a left-padded foreign address stands for, nothing if its twelve upper
bytes are not zero. -/
def ForeignAddress.toLocal? (f : ForeignAddress) : Option Address :=
  if f.toList.take 12 = List.replicate 12 0 then Bytes.ofList? 20 (f.toList.drop 12) else none

/-- The left-padded foreign form of a local address. -/
def Address.toForeign (a : Address) : ForeignAddress :=
  ⟨List.replicate 12 0 ++ a.toList, by simp [a.length_eq]⟩

/-- A foreign address stands for the one local address that it is the padded form of. -/
theorem ForeignAddress.toLocal?_eq_some_iff {f : ForeignAddress} {a : Address} :
    f.toLocal? = some a ↔ a.toForeign = f := by
  unfold toLocal? Address.toForeign
  constructor
  · intro h
    split at h
    · rename_i hpadding
      apply Bytes.ext
      show List.replicate 12 0 ++ a.toList = f.toList
      rw [Bytes.ofList?_eq_some_iff.1 h, ← hpadding, List.take_append_drop]
    · cases h
  · rintro rfl
    have htake : (List.replicate 12 (0 : UInt8) ++ a.toList).take 12 = List.replicate 12 0 :=
      List.take_left' List.length_replicate
    have hdrop : (List.replicate 12 (0 : UInt8) ++ a.toList).drop 12 = a.toList :=
      List.drop_left' List.length_replicate
    simp only [htake, hdrop, if_true, Bytes.ofList?_toList]

end AtomicSwap
