import AtomicSwap.Numeral

/-!
Quantities of an asset: naturals below `2 ^ 256`. Sums are either checked, when a balance must stay
exact, or saturating, when a total may be clamped.
-/

set_option autoImplicit false
set_option relaxedAutoImplicit false

namespace AtomicSwap

/-- A quantity of an asset in its smallest unit. -/
structure Amount where
  toNat : Nat
  isLt : toNat < 2 ^ 256
deriving DecidableEq

namespace Amount

@[ext] theorem ext {a b : Amount} (h : a.toNat = b.toNat) : a = b := by
  cases a
  cases b
  cases h
  rfl

/-- The amount of a natural that is small enough, nothing for any other. -/
def ofNat? (n : Nat) : Option Amount :=
  if h : n < 2 ^ 256 then some ⟨n, h⟩ else none

def max : Amount := ⟨2 ^ 256 - 1, by decide⟩

/-- The amount of a natural, clamped to the greatest one. -/
def clamp (n : Nat) : Amount := (ofNat? n).getD max

instance : Zero Amount := ⟨⟨0, by decide⟩⟩

instance : Inhabited Amount := ⟨0⟩

instance : LE Amount := ⟨fun a b => a.toNat ≤ b.toNat⟩

instance : LT Amount := ⟨fun a b => a.toNat < b.toNat⟩

instance (a b : Amount) : Decidable (a ≤ b) := inferInstanceAs (Decidable (a.toNat ≤ b.toNat))

instance (a b : Amount) : Decidable (a < b) := inferInstanceAs (Decidable (a.toNat < b.toNat))

/-- The exact sum, nothing if it is too large. -/
def add? (a b : Amount) : Option Amount := ofNat? (a.toNat + b.toNat)

/-- The sum, clamped to the greatest amount. -/
def satAdd (a b : Amount) : Amount := clamp (a.toNat + b.toNat)

/-- What is left of `a` after `b` is taken from it, zero if `b` is more than `a`. -/
instance : Sub Amount := ⟨fun a b => ⟨a.toNat - b.toNat, Nat.lt_of_le_of_lt (Nat.sub_le _ _) a.isLt⟩⟩

def decimal (a : Amount) : String := Decimal.text a.toNat

/-- The hexadecimal text of an amount, behind `0x` and with no leading zero. -/
def hex (a : Amount) : String := String.ofList ('0' :: 'x' :: Hex.digits a.toNat)

def bytes (a : Amount) : List UInt8 := BigEndian.encode 32 a.toNat

@[simp] theorem toNat_zero : (0 : Amount).toNat = 0 := rfl

@[simp] theorem toNat_sub (a b : Amount) : (a - b).toNat = a.toNat - b.toNat := rfl

theorem le_iff (a b : Amount) : a ≤ b ↔ a.toNat ≤ b.toNat := Iff.rfl

theorem lt_iff (a b : Amount) : a < b ↔ a.toNat < b.toNat := Iff.rfl

theorem ofNat?_eq_some_iff {n : Nat} {a : Amount} : ofNat? n = some a ↔ a.toNat = n := by
  unfold ofNat?
  split
  · constructor
    · rintro ⟨⟩
      rfl
    · rintro rfl
      rfl
  · rename_i h
    constructor
    · simp
    · rintro rfl
      exact absurd a.isLt h

theorem ofNat?_eq_none_iff {n : Nat} : ofNat? n = none ↔ 2 ^ 256 ≤ n := by
  unfold ofNat?
  split <;> simp <;> omega

theorem add?_eq_some_iff {a b c : Amount} : add? a b = some c ↔ c.toNat = a.toNat + b.toNat :=
  ofNat?_eq_some_iff

theorem toNat_clamp (n : Nat) : (clamp n).toNat = min n (2 ^ 256 - 1) := by
  unfold clamp ofNat?
  split
  · rename_i h
    simp only [Option.getD_some]
    omega
  · rename_i h
    simp only [Option.getD_none, max]
    omega

theorem toNat_satAdd (a b : Amount) :
    (satAdd a b).toNat = min (a.toNat + b.toNat) (2 ^ 256 - 1) := toNat_clamp _

end Amount

end AtomicSwap
