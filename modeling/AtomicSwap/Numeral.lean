/-!
Naturals as they are written: byte strings of a fixed width, most significant byte first, hexadecimal
and decimal digits, which all read back as the number that they were written for, and double precision
numbers, with the shortest decimal text that reads back as one.
-/

set_option autoImplicit false
set_option relaxedAutoImplicit false

namespace AtomicSwap

/-- The power of naturals is the core one, whatever algebra is in scope, so that a bound such as
`2 ^ 256` is one and the same term in every module. -/
@[default_instance 20000]
instance (priority := high) natPow : Pow Nat Nat := instPowNat

end AtomicSwap

namespace AtomicSwap.BigEndian

/-- The `width` low bytes of `n`, most significant first. -/
def encode : (width : Nat) → (n : Nat) → List UInt8
  | 0, _ => []
  | width + 1, n => UInt8.ofNat (n / 256 ^ width) :: encode width n

def decode (bs : List UInt8) : Nat := bs.foldl (fun acc b => 256 * acc + b.toNat) 0

@[simp] theorem length_encode (width n : Nat) : (encode width n).length = width := by
  induction width with
  | zero => rfl
  | succ width ih => simp [encode, ih]

private theorem foldl_encode (width n acc : Nat) :
    (encode width n).foldl (fun acc b => 256 * acc + b.toNat) acc
      = acc * 256 ^ width + n % 256 ^ width := by
  induction width generalizing acc with
  | zero => simp [encode, Nat.mod_one]
  | succ width ih =>
    have hb : (UInt8.ofNat (n / 256 ^ width)).toNat = n / 256 ^ width % 256 := by simp
    rw [encode, List.foldl_cons, ih, hb, Nat.mod_pow_succ, Nat.pow_succ, Nat.add_mul,
      Nat.mul_comm 256 acc, Nat.mul_assoc acc, Nat.mul_comm 256 (256 ^ width),
      Nat.mul_comm (n / 256 ^ width % 256)]
    omega

/-- Reading gives back as much of a number as the width holds. -/
theorem decode_encode (width n : Nat) : decode (encode width n) = n % 256 ^ width := by
  rw [decode, foldl_encode, Nat.zero_mul, Nat.zero_add]

end AtomicSwap.BigEndian

namespace AtomicSwap.Hex

/-- The lowercase hexadecimal digits of `n`, most significant first, with no leading zero. -/
def digits (n : Nat) : List Char := Nat.toDigits 16 n

/-- The two lowercase digits of a byte, high half first. -/
def pair (b : UInt8) : List Char :=
  [Nat.digitChar (b.toNat / 16), Nat.digitChar (b.toNat % 16)]

def encode (bs : List UInt8) : List Char := bs.flatMap pair

def text (bs : List UInt8) : String := String.ofList (encode bs)

def digit? (c : Char) : Option Nat :=
  if '0' ≤ c ∧ c ≤ '9' then some (c.toNat - '0'.toNat)
  else if 'a' ≤ c ∧ c ≤ 'f' then some (c.toNat - 'a'.toNat + 10)
  else if 'A' ≤ c ∧ c ≤ 'F' then some (c.toNat - 'A'.toNat + 10)
  else none

/-- The bytes written by an even number of digits of either case, nothing for any other text. -/
def decode? : List Char → Option (List UInt8)
  | [] => some []
  | [_] => none
  | c :: d :: cs => do
    let high ← digit? c
    let low ← digit? d
    let rest ← decode? cs
    some (UInt8.ofNat (16 * high + low) :: rest)

theorem digits_of_lt {n : Nat} (h : n < 16) : digits n = [Nat.digitChar n] :=
  Nat.toDigits_of_lt_base h

theorem digits_of_le {n : Nat} (h : 16 ≤ n) :
    digits n = digits (n / 16) ++ [Nat.digitChar (n % 16)] := by
  have hd : n % 16 < 16 := Nat.mod_lt _ (by decide)
  rw [digits, digits, ← Nat.toDigits_of_lt_base hd,
    Nat.toDigits_append_toDigits (by decide) (by omega) hd, Nat.div_add_mod]

theorem digit?_digitChar {d : Nat} (h : d < 16) : digit? (Nat.digitChar d) = some d := by
  match d, h with
  | 0, _ | 1, _ | 2, _ | 3, _ | 4, _ | 5, _ | 6, _ | 7, _ | 8, _ | 9, _ | 10, _ | 11, _ | 12, _
  | 13, _ | 14, _ | 15, _ => rfl
  | d + 16, h => omega

@[simp] theorem decode?_encode (bs : List UInt8) : decode? (encode bs) = some bs := by
  induction bs with
  | nil => rfl
  | cons b bs ih =>
    have hb : b.toNat < 256 := b.toNat_lt
    have hs : encode (b :: bs)
        = Nat.digitChar (b.toNat / 16) :: Nat.digitChar (b.toNat % 16) :: encode bs := rfl
    have hh : 16 * (b.toNat / 16) + b.toNat % 16 = b.toNat := by omega
    rw [hs, decode?, digit?_digitChar (by omega), digit?_digitChar (by omega), ih]
    change some (UInt8.ofNat (16 * (b.toNat / 16) + b.toNat % 16) :: bs) = some (b :: bs)
    rw [hh, UInt8.ofNat_toNat]

end AtomicSwap.Hex

namespace AtomicSwap.Decimal

/-- The decimal digits of `n`, most significant first, with no leading zero. -/
def digits (n : Nat) : List Char := Nat.toDigits 10 n

def text (n : Nat) : String := String.ofList (digits n)

def digit? (c : Char) : Option Nat :=
  if '0' ≤ c ∧ c ≤ '9' then some (c.toNat - '0'.toNat) else none

def isDigit (c : Char) : Bool := (digit? c).isSome

/-- The value of the digits `cs` written behind a number of value `acc`. -/
def valueFrom? (acc : Nat) : List Char → Option Nat
  | [] => some acc
  | c :: cs => do valueFrom? (10 * acc + (← digit? c)) cs

/-- The value of a string of digits, zero for the empty one, nothing if a character is no digit. -/
def value? (cs : List Char) : Option Nat := valueFrom? 0 cs

theorem digit?_digitChar {d : Nat} (h : d < 10) : digit? (Nat.digitChar d) = some d := by
  match d, h with
  | 0, _ | 1, _ | 2, _ | 3, _ | 4, _ | 5, _ | 6, _ | 7, _ | 8, _ | 9, _ => rfl
  | d + 10, h => omega

theorem valueFrom?_append (acc : Nat) (cs ds : List Char) :
    valueFrom? acc (cs ++ ds) = (valueFrom? acc cs).bind fun n => valueFrom? n ds := by
  induction cs generalizing acc with
  | nil => rfl
  | cons c cs ih =>
    simp only [List.cons_append, valueFrom?]
    cases digit? c with
    | none => rfl
    | some d => exact ih _

theorem le_of_valueFrom? {acc n : Nat} {cs : List Char} (h : valueFrom? acc cs = some n) :
    acc ≤ n := by
  induction cs generalizing acc with
  | nil => exact Nat.le_of_eq (Option.some.inj h)
  | cons c cs ih =>
    rw [valueFrom?] at h
    cases hc : digit? c with
    | none => simp [hc] at h
    | some d =>
      rw [hc] at h
      have hle := ih h
      omega

theorem digits_of_lt {n : Nat} (h : n < 10) : digits n = [Nat.digitChar n] :=
  Nat.toDigits_of_lt_base h

theorem digits_of_le {n : Nat} (h : 10 ≤ n) :
    digits n = digits (n / 10) ++ [Nat.digitChar (n % 10)] := by
  have hd : n % 10 < 10 := Nat.mod_lt _ (by decide)
  rw [digits, digits, ← Nat.toDigits_of_lt_base hd,
    Nat.toDigits_append_toDigits (by decide) (by omega) hd, Nat.div_add_mod]

/-- The digits of a number have its value. -/
@[simp] theorem value?_digits (n : Nat) : value? (digits n) = some n := by
  induction n using Nat.strongRecOn with
  | ind n ih =>
    by_cases h : n < 10
    · rw [digits_of_lt h, value?, valueFrom?, digit?_digitChar h]
      simp [valueFrom?]
    · have hd : n % 10 < 10 := Nat.mod_lt _ (by decide)
      have hv := ih (n / 10) (by omega)
      rw [value?] at hv ⊢
      rw [digits_of_le (by omega), valueFrom?_append, hv, Option.bind_some, valueFrom?,
        digit?_digitChar hd]
      simp only [valueFrom?, Option.bind_eq_bind, Option.bind_some, Option.some.injEq]
      omega

theorem isDigit_digitChar {d : Nat} (h : d < 10) : isDigit (Nat.digitChar d) = true := by
  rw [isDigit, digit?_digitChar h]
  rfl

theorem isDigit_of_mem_digits {n : Nat} {c : Char} (h : c ∈ digits n) : isDigit c = true := by
  induction n using Nat.strongRecOn with
  | ind n ih =>
    by_cases hn : n < 10
    · rw [digits_of_lt hn, List.mem_singleton] at h
      exact h ▸ isDigit_digitChar hn
    · rw [digits_of_le (by omega), List.mem_append, List.mem_singleton] at h
      rcases h with h | h
      · exact ih (n / 10) (by omega) h
      · exact h ▸ isDigit_digitChar (Nat.mod_lt _ (by decide))

theorem digits_ne_nil (n : Nat) : digits n ≠ [] := by
  by_cases hn : n < 10
  · simp [digits_of_lt hn]
  · simp [digits_of_le (Nat.not_lt.1 hn)]

theorem head?_digits_ne_zero {n : Nat} (h : 0 < n) : (digits n).head? ≠ some '0' := by
  induction n using Nat.strongRecOn with
  | ind n ih =>
    by_cases hn : n < 10
    · rw [digits_of_lt hn]
      match n, h, hn with
      | 1, _, _ | 2, _, _ | 3, _, _ | 4, _, _ | 5, _, _ | 6, _, _ | 7, _, _ | 8, _, _ | 9, _, _ =>
        decide
      | n + 10, _, hn => omega
    · have hrest := ih (n / 10) (by omega) (by omega)
      rw [digits_of_le (by omega)]
      cases hdigits : digits (n / 10) with
      | nil => exact absurd hdigits (digits_ne_nil _)
      | cons c cs =>
        rw [hdigits] at hrest
        exact hrest

end AtomicSwap.Decimal

namespace AtomicSwap.Binary64

def precision : Nat := 53

/-- The least natural that lies too high to be rounded to a finite number. -/
def overflowBound : Nat := 2 ^ 1024 - 2 ^ 970

/-- `n` divided by `d`, rounded to the nearest natural, a half to the even neighbour. -/
def roundDiv (n d : Nat) : Nat :=
  let quotient := n / d
  let twice := 2 * (n % d)
  if twice < d then quotient
  else if d < twice then quotient + 1
  else quotient + quotient % 2

/-- The exponent of the unit in the last place of `n`: the binary digits beyond the precision. -/
def excess (n : Nat) : Nat := n.log2 + 1 - precision

/-- The natural nearest to `n` that has at most 53 significant binary digits, ties to even. -/
def round (n : Nat) : Nat :=
  let unit := 2 ^ excess n
  roundDiv n unit * unit

/-- The multiple of `10 ^ places` that rounds to `n`: the nearer of the two around `n` if both do,
nothing if none does. -/
def onGrid? (n places : Nat) : Option Nat :=
  let step := 10 ^ places
  let below := n / step * step
  let above := below + step
  if round below = n ∧ (round above ≠ n ∨ n - below ≤ above - n) then some below
  else if round above = n then some above
  else none

/-- The number on the coarsest grid of `10 ^ 0` to `10 ^ places` that rounds to `n`. -/
def shortest (n : Nat) : (places : Nat) → Nat
  | 0 => n
  | places + 1 => (onGrid? n (places + 1)).getD (shortest n places)

/-- The natural that the shortest decimal text of the double `n` writes: as few significant digits
as read back as `n`, then zeros up to the point. -/
def shown (n : Nat) : Nat := shortest n (Nat.toDigits 10 n).length

end AtomicSwap.Binary64
