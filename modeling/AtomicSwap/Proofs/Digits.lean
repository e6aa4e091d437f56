import AtomicSwap.Numeral
import AtomicSwap.Text
import Mathlib.Tactic.SplitIfs

/-!
Strings of digits and what they write. A string of decimal or hexadecimal digits has one value, the
canonical digits of that value differ from it in leading zeros or in the case of letters alone, and
its bytes are those of its characters.
-/

set_option autoImplicit false
set_option relaxedAutoImplicit false

namespace AtomicSwap

/-- The number that some digits write in a base behind a number of value `acc`. -/
def Numeral.valueFrom (base : Nat) (digit? : Char → Option Nat) (acc : Nat) (cs : List Char) : Nat :=
  cs.foldl (fun n c => base * n + (digit? c).getD 0) acc

namespace Decimal

/-- The number that some decimal digits write, zero if there are none. -/
def value (cs : List Char) : Nat := Numeral.valueFrom 10 digit? 0 cs

/-- A string of digits without the zeros at its head, but for one if there is nothing else. -/
def withoutZeros (cs : List Char) : List Char :=
  match cs.dropWhile fun c => c = '0' with
  | [] => ['0']
  | cs => cs

/-- A digit is an ASCII character, and the one that is written for its value. -/
theorem digit?_eq_some {c : Char} {d : Nat} (h : digit? c = some d) :
    c.toNat < 0x80 ∧ d < 10 ∧ Nat.digitChar d = c := by
  have hchar : ∀ n < 0x80, ∀ e ∈ digit? (Char.ofNat n), e < 10 ∧ Nat.digitChar e = Char.ofNat n := by
    decide
  have hlt : c.toNat < 0x80 := by
    unfold digit? at h
    split at h
    · rename_i hrange
      exact Nat.lt_of_le_of_lt hrange.2 (by decide)
    · cases h
  have hc := hchar c.toNat hlt d
  rw [Char.ofNat_toNat] at hc
  exact ⟨hlt, hc h⟩

theorem isDigit_iff {c : Char} : isDigit c = true ↔ '0' ≤ c ∧ c ≤ '9' := by
  unfold isDigit digit?
  split <;> simp_all

theorem valueFrom?_eq_some_iff {acc n : Nat} {cs : List Char} :
    valueFrom? acc cs = some n ↔
      (∀ c ∈ cs, isDigit c = true) ∧ Numeral.valueFrom 10 digit? acc cs = n := by
  induction cs generalizing acc with
  | nil => simp [valueFrom?, Numeral.valueFrom]
  | cons c cs ih =>
    rw [valueFrom?, List.forall_mem_cons, isDigit, Numeral.valueFrom, List.foldl_cons]
    cases digit? c with
    | none => simp
    | some d =>
      simp only [Option.bind_eq_bind, Option.bind_some, Option.isSome_some, true_and,
        Option.getD_some]
      exact ih

theorem value?_eq_some_iff {n : Nat} {cs : List Char} :
    value? cs = some n ↔ (∀ c ∈ cs, isDigit c = true) ∧ value cs = n :=
  valueFrom?_eq_some_iff

private theorem digits_valueFrom {acc n : Nat} {cs : List Char} (hacc : 0 < acc)
    (h : valueFrom? acc cs = some n) : digits n = digits acc ++ cs := by
  induction cs generalizing acc with
  | nil =>
    rw [← Option.some.inj h, List.append_nil]
  | cons c cs ih =>
    rw [valueFrom?] at h
    cases hc : digit? c with
    | none => simp [hc] at h
    | some d =>
      rw [hc] at h
      obtain ⟨-, hd, hchar⟩ := digit?_eq_some hc
      have hdigits : digits (10 * acc + d) = digits acc ++ [c] := by
        rw [digits_of_le (by omega), ← hchar]
        congr 2
        · omega
        · congr 1
          omega
      rw [ih (by omega) h, hdigits, List.append_assoc]
      rfl

/-- The digits of the value of some digits are those digits without the zeros at their head. -/
theorem digits_of_value? {n : Nat} {cs : List Char} (h : value? cs = some n) :
    digits n = withoutZeros cs := by
  induction cs with
  | nil =>
    rw [← Option.some.inj h]
    rfl
  | cons c cs ih =>
    rw [value?, valueFrom?] at h
    cases hc : digit? c with
    | none => simp [hc] at h
    | some d =>
      rw [hc] at h
      obtain ⟨-, hd, hchar⟩ := digit?_eq_some hc
      by_cases hzero : c = '0'
      · subst hzero
        have hnone : d = 0 := (Option.some.inj hc).symm
        rw [hnone] at h
        rw [ih h, withoutZeros, withoutZeros, List.dropWhile_cons_of_pos (by simp)]
      · -- From the first digit that is not zero on, all of them are written.
        have hpos : 0 < d := by
          apply Nat.pos_of_ne_zero
          rintro rfl
          exact hzero hchar.symm
        have hone : digits (10 * 0 + d) = [c] := by
          rw [Nat.mul_zero, Nat.zero_add, digits_of_lt hd, hchar]
        rw [digits_valueFrom (by omega) h, hone, withoutZeros,
          List.dropWhile_cons_of_neg (by simpa using hzero)]
        rfl

end Decimal

namespace Hex

def value (cs : List Char) : Nat := Numeral.valueFrom 16 digit? 0 cs

def IsDigit (c : Char) : Prop :=
  '0' ≤ c ∧ c ≤ '9' ∨ 'a' ≤ c ∧ c ≤ 'f' ∨ 'A' ≤ c ∧ c ≤ 'F'

theorem exists_digit?_iff {c : Char} : (∃ d, digit? c = some d) ↔ IsDigit c := by
  unfold digit? IsDigit
  split_ifs <;> simp_all

/-- A digit is an ASCII character, and in lower case the one that is written for its value. -/
theorem digit?_eq_some {c : Char} {d : Nat} (h : digit? c = some d) :
    c.toNat < 0x80 ∧ c ≠ 'x' ∧ d < 16 ∧ Nat.digitChar d = Text.lowerChar c := by
  have hchar : ∀ n < 0x80, ∀ e ∈ digit? (Char.ofNat n), Char.ofNat n ≠ 'x' ∧ e < 16 ∧
      Nat.digitChar e = Text.lowerChar (Char.ofNat n) := by
    decide
  have hlt : c.toNat < 0x80 := by
    unfold digit? at h
    split_ifs at h with hnumber hsmall hcapital
    · exact Nat.lt_of_le_of_lt hnumber.2 (by decide)
    · exact Nat.lt_of_le_of_lt hsmall.2 (by decide)
    · exact Nat.lt_of_le_of_lt hcapital.2 (by decide)
  have hc := hchar c.toNat hlt d
  rw [Char.ofNat_toNat] at hc
  exact ⟨hlt, hc h⟩

theorem toNat_byte {high low : Nat} (hhigh : high < 16) (hlow : low < 16) :
    (UInt8.ofNat (16 * high + low)).toNat = 16 * high + low := by
  rw [UInt8.toNat_ofNat', Nat.mod_eq_of_lt (by omega)]

theorem decode?_cons_eq_some_iff {c d : Char} {cs : List Char} {bs : List UInt8} :
    decode? (c :: d :: cs) = some bs ↔
      ∃ high low rest, digit? c = some high ∧ digit? d = some low ∧ decode? cs = some rest ∧
        bs = UInt8.ofNat (16 * high + low) :: rest := by
  rw [decode?]
  cases digit? c <;> cases digit? d <;> cases decode? cs <;> simp [eq_comm]

theorem length_of_decode? {cs : List Char} {bs : List UInt8} (h : decode? cs = some bs) :
    cs.length = 2 * bs.length := by
  fun_induction decode? cs generalizing bs with
  | case1 =>
    cases h
    rfl
  | case2 c => cases h
  | case3 c d cs ih =>
    obtain ⟨high, low, rest, -, -, hrest, rfl⟩ := decode?_cons_eq_some_iff.1 h
    simp only [List.length_cons, ih hrest]
    omega

theorem isDigit_of_decode? {cs : List Char} {bs : List UInt8} (h : decode? cs = some bs) :
    ∀ c ∈ cs, IsDigit c := by
  fun_induction decode? cs generalizing bs with
  | case1 => simp
  | case2 c => cases h
  | case3 c d cs ih =>
    obtain ⟨high, low, rest, hc, hd, hrest, -⟩ := decode?_cons_eq_some_iff.1 h
    rw [List.forall_mem_cons, List.forall_mem_cons]
    exact ⟨exists_digit?_iff.1 ⟨high, hc⟩, exists_digit?_iff.1 ⟨low, hd⟩, ih hrest⟩

theorem exists_decode? {cs : List Char} (heven : cs.length % 2 = 0) (h : ∀ c ∈ cs, IsDigit c) :
    ∃ bs, decode? cs = some bs := by
  fun_induction decode? cs with
  | case1 => exact ⟨[], rfl⟩
  | case2 c => simp at heven
  | case3 c d cs ih =>
    rw [List.forall_mem_cons, List.forall_mem_cons] at h
    obtain ⟨high, hc⟩ := exists_digit?_iff.2 h.1
    obtain ⟨low, hd⟩ := exists_digit?_iff.2 h.2.1
    simp only [List.length_cons] at heven
    obtain ⟨rest, hrest⟩ := ih (by omega) h.2.2
    exact ⟨_, decode?_cons_eq_some_iff.2 ⟨high, low, rest, hc, hd, hrest, rfl⟩⟩

private theorem foldl_of_decode? {cs : List Char} {bs : List UInt8} (h : decode? cs = some bs)
    (acc : Nat) :
    bs.foldl (fun n b => 256 * n + b.toNat) acc = Numeral.valueFrom 16 digit? acc cs := by
  fun_induction decode? cs generalizing bs acc with
  | case1 =>
    cases h
    rfl
  | case2 c => cases h
  | case3 c d cs ih =>
    obtain ⟨high, low, rest, hc, hd, hrest, rfl⟩ := decode?_cons_eq_some_iff.1 h
    obtain ⟨-, -, hhigh, -⟩ := digit?_eq_some hc
    obtain ⟨-, -, hlow, -⟩ := digit?_eq_some hd
    have hbyte := toNat_byte hhigh hlow
    rw [List.foldl_cons, ih hrest, hbyte, Numeral.valueFrom, Numeral.valueFrom, List.foldl_cons,
      List.foldl_cons, hc, hd]
    congr 1
    simp only [Option.getD_some]
    omega

theorem value_of_decode? {cs : List Char} {bs : List UInt8} (h : decode? cs = some bs) :
    value cs = BigEndian.decode bs :=
  (foldl_of_decode? h 0).symm

theorem encode_of_decode? {cs : List Char} {bs : List UInt8} (h : decode? cs = some bs) :
    encode bs = cs.map Text.lowerChar := by
  fun_induction decode? cs generalizing bs with
  | case1 =>
    cases h
    rfl
  | case2 c => cases h
  | case3 c d cs ih =>
    obtain ⟨high, low, rest, hc, hd, hrest, rfl⟩ := decode?_cons_eq_some_iff.1 h
    obtain ⟨-, -, hhigh, hcharHigh⟩ := digit?_eq_some hc
    obtain ⟨-, -, hlow, hcharLow⟩ := digit?_eq_some hd
    have hbyte := toNat_byte hhigh hlow
    have hupper : (16 * high + low) / 16 = high := by omega
    have hlower : (16 * high + low) % 16 = low := by omega
    have hpair : pair (UInt8.ofNat (16 * high + low)) = [Text.lowerChar c, Text.lowerChar d] := by
      rw [pair, hbyte, hupper, hlower, hcharHigh, hcharLow]
    have htail := ih hrest
    rw [encode] at htail ⊢
    rw [List.flatMap_cons, hpair, htail]
    rfl

end Hex

namespace Text

theorem toNat_ofByte (b : UInt8) : (ofByte b).toNat = b.toNat := by
  have hb := b.toNat_lt
  have hvalid : b.toNat.isValidChar := Or.inl (by omega)
  rw [ofByte, Char.ofNat, dif_pos hvalid]
  rfl

theorem utf8EncodeChar_of_lt {c : Char} (h : c.toNat < 0x80) :
    String.utf8EncodeChar c = [UInt8.ofNat c.toNat] := by
  have hval : c.val.toNat ≤ 127 := by
    have hsame : c.toNat = c.val.toNat := rfl
    omega
  simp only [String.utf8EncodeChar, if_pos hval]
  rfl

theorem exists_mem_utf8EncodeChar {c : Char} (h : 0x80 ≤ c.toNat) :
    ∃ b ∈ String.utf8EncodeChar c, 0x80 ≤ b.toNat := by
  have hsame : c.toNat = c.val.toNat := rfl
  have hval : ¬ c.val.toNat ≤ 127 := by omega
  simp only [String.utf8EncodeChar, if_neg hval]
  -- The last byte of every longer encoding carries six bits behind the mark of a continuation.
  have hlast : 0x80 ≤ (UInt8.ofNat (c.val.toNat % 64 + 128)).toNat := by
    rw [UInt8.toNat_ofNat', Nat.mod_eq_of_lt (by omega)]
    omega
  split_ifs
  · exact ⟨_, by simp, hlast⟩
  · exact ⟨_, by simp, hlast⟩
  · exact ⟨_, by simp, hlast⟩

theorem forall_mem_encode_cons {p : UInt8 → Prop} {c : Char} {cs : List Char} :
    (∀ b ∈ encode (c :: cs), p b) ↔
      (∀ b ∈ String.utf8EncodeChar c, p b) ∧ ∀ b ∈ encode cs, p b := by
  rw [encode, List.flatMap_cons, List.forall_mem_append]
  rfl

theorem forall_mem_encode_iff {p : UInt8 → Prop} (hp : ∀ b, p b → b.toNat < 0x80) {cs : List Char} :
    (∀ b ∈ encode cs, p b) ↔ ∀ c ∈ cs, c.toNat < 0x80 ∧ p (UInt8.ofNat c.toNat) := by
  induction cs with
  | nil => simp [encode]
  | cons c cs ih =>
    rw [forall_mem_encode_cons, List.forall_mem_cons, ih]
    by_cases hc : c.toNat < 0x80
    · simp [utf8EncodeChar_of_lt hc, hc]
    · obtain ⟨b, hb, hlarge⟩ := exists_mem_utf8EncodeChar (Nat.not_lt.1 hc)
      constructor
      · rintro ⟨hall, -⟩
        exact absurd (hp b (hall b hb)) (Nat.not_lt.2 hlarge)
      · rintro ⟨⟨hsmall, -⟩, -⟩
        exact absurd hsmall hc

theorem map_ofByte_encode {cs : List Char} (h : ∀ c ∈ cs, c.toNat < 0x80) :
    (encode cs).map ofByte = cs := by
  induction cs with
  | nil => rfl
  | cons c cs ih =>
    rw [List.forall_mem_cons] at h
    have hbyte : ofByte (UInt8.ofNat c.toNat) = c := by
      have hc := h.1
      rw [ofByte, UInt8.toNat_ofNat', Nat.mod_eq_of_lt (by omega), Char.ofNat_toNat]
    have htail := ih h.2
    rw [encode] at htail ⊢
    rw [List.flatMap_cons, utf8EncodeChar_of_lt h.1, List.map_append, htail, List.map_singleton, hbyte]
    rfl

end Text

end AtomicSwap
