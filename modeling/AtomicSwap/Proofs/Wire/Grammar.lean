import AtomicSwap.Proofs.Digits
import AtomicSwap.Proofs.Wire.Scalar

/-!
Which strings an announcement may hold for a byte string and for an amount, and what is read from
them. Every string of the grammar is read as what its digits write, and every other one is refused.
-/

set_option autoImplicit false
set_option relaxedAutoImplicit false

namespace AtomicSwap

theorem Decoder.scalar_ofText {α : Type} (read : String → Except ScalarError α) (s : String) :
    Decoder.scalar read (Json.ofText s) = (read s).mapError .scalar := by
  have htext : Decoder.text (Json.ofText s) = .ok s := rfl
  simp only [Decoder.scalar, htext, bind, Except.bind]
  cases read s <;> rfl

theorem Decoder.scalar_ofText_eq_ok {α : Type} {read : String → Except ScalarError α} {s : String}
    {a : α} (h : read s = .ok a) : Decoder.scalar read (Json.ofText s) = .ok a := by
  rw [Decoder.scalar_ofText, h]
  rfl

theorem Decoder.exists_scalar_ofText_eq_error {α : Type} {read : String → Except ScalarError α}
    {s : String} (h : ∀ a, read s ≠ .ok a) :
    ∃ cause, Decoder.scalar read (Json.ofText s) = .error (.scalar cause) := by
  rw [Decoder.scalar_ofText]
  cases hread : read s with
  | error cause => exact ⟨cause, rfl⟩
  | ok a => exact absurd hread (h a)

namespace Wire

def marks (n : Nat) : List Char := (List.replicate n ['0', 'x']).flatten

/-- The string is made of some marks and, behind them, of sixty-four hexadecimal digits. -/
def IsWordText (s : String) (ds : List Char) : Prop :=
  (∃ n, s.toList = marks n ++ ds) ∧ ds.length = 64 ∧ ∀ c ∈ ds, Hex.IsDigit c

/-- Every byte of the string is an ASCII digit, and what the digits write is an amount. -/
def IsDecimalText (s : String) : Prop :=
  (∀ b ∈ Text.encode s.toList, 0x30 ≤ b.toNat ∧ b.toNat ≤ 0x39) ∧
    Decimal.value s.toList < 2 ^ 256

theorem strictPairs_eq_ok_iff {index : Nat} {l bs : List UInt8} :
    strictPairs index l = .ok bs ↔ Hex.decode? (l.map Text.ofByte) = some bs := by
  fun_induction strictPairs index l generalizing bs with
  | case1 => simp [Hex.decode?]
  | case2 => simp [Hex.decode?]
  | case3 index b c rest hb => simp [Hex.decode?, show Hex.digit? (Text.ofByte b) = none from hb]
  | case4 index b c rest high hc hb =>
    simp [Hex.decode?, show Hex.digit? (Text.ofByte c) = none from hc]
  | case5 index b c rest high low hc hb ih =>
    rw [List.map_cons, List.map_cons, Hex.decode?_cons_eq_some_iff, bind_eq_ok_iff]
    constructor
    · rintro ⟨bs', hrest, heq⟩
      cases heq
      exact ⟨high, low, bs', hb, hc, ih.1 hrest, rfl⟩
    · rintro ⟨high', low', bs', hb', hc', hrest, rfl⟩
      cases (show some high = some high' from hb.symm.trans hb')
      cases (show some low = some low' from hc.symm.trans hc')
      exact ⟨bs', ih.2 hrest, rfl⟩

private theorem lt_of_isDigit {b : UInt8} (h : Hex.IsDigit (Text.ofByte b)) : b.toNat < 0x80 := by
  obtain ⟨d, hd⟩ := Hex.exists_digit?_iff.2 h
  have hlt := (Hex.digit?_eq_some hd).1
  rwa [Text.toNat_ofByte] at hlt

private theorem lt_of_hexDigits {cs : List Char} (h : ∀ c ∈ cs, Hex.IsDigit c) :
    ∀ c ∈ cs, c.toNat < 0x80 := by
  intro c hc
  obtain ⟨d, hd⟩ := Hex.exists_digit?_iff.2 (h c hc)
  exact (Hex.digit?_eq_some hd).1

theorem strictHex_eq_ok_iff {cs : List Char} {bs : List UInt8} :
    strictHex cs = .ok bs ↔ Hex.decode? cs = some bs := by
  constructor
  · intro h
    have hpairs : strictPairs 0 (Text.encode cs) = .ok bs := by
      unfold strictHex at h
      dsimp only at h
      split_ifs at h
      exact h
    rw [strictPairs_eq_ok_iff] at hpairs
    have hdigits : ∀ b ∈ Text.encode cs, Hex.IsDigit (Text.ofByte b) := by
      intro b hb
      exact Hex.isDigit_of_decode? hpairs _ (List.mem_map_of_mem hb)
    have hascii := (Text.forall_mem_encode_iff fun b => lt_of_isDigit).1 hdigits
    rwa [Text.map_ofByte_encode fun c hc => (hascii c hc).1] at hpairs
  · intro h
    have hmap := Text.map_ofByte_encode (lt_of_hexDigits (Hex.isDigit_of_decode? h))
    have hlength : (Text.encode cs).length = cs.length := by
      conv_rhs => rw [← hmap, List.length_map]
    have heven : ¬ (Text.encode cs).length % 2 = 1 := by
      rw [hlength, Hex.length_of_decode? h]
      omega
    unfold strictHex
    dsimp only
    rw [if_neg heven, strictPairs_eq_ok_iff, hmap]
    exact h

theorem readWord_eq_ok_iff {s : String} {b : Bytes 32} :
    readWord s = .ok b ↔ Hex.decode? (dropMarks s.toList) = some b.toList := by
  rw [readWord, bind_eq_ok_iff]
  constructor
  · rintro ⟨bs, hbs, hword⟩
    cases hlist : Bytes.ofList? 32 bs with
    | none =>
      rw [hlist] at hword
      cases hword
    | some b' =>
      rw [hlist] at hword
      cases hword
      rw [Bytes.ofList?_eq_some_iff.1 hlist]
      exact strictHex_eq_ok_iff.1 hbs
  · intro h
    refine ⟨b.toList, strictHex_eq_ok_iff.2 h, ?_⟩
    rw [Bytes.ofList?_toList]
    rfl

theorem exists_marks (cs : List Char) : ∃ n, cs = marks n ++ dropMarks cs := by
  fun_induction dropMarks cs with
  | case1 cs ih =>
    obtain ⟨n, hn⟩ := ih
    refine ⟨n + 1, ?_⟩
    rw [marks, List.replicate_succ, List.flatten_cons, ← marks, List.append_assoc, ← hn]
    rfl
  | case2 cs => exact ⟨0, rfl⟩

/-- The marks are cut off whole: no digit is one of their characters and begins another one. -/
theorem dropMarks_marks_append (n : Nat) {ds : List Char} (h : ∀ c ∈ ds, Hex.IsDigit c) :
    dropMarks (marks n ++ ds) = ds := by
  induction n with
  | zero =>
    show dropMarks ds = ds
    -- A mark at the head would have an `x` among the digits.
    rw [dropMarks.eq_def]
    split
    · rename_i cs
      obtain ⟨d, hd⟩ := Hex.exists_digit?_iff.2 (h 'x' (by simp))
      exact absurd rfl (Hex.digit?_eq_some hd).2.1
    · rfl
  | succ n ih =>
    rw [marks, List.replicate_succ, List.flatten_cons, ← marks]
    exact ih

theorem exists_readWord {s : String} {ds : List Char} (h : IsWordText s ds) :
    ∃ b, readWord s = .ok b ∧ Hex.decode? ds = some b.toList := by
  obtain ⟨⟨n, hs⟩, hlength, hdigits⟩ := h
  obtain ⟨bs, hbs⟩ := Hex.exists_decode? (by omega) hdigits
  have hbytes : bs.length = 32 := by
    have hpairs := Hex.length_of_decode? hbs
    omega
  refine ⟨⟨bs, hbytes⟩, ?_, hbs⟩
  rw [readWord_eq_ok_iff, hs, dropMarks_marks_append n hdigits]
  exact hbs

theorem exists_isWordText {s : String} {b : Bytes 32} (h : readWord s = .ok b) :
    ∃ ds, IsWordText s ds := by
  rw [readWord_eq_ok_iff] at h
  refine ⟨_, exists_marks s.toList, ?_, Hex.isDigit_of_decode? h⟩
  rw [Hex.length_of_decode? h, b.length_eq]

theorem decimalFrom_eq_ok_iff {acc : Nat} {cs : List Char} {a : Amount} :
    decimalFrom acc cs = .ok a ↔ Decimal.valueFrom? acc cs = some a.toNat := by
  refine ⟨?_, decimalFrom_of_valueFrom?⟩
  induction cs generalizing acc with
  | nil =>
    intro h
    rw [decimalFrom] at h
    cases hacc : Amount.ofNat? acc with
    | none => simp [hacc] at h
    | some a' =>
      rw [hacc] at h
      cases h
      rw [Decimal.valueFrom?, Amount.ofNat?_eq_some_iff.1 hacc]
  | cons c cs ih =>
    intro h
    rw [decimalFrom] at h
    rw [Decimal.valueFrom?]
    cases hc : Decimal.digit? c with
    | none => simp [hc] at h
    | some d =>
      simp only [hc] at h
      split_ifs at h
      exact ih h

private theorem isDigit_ofNat_iff {c : Char} :
    (c.toNat < 0x80 ∧ 0x30 ≤ (UInt8.ofNat c.toNat).toNat ∧ (UInt8.ofNat c.toNat).toNat ≤ 0x39) ↔
      Decimal.isDigit c = true := by
  rw [Decimal.isDigit_iff]
  show _ ↔ 0x30 ≤ c.toNat ∧ c.toNat ≤ 0x39
  rw [UInt8.toNat_ofNat']
  omega

theorem readDecimal_eq_ok_iff {s : String} {a : Amount} :
    readDecimal s = .ok a ↔ IsDecimalText s ∧ Decimal.value s.toList = a.toNat := by
  have hbytes : (∀ b ∈ Text.encode s.toList, 0x30 ≤ b.toNat ∧ b.toNat ≤ 0x39) ↔
      ∀ c ∈ s.toList, Decimal.isDigit c = true := by
    rw [Text.forall_mem_encode_iff fun b hb => by omega]
    exact forall₂_congr fun c hc => isDigit_ofNat_iff
  have hsmall := a.isLt
  rw [readDecimal, decimalFrom_eq_ok_iff, ← Decimal.value?, Decimal.value?_eq_some_iff, IsDecimalText,
    hbytes]
  constructor
  · rintro ⟨hdigits, hvalue⟩
    exact ⟨⟨hdigits, by omega⟩, hvalue⟩
  · rintro ⟨⟨hdigits, -⟩, hvalue⟩
    exact ⟨hdigits, hvalue⟩

/-- The strings of an announcement. Thirty-two bytes are read from any number of marks with sixty-four
digits of either case behind them, and from nothing else; they are what the digits write, and are
written again as the digits in lower case. An amount is read from digits alone whose value is one,
and from nothing else; it is that value, and is written again without zeros ahead. -/
theorem scalar_grammar (s : String) :
    (∀ ds, IsWordText s ds → ∃ b, digitsDecoder (Json.ofText s) = .ok b ∧
      BigEndian.decode b.toList = Hex.value ds ∧
      digits b = Json.ofText (String.ofList (ds.map Text.lowerChar))) ∧
      ((¬ ∃ ds, IsWordText s ds) →
        ∃ cause, digitsDecoder (Json.ofText s) = .error (.scalar cause)) ∧
      (IsDecimalText s → ∃ a, decimalDecoder (Json.ofText s) = .ok a ∧
        a.toNat = Decimal.value s.toList ∧
        decimal a = Json.ofText (String.ofList (Decimal.withoutZeros s.toList))) ∧
      (¬ IsDecimalText s →
        ∃ cause, decimalDecoder (Json.ofText s) = .error (.scalar cause)) := by
  refine ⟨?_, ?_, ?_, ?_⟩
  · intro ds hds
    obtain ⟨b, hread, hdecode⟩ := exists_readWord hds
    refine ⟨b, Decoder.scalar_ofText_eq_ok hread, (Hex.value_of_decode? hdecode).symm, ?_⟩
    rw [digits, Bytes.hex, Hex.text, Hex.encode_of_decode? hdecode]
  · intro hnone
    apply Decoder.exists_scalar_ofText_eq_error
    intro b hread
    exact hnone (exists_isWordText hread)
  · intro hs
    let a : Amount := ⟨Decimal.value s.toList, hs.2⟩
    have hread : readDecimal s = .ok a := readDecimal_eq_ok_iff.2 ⟨hs, rfl⟩
    have hvalue : Decimal.value? s.toList = some a.toNat := decimalFrom_eq_ok_iff.1 hread
    refine ⟨a, Decoder.scalar_ofText_eq_ok hread, rfl, ?_⟩
    rw [decimal, Amount.decimal, Decimal.text, Decimal.digits_of_value? hvalue]
  · intro hs
    apply Decoder.exists_scalar_ofText_eq_error
    intro a hread
    exact hs (readDecimal_eq_ok_iff.1 hread).1

theorem scalar_grammar_rewritten :
    (∃ b, digitsDecoder (Json.ofText (String.ofList (marks 2 ++ List.replicate 64 'A'))) = .ok b ∧
      digits b = Json.ofText (String.ofList (List.replicate 64 'a'))) ∧
      ∃ a, decimalDecoder (Json.ofText (String.ofList ['0', '0', '7'])) = .ok a ∧
        decimal a = Json.ofText (String.ofList ['7']) := by
  constructor
  · obtain ⟨hwords, -⟩ := scalar_grammar (String.ofList (marks 2 ++ List.replicate 64 'A'))
    have hcapital : Hex.IsDigit 'A' := by
      unfold Hex.IsDigit
      decide
    have hword : IsWordText (String.ofList (marks 2 ++ List.replicate 64 'A'))
        (List.replicate 64 'A') := by
      refine ⟨⟨2, String.toList_ofList⟩, List.length_replicate, ?_⟩
      intro c hc
      rwa [List.eq_of_mem_replicate hc]
    obtain ⟨b, hread, -, hwritten⟩ := hwords _ hword
    rw [List.map_replicate] at hwritten
    exact ⟨b, hread, hwritten⟩
  · obtain ⟨-, -, hamounts, -⟩ := scalar_grammar (String.ofList ['0', '0', '7'])
    have hdecimal : IsDecimalText (String.ofList ['0', '0', '7']) := by
      rw [IsDecimalText, String.toList_ofList]
      decide +kernel
    obtain ⟨a, hread, -, hwritten⟩ := hamounts hdecimal
    rw [String.toList_ofList] at hwritten
    exact ⟨a, hread, hwritten⟩

end Wire

end AtomicSwap
