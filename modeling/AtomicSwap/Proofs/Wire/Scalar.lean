import AtomicSwap.Wire.Config
import Mathlib.Data.Nat.Digits.Defs

/-!
Scalars read back: the byte strings, amounts and numbers that are written in announcements and
records, each by the reader of its own form.
-/

set_option autoImplicit false
set_option relaxedAutoImplicit false

namespace AtomicSwap

namespace Wire

private def digitByte (d : Nat) : UInt8 := UInt8.ofNat (Nat.digitChar d).toNat

private theorem digitByte_spec {d : Nat} (h : d < 16) :
    String.utf8EncodeChar (Nat.digitChar d) = [digitByte d] ∧ hexDigit? (digitByte d) = some d ∧
      Nat.digitChar d ≠ 'x' := by
  have hall : ∀ d < 16, String.utf8EncodeChar (Nat.digitChar d) = [digitByte d] ∧
      hexDigit? (digitByte d) = some d ∧ Nat.digitChar d ≠ 'x' := by decide
  exact hall d h

private theorem halves_lt (b : UInt8) : b.toNat / 16 < 16 ∧ b.toNat % 16 < 16 := by
  have hb := b.toNat_lt
  omega

private theorem ofNat_halves (b : UInt8) :
    UInt8.ofNat (16 * (b.toNat / 16) + b.toNat % 16) = b := by
  rw [Nat.div_add_mod, UInt8.ofNat_toNat]

private theorem encode_hex_cons (b : UInt8) (bs : List UInt8) :
    Text.encode (Hex.encode (b :: bs))
      = digitByte (b.toNat / 16) :: digitByte (b.toNat % 16) :: Text.encode (Hex.encode bs) := by
  obtain ⟨hhigh, hlow⟩ := halves_lt b
  have hs : Hex.encode (b :: bs)
      = Nat.digitChar (b.toNat / 16) :: Nat.digitChar (b.toNat % 16) :: Hex.encode bs := rfl
  rw [hs, Text.encode, List.flatMap_cons, List.flatMap_cons, (digitByte_spec hhigh).1,
    (digitByte_spec hlow).1]
  rfl

private theorem length_encode_hex (bs : List UInt8) :
    (Text.encode (Hex.encode bs)).length = 2 * bs.length := by
  induction bs with
  | nil => rfl
  | cons b bs ih =>
    rw [encode_hex_cons, List.length_cons, List.length_cons, ih, List.length_cons]
    omega

private theorem strictPairs_encode (index : Nat) (bs : List UInt8) :
    strictPairs index (Text.encode (Hex.encode bs)) = .ok bs := by
  induction bs generalizing index with
  | nil => rfl
  | cons b bs ih =>
    obtain ⟨hhigh, hlow⟩ := halves_lt b
    rw [encode_hex_cons, strictPairs, (digitByte_spec hhigh).2.1, (digitByte_spec hlow).2.1]
    simp only
    rw [ih, ofNat_halves]
    rfl

private theorem lenientPairs_pair {b c : UInt8} {high low : Nat} (hb : hexDigit? b = some high)
    (hc : hexDigit? c = some low) (index : Nat) (rest : List UInt8) :
    lenientPairs none index (b :: c :: rest)
      = (UInt8.ofNat (16 * high + low) :: ·) <$> lenientPairs none (index + 2) rest := by
  have hfirst : lenientPairs none index (b :: c :: rest)
      = lenientPairs (some high) (index + 1) (c :: rest) := by
    rw [lenientPairs.eq_def]
    simp only [hb]
  rw [hfirst, lenientPairs.eq_def]
  simp only [hc]
  cases lenientPairs none (index + 2) rest <;> rfl

private theorem lenientPairs_encode (index : Nat) (bs : List UInt8) :
    lenientPairs none index (Text.encode (Hex.encode bs)) = .ok bs := by
  induction bs generalizing index with
  | nil => rfl
  | cons b bs ih =>
    obtain ⟨hhigh, hlow⟩ := halves_lt b
    rw [encode_hex_cons, lenientPairs_pair (digitByte_spec hhigh).2.1 (digitByte_spec hlow).2.1, ih,
      ofNat_halves]
    rfl

private theorem strictHex_encode (bs : List UInt8) : strictHex (Hex.encode bs) = .ok bs := by
  have heven : ¬ (Text.encode (Hex.encode bs)).length % 2 = 1 := by
    rw [length_encode_hex]
    omega
  rw [strictHex]
  simp only [if_neg heven]
  exact strictPairs_encode 0 bs

private def valueFrom (acc : Nat) (ds : List Nat) : Nat := ds.foldl (fun acc d => 16 * acc + d) acc

private theorem exists_hexDigits (n : Nat) :
    ∃ ds : List Nat, Hex.digits n = ds.map Nat.digitChar ∧ (∀ d ∈ ds, d < 16) ∧ ds ≠ [] ∧
      valueFrom 0 ds = n := by
  induction n using Nat.strongRecOn with
  | ind n ih =>
    by_cases hn : n < 16
    · exact ⟨[n], Hex.digits_of_lt hn, by simpa using hn, by simp, by simp [valueFrom]⟩
    · obtain ⟨ds, hdigits, hlt, -, hvalue⟩ := ih (n / 16) (by omega)
      refine ⟨ds ++ [n % 16], ?_, ?_, by simp, ?_⟩
      · rw [Hex.digits_of_le (Nat.not_lt.1 hn), hdigits, List.map_append]
        rfl
      · intro d hd
        rcases List.mem_append.1 hd with hd | hd
        · exact hlt d hd
        · rw [List.mem_singleton.1 hd]
          exact Nat.mod_lt _ (by decide)
      · rw [valueFrom] at hvalue ⊢
        rw [List.foldl_append, hvalue]
        exact Nat.div_add_mod n 16

private theorem encode_digits {ds : List Nat} (h : ∀ d ∈ ds, d < 16) :
    Text.encode (ds.map Nat.digitChar) = ds.map digitByte := by
  induction ds with
  | nil => rfl
  | cons d ds ih =>
    have htail := ih fun e he => h e (List.mem_cons_of_mem d he)
    rw [Text.encode] at htail ⊢
    rw [List.map_cons, List.flatMap_cons, (digitByte_spec (h d List.mem_cons_self)).1, htail]
    rfl

private theorem lenientPairs_digits {ds : List Nat} (hds : ∀ d ∈ ds, d < 16) (pending : Option Nat)
    (hpending : ∀ d ∈ pending, d < 16) (heven : (pending.toList ++ ds).length % 2 = 0)
    (index : Nat) :
    ∃ bs, lenientPairs pending index (ds.map digitByte) = .ok bs ∧
      ∀ acc, bs.foldl (fun acc b => 256 * acc + b.toNat) acc
        = valueFrom acc (pending.toList ++ ds) := by
  induction ds generalizing pending index with
  | nil =>
    cases pending with
    | none => exact ⟨[], rfl, fun acc => rfl⟩
    | some high => simp at heven
  | cons d ds ih =>
    have hd := hds d List.mem_cons_self
    have hrest := fun e he => hds e (List.mem_cons_of_mem d he)
    rw [List.map_cons, lenientPairs.eq_def]
    cases pending with
    | none =>
      have hopen : ∀ e ∈ some d, e < 16 := by
        rintro e ⟨⟩
        exact hd
      obtain ⟨bs, hpairs, hvalue⟩ := ih hrest (some d) hopen heven (index + 1)
      refine ⟨bs, ?_, hvalue⟩
      simp only [(digitByte_spec hd).2.1]
      exact hpairs
    | some high =>
      have hhigh : high < 16 := hpending high rfl
      have hshort : ((none : Option Nat).toList ++ ds).length % 2 = 0 := by
        simp only [Option.toList_some, List.length_append, List.length_cons, List.length_nil,
          Option.toList_none] at heven ⊢
        omega
      obtain ⟨bs, hpairs, hvalue⟩ := ih hrest none (by simp) hshort (index + 1)
      refine ⟨UInt8.ofNat (16 * high + d) :: bs, ?_, ?_⟩
      · simp only [(digitByte_spec hd).2.1, hpairs]
        rfl
      · intro acc
        have hbyte : (UInt8.ofNat (16 * high + d)).toNat = 16 * high + d := by
          rw [UInt8.toNat_ofNat', Nat.mod_eq_of_lt (by omega)]
        rw [List.foldl_cons, hvalue, hbyte]
        show valueFrom _ ds = valueFrom (16 * (16 * acc + high) + d) ds
        congr 1
        omega

private theorem dropMarks_encode (bs : List UInt8) : dropMarks (Hex.encode bs) = Hex.encode bs := by
  cases bs with
  | nil => rfl
  | cons b bs =>
    have hs : Hex.encode (b :: bs)
        = Nat.digitChar (b.toNat / 16) :: Nat.digitChar (b.toNat % 16) :: Hex.encode bs := rfl
    have hx := (digitByte_spec (halves_lt b).2).2.2
    rw [hs, dropMarks.eq_def]
    split
    · rename_i heq
      exact absurd (List.cons.inj (List.cons.inj heq).2).1 hx
    · rfl

theorem readWord_hex (b : Bytes 32) : readWord b.hex = .ok b := by
  rw [readWord, Bytes.hex, Hex.text, String.toList_ofList, dropMarks_encode, strictHex_encode]
  simp [bind, Except.bind]
  rfl

theorem lenientHex_prefixedHex {n : Nat} (b : Bytes n) :
    lenientHex (fun length => length = 2 * n) b.prefixedHex = .ok b.toList := by
  have hlength : (Text.encode (Hex.encode b.toList)).length = 2 * n := by
    rw [length_encode_hex, b.length_eq]
  have heven : ¬ 2 * n % 2 = 1 := by omega
  rw [lenientHex, Bytes.prefixedHex, String.toList_ofList, dropMark]
  simp only [hlength, decide_true, if_true, if_neg heven]
  exact lenientPairs_encode 2 b.toList

theorem fill_toList : ∀ {n : Nat} (bs : List UInt8) (h : bs.length = n), fill n bs = ⟨bs, h⟩
  | 0, [], _ => rfl
  | n + 1, b :: bs, h => by
    have hrest := fill_toList bs (Nat.succ.inj h)
    simp only [fill, List.tail_cons, List.headD_cons, hrest]

theorem readAddress_prefixedHex {n : Nat} (b : Bytes n) : readAddress n b.prefixedHex = .ok b := by
  rw [readAddress, lenientHex_prefixedHex]
  show Except.ok (fill n b.toList) = _
  rw [fill_toList b.toList b.length_eq]

theorem readSecret_hex (b : Bytes 32) : readSecret b.hex = .ok b := by
  rw [readSecret, Bytes.hex, Hex.text, String.toList_ofList, strictHex_encode]
  simp [bind, Except.bind]
  rfl

theorem readHexAmount_hex (a : Amount) : readHexAmount a.hex = .ok a := by
  obtain ⟨ds, hdigits, hds, hne, hvalue⟩ := exists_hexDigits a.toNat
  have hlength : (ds.map digitByte).length = ds.length := List.length_map _
  have hpositive : 0 < ds.length := List.length_pos_iff.2 hne
  have hshort : ds.length ≤ 64 := by
    have hle := Nat.toDigits_length 16 a.toNat 64 (by decide) a.isLt
    rwa [← Hex.digits, hdigits, List.length_map] at hle
  -- At an odd length the first digit is read as if a zero stood ahead of it.
  have hpairs : ∃ bs, lenientPairs (if ds.length % 2 = 1 then some 0 else none) 2 (ds.map digitByte)
      = .ok bs ∧ BigEndian.decode bs = a.toNat := by
    by_cases hodd : ds.length % 2 = 1
    · obtain ⟨bs, hbs, hread⟩ := lenientPairs_digits hds (some 0) (by simp) (by simp; omega) 2
      refine ⟨bs, by rwa [if_pos hodd], ?_⟩
      rw [BigEndian.decode, hread]
      exact hvalue
    · obtain ⟨bs, hbs, hread⟩ := lenientPairs_digits hds none (by simp) (by simp; omega) 2
      refine ⟨bs, by rwa [if_neg hodd], ?_⟩
      rw [BigEndian.decode, hread]
      exact hvalue
  obtain ⟨bs, hbs, hread⟩ := hpairs
  have hlenient : lenientHex (fun length => 0 < length ∧ length ≤ 64) a.hex = .ok bs := by
    rw [lenientHex, Amount.hex, String.toList_ofList, dropMark, hdigits]
    simp only [encode_digits hds, hlength, hpositive, hshort, and_self, decide_true, if_true]
    exact hbs
  have hclamp : Amount.clamp (BigEndian.decode bs) = a := by
    rw [hread, Amount.clamp, Amount.ofNat?_eq_some_iff.2 rfl]
    rfl
  rw [readHexAmount, hlenient]
  exact congrArg Except.ok hclamp

theorem decimalFrom_of_valueFrom? {acc : Nat} {cs : List Char} {a : Amount}
    (h : Decimal.valueFrom? acc cs = some a.toNat) : decimalFrom acc cs = .ok a := by
  induction cs generalizing acc with
  | nil =>
    have hacc : acc = a.toNat := Option.some.inj h
    have hsome : Amount.ofNat? acc = some a := Amount.ofNat?_eq_some_iff.2 hacc.symm
    rw [decimalFrom, hsome]
  | cons c cs ih =>
    rw [Decimal.valueFrom?] at h
    cases hc : Decimal.digit? c with
    | none => simp [hc] at h
    | some d =>
      rw [hc] at h
      have hle := Decimal.le_of_valueFrom? h
      have hlt := a.isLt
      rw [decimalFrom, hc]
      simp only
      rw [if_pos (by omega)]
      exact ih h

theorem readDecimal_decimal (a : Amount) : readDecimal a.decimal = .ok a := by
  rw [readDecimal, Amount.decimal, Decimal.text, String.toList_ofList]
  exact decimalFrom_of_valueFrom? (Decimal.value?_digits a.toNat)

@[simp] theorem digitsDecoder_digits (b : Bytes 32) : digitsDecoder (digits b) = .ok b := by
  show Decoder.scalar readWord (.text (some b.hex)) = _
  simp [Decoder.scalar, Decoder.text, bind, Except.bind, readWord_hex, pure, Except.pure]

@[simp] theorem addressDecoder_address {n : Nat} (b : Bytes n) :
    addressDecoder n (address b) = .ok b := by
  show Decoder.scalar (readAddress n) (.text (some b.prefixedHex)) = _
  simp [Decoder.scalar, Decoder.text, bind, Except.bind, readAddress_prefixedHex, pure, Except.pure]

@[simp] theorem decimalDecoder_decimal (a : Amount) : decimalDecoder (decimal a) = .ok a := by
  show Decoder.scalar readDecimal (.text (some a.decimal)) = _
  simp [Decoder.scalar, Decoder.text, bind, Except.bind, readDecimal_decimal, pure, Except.pure]

theorem kind_ofNat (n : UInt64) : (Json.Literal.ofNat n.toNat).kind = .natural n := by
  have hvalue : Json.Literal.valueOf (Decimal.digits n.toNat) = n.toNat := by
    rw [Json.Literal.valueOf, Decimal.value?_digits, Option.getD_some]
  rw [Json.Literal.kind]
  simp [Json.Literal.ofNat, hvalue, n.toNat_lt]

@[simp] theorem word_word (n : UInt64) : Decoder.word (word n) = .ok n := by
  show Decoder.word (.number (Json.Literal.ofNat n.toNat)) = _
  rw [Decoder.word, kind_ofNat]

theorem isSound_word (room : Nat) (n : UInt64) : (word n).isSound room = true := by
  show decide ((Json.Literal.ofNat n.toNat).kind ≠ .outOfRange) = true
  rw [kind_ofNat]
  rfl

@[simp] theorem scalar_readSecret_digits (b : Bytes 32) :
    Decoder.scalar readSecret (digits b) = .ok b := by
  show Decoder.scalar readSecret (.text (some b.hex)) = _
  simp [Decoder.scalar, Decoder.text, bind, Except.bind, readSecret_hex, pure, Except.pure]

@[simp] theorem amountDecoder_amount (a : Amount) : amountDecoder (amount a) = .ok a := by
  show Decoder.scalar readHexAmount (.text (some a.hex)) = _
  simp [Decoder.scalar, Decoder.text, bind, Except.bind, readHexAmount_hex, pure, Except.pure]

theorem byte_ofNat (b : UInt8) : Decoder.byte (Json.ofNat b.toNat) = .ok b := by
  have hword := word_word b.toUInt64
  have hlt := b.toNat_lt
  rw [word, UInt8.toNat_toUInt64] at hword
  simp only [Decoder.byte, hword, bind, Except.bind, UInt8.toNat_toUInt64]
  rw [if_pos (by omega), UInt8.ofNat_toNat]
  rfl

theorem takeBytes_succ (n : Nat) (items : Json.Items) :
    Decoder.takeBytes (n + 1) items = (do
      let (head, items) ← items.next
      let b ← Decoder.byte head
      let (bs, items) ← Decoder.takeBytes n items
      pure (⟨b :: bs.toList, by simp [bs.length_eq]⟩, items)) := rfl

theorem takeBytes_ofList : ∀ {n : Nat} (bs : List UInt8) (h : bs.length = n),
    Decoder.takeBytes n (.ofList (bs.map fun b => Json.ofNat b.toNat)) = .ok (⟨bs, h⟩, .nil)
  | 0, [], _ => rfl
  | n + 1, b :: bs, h => by
    have hrest := takeBytes_ofList bs (Nat.succ.inj h)
    simp only [List.map_cons, Json.Items.ofList, takeBytes_succ, Json.Items.next, byte_ofNat, hrest,
      bind, Except.bind]
    rfl

/-- A byte string is read back from an array, whether straight from a text or from what was kept of
it. -/
@[simp] theorem bytes_byteArray {n : Nat} (source : Source) (b : Bytes n) :
    Decoder.bytes source n (byteArray b) = .ok b := by
  show Decoder.bytes source n (.array (.ofList (b.toList.map fun x => Json.ofNat x.toNat))) = _
  rw [Decoder.bytes, takeBytes_ofList b.toList b.length_eq]
  rfl

@[simp] theorem stateDecoder_state (s : State) : stateDecoder (state s) = .ok s := by
  cases s <;> rfl

/-- What is read from the address of an asset is the asset that the address stands for. -/
@[simp] theorem assetDecoder_asset (a : Asset) :
    assetDecoder (asset a) = .ok (Asset.ofAddress a.address) := by
  rw [assetDecoder, asset, addressDecoder_address]
  rfl

end Wire

end AtomicSwap
