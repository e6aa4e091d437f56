import AtomicSwap.Json.Decoder
import AtomicSwap.Json.Printer
import AtomicSwap.Proofs.Json.Text

/-!
Values read back. A plain value is one without a fault, whose numbers are naturals and whose strings
all write text. What is written for a plain value is read as that value.
-/

set_option autoImplicit false
set_option relaxedAutoImplicit false

namespace AtomicSwap

namespace Json

mutual

/-- Whether a value has no fault, naturals for numbers, and a text for each string. -/
def Plain : Json → Prop
  | .fault => False
  | .number l => ∃ n, l = Literal.ofNat n
  | .text s => s.isSome
  | .array items => items.Plain
  | .object members => members.Plain
  | _ => True

def Items.Plain : Items → Prop
  | .nil => True
  | .cons head tail => head.Plain ∧ tail.Plain
  | .fault => False

def Members.Plain : Members → Prop
  | .nil => True
  | .cons key value tail => key.isSome ∧ value.Plain ∧ tail.Plain
  | .stray _ => False
  | .fault => False

end

theorem plain_ofText (s : String) : (ofText s).Plain := rfl

theorem plain_ofNat (n : Nat) : (ofNat n).Plain := ⟨n, rfl⟩

theorem plain_ofMembers {ms : List (String × Json)} (h : ∀ m ∈ ms, m.2.Plain) :
    (ofMembers ms).Plain := by
  show (Members.ofList ms).Plain
  induction ms with
  | nil => exact trivial
  | cons m ms ih =>
    exact ⟨rfl, h m List.mem_cons_self, ih fun n hn => h n (List.mem_cons_of_mem m hn)⟩

theorem plain_ofItems {js : List Json} (h : ∀ j ∈ js, j.Plain) : (ofItems js).Plain := by
  show (Items.ofList js).Plain
  induction js with
  | nil => exact trivial
  | cons j js ih =>
    exact ⟨h j List.mem_cons_self, ih fun i hi => h i (List.mem_cons_of_mem j hi)⟩

/-- Whether a text goes on in a way that makes no number of digits ahead of it longer. -/
def Ends (rest : List Char) : Prop :=
  ∀ c ∈ rest.head?, Decimal.isDigit c = false ∧ c ≠ '.' ∧ c ≠ 'e' ∧ c ≠ 'E'

private theorem ends_nil : Ends [] := by simp [Ends]

private theorem ends_cons {c : Char} (h : c = ',' ∨ c = ']' ∨ c = '}') (rest : List Char) :
    Ends (c :: rest) := by
  rcases h with rfl | rfl | rfl
  · simp [Ends, show Decimal.isDigit ',' = false from rfl]
  · simp [Ends, show Decimal.isDigit ']' = false from rfl]
  · simp [Ends, show Decimal.isDigit '}' = false from rfl]

namespace Literal

private theorem readDigits_append {ds rest : List Char} (hds : ∀ c ∈ ds, Decimal.isDigit c = true)
    (hrest : Ends rest) : readDigits (ds ++ rest) = (ds, rest) := by
  have hhead : rest.takeWhile Decimal.isDigit = [] ∧ rest.dropWhile Decimal.isDigit = rest := by
    cases rest with
    | nil => exact ⟨rfl, rfl⟩
    | cons c rest => simp [(hrest c rfl).1]
  rw [readDigits, List.takeWhile_append_of_pos hds, List.dropWhile_append_of_pos hds, hhead.1,
    hhead.2, List.append_nil]

private theorem readWhole?_digits (n : Nat) {rest : List Char} (hrest : Ends rest) :
    readWhole? (Decimal.digits n ++ rest) = some (Decimal.digits n, rest) := by
  rw [readWhole?, readDigits_append (fun c => Decimal.isDigit_of_mem_digits) hrest]
  rcases Nat.eq_zero_or_pos n with rfl | hn
  · rfl
  · have hnil := Decimal.digits_ne_nil n
    have hzero := Decimal.head?_digits_ne_zero hn
    split
    · rename_i heq
      exact absurd (Prod.mk.inj heq).1 hnil
    · rename_i heq
      rw [(Prod.mk.inj heq).1] at hzero
      exact absurd rfl hzero
    · rename_i heq
      rw [← (Prod.mk.inj heq).1, ← (Prod.mk.inj heq).2]

private theorem readFraction?_of_ends {rest : List Char} (hrest : Ends rest) :
    readFraction? rest = some (none, rest) := by
  cases rest with
  | nil => rfl
  | cons c rest =>
    have hc := (hrest c rfl).2.1
    rw [readFraction?.eq_def]
    split
    · rename_i heq
      exact absurd (List.cons.inj heq).1 hc
    · rfl

private theorem readExponent?_of_ends {rest : List Char} (hrest : Ends rest) :
    readExponent? rest = some (none, rest) := by
  cases rest with
  | nil => rfl
  | cons c rest =>
    obtain ⟨-, -, he, hE⟩ := hrest c rfl
    rw [readExponent?.eq_def]
    split
    · rename_i heq
      exact absurd (List.cons.inj heq).1 he
    · rename_i heq
      exact absurd (List.cons.inj heq).1 hE
    · rfl

private theorem readUnsigned?_digits (n : Nat) {rest : List Char} (hrest : Ends rest) :
    readUnsigned? false (Decimal.digits n ++ rest) = some (ofNat n, rest) := by
  rw [readUnsigned?, readWhole?_digits n hrest]
  simp only [Option.bind_eq_bind, Option.bind_some]
  rw [readFraction?_of_ends hrest]
  simp only [Option.bind_some]
  rw [readExponent?_of_ends hrest]
  rfl

theorem print_ofNat (n : Nat) : (ofNat n).print = Decimal.digits n := by
  simp [print, ofNat]

end Literal

private def openers : List Char := ['n', 't', 'f', '"', '[', '{']

private def Opens (c : Char) : Prop := c ∈ openers ∨ Decimal.isDigit c = true

private theorem ne_of_isDigit {c d : Char} (hc : Decimal.isDigit c = true)
    (hd : Decimal.isDigit d = false) : c ≠ d := by
  rintro rfl
  exact absurd hc (by simp [hd])

private theorem Opens.isBlank_eq_false {c : Char} (h : Opens c) : isBlank c = false := by
  have hopeners : ∀ d ∈ openers, isBlank d = false := by simp [openers, isBlank]
  rcases h with h | h
  · exact hopeners c h
  · simp [isBlank, ne_of_isDigit h (d := ' ') rfl, ne_of_isDigit h (d := '\n') rfl,
      ne_of_isDigit h (d := '\t') rfl, ne_of_isDigit h (d := '\r') rfl]

private theorem Opens.ne_bracket {c : Char} (h : Opens c) : c ≠ ']' := by
  have hopeners : ∀ d ∈ openers, d ≠ ']' := by simp [openers]
  rcases h with h | h
  · exact hopeners c h
  · exact ne_of_isDigit h rfl

private theorem exists_digit (n : Nat) :
    ∃ c cs, Decimal.digits n = c :: cs ∧ Decimal.isDigit c = true := by
  cases hdigits : Decimal.digits n with
  | nil => exact absurd hdigits (Decimal.digits_ne_nil n)
  | cons c cs =>
    exact ⟨c, cs, rfl, Decimal.isDigit_of_mem_digits (n := n) (hdigits ▸ List.mem_cons_self)⟩

private theorem Plain.exists_opens {j : Json} (h : j.Plain) :
    ∃ c cs, j.chars = c :: cs ∧ Opens c := by
  match j, h with
  | .null, _ => exact ⟨'n', _, rfl, .inl (by decide)⟩
  | .bool true, _ => exact ⟨'t', _, rfl, .inl (by decide)⟩
  | .bool false, _ => exact ⟨'f', _, rfl, .inl (by decide)⟩
  | .number _, ⟨n, hn⟩ =>
    obtain ⟨c, cs, hdigits, hc⟩ := exists_digit n
    refine ⟨c, cs, ?_, .inr hc⟩
    rw [chars, hn, Literal.print_ofNat, hdigits]
  | .text (some s), _ => exact ⟨'"', _, rfl, .inl (by decide)⟩
  | .array _, _ => exact ⟨'[', _, rfl, .inl (by decide)⟩
  | .object _, _ => exact ⟨'{', _, rfl, .inl (by decide)⟩

private theorem skipBlanks_cons {c : Char} (h : isBlank c = false) (cs : List Char) :
    skipBlanks (c :: cs) = c :: cs := by
  simp [skipBlanks, h]

private theorem readValue_digits (n fuel : Nat) {rest : List Char} (hrest : Ends rest) :
    readValue (fuel + 1) (Decimal.digits n ++ rest) = (.number (Literal.ofNat n), some rest) := by
  have hread := Literal.readUnsigned?_digits n hrest
  obtain ⟨c, cs, hdigits, hc⟩ := exists_digit n
  have hopens : Opens c := .inr hc
  rw [hdigits, List.cons_append] at hread ⊢
  have hliteral : Literal.read? (c :: (cs ++ rest)) = some (Literal.ofNat n, rest) := by
    rw [Literal.read?.eq_def]
    split
    · rename_i heq
      exact absurd (List.cons.inj heq).1 (ne_of_isDigit hc rfl)
    · exact hread
  rw [readValue, skipBlanks_cons hopens.isBlank_eq_false]
  split <;> rename_i heq
  case h_7 => rw [hliteral]
  all_goals exact absurd (List.cons.inj heq).1 (ne_of_isDigit hc rfl)

private theorem print_append (s : String) (rest : List Char) :
    Text.print s ++ rest = '"' :: (s.toList.flatMap Text.printChar ++ '"' :: rest) := by
  simp [Text.print]

private theorem readValue_print (s : String) (fuel : Nat) (rest : List Char) :
    readValue (fuel + 1) (Text.print s ++ rest) = (.text (some s), some rest) := by
  rw [print_append, readValue, skipBlanks_cons rfl]
  simp only
  rw [Text.read?_print]

private theorem readValue_bracket {items : Items} {cs rest : List Char} {fuel : Nat}
    (hopens : ∃ c ds, cs = c :: ds ∧ Opens c)
    (hread : readItems fuel cs = (items, some rest)) :
    readValue (fuel + 1) ('[' :: cs) = (.array items, some rest) := by
  obtain ⟨c, ds, rfl, hc⟩ := hopens
  rw [readValue, skipBlanks_cons rfl]
  simp only
  rw [skipBlanks_cons hc.isBlank_eq_false]
  split
  · rename_i heq
    exact absurd (List.cons.inj heq).1 hc.ne_bracket
  · rw [hread]

private theorem readValue_brace {members : Members} {cs rest : List Char} {fuel : Nat}
    (hopens : ∃ ds, cs = '"' :: ds)
    (hread : readMembers fuel cs = (members, some rest)) :
    readValue (fuel + 1) ('{' :: cs) = (.object members, some rest) := by
  obtain ⟨ds, rfl⟩ := hopens
  rw [readValue, skipBlanks_cons rfl]
  simp only
  rw [skipBlanks_cons rfl]
  split
  · rename_i heq
    exact absurd (List.cons.inj heq).1 (by decide)
  · rw [hread]

private theorem Items.Plain.exists_opens {head : Json} {tail : Items} (h : head.Plain)
    (rest : List Char) :
    ∃ c cs, (Items.cons head tail).chars ++ rest = c :: cs ∧ Opens c := by
  obtain ⟨c, cs, hchars, hc⟩ := h.exists_opens
  cases tail with
  | nil => exact ⟨c, cs ++ rest, by rw [Items.chars, hchars, List.cons_append], hc⟩
  | fault =>
    exact ⟨c, cs ++ ',' :: Items.fault.chars ++ rest, by simp [Items.chars, hchars], hc⟩
  | cons next tail =>
    exact ⟨c, cs ++ ',' :: (Items.cons next tail).chars ++ rest, by simp [Items.chars, hchars], hc⟩

private theorem Members.exists_quote (key : String) (value : Json) (tail : Members)
    (rest : List Char) :
    ∃ cs, (Members.cons (some key) value tail).chars ++ rest = '"' :: cs := by
  cases tail <;> simp [Members.chars, Text.print]

private theorem readItems_last {j : Json} {cs rest : List Char} {fuel : Nat}
    (hread : readValue fuel cs = (j, some (']' :: rest))) :
    readItems (fuel + 1) cs = (.cons j .nil, some rest) := by
  rw [readItems, hread]
  simp only
  rw [skipBlanks_cons rfl]
  rfl

private theorem readItems_comma {j : Json} {tail : Items} {cs ds rest : List Char} {fuel : Nat}
    (hread : readValue fuel cs = (j, some (',' :: ds)))
    (htail : readItems fuel ds = (tail, some rest)) :
    readItems (fuel + 1) cs = (.cons j tail, some rest) := by
  rw [readItems, hread]
  simp only
  rw [skipBlanks_cons rfl]
  simp only
  rw [htail]

private theorem readMembers_print {key : String} {j : Json} {cs rest : List Char} {fuel : Nat}
    {answer : Members × Option (List Char)} (hread : readValue fuel cs = (j, some rest))
    (hanswer : (match skipBlanks rest with
      | '}' :: rest => (.cons (some key) j .nil, some rest)
      | ',' :: rest => (.cons (some key) j (readMembers fuel rest).1, (readMembers fuel rest).2)
      | _ => (.cons (some key) j .fault, none)) = answer) :
    readMembers (fuel + 1) (Text.print key ++ ':' :: cs) = answer := by
  rw [print_append, readMembers, skipBlanks_cons rfl]
  simp only
  rw [Text.read?_print]
  simp only
  rw [skipBlanks_cons rfl]
  simp only
  rw [hread]
  exact hanswer

private theorem readMembers_last {key : String} {j : Json} {cs rest : List Char} {fuel : Nat}
    (hread : readValue fuel cs = (j, some ('}' :: rest))) :
    readMembers (fuel + 1) (Text.print key ++ ':' :: cs)
      = (.cons (some key) j .nil, some rest) :=
  readMembers_print hread rfl

private theorem readMembers_comma {key : String} {j : Json} {tail : Members}
    {cs ds rest : List Char} {fuel : Nat} (hread : readValue fuel cs = (j, some (',' :: ds)))
    (htail : readMembers fuel ds = (tail, some rest)) :
    readMembers (fuel + 1) (Text.print key ++ ':' :: cs)
      = (.cons (some key) j tail, some rest) := by
  refine readMembers_print hread ?_
  rw [skipBlanks_cons rfl]
  simp only
  rw [htail]

mutual

/-- A plain value is read back from its characters, up to what follows them. -/
theorem readValue_chars : ∀ {j : Json} {fuel : Nat} (rest : List Char), j.Plain →
    2 * j.chars.length ≤ fuel → Ends rest → readValue fuel (j.chars ++ rest) = (j, some rest)
  | .null, fuel + 1, rest, _, _, _ => by rw [chars, readValue]; rfl
  | .bool true, fuel + 1, rest, _, _, _ => by rw [chars, readValue]; rfl
  | .bool false, fuel + 1, rest, _, _, _ => by rw [chars, readValue]; rfl
  | .number _, fuel + 1, rest, ⟨n, hn⟩, _, hrest => by
    rw [chars, hn, Literal.print_ofNat]
    exact readValue_digits n fuel hrest
  | .text (some s), fuel + 1, rest, _, _, _ => readValue_print s fuel rest
  | .array .nil, fuel + 1, rest, _, _, _ => by rw [chars, readValue]; rfl
  | .array (.cons head tail), fuel + 1, rest, h, hfuel, _ => by
    have hlength : 2 * (Items.cons head tail).chars.length + 1 ≤ fuel := by
      simp only [chars, List.cons_append, List.length_cons, List.length_append] at hfuel
      omega
    have hread := readItems_chars rest h hlength
    have hchars : (Json.array (.cons head tail)).chars ++ rest
        = '[' :: ((Items.cons head tail).chars ++ ']' :: rest) := by
      simp [chars]
    rw [hchars]
    exact readValue_bracket (Items.Plain.exists_opens h.1 _) hread
  | .object .nil, fuel + 1, rest, _, _, _ => by rw [chars, readValue]; rfl
  | .object (.cons (some key) value tail), fuel + 1, rest, h, hfuel, _ => by
    have hlength : 2 * (Members.cons (some key) value tail).chars.length + 1 ≤ fuel := by
      simp only [chars, List.cons_append, List.length_cons, List.length_append] at hfuel
      omega
    have hread := readMembers_chars rest h hlength
    have hchars : (Json.object (.cons (some key) value tail)).chars ++ rest
        = '{' :: ((Members.cons (some key) value tail).chars ++ '}' :: rest) := by
      simp [chars]
    rw [hchars]
    exact readValue_brace (Members.exists_quote key value tail _) hread
  | j, 0, rest, h, hfuel, _ => by
    obtain ⟨c, cs, hchars, -⟩ := h.exists_opens
    simp [hchars] at hfuel

private theorem readItems_chars : ∀ {head : Json} {tail : Items} {fuel : Nat} (rest : List Char),
    (Items.cons head tail).Plain → 2 * (Items.cons head tail).chars.length + 1 ≤ fuel →
      readItems fuel ((Items.cons head tail).chars ++ ']' :: rest)
        = (.cons head tail, some rest)
  | head, .nil, fuel + 1, rest, h, hfuel => by
    rw [Items.chars] at hfuel ⊢
    exact readItems_last (readValue_chars _ h.1 (by omega) (ends_cons (by simp) rest))
  | head, .cons next tail, fuel + 1, rest, h, hfuel => by
    have hchars : (Items.cons head (.cons next tail)).chars
        = head.chars ++ ',' :: (Items.cons next tail).chars := by
      simp [Items.chars]
    rw [hchars, List.length_append, List.length_cons] at hfuel
    have htail := readItems_chars rest h.2 (by omega : _ ≤ fuel)
    rw [hchars, List.append_assoc, List.cons_append]
    exact readItems_comma (readValue_chars _ h.1 (by omega) (ends_cons (by simp) _)) htail

private theorem readMembers_chars : ∀ {key : String} {value : Json} {tail : Members} {fuel : Nat}
    (rest : List Char), (Members.cons (some key) value tail).Plain →
      2 * (Members.cons (some key) value tail).chars.length + 1 ≤ fuel →
      readMembers fuel ((Members.cons (some key) value tail).chars ++ '}' :: rest)
        = (.cons (some key) value tail, some rest)
  | key, value, .nil, fuel + 1, rest, h, hfuel => by
    have hchars : (Members.cons (some key) value .nil).chars
        = Text.print key ++ ':' :: value.chars := by
      simp [Members.chars]
    rw [hchars, List.length_append, List.length_cons] at hfuel
    rw [hchars, List.append_assoc, List.cons_append]
    exact readMembers_last (readValue_chars _ h.2.1 (by omega) (ends_cons (by simp) rest))
  | key, value, .cons (some next) second tail, fuel + 1, rest, h, hfuel => by
    have hchars : (Members.cons (some key) value (.cons (some next) second tail)).chars
        = Text.print key ++ ':' ::
          (value.chars ++ ',' :: (Members.cons (some next) second tail).chars) := by
      simp [Members.chars]
    rw [hchars, List.length_append, List.length_cons, List.length_append, List.length_cons] at hfuel
    have htail := readMembers_chars rest h.2.2 (by omega : _ ≤ fuel)
    rw [hchars, List.append_assoc, List.cons_append, List.append_assoc, List.cons_append]
    exact readMembers_comma (readValue_chars _ h.2.1 (by omega) (ends_cons (by simp) _)) htail

end

theorem read_print {j : Json} (h : j.Plain) : read j.print.toList = (j, some []) := by
  have hread := readValue_chars [] h (by omega : 2 * j.chars.length ≤ 2 * j.chars.length + 2)
    ends_nil
  rw [List.append_nil] at hread
  rw [read, print, String.toList_ofList]
  exact hread

end Json

theorem Decoder.read_print {α : Type} (decode : Decoder α) {j : Json} (h : j.Plain) :
    decode.read j.print = decode j := by
  have hblanks : (Json.skipBlanks []).isEmpty = true := rfl
  rw [Decoder.read, Json.read_print h]
  simp only [hblanks, if_true]
  exact bind_pure (decode j)

end AtomicSwap
