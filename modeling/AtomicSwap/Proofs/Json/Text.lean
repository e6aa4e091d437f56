import AtomicSwap.Json.Text

/-!
Strings read back. Every string that is written between quotes is read as itself, whatever stands
behind the closing quote.
-/

set_option autoImplicit false
set_option relaxedAutoImplicit false

namespace AtomicSwap.Json.Text

private theorem readPieces?_char {c : Char} (h : ¬ c.toNat < 0x20) (hquote : c ≠ '"')
    (hslash : c ≠ '\\') (rest : List Char) :
    readPieces? (c :: rest) = (readPieces? rest).map fun q => (.char c :: q.1, q.2) := by
  rw [readPieces?.eq_def]
  split
  · simp_all
  · simp_all
  · simp_all
  · simp_all
  · rename_i heq
    cases heq
    rw [if_neg (by simp [h, hslash])]
    cases readPieces? rest <;> rfl

private theorem readPieces?_escape {e c : Char} (h : escape? e = some c) (hu : e ≠ 'u')
    (rest : List Char) :
    readPieces? ('\\' :: e :: rest) = (readPieces? rest).map fun q => (.char c :: q.1, q.2) := by
  rw [readPieces?.eq_def]
  split
  · simp_all
  · simp_all
  · simp_all
  · rename_i heq
    cases heq
    rw [h]
    cases readPieces? rest <;> rfl
  · rename_i hnone heq
    cases heq
    exact absurd rfl (hnone e rest rfl)

private theorem readPieces?_unit {a b : Char} {n : Nat} (h : unit? '0' '0' a b = some n)
    (rest : List Char) :
    readPieces? ('\\' :: 'u' :: '0' :: '0' :: a :: b :: rest)
      = (readPieces? rest).map fun q => (.unit n :: q.1, q.2) := by
  rw [readPieces?, h]
  cases readPieces? rest <;> rfl

private theorem join?_unit {n : Nat} (hhigh : isHigh n = false) (hlow : isLow n = false)
    (pieces : List Piece) :
    join? (.unit n :: pieces) = (join? pieces).map (Char.ofNat n :: ·) := by
  -- Whether another code unit follows makes no difference to one that is no half of a pair.
  match pieces with
  | [] => simp [join?, hhigh, hlow]
  | .char c :: pieces => simp [join?, hhigh, hlow]
  | .unit m :: pieces => simp [join?, hhigh, hlow]

/-- The written form of a character is read as the piece `p`, which writes that character. -/
private def Written (c : Char) (p : Piece) : Prop :=
  (∀ rest, readPieces? (printChar c ++ rest)
      = (readPieces? rest).map fun q => (p :: q.1, q.2)) ∧
    ∀ pieces, join? (p :: pieces) = (join? pieces).map (c :: ·)

private theorem written_of_escape {e c : Char} (hprint : printChar c = ['\\', e])
    (h : escape? e = some c) (hu : e ≠ 'u') : Written c (.char c) := by
  refine ⟨?_, fun pieces => rfl⟩
  intro rest
  rw [hprint]
  exact readPieces?_escape h hu rest

private theorem written_of_control {c : Char} (h : c.toNat < 0x20)
    (hprint : printChar c = '\\' :: 'u' :: '0' :: '0' :: Hex.pair (UInt8.ofNat c.toNat)) :
    Written c (.unit c.toNat) := by
  have hbyte : (UInt8.ofNat c.toNat).toNat = c.toNat := by
    rw [UInt8.toNat_ofNat', Nat.mod_eq_of_lt (by omega)]
  have hunit : unit? '0' '0' (Nat.digitChar (c.toNat / 16)) (Nat.digitChar (c.toNat % 16))
      = some c.toNat := by
    have hzero : Hex.digit? '0' = some 0 := rfl
    rw [unit?, Hex.digit?_digitChar (by omega), Hex.digit?_digitChar (by omega), hzero]
    simp only [Option.bind_eq_bind, Option.bind_some, Option.some.injEq]
    omega
  constructor
  · intro rest
    rw [hprint, Hex.pair, hbyte]
    exact readPieces?_unit hunit rest
  · intro pieces
    have hhigh : isHigh c.toNat = false := by
      simp only [isHigh, decide_eq_false_iff_not]
      omega
    have hlow : isLow c.toNat = false := by
      simp only [isLow, decide_eq_false_iff_not]
      omega
    rw [join?_unit hhigh hlow, Char.ofNat_toNat]

private theorem exists_written (c : Char) : ∃ p, Written c p := by
  by_cases hquote : c = '"'
  · subst hquote
    exact ⟨_, written_of_escape rfl rfl (by decide)⟩
  by_cases hslash : c = '\\'
  · subst hslash
    exact ⟨_, written_of_escape rfl rfl (by decide)⟩
  by_cases hnamed : c = '\x08' ∨ c = '\x0c' ∨ c = '\n' ∨ c = '\r' ∨ c = '\t'
  · rcases hnamed with rfl | rfl | rfl | rfl | rfl
    · exact ⟨_, written_of_escape rfl rfl (by decide)⟩
    · exact ⟨_, written_of_escape rfl rfl (by decide)⟩
    · exact ⟨_, written_of_escape rfl rfl (by decide)⟩
    · exact ⟨_, written_of_escape rfl rfl (by decide)⟩
    · exact ⟨_, written_of_escape rfl rfl (by decide)⟩
  simp only [not_or] at hnamed
  by_cases hcontrol : c.toNat < 0x20
  · exact ⟨_, written_of_control hcontrol (by simp [printChar, hquote, hslash, hnamed, hcontrol])⟩
  · refine ⟨.char c, ?_, fun pieces => rfl⟩
    intro rest
    have hprint : printChar c = [c] := by simp [printChar, hquote, hslash, hnamed, hcontrol]
    rw [hprint]
    exact readPieces?_char hcontrol hquote hslash rest

private theorem exists_pieces (cs rest : List Char) :
    ∃ pieces, readPieces? (cs.flatMap printChar ++ '"' :: rest) = some (pieces, rest) ∧
      join? pieces = some cs := by
  induction cs with
  | nil => exact ⟨[], by rw [List.flatMap_nil, List.nil_append, readPieces?], rfl⟩
  | cons c cs ih =>
    obtain ⟨pieces, hread, hjoin⟩ := ih
    obtain ⟨p, hpiece, hcons⟩ := exists_written c
    refine ⟨p :: pieces, ?_, ?_⟩
    · rw [List.flatMap_cons, List.append_assoc, hpiece, hread]
      rfl
    · rw [hcons, hjoin]
      rfl

theorem read?_print (s : String) (rest : List Char) :
    read? (s.toList.flatMap printChar ++ '"' :: rest) = some (some s, rest) := by
  obtain ⟨pieces, hread, hjoin⟩ := exists_pieces s.toList rest
  rw [read?, hread]
  show some ((join? pieces).map String.ofList, rest) = _
  rw [hjoin, Option.map_some, String.ofList_toList]

end AtomicSwap.Json.Text
