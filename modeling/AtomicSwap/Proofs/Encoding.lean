import AtomicSwap.Transfer.Params
import Mathlib.Data.List.Basic

/-!
The canonical encoding can be read in one way only. Every field has a fixed width, so it can be cut
off from whatever follows, and the tags tell apart what would be written alike. No encoding is the
beginning of another one.
-/

set_option autoImplicit false
set_option relaxedAutoImplicit false

namespace AtomicSwap

theorem BigEndian.encode_inj {width m n : Nat} (hm : m < 256 ^ width) (hn : n < 256 ^ width)
    (h : encode width m = encode width n) : m = n := by
  have hread := congrArg decode h
  rwa [decode_encode, decode_encode, Nat.mod_eq_of_lt hm, Nat.mod_eq_of_lt hn] at hread

private theorem append_prefix_append_iff {a b s t : List UInt8} (h : a.length = b.length) :
    a ++ s <+: b ++ t ↔ a = b ∧ s <+: t := by
  constructor
  · rintro ⟨rest, hrest⟩
    rw [List.append_assoc] at hrest
    obtain ⟨hfield, htail⟩ := List.append_inj hrest h
    exact ⟨hfield, rest, htail⟩
  · rintro ⟨rfl, rest, hrest⟩
    exact ⟨rest, by rw [List.append_assoc, hrest]⟩

section

variable {s t : List UInt8}

theorem Bytes.append_prefix_iff {n : Nat} {a b : Bytes n} :
    a.toList ++ s <+: b.toList ++ t ↔ a = b ∧ s <+: t := by
  rw [append_prefix_append_iff (a.length_eq.trans b.length_eq.symm), Bytes.ext_iff]

theorem Amount.append_prefix_iff {a b : Amount} :
    a.bytes ++ s <+: b.bytes ++ t ↔ a = b ∧ s <+: t := by
  have hlength : a.bytes.length = b.bytes.length := by simp [bytes]
  rw [append_prefix_append_iff hlength]
  constructor
  · rintro ⟨hbytes, hrest⟩
    exact ⟨Amount.ext (BigEndian.encode_inj a.isLt b.isLt hbytes), hrest⟩
  · rintro ⟨rfl, hrest⟩
    exact ⟨rfl, hrest⟩

theorem word_append_prefix_iff {m n : UInt64} :
    BigEndian.encode 8 m.toNat ++ s <+: BigEndian.encode 8 n.toNat ++ t ↔ m = n ∧ s <+: t := by
  rw [append_prefix_append_iff (by simp)]
  constructor
  · rintro ⟨hbytes, hrest⟩
    exact ⟨UInt64.toNat_inj.1 (BigEndian.encode_inj m.toNat_lt n.toNat_lt hbytes), hrest⟩
  · rintro ⟨rfl, hrest⟩
    exact ⟨rfl, hrest⟩

/-- The tag tells the native coin from the token at the zero address. -/
theorem Asset.append_prefix_iff {a b : Asset} :
    a.tag :: (a.address.toList ++ s) <+: b.tag :: (b.address.toList ++ t) ↔ a = b ∧ s <+: t := by
  rw [List.cons_prefix_cons, Bytes.append_prefix_iff]
  cases a <;> cases b <;> simp [tag, address]

theorem Terms.append_prefix_iff {p q : Terms} :
    p.encoding ++ s <+: q.encoding ++ t ↔ p = q ∧ s <+: t := by
  cases p
  cases q
  simp only [encoding, List.append_assoc, List.cons_append, Bytes.append_prefix_iff,
    Asset.append_prefix_iff, Amount.append_prefix_iff, word_append_prefix_iff, Terms.mk.injEq,
    and_assoc]

theorem Route.append_prefix_iff {p q : Route} :
    p.leg.tag = q.leg.tag ∧ p.encoding ++ s <+: q.encoding ++ t ↔ p = q ∧ s <+: t := by
  cases p with
  | outbound p =>
    cases q with
    | outbound q =>
      cases p
      cases q
      simp only [leg, encoding, List.append_assoc, Bytes.append_prefix_iff, Amount.append_prefix_iff,
        word_append_prefix_iff, Route.outbound.injEq, Request.mk.injEq, true_and, and_assoc]
    | inbound q => simp [leg, Leg.tag]
  | inbound p =>
    cases q with
    | outbound q => simp [leg, Leg.tag]
    | inbound q =>
      cases p
      cases q
      simp only [leg, encoding, List.append_assoc, Bytes.append_prefix_iff, word_append_prefix_iff,
        Route.inbound.injEq, Link.mk.injEq, true_and, and_assoc]

end

namespace Params

/-- Parameters are read back from their encoding, whatever follows it. -/
theorem append_prefix_iff {p q : Params} {s t : List UInt8} :
    p.encoding ++ s <+: q.encoding ++ t ↔ p = q ∧ s <+: t := by
  obtain ⟨pterms, proute⟩ := p
  obtain ⟨qterms, qroute⟩ := q
  simp only [encoding, List.append_assoc, List.cons_append, leg,
    append_prefix_append_iff (rfl : domainTag.length = domainTag.length), true_and,
    List.cons_prefix_cons, Terms.append_prefix_iff, Params.mk.injEq]
  rw [and_left_comm, Route.append_prefix_iff, and_assoc]

/-- The encoding of some parameters is the beginning of that of others just when they are the same
parameters. So two transfers never have one encoding, and none is cut short into another. -/
theorem encoding_prefix_iff (p q : Params) : p.encoding <+: q.encoding ↔ p = q := by
  have h := append_prefix_iff (p := p) (q := q) (s := []) (t := [])
  rwa [List.append_nil, List.append_nil, and_iff_left (List.prefix_refl [])] at h

end Params

end AtomicSwap
