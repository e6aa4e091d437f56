import AtomicSwap.Proofs.Encoding
import AtomicSwap.Proofs.Stream

/-!
Only the exact parameters find a transfer. What is kept under the identifier of some parameters was
locked with just these parameters, or with others whose encoding is a different byte string of the same
digest, which would be a collision of the hash. Nothing here takes the hash to be injective.
-/

set_option autoImplicit false
set_option relaxedAutoImplicit false

namespace AtomicSwap

namespace Params

/-- The encodings of two parameters are different byte strings with the same digest. -/
def Collides (p q : Params) : Prop :=
  p.encoding ≠ q.encoding ∧ Keccak.sha3 p.encoding = Keccak.sha3 q.encoding

theorem encoding_inj {p q : Params} (h : p.encoding = q.encoding) : p = q := by
  have hstart : p.encoding ++ [] <+: q.encoding ++ [] := h ▸ List.prefix_refl _
  exact (append_prefix_iff.1 hstart).1

theorem eq_or_collides {p q : Params} (h : p.id = q.id) : p = q ∨ p.Collides q := by
  by_cases hencoding : p.encoding = q.encoding
  · exact Or.inl (encoding_inj hencoding)
  · exact Or.inr ⟨hencoding, h⟩

end Params

namespace Chain

variable {c c' : Chain} {params : Params} {attached : Amount}

/-- A record that is found under the identifier of some parameters is that of these parameters, or
the two collide. -/
theorem Identified.eq_or_collides (h : c.Identified) {r : Record}
    (hget : c.get? params.id = some r) : r.params = params ∨ r.params.Collides params := by
  obtain ⟨hkey, hid⟩ := h _ _ hget
  exact Params.eq_or_collides (hid.symm.trans hkey)

theorem Effect.found_of_settled {a : Action} {r : Record} (he : Effect c a (some (.ok r)) c')
    (ha : (∃ preimage, a = .confirm params preimage) ∨ a = .refund params) :
    ∃ r₀, c.get? params.id = some r₀ ∧ r₀.params = r.params := by
  rcases ha with ⟨preimage, rfl⟩ | rfl
  · cases he with
    | redeemed found isLocked opens inTime released => exact ⟨_, found, rfl⟩
  · cases he with
    | refunded found isLocked expired released => exact ⟨_, found, rfl⟩

theorem Effect.eq_or_collides {a : Action} {r : Record} (he : Effect c a (some (.ok r)) c')
    (h : c.Identified) (ha : (∃ preimage, a = .confirm params preimage) ∨ a = .refund params) :
    r.params = params ∨ r.params.Collides params := by
  obtain ⟨r₀, hget, hparams⟩ := he.found_of_settled ha
  rw [← hparams]
  exact h.eq_or_collides hget

/-- If a record is found after an action, then one with the same parameters was there before, or the
action was a lock of these. -/
theorem Effect.found_or_locked {a : Action} {reply : Option (Except TransferError Record)}
    (he : Effect c a reply c') {k : TransferId} {r : Record} (hget : c'.get? k = some r) :
    (∃ k₀ r₀, c.get? k₀ = some r₀ ∧ r₀.params = r.params) ∨
      ∃ attached r', a = .lock r.params attached ∧ reply = some (.ok r') := by
  cases he with
  | refused isCall e => exact Or.inl ⟨k, r, hget, rfl⟩
  | @locked params attached receipt ledger checked fresh escrowed =>
    rw [get?_recorded] at hget
    split_ifs at hget
    · cases hget
      exact Or.inr ⟨attached, _, rfl, rfl⟩
    · exact Or.inl ⟨k, r, hget, rfl⟩
  | redeemed found isLocked opens inTime released =>
    rw [get?_recorded] at hget
    split_ifs at hget
    · cases hget
      exact Or.inl ⟨_, _, found, rfl⟩
    · exact Or.inl ⟨k, r, hget, rfl⟩
  | refunded found isLocked expired released =>
    rw [get?_recorded] at hget
    split_ifs at hget
    · cases hget
      exact Or.inl ⟨_, _, found, rfl⟩
    · exact Or.inl ⟨k, r, hget, rfl⟩
  | minted asset holder amount => exact Or.inl ⟨k, r, hget, rfl⟩
  | approved contract owner amount => exact Or.inl ⟨k, r, hget, rfl⟩
  | timed time => exact Or.inl ⟨k, r, hget, rfl⟩
  | heard l => exact Or.inl ⟨k, r, hget, rfl⟩

theorem confirm_of_absent (h : c.get? params.id = none) (preimage : Preimage) :
    c.confirm params preimage = (.error (.notFound params.id), c) := by
  have hopened : c.opened params preimage = .error (.notFound params.id) := by
    rw [opened_eq, h]
  rw [confirm, hopened]

theorem refund_of_absent (h : c.get? params.id = none) :
    c.refund params = (.error (.notFound params.id), c) := by
  have hexpired : c.expired params = .error (.notFound params.id) := by
    rw [expired_eq, h]
  rw [refund, hexpired]

theorem used_of_duplicate {id : TransferId}
    (h : (c.lock params attached).1 = .error (.duplicateTransfer id)) :
    id = params.id ∧ ∃ r, c.get? params.id = some r := by
  rcases c.lock_cases params attached with ⟨e, -, hlock⟩ | ⟨-, ⟨r, hget, hlock⟩ | ⟨-, hledger⟩⟩
  · rw [hlock] at h
    cases h
  · rw [hlock] at h
    cases h
    exact ⟨rfl, r, hget⟩
  · rcases hledger with ⟨e, -, hlock⟩ | ⟨receipt, ledger, -, hlock⟩
    · rw [hlock] at h
      cases h
    · rw [hlock] at h
      cases h

end Chain

namespace Origin

variable (o : Origin) (ts : List Turn)

/-- In the course of some turns a lock of these very parameters succeeded. -/
def WasLocked (params : Params) : Prop :=
  ∃ us attached r, us ++ [.act (.lock params attached)] <+: ts ∧
    ((o.chain.play us).lock params attached).1 = .ok r

variable {o ts}

theorem WasLocked.later {us : List Turn} {params : Params} (h : o.WasLocked us params)
    (hbefore : us <+: ts) : o.WasLocked ts params := by
  obtain ⟨vs, attached, r, hvs, hlocked⟩ := h
  exact ⟨vs, attached, r, hvs.trans hbefore, hlocked⟩

theorem wasLocked_of_get? {k : TransferId} {r : Record}
    (hget : (o.chain.play ts).get? k = some r) : o.WasLocked ts r.params := by
  induction ts using List.reverseRecOn generalizing k r with
  | nil => cases hget
  | append_singleton ts t ih =>
    have hbefore : ts <+: ts ++ [t] := List.prefix_append ts [t]
    rw [Chain.play_concat] at hget
    cases t with
    | ledger l => exact (ih hget).later hbefore
    | act a =>
      have heffect := Chain.effect_step (o.identified_play ts).keyed a
      rcases heffect.found_or_locked hget with ⟨k₀, r₀, hget₀, hparams⟩ | ⟨attached, r', rfl, hreply⟩
      · rw [← hparams]
        exact (ih hget₀).later hbefore
      · exact ⟨ts, attached, r', List.prefix_refl _, Option.some.inj hreply⟩

theorem get?_eq_none_of_not_wasLocked {params : Params}
    (hnone : ∀ q, o.WasLocked ts q → ¬q.Collides params) (hnew : ¬o.WasLocked ts params) :
    (o.chain.play ts).get? params.id = none := by
  cases hget : (o.chain.play ts).get? params.id with
  | none => rfl
  | some r =>
    have hlocked := wasLocked_of_get? hget
    rcases (o.identified_play ts).eq_or_collides hget with hsame | hcollides
    · exact absurd (hsame ▸ hlocked) hnew
    · exact absurd hcollides (hnone _ hlocked)

variable (o ts)

/-- Only the exact parameters settle a transfer. What a confirmation, a refund or a look-up finds for
some parameters, and what a lock of them is refused for as a duplicate, is a record of these very
parameters, or its encoding and theirs are an explicit collision. So unless they collide with some
that were locked, parameters that were never locked find nothing, touch nothing, and are no
duplicate. -/
theorem only_exact_params_found (params : Params) :
    (∀ preimage r, ((o.chain.play ts).confirm params preimage).1 = .ok r →
        r.params = params ∨ r.params.Collides params) ∧
      (∀ r, ((o.chain.play ts).refund params).1 = .ok r →
        r.params = params ∨ r.params.Collides params) ∧
      (∀ r, (o.chain.play ts).get? params.id = some r →
        r.params = params ∨ r.params.Collides params) ∧
      (∀ attached id,
        ((o.chain.play ts).lock params attached).1 = .error (.duplicateTransfer id) →
        ∃ r, (o.chain.play ts).get? id = some r ∧ r.id = id ∧
          (r.params = params ∨ r.params.Collides params)) ∧
      ((∀ q, o.WasLocked ts q → ¬q.Collides params) → ¬o.WasLocked ts params →
        (o.chain.play ts).get? params.id = none ∧
        (∀ preimage, (o.chain.play ts).confirm params preimage
          = (.error (.notFound params.id), o.chain.play ts)) ∧
        (o.chain.play ts).refund params = (.error (.notFound params.id), o.chain.play ts) ∧
        ∀ attached id,
          ((o.chain.play ts).lock params attached).1 ≠ .error (.duplicateTransfer id)) := by
  have hidentified := o.identified_play ts
  refine ⟨?_, ?_, ?_, ?_, ?_⟩
  · intro preimage r hok
    have heffect := Chain.effect_confirm hidentified.keyed params preimage
    rw [hok] at heffect
    exact heffect.eq_or_collides hidentified (Or.inl ⟨preimage, rfl⟩)
  · intro r hok
    have heffect := Chain.effect_refund hidentified.keyed params
    rw [hok] at heffect
    exact heffect.eq_or_collides hidentified (Or.inr rfl)
  · intro r hget
    exact hidentified.eq_or_collides hget
  · intro attached id hduplicate
    obtain ⟨rfl, r, hget⟩ := Chain.used_of_duplicate hduplicate
    exact ⟨r, hget, hidentified.keyed _ _ hget, hidentified.eq_or_collides hget⟩
  · intro hnone hnew
    have habsent := get?_eq_none_of_not_wasLocked hnone hnew
    refine ⟨habsent, Chain.confirm_of_absent habsent, Chain.refund_of_absent habsent, ?_⟩
    intro attached id hduplicate
    obtain ⟨-, r, hget⟩ := Chain.used_of_duplicate hduplicate
    rw [habsent] at hget
    cases hget

end Origin

end AtomicSwap
