import AtomicSwap.Proofs.Records

/-!
Calls that are refused. Whatever a call is refused for, it leaves the chain as it was: no funds, no
allowance, no record and no event differ, and nobody who listens finds anything new. What comes after
the funds have moved is never refused.
-/

set_option autoImplicit false
set_option relaxedAutoImplicit false

namespace AtomicSwap

namespace Chain

variable {c : Chain}

theorem Effect.eq_of_refused {c' : Chain} {a : Action} {e : TransferError}
    (he : Effect c a (some (.error e)) c') : c' = c := by
  cases he with
  | refused isCall e => rfl

theorem insert_locked {params : Params} (h : c.get? params.id = none) :
    (c.registry.insert (Record.locked params.id params c.now)).1 = .ok () :=
  congrArg Prod.fst (@Registry.insert_eq_ok _ (Record.locked params.id params c.now) h)

theorem Keyed.commit {k : TransferId} {r r' : Record} (hk : c.Keyed) (hget : c.get? k = some r)
    (hid : r'.id = r.id) : (c.registry.commit r').1 = .ok () :=
  congrArg Prod.fst (Registry.commit_eq_ok (hk.get?_id hget hid))

theorem Keyed.commit_opened {params : Params} {preimage : Preimage} {r : Record} (hk : c.Keyed)
    (h : c.opened params preimage = .ok r) : (c.registry.commit r).1 = .ok () := by
  obtain ⟨r₀, hget, -, -, -, rfl⟩ := opened_eq_ok_iff.1 h
  exact hk.commit hget (Record.id_redeemed r₀ preimage c.now)

theorem Keyed.commit_expired {params : Params} {r : Record} (hk : c.Keyed)
    (h : c.expired params = .ok r) : (c.registry.commit r).1 = .ok () := by
  obtain ⟨r₀, hget, -, -, rfl⟩ := expired_eq_ok_iff.1 h
  exact hk.commit hget (Record.id_refunded r₀ c.now)

end Chain

namespace Origin

variable (o : Origin) (as : List Action)

/-- A refused call is as good as none. After every run, a call that is answered with an error leaves
the whole chain as it was. So does every ledger with an escrow or a release that it refuses, whatever
check it fails. A lock of an identifier that is not in use always finds room in the registry, and a
settlement always finds the record that it replaces, so nothing is refused once the funds have moved. -/
theorem refusal_changes_nothing :
    (∀ a e, (o.after as).reply a = some (.error e) → o.after (as ++ [a]) = o.after as) ∧
      (∀ (l : Ledger) asset sender amount attached e,
        (l.escrow asset sender amount attached).1 = .error e →
        (l.escrow asset sender amount attached).2 = l) ∧
      (∀ (l : Ledger) asset receiver amount nativeAmount e,
        (l.release asset receiver amount nativeAmount).1 = .error e →
        (l.release asset receiver amount nativeAmount).2 = l) ∧
      (∀ params : Params, (o.after as).get? params.id = none →
        ((o.after as).registry.insert
          (Record.locked params.id params (o.after as).now)).1 = .ok ()) ∧
      (∀ params preimage r, (o.after as).opened params preimage = .ok r →
        ((o.after as).registry.commit r).1 = .ok ()) ∧
      (∀ params r, (o.after as).expired params = .ok r →
        ((o.after as).registry.commit r).1 = .ok ()) := by
  have hkeyed := (o.sound_after as).keyed
  refine ⟨?_, ?_, ?_, ?_, ?_, ?_⟩
  · intro a e hreply
    have heffect := o.effect_after as a
    rw [hreply] at heffect
    exact heffect.eq_of_refused
  · intro l asset sender amount attached e hrefused
    exact Ledger.escrow_refused hrefused
  · intro l asset receiver amount nativeAmount e hrefused
    exact Ledger.release_refused hrefused
  · intro params hfresh
    exact Chain.insert_locked hfresh
  · intro params preimage r hopened
    exact hkeyed.commit_opened hopened
  · intro params r hexpired
    exact hkeyed.commit_expired hexpired

end Origin

end AtomicSwap
