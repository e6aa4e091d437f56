import AtomicSwap.Proofs.Records

/-!
Where funds come from. Nothing but a mint adds to the supply of an asset, so no holder ever has more
than was minted of it, and no mint is cut off while less than the greatest amount was minted.
-/

set_option autoImplicit false
set_option relaxedAutoImplicit false

namespace AtomicSwap

namespace Action

def mints (asset : Asset) : Action → Nat
  | .mint asset' _ amount => if asset' = asset then amount.toNat else 0
  | _ => 0

def credits (asset : Asset) (holder : Address) : Action → Nat
  | .mint asset' holder' amount => if asset' = asset ∧ holder' = holder then amount.toNat else 0
  | _ => 0

theorem credits_of_isCall {a : Action} (h : a.isCall = true) (asset : Asset) (holder : Address) :
    a.credits asset holder = 0 := by
  cases a <;> first | rfl | cases h

/-- Whether there is room for what an action mints. -/
def Fits (c : Chain) : Action → Prop
  | .mint asset holder amount =>
    (c.ledger.balance asset holder).toNat + amount.toNat < 2 ^ 256
  | _ => True

end Action

def minted (asset : Asset) (as : List Action) : Nat := (as.map (Action.mints asset)).sum

def mintedTo (asset : Asset) (holder : Address) (as : List Action) : Nat :=
  (as.map (Action.credits asset holder)).sum

theorem minted_concat (asset : Asset) (as : List Action) (a : Action) :
    minted asset (as ++ [a]) = minted asset as + a.mints asset := by
  simp [minted]

theorem mintedTo_concat (asset : Asset) (holder : Address) (as : List Action) (a : Action) :
    mintedTo asset holder (as ++ [a]) = mintedTo asset holder as + a.credits asset holder := by
  simp [mintedTo]

theorem minted_le_of_prefix (asset : Asset) {as bs : List Action} (h : as <+: bs) :
    minted asset as ≤ minted asset bs := by
  obtain ⟨cs, rfl⟩ := h
  simp [minted]

namespace Chain.Effect

variable {c c' : Chain} {a : Action} {reply : Option (Except TransferError Record)}

theorem supply_le (he : Effect c a reply c') (asset : Asset) :
    c'.ledger.supply asset ≤ c.ledger.supply asset + a.mints asset := by
  cases he with
  | refused isCall e => omega
  | locked checked fresh escrowed =>
    obtain ⟨-, -, hpays⟩ := Ledger.pays_escrow escrowed
    rw [ledger_recorded, hpays.supply]
    omega
  | redeemed found isLocked opens inTime released =>
    obtain ⟨-, hpays, -⟩ := Ledger.pays_release released
    rw [ledger_recorded, hpays.supply]
    omega
  | refunded found isLocked expired released =>
    obtain ⟨-, hpays, -⟩ := Ledger.pays_release released
    rw [ledger_recorded, hpays.supply]
    omega
  | minted asset' holder amount =>
    have hset := Ledger.supply_setBalance c.ledger asset' asset holder
      ((c.ledger.balance asset' holder).satAdd amount)
    show (c.ledger.credit asset' holder amount).supply asset ≤ _
    rw [Amount.toNat_satAdd] at hset
    rw [Ledger.credit_eq, Action.mints]
    by_cases hasset : asset' = asset
    · simp only [if_pos hasset] at hset ⊢
      omega
    · simp only [if_neg hasset] at hset ⊢
      omega
  | approved contract owner amount =>
    rw [Ledger.supply_approve]
    omega
  | timed time => exact Nat.le_add_right _ _
  | heard l => exact Nat.le_add_right _ _

end Chain.Effect

namespace Origin

variable (o : Origin) (as : List Action)

/-- No mint of a run is cut off at the greatest amount. -/
def Exact : Prop := ∀ bs a, bs ++ [a] <+: as → a.Fits (o.after bs)

variable {o as}

theorem Exact.of_concat {a : Action} (h : o.Exact (as ++ [a])) :
    o.Exact as ∧ a.Fits (o.after as) := by
  constructor
  · intro bs b hbs
    exact h bs b (hbs.trans (List.prefix_append as [a]))
  · exact h as a (List.prefix_refl _)

variable (o as)

theorem supply_after_le (asset : Asset) : (o.after as).ledger.supply asset ≤ minted asset as := by
  induction as using List.reverseRecOn with
  | nil => cases asset <;> exact Nat.le_refl 0
  | append_singleton as a ih =>
    have hstep := (o.effect_after as a).supply_le asset
    rw [minted_concat]
    omega

theorem balance_after_le (asset : Asset) (holder : Address) :
    ((o.after as).ledger.balance asset holder).toNat ≤ minted asset as :=
  Nat.le_trans (Ledger.balance_le_supply _ asset holder) (o.supply_after_le as asset)

theorem exact_of_minted_lt (h : ∀ asset, minted asset as < 2 ^ 256) : o.Exact as := by
  intro bs a hbs
  cases a with
  | mint asset holder amount =>
    have hheld := o.balance_after_le bs asset holder
    have hminted := minted_le_of_prefix asset hbs
    have hroom := h asset
    rw [minted_concat, Action.mints, if_pos rfl] at hminted
    show _ < 2 ^ 256
    omega
  | _ => trivial

end Origin

end AtomicSwap
