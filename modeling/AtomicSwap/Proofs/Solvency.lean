import AtomicSwap.Proofs.Escrow
import AtomicSwap.Proofs.Supply

/-!
Custody and the registry agree. What the custodian has of an asset is what was minted to it directly,
and beside that what the locked records hold, to the unit.
-/

set_option autoImplicit false
set_option relaxedAutoImplicit false

namespace AtomicSwap

namespace Record

variable {r : Record}

theorem escrowed_of_locked (h : r.state = .locked) (x : Asset) :
    r.escrowed x = r.terms.portion x := if_pos h

theorem escrowed_of_settled (h : r.state ≠ .locked) (x : Asset) : r.escrowed x = 0 := if_neg h

end Record

namespace Chain

variable {c c' : Chain} {a : Action} {reply : Option (Except TransferError Record)}

/-- A lock that is not refused takes from the sender what its terms put in escrow, whichever way the
native coin comes in. -/
theorem pays_lock {t : Terms} {attached : Amount} {receipt : Receipt} {ledger : Ledger}
    (hcheck : t.check c.now attached c.ledger.custodian = .ok ())
    (hescrow : c.ledger.escrow t.asset t.sender t.amount attached = (.ok receipt, ledger)) :
    t.sender ≠ c.ledger.custodian ∧
      c.ledger.Pays ledger t.sender c.ledger.custodian t.portion := by
  obtain ⟨-, -, -, hnative, hattached, -⟩ := Terms.check_eq_ok_iff.1 hcheck
  obtain ⟨hsender, hreceipt, hpays⟩ := Ledger.pays_escrow hescrow
  have hcame : receipt.nativeAmount = t.nativeAmount := by
    rw [hreceipt, hattached, Terms.attachment]
    cases hasset : t.asset with
    | native => exact (hnative hasset).symm
    | token contract => rfl
  rw [hcame] at hpays
  exact ⟨hsender, hpays⟩

private theorem custody_settled {ledger : Ledger} {r r' : Record} {payee : Address}
    (hpayee : payee ≠ c.ledger.custodian)
    (hpays : c.ledger.Pays ledger c.ledger.custodian payee r.terms.portion)
    (hget : c.get? r.id = some r) (hlocked : r.state = .locked) (hsettled : r'.state ≠ .locked)
    (x : Asset) :
    (ledger.custody x).toNat + Registry.escrowed c.registry x
      = (c.ledger.custody x).toNat + Registry.escrowed (c.registry.set r.id r') x := by
  have hpaid := hpays.balance_payer hpayee.symm x
  have hsum := Registry.escrowed_set_of_get? hget r' x
  rw [Record.escrowed_of_locked hlocked, Record.escrowed_of_settled hsettled] at hsum
  rw [Ledger.custody, hpays.custodian, Ledger.custody]
  omega

/-- Whatever an action adds to custody beyond what it mints there, the records hold more of, and
what it takes, they hold less of. -/
theorem Effect.custody (he : Effect c a reply c') (hk : c.Keyed) (hfits : a.Fits c) (x : Asset) :
    (c'.ledger.custody x).toNat + Registry.escrowed c.registry x
      = (c.ledger.custody x).toNat + a.credits x c.ledger.custodian
        + Registry.escrowed c'.registry x := by
  cases he with
  | refused isCall e =>
    rw [Action.credits_of_isCall isCall]
    rfl
  | @locked params attached receipt ledger checked fresh escrowed =>
    obtain ⟨hsender, hpays⟩ := pays_lock checked escrowed
    have hpaid := hpays.balance_payee hsender x
    have hsum := Registry.escrowed_set_of_fresh fresh (Record.locked params.id params c.now) x
    have hheld : (Record.locked params.id params c.now).escrowed x = params.terms.portion x :=
      Record.escrowed_of_locked rfl x
    rw [ledger_recorded, registry_recorded, Ledger.custody, hpays.custodian, Ledger.custody]
    show _ = _ + 0 + Registry.escrowed (c.registry.set params.id _) x
    omega
  | @redeemed params preimage r ledger found isLocked opens inTime released =>
    obtain ⟨hreceiver, hpays, -⟩ := Ledger.pays_release released
    have hid : r.id = params.id := hk _ _ found
    exact custody_settled hreceiver hpays (hid ▸ found) isLocked (by simp) x
  | @refunded params r ledger found isLocked expired released =>
    obtain ⟨hsender, hpays, -⟩ := Ledger.pays_release released
    have hid : r.id = params.id := hk _ _ found
    exact custody_settled hsender hpays (hid ▸ found) isLocked (by simp) x
  | minted asset holder amount =>
    show ((c.ledger.credit asset holder amount).custody x).toNat + _
      = _ + Registry.escrowed c.registry x
    rw [Ledger.credit_eq, Ledger.custody, Ledger.custodian_setBalance, Ledger.balance_setBalance,
      Ledger.custody, Action.credits]
    by_cases hsame : asset = x ∧ holder = c.ledger.custodian
    · obtain ⟨rfl, rfl⟩ := hsame
      rw [if_pos ⟨rfl, rfl⟩, if_pos ⟨rfl, rfl⟩, Amount.toNat_satAdd_of_lt hfits]
    · rw [if_neg hsame, if_neg hsame]
      rfl
  | approved contract owner amount =>
    rw [Ledger.custody, Ledger.balance_approve]
    rfl
  | timed time => rfl
  | heard l => rfl

end Chain

namespace Origin

variable (o : Origin) {as : List Action}

theorem custody_after (h : o.Exact as) (x : Asset) :
    ((o.after as).ledger.custody x).toNat
      = mintedTo x o.custodian as + Registry.escrowed (o.after as).registry x := by
  induction as using List.reverseRecOn with
  | nil => cases x <;> rfl
  | append_singleton as a ih =>
    obtain ⟨hinit, hfits⟩ := h.of_concat
    have hbefore := ih hinit
    have hstep := (o.effect_after as a).custody (o.sound_after as).keyed hfits x
    rw [custodian_after] at hstep
    rw [mintedTo_concat]
    omega

private theorem sum_lt_of_perm (h : o.Exact as) {visited rest : List Record}
    (hperm : (visited ++ rest).Perm (o.after as).registry.values) (x : Asset) :
    (visited.map (Record.escrowed x)).sum < 2 ^ 256 := by
  have hcustody := o.custody_after h x
  have hlt := ((o.after as).ledger.custody x).isLt
  have hsum := (hperm.map (Record.escrowed x)).sum_nat
  rw [List.map_append, List.sum_append] at hsum
  rw [hcustody, Registry.escrowed, ← hsum] at hlt
  omega

/-- Custody is solvent. After every run in which no mint was cut off, the custodian has of each asset
what was minted to it directly and what the locked records hold, and nothing else. The totals of the
registry are exact, in whatever order and up to whichever record they are added up. -/
theorem custody_solvent (h : o.Exact as) (x : Asset) :
    ((o.after as).ledger.custody x).toNat
        = mintedTo x o.custodian as + Registry.escrowed (o.after as).registry x ∧
      (∀ visited rest, (visited ++ rest).Perm (o.after as).registry.values →
        Registry.total (Registry.heldBy visited) x = (visited.map (Record.escrowed x)).sum) ∧
      Registry.total (Registry.held (o.after as).registry) x
        = Registry.escrowed (o.after as).registry x ∧
      (mintedTo x o.custodian as = 0 → ((o.after as).ledger.custody x).toNat
        = Registry.total (Registry.held (o.after as).registry) x) := by
  have hcustody := o.custody_after h x
  have hexact (visited rest : List Record)
      (hperm : (visited ++ rest).Perm (o.after as).registry.values) :
      Registry.total (Registry.heldBy visited) x = (visited.map (Record.escrowed x)).sum := by
    have hlt := o.sum_lt_of_perm h hperm x
    rw [Registry.total_heldBy]
    omega
  have hheld : Registry.total (Registry.held (o.after as).registry) x
      = Registry.escrowed (o.after as).registry x := by
    apply hexact _ []
    rw [List.append_nil]
  refine ⟨hcustody, hexact, hheld, ?_⟩
  intro hnone
  rw [hcustody, hnone, hheld, Nat.zero_add]

end Origin

namespace Sample

def user : Address := Bytes.replicate 20 1

def provider : Address := Bytes.replicate 20 2

def custodian : Address := Bytes.replicate 20 3

def contract : Address := Bytes.replicate 20 4

def preimage : Preimage := Bytes.replicate 32 5

def source : Origin := ⟨Config.standard, custodian, 10⟩

/-- Thirty tokens and seven of the native coin, up to the hundredth second, for twenty native coins
on the other chain. -/
def outbound : Params where
  terms := {
    sender := user
    receiver := provider
    asset := .token contract
    amount := Amount.clamp 30
    nativeAmount := Amount.clamp 7
    hashlock := Config.standard.scheme.hashlock preimage
    timelock := 100 }
  route := .outbound ⟨2, Address.toForeign user, 1, Bytes.zero 32, Amount.clamp 20⟩

def opening : List Action :=
  [.mint .native user (Amount.clamp 10), .mint (.token contract) user (Amount.clamp 50),
    .approve contract user (Amount.clamp 30), .lock outbound (Amount.clamp 7)]

theorem minted_opening_lt (asset : Asset) : minted asset opening < 2 ^ 256 := by
  have hnative : (Amount.clamp 10).toNat = 10 := rfl
  have htoken : (Amount.clamp 50).toNat = 50 := rfl
  simp only [minted, opening, List.map_cons, List.map_nil, List.sum_cons, List.sum_nil,
    Action.mints, hnative, htoken]
  split_ifs <;> decide

theorem registry_after_opening :
    (source.after opening).registry
      = Table.empty.set outbound.id (Record.locked outbound.id outbound 10) := rfl

theorem get?_after_opening :
    (source.after opening).get? outbound.id = some (Record.locked outbound.id outbound 10) := by
  rw [Chain.get?, registry_after_opening, Table.get?_set_self]

theorem now_after_opening : (source.after opening).now = 10 := rfl

end Sample

theorem Origin.custody_solvent_opening :
    Sample.source.Exact Sample.opening ∧
      Registry.escrowed (Sample.source.after Sample.opening).registry .native = 7 ∧
      ((Sample.source.after Sample.opening).ledger.custody .native).toNat = 7 := by
  have hexact := Sample.source.exact_of_minted_lt Sample.opening Sample.minted_opening_lt
  have hescrowed :
      Registry.escrowed (Sample.source.after Sample.opening).registry .native = 7 := by
    decide +kernel
  obtain ⟨hcustody, -, -, -⟩ := Sample.source.custody_solvent hexact .native
  refine ⟨hexact, hescrowed, ?_⟩
  rw [hcustody, hescrowed]
  rfl

end AtomicSwap
