import AtomicSwap.Proofs.Solvency

/-!
Accounts of everybody but the custodian. What a holder has of an asset is explained by the registry:
what was minted to it, less what its own transfers hold or have paid out, and beside that what others
paid it. What the custodian may still pull of a token is what was last allowed less what locks pulled
since.
-/

set_option autoImplicit false
set_option relaxedAutoImplicit false

namespace AtomicSwap

namespace Record

/-- What a transfer cost its sender of an asset: nothing once it was refunded. -/
def spentBy (holder : Address) (x : Asset) (r : Record) : Nat :=
  if r.terms.sender = holder ∧ (r.state = .locked ∨ r.state = .redeemed) then r.terms.portion x
  else 0

/-- What a transfer brought its receiver of an asset: nothing until it was redeemed. -/
def paidTo (holder : Address) (x : Asset) (r : Record) : Nat :=
  if r.terms.receiver = holder ∧ r.state = .redeemed then r.terms.portion x else 0

variable {r : Record} {holder : Address} {x : Asset}

theorem spentBy_of_locked (h : r.state = .locked) :
    r.spentBy holder x = if holder = r.terms.sender then r.terms.portion x else 0 := by
  simp [spentBy, h, eq_comm]

theorem paidTo_of_locked (h : r.state = .locked) : r.paidTo holder x = 0 := by
  simp [paidTo, h]

theorem spentBy_redeemed (h : r.state = .locked) (preimage : Preimage) (now : Seconds) :
    (r.redeemed preimage now).spentBy holder x = r.spentBy holder x := by
  simp [spentBy, h]

theorem paidTo_redeemed (preimage : Preimage) (now : Seconds) :
    (r.redeemed preimage now).paidTo holder x
      = if holder = r.terms.receiver then r.terms.portion x else 0 := by
  simp [paidTo, eq_comm]

theorem spentBy_refunded (now : Seconds) : (r.refunded now).spentBy holder x = 0 := by
  simp [spentBy]

theorem paidTo_refunded (now : Seconds) : (r.refunded now).paidTo holder x = 0 := by
  simp [paidTo]

end Record

namespace Registry

def spent (g : Registry) (holder : Address) (x : Asset) : Nat :=
  (g.values.map (Record.spentBy holder x)).sum

def paid (g : Registry) (holder : Address) (x : Asset) : Nat :=
  (g.values.map (Record.paidTo holder x)).sum

end Registry

namespace Chain

/-- What the lock among an action and its answer pulled of an owner's tokens, if it is one. -/
def pulls (contract owner : Address) : Action × Option (Except TransferError Record) → Nat
  | (.lock params _, some (.ok _)) =>
    if params.terms.asset = .token contract ∧ params.terms.sender = owner then
      params.terms.amount.toNat
    else 0
  | _ => 0

def pulled (contract owner : Address)
    (answers : List (Action × Option (Except TransferError Record))) : Nat :=
  (answers.map (pulls contract owner)).sum

namespace Effect

variable {c c' : Chain} {a : Action} {reply : Option (Except TransferError Record)}

/-- A settlement pays out of custody what its record then accounts for. -/
theorem holdings_of_release {r r' : Record} {payee holder : Address} {ledger : Ledger} {x : Asset}
    (found : c.get? r'.id = some r) (isLocked : r.state = .locked)
    (released : c.ledger.release r.terms.asset payee r.terms.amount r.terms.nativeAmount
      = (.ok (), ledger))
    (hne : holder ≠ c.ledger.custodian)
    (haccount : r'.spentBy holder x + (if holder = payee then r.terms.portion x else 0)
      = r.spentBy holder x + r'.paidTo holder x) :
    (ledger.balance x holder).toNat + Registry.spent (c.registry.set r'.id r') holder x
        + Registry.paid c.registry holder x
      = (c.ledger.balance x holder).toNat + Registry.spent c.registry holder x
        + Registry.paid (c.registry.set r'.id r') holder x := by
  obtain ⟨-, hpays, -⟩ := Ledger.pays_release released
  have hbalance := hpays.balance x holder
  have hspent := Table.sum_values_set_of_get?_eq_some (Record.spentBy holder x) found r'
  have hpaid := Table.sum_values_set_of_get?_eq_some (Record.paidTo holder x) found r'
  rw [Record.paidTo_of_locked isLocked] at hpaid
  rw [if_neg hne] at hbalance
  rw [Terms.portion] at haccount
  unfold Registry.spent Registry.paid
  omega

/-- An action changes what a holder has by as much as the registry says, and by what it mints. -/
theorem holdings (he : Effect c a reply c') (hk : c.Keyed) (hfits : a.Fits c) {holder : Address}
    (hne : holder ≠ c.ledger.custodian) (x : Asset) :
    (c'.ledger.balance x holder).toNat + Registry.spent c'.registry holder x
        + Registry.paid c.registry holder x
      = (c.ledger.balance x holder).toNat + Registry.spent c.registry holder x
        + a.credits x holder + Registry.paid c'.registry holder x := by
  cases he with
  | refused isCall e =>
    rw [Action.credits_of_isCall isCall]
    rfl
  | @locked params attached receipt ledger checked fresh escrowed =>
    obtain ⟨-, hpays⟩ := pays_lock checked escrowed
    have hbalance := hpays.balance x holder
    have hspent := Table.sum_values_set_of_get?_eq_none (Record.spentBy holder x) fresh
      (Record.locked params.id params c.now)
    have hpaid := Table.sum_values_set_of_get?_eq_none (Record.paidTo holder x) fresh
      (Record.locked params.id params c.now)
    rw [Record.spentBy_of_locked rfl, Record.terms_locked] at hspent
    rw [Record.paidTo_of_locked rfl] at hpaid
    rw [if_neg hne] at hbalance
    simp only [Registry.spent, Registry.paid, ledger_recorded, registry_recorded, Action.credits,
      Record.id_locked]
    omega
  | @redeemed params preimage r ledger found isLocked opens inTime released =>
    refine holdings_of_release (hk.get?_id found (r.id_redeemed preimage c.now)) isLocked released
      hne ?_
    rw [Record.spentBy_redeemed isLocked, Record.paidTo_redeemed]
  | @refunded params r ledger found isLocked expired released =>
    refine holdings_of_release (hk.get?_id found (r.id_refunded c.now)) isLocked released hne ?_
    rw [Record.spentBy_refunded, Record.paidTo_refunded, Record.spentBy_of_locked isLocked,
      Nat.zero_add, Nat.add_zero]
  | minted asset holder' amount =>
    show ((c.ledger.credit asset holder' amount).balance x holder).toNat
        + Registry.spent c.registry holder x + _ = _ + Registry.paid c.registry holder x
    rw [Ledger.credit_eq, Ledger.balance_setBalance, Action.credits]
    by_cases hsame : asset = x ∧ holder' = holder
    · obtain ⟨rfl, rfl⟩ := hsame
      rw [if_pos ⟨rfl, rfl⟩, if_pos ⟨rfl, rfl⟩, Amount.toNat_satAdd_of_lt hfits]
      omega
    · rw [if_neg hsame, if_neg hsame]
      rfl
  | approved contract owner amount =>
    rw [Ledger.balance_approve]
    rfl
  | timed time => rfl
  | heard l => rfl

theorem allowance (he : Effect c a reply c') {contract owner : Address}
    (hne : ∀ amount, a ≠ .approve contract owner amount) :
    (c'.ledger.allowance contract owner).toNat + pulls contract owner (a, reply)
      = (c.ledger.allowance contract owner).toNat := by
  cases he with
  | refused isCall e => cases a <;> rfl
  | locked checked fresh escrowed => exact Ledger.allowance_escrow escrowed contract owner
  | redeemed found isLocked opens inTime released =>
    obtain ⟨-, -, hkept⟩ := Ledger.pays_release released
    rw [ledger_recorded, Ledger.allowance, hkept]
    rfl
  | refunded found isLocked expired released =>
    obtain ⟨-, -, hkept⟩ := Ledger.pays_release released
    rw [ledger_recorded, Ledger.allowance, hkept]
    rfl
  | minted asset holder amount =>
    show ((c.ledger.credit asset holder amount).allowance contract owner).toNat = _
    rw [Ledger.credit_eq, Ledger.allowance, Ledger.allowances_setBalance]
    rfl
  | approved contract' owner' amount =>
    show ((c.ledger.approve contract' owner' amount).allowance contract owner).toNat = _
    rw [Ledger.allowance_approve, if_neg]
    rintro ⟨rfl, rfl⟩
    exact hne amount rfl
  | timed time => rfl
  | heard l => rfl

end Effect

theorem Sound.allowance_run {c : Chain} (h : c.Sound) {contract owner : Address} (as : List Action)
    (hnone : ∀ amount, .approve contract owner amount ∉ as) :
    ((c.run as).ledger.allowance contract owner).toNat + pulled contract owner (c.answers as)
      = (c.ledger.allowance contract owner).toNat := by
  induction as generalizing c with
  | nil => rfl
  | cons a as ih =>
    have hfirst : ∀ amount, a ≠ .approve contract owner amount := by
      rintro amount rfl
      exact hnone amount List.mem_cons_self
    have hrest : ∀ amount, .approve contract owner amount ∉ as := by
      intro amount hmem
      exact hnone amount (List.mem_cons_of_mem a hmem)
    have hstep := (effect_step h.keyed a).allowance hfirst
    have hrun := ih (h.step a) hrest
    unfold pulled at hrun ⊢
    rw [answers, List.map_cons, List.sum_cons]
    show (((c.step a).run as).ledger.allowance contract owner).toNat + _ = _
    omega

end Chain

namespace Origin

variable (o : Origin) {as : List Action}

theorem holdings_after (h : o.Exact as) {holder : Address} (hne : holder ≠ o.custodian)
    (x : Asset) :
    ((o.after as).ledger.balance x holder).toNat
        + Registry.spent (o.after as).registry holder x
      = mintedTo x holder as + Registry.paid (o.after as).registry holder x := by
  induction as using List.reverseRecOn with
  | nil => cases x <;> rfl
  | append_singleton as a ih =>
    obtain ⟨hinit, hfits⟩ := h.of_concat
    have hbefore := ih hinit
    rw [← o.custodian_after as] at hne
    have hstep := (o.effect_after as a).holdings (o.sound_after as).keyed hfits hne x
    rw [mintedTo_concat]
    omega

theorem allowance_after_approve (contract owner : Address) (amount : Amount) (bs cs : List Action)
    (hlast : ∀ amount', .approve contract owner amount' ∉ cs) :
    ((o.after (bs ++ .approve contract owner amount :: cs)).ledger.allowance contract owner).toNat
        + Chain.pulled contract owner
          ((o.after (bs ++ [.approve contract owner amount])).answers cs)
      = amount.toNat := by
  have hsplit : bs ++ .approve contract owner amount :: cs
      = (bs ++ [.approve contract owner amount]) ++ cs := by
    rw [List.append_assoc]
    rfl
  have hset : (o.after (bs ++ [.approve contract owner amount])).ledger.allowance contract owner
      = amount := by
    rw [after_concat]
    show ((o.after bs).ledger.approve contract owner amount).allowance contract owner = amount
    rw [Ledger.allowance_approve, if_pos ⟨rfl, rfl⟩]
  have hrun := (o.sound_after (bs ++ [.approve contract owner amount])).allowance_run cs hlast
  rw [hset] at hrun
  rw [hsplit, after_append]
  exact hrun

/-- Every balance and every allowance is explained. After every run in which no mint was cut off,
what a holder other than the custodian has of an asset, with what its own transfers hold or have paid
out of it, is what was minted to it and what the transfers redeemed in its favour brought it. What
the custodian may pull of an owner's tokens, with what locks pulled since the owner last allowed an
amount, is that amount, and nothing if none was ever allowed. -/
theorem holdings_explained (h : o.Exact as) :
    (∀ holder x, holder ≠ o.custodian →
        ((o.after as).ledger.balance x holder).toNat
            + Registry.spent (o.after as).registry holder x
          = mintedTo x holder as + Registry.paid (o.after as).registry holder x) ∧
      (∀ contract owner amount bs cs, as = bs ++ .approve contract owner amount :: cs →
        (∀ amount', .approve contract owner amount' ∉ cs) →
        ((o.after as).ledger.allowance contract owner).toNat
            + Chain.pulled contract owner
              ((o.after (bs ++ [.approve contract owner amount])).answers cs)
          = amount.toNat) ∧
      (∀ contract owner, (∀ amount, .approve contract owner amount ∉ as) →
        ((o.after as).ledger.allowance contract owner).toNat
            + Chain.pulled contract owner (o.chain.answers as) = 0) := by
  refine ⟨?_, ?_, ?_⟩
  · intro holder x hne
    exact o.holdings_after h hne x
  · rintro contract owner amount bs cs rfl hlast
    exact o.allowance_after_approve contract owner amount bs cs hlast
  · intro contract owner hnone
    exact (o.sound_after []).allowance_run as hnone

end Origin

/-- Of fifty tokens the user has twenty left beside the thirty that its transfer holds, and of the
thirty that it allowed all were pulled. -/
theorem Origin.holdings_explained_opening :
    Sample.source.Exact Sample.opening ∧
      Sample.user ≠ Sample.source.custodian ∧
      ((Sample.source.after Sample.opening).ledger.balance (.token Sample.contract)
          Sample.user).toNat = 20 ∧
      ((Sample.source.after Sample.opening).ledger.allowance Sample.contract Sample.user).toNat
        = 0 := by
  have hexact := Sample.source.exact_of_minted_lt Sample.opening Sample.minted_opening_lt
  obtain ⟨hbalance, hallowance, -⟩ := Sample.source.holdings_explained hexact
  have hne : Sample.user ≠ Sample.source.custodian := by decide
  have hspent : Registry.spent (Sample.source.after Sample.opening).registry Sample.user
      (.token Sample.contract) = 30 := by decide +kernel
  have hpaid : Registry.paid (Sample.source.after Sample.opening).registry Sample.user
      (.token Sample.contract) = 0 := by decide +kernel
  have hminted : mintedTo (.token Sample.contract) Sample.user Sample.opening = 50 := by decide
  have htokens := hbalance Sample.user (.token Sample.contract) hne
  have hlast : ∀ amount, Action.approve Sample.contract Sample.user amount
      ∉ [Action.lock Sample.outbound (Amount.clamp 7)] := by simp
  have hpulled : Chain.pulled Sample.contract Sample.user
      ((Sample.source.after [.mint .native Sample.user (Amount.clamp 10),
        .mint (.token Sample.contract) Sample.user (Amount.clamp 50),
        .approve Sample.contract Sample.user (Amount.clamp 30)]).answers
        [.lock Sample.outbound (Amount.clamp 7)]) = 30 := by decide +kernel
  have hleft := hallowance Sample.contract Sample.user (Amount.clamp 30)
    [.mint .native Sample.user (Amount.clamp 10),
      .mint (.token Sample.contract) Sample.user (Amount.clamp 50)]
    [.lock Sample.outbound (Amount.clamp 7)] rfl hlast
  have hallowed : (Amount.clamp 30).toNat = 30 := rfl
  refine ⟨hexact, hne, ?_, ?_⟩
  · omega
  · rw [List.cons_append, List.cons_append, List.nil_append, hpulled, hallowed] at hleft
    omega

end AtomicSwap
