import AtomicSwap.Proofs.CounterLeg

/-!
What a user can rely on. Whoever reveals the secret to an inbound half that was verified is paid what
the outbound half asked for, and keeps it but for its own locks. Whoever does not reveal it gets the
outbound half back.
-/

set_option autoImplicit false
set_option relaxedAutoImplicit false

namespace AtomicSwap

theorem Terms.amount_le_portion (t : Terms) : t.amount.toNat ≤ t.portion t.asset := by
  rw [portion, Ledger.portion, if_pos rfl]
  exact Nat.le_add_right _ _

namespace Answer

theorem receiverOf_eq_ok_iff {asked : Request} {a : Address} :
    receiverOf asked = .ok a ↔ a.toForeign = asked.receiver := by
  rw [← ForeignAddress.toLocal?_eq_some_iff]
  unfold receiverOf
  cases asked.receiver.toLocal? with
  | none => simp
  | some b => simp

theorem assetOf_eq_ok_iff {asked : Request} {x : Asset} :
    assetOf asked = .ok x ↔ ∃ token : Address, token.toForeign = asked.asset ∧
      Asset.ofAddress token = x := by
  simp only [← ForeignAddress.toLocal?_eq_some_iff]
  unfold assetOf
  cases asked.asset.toLocal? with
  | none => simp
  | some b => simp

end Answer

namespace Chain

/-- What the lock among an action and its answer took of a holder's funds, if it is one. -/
def takes (holder : Address) (x : Asset) : Action × Option (Except TransferError Record) → Nat
  | (.lock params _, some (.ok _)) =>
    if params.terms.sender = holder then params.terms.portion x else 0
  | _ => 0

def taken (holder : Address) (x : Asset)
    (answers : List (Action × Option (Except TransferError Record))) : Nat :=
  (answers.map (takes holder x)).sum

/-- An action settled a record: it confirmed it in time with a preimage that opens it, or it paid
all that it held back to its sender. -/
inductive Settling (c c' : Chain) (r : Record) : Action → Prop
  | confirmed {params : Params} {preimage : Preimage} (isRedeemed : r.state = .redeemed)
      (id_eq : params.id = r.id) (opens : c.config.scheme.hashlock preimage = r.terms.hashlock)
      (inTime : c.now < r.terms.timelock) : Settling c c' r (.confirm params preimage)
  | refunded {params : Params} (isRefunded : r.state = .refunded) (id_eq : params.id = r.id)
      (pays : c.ledger.Pays c'.ledger c.ledger.custodian r.terms.sender r.terms.portion) :
      Settling c c' r (.refund params)

namespace Effect

variable {c c' : Chain} {a : Action} {reply : Option (Except TransferError Record)}

private theorem balance_le_of_release {ledger : Ledger} {asset : Asset} {payee : Address}
    {amount nativeAmount : Amount} {holder : Address} (hne : holder ≠ c.ledger.custodian)
    (h : c.ledger.release asset payee amount nativeAmount = (.ok (), ledger)) (x : Asset) :
    (c.ledger.balance x holder).toNat ≤ (ledger.balance x holder).toNat := by
  obtain ⟨-, hpays, -⟩ := Ledger.pays_release h
  have hbalance := hpays.balance x holder
  rw [if_neg hne] at hbalance
  omega

/-- Nobody but the custodian ever has less after an action than before, but for what it locked. -/
theorem balance_le (he : Effect c a reply c') {holder : Address}
    (hne : holder ≠ c.ledger.custodian) (x : Asset) :
    (c.ledger.balance x holder).toNat
      ≤ (c'.ledger.balance x holder).toNat + takes holder x (a, reply) := by
  cases he with
  | refused isCall e => exact Nat.le_add_right _ _
  | @locked params attached receipt ledger checked fresh escrowed =>
    obtain ⟨-, hpays⟩ := pays_lock checked escrowed
    have hbalance := hpays.balance x holder
    rw [if_neg hne] at hbalance
    simp only [ledger_recorded, takes, eq_comm (a := params.terms.sender)]
    omega
  | redeemed found isLocked opens inTime released => exact balance_le_of_release hne released x
  | refunded found isLocked expired released => exact balance_le_of_release hne released x
  | minted asset holder' amount =>
    have hlt := (c.ledger.balance x holder).isLt
    show _ ≤ ((c.ledger.credit asset holder' amount).balance x holder).toNat + 0
    rw [Ledger.credit_eq, Ledger.balance_setBalance]
    split_ifs with hsame
    · obtain ⟨rfl, rfl⟩ := hsame
      rw [Amount.toNat_satAdd]
      omega
    · exact Nat.le_refl _
  | approved contract owner amount =>
    rw [Ledger.balance_approve]
    exact Nat.le_add_right _ _
  | timed time => exact Nat.le_add_right _ _
  | heard l => exact Nat.le_add_right _ _

theorem found_settled (he : Effect c a reply c') (hk : c.Keyed) {k : TransferId} {r : Record}
    (hget : c'.get? k = some r) (hsettled : r.state ≠ .locked) :
    c.get? k = some r ∨ Settling c c' r a := by
  cases he with
  | refused isCall e => exact Or.inl hget
  | locked checked fresh escrowed =>
    rw [get?_recorded] at hget
    split_ifs at hget
    · cases hget
      exact absurd rfl hsettled
    · exact Or.inl hget
  | redeemed found isLocked opens inTime released =>
    rw [get?_recorded] at hget
    split_ifs at hget
    · cases hget
      exact Or.inr (.confirmed rfl (hk _ _ found).symm opens inTime)
    · exact Or.inl hget
  | refunded found isLocked expired released =>
    obtain ⟨-, hpays, -⟩ := Ledger.pays_release released
    rw [get?_recorded] at hget
    split_ifs at hget
    · cases hget
      exact Or.inr (.refunded rfl (hk _ _ found).symm hpays)
    · exact Or.inl hget
  | minted asset holder amount => exact Or.inl hget
  | approved contract owner amount => exact Or.inl hget
  | timed time => exact Or.inl hget
  | heard l => exact Or.inl hget

end Effect

theorem Sound.balance_run {c : Chain} (h : c.Sound) {holder : Address}
    (hne : holder ≠ c.ledger.custodian) (x : Asset) (as : List Action) :
    (c.ledger.balance x holder).toNat
      ≤ ((c.run as).ledger.balance x holder).toNat + taken holder x (c.answers as) := by
  induction as generalizing c with
  | nil => exact Nat.le_add_right _ _
  | cons a as ih =>
    have heffect := effect_step h.keyed a
    have hstep := heffect.balance_le hne x
    have hrun := ih (h.step a) (by rwa [heffect.custodian_eq])
    unfold taken at hrun ⊢
    rw [answers, List.map_cons, List.sum_cons]
    show _ ≤ (((c.step a).run as).ledger.balance x holder).toNat + _
    omega

end Chain

namespace Origin

variable (o : Origin) {as : List Action}

theorem balance_after_le_append {holder : Address} (hne : holder ≠ o.custodian) (x : Asset)
    (as bs : List Action) :
    ((o.after as).ledger.balance x holder).toNat
      ≤ ((o.after (as ++ bs)).ledger.balance x holder).toNat
        + Chain.taken holder x ((o.after as).answers bs) := by
  rw [after_append]
  rw [← o.custodian_after as] at hne
  exact (o.sound_after as).balance_run hne x bs

theorem exists_settling {k : TransferId} {r : Record} (hget : (o.after as).get? k = some r)
    (hsettled : r.state ≠ .locked) :
    ∃ bs a, bs ++ [a] <+: as ∧ (o.after bs).Settling (o.after (bs ++ [a])) r a := by
  induction as using List.reverseRecOn with
  | nil => cases hget
  | append_singleton as a ih =>
    have hkeyed := (o.sound_after as).keyed
    rcases (o.effect_after as a).found_settled hkeyed hget hsettled with hbefore | hsettling
    · obtain ⟨bs, b, hinit, hsettling⟩ := ih hbefore
      exact ⟨bs, b, hinit.trans (List.prefix_append as [a]), hsettling⟩
    · exact ⟨as, a, List.prefix_refl _, hsettling⟩

/-- Nobody called a confirmation that opens a transfer before its timelock. -/
def Unrevealed (as : List Action) (r : Record) : Prop :=
  ∀ bs params preimage, bs ++ [.confirm params preimage] <+: as → params.id = r.id →
    o.config.scheme.hashlock preimage = r.terms.hashlock → r.terms.timelock ≤ (o.after bs).now

private theorem pays_asked (h : ∀ asset, minted asset as < 2 ^ 256) {outbound inbound : Record}
    (hget : (o.after as).get? inbound.id = some inbound) (hlocked : inbound.state = .locked)
    {chain : ChainId} {margin : Seconds}
    (hverify : Answer.verify outbound chain inbound.params margin = .ok ())
    (hnow : (o.after as).now < inbound.terms.timelock) {preimage : Preimage}
    (hopens : o.config.scheme.hashlock preimage = outbound.terms.hashlock) :
    ∃ (asked : Request) (payee token : Address), outbound.params.route = .outbound asked ∧
      payee.toForeign = asked.receiver ∧ token.toForeign = asked.asset ∧ payee ≠ o.custodian ∧
      ((o.after as).confirm inbound.params preimage).1
        = .ok (inbound.redeemed preimage (o.after as).now) ∧
      ((o.after as).ledger.balance (.ofAddress token) payee).toNat + asked.amount.toNat
        ≤ ((o.after (as ++ [.confirm inbound.params preimage])).ledger.balance (.ofAddress token)
            payee).toNat := by
  obtain ⟨asked, link, hroute, -, hhashlock, -, -, hreceiver, hasset, hamount, -⟩ :=
    Answer.verify_eq_ok_iff.1 hverify
  have hpayee := Answer.receiverOf_eq_ok_iff.1 hreceiver
  obtain ⟨token, htoken, hx⟩ := Answer.assetOf_eq_ok_iff.1 hasset
  obtain ⟨-, hsound⟩ := o.sound_after as _ _ hget
  have hdue := o.oneSettles_of_opens h hget hlocked (hopens.trans hhashlock)
  rw [Chain.OneSettles, if_pos hnow] at hdue
  obtain ⟨hsettles, -⟩ := hdue
  have hne := hsound.receiver_ne
  have hbalance := hsettles.pays.balance_payee hne.symm inbound.terms.asset
  have hportion := inbound.terms.amount_le_portion
  rw [Amount.le_iff] at hamount
  rw [Record.terms_redeemed] at hbalance
  refine ⟨asked, inbound.terms.receiver, token, hroute, hpayee, htoken, ?_, hsettles.answer, ?_⟩
  · rwa [custodian_after] at hne
  · rw [after_concat, hx]
    show _ ≤ (((o.after as).confirm inbound.params preimage).2.ledger.balance inbound.terms.asset
      inbound.terms.receiver).toNat
    rw [hbalance]
    exact Nat.add_le_add_left (hamount.trans hportion) _

private theorem not_redeemed {as : List Action} {outbound r : Record}
    (hunrevealed : o.Unrevealed as outbound) (hid : r.id = outbound.id)
    (hterms : r.terms = outbound.terms) {k : TransferId} (hget : (o.after as).get? k = some r) :
    r.state = .locked ∨
      r.state = .refunded ∧ ∃ bs params, bs ++ [.refund params] <+: as ∧ params.id = outbound.id ∧
        (o.after bs).ledger.Pays (o.after (bs ++ [.refund params])).ledger o.custodian
          outbound.terms.sender outbound.terms.portion := by
  by_cases hlocked : r.state = .locked
  · exact Or.inl hlocked
  · obtain ⟨bs, a, hinit, hsettling⟩ := o.exists_settling hget hlocked
    cases hsettling with
    | @confirmed params preimage isRedeemed id_eq opens inTime =>
      rw [config_after, hterms] at opens
      rw [hterms] at inTime
      have hlate := hunrevealed bs params preimage hinit (id_eq.trans hid) opens
      exact absurd inTime (UInt64.not_lt.2 hlate)
    | @refunded params isRefunded id_eq pays =>
      rw [custodian_after, hterms] at pays
      exact Or.inr ⟨isRefunded, bs, params, hinit, id_eq.trans hid, pays⟩

/-- A verified swap pays the user, or costs nothing. Whoever confirms in time an inbound half that was
verified against an outbound one pays the address that the outbound half names at least what it asks
for, and at no time does anything but a lock of its own take from what that address has. While the
secret of the outbound half is not revealed in time on its own chain, that half is locked or was paid
back to its sender in full, and from its timelock on a refund does so. -/
theorem counter_leg_pays (outbound : Record) :
    (∀ (destination : Origin) (as : List Action) (inbound : Record) (chain : ChainId)
        (margin : Seconds) (preimage : Preimage),
      (∀ asset, minted asset as < 2 ^ 256) →
      (destination.after as).get? inbound.id = some inbound → inbound.state = .locked →
      Answer.verify outbound chain inbound.params margin = .ok () →
      (destination.after as).now < inbound.terms.timelock →
      destination.config.scheme.hashlock preimage = outbound.terms.hashlock →
      ∃ (asked : Request) (user token : Address), outbound.params.route = .outbound asked ∧
        user.toForeign = asked.receiver ∧ token.toForeign = asked.asset ∧
        ((destination.after as).confirm inbound.params preimage).1
          = .ok (inbound.redeemed preimage (destination.after as).now) ∧
        ((destination.after as).ledger.balance (.ofAddress token) user).toNat + asked.amount.toNat
          ≤ ((destination.after (as ++ [.confirm inbound.params preimage])).ledger.balance
              (.ofAddress token) user).toNat ∧
        ∀ bs cs, ((destination.after bs).ledger.balance (.ofAddress token) user).toNat
          ≤ ((destination.after (bs ++ cs)).ledger.balance (.ofAddress token) user).toNat
            + Chain.taken user (.ofAddress token) ((destination.after bs).answers cs)) ∧
    (∀ (source : Origin) (as : List Action) (r : Record),
      (∀ asset, minted asset as < 2 ^ 256) →
      (source.after as).get? outbound.id = some r → r.params = outbound.params →
      source.Unrevealed as outbound →
      (r.state = .locked ∨
        r.state = .refunded ∧ ∃ bs params, bs ++ [.refund params] <+: as ∧
          params.id = outbound.id ∧
          (source.after bs).ledger.Pays (source.after (bs ++ [.refund params])).ledger
            source.custodian outbound.terms.sender outbound.terms.portion) ∧
      (r.state = .locked → outbound.terms.timelock ≤ (source.after as).now →
        (source.after as).Settles (r.refunded (source.after as).now) outbound.terms.sender
          (.refunded outbound.id) ((source.after as).refund outbound.params))) := by
  constructor
  · intro destination as inbound chain margin preimage h hget hlocked hverify hnow hopens
    obtain ⟨asked, user, token, hroute, huser, htoken, hne, hanswer, hpaid⟩ :=
      destination.pays_asked h hget hlocked hverify hnow hopens
    refine ⟨asked, user, token, hroute, huser, htoken, hanswer, hpaid, ?_⟩
    intro bs cs
    exact destination.balance_after_le_append hne _ bs cs
  · intro source as r h hget hparams hunrevealed
    obtain ⟨hid, hsound⟩ := source.sound_after as _ _ hget
    have hterms : r.terms = outbound.terms := congrArg Params.terms hparams
    refine ⟨source.not_redeemed hunrevealed hid hterms hget, ?_⟩
    intro hlocked hexpired
    have hkept : outbound.params.id = outbound.id := by
      rw [← hparams, ← hsound.id_eq, hid]
    rw [← hterms] at hexpired ⊢
    have hdue := source.settles_of_expired h (Chain.expired_eq_ok_iff.2
      ⟨r, hkept ▸ hget, hlocked, hexpired, rfl⟩)
    rwa [hkept] at hdue

end Origin

theorem Sample.unrevealed_opening (time : Seconds) :
    source.Unrevealed (opening ++ [.setTime time]) pending := by
  intro bs params preimage hinit
  have hmem := hinit.subset (List.mem_append_right bs List.mem_cons_self)
  simp [opening] at hmem

/-- The user is paid the twenty coins that it asked for, or takes back its half at its timelock. -/
theorem Origin.counter_leg_pays_sample :
    Answer.verify Sample.pending 1 Sample.inbound 40 = .ok () ∧
      20 ≤ ((Sample.destination.after
          (Sample.answering ++ [.confirm Sample.inbound Sample.preimage])).ledger.balance .native
            Sample.user).toNat ∧
      ((Sample.source.after (Sample.opening ++ [.setTime 100])).refund Sample.outbound).1
        = .ok (Sample.pending.refunded 100) := by
  obtain ⟨hpays, hkeeps⟩ := Origin.counter_leg_pays Sample.pending
  have hnow : (Sample.destination.after Sample.answering).now = 20 := rfl
  have hearly : (20 : Seconds) < 50 := by decide
  rw [← hnow] at hearly
  obtain ⟨asked, user, token, hroute, huser, htoken, -, hpaid, -⟩ :=
    hpays Sample.destination Sample.answering (Record.locked Sample.inbound.id Sample.inbound 20) 1 40
      Sample.preimage Sample.minted_answering_lt Sample.get?_after_answering rfl
      Sample.verify_answered hearly rfl
  have hminted (asset : Asset) : minted asset (Sample.opening ++ [.setTime 100]) < 2 ^ 256 := by
    rw [minted_concat]
    exact Sample.minted_opening_lt asset
  have hget : (Sample.source.after (Sample.opening ++ [.setTime 100])).get? Sample.pending.id
      = some Sample.pending := by
    rw [Origin.after_setTime]
    exact Sample.get?_pending
  have hclock := Sample.source.now_after_setTime Sample.opening 100
  obtain ⟨-, hrefund⟩ := hkeeps Sample.source _ Sample.pending hminted hget rfl
    (Sample.unrevealed_opening 100)
  have hsettles := hrefund rfl (UInt64.le_of_eq hclock.symm)
  rw [hclock] at hsettles
  cases hroute
  rw [← ForeignAddress.toLocal?_eq_some_iff] at huser htoken
  have huser' : (Address.toForeign Sample.user).toLocal? = some Sample.user := by decide
  have htoken' : ForeignAddress.toLocal? (Bytes.zero 32) = some (Bytes.zero 20) := by decide
  cases huser.symm.trans huser'
  cases htoken.symm.trans htoken'
  refine ⟨Sample.verify_answered, ?_, hsettles.answer⟩
  exact Nat.le_trans (Nat.le_add_left 20 _) hpaid

end AtomicSwap
