import AtomicSwap.Proofs.Solvency

/-!
Settlements never fail for want of funds. Custody covers every locked record, and nobody can have so
much that there is no room for a payment, so the record, the preimage and the clock alone decide what
a confirmation and a refund are answered.
-/

set_option autoImplicit false
set_option relaxedAutoImplicit false

namespace AtomicSwap

namespace Chain

/-- A settlement went through: the record that is answered is kept, the funds that it held went from
custody to `payee`, and the event was announced. -/
structure Settles (c : Chain) (r : Record) (payee : Address) (e : Event) (out : Outcome Record) :
    Prop where
  answer : out.1 = .ok r
  config : out.2.config = c.config
  pays : c.ledger.Pays out.2.ledger c.ledger.custodian payee r.terms.portion
  registry : out.2.registry = c.registry.set r.id r
  now : out.2.now = c.now
  feed : out.2.feed = { c.feed with stream := c.feed.stream ++ [e] }

/-- Of a confirmation and a refund of a record one goes through and the other is refused: before the
timelock the confirmation pays the receiver, from then on the refund pays the sender. -/
def OneSettles (c : Chain) (r : Record) (preimage : Preimage) : Prop :=
  if c.now < r.terms.timelock then
    c.Settles (r.redeemed preimage c.now) r.terms.receiver (.confirmed r.id preimage)
        (c.confirm r.params preimage) ∧
      ∃ e, c.refund r.params = (.error e, c)
  else
    c.Settles (r.refunded c.now) r.terms.sender (.refunded r.id) (c.refund r.params) ∧
      ∃ e, c.confirm r.params preimage = (.error e, c)

theorem confirm_of_opened_eq_error {c : Chain} {params : Params} {preimage : Preimage}
    {e : TransferError} (h : c.opened params preimage = .error e) :
    c.confirm params preimage = (.error e, c) := by
  rw [confirm, h]

theorem refund_of_expired_eq_error {c : Chain} {params : Params} {e : TransferError}
    (h : c.expired params = .error e) : c.refund params = (.error e, c) := by
  rw [refund, h]

theorem refund_of_lt {c : Chain} {params : Params} {r : Record}
    (hget : c.get? params.id = some r) (hnow : c.now < r.terms.timelock) :
    ∃ e, c.refund params = (.error e, c) := by
  have hexpired := c.expired_eq params
  rw [hget] at hexpired
  by_cases hlocked : r.state = .locked
  · simp only [hlocked, hnow, ne_eq, not_true_eq_false, if_false, if_true] at hexpired
    exact ⟨_, refund_of_expired_eq_error hexpired⟩
  · simp only [hlocked, ne_eq, not_false_eq_true, if_true] at hexpired
    exact ⟨_, refund_of_expired_eq_error hexpired⟩

end Chain

namespace Origin

variable (o : Origin) {as : List Action}

/-- Custody covers a locked record, and there is room for it with anybody else. -/
theorem exists_release_of_locked (h : ∀ asset, minted asset as < 2 ^ 256) {k : TransferId}
    {r : Record} (hget : (o.after as).get? k = some r) (hlocked : r.state = .locked)
    {payee : Address} (hpayee : payee ≠ (o.after as).ledger.custodian) :
    ∃ ledger, (o.after as).ledger.release r.terms.asset payee r.terms.amount r.terms.nativeAmount
      = (.ok (), ledger) := by
  have hcover (x : Asset) : r.terms.portion x ≤ ((o.after as).ledger.custody x).toNat := by
    have hheld := Registry.escrowed_le hget x
    have hcustody := o.custody_after (o.exact_of_minted_lt as h) x
    rw [Record.escrowed_of_locked hlocked] at hheld
    omega
  apply Ledger.exists_release hpayee hcover
  intro x
  -- The payee and the custodian together have at most what was minted.
  have hboth := Ledger.balance_add_balance_le_supply (o.after as).ledger x hpayee
  have hsupply := o.supply_after_le as x
  have hminted := h x
  have hpaid := hcover x
  rw [Ledger.custody] at hpaid
  show _ + r.terms.portion x < _
  omega

private theorem settles_of_locked (h : ∀ asset, minted asset as < 2 ^ 256) {k : TransferId}
    {r r' : Record} (hget : (o.after as).get? k = some r) (hlocked : r.state = .locked)
    (hid : r'.id = k) (hterms : r'.terms = r.terms) {payee : Address}
    (hpayee : payee ≠ (o.after as).ledger.custodian) (e : Event) :
    (o.after as).Settles r' payee e ((o.after as).settle r' payee e) := by
  obtain ⟨ledger, hrelease⟩ := o.exists_release_of_locked h hget hlocked hpayee
  rw [← hterms] at hrelease
  obtain ⟨-, hpays, -⟩ := Ledger.pays_release hrelease
  have hstored : (o.after as).get? r'.id = some r := by rwa [hid]
  rcases Chain.settle_cases hstored payee e with ⟨cause, herror, -⟩ | ⟨ledger', hok, hsettle⟩
  · rw [hrelease] at herror
    cases herror
  · rw [hrelease] at hok
    cases hok
    rw [hsettle]
    exact ⟨rfl, rfl, hpays, rfl, rfl, rfl⟩

theorem settles_of_opened (h : ∀ asset, minted asset as < 2 ^ 256) {params : Params}
    {preimage : Preimage} {r' : Record} (hopened : (o.after as).opened params preimage = .ok r') :
    (o.after as).Settles r' r'.terms.receiver (.confirmed params.id preimage)
      ((o.after as).confirm params preimage) := by
  obtain ⟨r, hget, hlocked, -, -, rfl⟩ := Chain.opened_eq_ok_iff.1 hopened
  obtain ⟨hid, hsound⟩ := o.sound_after as _ _ hget
  have hkept : (r.redeemed preimage (o.after as).now).id = params.id := hid
  rw [Chain.confirm, hopened]
  exact o.settles_of_locked h hget hlocked hkept rfl hsound.receiver_ne _

theorem settles_of_expired (h : ∀ asset, minted asset as < 2 ^ 256) {params : Params} {r' : Record}
    (hexpired : (o.after as).expired params = .ok r') :
    (o.after as).Settles r' r'.terms.sender (.refunded params.id)
      ((o.after as).refund params) := by
  obtain ⟨r, hget, hlocked, -, rfl⟩ := Chain.expired_eq_ok_iff.1 hexpired
  obtain ⟨hid, hsound⟩ := o.sound_after as _ _ hget
  have hkept : (r.refunded (o.after as).now).id = params.id := hid
  rw [Chain.refund, hexpired]
  exact o.settles_of_locked h hget hlocked hkept rfl hsound.sender_ne _

theorem confirm_answer (h : ∀ asset, minted asset as < 2 ^ 256) (params : Params)
    (preimage : Preimage) :
    ((o.after as).confirm params preimage).1 = (o.after as).opened params preimage := by
  cases hopened : (o.after as).opened params preimage with
  | error e => rw [Chain.confirm_of_opened_eq_error hopened]
  | ok r' => exact (o.settles_of_opened h hopened).answer

theorem refund_answer (h : ∀ asset, minted asset as < 2 ^ 256) (params : Params) :
    ((o.after as).refund params).1 = (o.after as).expired params := by
  cases hexpired : (o.after as).expired params with
  | error e => rw [Chain.refund_of_expired_eq_error hexpired]
  | ok r' => exact (o.settles_of_expired h hexpired).answer

theorem oneSettles_of_opens (h : ∀ asset, minted asset as < 2 ^ 256) {k : TransferId} {r : Record}
    {preimage : Preimage} (hget : (o.after as).get? k = some r) (hlocked : r.state = .locked)
    (hopens : o.config.scheme.hashlock preimage = r.terms.hashlock) :
    (o.after as).OneSettles r preimage := by
  obtain ⟨hid, hsound⟩ := o.sound_after as _ _ hget
  have hopened := (o.after as).opened_eq r.params preimage
  have hexpired := (o.after as).expired_eq r.params
  rw [config_after] at hopened
  rw [← hid, hsound.id_eq] at hget
  rw [hget] at hopened hexpired
  simp only [ne_eq, hlocked, hopens, not_true_eq_false, if_false] at hopened hexpired
  unfold Chain.OneSettles
  rw [hsound.id_eq]
  split_ifs with hnow
  · rw [if_neg (UInt64.not_le.2 hnow)] at hopened
    rw [if_pos hnow] at hexpired
    exact ⟨o.settles_of_opened h hopened, _, Chain.refund_of_expired_eq_error hexpired⟩
  · rw [if_pos (UInt64.not_lt.1 hnow)] at hopened
    rw [if_neg hnow] at hexpired
    exact ⟨o.settles_of_expired h hexpired, _, Chain.confirm_of_opened_eq_error hopened⟩

theorem get?_after_confirm (h : ∀ asset, minted asset as < 2 ^ 256) {k : TransferId} {r : Record}
    {preimage : Preimage} (hget : (o.after as).get? k = some r) (hlocked : r.state = .locked)
    (hopens : o.config.scheme.hashlock preimage = r.terms.hashlock)
    (hnow : (o.after as).now < r.terms.timelock) :
    (o.after (as ++ [.confirm r.params preimage])).get? k
      = some (r.redeemed preimage (o.after as).now) := by
  obtain ⟨hid, -⟩ := o.sound_after as _ _ hget
  have hdue := o.oneSettles_of_opens h hget hlocked hopens
  rw [Chain.OneSettles, if_pos hnow] at hdue
  obtain ⟨hsettles, -⟩ := hdue
  rw [after_concat]
  show ((o.after as).confirm r.params preimage).2.get? k = _
  rw [Chain.get?_of_set hsettles.registry, Record.id_redeemed, if_pos hid]

/-- No funds are stuck. While less than the greatest amount was minted of each asset, the record, the
preimage and the clock decide what a confirmation and a refund are answered, and the ledger refuses
neither. Of a refund and a confirmation that opens it, exactly one settles a locked record. -/
theorem settlement_outcome (h : ∀ asset, minted asset as < 2 ^ 256) (params : Params)
    (preimage : Preimage) :
    ((o.after as).confirm params preimage).1
        = (match (o.after as).get? params.id with
          | none => .error (.notFound params.id)
          | some r =>
            if r.state ≠ .locked then .error (.invalidState params.id (.notLocked r.state))
            else if o.config.scheme.hashlock preimage ≠ r.terms.hashlock then
              .error (.secretMismatch params.id)
            else if r.terms.timelock ≤ (o.after as).now then
              .error (.invalidState params.id
                (.redemptionClosed r.terms.timelock (o.after as).now))
            else .ok (r.redeemed preimage (o.after as).now)) ∧
      ((o.after as).refund params).1
        = (match (o.after as).get? params.id with
          | none => .error (.notFound params.id)
          | some r =>
            if r.state ≠ .locked then .error (.invalidState params.id (.notLocked r.state))
            else if (o.after as).now < r.terms.timelock then
              .error (.invalidState params.id
                (.refundNotYetAvailable r.terms.timelock (o.after as).now))
            else .ok (r.refunded (o.after as).now)) ∧
      (∀ cause, ((o.after as).confirm params preimage).1 ≠ .error (.assetTransferFailed cause) ∧
        ((o.after as).refund params).1 ≠ .error (.assetTransferFailed cause)) ∧
      (∀ k r, (o.after as).get? k = some r → r.state = .locked →
        o.config.scheme.hashlock preimage = r.terms.hashlock →
        (o.after as).OneSettles r preimage) := by
  have hconfirm := (o.confirm_answer h params preimage).trans (Chain.opened_eq _ _ _)
  have hrefund := (o.refund_answer h params).trans (Chain.expired_eq _ _)
  rw [config_after] at hconfirm
  refine ⟨?_, ?_, ?_, ?_⟩
  · rw [hconfirm]
    cases hget : (o.after as).get? params.id with
    | none => rfl
    | some r =>
      obtain ⟨hid, -⟩ := o.sound_after as _ _ hget
      simp only [hid]
  · rw [hrefund]
    cases hget : (o.after as).get? params.id with
    | none => rfl
    | some r =>
      obtain ⟨hid, -⟩ := o.sound_after as _ _ hget
      simp only [hid]
  · intro cause
    rw [hconfirm, hrefund]
    cases hget : (o.after as).get? params.id with
    | none => simp
    | some r =>
      constructor
      · dsimp only
        split_ifs <;> simp
      · dsimp only
        split_ifs <;> simp
  · intro k r hget hlocked hopens
    exact o.oneSettles_of_opens h hget hlocked hopens

/-- Ninety seconds before its timelock the sample can be confirmed and not refunded. -/
theorem settlement_outcome_opening :
    (∀ asset, minted asset Sample.opening < 2 ^ 256) ∧
      ((Sample.source.after Sample.opening).confirm Sample.outbound Sample.preimage).1
        = .ok ((Record.locked Sample.outbound.id Sample.outbound 10).redeemed Sample.preimage 10) ∧
      ((Sample.source.after Sample.opening).refund Sample.outbound).1
        = .error (.invalidState Sample.outbound.id (.refundNotYetAvailable 100 10)) := by
  have htimelock : (Record.locked Sample.outbound.id Sample.outbound 10).terms.timelock = 100 := rfl
  have hearly : (10 : Seconds) < 100 := by decide
  obtain ⟨hconfirm, hrefund, -, -⟩ := Sample.source.settlement_outcome Sample.minted_opening_lt
    Sample.outbound Sample.preimage
  rw [Sample.get?_after_opening, Sample.now_after_opening] at hconfirm hrefund
  refine ⟨Sample.minted_opening_lt, hconfirm.trans ?_, hrefund.trans ?_⟩
  · show (if _ then _ else if _ then _ else if _ then _ else _) = _
    rw [if_neg (fun h => h rfl), if_neg (fun h => h rfl), htimelock,
      if_neg (UInt64.not_le.2 hearly)]
  · show (if _ then _ else if _ then _ else _) = _
    rw [if_neg (fun h => h rfl), htimelock, if_pos hearly]

end Origin

end AtomicSwap
