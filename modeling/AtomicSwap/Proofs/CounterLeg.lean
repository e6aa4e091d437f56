import AtomicSwap.Answer
import AtomicSwap.Proofs.Settlement
import AtomicSwap.Proofs.Timelocks

/-!
The two halves of a swap, each on a chain of its own. An inbound half that was verified against the
outbound one and then redeemed gives away a preimage that still opens the outbound half, for at least
the margin after the inbound half was redeemed.
-/

set_option autoImplicit false
set_option relaxedAutoImplicit false

namespace AtomicSwap

namespace Answer

theorem verify_eq_ok_iff {outbound : Record} {source : ChainId} {inbound : Params}
    {margin : Seconds} :
    verify outbound source inbound margin = .ok () ↔
      ∃ asked link, outbound.params.route = .outbound asked ∧ inbound.route = .inbound link ∧
        outbound.terms.hashlock = inbound.terms.hashlock ∧ link.transfer = outbound.id ∧
        link.chain = source ∧ receiverOf asked = .ok inbound.terms.receiver ∧
        assetOf asked = .ok inbound.terms.asset ∧ asked.amount ≤ inbound.terms.amount ∧
        inbound.terms.timelock.toNat + margin.toNat < outbound.terms.timelock.toNat := by
  unfold verify
  cases houtbound : outbound.params.route with
  | inbound link => simp
  | outbound asked =>
    cases hinbound : inbound.route with
    | outbound asked' => simp
    | inbound link =>
      simp only [checkMargin, bind_eq_ok_iff, require_eq_ok_iff, exists_and_left, exists_const,
        Timelocks.leaves_iff, Route.outbound.injEq, Route.inbound.injEq]
      constructor
      · rintro ⟨hhashlock, hlink, hchain, receiver, hreceiver, rfl, asset, hasset, rfl, h⟩
        exact ⟨asked, rfl, link, rfl, hhashlock, hlink, hchain, hreceiver, hasset, h⟩
      · rintro ⟨asked', rfl, link', rfl, hhashlock, hlink, hchain, hreceiver, hasset, h⟩
        exact ⟨hhashlock, hlink, hchain, _, hreceiver, rfl, _, hasset, rfl, h⟩

end Answer

namespace Origin

/-- A transfer was settled at a time that the clock had shown. -/
theorem exists_prefix_of_settledAt (o : Origin) {as : List Action} {k : TransferId} {r : Record}
    {time : Seconds} (hget : (o.after as).get? k = some r) (htime : r.settledAt = some time) :
    ∃ bs, bs <+: as ∧ (o.after bs).now = time := by
  induction as using List.reverseRecOn with
  | nil => cases hget
  | append_singleton as a ih =>
    rcases (o.effect_after as a).found hget with hbefore | ⟨-, hnone⟩ | ⟨-, -, -, -, hsettled⟩
    · obtain ⟨bs, hinit, hbs⟩ := ih hbefore
      exact ⟨bs, hinit.trans (List.prefix_append as [a]), hbs⟩
    · cases hnone.symm.trans htime
    · cases hsettled.symm.trans htime
      exact ⟨as, List.prefix_append as [a], rfl⟩

private theorem opens_of_redeemed {destination : Origin} {bs : List Action}
    {outbound inbound : Record} {source : ChainId} {margin time : Seconds} {preimage : Preimage}
    (hinbound : (destination.after bs).get? inbound.id = some inbound)
    (hverify : Answer.verify outbound source inbound.params margin = .ok ())
    (hstate : inbound.state = .redeemed) (hpreimage : inbound.preimage = some preimage)
    (htime : inbound.settledAt = some time) :
    destination.config.scheme.hashlock preimage = outbound.terms.hashlock ∧
      time.toNat + margin.toNat < outbound.terms.timelock.toNat := by
  obtain ⟨-, -, -, -, hhashlock, -, -, -, -, -, hmargin⟩ := Answer.verify_eq_ok_iff.1 hverify
  obtain ⟨-, hsound⟩ := destination.sound_after bs _ _ hinbound
  obtain ⟨preimage', time', hpreimage', htime', hopens, hbefore⟩ := hsound.opens hstate
  cases hpreimage.symm.trans hpreimage'
  cases htime.symm.trans htime'
  rw [config_after] at hopens
  constructor
  · exact hopens.trans hhashlock.symm
  · -- Strictly before one timelock, and that with the margin strictly before the other.
    have hlt : time.toNat < inbound.params.terms.timelock.toNat :=
      UInt64.lt_iff_toNat_lt.1 hbefore
    omega

/-- The provider of a counter leg can always collect. Whoever redeems an inbound half that was
verified against an outbound one gives away a preimage that opens the outbound half. On the source
chain, after whatever run, the outbound half cannot be refunded while the clock has not passed the
margin, and a confirmation with this preimage pays its receiver if it is still locked; nor was it
refunded before, if the clock never passed the margin. -/
theorem provider_collects {source destination : Origin}
    (hscheme : destination.config.scheme = source.config.scheme) {as bs : List Action}
    {outbound inbound : Record} (houtbound : (source.after as).get? outbound.id = some outbound)
    (hinbound : (destination.after bs).get? inbound.id = some inbound) {chain : ChainId}
    {margin time : Seconds} {preimage : Preimage}
    (hverify : Answer.verify outbound chain inbound.params margin = .ok ())
    (hstate : inbound.state = .redeemed) (hpreimage : inbound.preimage = some preimage)
    (htime : inbound.settledAt = some time) :
    source.config.scheme.hashlock preimage = outbound.terms.hashlock ∧
      (∀ cs, ∃ r, (source.after (as ++ cs)).get? outbound.id = some r ∧
        r.params = outbound.params) ∧
      (∀ cs r, (source.after cs).get? outbound.id = some r → r.params = outbound.params →
        (source.after cs).now.toNat ≤ time.toNat + margin.toNat →
        (∃ e, (source.after cs).refund outbound.params = (.error e, source.after cs)) ∧
          (r.state = .locked → (∀ asset, minted asset cs < 2 ^ 256) →
            (source.after cs).Settles (r.redeemed preimage (source.after cs).now)
              outbound.terms.receiver (.confirmed outbound.id preimage)
              ((source.after cs).confirm outbound.params preimage))) ∧
      (∀ cs r, (source.after cs).get? outbound.id = some r → r.params = outbound.params →
        (∀ ds, ds <+: cs → (source.after ds).now.toNat ≤ time.toNat + margin.toNat) →
        r.state ≠ .refunded) := by
  obtain ⟨hopens, hmargin⟩ := opens_of_redeemed hinbound hverify hstate hpreimage htime
  rw [hscheme] at hopens
  refine ⟨hopens, ?_, ?_, ?_⟩
  · intro cs
    rw [after_append]
    obtain ⟨r, hget, hprecedes⟩ := (source.sound_after as).precedes_run cs houtbound
    exact ⟨r, hget, hprecedes.params_eq⟩
  · intro cs r hget hparams hnow
    obtain ⟨hid, hsound⟩ := source.sound_after cs _ _ hget
    have hterms : r.terms = outbound.terms := congrArg Params.terms hparams
    have hopen : (source.after cs).now < r.terms.timelock := by
      rw [UInt64.lt_iff_toNat_lt, hterms]
      omega
    rw [← hparams, ← hterms]
    constructor
    · have hstored : (source.after cs).get? r.params.id = some r := by
        rwa [← hsound.id_eq, hid]
      exact Chain.refund_of_lt hstored hopen
    · intro hlocked hminted
      have hdue := source.oneSettles_of_opens hminted hget hlocked (hterms ▸ hopens)
      rw [Chain.OneSettles, if_pos hopen] at hdue
      obtain ⟨hsettles, -⟩ := hdue
      rwa [hid] at hsettles
  · intro cs r hget hparams hclock hrefunded
    obtain ⟨-, hsound⟩ := source.sound_after cs _ _ hget
    obtain ⟨settled, hsettled, hexpired⟩ := hsound.expired hrefunded
    obtain ⟨ds, hinit, hds⟩ := source.exists_prefix_of_settledAt hget hsettled
    have hshown := hclock ds hinit
    have hterms : r.terms = outbound.terms := congrArg Params.terms hparams
    rw [UInt64.le_iff_toNat_le, hterms] at hexpired
    rw [hds] at hshown
    omega

end Origin

namespace Sample

def destination : Origin := ⟨Config.forChain 2, custodian, 20⟩

/-- The twenty native coins that the sample asks for, up to the fiftieth second. -/
def inbound : Params where
  terms := {
    sender := provider
    receiver := user
    asset := .native
    amount := Amount.clamp 20
    nativeAmount := 0
    hashlock := Config.standard.scheme.hashlock preimage
    timelock := 50 }
  route := .inbound ⟨1, outbound.id⟩

def answering : List Action :=
  [.mint .native provider (Amount.clamp 20), .lock inbound (Amount.clamp 20)]

def pending : Record := Record.locked outbound.id outbound 10

def answered : Record := (Record.locked inbound.id inbound 20).redeemed preimage 20

theorem minted_answering_lt (asset : Asset) : minted asset answering < 2 ^ 256 := by
  have hnative : (Amount.clamp 20).toNat = 20 := rfl
  simp only [minted, answering, List.map_cons, List.map_nil, List.sum_cons, List.sum_nil,
    Action.mints, hnative]
  split_ifs <;> decide

theorem get?_after_answering :
    (destination.after answering).get? inbound.id = some (Record.locked inbound.id inbound 20) := by
  have hregistry : (destination.after answering).registry
      = Table.empty.set inbound.id (Record.locked inbound.id inbound 20) := rfl
  rw [Chain.get?, hregistry, Table.get?_set_self]

theorem get?_after_confirming :
    (destination.after (answering ++ [.confirm inbound preimage])).get? answered.id
      = some answered := by
  have hnow : (destination.after answering).now = 20 := rfl
  have hearly : (20 : Seconds) < (Record.locked inbound.id inbound 20).terms.timelock := by decide
  rw [← hnow] at hearly
  have hget := destination.get?_after_confirm minted_answering_lt get?_after_answering rfl rfl
    hearly
  rwa [hnow] at hget

theorem verify_answered : Answer.verify pending 1 answered.params 40 = .ok () := by
  have hreceiver : (Address.toForeign user).toLocal? = some user := by decide
  have hasset : ForeignAddress.toLocal? (Bytes.zero 32) = some (Bytes.zero 20) := by decide
  refine Answer.verify_eq_ok_iff.2 ⟨_, _, rfl, rfl, rfl, rfl, rfl, ?_, ?_, ?_, ?_⟩
  · rw [Answer.receiverOf, hreceiver]
    rfl
  · rw [Answer.assetOf, hasset]
    rfl
  · exact Nat.le_refl 20
  · show 50 + 40 < 100
    decide

theorem get?_pending : (source.after opening).get? pending.id = some pending := get?_after_opening

theorem get?_pending_at_sixty :
    (source.after (opening ++ [.setTime 60])).get? pending.id = some pending := by
  rw [Origin.after_setTime]
  exact get?_pending

end Sample

/-- At the sixtieth second, forty seconds after the user redeemed the inbound half, the provider
still collects. -/
theorem Origin.provider_collects_at_sixty :
    Answer.verify Sample.pending 1 Sample.answered.params 40 = .ok () ∧
      ((Sample.source.after (Sample.opening ++ [.setTime 60])).confirm Sample.pending.params
          Sample.preimage).1
        = .ok (Sample.pending.redeemed Sample.preimage 60) := by
  have hscheme : Sample.destination.config.scheme = Sample.source.config.scheme := rfl
  obtain ⟨-, -, hcollect, -⟩ := Origin.provider_collects hscheme Sample.get?_pending
    Sample.get?_after_confirming Sample.verify_answered rfl rfl rfl
  have hminted (asset : Asset) : minted asset (Sample.opening ++ [.setTime 60]) < 2 ^ 256 := by
    rw [minted_concat]
    exact Sample.minted_opening_lt asset
  have hclock := Sample.source.now_after_setTime Sample.opening 60
  have hmargin : (60 : Seconds).toNat ≤ (20 : Seconds).toNat + (40 : Seconds).toNat := by decide
  rw [← hclock] at hmargin
  obtain ⟨-, hconfirm⟩ := hcollect _ _ Sample.get?_pending_at_sixty rfl hmargin
  have hsettles := hconfirm rfl hminted
  rw [hclock] at hsettles
  exact ⟨Sample.verify_answered, hsettles.answer⟩

end AtomicSwap
