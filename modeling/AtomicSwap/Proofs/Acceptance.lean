import AtomicSwap.Proofs.Locking
import AtomicSwap.Proofs.Payment

/-!
What is accepted as the answer to an outbound half. The objections to an inbound half are listed in
the order in which they are reported, and a half to which there is none is accepted. What a provider
plans from the announcement of an outbound half is accepted whenever its timelock leaves the margin,
and where nothing can be planned nothing is accepted.
-/

set_option autoImplicit false
set_option relaxedAutoImplicit false

namespace AtomicSwap

/-- The twelve upper bytes of a foreign address are zero. -/
def ForeignAddress.IsPadded (f : ForeignAddress) : Prop :=
  f.toList.take 12 = List.replicate 12 0

instance (f : ForeignAddress) : Decidable f.IsPadded := inferInstanceAs (Decidable (_ = _))

theorem ForeignAddress.isPadded_iff {f : ForeignAddress} :
    f.IsPadded ↔ ∃ a : Address, a.toForeign = f := by
  simp only [← ForeignAddress.toLocal?_eq_some_iff]
  unfold IsPadded toLocal?
  constructor
  · intro hpadded
    have hlength : (f.toList.drop 12).length = 20 := by rw [List.length_drop, f.length_eq]
    exact ⟨⟨f.toList.drop 12, hlength⟩, by rw [if_pos hpadded, Bytes.ofList?_eq_some_iff]⟩
  · rintro ⟨a, ha⟩
    by_contra hpadded
    rw [if_neg hpadded] at ha
    cases ha

/-- The asset that is asked for, as the local chain has it. -/
def Request.Names (asked : Request) (x : Asset) : Prop :=
  ∃ token : Address, token.toForeign = asked.asset ∧ Asset.ofAddress token = x

instance (asked : Request) (x : Asset) : Decidable (asked.Names x) :=
  decidable_of_iff (asked.asset.toLocal?.map Asset.ofAddress = some x) <| by
    simp only [Request.Names, ← ForeignAddress.toLocal?_eq_some_iff, Option.map_eq_some_iff]

def Params.until (p : Params) (timelock : Seconds) : Params :=
  { p with terms := { p.terms with timelock := timelock } }

def Params.paying (p : Params) (amount : Amount) : Params :=
  { p with terms := { p.terms with amount := amount } }

def Record.until (r : Record) (timelock : Seconds) : Record :=
  { r with params := r.params.until timelock }

namespace Answer

/-- What stands against an inbound half as the answer to an outbound one. -/
def objections (outbound : Record) (source : ChainId) (inbound : Params) (margin : Seconds) :
    Objections Mismatch :=
  (outbound.params.leg ≠ .outbound, .wrongLeg .outbound) ::
    (inbound.leg ≠ .inbound, .wrongLeg .inbound) ::
    match outbound.params.route, inbound.route with
    | .outbound asked, .inbound link =>
      [(outbound.terms.hashlock ≠ inbound.terms.hashlock, .hashlock),
        (link.transfer ≠ outbound.id, .unlinked outbound.id link.transfer),
        (link.chain ≠ source, .chain source link.chain),
        (¬asked.receiver.IsPadded, .foreignReceiver),
        (inbound.terms.receiver.toForeign ≠ asked.receiver, .receiver),
        (¬asked.asset.IsPadded, .foreignAsset),
        (¬asked.Names inbound.terms.asset, .asset),
        (inbound.terms.amount < asked.amount, .amount asked.amount inbound.terms.amount),
        (outbound.terms.timelock.toNat ≤ inbound.terms.timelock.toNat + margin.toNat,
          .timelockMargin outbound.terms.timelock inbound.terms.timelock margin)]
    | _, _ => []

section

variable {α : Type} {asked : Request}

theorem exists_receiverOf_iff : (∃ a, receiverOf asked = .ok a) ↔ asked.receiver.IsPadded := by
  simp only [receiverOf_eq_ok_iff, ForeignAddress.isPadded_iff]

theorem exists_assetOf_iff : (∃ x, assetOf asked = .ok x) ↔ asked.asset.IsPadded := by
  simp only [assetOf_eq_ok_iff, ForeignAddress.isPadded_iff]
  constructor
  · rintro ⟨x, token, htoken, -⟩
    exact ⟨token, htoken⟩
  · rintro ⟨token, htoken⟩
    exact ⟨_, token, htoken, rfl⟩

theorem receiverOf_of_not_isPadded (h : ¬asked.receiver.IsPadded) :
    receiverOf asked = .error .foreignReceiver := by
  unfold receiverOf
  cases hlocal : asked.receiver.toLocal? with
  | none => rfl
  | some a =>
    have hforeign := ForeignAddress.toLocal?_eq_some_iff.1 hlocal
    exact absurd (ForeignAddress.isPadded_iff.2 ⟨a, hforeign⟩) h

theorem assetOf_of_not_isPadded (h : ¬asked.asset.IsPadded) :
    assetOf asked = .error .foreignAsset := by
  unfold assetOf
  cases hlocal : asked.asset.toLocal? with
  | none => rfl
  | some a =>
    have hforeign := ForeignAddress.toLocal?_eq_some_iff.1 hlocal
    exact absurd (ForeignAddress.isPadded_iff.2 ⟨a, hforeign⟩) h

theorem refusal?_receiver (asked : Request) (a : Address) (f : Unit → Except Mismatch α) :
    refusal? (receiverOf asked >>= fun receiver => require (a = receiver) .receiver >>= f)
      = if decide (¬asked.receiver.IsPadded) then some .foreignReceiver
        else if decide (a.toForeign ≠ asked.receiver) then some .receiver
        else refusal? (f ()) := by
  by_cases hpadded : asked.receiver.IsPadded
  · obtain ⟨receiver, hreceiver⟩ := exists_receiverOf_iff.2 hpadded
    have hsame : a.toForeign ≠ asked.receiver ↔ ¬a = receiver := by
      rw [ne_eq, ← receiverOf_eq_ok_iff, hreceiver, Except.ok.injEq, eq_comm]
    rw [hreceiver, decide_eq_false (not_not.2 hpadded), if_neg Bool.false_ne_true]
    exact refusal?_require_bind hsame _ f
  · rw [receiverOf_of_not_isPadded hpadded, decide_eq_true hpadded, if_pos rfl]
    rfl

theorem refusal?_asset (asked : Request) (x : Asset) (f : Unit → Except Mismatch α) :
    refusal? (assetOf asked >>= fun asset => require (x = asset) .asset >>= f)
      = if decide (¬asked.asset.IsPadded) then some .foreignAsset
        else if decide (¬asked.Names x) then some .asset
        else refusal? (f ()) := by
  by_cases hpadded : asked.asset.IsPadded
  · obtain ⟨asset, hasset⟩ := exists_assetOf_iff.2 hpadded
    have hsame : ¬asked.Names x ↔ ¬x = asset := by
      rw [Request.Names, ← assetOf_eq_ok_iff, hasset, Except.ok.injEq, eq_comm]
    rw [hasset, decide_eq_false (not_not.2 hpadded), if_neg Bool.false_ne_true]
    exact refusal?_require_bind hsame _ f
  · rw [assetOf_of_not_isPadded hpadded, decide_eq_true hpadded, if_pos rfl]
    rfl

end

theorem refusal?_checkMargin (t : Timelocks) (margin : Seconds) :
    refusal? (checkMargin t margin)
      = if decide (t.outbound.toNat ≤ t.inbound.toNat + margin.toNat) then
          some (.timelockMargin t.outbound t.inbound margin)
        else none := by
  have hmargin : t.outbound.toNat ≤ t.inbound.toNat + margin.toNat ↔ ¬t.leaves margin = true := by
    rw [Bool.not_eq_true, Timelocks.leaves_eq_false_iff]
  exact refusal?_require hmargin _

theorem refusal?_verify (outbound : Record) (source : ChainId) (inbound : Params)
    (margin : Seconds) :
    refusal? (verify outbound source inbound margin)
      = (objections outbound source inbound margin).first? := by
  unfold verify objections Params.leg
  cases outbound.params.route with
  | inbound link => rfl
  | outbound asked =>
    cases inbound.route with
    | outbound asked' => rfl
    | inbound link =>
      have hhashlock : outbound.terms.hashlock ≠ inbound.terms.hashlock
          ↔ ¬outbound.terms.hashlock = inbound.terms.hashlock := Iff.rfl
      have hlink : link.transfer ≠ outbound.id ↔ ¬link.transfer = outbound.id := Iff.rfl
      have hchain : link.chain ≠ source ↔ ¬link.chain = source := Iff.rfl
      simp only [Route.leg, ne_eq, not_true_eq_false, decide_false, Objections.first?_cons,
        refusal?_require_bind hhashlock, refusal?_require_bind hlink,
        refusal?_require_bind hchain, refusal?_receiver, refusal?_asset,
        refusal?_require_bind Amount.lt_iff_not_le, refusal?_checkMargin]
      rfl

theorem verify_eq_match (outbound : Record) (source : ChainId) (inbound : Params)
    (margin : Seconds) :
    verify outbound source inbound margin
      = match (objections outbound source inbound margin).first? with
        | some e => .error e
        | none => .ok () := by
  rw [← refusal?_verify]
  cases verify outbound source inbound margin <;> rfl

/-- What is accepted as an answer, and what is reported of anything else. An inbound half is accepted
just when it is faithful: it has the hashlock of the outbound half and links to it, it pays whom the
outbound half names at least what was asked for, in the asset that was asked for, and its timelock
leaves the margin. The first objection that holds is reported. More of the asset, a later outbound
timelock, an earlier inbound one and a smaller margin take nothing from what is accepted. -/
theorem verify_outcome (outbound : Record) (source : ChainId) (inbound : Params)
    (margin : Seconds) :
    (verify outbound source inbound margin = .ok () ↔
      ∃ asked link, outbound.params.route = .outbound asked ∧ inbound.route = .inbound link ∧
        outbound.terms.hashlock = inbound.terms.hashlock ∧ link.transfer = outbound.id ∧
        link.chain = source ∧ inbound.terms.receiver.toForeign = asked.receiver ∧
        (∃ token : Address, token.toForeign = asked.asset ∧
          Asset.ofAddress token = inbound.terms.asset) ∧
        asked.amount ≤ inbound.terms.amount ∧
        inbound.terms.timelock.toNat + margin.toNat < outbound.terms.timelock.toNat) ∧
      verify outbound source inbound margin
        = (match (objections outbound source inbound margin).first? with
          | some e => .error e
          | none => .ok ()) ∧
      ∀ later earlier amount margin', outbound.terms.timelock ≤ later →
        earlier ≤ inbound.terms.timelock → inbound.terms.amount ≤ amount → margin' ≤ margin →
        verify outbound source inbound margin = .ok () →
        verify (outbound.until later) source ((inbound.paying amount).until earlier) margin'
          = .ok () := by
  refine ⟨?_, verify_eq_match outbound source inbound margin, ?_⟩
  · simp only [verify_eq_ok_iff, receiverOf_eq_ok_iff, assetOf_eq_ok_iff]
  · intro later earlier amount margin' hlater hearlier hamount hmargin h
    obtain ⟨asked, link, hroute, hlink, hhashlock, htransfer, hchain, hreceiver, hasset, hasked,
      hleaves⟩ := verify_eq_ok_iff.1 h
    rw [UInt64.le_iff_toNat_le] at hlater hearlier hmargin
    have hkept : earlier.toNat + margin'.toNat < later.toNat := by omega
    exact verify_eq_ok_iff.2 ⟨asked, link, hroute, hlink, hhashlock, htransfer, hchain, hreceiver,
      hasset, Nat.le_trans hasked hamount, hkept⟩

/-- The outbound half of the sample holds forty-nine seconds longer than the inbound one. With later
and earlier timelocks it is accepted at any smaller margin, and a margin with which the sum is out of
range is refused. -/
theorem verify_outcome_sample :
    Sample.pending.terms.timelock ≤ Seconds.last ∧
      verify Sample.pending 1 Sample.inbound 40 = .ok () ∧
      verify (Sample.pending.until Seconds.last) 1 ((Sample.inbound.paying .max).until 0) 39
        = .ok () ∧
      verify Sample.pending 1 Sample.inbound Seconds.last ≠ .ok () := by
  have hlater : Sample.pending.terms.timelock ≤ Seconds.last := by decide
  have hearlier : (0 : Seconds) ≤ Sample.inbound.terms.timelock := by decide
  have hamount : Sample.inbound.terms.amount ≤ Amount.max := by decide
  have hmargin : (39 : Seconds) ≤ 40 := by decide
  obtain ⟨-, -, hkeeps⟩ := verify_outcome Sample.pending 1 Sample.inbound 40
  obtain ⟨hfaithful, -, -⟩ := verify_outcome Sample.pending 1 Sample.inbound Seconds.last
  refine ⟨hlater, Sample.verify_answered, ?_, ?_⟩
  · exact hkeeps Seconds.last 0 .max 39 hlater hearlier hamount hmargin Sample.verify_answered
  · intro haccepted
    obtain ⟨asked, link, -, -, -, -, -, -, -, -, hleaves⟩ := hfaithful.1 haccepted
    have hshort : ¬(50 : Seconds).toNat + Seconds.last.toNat < (100 : Seconds).toNat := by decide
    exact hshort hleaves

def planned (outbound : Notice Request) (source : ChainId) (provider : Address)
    (timelock : Seconds) (nativeAmount : Amount) (receiver : Address) (asset : Asset) : Params where
  terms := {
    sender := provider
    receiver := receiver
    asset := asset
    amount := outbound.route.amount
    nativeAmount := if asset.isNative then 0 else nativeAmount
    hashlock := outbound.terms.hashlock
    timelock := timelock }
  route := .inbound ⟨source, outbound.id⟩

section

variable {n : Notice Request} {source : ChainId} {provider : Address} {timelock : Seconds}
  {nativeAmount : Amount}

theorem plan_eq_ok_iff {p : Params} :
    plan n source provider timelock nativeAmount = .ok p ↔
      ∃ receiver asset, receiverOf n.route = .ok receiver ∧ assetOf n.route = .ok asset ∧
        p = planned n source provider timelock nativeAmount receiver asset := by
  unfold plan
  simp only [bind_eq_ok_iff]
  constructor
  · rintro ⟨receiver, hreceiver, asset, hasset, hplanned⟩
    cases hplanned
    exact ⟨receiver, asset, hreceiver, hasset, rfl⟩
  · rintro ⟨receiver, asset, hreceiver, hasset, rfl⟩
    exact ⟨receiver, hreceiver, asset, hasset, rfl⟩

theorem exists_plan_iff :
    (∃ p, plan n source provider timelock nativeAmount = .ok p) ↔
      n.route.receiver.IsPadded ∧ n.route.asset.IsPadded := by
  rw [← exists_receiverOf_iff, ← exists_assetOf_iff]
  constructor
  · rintro ⟨p, hplan⟩
    obtain ⟨receiver, asset, hreceiver, hasset, -⟩ := plan_eq_ok_iff.1 hplan
    exact ⟨⟨receiver, hreceiver⟩, ⟨asset, hasset⟩⟩
  · rintro ⟨⟨receiver, hreceiver⟩, ⟨asset, hasset⟩⟩
    exact ⟨_, plan_eq_ok_iff.2 ⟨receiver, asset, hreceiver, hasset, rfl⟩⟩

theorem checkAttachment_planned (receiver : Address) (asset : Asset) :
    (planned n source provider timelock nativeAmount receiver asset).terms.checkAttachment
      (planned n source provider timelock nativeAmount receiver asset).terms.attachment
        = .ok () := by
  unfold Terms.checkAttachment
  refine require_bind_eq_ok_iff.2 ⟨?_, require_eq_ok_iff.2 rfl⟩
  intro hnative
  have hasset : asset = .native := hnative
  rw [hasset]
  rfl

end

theorem checkMargin_eq (t : Timelocks) (margin : Seconds) :
    checkMargin t margin
      = if t.inbound.toNat + margin.toNat < t.outbound.toNat then .ok ()
        else .error (.timelockMargin t.outbound t.inbound margin) := by
  unfold checkMargin require
  simp only [Timelocks.leaves_iff]

theorem verify_planned {outbound : Record} {asked : Request}
    (h : outbound.params.route = .outbound asked) {source : ChainId} {provider receiver : Address}
    {timelock : Seconds} {nativeAmount : Amount} {asset : Asset}
    (hreceiver : receiverOf asked = .ok receiver) (hasset : assetOf asked = .ok asset)
    (margin : Seconds) :
    verify outbound source (planned ⟨outbound.id, outbound.terms, asked⟩ source provider timelock
        nativeAmount receiver asset) margin
      = checkMargin ⟨outbound.terms.timelock, timelock⟩ margin := by
  have hamount : asked.amount ≤ asked.amount := Nat.le_refl _
  unfold verify planned
  rw [h]
  simp only [require_bind, hreceiver, hasset, if_true]
  show (if receiver = receiver then if asset = asset then if asked.amount ≤ asked.amount then _ else _
    else _ else _) = _
  rw [if_pos rfl, if_pos rfl, if_pos hamount]

/-- The provider and the user agree on what answers an outbound half. From the announcement of the
half something can be planned just when the receiver and the asset that it asks for are local. What is
planned can be locked with the native coin that it declares, and is accepted just when its timelock
leaves the margin, which is all that can stand against it. Where nothing can be planned, nothing at
all is accepted. -/
theorem plan_accepted {outbound : Record} {asked : Request}
    (h : outbound.params.route = .outbound asked) (source : ChainId) (provider : Address)
    (timelock : Seconds) (nativeAmount : Amount) :
    ∃ notice, Event.ofRecord outbound = .outboundLocked notice ∧
      ((∃ p, plan notice source provider timelock nativeAmount = .ok p) ↔
        asked.receiver.IsPadded ∧ asked.asset.IsPadded) ∧
      (∀ p, plan notice source provider timelock nativeAmount = .ok p →
        p.terms.checkAttachment p.terms.attachment = .ok () ∧
        ∀ margin, verify outbound source p margin
          = if timelock.toNat + margin.toNat < outbound.terms.timelock.toNat then .ok ()
            else .error (.timelockMargin outbound.terms.timelock timelock margin)) ∧
      ∀ e, plan notice source provider timelock nativeAmount = .error e →
        ∀ source' inbound margin, verify outbound source' inbound margin ≠ .ok () := by
  have hevent : Event.ofRecord outbound = .outboundLocked ⟨outbound.id, outbound.terms, asked⟩ := by
    rw [Event.ofRecord, h]
  refine ⟨⟨outbound.id, outbound.terms, asked⟩, hevent, exists_plan_iff, ?_, ?_⟩
  · intro p hplan
    obtain ⟨receiver, asset, hreceiver, hasset, rfl⟩ := plan_eq_ok_iff.1 hplan
    refine ⟨checkAttachment_planned receiver asset, ?_⟩
    intro margin
    rw [verify_planned h hreceiver hasset, checkMargin_eq]
  · intro e hrefused source' inbound margin hverify
    -- What is accepted names a local receiver and asset, and then there is a plan after all.
    obtain ⟨asked', -, hroute, -, -, -, -, hreceiver, hasset, -, -⟩ := verify_eq_ok_iff.1 hverify
    cases h.symm.trans hroute
    have hpadded := exists_receiverOf_iff.1 ⟨_, hreceiver⟩
    have hlocal := exists_assetOf_iff.1 ⟨_, hasset⟩
    obtain ⟨p, hplan⟩ := (exists_plan_iff (n := ⟨outbound.id, outbound.terms, asked⟩)).2
      ⟨hpadded, hlocal⟩
    cases hrefused.symm.trans hplan

end Answer

namespace Sample

def asked : Request := ⟨2, Address.toForeign user, 1, Bytes.zero 32, Amount.clamp 20⟩

def announced : Notice Request := ⟨pending.id, pending.terms, asked⟩

/-- The native coin that is asked for, up to the fiftieth second. -/
def answer : Params := Answer.planned announced 1 provider 50 (Amount.clamp 9) user .native

theorem plan_announced_eq_answer :
    Answer.plan announced 1 provider 50 (Amount.clamp 9) = .ok answer := by
  have hreceiver : Answer.receiverOf asked = .ok user := Answer.receiverOf_eq_ok_iff.2 rfl
  have hlocal : Address.toForeign (Bytes.zero 20) = asked.asset := by decide
  have hasset : Answer.assetOf asked = .ok .native :=
    Answer.assetOf_eq_ok_iff.2 ⟨Bytes.zero 20, hlocal, rfl⟩
  exact Answer.plan_eq_ok_iff.2 ⟨user, .native, hreceiver, hasset, rfl⟩

end Sample

/-- The sample asks for native coin, so the native amount that the provider names is left out. With
the fiftieth second as its timelock the half is accepted at a margin of forty-nine seconds, and not at
one of fifty. -/
theorem Answer.plan_accepted_sample :
    Sample.pending.params.route = .outbound Sample.asked ∧
      plan Sample.announced 1 Sample.provider 50 (Amount.clamp 9) = .ok Sample.answer ∧
      Sample.answer.terms.nativeAmount = 0 ∧
      Sample.answer.terms.checkAttachment Sample.answer.terms.attachment = .ok () ∧
      verify Sample.pending 1 Sample.answer 49 = .ok () ∧
      verify Sample.pending 1 Sample.answer 50 = .error (.timelockMargin 100 50 50) := by
  have hroute : Sample.pending.params.route = .outbound Sample.asked := rfl
  obtain ⟨notice, hevent, -, haccepted, -⟩ :=
    Answer.plan_accepted hroute 1 Sample.provider 50 (Amount.clamp 9)
  cases hevent
  obtain ⟨hattachment, hverify⟩ := haccepted _ Sample.plan_announced_eq_answer
  refine ⟨hroute, Sample.plan_announced_eq_answer, rfl, hattachment, ?_, ?_⟩
  · rw [hverify]
    decide
  · rw [hverify]
    decide

end AtomicSwap
