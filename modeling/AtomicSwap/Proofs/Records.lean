import AtomicSwap.Proofs.Run

/-!
The records of a chain over time. Each is kept under the identifier that its parameters give it, and
its fields fit together. It is never removed; its state changes once at most, and nothing after that.
-/

set_option autoImplicit false
set_option relaxedAutoImplicit false

namespace AtomicSwap

theorem Terms.check_eq_ok_iff {t : Terms} {now : Seconds} {attached : Amount} {custodian : Address} :
    t.check now attached custodian = .ok () ↔
      t.amount ≠ 0 ∧ t.timelock ≠ 0 ∧ now < t.timelock ∧
        (t.asset = .native → t.nativeAmount = 0) ∧ attached = t.attachment ∧
        t.receiver ≠ custodian := by
  simp only [check, checkAmount, checkTimelock, checkAttachment, checkReceiver,
    bind_eq_ok_iff, require_eq_ok_iff, exists_and_left, exists_const, and_assoc]

namespace Record

/-- What holds of every record on a chain with this scheme and this custodian. -/
structure Sound (scheme : Scheme) (custodian : Address) (r : Record) : Prop where
  id_eq : r.id = r.params.id
  amount_pos : 0 < r.terms.amount.toNat
  createdAt_lt : r.createdAt < r.terms.timelock
  receiver_ne : r.terms.receiver ≠ custodian
  sender_ne : r.terms.sender ≠ custodian
  nativeAmount_eq_zero : r.terms.asset = .native → r.terms.nativeAmount = 0
  settledAt_eq_none_iff : r.settledAt = none ↔ r.state = .locked
  preimage_isSome_iff : r.preimage.isSome ↔ r.state = .redeemed
  opens : r.state = .redeemed → ∃ preimage time, r.preimage = some preimage ∧
    r.settledAt = some time ∧ scheme.hashlock preimage = r.terms.hashlock ∧ time < r.terms.timelock
  expired : r.state = .refunded → ∃ time, r.settledAt = some time ∧ r.terms.timelock ≤ time

/-- Nothing about the record lies after `now`, and it was not settled before it was made. -/
def Dated (now : Seconds) (r : Record) : Prop :=
  r.createdAt ≤ now ∧ ∀ time, r.settledAt = some time → r.createdAt ≤ time

/-- The record `r'` is a later version of the record `r`: nothing differs but how it was settled,
and nothing at all if it had been settled. -/
structure Precedes (r r' : Record) : Prop where
  id_eq : r'.id = r.id
  params_eq : r'.params = r.params
  createdAt_eq : r'.createdAt = r.createdAt
  eq_of_settled : r.state ≠ .locked → r' = r

theorem Precedes.refl (r : Record) : Precedes r r := ⟨rfl, rfl, rfl, fun _ => rfl⟩

theorem Precedes.trans {r r' r'' : Record} (h : Precedes r r') (h' : Precedes r' r'') :
    Precedes r r'' where
  id_eq := h'.id_eq.trans h.id_eq
  params_eq := h'.params_eq.trans h.params_eq
  createdAt_eq := h'.createdAt_eq.trans h.createdAt_eq
  eq_of_settled hs := by
    obtain rfl := h.eq_of_settled hs
    exact h'.eq_of_settled hs

theorem precedes_redeemed {r : Record} (h : r.state = .locked) (preimage : Preimage)
    (now : Seconds) : Precedes r (r.redeemed preimage now) :=
  ⟨rfl, rfl, rfl, fun hs => absurd h hs⟩

theorem precedes_refunded {r : Record} (h : r.state = .locked) (now : Seconds) :
    Precedes r (r.refunded now) :=
  ⟨rfl, rfl, rfl, fun hs => absurd h hs⟩

variable {scheme : Scheme} {custodian : Address} {r : Record}

theorem Sound.redeemed (h : Sound scheme custodian r) {preimage : Preimage} {now : Seconds}
    (hopens : scheme.hashlock preimage = r.terms.hashlock) (hnow : now < r.terms.timelock) :
    Sound scheme custodian (r.redeemed preimage now) where
  id_eq := h.id_eq
  amount_pos := h.amount_pos
  createdAt_lt := h.createdAt_lt
  receiver_ne := h.receiver_ne
  sender_ne := h.sender_ne
  nativeAmount_eq_zero := h.nativeAmount_eq_zero
  settledAt_eq_none_iff := by simp [Record.redeemed]
  preimage_isSome_iff := by simp [Record.redeemed]
  opens _ := ⟨preimage, now, rfl, rfl, hopens, hnow⟩
  expired hs := by simp at hs

theorem Sound.refunded (h : Sound scheme custodian r) (hlocked : r.state = .locked) {now : Seconds}
    (hnow : r.terms.timelock ≤ now) : Sound scheme custodian (r.refunded now) where
  id_eq := h.id_eq
  amount_pos := h.amount_pos
  createdAt_lt := h.createdAt_lt
  receiver_ne := h.receiver_ne
  sender_ne := h.sender_ne
  nativeAmount_eq_zero := h.nativeAmount_eq_zero
  settledAt_eq_none_iff := by simp [Record.refunded]
  preimage_isSome_iff := by
    have hnone := h.preimage_isSome_iff
    simpa [Record.refunded, hlocked] using hnone
  opens hs := by simp at hs
  expired _ := ⟨now, rfl, hnow⟩

theorem sound_locked {params : Params} {now : Seconds} {attached : Amount}
    (hcheck : params.terms.check now attached custodian = .ok ())
    (hsender : params.terms.sender ≠ custodian) :
    Sound scheme custodian (Record.locked params.id params now) := by
  obtain ⟨hamount, -, hnow, hnative, -, hreceiver⟩ := Terms.check_eq_ok_iff.1 hcheck
  refine ⟨rfl, ?_, hnow, hreceiver, hsender, hnative, ?_, ?_, ?_, ?_⟩
  · apply Nat.pos_of_ne_zero
    intro hzero
    exact hamount (Amount.ext hzero)
  · simp [Record.locked]
  · simp [Record.locked]
  · simp [Record.locked]
  · simp [Record.locked]

end Record

namespace Chain

/-- Each record is kept under its own identifier and is sound. -/
def Sound (c : Chain) : Prop :=
  ∀ k r, c.get? k = some r → r.id = k ∧ r.Sound c.config.scheme c.ledger.custodian

theorem Sound.keyed {c : Chain} (h : c.Sound) : c.Keyed := fun k r hget => (h k r hget).1

/-- The transfer of a lock that succeeded. -/
def lockedId? : Action × Option (Except TransferError Record) → Option TransferId
  | (.lock params _, some (.ok _)) => some params.id
  | _ => none

/-- The transfer of a confirmation or a refund that succeeded. -/
def settledId? : Action × Option (Except TransferError Record) → Option TransferId
  | (.confirm params _, some (.ok _)) => some params.id
  | (.refund params, some (.ok _)) => some params.id
  | _ => none

/-- Whether a transfer is on a chain and was settled. -/
def Settled (c : Chain) (id : TransferId) : Prop := ∃ r, c.get? id = some r ∧ r.state ≠ .locked

theorem get?_of_set {c c' : Chain} {k : TransferId} {r : Record}
    (h : c'.registry = c.registry.set k r) (k' : TransferId) :
    c'.get? k' = if k = k' then some r else c.get? k' := by
  unfold get?
  rw [h, Table.get?_set]

/-- All that an action can do to the registry, with the transfer that it locked or settled. -/
inductive Change (c c' : Chain) : Option TransferId → Option TransferId → Prop
  | same (registry : c'.registry = c.registry) : Change c c' none none
  | added {r : Record} (fresh : c.get? r.id = none) (isLocked : r.state = .locked)
      (registry : c'.registry = c.registry.set r.id r) : Change c c' (some r.id) none
  | updated {r r' : Record} (found : c.get? r.id = some r) (wasLocked : r.state = .locked)
      (precedes : r.Precedes r') (isSettled : r'.state ≠ .locked)
      (registry : c'.registry = c.registry.set r.id r') : Change c c' none (some r.id)

namespace Change

variable {c c' : Chain} {locked settled : Option TransferId}

theorem precedes (h : Change c c' locked settled) {k : TransferId} {r : Record}
    (hget : c.get? k = some r) : ∃ r', c'.get? k = some r' ∧ r.Precedes r' := by
  cases h with
  | same registry => exact ⟨r, by rwa [get?, registry], Record.Precedes.refl r⟩
  | added fresh isLocked registry =>
    refine ⟨r, ?_, Record.Precedes.refl r⟩
    rw [get?_of_set registry, if_neg]
    · exact hget
    · rintro rfl
      rw [fresh] at hget
      cases hget
  | @updated r₀ r₁ found wasLocked precedes isSettled registry =>
    rw [get?_of_set registry]
    split_ifs with hkey
    · subst hkey
      cases found.symm.trans hget
      exact ⟨r₁, rfl, precedes⟩
    · exact ⟨r, hget, Record.Precedes.refl r⟩

theorem isSome_get?_iff (h : Change c c' locked settled) (id : TransferId) :
    (c'.get? id).isSome ↔ (c.get? id).isSome ∨ locked = some id := by
  cases h with
  | same registry => simp [get?, registry]
  | added fresh isLocked registry =>
    rw [get?_of_set registry]
    split_ifs with hkey
    · simp [hkey]
    · simp [hkey]
  | updated found wasLocked precedes isSettled registry =>
    rw [get?_of_set registry]
    split_ifs with hkey
    · simp [← hkey, found]
    · simp

theorem settled_iff (h : Change c c' locked settled) (id : TransferId) :
    c'.Settled id ↔ c.Settled id ∨ settled = some id := by
  unfold Settled
  cases h with
  | same registry => simp [get?, registry]
  | added fresh isLocked registry =>
    rw [get?_of_set registry]
    split_ifs with hkey
    · simp [← hkey, fresh, isLocked]
    · simp
  | updated found wasLocked precedes isSettled registry =>
    rw [get?_of_set registry]
    split_ifs with hkey
    · simp [hkey, isSettled]
    · simp [hkey]

theorem fresh_of_locked (h : Change c c' locked settled) {id : TransferId}
    (hid : locked = some id) : c.get? id = none := by
  cases h with
  | same registry => cases hid
  | added fresh isLocked registry =>
    cases hid
    exact fresh
  | updated found wasLocked precedes isSettled registry => cases hid

theorem not_settled_of_settled (h : Change c c' locked settled) {id : TransferId}
    (hid : settled = some id) : ¬ c.Settled id := by
  rintro ⟨r', hget, hstate⟩
  cases h with
  | same registry => cases hid
  | added fresh isLocked registry => cases hid
  | updated found wasLocked precedes isSettled registry =>
    cases hid
    cases found.symm.trans hget
    exact hstate wasLocked

end Change

namespace Effect

variable {c c' : Chain} {a : Action} {reply : Option (Except TransferError Record)}

theorem config_eq (h : Effect c a reply c') : c'.config = c.config := by
  cases h <;> rfl

theorem custodian_eq (h : Effect c a reply c') : c'.ledger.custodian = c.ledger.custodian := by
  cases h with
  | refused isCall e => rfl
  | locked checked fresh escrowed =>
    obtain ⟨-, -, hpays⟩ := Ledger.pays_escrow escrowed
    exact hpays.custodian
  | redeemed found isLocked opens inTime released =>
    obtain ⟨-, hpays, -⟩ := Ledger.pays_release released
    exact hpays.custodian
  | refunded found isLocked expired released =>
    obtain ⟨-, hpays, -⟩ := Ledger.pays_release released
    exact hpays.custodian
  | minted asset holder amount => simp [Ledger.credit_eq]
  | approved contract owner amount => rfl
  | timed time => rfl
  | heard l => rfl

private theorem sound_recorded {ledger : Ledger} {r : Record} {e : Event} (h : c.Sound)
    (hcustodian : ledger.custodian = c.ledger.custodian)
    (hr : r.Sound c.config.scheme c.ledger.custodian) : (c.recorded ledger r e).Sound := by
  intro k r' hget
  rw [config_recorded, ledger_recorded, hcustodian]
  rw [get?_recorded] at hget
  split_ifs at hget with hk
  · cases hget
    exact ⟨hk, hr⟩
  · exact h k r' hget

theorem sound (he : Effect c a reply c') (h : c.Sound) : c'.Sound := by
  have hcustodian := he.custodian_eq
  cases he with
  | refused isCall e => exact h
  | locked checked fresh escrowed =>
    obtain ⟨hsender, -, -⟩ := Ledger.pays_escrow escrowed
    exact sound_recorded h hcustodian (Record.sound_locked checked hsender)
  | redeemed found isLocked opens inTime released =>
    obtain ⟨-, hr⟩ := h _ _ found
    exact sound_recorded h hcustodian (hr.redeemed opens inTime)
  | refunded found isLocked expired released =>
    obtain ⟨-, hr⟩ := h _ _ found
    exact sound_recorded h hcustodian (hr.refunded isLocked expired)
  | minted asset holder amount =>
    intro k r hget
    obtain ⟨hk, hr⟩ := h k r hget
    exact ⟨hk, hcustodian ▸ hr⟩
  | approved contract owner amount => exact h
  | timed time => exact h
  | heard l => exact h

theorem change (he : Effect c a reply c') (hk : c.Keyed) :
    Change c c' (lockedId? (a, reply)) (settledId? (a, reply)) := by
  cases he with
  | refused isCall e => cases a <;> exact .same rfl
  | @locked params attached receipt ledger checked fresh escrowed =>
    exact .added (r := Record.locked params.id params c.now) fresh rfl rfl
  | @redeemed params preimage r ledger found isLocked opens inTime released =>
    have hid : r.id = params.id := hk _ _ found
    rw [settledId?, ← hid]
    exact .updated (hid ▸ found) isLocked (Record.precedes_redeemed isLocked _ _) (by simp) rfl
  | @refunded params r ledger found isLocked expired released =>
    have hid : r.id = params.id := hk _ _ found
    rw [settledId?, ← hid]
    exact .updated (hid ▸ found) isLocked (Record.precedes_refunded isLocked _) (by simp) rfl
  | minted asset holder amount => exact .same rfl
  | approved contract owner amount => exact .same rfl
  | timed time => exact .same rfl
  | heard l => exact .same rfl

/-- A record that is found after an action was there before, or was just made, or just settled. -/
theorem found (he : Effect c a reply c') {k : TransferId} {r : Record}
    (hget : c'.get? k = some r) :
    c.get? k = some r ∨ (r.createdAt = c.now ∧ r.settledAt = none) ∨
      ∃ k₀ r₀, c.get? k₀ = some r₀ ∧ r.createdAt = r₀.createdAt ∧ r.settledAt = some c.now := by
  cases he with
  | refused isCall e => exact Or.inl hget
  | locked checked fresh escrowed =>
    rw [get?_recorded] at hget
    split_ifs at hget
    · cases hget
      exact Or.inr (Or.inl ⟨rfl, rfl⟩)
    · exact Or.inl hget
  | redeemed found isLocked opens inTime released =>
    rw [get?_recorded] at hget
    split_ifs at hget
    · cases hget
      exact Or.inr (Or.inr ⟨_, _, found, rfl, rfl⟩)
    · exact Or.inl hget
  | refunded found isLocked expired released =>
    rw [get?_recorded] at hget
    split_ifs at hget
    · cases hget
      exact Or.inr (Or.inr ⟨_, _, found, rfl, rfl⟩)
    · exact Or.inl hget
  | minted asset holder amount => exact Or.inl hget
  | approved contract owner amount => exact Or.inl hget
  | timed time => exact Or.inl hget
  | heard l => exact Or.inl hget

theorem dated (he : Effect c a reply c') (hforward : c.now ≤ c'.now)
    (h : ∀ k r, c.get? k = some r → r.Dated c.now) :
    ∀ k r, c'.get? k = some r → r.Dated c'.now := by
  intro k r hget
  rcases he.found hget with hbefore | ⟨hcreated, hnone⟩ | ⟨k₀, r₀, hget₀, hcreated, hsettled⟩
  · obtain ⟨hmade, hlater⟩ := h k r hbefore
    exact ⟨UInt64.le_trans hmade hforward, hlater⟩
  · refine ⟨hcreated ▸ hforward, ?_⟩
    intro time htime
    cases hnone.symm.trans htime
  · obtain ⟨hmade, -⟩ := h k₀ r₀ hget₀
    rw [← hcreated] at hmade
    refine ⟨UInt64.le_trans hmade hforward, ?_⟩
    intro time htime
    cases hsettled.symm.trans htime
    exact hmade

end Effect

theorem Sound.step {c : Chain} (h : c.Sound) (a : Action) : (c.step a).Sound :=
  (effect_step h.keyed a).sound h

theorem Sound.run {c : Chain} (h : c.Sound) (as : List Action) : (c.run as).Sound := by
  induction as generalizing c with
  | nil => exact h
  | cons a as ih => exact ih (h.step a)

theorem Sound.precedes_run {c : Chain} (h : c.Sound) (as : List Action) {k : TransferId}
    {r : Record} (hget : c.get? k = some r) :
    ∃ r', (c.run as).get? k = some r' ∧ r.Precedes r' := by
  induction as generalizing c r with
  | nil => exact ⟨r, hget, Record.Precedes.refl r⟩
  | cons a as ih =>
    obtain ⟨r', hget', hstep⟩ := ((effect_step h.keyed a).change h.keyed).precedes hget
    obtain ⟨r'', hget'', hrun⟩ := ih (h.step a) hget'
    exact ⟨r'', hget'', hstep.trans hrun⟩

end Chain

namespace Origin

variable (o : Origin) (as : List Action)

theorem sound_after : (o.after as).Sound := by
  apply Chain.Sound.run
  intro k r hget
  cases hget

theorem effect_after (a : Action) :
    Chain.Effect (o.after as) a ((o.after as).reply a) (o.after (as ++ [a])) := by
  rw [after_concat]
  exact Chain.effect_step (o.sound_after as).keyed a

theorem config_after : (o.after as).config = o.config := by
  induction as using List.reverseRecOn with
  | nil => rfl
  | append_singleton as a ih => exact (o.effect_after as a).config_eq.trans ih

theorem custodian_after : (o.after as).ledger.custodian = o.custodian := by
  induction as using List.reverseRecOn with
  | nil => rfl
  | append_singleton as a ih => exact (o.effect_after as a).custodian_eq.trans ih

/-- The transfers of all locks that succeeded, in their order. -/
def lockedIds : List TransferId := (o.chain.answers as).filterMap Chain.lockedId?

/-- The transfers of all confirmations and refunds that succeeded, in their order. -/
def settledIds : List TransferId := (o.chain.answers as).filterMap Chain.settledId?

theorem lockedIds_concat (a : Action) :
    o.lockedIds (as ++ [a])
      = o.lockedIds as ++ (Chain.lockedId? (a, (o.after as).reply a)).toList := by
  unfold lockedIds
  rw [Chain.answers_concat, List.filterMap_append]
  rfl

theorem settledIds_concat (a : Action) :
    o.settledIds (as ++ [a])
      = o.settledIds as ++ (Chain.settledId? (a, (o.after as).reply a)).toList := by
  unfold settledIds
  rw [Chain.answers_concat, List.filterMap_append]
  rfl

theorem change_after (a : Action) :
    Chain.Change (o.after as) (o.after (as ++ [a]))
      (Chain.lockedId? (a, (o.after as).reply a)) (Chain.settledId? (a, (o.after as).reply a)) :=
  (o.effect_after as a).change (o.sound_after as).keyed

theorem mem_lockedIds (id : TransferId) :
    id ∈ o.lockedIds as ↔ ((o.after as).get? id).isSome := by
  induction as using List.reverseRecOn with
  | nil => simp [lockedIds, Chain.answers, get?_after_nil]
  | append_singleton as a ih =>
    rw [lockedIds_concat, List.mem_append, ih, (o.change_after as a).isSome_get?_iff,
      Option.mem_toList]

theorem mem_settledIds (id : TransferId) : id ∈ o.settledIds as ↔ (o.after as).Settled id := by
  induction as using List.reverseRecOn with
  | nil => simp [settledIds, Chain.answers, Chain.Settled, get?_after_nil]
  | append_singleton as a ih =>
    rw [settledIds_concat, List.mem_append, ih, (o.change_after as a).settled_iff,
      Option.mem_toList]

private theorem nodup_append_toList {α : Type} {l : List α} {x : Option α} (h : l.Nodup)
    (hx : ∀ y, x = some y → y ∉ l) : (l ++ x.toList).Nodup := by
  cases x with
  | none => simpa using h
  | some y =>
    have hy := hx y rfl
    refine List.nodup_append.2 ⟨h, List.pairwise_singleton _ _, ?_⟩
    intro z hz w hw heq
    rw [Option.toList_some, List.mem_singleton] at hw
    exact hy (hw ▸ heq ▸ hz)

theorem nodup_lockedIds : (o.lockedIds as).Nodup := by
  induction as using List.reverseRecOn with
  | nil => exact List.nodup_nil
  | append_singleton as a ih =>
    rw [lockedIds_concat]
    apply nodup_append_toList ih
    intro id hid hmem
    have hsome := (o.mem_lockedIds as id).1 hmem
    rw [(o.change_after as a).fresh_of_locked hid] at hsome
    cases hsome

theorem nodup_settledIds : (o.settledIds as).Nodup := by
  induction as using List.reverseRecOn with
  | nil => exact List.nodup_nil
  | append_singleton as a ih =>
    rw [settledIds_concat]
    apply nodup_append_toList ih
    intro id hid hmem
    exact (o.change_after as a).not_settled_of_settled hid ((o.mem_settledIds as id).1 hmem)

/-- No action of a run sets the clock back. -/
def ClockForward : Prop :=
  ∀ bs a, bs ++ [a] <+: as → (o.after bs).now ≤ (o.after (bs ++ [a])).now

theorem dated_after (h : o.ClockForward as) :
    ∀ k r, (o.after as).get? k = some r → r.Dated (o.after as).now := by
  induction as using List.reverseRecOn with
  | nil =>
    intro k r hget
    cases hget
  | append_singleton as a ih =>
    have hinit : o.ClockForward as := by
      intro bs b hbs
      exact h bs b (hbs.trans (List.prefix_append as [a]))
    exact (o.effect_after as a).dated (h as a (List.prefix_refl _)) (ih hinit)

/-- The history of the records of a chain. After every run each record is sound and is kept under
its own identifier; whatever else happens, it stays there, and only its settlement is ever added to
it. No transfer is locked twice, and none is settled twice. If no action sets the clock back, none
is settled before it was made. -/
theorem record_history :
    (∀ k r, (o.after as).get? k = some r → r.id = k ∧ r.Sound o.config.scheme o.custodian) ∧
      (∀ bs k r, (o.after as).get? k = some r →
        ∃ r', (o.after (as ++ bs)).get? k = some r' ∧ r.Precedes r') ∧
      (o.lockedIds as).Nodup ∧
      (o.settledIds as).Nodup ∧
      (o.ClockForward as → ∀ k r time, (o.after as).get? k = some r → r.settledAt = some time →
        r.createdAt ≤ time) := by
  refine ⟨?_, ?_, o.nodup_lockedIds as, o.nodup_settledIds as, ?_⟩
  · intro k r hget
    have hsound := o.sound_after as k r hget
    rwa [config_after, custodian_after] at hsound
  · intro bs k r hget
    rw [after_append]
    exact (o.sound_after as).precedes_run bs hget
  · intro hforward k r time hget htime
    obtain ⟨-, hsettled⟩ := o.dated_after as hforward k r hget
    exact hsettled time htime

end Origin

end AtomicSwap
