import AtomicSwap.Proofs.Settlement
import AtomicSwap.Proofs.Stream

/-!
What a chain gives away of a secret. A confirmation asks of a preimage only whether it opens the
hashlock, and writes it down only where it pays: no preimage gets into the records or the
announcements unless a confirmation with it was accepted. Both hold whatever others do to the ledger.
-/

set_option autoImplicit false
set_option relaxedAutoImplicit false

namespace AtomicSwap

namespace Event

theorem ofRecord_ne_confirmed (r : Record) (id : TransferId) (preimage : Preimage) :
    ofRecord r ≠ confirmed id preimage := by
  intro h
  have hparams := params?_ofRecord r
  rw [h] at hparams
  cases hparams

end Event

namespace Chain

variable {c : Chain} {params : Params}

/-- Two preimages both open the hashlock kept for a transfer, or neither does. -/
def OpenAlike (c : Chain) (params : Params) (p q : Preimage) : Prop :=
  ∀ r, c.get? params.id = some r →
    c.config.scheme.opens p r.terms.hashlock = c.config.scheme.opens q r.terms.hashlock

/-- A confirmation that pays: the record with the preimage is answered and kept, the ledger is the
one given, and the preimage is announced. -/
def payout (c : Chain) (r : Record) (ledger : Ledger) (preimage : Preimage) : Outcome Record :=
  (.ok (r.redeemed preimage c.now),
    c.recorded ledger (r.redeemed preimage c.now) (.confirmed r.id preimage))

/-- A preimage is kept in the record of a transfer, or was announced for it. -/
def Reveals (c : Chain) (k : TransferId) (preimage : Preimage) : Prop :=
  (∃ r, c.get? k = some r ∧ r.preimage = some preimage) ∨
    Event.confirmed k preimage ∈ c.feed.stream

/-- All that a confirmation asks of a preimage is whether it opens the hashlock. -/
theorem OpenAlike.opened {p q : Preimage} (h : c.OpenAlike params p q) :
    (∃ e, c.opened params p = .error e ∧ c.opened params q = .error e) ∨
      ∃ r, c.get? params.id = some r ∧ c.opened params p = .ok (r.redeemed p c.now) ∧
        c.opened params q = .ok (r.redeemed q c.now) := by
  rw [opened_eq, opened_eq]
  cases hget : c.get? params.id with
  | none => exact Or.inl ⟨_, rfl, rfl⟩
  | some r =>
    have hopens : c.config.scheme.hashlock p = r.terms.hashlock ↔
        c.config.scheme.hashlock q = r.terms.hashlock := by
      simpa only [Scheme.opens, decide_eq_decide] using h r hget
    by_cases hlocked : r.state = .locked
    · by_cases hp : c.config.scheme.hashlock p = r.terms.hashlock
      · have hq := hopens.1 hp
        by_cases hlate : r.terms.timelock ≤ c.now
        · simp [hlocked, hp, hq, hlate]
        · simp [hlocked, hp, hq, hlate]
      · have hq : c.config.scheme.hashlock q ≠ r.terms.hashlock := fun hq => hp (hopens.2 hq)
        simp [hlocked, hp, hq]
    · simp [hlocked]

theorem settle_eq {r r₀ : Record} (h : c.get? r.id = some r₀) (receiver : Address) (e : Event) :
    c.settle r receiver e
      = match c.ledger.release r.terms.asset receiver r.terms.amount r.terms.nativeAmount with
        | (.error cause, _) => (.error (.assetTransferFailed cause), c)
        | (.ok (), ledger) => (.ok r, c.recorded ledger r e) := by
  rcases settle_cases h receiver e with ⟨cause, herror, hsettle⟩ | ⟨ledger, hok, hsettle⟩
  · rw [hsettle, herror]
  · rw [hsettle, hok]

theorem settle_redeemed {r : Record} (hget : c.get? r.id = some r) :
    (∃ e, ∀ preimage, c.settle (r.redeemed preimage c.now) r.terms.receiver
        (.confirmed r.id preimage) = (.error e, c)) ∨
      ∃ ledger, ∀ preimage, c.settle (r.redeemed preimage c.now) r.terms.receiver
        (.confirmed r.id preimage) = c.payout r ledger preimage := by
  have hsettle (preimage : Preimage) := @settle_eq c (r.redeemed preimage c.now) r hget
    r.terms.receiver (.confirmed r.id preimage)
  rcases hrelease : c.ledger.release r.terms.asset r.terms.receiver r.terms.amount
    r.terms.nativeAmount with ⟨cause | ⟨⟩, ledger⟩
  · refine Or.inl ⟨.assetTransferFailed cause, ?_⟩
    intro preimage
    rw [hsettle, Record.terms_redeemed, hrelease]
  · refine Or.inr ⟨ledger, ?_⟩
    intro preimage
    rw [hsettle, Record.terms_redeemed, hrelease]
    rfl

theorem OpenAlike.confirm {p q : Preimage} (h : c.OpenAlike params p q) (hk : c.Keyed) :
    (∃ e, c.confirm params p = (.error e, c) ∧ c.confirm params q = (.error e, c)) ∨
      ∃ r ledger, c.get? params.id = some r ∧ r.id = params.id ∧
        c.confirm params p = c.payout r ledger p ∧ c.confirm params q = c.payout r ledger q := by
  rcases h.opened with ⟨e, hp, hq⟩ | ⟨r, hget, hp, hq⟩
  · exact Or.inl ⟨e, confirm_of_opened_eq_error hp, confirm_of_opened_eq_error hq⟩
  · have hid := hk _ r hget
    have hconfirm {preimage : Preimage}
        (hopened : c.opened params preimage = .ok (r.redeemed preimage c.now)) :
        c.confirm params preimage = c.settle (r.redeemed preimage c.now) r.terms.receiver
          (.confirmed r.id preimage) := by
      rw [Chain.confirm, hopened, hid]
      rfl
    have hkept : c.get? r.id = some r := by rwa [hid]
    rw [hconfirm hp, hconfirm hq]
    rcases settle_redeemed hkept with ⟨e, hrefused⟩ | ⟨ledger, hpaid⟩
    · exact Or.inl ⟨e, hrefused p, hrefused q⟩
    · exact Or.inr ⟨r, ledger, hget, hid, hpaid p, hpaid q⟩

namespace Effect

variable {c' : Chain} {a : Action} {reply : Option (Except TransferError Record)} {k : TransferId}
  {preimage : Preimage}

theorem kept (he : Effect c a reply c') (hk : c.Keyed) {r' : Record} (hget : c'.get? k = some r')
    (hknown : r'.preimage = some preimage) :
    (∃ r, c.get? k = some r ∧ r.preimage = some preimage) ∨
      ∃ params r, a = .confirm params preimage ∧ params.id = k ∧ reply = some (.ok r) := by
  cases he with
  | refused isCall e => exact Or.inl ⟨r', hget, hknown⟩
  | locked checked fresh escrowed =>
    rw [get?_recorded] at hget
    split_ifs at hget with hid
    · -- A new record holds no preimage.
      cases hget
      cases hknown
    · exact Or.inl ⟨r', hget, hknown⟩
  | @redeemed params revealed r ledger found isLocked opens inTime released =>
    rw [get?_recorded] at hget
    split_ifs at hget with hid
    · cases hget
      cases hknown
      exact Or.inr ⟨params, _, rfl, (hk _ r found).symm.trans hid, rfl⟩
    · exact Or.inl ⟨r', hget, hknown⟩
  | @refunded params r ledger found isLocked expired released =>
    rw [get?_recorded] at hget
    split_ifs at hget with hid
    · cases hget
      have hsame := (hk _ r found).symm.trans hid
      exact Or.inl ⟨r, hsame ▸ found, hknown⟩
    · exact Or.inl ⟨r', hget, hknown⟩
  | minted asset holder amount => exact Or.inl ⟨r', hget, hknown⟩
  | approved contract owner amount => exact Or.inl ⟨r', hget, hknown⟩
  | timed time => exact Or.inl ⟨r', hget, hknown⟩
  | heard l => exact Or.inl ⟨r', hget, hknown⟩

theorem told (he : Effect c a reply c') (h : announced? (a, reply) = some (.confirmed k preimage)) :
    ∃ params r, a = .confirm params preimage ∧ params.id = k ∧ reply = some (.ok r) := by
  cases he with
  | refused isCall e => cases a <;> cases h
  | locked checked fresh escrowed =>
    exact absurd (Option.some.inj h) (Event.ofRecord_ne_confirmed _ _ _)
  | @redeemed params revealed r ledger found isLocked opens inTime released =>
    cases h
    exact ⟨params, _, rfl, rfl, rfl⟩
  | refunded found isLocked expired released => cases h
  | minted asset holder amount => cases h
  | approved contract owner amount => cases h
  | timed time => cases h
  | heard l => cases h

theorem reveals (he : Effect c a reply c') (hk : c.Keyed) (h : c'.Reveals k preimage) :
    c.Reveals k preimage ∨
      ∃ params r, a = .confirm params preimage ∧ params.id = k ∧ reply = some (.ok r) := by
  rcases h with ⟨r', hget, hknown⟩ | hmem
  · rcases he.kept hk hget hknown with hold | hnew
    · exact Or.inl (Or.inl hold)
    · exact Or.inr hnew
  · rw [he.stream, List.mem_append, Option.mem_toList] at hmem
    rcases hmem with hold | hnew
    · exact Or.inl (Or.inr hold)
    · exact Or.inr (he.told hnew)

end Effect

end Chain

namespace Origin

variable (o : Origin) (ts : List Turn) (k : TransferId) (preimage : Preimage)

/-- At some point of a history a confirmation of a transfer with a preimage was accepted. -/
def Accepted : Prop :=
  ∃ us params r, us ++ [.act (.confirm params preimage)] <+: ts ∧ params.id = k ∧
    ((o.chain.play us).confirm params preimage).1 = .ok r

variable {o ts k preimage}

theorem Accepted.concat (h : o.Accepted ts k preimage) (t : Turn) :
    o.Accepted (ts ++ [t]) k preimage := by
  obtain ⟨us, params, r, hprefix, hid, hok⟩ := h
  exact ⟨us, params, r, hprefix.trans (List.prefix_append ts [t]), hid, hok⟩

theorem accepted_of_reveals (h : (o.chain.play ts).Reveals k preimage) :
    o.Accepted ts k preimage := by
  induction ts using List.reverseRecOn with
  | nil =>
    rcases h with ⟨r, hget, -⟩ | hmem
    · cases hget
    · cases hmem
  | append_singleton ts t ih =>
    rw [Chain.play_concat] at h
    cases t with
    | ledger l => exact (ih h).concat _
    | act a =>
      have hk := (o.identified_play ts).keyed
      rcases (Chain.effect_step hk a).reveals hk h with hold | ⟨params, r, rfl, hid, hreply⟩
      · exact (ih hold).concat _
      · exact ⟨ts, params, r, List.prefix_rfl, hid, Option.some.inj hreply⟩

variable (o ts)

/-- A confirmation tells no more of a preimage than whether it opens the hashlock. With two preimages
that open it alike, either both confirmations are refused for the same reason and neither changes
anything, or both pay in the same way and differ in the preimage that is kept in the record and
announced. Each preimage that a chain keeps or announced was accepted in a confirmation. -/
theorem confirm_discloses :
    (∀ params p q, (o.chain.play ts).OpenAlike params p q →
      (∃ e, (o.chain.play ts).confirm params p = (.error e, o.chain.play ts) ∧
        (o.chain.play ts).confirm params q = (.error e, o.chain.play ts)) ∨
      ∃ r ledger, (o.chain.play ts).get? params.id = some r ∧ r.id = params.id ∧
        (o.chain.play ts).confirm params p = (o.chain.play ts).payout r ledger p ∧
        (o.chain.play ts).confirm params q = (o.chain.play ts).payout r ledger q) ∧
    (∀ k preimage, (o.chain.play ts).Reveals k preimage → o.Accepted ts k preimage) := by
  constructor
  · intro params p q halike
    exact halike.confirm (o.identified_play ts).keyed
  · intro k preimage hreveals
    exact accepted_of_reveals hreveals

end Origin

namespace Sample

def closing : List Action := opening ++ [.confirm outbound preimage]

/-- A preimage that does not open the outbound half. -/
def guess (b : UInt8) : Preimage := Bytes.replicate 32 b

theorem opens_preimage :
    source.config.scheme.hashlock preimage = outbound.terms.hashlock := rfl

theorem guesses_miss :
    source.config.scheme.hashlock (guess 6) ≠ outbound.terms.hashlock ∧
      source.config.scheme.hashlock (guess 7) ≠ outbound.terms.hashlock := by
  decide +kernel

theorem openAlike_guess : (source.after opening).OpenAlike outbound (guess 6) (guess 7) := by
  intro r hget
  rw [get?_after_opening] at hget
  cases hget
  rw [source.config_after, Scheme.opens, Scheme.opens, decide_eq_decide]
  exact iff_of_false guesses_miss.1 guesses_miss.2

theorem opened_guess :
    (source.after opening).opened outbound (guess 6)
      = .error (.secretMismatch outbound.id) := by
  rw [Chain.opened_eq, get?_after_opening, source.config_after]
  simp [guesses_miss.1]

theorem get?_after_closing :
    (source.after closing).get? outbound.id
      = some ((Record.locked outbound.id outbound 10).redeemed preimage 10) := by
  have hearly : (source.after opening).now < outbound.terms.timelock := by
    rw [now_after_opening]
    decide
  have hkept := source.get?_after_confirm minted_opening_lt get?_after_opening
    (Record.state_locked _ _ _) opens_preimage hearly
  rw [Record.params_locked, now_after_opening] at hkept
  exact hkept

end Sample

/-- Two guesses that miss are refused alike, and the right preimage is known once it was accepted. -/
theorem Origin.confirm_discloses_opening :
    (∃ e, (Sample.source.after Sample.opening).confirm Sample.outbound (Sample.guess 6)
        = (.error e, Sample.source.after Sample.opening) ∧
      (Sample.source.after Sample.opening).confirm Sample.outbound (Sample.guess 7)
        = (.error e, Sample.source.after Sample.opening)) ∧
      Sample.source.Accepted (Sample.closing.map .act) Sample.outbound.id Sample.preimage := by
  constructor
  · obtain ⟨hpairs, -⟩ := Sample.source.confirm_discloses (Sample.opening.map .act)
    have hrun : Sample.source.chain.play (Sample.opening.map .act)
        = Sample.source.after Sample.opening := Chain.play_map_act _ _
    rw [hrun] at hpairs
    rcases hpairs _ _ _ Sample.openAlike_guess with hrefused | ⟨r, ledger, -, -, hpaid, -⟩
    · exact hrefused
    · rw [Chain.confirm_of_opened_eq_error Sample.opened_guess] at hpaid
      cases hpaid
  · obtain ⟨-, haccepted⟩ := Sample.source.confirm_discloses (Sample.closing.map .act)
    apply haccepted
    rw [Chain.play_map_act]
    exact Or.inl ⟨_, Sample.get?_after_closing, rfl⟩

end AtomicSwap
