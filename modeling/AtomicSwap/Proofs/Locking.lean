import AtomicSwap.Proofs.Objections
import AtomicSwap.Proofs.Refusal
import AtomicSwap.Proofs.Solvency

/-!
What a lock is answered. The objections to it are listed in the order in which they are reported: the
first that holds is the answer, and a lock to which there is none succeeds. Then the sender has paid
what was asked into custody, and nobody else's funds have moved.
-/

set_option autoImplicit false
set_option relaxedAutoImplicit false

namespace AtomicSwap

def Terms.objections (t : Terms) (now : Seconds) (attached : Amount) (custodian : Address) :
    Objections TermsError :=
  [(t.amount = 0, .zeroAmount),
    (t.timelock = 0, .zeroTimelock),
    (t.timelock ≤ now, .timelockNotInFuture t.timelock now),
    (t.asset = .native ∧ t.nativeAmount ≠ 0, .nativeAmountOnNativeAsset),
    (attached ≠ t.attachment, .nativeAttachmentMismatch t.attachment attached),
    (t.receiver = custodian, .custodianReceiver custodian)]

theorem Terms.refusal?_check (t : Terms) (now : Seconds) (attached : Amount) (custodian : Address) :
    refusal? (t.check now attached custodian)
      = (t.objections now attached custodian).first? := by
  have hamount : t.amount = 0 ↔ ¬t.amount ≠ 0 := not_not.symm
  have hzero : t.timelock = 0 ↔ ¬t.timelock ≠ 0 := not_not.symm
  have hfuture : t.timelock ≤ now ↔ ¬now < t.timelock := UInt64.not_lt.symm
  have hnative : t.asset = .native ∧ t.nativeAmount ≠ 0
      ↔ ¬(t.asset = .native → t.nativeAmount = 0) := Classical.not_imp.symm
  have hattached : attached ≠ t.attachment ↔ ¬attached = t.attachment := Iff.rfl
  have hreceiver : t.receiver = custodian ↔ ¬t.receiver ≠ custodian := not_not.symm
  unfold check checkAmount checkTimelock checkAttachment checkReceiver objections
  simp only [bind_assoc, Objections.first?_cons, refusal?_require_bind hamount,
    refusal?_require_bind hzero, refusal?_require_bind hfuture, refusal?_require_bind hnative,
    refusal?_require_bind hattached, refusal?_require hreceiver]
  rfl

namespace Chain

def objections (c : Chain) (params : Params) (attached : Amount) : Objections TransferError :=
  (params.terms.objections c.now attached c.ledger.custodian).mapError .invalidParameters
    ++ ((c.get? params.id).isSome, .duplicateTransfer params.id)
    :: (c.ledger.objections params.terms.asset params.terms.sender params.terms.amount
      attached).mapError .assetTransferFailed

theorem lock_answer (c : Chain) (params : Params) (attached : Amount) :
    (c.lock params attached).1
      = match (c.objections params attached).first? with
        | some e => .error e
        | none => .ok (Record.locked params.id params c.now) := by
  have hterms := params.terms.refusal?_check c.now attached c.ledger.custodian
  have hledger := c.ledger.escrow_eq params.terms.asset params.terms.sender params.terms.amount
    attached
  unfold objections
  rw [Objections.first?_append, Objections.first?_mapError, Objections.first?_cons,
    Objections.first?_mapError, ← hterms]
  rcases c.lock_cases params attached with ⟨e, hcheck, hlock⟩ | ⟨hcheck, hrest⟩
  · rw [hlock, hcheck]
    rfl
  · rcases hrest with ⟨r, hget, hlock⟩ |
      ⟨hfresh, ⟨e, hescrow, hlock⟩ | ⟨receipt, ledger, hescrow, hlock⟩⟩
    · rw [hlock, hcheck, hget]
      rfl
    · have hfirst := Objections.fst_attempt_eq_error_iff.1
        (congrArg Prod.fst (hledger.symm.trans hescrow))
      rw [hlock, hcheck, hfresh, hfirst]
      rfl
    · have hfirst := (Objections.attempt_eq_ok_iff.1 (hledger.symm.trans hescrow)).1
      rw [hlock, hcheck, hfresh, hfirst]
      rfl

/-- Nothing stands against a lock just when its terms are in order, its identifier is new, the sender
has what is asked and has allowed it, and there is room for it in custody. -/
theorem objections_eq_none_iff {c : Chain} {params : Params} {attached : Amount} :
    (c.objections params attached).first? = none ↔
      params.terms.check c.now attached c.ledger.custodian = .ok () ∧ c.get? params.id = none ∧
        (c.ledger.objections params.terms.asset params.terms.sender params.terms.amount
          attached).first? = none := by
  have hcheck : (params.terms.objections c.now attached c.ledger.custodian).first? = none
      ↔ params.terms.check c.now attached c.ledger.custodian = .ok () := by
    rw [← Terms.refusal?_check]
    cases params.terms.check c.now attached c.ledger.custodian <;> simp [refusal?]
  unfold objections
  rw [Objections.first?_append, Option.or_eq_none_iff, Objections.first?_mapError,
    Option.map_eq_none_iff, hcheck, Objections.first?_cons, Objections.first?_mapError]
  cases c.get? params.id <;> simp

/-- What is drawn from the sender of an asset: of the native coin what is attached, of a token the
amount. -/
def drawn (t : Terms) (attached : Amount) (x : Asset) : Nat :=
  if x = .native then attached.toNat else if x = t.asset then t.amount.toNat else 0

theorem drawn_eq_portion {t : Terms} {now : Seconds} {attached : Amount} {custodian : Address}
    (h : t.check now attached custodian = .ok ()) : drawn t attached = t.portion := by
  obtain ⟨-, -, -, hnative, hattached, -⟩ := Terms.check_eq_ok_iff.1 h
  funext x
  rw [hattached]
  unfold drawn Terms.portion Ledger.portion Terms.attachment
  cases hasset : t.asset with
  | native =>
    rw [hnative hasset]
    cases x <;> simp
  | token contract => cases x <;> simp [eq_comm]

theorem coinMoved_attachment (t : Terms) :
    Ledger.coinMoved t.asset t.amount t.attachment = t.attachment := by
  unfold Ledger.coinMoved Terms.attachment
  cases t.asset <;> rfl

theorem drawn_fits_iff {l : Ledger} {t : Terms} {attached : Amount} :
    (∀ x, (l.custody x).toNat + drawn t attached x < 2 ^ 256) ↔
      (l.nativeOf l.custodian).toNat + attached.toNat < 2 ^ 256 ∧
        ∀ contract, t.asset = .token contract →
          (l.tokenOf contract l.custodian).toNat + t.amount.toNat < 2 ^ 256 := by
  constructor
  · intro h
    refine ⟨h .native, ?_⟩
    intro contract hasset
    have htoken := h (.token contract)
    rwa [drawn, if_neg (by simp), if_pos hasset.symm] at htoken
  · rintro ⟨hnative, htoken⟩ x
    cases x with
    | native => exact hnative
    | token contract =>
      have hheld := (l.custody (.token contract)).isLt
      rw [drawn, if_neg (by simp)]
      split_ifs with hasset
      · exact htoken contract hasset.symm
      · exact hheld

/-- What a lock needs: terms in order, an identifier that is new, funds of the sender that cover it and
that the custodian may pull, and room for them in custody. -/
structure Admits (c : Chain) (params : Params) (attached : Amount) : Prop where
  amount_pos : 0 < params.terms.amount.toNat
  timelock_later : c.now < params.terms.timelock
  attached_native : params.terms.asset = .native →
    params.terms.nativeAmount = 0 ∧ attached = params.terms.amount
  attached_token : ∀ contract, params.terms.asset = .token contract →
    attached = params.terms.nativeAmount
  receiver_ne : params.terms.receiver ≠ c.ledger.custodian
  sender_ne : params.terms.sender ≠ c.ledger.custodian
  fresh : c.get? params.id = none
  attached_le : attached ≤ c.ledger.nativeOf params.terms.sender
  allowed : ∀ contract, params.terms.asset = .token contract →
    params.terms.amount ≤ c.ledger.allowance contract params.terms.sender
  amount_le : ∀ contract, params.terms.asset = .token contract →
    params.terms.amount ≤ c.ledger.tokenOf contract params.terms.sender
  room : ∀ x, (c.ledger.custody x).toNat + drawn params.terms attached x < 2 ^ 256

/-- The chain behind a lock that succeeds: the record is kept and announced, what was asked has gone
from the sender to the custodian and out of the allowance, and nothing else differs. -/
structure Takes (c : Chain) (params : Params) (attached : Amount) (c' : Chain) : Prop where
  config : c'.config = c.config
  now : c'.now = c.now
  registry : c'.registry = c.registry.set params.id (Record.locked params.id params c.now)
  feed : c'.feed = { c.feed with
    stream := c.feed.stream ++ [.ofRecord (Record.locked params.id params c.now)] }
  pays : c.ledger.Pays c'.ledger params.terms.sender c.ledger.custodian
    (drawn params.terms attached)
  allowance : ∀ contract owner, (c'.ledger.allowance contract owner).toNat
      + (if params.terms.asset = .token contract ∧ params.terms.sender = owner then
          params.terms.amount.toNat else 0)
    = (c.ledger.allowance contract owner).toNat

theorem exists_lock_iff {c : Chain} {params : Params} {attached : Amount} :
    (∃ r, (c.lock params attached).1 = .ok r) ↔ (c.objections params attached).first? = none := by
  rw [lock_answer]
  cases (c.objections params attached).first? <;> simp

theorem objections_eq_none_iff_admits {c : Chain} {params : Params} {attached : Amount} :
    (c.objections params attached).first? = none ↔ c.Admits params attached := by
  rw [objections_eq_none_iff, Terms.check_eq_ok_iff, Ledger.objections_eq_none_iff]
  constructor
  · rintro ⟨⟨hamount, -, hnow, hnative, rfl, hreceiver⟩, hfresh, hsender, hheld, hroom, htoken⟩
    rw [coinMoved_attachment] at hheld hroom
    refine ⟨?_, hnow, ?_, ?_, hreceiver, hsender, hfresh, hheld, ?_, ?_, drawn_fits_iff.2 ⟨hroom, ?_⟩⟩
    · exact Nat.pos_of_ne_zero fun hzero => hamount (Amount.ext hzero)
    · intro hasset
      exact ⟨hnative hasset, by rw [Terms.attachment, hasset]⟩
    · intro contract hasset
      rw [Terms.attachment, hasset]
    · intro contract hasset
      exact (htoken contract hasset).1
    · intro contract hasset
      exact (htoken contract hasset).2.1
    · intro contract hasset
      exact (htoken contract hasset).2.2
  · intro h
    have hattached : attached = params.terms.attachment := by
      unfold Terms.attachment
      cases hasset : params.terms.asset with
      | native => exact (h.attached_native hasset).2
      | token contract => exact h.attached_token contract hasset
    have hmoved := coinMoved_attachment params.terms
    obtain ⟨hroom, htokenRoom⟩ := drawn_fits_iff.1 h.room
    rw [← hattached] at hmoved
    rw [hmoved]
    refine ⟨⟨?_, ?_, h.timelock_later, ?_, hattached, h.receiver_ne⟩, h.fresh, h.sender_ne,
      h.attached_le, hroom, ?_⟩
    · intro hzero
      have hpos := h.amount_pos
      rw [hzero] at hpos
      exact Nat.lt_irrefl 0 hpos
    · intro hzero
      have hlater := h.timelock_later
      rw [hzero] at hlater
      exact UInt64.not_lt_zero hlater
    · intro hasset
      exact (h.attached_native hasset).1
    · intro contract hasset
      exact ⟨h.allowed contract hasset, h.amount_le contract hasset, htokenRoom contract hasset⟩

theorem takes_of_lock {c : Chain} {params : Params} {attached : Amount} {r : Record}
    (h : (c.lock params attached).1 = .ok r) :
    c.Takes params attached (c.lock params attached).2 := by
  obtain ⟨hcheck, hfresh, hledger⟩ := objections_eq_none_iff.1 (exists_lock_iff.1 ⟨r, h⟩)
  have hescrow := Ledger.escrow_eq_ok_iff.2 ⟨hledger, rfl, rfl⟩
  rw [lock_eq_recorded hcheck hfresh hescrow]
  obtain ⟨-, hpays⟩ := pays_lock hcheck hescrow
  rw [← drawn_eq_portion hcheck] at hpays
  exact ⟨rfl, rfl, rfl, rfl, hpays, Ledger.allowance_escrow hescrow⟩

/-- What a lock is answered and what it does, on every chain. The first objection that holds is the
answer; a lock succeeds just when none holds, and takes what was asked then. A refused lock leaves the
chain as it was. -/
theorem lock_outcome (c : Chain) (params : Params) (attached : Amount) :
    (c.lock params attached).1
        = (match (c.objections params attached).first? with
          | some e => .error e
          | none => .ok (Record.locked params.id params c.now)) ∧
      ((∃ r, (c.lock params attached).1 = .ok r) ↔ c.Admits params attached) ∧
      (∀ e, (c.lock params attached).1 = .error e → (c.lock params attached).2 = c) ∧
      (∀ r, (c.lock params attached).1 = .ok r →
        c.Takes params attached (c.lock params attached).2) := by
  refine ⟨c.lock_answer params attached, exists_lock_iff.trans objections_eq_none_iff_admits, ?_, ?_⟩
  · intro e hrefused
    have heffect := c.effect_lock params attached
    rw [hrefused] at heffect
    exact heffect.eq_of_refused
  · intro r hlocked
    exact takes_of_lock hlocked

end Chain

end AtomicSwap
