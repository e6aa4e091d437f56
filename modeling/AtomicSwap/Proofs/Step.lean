import AtomicSwap.Chain
import AtomicSwap.Proofs.Funds

/-!
What can happen to a chain, and all that each action does to it. A call that is refused leaves the
chain as it was; one that succeeds moves the funds, keeps one record and announces one event.
-/

set_option autoImplicit false
set_option relaxedAutoImplicit false

namespace AtomicSwap

inductive Listening
  | subscribe (name : String)
  | unsubscribe (name : String)
  | receive (name : String)
deriving DecidableEq

def Feed.listen (f : Feed) : Listening → Feed
  | .subscribe name => f.subscribe name
  | .unsubscribe name => f.unsubscribe name
  | .receive name => (f.receive name).2

/-- What can happen to a chain: a call, funds credited or allowed to be pulled, the clock set to any
time, or somebody listening. -/
inductive Action
  | lock (params : Params) (attached : Amount)
  | confirm (params : Params) (preimage : Preimage)
  | refund (params : Params)
  | mint (asset : Asset) (holder : Address) (amount : Amount)
  | approve (contract owner : Address) (amount : Amount)
  | setTime (time : Seconds)
  | listen (l : Listening)
deriving DecidableEq

/-- Whether an action is a call, which can be refused. -/
def Action.isCall : Action → Bool
  | .lock _ _ => true
  | .confirm _ _ => true
  | .refund _ => true
  | _ => false

namespace Record

section

variable (id : TransferId) (params : Params) (now : Seconds)

@[simp] theorem id_locked : (locked id params now).id = id := rfl

@[simp] theorem params_locked : (locked id params now).params = params := rfl

@[simp] theorem terms_locked : (locked id params now).terms = params.terms := rfl

@[simp] theorem state_locked : (locked id params now).state = .locked := rfl

end

def redeemed (r : Record) (preimage : Preimage) (now : Seconds) : Record :=
  { r with state := .redeemed, settledAt := some now, preimage := some preimage }

def refunded (r : Record) (now : Seconds) : Record :=
  { r with state := .refunded, settledAt := some now }

section

variable (r : Record) (preimage : Preimage) (now : Seconds)

@[simp] theorem id_redeemed : (r.redeemed preimage now).id = r.id := rfl

@[simp] theorem params_redeemed : (r.redeemed preimage now).params = r.params := rfl

@[simp] theorem terms_redeemed : (r.redeemed preimage now).terms = r.terms := rfl

@[simp] theorem state_redeemed : (r.redeemed preimage now).state = .redeemed := rfl

@[simp] theorem createdAt_redeemed : (r.redeemed preimage now).createdAt = r.createdAt := rfl

@[simp] theorem id_refunded : (r.refunded now).id = r.id := rfl

@[simp] theorem params_refunded : (r.refunded now).params = r.params := rfl

@[simp] theorem terms_refunded : (r.refunded now).terms = r.terms := rfl

@[simp] theorem state_refunded : (r.refunded now).state = .refunded := rfl

@[simp] theorem createdAt_refunded : (r.refunded now).createdAt = r.createdAt := rfl

end

theorem redeem_eq (r : Record) (preimage : Preimage) (now : Seconds) :
    r.redeem preimage now
      = if r.state ≠ .locked then .error (.invalidState r.id (.notLocked r.state))
        else if r.terms.timelock ≤ now then
          .error (.invalidState r.id (.redemptionClosed r.terms.timelock now))
        else .ok (r.redeemed preimage now) := by
  unfold redeem checkLocked
  rw [require_bind, require_bind]
  by_cases hs : r.state = .locked
  · by_cases ht : now < r.terms.timelock
    · simp [hs, State.allows, ht, UInt64.not_le.2 ht, redeemed]
      rfl
    · simp [hs, State.allows, ht, UInt64.not_lt.1 ht]
  · simp [hs]

theorem refund_eq (r : Record) (now : Seconds) :
    r.refund now
      = if r.state ≠ .locked then .error (.invalidState r.id (.notLocked r.state))
        else if now < r.terms.timelock then
          .error (.invalidState r.id (.refundNotYetAvailable r.terms.timelock now))
        else .ok (r.refunded now) := by
  unfold refund checkLocked
  rw [require_bind, require_bind]
  by_cases hs : r.state = .locked
  · by_cases ht : now < r.terms.timelock
    · simp [hs, State.allows, ht, UInt64.not_le.2 ht]
    · simp [hs, State.allows, ht, UInt64.not_lt.1 ht, refunded]
      rfl
  · simp [hs]

end Record

namespace Registry

theorem insert_eq_ok {g : Registry} {r : Record} (h : g.get? r.id = none) :
    g.insert r = (.ok (), g.set r.id r) := by
  unfold insert
  rw [Attempt.on_get_bind, Attempt.on_require_bind, if_pos, Attempt.on_modify]
  simp [Table.contains, h]

theorem insert_eq_error {g : Registry} {r : Record} (h : g.get? r.id ≠ none) :
    g.insert r = (.error (.duplicateTransfer r.id), g) := by
  unfold insert
  rw [Attempt.on_get_bind, Attempt.on_require_bind, if_neg]
  simpa [Table.contains, Option.isSome_iff_ne_none] using h

theorem commit_eq_ok {g : Registry} {r r₀ : Record} (h : g.get? r.id = some r₀) :
    g.commit r = (.ok (), g.set r.id r) := by
  unfold commit
  rw [Attempt.on_get_bind, Attempt.on_require_bind, if_pos, Attempt.on_modify]
  simp [Table.contains, h]

theorem commit_eq_error {g : Registry} {r : Record} (h : g.get? r.id = none) :
    g.commit r = (.error (.notFound r.id), g) := by
  unfold commit
  rw [Attempt.on_get_bind, Attempt.on_require_bind, if_neg]
  simp [Table.contains, h]

end Registry

namespace Chain

/-- The chain with funds moved, a record kept under its identifier, and the change announced. -/
def recorded (c : Chain) (ledger : Ledger) (r : Record) (e : Event) : Chain :=
  { c with
    ledger := ledger
    registry := c.registry.set r.id r
    feed := { c.feed with stream := c.feed.stream ++ [e] } }

section

variable (c : Chain) (ledger : Ledger) (r : Record) (e : Event)

@[simp] theorem config_recorded : (c.recorded ledger r e).config = c.config := rfl

@[simp] theorem ledger_recorded : (c.recorded ledger r e).ledger = ledger := rfl

@[simp] theorem now_recorded : (c.recorded ledger r e).now = c.now := rfl

@[simp] theorem registry_recorded :
    (c.recorded ledger r e).registry = c.registry.set r.id r := rfl

@[simp] theorem stream_recorded :
    (c.recorded ledger r e).feed.stream = c.feed.stream ++ [e] := rfl

theorem get?_recorded (k : TransferId) :
    (c.recorded ledger r e).get? k = if r.id = k then some r else c.get? k :=
  Table.get?_set c.registry r.id k r

end

/-- What an action is answered: a call gets a record or an error, anything else nothing. -/
def reply (c : Chain) : Action → Option (Except TransferError Record)
  | .lock params attached => some (c.lock params attached).1
  | .confirm params preimage => some (c.confirm params preimage).1
  | .refund params => some (c.refund params).1
  | _ => none

def step (c : Chain) : Action → Chain
  | .lock params attached => (c.lock params attached).2
  | .confirm params preimage => (c.confirm params preimage).2
  | .refund params => (c.refund params).2
  | .mint asset holder amount => { c with ledger := c.ledger.credit asset holder amount }
  | .approve contract owner amount => { c with ledger := c.ledger.approve contract owner amount }
  | .setTime time => c.setTime time
  | .listen l => { c with feed := c.feed.listen l }

/-- All that an action can do to a chain, with what it is answered. -/
inductive Effect (c : Chain) : Action → Option (Except TransferError Record) → Chain → Prop
  | refused {a : Action} (isCall : a.isCall = true) (e : TransferError) :
      Effect c a (some (.error e)) c
  | locked {params : Params} {attached : Amount} {receipt : Receipt} {ledger : Ledger}
      (checked : params.terms.check c.now attached c.ledger.custodian = .ok ())
      (fresh : c.get? params.id = none)
      (escrowed : c.ledger.escrow params.terms.asset params.terms.sender params.terms.amount attached
        = (.ok receipt, ledger)) :
      Effect c (.lock params attached) (some (.ok (Record.locked params.id params c.now)))
        (c.recorded ledger (Record.locked params.id params c.now)
          (.ofRecord (Record.locked params.id params c.now)))
  | redeemed {params : Params} {preimage : Preimage} {r : Record} {ledger : Ledger}
      (found : c.get? params.id = some r) (isLocked : r.state = .locked)
      (opens : c.config.scheme.hashlock preimage = r.terms.hashlock)
      (inTime : c.now < r.terms.timelock)
      (released : c.ledger.release r.terms.asset r.terms.receiver r.terms.amount
        r.terms.nativeAmount = (.ok (), ledger)) :
      Effect c (.confirm params preimage) (some (.ok (r.redeemed preimage c.now)))
        (c.recorded ledger (r.redeemed preimage c.now) (.confirmed params.id preimage))
  | refunded {params : Params} {r : Record} {ledger : Ledger}
      (found : c.get? params.id = some r) (isLocked : r.state = .locked)
      (expired : r.terms.timelock ≤ c.now)
      (released : c.ledger.release r.terms.asset r.terms.sender r.terms.amount
        r.terms.nativeAmount = (.ok (), ledger)) :
      Effect c (.refund params) (some (.ok (r.refunded c.now)))
        (c.recorded ledger (r.refunded c.now) (.refunded params.id))
  | minted (asset : Asset) (holder : Address) (amount : Amount) :
      Effect c (.mint asset holder amount) none
        { c with ledger := c.ledger.credit asset holder amount }
  | approved (contract owner : Address) (amount : Amount) :
      Effect c (.approve contract owner amount) none
        { c with ledger := c.ledger.approve contract owner amount }
  | timed (time : Seconds) : Effect c (.setTime time) none (c.setTime time)
  | heard (l : Listening) : Effect c (.listen l) none { c with feed := c.feed.listen l }

/-- Each record is kept under its own identifier. -/
def Keyed (c : Chain) : Prop := ∀ k r, c.get? k = some r → r.id = k

theorem Keyed.get?_id {c : Chain} {k : TransferId} {r r' : Record} (hk : c.Keyed)
    (hget : c.get? k = some r) (hid : r'.id = r.id) : c.get? r'.id = some r := by
  rwa [hid, hk k r hget]

/-- How a lock ends: at the first check that its terms fail, at a record under its identifier, at the
ledger, or with its own record kept. -/
theorem lock_cases (c : Chain) (params : Params) (attached : Amount) :
    (∃ e, params.terms.check c.now attached c.ledger.custodian = .error e ∧
        c.lock params attached = (.error (.invalidParameters e), c)) ∨
      (params.terms.check c.now attached c.ledger.custodian = .ok () ∧
        ((∃ r, c.get? params.id = some r ∧
            c.lock params attached = (.error (.duplicateTransfer params.id), c)) ∨
          (c.get? params.id = none ∧
            ((∃ e, c.ledger.escrow params.terms.asset params.terms.sender params.terms.amount attached
                = (.error e, c.ledger) ∧
                c.lock params attached = (.error (.assetTransferFailed e), c)) ∨
              ∃ receipt ledger,
                c.ledger.escrow params.terms.asset params.terms.sender params.terms.amount attached
                  = (.ok receipt, ledger) ∧
                c.lock params attached
                  = (.ok (Record.locked params.id params c.now),
                    c.recorded ledger (Record.locked params.id params c.now)
                      (.ofRecord (Record.locked params.id params c.now))))))) := by
  unfold lock
  cases hcheck : params.terms.check c.now attached c.ledger.custodian with
  | error e => exact Or.inl ⟨e, rfl, rfl⟩
  | ok u =>
    refine Or.inr ⟨rfl, ?_⟩
    cases hget : c.get? params.id with
    | some r =>
      have hold : c.registry.contains params.id = true := by
        simpa [Table.contains, get?] using congrArg Option.isSome hget
      exact Or.inl ⟨r, rfl, if_pos hold⟩
    | none =>
      have hnew : ¬c.registry.contains params.id = true := by
        simpa [Table.contains, get?] using hget
      refine Or.inr ⟨rfl, ?_⟩
      simp only [if_neg hnew]
      rcases hescrow : c.ledger.escrow params.terms.asset params.terms.sender params.terms.amount
        attached with ⟨e | receipt, ledger⟩
      · have hkept := Ledger.escrow_refused (congrArg Prod.fst hescrow)
        rw [hescrow] at hkept
        subst hkept
        exact Or.inl ⟨e, rfl, rfl⟩
      · have hinsert := @Registry.insert_eq_ok _ (Record.locked params.id params c.now) hget
        refine Or.inr ⟨receipt, ledger, rfl, ?_⟩
        simp only [hinsert]
        rfl

theorem effect_lock (c : Chain) (params : Params) (attached : Amount) :
    Effect c (.lock params attached) (some (c.lock params attached).1)
      (c.lock params attached).2 := by
  rcases c.lock_cases params attached with ⟨e, -, hlock⟩ | ⟨hcheck, ⟨r, -, hlock⟩ | ⟨hfresh, hledger⟩⟩
  · rw [hlock]
    exact .refused rfl _
  · rw [hlock]
    exact .refused rfl _
  · rcases hledger with ⟨e, -, hlock⟩ | ⟨receipt, ledger, hescrow, hlock⟩
    · rw [hlock]
      exact .refused rfl _
    · rw [hlock]
      exact .locked hcheck hfresh hescrow

theorem lock_eq_recorded {c : Chain} {params : Params} {attached : Amount} {receipt : Receipt}
    {ledger : Ledger} (checked : params.terms.check c.now attached c.ledger.custodian = .ok ())
    (fresh : c.get? params.id = none)
    (escrowed : c.ledger.escrow params.terms.asset params.terms.sender params.terms.amount attached
      = (.ok receipt, ledger)) :
    c.lock params attached
      = (.ok (Record.locked params.id params c.now),
        c.recorded ledger (Record.locked params.id params c.now)
          (.ofRecord (Record.locked params.id params c.now))) := by
  rcases c.lock_cases params attached with ⟨e, hcheck, -⟩ | ⟨-, ⟨r, hget, -⟩ | ⟨-, hledger⟩⟩
  · cases hcheck.symm.trans checked
  · cases hget.symm.trans fresh
  · rcases hledger with ⟨e, hescrow, -⟩ | ⟨receipt', ledger', hescrow, hlock⟩
    · cases hescrow.symm.trans escrowed
    · cases hescrow.symm.trans escrowed
      exact hlock

theorem settle_cases {c : Chain} {r r₀ : Record} (h : c.get? r.id = some r₀) (receiver : Address)
    (e : Event) :
    (∃ cause, c.ledger.release r.terms.asset receiver r.terms.amount r.terms.nativeAmount
        = (.error cause, c.ledger) ∧
        c.settle r receiver e = (.error (.assetTransferFailed cause), c)) ∨
      ∃ ledger, c.ledger.release r.terms.asset receiver r.terms.amount r.terms.nativeAmount
        = (.ok (), ledger) ∧ c.settle r receiver e = (.ok r, c.recorded ledger r e) := by
  unfold settle
  rcases hrelease : c.ledger.release r.terms.asset receiver r.terms.amount r.terms.nativeAmount with
    ⟨cause | ⟨⟩, ledger⟩
  · have hkept := Ledger.release_refused (congrArg Prod.fst hrelease)
    rw [hrelease] at hkept
    subst hkept
    exact Or.inl ⟨cause, rfl, rfl⟩
  · refine Or.inr ⟨ledger, rfl, ?_⟩
    have hcommit := Registry.commit_eq_ok h
    simp only [hcommit]
    rfl

theorem opened_eq (c : Chain) (params : Params) (preimage : Preimage) :
    c.opened params preimage
      = match c.get? params.id with
        | none => .error (.notFound params.id)
        | some r =>
          if r.state ≠ .locked then .error (.invalidState r.id (.notLocked r.state))
          else if c.config.scheme.hashlock preimage ≠ r.terms.hashlock then
            .error (.secretMismatch params.id)
          else if r.terms.timelock ≤ c.now then
            .error (.invalidState r.id (.redemptionClosed r.terms.timelock c.now))
          else .ok (r.redeemed preimage c.now) := by
  unfold opened Record.checkLocked Scheme.opens
  cases c.get? params.id with
  | none => rfl
  | some r =>
    simp only [require_bind, Record.redeem_eq]
    by_cases hs : r.state = .locked
    · by_cases ho : c.config.scheme.hashlock preimage = r.terms.hashlock
      · simp [hs, ho]
      · simp [hs, ho]
    · simp [hs]

theorem opened_eq_ok_iff {c : Chain} {params : Params} {preimage : Preimage} {r' : Record} :
    c.opened params preimage = .ok r' ↔
      ∃ r, c.get? params.id = some r ∧ r.state = .locked ∧
        c.config.scheme.hashlock preimage = r.terms.hashlock ∧ c.now < r.terms.timelock ∧
        r' = r.redeemed preimage c.now := by
  rw [opened_eq]
  cases c.get? params.id with
  | none => simp
  | some r =>
    simp only [Option.some.injEq, exists_eq_left']
    split_ifs with hs ho ht
    · simp [hs]
    · simp [ho]
    · simp [UInt64.not_lt.2 ht]
    · have hs := Decidable.not_not.1 hs
      have ho := Decidable.not_not.1 ho
      simp [hs, ho, UInt64.not_le.1 ht, eq_comm]

theorem expired_eq (c : Chain) (params : Params) :
    c.expired params
      = match c.get? params.id with
        | none => .error (.notFound params.id)
        | some r =>
          if r.state ≠ .locked then .error (.invalidState r.id (.notLocked r.state))
          else if c.now < r.terms.timelock then
            .error (.invalidState r.id (.refundNotYetAvailable r.terms.timelock c.now))
          else .ok (r.refunded c.now) := by
  unfold expired
  cases c.get? params.id with
  | none => rfl
  | some r => exact r.refund_eq c.now

theorem expired_eq_ok_iff {c : Chain} {params : Params} {r' : Record} :
    c.expired params = .ok r' ↔
      ∃ r, c.get? params.id = some r ∧ r.state = .locked ∧ r.terms.timelock ≤ c.now ∧
        r' = r.refunded c.now := by
  rw [expired_eq]
  cases c.get? params.id with
  | none => simp
  | some r =>
    simp only [Option.some.injEq, exists_eq_left']
    split_ifs with hs ht
    · simp [hs]
    · simp [UInt64.not_le.2 ht]
    · have hs := Decidable.not_not.1 hs
      simp [hs, UInt64.not_lt.1 ht, eq_comm]

theorem effect_confirm {c : Chain} (h : c.Keyed) (params : Params) (preimage : Preimage) :
    Effect c (.confirm params preimage) (some (c.confirm params preimage).1)
      (c.confirm params preimage).2 := by
  unfold confirm
  cases hopen : c.opened params preimage with
  | error e => exact .refused rfl _
  | ok r' =>
    obtain ⟨r, hget, hlocked, hopens, hnow, rfl⟩ := opened_eq_ok_iff.1 hopen
    have hstored := h.get?_id hget (Record.id_redeemed r preimage c.now)
    rcases settle_cases hstored r.terms.receiver (.confirmed params.id preimage) with
      ⟨cause, -, hsettle⟩ | ⟨ledger, hrelease, hsettle⟩
    · simp only [Record.terms_redeemed, hsettle]
      exact .refused rfl _
    · simp only [Record.terms_redeemed, hsettle]
      exact .redeemed hget hlocked hopens hnow hrelease

theorem effect_refund {c : Chain} (h : c.Keyed) (params : Params) :
    Effect c (.refund params) (some (c.refund params).1) (c.refund params).2 := by
  unfold refund
  cases hexpired : c.expired params with
  | error e => exact .refused rfl _
  | ok r' =>
    obtain ⟨r, hget, hlocked, hnow, rfl⟩ := expired_eq_ok_iff.1 hexpired
    have hstored := h.get?_id hget (Record.id_refunded r c.now)
    rcases settle_cases hstored r.terms.sender (.refunded params.id) with
      ⟨cause, -, hsettle⟩ | ⟨ledger, hrelease, hsettle⟩
    · simp only [Record.terms_refunded, hsettle]
      exact .refused rfl _
    · simp only [Record.terms_refunded, hsettle]
      exact .refunded hget hlocked hnow hrelease

/-- An action has one of the effects listed, if each record is kept under its own identifier. -/
theorem effect_step {c : Chain} (h : c.Keyed) (a : Action) : Effect c a (c.reply a) (c.step a) := by
  cases a with
  | lock params attached => exact effect_lock c params attached
  | confirm params preimage => exact effect_confirm h params preimage
  | refund params => exact effect_refund h params
  | mint asset holder amount => exact .minted asset holder amount
  | approve contract owner amount => exact .approved contract owner amount
  | setTime time => exact .timed time
  | listen l => exact .heard l

end Chain

end AtomicSwap
