import AtomicSwap.Node.HostedChain
import AtomicSwap.Proofs.Drain
import AtomicSwap.Proofs.Records
import AtomicSwap.Proofs.Solvency

/-!
One half of a swap on a chain where nothing else happens. All that the transfer moves is with one
holder at a time: its sender, the custodian, or whoever it was paid to. What became of the transfer,
the secret and the clock decide which calls succeed.
-/

set_option autoImplicit false
set_option relaxedAutoImplicit false

namespace AtomicSwap

namespace Ledger

/-- One holder has so much of each asset, and nobody else has any. -/
def AllWith (l : Ledger) (holder : Address) (funds : Asset → Nat) : Prop :=
  ∀ x other, (l.balance x other).toNat = if other = holder then funds x else 0

theorem AllWith.pays {l l' : Ledger} {payer payee : Address} {funds : Asset → Nat}
    (h : l.AllWith payer funds) (hpays : Pays l l' payer payee funds) : l'.AllWith payee funds := by
  intro x other
  have hbefore := h x other
  have hbalance := hpays.balance x other
  omega

end Ledger

/-- A subscriber can still read some events that it has not read, and no others. -/
structure Feed.Unread (f : Feed) (name : String) (events : List Event) : Prop where
  ring_pos : 0 < f.ring
  cursor : ∃ cursor, f.cursors.get? name = some cursor ∧ cursor ≤ f.stream.length ∧
    f.stream.drop cursor = events

namespace Feed

variable {f : Feed} {name : String} {events : List Event}

theorem Parted.unread {seen : List Event} (h : f.Parted name seen events) (hring : 0 < f.ring) :
    f.Unread name events := by
  refine ⟨hring, seen.length, h.cursor, ?_, ?_⟩
  · rw [h.stream, List.length_append]
    exact Nat.le_add_right _ _
  · rw [h.stream, List.drop_left]

theorem Unread.exists_parted (h : f.Unread name events) : ∃ seen, f.Parted name seen events := by
  obtain ⟨cursor, hcursor, hle, hdrop⟩ := h.cursor
  refine ⟨f.stream.take cursor, ?_, ?_⟩
  · rw [List.length_take, Nat.min_eq_left hle]
    exact hcursor
  · rw [← hdrop, List.take_append_drop]

theorem Unread.concat (h : f.Unread name events) (e : Event) :
    Unread { f with stream := f.stream ++ [e] } name (events ++ [e]) := by
  obtain ⟨seen, hparted⟩ := h.exists_parted
  have hlater : Parted { f with stream := f.stream ++ [e] } name seen (events ++ [e]) :=
    hparted.append rfl rfl
  exact hlater.unread h.ring_pos

/-- A subscriber that has not read one event, or none, is not too far behind. -/
theorem Unread.drain (h : f.Unread name events) (hone : events.length ≤ 1) :
    (f.drain name).1 = events ∧ (f.drain name).2.Unread name [] := by
  obtain ⟨seen, hparted⟩ := h.exists_parted
  obtain ⟨hevents, hend⟩ := hparted.drain (Nat.le_trans hone h.ring_pos)
  obtain ⟨-, -, hring⟩ := hparted.drain_newest
  exact ⟨hevents, hend.unread (hring ▸ h.ring_pos)⟩

end Feed

namespace Node

inductive Fate
  | awaited
  | locked (since : Seconds)
  | redeemed (since : Seconds) (preimage : Preimage) (time : Seconds)
  | refunded (since time : Seconds)

/-- One half of a swap: the transfer that is made on a chain, what became of it, the time on that
chain, and what its observer has not read. -/
structure Half where
  config : AtomicSwap.Config
  custodian : Address
  params : Params
  fate : Fate
  now : Seconds
  unread : List Event
  amount_ne_zero : params.terms.amount ≠ 0
  nativeAmount_eq_zero : params.terms.asset = .native → params.terms.nativeAmount = 0
  sender_ne : params.terms.sender ≠ custodian
  receiver_ne : params.terms.receiver ≠ custodian

namespace Half

variable (h : Half)

def lockedAt (since : Seconds) : Record := Record.locked h.params.id h.params since

def record : Option Record :=
  match h.fate with
  | .awaited => none
  | .locked since => some (h.lockedAt since)
  | .redeemed since preimage time => some ((h.lockedAt since).redeemed preimage time)
  | .refunded since time => some ((h.lockedAt since).refunded time)

/-- Who has what the transfer moves. -/
def holder : Address :=
  match h.fate with
  | .awaited => h.params.terms.sender
  | .locked _ => h.custodian
  | .redeemed _ _ _ => h.params.terms.receiver
  | .refunded _ _ => h.params.terms.sender

/-- The half after an announced change of its transfer. -/
def next (fate : Fate) (e : Event) : Half := { h with fate := fate, unread := h.unread ++ [e] }

def lock : Half := h.next (.locked h.now) (.ofRecord (h.lockedAt h.now))

def confirm (since : Seconds) (preimage : Preimage) : Half :=
  h.next (.redeemed since preimage h.now) (.confirmed h.params.id preimage)

def refund (since : Seconds) : Half := h.next (.refunded since h.now) (.refunded h.params.id)

def atTime (time : Seconds) : Half := { h with now := time }

def read : Half := { h with unread := [] }

/-- The half is on a chain, and nothing else is. -/
structure On (c : Chain) : Prop where
  config_eq : c.config = h.config
  custodian_eq : c.ledger.custodian = h.custodian
  now_eq : c.now = h.now
  get?_eq : c.get? h.params.id = h.record
  funds : c.ledger.AllWith h.holder h.params.terms.portion
  allowed : h.fate = .awaited → ∀ contract, h.params.terms.asset = .token contract →
    h.params.terms.amount ≤ c.ledger.allowance contract h.params.terms.sender
  unread_eq : c.feed.Unread HostedChain.observer h.unread

/-- Where the half is on a chain, a call succeeds exactly if `p` holds, with the record `r`, and
makes it the half `h'`. A call that is refused changes nothing. -/
structure Passes (f : Chain → Outcome Record) (p : Prop) (r : Record) (h' : Half) : Prop where
  passes : ∀ c, h.On c → p → (f c).1 = .ok r ∧ h'.On (f c).2
  refused : ∀ c, h.On c → ¬p → ∃ e, f c = (.error e, c)

variable {h} {c : Chain}

theorem On.setTime (hc : h.On c) (time : Seconds) : (h.atTime time).On (c.setTime time) :=
  ⟨hc.config_eq, hc.custodian_eq, rfl, hc.get?_eq, hc.funds, hc.allowed, hc.unread_eq⟩

theorem On.advance (hc : h.On c) (span : Seconds) :
    (h.atTime (h.now.later span)).On (c.advance span) := by
  rw [← hc.now_eq]
  exact hc.setTime _

theorem On.drain (hc : h.On c) (hone : h.unread.length ≤ 1) :
    (c.feed.drain HostedChain.observer).1 = h.unread ∧
      h.read.On { c with feed := (c.feed.drain HostedChain.observer).2 } := by
  obtain ⟨hevents, hread⟩ := hc.unread_eq.drain hone
  exact ⟨hevents, hc.config_eq, hc.custodian_eq, hc.now_eq, hc.get?_eq, hc.funds, hc.allowed, hread⟩

theorem On.get?_of_locked (hc : h.On c) {since : Seconds} (hfate : h.fate = .locked since) :
    c.get? h.params.id = some (h.lockedAt since) := by
  rw [hc.get?_eq, record, hfate]

private theorem On.recorded (hc : h.On c) {fate : Fate} (hfate : fate ≠ .awaited) {r : Record}
    (e : Event) (hrecord : (h.next fate e).record = some r) (hid : r.id = h.params.id)
    {ledger : Ledger}
    (hpays : c.ledger.Pays ledger h.holder (h.next fate e).holder h.params.terms.portion) :
    (h.next fate e).On (c.recorded ledger r e) where
  config_eq := hc.config_eq
  custodian_eq := hpays.custodian.trans hc.custodian_eq
  now_eq := hc.now_eq
  get?_eq := by
    rw [Chain.get?_recorded, hrecord]
    exact if_pos hid
  funds := hc.funds.pays hpays
  allowed hawaited := absurd hawaited hfate
  unread_eq := hc.unread_eq.concat e

private theorem portion_attachment (x : Asset) :
    Ledger.portion h.params.terms.asset h.params.terms.amount
        (Ledger.coinAlong h.params.terms.asset h.params.terms.attachment) x
      = h.params.terms.portion x := by
  have hnative := h.nativeAmount_eq_zero
  unfold Terms.portion Terms.attachment Ledger.coinAlong
  cases hasset : h.params.terms.asset with
  | native =>
    rw [hnative hasset]
    rfl
  | token contract => rfl

private theorem On.exists_escrow (hc : h.On c) (hfate : h.fate = .awaited) :
    ∃ ledger, c.ledger.escrow h.params.terms.asset h.params.terms.sender h.params.terms.amount
      h.params.terms.attachment
        = (.ok ⟨h.params.terms.asset, h.params.terms.sender, h.params.terms.amount,
          Ledger.coinAlong h.params.terms.asset h.params.terms.attachment⟩, ledger) := by
  have hheld (x : Asset) :
      (c.ledger.balance x h.params.terms.sender).toNat = h.params.terms.portion x := by
    have hbalance := hc.funds x h.params.terms.sender
    rwa [holder, hfate, if_pos rfl] at hbalance
  apply Ledger.exists_escrow
  · rw [hc.custodian_eq]
    exact h.sender_ne
  · intro x
    rw [portion_attachment, hheld]
  · exact hc.allowed hfate
  · intro x
    have hcustody := hc.funds x h.custodian
    have hlt := (c.ledger.balance x h.params.terms.sender).isLt
    rw [holder, hfate, if_neg h.sender_ne.symm] at hcustody
    rw [hheld] at hlt
    rw [portion_attachment, Ledger.custody, hc.custodian_eq, hcustody]
    omega

/-- Before its timelock, and only then, an awaited transfer can be locked. -/
theorem passes_lock (hfate : h.fate = .awaited) :
    h.Passes (fun c => c.lock h.params h.params.terms.attachment) (h.now < h.params.terms.timelock)
      (h.lockedAt h.now) h.lock where
  passes c hc hnow := by
    have hfresh : c.get? h.params.id = none := by
      rw [hc.get?_eq, record, hfate]
    have hpositive : h.params.terms.timelock ≠ 0 := by
      intro hzero
      rw [hzero] at hnow
      exact absurd hnow UInt64.not_lt_zero
    have hchecked : h.params.terms.check c.now h.params.terms.attachment c.ledger.custodian
        = .ok () := by
      rw [hc.now_eq, hc.custodian_eq]
      exact Terms.check_eq_ok_iff.2 ⟨h.amount_ne_zero, hpositive, hnow, h.nativeAmount_eq_zero, rfl,
        h.receiver_ne⟩
    obtain ⟨ledger, hescrow⟩ := hc.exists_escrow hfate
    obtain ⟨-, hpays⟩ := Chain.pays_lock hchecked hescrow
    have hholder : h.holder = h.params.terms.sender := by
      rw [holder, hfate]
    rw [hc.custodian_eq, ← hholder] at hpays
    rw [Chain.lock_eq_recorded hchecked hfresh hescrow, hc.now_eq]
    exact ⟨rfl, hc.recorded (by simp) _ rfl rfl hpays⟩
  refused c hc hnow := by
    cases hcheck : h.params.terms.check c.now h.params.terms.attachment c.ledger.custodian with
    | error e => exact ⟨_, by rw [Chain.lock, hcheck]⟩
    | ok u =>
      obtain ⟨-, -, hlt, -⟩ := Terms.check_eq_ok_iff.1 hcheck
      rw [hc.now_eq] at hlt
      exact absurd hlt hnow

/-- Custody covers a locked transfer, and there is room for it with whoever else is paid, so a
settlement that the rules allow makes the chain that of the next half. -/
private theorem On.settle (hc : h.On c) {since : Seconds} (hlocked : h.fate = .locked since)
    (fate : Fate) (hfate : fate ≠ .awaited) {r : Record} (e : Event)
    (hrecord : (h.next fate e).record = some r) (hid : r.id = h.params.id)
    (hterms : r.terms = h.params.terms) (hpayee : (h.next fate e).holder ≠ h.custodian) :
    (c.settle r (h.next fate e).holder e).1 = .ok r ∧
      (h.next fate e).On (c.settle r (h.next fate e).holder e).2 := by
  have hholder : h.holder = h.custodian := by
    rw [holder, hlocked]
  have hcustody (x : Asset) : (c.ledger.custody x).toNat = h.params.terms.portion x := by
    have hbalance := hc.funds x h.custodian
    rwa [hholder, if_pos rfl, ← hc.custodian_eq] at hbalance
  have hrelease : ∃ ledger, c.ledger.release r.terms.asset (h.next fate e).holder r.terms.amount
      r.terms.nativeAmount = (.ok (), ledger) := by
    rw [hterms]
    apply Ledger.exists_release (hc.custodian_eq ▸ hpayee)
    · intro x
      exact Nat.le_of_eq (hcustody x).symm
    · intro x
      have hlt := (c.ledger.custody x).isLt
      have hnone := hc.funds x (h.next fate e).holder
      rw [hholder, if_neg hpayee] at hnone
      rw [hcustody] at hlt
      rw [hnone, Nat.zero_add]
      exact hlt
  obtain ⟨ledger, hrelease⟩ := hrelease
  obtain ⟨-, hpays, -⟩ := Ledger.pays_release hrelease
  have hstored : c.get? r.id = some (h.lockedAt since) := by
    rw [hid, hc.get?_of_locked hlocked]
  rw [hc.custodian_eq, ← hholder, hterms] at hpays
  rcases Chain.settle_cases hstored (h.next fate e).holder e with
    ⟨cause, herror, -⟩ | ⟨ledger', hok, hsettle⟩
  · cases hrelease.symm.trans herror
  · cases hrelease.symm.trans hok
    rw [hsettle]
    exact ⟨rfl, hc.recorded hfate e hrecord hid hpays⟩

theorem passes_confirm {since : Seconds} (hfate : h.fate = .locked since) (preimage : Preimage) :
    h.Passes (fun c => c.confirm h.params preimage)
      (h.config.scheme.hashlock preimage = h.params.terms.hashlock ∧
        h.now < h.params.terms.timelock)
      ((h.lockedAt since).redeemed preimage h.now) (h.confirm since preimage) where
  passes c hc hopens := by
    have hstored := hc.get?_of_locked hfate
    have hopened : c.opened h.params preimage = .ok ((h.lockedAt since).redeemed preimage h.now) := by
      refine Chain.opened_eq_ok_iff.2 ⟨_, hstored, rfl, ?_, ?_, ?_⟩
      · rw [hc.config_eq]
        exact hopens.1
      · rw [hc.now_eq]
        exact hopens.2
      · rw [hc.now_eq]
    have hconfirm : c.confirm h.params preimage
        = c.settle ((h.lockedAt since).redeemed preimage h.now) h.params.terms.receiver
          (.confirmed h.params.id preimage) := by
      rw [Chain.confirm, hopened]
      rfl
    show (c.confirm h.params preimage).1 = _ ∧ Half.On _ (c.confirm h.params preimage).2
    rw [hconfirm]
    exact hc.settle hfate (.redeemed since preimage h.now) (by simp) _ rfl rfl rfl h.receiver_ne
  refused c hc hopens := by
    cases hopened : c.opened h.params preimage with
    | error e => exact ⟨e, by rw [Chain.confirm, hopened]⟩
    | ok r' =>
      obtain ⟨r, hget, -, hopens', hnow, -⟩ := Chain.opened_eq_ok_iff.1 hopened
      cases hget.symm.trans (hc.get?_of_locked hfate)
      rw [hc.config_eq] at hopens'
      rw [hc.now_eq] at hnow
      exact absurd ⟨hopens', hnow⟩ hopens

theorem passes_refund {since : Seconds} (hfate : h.fate = .locked since) :
    h.Passes (fun c => c.refund h.params) (h.params.terms.timelock ≤ h.now)
      ((h.lockedAt since).refunded h.now) (h.refund since) where
  passes c hc hnow := by
    have hstored := hc.get?_of_locked hfate
    have hexpired : c.expired h.params = .ok ((h.lockedAt since).refunded h.now) := by
      rw [← hc.now_eq] at hnow ⊢
      exact Chain.expired_eq_ok_iff.2 ⟨_, hstored, rfl, hnow, rfl⟩
    have hrefund : c.refund h.params
        = c.settle ((h.lockedAt since).refunded h.now) h.params.terms.sender
          (.refunded h.params.id) := by
      rw [Chain.refund, hexpired]
      rfl
    show (c.refund h.params).1 = _ ∧ Half.On _ (c.refund h.params).2
    rw [hrefund]
    exact hc.settle hfate (.refunded since h.now) (by simp) _ rfl rfl rfl h.sender_ne
  refused c hc hnow := by
    cases hexpired : c.expired h.params with
    | error e => exact ⟨e, by rw [Chain.refund, hexpired]⟩
    | ok r' =>
      obtain ⟨r, hget, -, hlate, -⟩ := Chain.expired_eq_ok_iff.1 hexpired
      cases hget.symm.trans (hc.get?_of_locked hfate)
      rw [hc.now_eq] at hlate
      exact absurd hlate hnow

theorem refuses_confirm {since time : Seconds} {preimage : Preimage}
    (hfate : h.fate = .redeemed since preimage time) (preimage' : Preimage) (r : Record) :
    h.Passes (fun c => c.confirm h.params preimage') False r h where
  passes c hc hfalse := hfalse.elim
  refused c hc _ := by
    cases hopened : c.opened h.params preimage' with
    | error e => exact ⟨e, by rw [Chain.confirm, hopened]⟩
    | ok r' =>
      obtain ⟨r, hget, hlocked, -⟩ := Chain.opened_eq_ok_iff.1 hopened
      rw [hc.get?_eq, record, hfate] at hget
      cases hget
      cases hlocked

end Half

end Node

end AtomicSwap
