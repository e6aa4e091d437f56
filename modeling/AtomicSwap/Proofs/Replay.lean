import AtomicSwap.Proofs.Stream
import AtomicSwap.Proofs.TableSum

/-!
The stream of a chain as a log of its registry. Whoever takes up the announcements in their order,
and refuses one that does not fit what it has taken up before, refuses none and ends with the
parameters, the state and the preimage of every record. One is announced for each transfer, and one
more for each that was settled.
-/

set_option autoImplicit false
set_option relaxedAutoImplicit false

namespace AtomicSwap

structure Copy where
  params : Params
  state : State
  preimage : Option Preimage
deriving DecidableEq

def Copy.ofRecord (r : Record) : Copy := ⟨r.params, r.state, r.preimage⟩

abbrev Replica := Table TransferId Copy

namespace Replica

/-- Takes up a new transfer, unless its identifier is known. -/
def create (m : Replica) (id : TransferId) (params : Params) : Option Replica :=
  if m.contains id then none else some (m.set id ⟨params, .locked, none⟩)

/-- Takes up the settlement of a transfer, unless it is unknown or known to be settled. -/
def settle (m : Replica) (id : TransferId) (change : Copy → Copy) : Option Replica :=
  match m.get? id with
  | none => none
  | some copy => if copy.state = .locked then some (m.set id (change copy)) else none

/-- Takes up an announcement, unless it does not fit. -/
def apply (m : Replica) : Event → Option Replica
  | .outboundLocked n => m.create n.id n.outboundParams
  | .inboundLocked n => m.create n.id n.inboundParams
  | .confirmed id preimage =>
    m.settle id fun copy => { copy with state := .redeemed, preimage := some preimage }
  | .refunded id => m.settle id fun copy => { copy with state := .refunded }

/-- Takes up announcements in their order, from nothing. -/
def replay (events : List Event) : Option Replica := events.foldlM apply Table.empty

theorem replay_concat (events : List Event) (e : Event) :
    replay (events ++ [e]) = (replay events).bind fun m => m.apply e := by
  simp [replay, List.foldlM_append]

theorem create_eq_some {m : Replica} {id : TransferId} (h : m.get? id = none) (params : Params) :
    m.create id params = some (m.set id ⟨params, .locked, none⟩) := by
  rw [create, if_neg]
  simp [Table.contains, h]

theorem settle_eq_some {m : Replica} {id : TransferId} {copy : Copy} (h : m.get? id = some copy)
    (hlocked : copy.state = .locked) (change : Copy → Copy) :
    m.settle id change = some (m.set id (change copy)) := by
  simp only [settle, h, if_pos hlocked]

theorem apply_ofRecord (m : Replica) (r : Record) :
    m.apply (.ofRecord r) = m.create r.id r.params := by
  obtain ⟨id, ⟨terms, route⟩, state, createdAt, settledAt, preimage⟩ := r
  cases route <;> rfl

/-- A follower knows of each record of the chain all there is to know, and nothing else. -/
def Mirrors (m : Replica) (c : Chain) : Prop := ∀ k, m.get? k = (c.get? k).map Copy.ofRecord

theorem Mirrors.set {m : Replica} {c c' : Chain} (h : m.Mirrors c) {k : TransferId} {r : Record}
    (hset : c'.registry = c.registry.set k r) : Mirrors (m.set k (.ofRecord r)) c' := by
  intro k'
  rw [Table.get?_set, Chain.get?_of_set hset]
  split_ifs
  · rfl
  · exact h k'

end Replica

namespace Chain

variable {c c' : Chain} {a : Action} {reply : Option (Except TransferError Record)}

/-- A chain whose stream, taken up from the start, gives what its registry holds. -/
def Replayed (c : Chain) : Prop := ∃ m, Replica.replay c.feed.stream = some m ∧ m.Mirrors c

theorem Replayed.of_registry (h : c.Replayed) (hstream : c'.feed.stream = c.feed.stream)
    (hregistry : c'.registry = c.registry) : c'.Replayed := by
  obtain ⟨m, hreplay, hmirrors⟩ := h
  refine ⟨m, by rwa [hstream], ?_⟩
  intro k
  rw [get?, hregistry]
  exact hmirrors k

theorem Replayed.of_apply {m m' : Replica} {e : Event}
    (hreplay : Replica.replay c.feed.stream = some m) (happly : m.apply e = some m')
    (hmirrors : m'.Mirrors c') (hstream : c'.feed.stream = c.feed.stream ++ [e]) :
    c'.Replayed := by
  refine ⟨m', ?_, hmirrors⟩
  rw [hstream, Replica.replay_concat, hreplay]
  exact happly

theorem Replayed.of_settle (h : c.Replayed) {k : TransferId} {r : Record} (r' : Record)
    (found : c.get? k = some r) (isLocked : r.state = .locked) {e : Event} {change : Copy → Copy}
    (happly : ∀ m : Replica, m.apply e = m.settle k change)
    (hchange : change (.ofRecord r) = .ofRecord r')
    (hregistry : c'.registry = c.registry.set k r')
    (hstream : c'.feed.stream = c.feed.stream ++ [e]) : c'.Replayed := by
  obtain ⟨m, hreplay, hmirrors⟩ := h
  have hsome : m.get? k = some (.ofRecord r) := by
    rw [hmirrors, found]
    rfl
  have hsettle : m.apply e = some (m.set k (.ofRecord r')) := by
    rw [happly, Replica.settle_eq_some hsome isLocked, hchange]
  exact .of_apply hreplay hsettle (hmirrors.set hregistry) hstream

theorem Effect.replayed (he : Effect c a reply c') (hk : c.Keyed) (h : c.Replayed) :
    c'.Replayed := by
  cases he with
  | refused isCall e => exact h
  | @locked params attached receipt ledger checked fresh escrowed =>
    obtain ⟨m, hreplay, hmirrors⟩ := h
    have hnone : m.get? params.id = none := by
      rw [hmirrors, fresh]
      rfl
    have happly : m.apply (.ofRecord (Record.locked params.id params c.now))
        = some (m.set params.id (.ofRecord (Record.locked params.id params c.now))) := by
      rw [Replica.apply_ofRecord]
      exact Replica.create_eq_some hnone params
    refine .of_apply hreplay happly (hmirrors.set ?_) rfl
    rw [registry_recorded, Record.id_locked]
  | @redeemed params preimage r ledger found isLocked opens inTime released =>
    have hid : r.id = params.id := hk _ _ found
    refine h.of_settle (r.redeemed preimage c.now) found isLocked (fun m => rfl) rfl ?_ rfl
    rw [registry_recorded, Record.id_redeemed, hid]
  | @refunded params r ledger found isLocked expired released =>
    have hid : r.id = params.id := hk _ _ found
    refine h.of_settle (r.refunded c.now) found isLocked (fun m => rfl) rfl ?_ rfl
    rw [registry_recorded, Record.id_refunded, hid]
  | minted asset holder amount => exact h.of_registry rfl rfl
  | approved contract owner amount => exact h.of_registry rfl rfl
  | timed time => exact h.of_registry rfl rfl
  | heard l => exact h.of_registry (Feed.stream_listen _ l) rfl

/-- A call that succeeds announces one event, which is about the transfer that it answers with. -/
theorem Effect.stream_of_ok {r : Record} (he : Effect c a (some (.ok r)) c') (hk : c.Keyed) :
    ∃ e, e.transferId = r.id ∧ c'.feed.stream = c.feed.stream ++ [e] := by
  cases he with
  | @locked params attached receipt ledger checked fresh escrowed =>
    exact ⟨_, Event.transferId_ofRecord _, rfl⟩
  | @redeemed params preimage r₀ ledger found isLocked opens inTime released =>
    have hid : r₀.id = params.id := hk _ _ found
    exact ⟨.confirmed params.id preimage, hid.symm, rfl⟩
  | @refunded params r₀ ledger found isLocked expired released =>
    have hid : r₀.id = params.id := hk _ _ found
    exact ⟨.refunded params.id, hid.symm, rfl⟩

theorem Effect.stream_of_not_ok (he : Effect c a reply c') (h : ∀ r, reply ≠ some (.ok r)) :
    c'.feed.stream = c.feed.stream := by
  cases he with
  | refused isCall e => rfl
  | locked checked fresh escrowed => exact absurd rfl (h _)
  | redeemed found isLocked opens inTime released => exact absurd rfl (h _)
  | refunded found isLocked expired released => exact absurd rfl (h _)
  | minted asset holder amount => rfl
  | approved contract owner amount => rfl
  | timed time => rfl
  | heard l => exact Feed.stream_listen _ l

end Chain

def Record.notices (r : Record) : Nat := if r.state = .locked then 1 else 2

theorem Registry.sum_notices (g : Registry) :
    (g.values.map Record.notices).sum = g.size + g.count .redeemed + g.count .refunded := by
  have hlist (records : List Record) :
      (records.map Record.notices).sum
        = records.length + records.countP (fun r => r.state = .redeemed)
          + records.countP (fun r => r.state = .refunded) := by
    induction records with
    | nil => rfl
    | cons r records ih =>
      simp only [List.map_cons, List.sum_cons, List.length_cons, List.countP_cons, ih,
        Record.notices]
      cases r.state <;> simp <;> omega
  rw [hlist, Table.values, List.length_map]
  rfl

namespace Chain

variable {c c' : Chain} {a : Action} {reply : Option (Except TransferError Record)}

/-- A chain whose stream has one event for each transfer and one more for each settled one. -/
def Counted (c : Chain) : Prop :=
  c.feed.stream.length = (c.registry.values.map Record.notices).sum

theorem Counted.of_settle (h : c.Counted) {k : TransferId} {r : Record} (r' : Record)
    (found : c.get? k = some r) (isLocked : r.state = .locked) (isSettled : r'.state ≠ .locked)
    {e : Event} (hregistry : c'.registry = c.registry.set k r')
    (hstream : c'.feed.stream = c.feed.stream ++ [e]) : c'.Counted := by
  have hsum := Table.sum_values_set_of_get?_eq_some Record.notices found r'
  have hone : r.notices = 1 := if_pos isLocked
  have htwo : r'.notices = 2 := if_neg isSettled
  unfold Counted at h ⊢
  rw [hregistry, hstream, List.length_append, List.length_singleton]
  omega

theorem Effect.counted (he : Effect c a reply c') (hk : c.Keyed) (h : c.Counted) : c'.Counted := by
  cases he with
  | refused isCall e => exact h
  | @locked params attached receipt ledger checked fresh escrowed =>
    have hsum := Table.sum_values_set_of_get?_eq_none Record.notices fresh
      (Record.locked params.id params c.now)
    have hone : (Record.locked params.id params c.now).notices = 1 := rfl
    unfold Counted at h ⊢
    rw [stream_recorded, registry_recorded, Record.id_locked, List.length_append, hsum, h, hone]
    rfl
  | @redeemed params preimage r ledger found isLocked opens inTime released =>
    have hid : r.id = params.id := hk _ _ found
    refine h.of_settle (r.redeemed preimage c.now) found isLocked (by simp) ?_ rfl
    rw [registry_recorded, Record.id_redeemed, hid]
  | @refunded params r ledger found isLocked expired released =>
    have hid : r.id = params.id := hk _ _ found
    refine h.of_settle (r.refunded c.now) found isLocked (by simp) ?_ rfl
    rw [registry_recorded, Record.id_refunded, hid]
  | minted asset holder amount => exact h
  | approved contract owner amount => exact h
  | timed time => exact h
  | heard l =>
    unfold Counted
    rw [Feed.stream_listen]
    exact h

end Chain

namespace Origin

variable (o : Origin) (ts : List Turn)

theorem replayed_play : (o.chain.play ts).Replayed := by
  induction ts using List.reverseRecOn with
  | nil => exact ⟨Table.empty, rfl, fun k => rfl⟩
  | append_singleton ts t ih =>
    rw [Chain.play_concat]
    cases t with
    | act a =>
      have hkeyed := (o.identified_play ts).keyed
      exact (Chain.effect_step hkeyed a).replayed hkeyed ih
    | ledger l => exact ih.of_registry rfl rfl

theorem counted_play : (o.chain.play ts).Counted := by
  induction ts using List.reverseRecOn with
  | nil => rfl
  | append_singleton ts t ih =>
    rw [Chain.play_concat]
    cases t with
    | act a =>
      have hkeyed := (o.identified_play ts).keyed
      exact (Chain.effect_step hkeyed a).counted hkeyed ih
    | ledger l => exact ih

/-- The stream is a faithful log of the registry. After every run, whatever others do to the ledger,
the announcements taken up in order fit one after the other, and they end with the parameters, the
state and the preimage of every record, under its identifier. A call that succeeds announces one
event, and nothing else announces any; so there are as many as transfers, and one more for each that
was redeemed or refunded. -/
theorem stream_replays :
    (∃ m, Replica.replay (o.chain.play ts).feed.stream = some m ∧
        ∀ k, m.get? k = ((o.chain.play ts).get? k).map Copy.ofRecord) ∧
      (∀ a r, (o.chain.play ts).reply a = some (.ok r) →
        ∃ e, e.transferId = r.id ∧
          ((o.chain.play ts).step a).feed.stream = (o.chain.play ts).feed.stream ++ [e]) ∧
      (∀ a, (∀ r, (o.chain.play ts).reply a ≠ some (.ok r)) →
        ((o.chain.play ts).step a).feed.stream = (o.chain.play ts).feed.stream) ∧
      (o.chain.play ts).feed.published
        = (o.chain.play ts).registry.size + (o.chain.play ts).registry.count .redeemed
          + (o.chain.play ts).registry.count .refunded := by
  have hkeyed := (o.identified_play ts).keyed
  refine ⟨o.replayed_play ts, ?_, ?_, ?_⟩
  · intro a r hreply
    have heffect := Chain.effect_step hkeyed a
    rw [hreply] at heffect
    exact heffect.stream_of_ok hkeyed
  · intro a hnone
    exact (Chain.effect_step hkeyed a).stream_of_not_ok hnone
  · rw [← Registry.sum_notices]
    exact o.counted_play ts

end Origin

end AtomicSwap
