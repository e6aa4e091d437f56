import AtomicSwap.Proofs.Stream
import AtomicSwap.Proofs.TableSum

/-!
The registry in numbers, read off the stream: as many locks of a half were announced as there are
records of it, and as many confirmations and refunds as there are records that were redeemed and
refunded.
-/

set_option autoImplicit false
set_option relaxedAutoImplicit false

namespace AtomicSwap

namespace Table

variable {α β : Type} (p : β → Bool)

theorem countP_values (t : Table α β) :
    t.values.countP p = (t.values.map fun v => if p v then 1 else 0).sum := by
  generalize t.values = l
  induction l with
  | nil => rfl
  | cons v l ih => rw [List.countP_cons, ih, List.map_cons, List.sum_cons, Nat.add_comm]

variable [DecidableEq α]

theorem countP_values_set_of_get?_eq_none {t : Table α β} {k : α} (h : t.get? k = none) (v : β) :
    (t.set k v).values.countP p = t.values.countP p + if p v then 1 else 0 := by
  rw [countP_values, countP_values]
  exact sum_values_set_of_get?_eq_none _ h v

theorem countP_values_set_of_get?_eq_some {t : Table α β} {k : α} {v₀ : β} (h : t.get? k = some v₀)
    (v : β) :
    (t.set k v).values.countP p + (if p v₀ then 1 else 0)
      = t.values.countP p + if p v then 1 else 0 := by
  rw [countP_values, countP_values]
  exact sum_values_set_of_get?_eq_some _ h v

end Table

namespace Event

/-- The half of which an event announces a lock. -/
def lockedLeg? : Event → Option Leg
  | outboundLocked _ => some .outbound
  | inboundLocked _ => some .inbound
  | confirmed _ _ => none
  | refunded _ => none

/-- The state to which an event announces a settlement. -/
def settledState? : Event → Option State
  | outboundLocked _ => none
  | inboundLocked _ => none
  | confirmed _ _ => some .redeemed
  | refunded _ => some .refunded

theorem lockedLeg?_ofRecord (r : Record) : (ofRecord r).lockedLeg? = some r.leg := by
  obtain ⟨id, ⟨terms, route⟩, state, createdAt, settledAt, preimage⟩ := r
  cases route <;> rfl

theorem settledState?_ofRecord (r : Record) : (ofRecord r).settledState? = none := by
  obtain ⟨id, ⟨terms, route⟩, state, createdAt, settledAt, preimage⟩ := r
  cases route <;> rfl

end Event

namespace Chain

variable {c c' : Chain} {a : Action} {reply : Option (Except TransferError Record)}

/-- The stream of the chain tells how many records of either half there are, and how many in either
state that a settlement leads to. -/
structure Tallied (c : Chain) : Prop where
  locks : ∀ leg, c.feed.stream.countP (fun e => e.lockedLeg? = some leg)
    = c.registry.values.countP fun r => r.leg = leg
  settlements : ∀ s, s ≠ .locked →
    c.feed.stream.countP (fun e => e.settledState? = some s) = c.registry.count s

theorem Tallied.of_registry (h : c.Tallied) (hstream : c'.feed.stream = c.feed.stream)
    (hregistry : c'.registry = c.registry) : c'.Tallied where
  locks leg := by
    rw [hstream, hregistry]
    exact h.locks leg
  settlements s hs := by
    rw [hstream, hregistry]
    exact h.settlements s hs

theorem Tallied.of_lock (h : c.Tallied) {k : TransferId} (r : Record) (fresh : c.get? k = none)
    (isLocked : r.state = .locked) (hregistry : c'.registry = c.registry.set k r)
    (hstream : c'.feed.stream = c.feed.stream ++ [.ofRecord r]) : c'.Tallied where
  locks leg := by
    rw [hregistry, hstream, List.countP_append, List.countP_singleton, Event.lockedLeg?_ofRecord,
      Table.countP_values_set_of_get?_eq_none _ fresh, h.locks]
    simp only [Option.some.injEq]
  settlements s hs := by
    have hcount := Table.countP_values_set_of_get?_eq_none (fun r : Record => r.state = s) fresh r
    rw [if_neg (by simpa [isLocked] using hs.symm)] at hcount
    rw [hregistry, hstream, List.countP_append, List.countP_singleton,
      Event.settledState?_ofRecord, h.settlements s hs]
    exact hcount.symm

theorem Tallied.of_settle (h : c.Tallied) {k : TransferId} {r : Record} (r' : Record)
    (found : c.get? k = some r) (isLocked : r.state = .locked) (hleg : r'.leg = r.leg) {e : Event}
    (hlock : e.lockedLeg? = none) (hstate : e.settledState? = some r'.state)
    (hregistry : c'.registry = c.registry.set k r')
    (hstream : c'.feed.stream = c.feed.stream ++ [e]) : c'.Tallied where
  locks leg := by
    have hcount := Table.countP_values_set_of_get?_eq_some (fun r : Record => r.leg = leg) found r'
    rw [hleg, Nat.add_right_cancel_iff] at hcount
    rw [hregistry, hstream, List.countP_append, List.countP_singleton, hlock, hcount, h.locks]
    rfl
  settlements s hs := by
    have hcount := Table.countP_values_set_of_get?_eq_some (fun r : Record => r.state = s) found r'
    rw [if_neg (by simpa [isLocked] using hs.symm)] at hcount
    rw [hregistry, hstream, List.countP_append, List.countP_singleton, hstate, h.settlements s hs]
    simp only [Option.some.injEq]
    exact hcount.symm

theorem Effect.tallied (he : Effect c a reply c') (hk : c.Keyed) (h : c.Tallied) : c'.Tallied := by
  cases he with
  | refused isCall e => exact h
  | @locked params attached receipt ledger checked fresh escrowed =>
    exact h.of_lock (Record.locked params.id params c.now) fresh rfl rfl rfl
  | @redeemed params preimage r ledger found isLocked opens inTime released =>
    have hid : r.id = params.id := hk _ _ found
    refine h.of_settle (r.redeemed preimage c.now) found isLocked rfl rfl rfl ?_ rfl
    rw [registry_recorded, Record.id_redeemed, hid]
  | @refunded params r ledger found isLocked expired released =>
    have hid : r.id = params.id := hk _ _ found
    refine h.of_settle (r.refunded c.now) found isLocked rfl rfl rfl ?_ rfl
    rw [registry_recorded, Record.id_refunded, hid]
  | minted asset holder amount => exact h.of_registry rfl rfl
  | approved contract owner amount => exact h.of_registry rfl rfl
  | timed time => exact h.of_registry rfl rfl
  | heard l => exact h.of_registry (Feed.stream_listen _ l) rfl

theorem Tallied.turn (h : c.Tallied) (hk : c.Keyed) (t : Turn) : (c.turn t).Tallied := by
  cases t with
  | act a => exact (effect_step hk a).tallied hk h
  | ledger l => exact h.of_registry rfl rfl

end Chain

namespace Registry

theorem count_states (g : Registry) :
    g.count .locked + g.count .redeemed + g.count .refunded = g.size := by
  have hlist (records : List Record) :
      records.countP (fun r => r.state = .locked) + records.countP (fun r => r.state = .redeemed)
        + records.countP (fun r => r.state = .refunded) = records.length := by
    induction records with
    | nil => rfl
    | cons r records ih =>
      simp only [List.countP_cons, List.length_cons, ← ih]
      cases r.state <;> simp <;> omega
  rw [Table.size, ← List.length_map (f := Prod.snd)]
  exact hlist g.values

theorem count_legs (g : Registry) :
    g.values.countP (fun r => r.leg = .outbound) + g.values.countP (fun r => r.leg = .inbound)
      = g.size := by
  rw [Table.size, ← List.length_map (f := Prod.snd), ← Table.values]
  generalize g.values = records
  induction records with
  | nil => rfl
  | cons r records ih =>
    simp only [List.countP_cons, List.length_cons, ← ih]
    cases r.leg <;> simp <;> omega

end Registry

theorem Chain.Tallied.size_le {c : Chain} (h : c.Tallied) :
    c.registry.size ≤ c.feed.published := by
  rw [← Registry.count_legs, ← h.locks, ← h.locks, Feed.published]
  generalize c.feed.stream = events
  induction events with
  | nil => exact Nat.le_refl 0
  | cons e events ih =>
    simp only [List.countP_cons, List.length_cons]
    rcases e.lockedLeg? with _ | _ | _ <;> simp <;> omega

end AtomicSwap
