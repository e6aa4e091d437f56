import AtomicSwap.Proofs.Tallies
import AtomicSwap.Telemetry.Counters
import Mathlib.Algebra.BigOperators.Group.Finset.Piecewise
import Mathlib.Data.Nat.Bitwise

/-!
What a count comes to. A counter that is incremented goes up by one until it stands still at
`2 ^ 53`, and with it does every other whose labels share its fingerprint. Nothing is assumed of the
fingerprint; but its lowest bit is the sum of the lowest bits of all bytes, which is enough to tell
the locks of the two halves apart whatever the label of the chain.
-/

set_option autoImplicit false
set_option relaxedAutoImplicit false

namespace AtomicSwap

namespace Binary64

theorem excess_eq_zero {n : Nat} (h : n < 2 ^ 53) : excess n = 0 := by
  have hlog : n.log2 < 53 := by
    by_cases hzero : n = 0
    · subst hzero
      decide
    · exact (Nat.log2_lt hzero).2 h
  rw [excess, precision]
  omega

theorem round_eq_self {n : Nat} (h : n < 2 ^ 53) : round n = n := by
  simp only [round, excess_eq_zero h, roundDiv, Nat.pow_zero, Nat.mod_one, Nat.div_one,
    Nat.mul_one]
  rfl

theorem round_succ {n : Nat} (h : n ≤ 2 ^ 53) : round (n + 1) = min (n + 1) (2 ^ 53) := by
  rcases Nat.lt_or_ge (n + 1) (2 ^ 53) with hlt | hge
  · rw [round_eq_self hlt, Nat.min_eq_left (by omega)]
  · rw [Nat.min_eq_right hge]
    obtain rfl | rfl : n = 2 ^ 53 - 1 ∨ n = 2 ^ 53 := by omega
    · decide +kernel
    · decide +kernel

end Binary64

namespace Fingerprint

theorem toNat_absorb_mod_two (h : UInt64) (b : UInt8) :
    (absorb h b).toNat % 2 = (h.toNat + b.toNat) % 2 := by
  have hprime : prime.toNat % 2 = 1 := by decide
  rw [absorb, UInt64.toNat_mul, Nat.mod_mod_of_dvd _ (by decide), Nat.mul_mod, hprime,
    Nat.mul_one, Nat.mod_mod, UInt64.toNat_xor, UInt8.toNat_toUInt64, Nat.xor_mod_two_eq]

/-- The lowest bit of a fingerprint is the sum of the lowest bits of all bytes. -/
theorem toNat_extend_mod_two (h : UInt64) (bs : List UInt8) :
    (extend h bs).toNat % 2 = (h.toNat + (bs.map UInt8.toNat).sum) % 2 := by
  induction bs generalizing h with
  | nil => rfl
  | cons b bs ih =>
    have hfirst := toNat_absorb_mod_two h b
    rw [extend, List.foldl_cons, ← extend, ih, List.map_cons, List.sum_cons]
    omega

end Fingerprint

namespace Telemetry

theorem fingerprint_append (labels labels' : List String) :
    fingerprint (labels ++ labels')
      = Fingerprint.extend (fingerprint labels) (Text.encode (labels'.flatMap String.toList)) := by
  rw [fingerprint, fingerprint, List.flatMap_append, Text.encode, List.flatMap_append,
    Fingerprint.ofBytes, Fingerprint.extend_append]
  rfl

/-- Whatever the label of a chain, the locks of its two halves are counted apart. -/
theorem fingerprint_outbound_ne_inbound (label : String) :
    fingerprint [label, "outbound"] ≠ fingerprint [label, "inbound"] := by
  have hlow (s : String) : (fingerprint [label, s]).toNat % 2
      = ((fingerprint [label]).toNat + ((Text.encode s.toList).map UInt8.toNat).sum) % 2 := by
    have happend := fingerprint_append [label] [s]
    rw [List.flatMap_singleton] at happend
    rw [← Fingerprint.toNat_extend_mod_two, ← happend]
    rfl
  -- Four of the bytes of the one word are odd, three of those of the other.
  have houtbound : ((Text.encode "outbound".toList).map UInt8.toNat).sum % 2 = 0 := by
    decide +kernel
  have hinbound : ((Text.encode "inbound".toList).map UInt8.toNat).sum % 2 = 1 := by
    decide +kernel
  intro hsame
  have hoff := hlow "outbound"
  rw [hsame, hlow "inbound"] at hoff
  omega

def Family.ofState : State → Family
  | .locked => escrowed
  | .redeemed => confirmed
  | .refunded => refunded

/-- Under what a family keeps the count that some labels find. -/
def key (p : Family × List String) : Family × UInt64 := (p.1, fingerprint p.2)

namespace Counters

/-- The value under a key, zero if no count was touched. -/
def valueAt (c : Counters) (k : Family × UInt64) : Nat := ((c.get? k).map Sample.value).getD 0

theorem value_eq_valueAt (c : Counters) (p : Family × List String) :
    c.value p.1 p.2 = c.valueAt (key p) := rfl

theorem valueAt_setValue (c : Counters) (p : Family × List String) (value : Nat)
    (k : Family × UInt64) :
    (c.setValue p.1 p.2 value).valueAt k = if key p = k then value else c.valueAt k := by
  rw [setValue, valueAt, Table.get?_set]
  split_ifs with h h' h'
  · rfl
  · exact absurd h h'
  · exact absurd h' h
  · rfl

theorem valueAt_increment (c : Counters) (p : Family × List String) {k : Family × UInt64}
    (h : c.valueAt k ≤ 2 ^ 53) :
    (c.increment p.1 p.2).valueAt k
      = min (c.valueAt k + if key p = k then 1 else 0) (2 ^ 53) := by
  rw [increment, valueAt_setValue, value_eq_valueAt]
  split_ifs with hkey
  · rw [hkey, Binary64.round_succ h]
  · exact (Nat.min_eq_left h).symm

theorem valueAt_increment_of_ne (c : Counters) {p : Family × List String} {k : Family × UInt64}
    (h : key p ≠ k) : (c.increment p.1 p.2).valueAt k = c.valueAt k := by
  rw [increment, valueAt_setValue, if_neg h]

def incrementAll (c : Counters) (ps : List (Family × List String)) : Counters :=
  ps.foldl (fun c p => c.increment p.1 p.2) c

theorem incrementAll_append (c : Counters) (ps qs : List (Family × List String)) :
    c.incrementAll (ps ++ qs) = (c.incrementAll ps).incrementAll qs :=
  List.foldl_append

/-- A count goes up by the number of labels that share its key, and stands still at `2 ^ 53`. -/
theorem valueAt_incrementAll {c : Counters} (ps : List (Family × List String))
    {k : Family × UInt64} (h : c.valueAt k ≤ 2 ^ 53) :
    (c.incrementAll ps).valueAt k
      = min (c.valueAt k + ps.countP fun p => key p = k) (2 ^ 53) := by
  induction ps generalizing c with
  | nil => exact (Nat.min_eq_left h).symm
  | cons p ps ih =>
    have hfirst := c.valueAt_increment p h
    have hbound : (c.increment p.1 p.2).valueAt k ≤ 2 ^ 53 := by
      rw [hfirst]
      exact Nat.min_le_right _ _
    rw [incrementAll, List.foldl_cons, ← incrementAll, ih hbound, hfirst, List.countP_cons]
    simp only [decide_eq_true_eq]
    omega

theorem valueAt_incrementAll_of_ne (c : Counters) {ps : List (Family × List String)}
    {k : Family × UInt64} (h : ∀ p ∈ ps, key p ≠ k) : (c.incrementAll ps).valueAt k = c.valueAt k := by
  induction ps generalizing c with
  | nil => rfl
  | cons p ps ih =>
    rw [incrementAll, List.foldl_cons, ← incrementAll,
      ih (c.increment p.1 p.2) fun q hq => h q (List.mem_cons_of_mem p hq)]
    exact c.valueAt_increment_of_ne (h p List.mem_cons_self)

end Counters

end Telemetry

namespace Event

def names : List String :=
  ["transfer_out", "transfer_in", "transfer_confirmed", "transfer_refunded"]

theorem name_mem_names (e : Event) : e.name ∈ names := by
  cases e <;> simp [name, names]

/-- The counts that go up when an event is observed on a chain. -/
def counts (label : String) (e : Event) : List (Telemetry.Family × List String) :=
  (.observed, [label, e.name]) :: match e with
    | outboundLocked _ => [(.locked, [label, Leg.outbound.name])]
    | inboundLocked _ => [(.locked, [label, Leg.inbound.name])]
    | confirmed _ _ => [(.confirmed, [label])]
    | refunded _ => [(.refunded, [label])]

theorem family_of_mem_counts {label : String} {e : Event} {p : Telemetry.Family × List String}
    (h : p ∈ e.counts label) : p.1 ≠ .escrowed ∧ p.1 ≠ .failures := by
  cases e <;> simp only [counts, List.mem_cons, List.not_mem_nil, or_false] at h <;>
    rcases h with rfl | rfl <;> simp

theorem family_of_mem_flatMap_counts {label : String} {events : List Event}
    {p : Telemetry.Family × List String} (h : p ∈ events.flatMap (counts label)) :
    p.1 ≠ .escrowed ∧ p.1 ≠ .failures := by
  obtain ⟨e, -, hp⟩ := List.mem_flatMap.1 h
  exact family_of_mem_counts hp

end Event

namespace Telemetry

theorem Counters.countEvent_eq (c : Counters) (label : String) (e : Event) :
    c.countEvent label e.name = c.incrementAll (e.counts label) := by
  cases e <;> rfl

theorem countP_counts_locked (label : String) (leg : Leg) (e : Event) :
    (e.counts label).countP (fun p => key p = key (.locked, [label, leg.name]))
      = if e.lockedLeg? = some leg then 1 else 0 := by
  have hne := fingerprint_outbound_ne_inbound label
  cases e <;> cases leg <;> simp [Event.counts, Event.lockedLeg?, key, Leg.name, hne, hne.symm]

theorem countP_counts_settled (label : String) {s : State} (h : s ≠ .locked) (e : Event) :
    (e.counts label).countP (fun p => key p = key (.ofState s, [label]))
      = if e.settledState? = some s then 1 else 0 := by
  cases s with
  | locked => exact absurd rfl h
  | redeemed => cases e <;> simp [Event.counts, Event.settledState?, Family.ofState, key]
  | refunded => cases e <;> simp [Event.counts, Event.settledState?, Family.ofState, key]

theorem countP_counts_observed (label name : String) (e : Event) :
    (e.counts label).countP (fun p => key p = key (.observed, [label, name]))
      = if key (.observed, [label, e.name]) = key (.observed, [label, name]) then 1 else 0 := by
  cases e <;> simp [Event.counts, List.countP_cons, key]

theorem countP_flatMap_counts {label : String} {k : Family × UInt64} {q : Event → Prop}
    [DecidablePred q] (h : ∀ e : Event, (e.counts label).countP (fun p => key p = k) = if q e then 1 else 0)
    (events : List Event) :
    (events.flatMap (Event.counts label)).countP (fun p => key p = k) = events.countP q := by
  induction events with
  | nil => rfl
  | cons e events ih =>
    rw [List.flatMap_cons, List.countP_append, List.countP_cons, h, ih, Nat.add_comm]
    simp only [decide_eq_true_eq]

/-- The events observed on a chain, summed over the different counts that their names find. -/
theorem sum_countP_observed (label : String) (events : List Event) :
    (∑ k ∈ (Event.names.map fun name => key (.observed, [label, name])).toFinset,
      events.countP fun e => key (.observed, [label, e.name]) = k) = events.length := by
  induction events with
  | nil => simp
  | cons e events ih =>
    have hmem : key (.observed, [label, e.name])
        ∈ (Event.names.map fun name => key (.observed, [label, name])).toFinset :=
      List.mem_toFinset.2 (List.mem_map_of_mem e.name_mem_names)
    simp only [List.countP_cons, decide_eq_true_eq, Finset.sum_add_distrib, ih, Finset.sum_ite_eq,
      if_pos hmem, List.length_cons]

end Telemetry

end AtomicSwap
