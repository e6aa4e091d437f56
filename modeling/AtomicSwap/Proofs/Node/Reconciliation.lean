import AtomicSwap.Proofs.Node.Watch

/-!
The counts of a watched chain and its registry. Calls, answers that are noted and the observer's
reading may be mixed in whatever way: once the observer has read to the end, the counts are those of
the registry. Only the failures are not told apart if their labels share a fingerprint.
-/

set_option autoImplicit false
set_option relaxedAutoImplicit false

namespace AtomicSwap.Node.Watch

open Telemetry

/-- The watched chain after some moves, when the observer has read on once more. -/
def caughtUp (w : Watch) (ms : List Move) : Watch := w.run (ms ++ [.drain])

/-- The counts of a chain, but for those of its failures. -/
def ownCounts (label : String) : List (Family × List String) :=
  [(.locked, [label, Leg.outbound.name]), (.locked, [label, Leg.inbound.name]),
    (.confirmed, [label]), (.refunded, [label]), (.escrowed, [label])]
    ++ Event.names.map fun name => (.observed, [label, name])

/-- A new chain is watched as it should be: its observer keeps up, each answer is noted, its counts
start at zero and are left to it, and fewer events are published than a count can hold. -/
structure Attended (w : Watch) (label : String) (ms : List Move) : Prop where
  deployed : ∃ config custodian, w.host = .deploy label config custodian
  keeps : w.Throughout Keeps (ms ++ [.drain])
  noted : w.Noted (ms ++ [.drain])
  owns : ∀ p ∈ ownCounts label, w.Owns (ms ++ [.drain]) p
  bounded : (w.caughtUp ms).host.chain.feed.published < 2 ^ 53

theorem Owns.value_run {w : Watch} {ms : List Move} {p : Family × List String} (h : w.Owns ms p)
    (hfamily : p.1 ≠ .escrowed) :
    (w.run ms).counters.value p.1 p.2
      = min ((w.incrementsIn ms).countP fun q => key q = key p) (2 ^ 53) := by
  have hzero : w.counters.valueAt (key p) = 0 := h.zero
  have hrun := valueAt_run hfamily h.spared (by omega)
  rw [hzero, Nat.zero_add] at hrun
  exact hrun

namespace Attended

variable {w : Watch} {label : String} {ms : List Move}

theorem label_eq (h : w.Attended label ms) : w.host.label = label := by
  obtain ⟨config, custodian, hdeploy⟩ := h.deployed
  rw [hdeploy]
  rfl

theorem sound (h : w.Attended label ms) : w.Sound [] := by
  obtain ⟨config, custodian, hdeploy⟩ := h.deployed
  exact sound_deploy hdeploy

theorem tallied (h : w.Attended label ms) : (w.caughtUp ms).host.chain.Tallied :=
  (h.sound.run h.keeps).tallied

theorem stream_eq (h : w.Attended label ms) :
    (w.caughtUp ms).host.chain.feed.stream = w.shownIn (ms ++ [.drain]) := by
  obtain ⟨hinit, hlast⟩ := throughout_concat.1 h.keeps
  have hparted := (h.sound.run hinit).drain hlast
  rw [caughtUp, run_concat, hparted.stream, shownIn_concat, List.nil_append, List.append_nil]

theorem value_events (h : w.Attended label ms) {p : Family × List String} (hp : p ∈ ownCounts label)
    (hfamily : p.1 ≠ .escrowed ∧ p.1 ≠ .failures) {q : Event → Prop} [DecidablePred q]
    (hq : ∀ e : Event, (e.counts label).countP (fun r => key r = key p) = if q e then 1 else 0) :
    (w.caughtUp ms).counters.value p.1 p.2
      = (w.caughtUp ms).host.chain.feed.stream.countP fun e => q e := by
  have hle : (w.caughtUp ms).host.chain.feed.stream.countP (fun e => q e)
      ≤ (w.caughtUp ms).host.chain.feed.published := List.countP_le_length
  have hbounded := h.bounded
  have hvalue := (h.owns p hp).value_run hfamily.1
  rw [countP_incrementsIn_events w _ hfamily.2, h.label_eq, ← h.stream_eq,
    countP_flatMap_counts hq] at hvalue
  exact hvalue.trans (Nat.min_eq_left (by omega))

theorem value_locked (h : w.Attended label ms) (leg : Leg) :
    (w.caughtUp ms).counters.value .locked [label, leg.name]
      = (w.caughtUp ms).host.chain.registry.values.countP fun r => r.leg = leg := by
  have hmem : (.locked, [label, leg.name]) ∈ ownCounts label := by
    cases leg <;> simp [ownCounts]
  rw [← h.tallied.locks]
  exact h.value_events hmem (by simp) (countP_counts_locked label leg)

theorem value_settled (h : w.Attended label ms) {s : State} (hs : s ≠ .locked) :
    (w.caughtUp ms).counters.value (.ofState s) [label]
      = (w.caughtUp ms).host.chain.registry.count s := by
  have hmem : (.ofState s, [label]) ∈ ownCounts label := by
    cases s <;> simp [ownCounts, Family.ofState]
  have hfamily : Family.ofState s ≠ .escrowed ∧ Family.ofState s ≠ .failures := by
    cases s <;> simp_all [Family.ofState]
  rw [← h.tallied.settlements s hs]
  exact h.value_events hmem hfamily (countP_counts_settled label hs)

theorem sum_observed (h : w.Attended label ms) :
    (∑ k ∈ (Event.names.map fun name => key (.observed, [label, name])).toFinset,
      (w.caughtUp ms).counters.valueAt k) = (w.caughtUp ms).host.chain.feed.published := by
  rw [Feed.published, ← sum_countP_observed label]
  refine Finset.sum_congr rfl ?_
  intro k hk
  obtain ⟨name, hname, rfl⟩ := List.mem_map.1 (List.mem_toFinset.1 hk)
  have hmem : (.observed, [label, name]) ∈ ownCounts label :=
    List.mem_append_right _ (List.mem_map_of_mem hname)
  exact h.value_events hmem (by simp) (countP_counts_observed label name)

/-- The failures counted under an operation and a code are those whose labels share the fingerprint. -/
theorem value_failures (h : w.Attended label ms) {operation code : String}
    (howns : w.Owns (ms ++ [.drain]) (.failures, [label, operation, code]))
    (hbound : ((failures label ms).countP fun l =>
      fingerprint l = fingerprint [label, operation, code]) < 2 ^ 53) :
    (w.caughtUp ms).counters.value .failures [label, operation, code]
      = (failures label ms).countP fun l => fingerprint l = fingerprint [label, operation, code] := by
  have hvalue := howns.value_run (by simp)
  have hdrain : failures label (ms ++ [.drain]) = failures label ms := by
    rw [failures, List.filterMap_append]
    exact List.append_nil _
  rw [countP_incrementsIn_failures, h.label_eq, hdrain] at hvalue
  exact hvalue.trans (Nat.min_eq_left hbound.le)

theorem value_escrowed (h : w.Attended label ms)
    (hsome : ∃ operation result, .observe operation result ∈ ms) :
    (w.caughtUp ms).counters.value .escrowed [label]
      = (w.caughtUp ms).host.chain.registry.count .locked := by
  obtain ⟨operation, result, hmem⟩ := hsome
  have hsome : ∃ operation result, .observe operation result ∈ ms ++ [.drain] :=
    ⟨operation, result, List.mem_append_left _ hmem⟩
  have howns := h.owns (.escrowed, [label]) (by simp [ownCounts])
  have hsize := h.tallied.size_le
  have hstates := (w.caughtUp ms).host.chain.registry.count_states
  have hbounded := h.bounded
  have hround : Binary64.round ((w.caughtUp ms).host.chain.registry.count .locked)
      = (w.caughtUp ms).host.chain.registry.count .locked := Binary64.round_eq_self (by omega)
  exact (escrowed_run h.label_eq howns.spared h.noted (Or.inl hsome)).trans hround

end Attended

/-- When the observer of an attended chain has read to the end, the counts agree with the registry.
Locks, confirmations and refunds are counted as often as there are records; the events observed, over
the different counts that their names find, are those published; and once an answer was noted, the
transfers in escrow are as many as are locked, which is what the other counts leave. The failures
counted under an operation and a code are those noted whose labels share the fingerprint: just those
of the operation and the code, unless others share it. -/
theorem counts_reconcile {w : Watch} {label : String} {ms : List Move} (h : w.Attended label ms) :
    (∀ leg : Leg, (w.caughtUp ms).counters.value .locked [label, leg.name]
        = (w.caughtUp ms).host.chain.registry.values.countP fun r => r.leg = leg) ∧
      (w.caughtUp ms).counters.value .confirmed [label]
        = (w.caughtUp ms).host.chain.registry.count .redeemed ∧
      (w.caughtUp ms).counters.value .refunded [label]
        = (w.caughtUp ms).host.chain.registry.count .refunded ∧
      (∑ k ∈ (Event.names.map fun name => key (.observed, [label, name])).toFinset,
        (w.caughtUp ms).counters.valueAt k) = (w.caughtUp ms).host.chain.feed.published ∧
      (∀ operation code, w.Owns (ms ++ [.drain]) (.failures, [label, operation, code]) →
        ((failures label ms).countP fun l =>
          fingerprint l = fingerprint [label, operation, code]) < 2 ^ 53 →
        (w.caughtUp ms).counters.value .failures [label, operation, code]
            = ((failures label ms).countP fun l =>
              fingerprint l = fingerprint [label, operation, code]) ∧
          ((∀ l ∈ failures label ms, fingerprint l = fingerprint [label, operation, code] →
              l = [label, operation, code]) →
            (w.caughtUp ms).counters.value .failures [label, operation, code]
              = (failures label ms).count [label, operation, code])) ∧
      ((∃ operation result, .observe operation result ∈ ms) →
        (w.caughtUp ms).counters.value .escrowed [label]
            = (w.caughtUp ms).host.chain.registry.count .locked ∧
          (w.caughtUp ms).counters.value .escrowed [label]
              + (w.caughtUp ms).counters.value .confirmed [label]
              + (w.caughtUp ms).counters.value .refunded [label]
            = (w.caughtUp ms).counters.value .locked [label, Leg.outbound.name]
              + (w.caughtUp ms).counters.value .locked [label, Leg.inbound.name]) := by
  have hconfirmed := h.value_settled (s := .redeemed) (by simp)
  have hrefunded := h.value_settled (s := .refunded) (by simp)
  refine ⟨h.value_locked, hconfirmed, hrefunded, h.sum_observed, ?_, ?_⟩
  · intro operation code howns hbound
    have hvalue := h.value_failures howns hbound
    refine ⟨hvalue, ?_⟩
    intro hunshared
    rw [hvalue, List.count]
    refine List.countP_congr ?_
    intro l hl
    simp only [decide_eq_true_eq, beq_iff_eq]
    exact ⟨hunshared l hl, fun heq => heq ▸ rfl⟩
  · intro hsome
    have hescrowed := h.value_escrowed hsome
    have hstates := (w.caughtUp ms).host.chain.registry.count_states
    have hlegs := (w.caughtUp ms).host.chain.registry.count_legs
    simp only [Family.ofState] at hconfirmed hrefunded
    refine ⟨hescrowed, ?_⟩
    rw [hescrowed, hconfirmed, hrefunded, h.value_locked, h.value_locked, hstates, hlegs]

namespace Sample

open AtomicSwap.Sample

/-- A new chain that is watched, with counters that were never touched. -/
def watched (label : String) : Watch :=
  ⟨.deploy label AtomicSwap.Config.standard custodian, Table.empty⟩

def refusedThenLocked : List Move :=
  [.turn (.act (.setTime 10)), .turn (.act (.refund outbound)),
    .observe "refund" (.error (.notFound outbound.id)),
    .turn (.act (.mint .native user (Amount.clamp 10))),
    .turn (.act (.mint (.token contract) user (Amount.clamp 50))),
    .turn (.act (.approve contract user (Amount.clamp 30))),
    .turn (.act (.lock outbound (Amount.clamp 7))),
    .observe "lock_outbound" (.ok (Record.locked outbound.id outbound 10))]

theorem attended_refusedThenLocked : (watched "source").Attended "source" refusedThenLocked where
  deployed := ⟨_, _, rfl⟩
  keeps := by
    simp only [refusedThenLocked, List.cons_append, List.nil_append, Throughout, Keeps, true_and,
      and_true]
    decide +kernel
  noted := by
    simp only [refusedThenLocked, List.cons_append, List.nil_append, Noted, and_true]
    exact ⟨notes_of_none rfl, notes_of_mem List.mem_cons_self rfl, trivial, notes_of_none rfl,
      notes_of_none rfl, notes_of_none rfl, notes_of_mem List.mem_cons_self rfl, trivial, trivial⟩
  owns p hp := ⟨rfl, by simp [refusedThenLocked, Throughout, Spares]⟩
  bounded := by decide +kernel

/-- A confirmation and a refund of a transfer that is not known. -/
def refusals : List Move :=
  [.turn (.act (.confirm outbound preimage)),
    .observe "confirm" (.error (.notFound outbound.id)), .turn (.act (.refund outbound)),
    .observe "refund" (.error (.notFound outbound.id))]

/-- A label under which confirmations and refunds that fail alike share a fingerprint. -/
def ambiguous : String := "src-6wx8z2lgrhyl"

theorem attended_refusals : (watched ambiguous).Attended ambiguous refusals where
  deployed := ⟨_, _, rfl⟩
  keeps := by
    simp only [refusals, List.cons_append, List.nil_append, Throughout, Keeps, true_and, and_true]
    decide +kernel
  noted := by
    simp only [refusals, List.cons_append, List.nil_append, Noted, and_true]
    exact ⟨notes_of_mem List.mem_cons_self rfl, trivial, notes_of_mem List.mem_cons_self rfl,
      trivial, trivial⟩
  owns p hp := ⟨rfl, by simp [refusals, Throughout, Spares]⟩
  bounded := by decide +kernel

end Sample

theorem counts_reconcile_refusedThenLocked :
    (Sample.watched "source").Attended "source" Sample.refusedThenLocked ∧
      (Sample.watched "source").Owns (Sample.refusedThenLocked ++ [.drain])
        (.failures, ["source", "refund", "not_found"]) ∧
      ((Sample.watched "source").caughtUp Sample.refusedThenLocked).counters.value .locked
        ["source", "outbound"] = 1 ∧
      ((Sample.watched "source").caughtUp Sample.refusedThenLocked).counters.value .failures
        ["source", "refund", "not_found"] = 1 ∧
      ((Sample.watched "source").caughtUp Sample.refusedThenLocked).counters.value .escrowed
        ["source"] = 1 := by
  have howns : (Sample.watched "source").Owns (Sample.refusedThenLocked ++ [.drain])
      (.failures, ["source", "refund", "not_found"]) :=
    ⟨rfl, by simp [Sample.refusedThenLocked, Throughout, Spares]⟩
  obtain ⟨hlocked, -, -, -, hfailures, hescrowed⟩ :=
    counts_reconcile Sample.attended_refusedThenLocked
  obtain ⟨hfailures, -⟩ := hfailures "refund" "not_found" howns (by decide +kernel)
  have hsome : .observe "refund" (.error (.notFound Sample.outbound.id))
      ∈ Sample.refusedThenLocked := by
    simp [Sample.refusedThenLocked]
  obtain ⟨hescrowed, -⟩ := hescrowed ⟨_, _, hsome⟩
  refine ⟨Sample.attended_refusedThenLocked, howns, ?_, ?_, ?_⟩
  · exact (hlocked .outbound).trans (by decide +kernel)
  · exact hfailures.trans (by decide +kernel)
  · exact hescrowed.trans (by decide +kernel)

/-- With an unlucky label, the one confirmation that failed is counted together with the one refund
that failed. -/
theorem failures_share_a_count :
    (Sample.watched Sample.ambiguous).Attended Sample.ambiguous Sample.refusals ∧
      (Sample.watched Sample.ambiguous).Owns (Sample.refusals ++ [.drain])
        (.failures, [Sample.ambiguous, "confirm", "not_found"]) ∧
      (failures Sample.ambiguous Sample.refusals).count [Sample.ambiguous, "confirm", "not_found"]
        = 1 ∧
      ((Sample.watched Sample.ambiguous).caughtUp Sample.refusals).counters.value .failures
        [Sample.ambiguous, "confirm", "not_found"] = 2 := by
  refine ⟨Sample.attended_refusals, ⟨rfl, ?_⟩, ?_, ?_⟩
  · simp [Sample.refusals, Throughout, Spares]
  · decide +kernel
  · decide +kernel

end AtomicSwap.Node.Watch
