import AtomicSwap.Node.Swap
import AtomicSwap.Proofs.Node.Half

/-!
The course of a swap. Each part of a play is deterministic: whether it comes to its end, what it comes
to and where it leaves the two halves follow from where it found them. The conditions of the parts add
up to that of the whole.
-/

set_option autoImplicit false
set_option relaxedAutoImplicit false

namespace AtomicSwap.Node

open Telemetry (Counters)

/-- Where a swap stands: its two halves, and the number of events seen. -/
structure Course where
  scenario : Scenario
  source : Half
  destination : Half
  eventsSeen : Nat

namespace Course

def half (v : Course) : Side → Half
  | .source => v.source
  | .destination => v.destination

def setHalf (v : Course) (side : Side) (h : Half) : Course :=
  match side with
  | .source => { v with source := h }
  | .destination => { v with destination := h }

def lock (v : Course) (side : Side) : Course := v.setHalf side (v.half side).lock

def confirm (v : Course) (side : Side) (since : Seconds) (preimage : Preimage) : Course :=
  v.setHalf side ((v.half side).confirm since preimage)

def refund (v : Course) (side : Side) (since : Seconds) : Course :=
  v.setHalf side ((v.half side).refund since)

def setTime (v : Course) (side : Side) (time : Seconds) : Course :=
  v.setHalf side ((v.half side).atTime time)

def nextBlock (v : Course) : Course :=
  { v with
    source := v.source.atTime (v.source.now.later Swap.blockSpan)
    destination := v.destination.atTime (v.destination.now.later Swap.blockSpan) }

def read (v : Course) (side : Side) : Course :=
  { v.setHalf side (v.half side).read with
    eventsSeen := v.eventsSeen + (v.half side).unread.length }

/-- What a holder has on a chain of what is swapped on it. -/
def held (v : Course) (side : Side) (holder : Address) : Amount :=
  if holder = (v.half side).holder then
    Amount.clamp ((v.half side).params.terms.portion (Swap.assetOn v.scenario side))
  else 0

def report (v : Course) (outbound : Record) (inbound : Option Record) : Report where
  scenario := v.scenario
  outbound := outbound
  inbound := inbound
  userReceived := v.held .destination Swap.user
  providerReceived := v.held .source Swap.provider
  userLeft := v.held .source Swap.user
  eventsSeen := v.eventsSeen

end Course

/-- The chains of a swap host the halves of a course. Labels and counts are of no account. -/
structure Swap.Follows (s : Swap) (v : Course) : Prop where
  scenario_eq : s.scenario = v.scenario
  source : v.source.On s.source.chain
  destination : v.destination.On s.destination.chain
  eventsSeen_eq : s.eventsSeen = v.eventsSeen

namespace Swap.Follows

variable {s : Swap} {v : Course}

theorem node (hs : s.Follows v) (side : Side) : (v.half side).On (s.node side).chain := by
  cases side with
  | source => exact hs.source
  | destination => exact hs.destination

theorem setNode (hs : s.Follows v) (side : Side) {h : Half} (i : HostedChain) (hi : h.On i.chain)
    (counters : Counters) :
    Follows { s.setNode side i with counters := counters } (v.setHalf side h) := by
  cases side with
  | source => exact ⟨hs.scenario_eq, hi, hs.destination, hs.eventsSeen_eq⟩
  | destination => exact ⟨hs.scenario_eq, hs.source, hi, hs.eventsSeen_eq⟩

theorem nextBlock (hs : s.Follows v) : s.nextBlock.Follows v.nextBlock :=
  ⟨hs.scenario_eq, hs.source.advance blockSpan, hs.destination.advance blockSpan, hs.eventsSeen_eq⟩

theorem setTime (hs : s.Follows v) (time : Seconds) :
    Follows { s with source := { s.source with chain := s.source.chain.setTime time } }
      (v.setTime .source time) :=
  ⟨hs.scenario_eq, hs.source.setTime time, hs.destination, hs.eventsSeen_eq⟩

theorem held_eq (hs : s.Follows v) (side : Side) (holder : Address) :
    s.held side holder = v.held side holder := by
  have hlt := (s.held side holder).isLt
  have hfunds := (hs.node side).funds (assetOn v.scenario side) holder
  rw [← hs.scenario_eq] at hfunds
  change (s.held side holder).toNat = _ at hfunds
  apply Amount.ext
  unfold Course.held
  rw [← hs.scenario_eq]
  split_ifs at hfunds ⊢ with hholder
  · rw [Amount.toNat_clamp, ← hfunds]
    omega
  · exact hfunds

theorem report_eq (hs : s.Follows v) (outbound : Record) (inbound : Option Record) :
    s.report outbound inbound = v.report outbound inbound := by
  simp only [report, Course.report, hs.held_eq, hs.scenario_eq, hs.eventsSeen_eq]

end Swap.Follows

namespace Play

variable {α β : Type}

/-- From every swap that follows the course `v`, a part of a play comes to its end exactly if `p`
holds. Then it comes to `a`, and the swap follows the course `v'`. -/
structure Comes (v : Course) (x : Play α) (p : Prop) (a : α) (v' : Course) : Prop where
  ends : ∀ s, s.Follows v → p → ∃ s', x.run s = (.ok a, s') ∧ s'.Follows v'
  fails : ∀ s, s.Follows v → ¬p → ∃ e s', x.run s = (.error e, s')

variable {v v' v'' : Course} {p q : Prop} {a : α} {b : β}

theorem comes_pure (v : Course) (a : α) : Comes v (pure a) True a v where
  ends s hs _ := ⟨s, rfl, hs⟩
  fails _ _ hfalse := absurd trivial hfalse

theorem comes_throw (v v' : Course) (e : Failure) (a : α) : Comes v (throw e) False a v' where
  ends _ _ hfalse := hfalse.elim
  fails s _ _ := ⟨e, s, rfl⟩

theorem Comes.congr {x : Play α} (h : x.Comes v p a v') (hiff : p ↔ q) : x.Comes v q a v' :=
  propext hiff ▸ h

/-- A part does what is left of it once its first step is made. What is left may depend on the swap. -/
private theorem Comes.of_run_eq {x : Play α}
    (hrun : ∀ s, s.Follows v → ∃ (y : Play α) (s' : Swap),
      y.Comes v' q a v'' ∧ s'.Follows v' ∧ x.run s = y.run s') :
    x.Comes v q a v'' where
  ends s hs hq := by
    obtain ⟨y, s', hy, hs', hsame⟩ := hrun s hs
    rw [hsame]
    exact hy.ends s' hs' hq
  fails s hs hq := by
    obtain ⟨y, s', hy, hs', hsame⟩ := hrun s hs
    rw [hsame]
    exact hy.fails s' hs' hq

theorem Comes.get {k : Swap → Play β} (hk : ∀ s, s.Follows v → (k s).Comes v q b v') :
    Comes v (get >>= k) q b v' :=
  Comes.of_run_eq fun s hs => ⟨k s, s, hk s hs, hs, rfl⟩

theorem Comes.modify {g : Swap → Swap} {k : Unit → Play β}
    (hg : ∀ s, s.Follows v → (g s).Follows v') (hk : (k ()).Comes v' q b v'') :
    Comes v (modify g >>= k) q b v'' :=
  Comes.of_run_eq fun s hs => ⟨k (), g s, hk, hg s hs, rfl⟩

/-- A call goes on with its record if it passes, and with its error on the same course if not. -/
theorem Comes.call (side : Side) {operation : String} {f : Chain → Outcome Record} {r : Record}
    {h' : Half} (hf : (v.half side).Passes f p r h')
    {k : Except TransferError Record → Play β}
    (hok : p → (k (.ok r)).Comes (v.setHalf side h') q b v')
    (herror : ¬p → ∀ e, (k (.error e)).Comes v q b v') :
    Comes v (Swap.call side operation f >>= k) q b v' := by
  have hrun (s : Swap) :
      (Swap.call side operation f >>= k).run s
        = (k (f (s.node side).chain).1).run
          { s.setNode side { s.node side with chain := (f (s.node side).chain).2 } with
            counters := ((s.node side).call operation f s.counters).2.2 } := rfl
  by_cases hp : p
  · apply Comes.of_run_eq
    intro s hs
    obtain ⟨hanswer, hhalf⟩ := hf.passes _ (hs.node side) hp
    rw [hrun, hanswer]
    exact ⟨k (.ok r), _, hok hp, hs.setNode side { s.node side with chain := _ } hhalf _, rfl⟩
  · apply Comes.of_run_eq
    intro s hs
    obtain ⟨e, hanswer⟩ := hf.refused _ (hs.node side) hp
    rw [hrun, hanswer]
    refine ⟨k (.error e), _, herror hp e, ?_, rfl⟩
    cases side with
    | source => exact ⟨hs.scenario_eq, hs.source, hs.destination, hs.eventsSeen_eq⟩
    | destination => exact ⟨hs.scenario_eq, hs.source, hs.destination, hs.eventsSeen_eq⟩

theorem Comes.succeed (side : Side) {operation : String} {f : Chain → Outcome Record} {r : Record}
    {h' : Half} (hf : (v.half side).Passes f p r h') {step : Step} {k : Record → Play β}
    (hk : (k r).Comes (v.setHalf side h') q b v') :
    Comes v (Swap.call side operation f >>= fun result => Swap.succeed step result >>= k) (p ∧ q) b
      v' := by
  apply Comes.call side hf
  · intro hp
    exact Comes.congr hk (and_iff_right hp).symm
  · intro hp e
    exact Comes.congr (comes_throw v v' (.refused step e) b) (by simp [hp])

theorem Comes.beRefused (side : Side) {operation : String} {f : Chain → Outcome Record} {r : Record}
    {h' : Half} (hf : (v.half side).Passes f p r h') {step : Step} {k : Unit → Play β}
    (hk : (k ()).Comes v q b v') :
    Comes v (Swap.call side operation f >>= fun result => Swap.beRefused step result >>= k) (¬p ∧ q)
      b v' := by
  apply Comes.call side hf
  · intro hp
    exact Comes.congr (comes_throw _ v' (.broken step) b) (by simp [hp])
  · intro hp e
    exact Comes.congr hk (and_iff_right hp).symm

theorem Comes.lock (side : Side) {operation : String} {step : Step} {k : Record → Play β}
    (hfate : (v.half side).fate = .awaited)
    (hk : (k ((v.half side).lockedAt (v.half side).now)).Comes (v.lock side) q b v') :
    Comes v
      (Swap.call side operation
          (fun c => c.lock (v.half side).params (v.half side).params.terms.attachment)
        >>= fun result => Swap.succeed step result >>= k)
      ((v.half side).now < (v.half side).params.terms.timelock ∧ q) b v' :=
  Comes.succeed side (Half.passes_lock hfate) hk

theorem Comes.confirm (side : Side) {operation : String} {step : Step} {k : Record → Play β}
    {since : Seconds} {preimage : Preimage} (hfate : (v.half side).fate = .locked since)
    (hk : (k (((v.half side).lockedAt since).redeemed preimage (v.half side).now)).Comes
      (v.confirm side since preimage) q b v') :
    Comes v
      (Swap.call side operation (fun c => c.confirm (v.half side).params preimage)
        >>= fun result => Swap.succeed step result >>= k)
      (((v.half side).config.scheme.hashlock preimage = (v.half side).params.terms.hashlock ∧
        (v.half side).now < (v.half side).params.terms.timelock) ∧ q)
      b v' :=
  Comes.succeed side (Half.passes_confirm hfate preimage) hk

theorem Comes.refund (side : Side) {operation : String} {step : Step} {k : Record → Play β}
    {since : Seconds} (hfate : (v.half side).fate = .locked since)
    (hk : (k (((v.half side).lockedAt since).refunded (v.half side).now)).Comes
      (v.refund side since) q b v') :
    Comes v
      (Swap.call side operation (fun c => c.refund (v.half side).params)
        >>= fun result => Swap.succeed step result >>= k)
      ((v.half side).params.terms.timelock ≤ (v.half side).now ∧ q) b v' :=
  Comes.succeed side (Half.passes_refund hfate) hk

theorem Comes.drain (side : Side) (hone : (v.half side).unread.length ≤ 1)
    {k : List Event → Play β} (hk : (k (v.half side).unread).Comes (v.read side) q b v') :
    Comes v (Swap.drain side >>= k) q b v' := by
  have hrun (s : Swap) :
      (Swap.drain side >>= k).run s
        = (k ((s.node side).drain s.counters).1).run
          { s.setNode side ((s.node side).drain s.counters).2.1 with
            counters := ((s.node side).drain s.counters).2.2
            eventsSeen := s.eventsSeen + ((s.node side).drain s.counters).1.length } := rfl
  apply Comes.of_run_eq
  intro s hs
  obtain ⟨hevents, hhalf⟩ := (hs.node side).drain hone
  have hset := hs.setNode side ((s.node side).drain s.counters).2.1 hhalf
    ((s.node side).drain s.counters).2.2
  have hseen := congrArg (· + (v.half side).unread.length) hs.eventsSeen_eq
  change ((s.node side).drain s.counters).1 = _ at hevents
  rw [hrun, hevents]
  refine ⟨k _, _, hk, ?_, rfl⟩
  exact ⟨hset.scenario_eq, hset.source, hset.destination, hseen⟩

theorem comes_report (v : Course) (outbound : Record) (inbound : Option Record) :
    Comes v (get >>= fun s => pure (s.report outbound inbound)) True (v.report outbound inbound)
      v := by
  apply Comes.get
  intro s hs
  rw [hs.report_eq]
  exact comes_pure v _

theorem Comes.check {step : Step} {result : Except Answer.Mismatch Unit}
    (hresult : result = .ok () ↔ p) {k : Unit → Play β} (hk : (k ()).Comes v q b v') :
    Comes v (Swap.agree step result >>= k) (p ∧ q) b v' := by
  cases result with
  | ok u => exact Comes.congr hk (and_iff_right (hresult.1 rfl)).symm
  | error e =>
    have hp : ¬p := fun hp => by cases hresult.2 hp
    exact Comes.congr (comes_throw v v' (.mismatched step e) b) (by simp [hp])

theorem Comes.agree {step : Step} {result : Except Answer.Mismatch α} (hresult : result = .ok a)
    {k : α → Play β} (hk : (k a).Comes v q b v') :
    Comes v (Swap.agree step result >>= k) q b v' := by
  rw [hresult]
  exact hk

theorem Comes.expect {step : Step} {found : Option α} (hfound : found = some a) {k : α → Play β}
    (hk : (k a).Comes v q b v') : Comes v (Swap.expect step found >>= k) q b v' := by
  rw [hfound]
  exact hk

end Play

end AtomicSwap.Node
