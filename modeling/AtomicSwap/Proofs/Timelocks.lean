import AtomicSwap.Config
import AtomicSwap.Transfer.Record

/-!
Timelocks in exact numbers, up to the last second that can be written. The recommended expiries leave
the margin exactly when the later one of them can still be written; then there is no second to spare,
and expiries that were cut off are never taken for safe ones.
-/

set_option autoImplicit false
set_option relaxedAutoImplicit false

namespace AtomicSwap

/-- A timelock that lies ahead is not zero, since nothing lies before the first second. -/
theorem Terms.checkTimelock_eq_ok_iff {t : Terms} {now : Seconds} :
    t.checkTimelock now = .ok () ↔ now < t.timelock := by
  unfold checkTimelock
  rw [require_bind_eq_ok_iff, require_eq_ok_iff]
  constructor
  · intro h
    exact h.2
  · intro hahead
    refine ⟨?_, hahead⟩
    intro hzero
    rw [hzero] at hahead
    exact UInt64.not_lt_zero hahead

namespace Timelocks

theorem leaves_iff (t : Timelocks) (margin : Seconds) :
    t.leaves margin = true ↔ t.inbound.toNat + margin.toNat < t.outbound.toNat := by
  have hlater := Seconds.toNat_later t.inbound margin
  have hmax := t.outbound.toNat_lt
  unfold leaves
  rw [decide_eq_true_iff, UInt64.lt_iff_toNat_lt, hlater]
  omega

theorem leaves_eq_false_iff (t : Timelocks) (margin : Seconds) :
    t.leaves margin = false ↔ t.outbound.toNat ≤ t.inbound.toNat + margin.toNat := by
  rw [← Bool.not_eq_true, leaves_iff, Nat.not_lt]

section

variable {t : Timelocks} {margin : Seconds}

/-- Expiries that are one second further apart than a margin leave that margin and no greater one. -/
theorem leaves_iff_le (h : t.outbound.toNat = t.inbound.toNat + margin.toNat + 1)
    (margin' : Seconds) : t.leaves margin' = true ↔ margin' ≤ margin := by
  rw [leaves_iff, h, UInt64.le_iff_toNat_le]
  omega

theorem leaves_of_lt (h : t.outbound.toNat = t.inbound.toNat + margin.toNat + 1)
    {outbound : Seconds} (hearlier : outbound < t.outbound) :
    { t with outbound := outbound }.leaves margin = false := by
  rw [leaves_eq_false_iff]
  have hlt := UInt64.lt_iff_toNat_lt.1 hearlier
  show outbound.toNat ≤ t.inbound.toNat + margin.toNat
  omega

end

section

variable (now duration margin : Seconds)

theorem toNat_inbound_recommend :
    (recommend now duration margin).inbound.toNat
      = min (now.toNat + duration.toNat) (2 ^ 64 - 1) :=
  Seconds.toNat_later now duration

theorem toNat_outbound_recommend :
    (recommend now duration margin).outbound.toNat
      = min (now.toNat + duration.toNat + margin.toNat + 1) (2 ^ 64 - 1) := by
  have hone : (1 : Seconds).toNat = 1 := rfl
  show (((now.later duration).later margin).later 1).toNat = _
  rw [Seconds.toNat_later, Seconds.toNat_later, Seconds.toNat_later, hone]
  -- Once a sum is cut off it stays cut off, so it does not matter after which addition it was.
  omega

theorem leaves_recommend_iff :
    (recommend now duration margin).leaves margin = true
      ↔ now.toNat + duration.toNat + margin.toNat + 1 ≤ 2 ^ 64 - 1 := by
  rw [leaves_iff, toNat_inbound_recommend, toNat_outbound_recommend]
  omega

variable {now duration margin}

theorem recommend_of_le (h : now.toNat + duration.toNat + margin.toNat + 1 ≤ 2 ^ 64 - 1) :
    (recommend now duration margin).inbound.toNat = now.toNat + duration.toNat ∧
      (recommend now duration margin).outbound.toNat
        = (recommend now duration margin).inbound.toNat + margin.toNat + 1 := by
  rw [toNat_outbound_recommend, toNat_inbound_recommend]
  omega

theorem lt_recommend_of_le (h : now.toNat + duration.toNat + margin.toNat + 1 ≤ 2 ^ 64 - 1)
    (hduration : 0 < duration) :
    now < (recommend now duration margin).inbound ∧
      now < (recommend now duration margin).outbound := by
  obtain ⟨hinbound, houtbound⟩ := recommend_of_le h
  have hpositive : 0 < duration.toNat := UInt64.lt_iff_toNat_lt.1 hduration
  rw [UInt64.lt_iff_toNat_lt, UInt64.lt_iff_toNat_lt, houtbound, hinbound]
  omega

end

end Timelocks

/-- The recommended expiries leave the margin exactly when the later one can be written. If so, both
are exact, the outbound one is the earliest that leaves the margin and leaves no greater one, and both
pass for timelocks if there is time for a swap. If not, the outbound one is the last second, and the
expiries do not pass for safe. -/
theorem Config.recommendation_exact (c : Config) (now : Seconds) :
    ((c.timelocks now).leaves c.margin = true
        ↔ now.toNat + c.duration.toNat + c.margin.toNat + 1 ≤ 2 ^ 64 - 1) ∧
      (now.toNat + c.duration.toNat + c.margin.toNat + 1 ≤ 2 ^ 64 - 1 →
        (c.timelocks now).inbound.toNat = now.toNat + c.duration.toNat ∧
        (c.timelocks now).outbound.toNat
          = (c.timelocks now).inbound.toNat + c.margin.toNat + 1 ∧
        (∀ outbound < (c.timelocks now).outbound,
          { c.timelocks now with outbound := outbound }.leaves c.margin = false) ∧
        (∀ margin, (c.timelocks now).leaves margin = true ↔ margin ≤ c.margin) ∧
        (0 < c.duration → ∀ t : Terms,
          { t with timelock := (c.timelocks now).inbound }.checkTimelock now = .ok () ∧
          { t with timelock := (c.timelocks now).outbound }.checkTimelock now = .ok ())) ∧
      (2 ^ 64 - 1 < now.toNat + c.duration.toNat + c.margin.toNat + 1 →
        (c.timelocks now).outbound.toNat = 2 ^ 64 - 1 ∧
        (c.timelocks now).leaves c.margin = false) := by
  have hsafe := Timelocks.leaves_recommend_iff now c.duration c.margin
  refine ⟨hsafe, ?fits, ?cutOff⟩
  case fits =>
    intro hfits
    obtain ⟨hinbound, houtbound⟩ := Timelocks.recommend_of_le hfits
    refine ⟨hinbound, houtbound, ?_, Timelocks.leaves_iff_le houtbound, ?_⟩
    · intro outbound hearlier
      exact Timelocks.leaves_of_lt houtbound hearlier
    · intro hduration t
      obtain ⟨hfirst, hsecond⟩ := Timelocks.lt_recommend_of_le hfits hduration
      exact ⟨Terms.checkTimelock_eq_ok_iff.2 hfirst, Terms.checkTimelock_eq_ok_iff.2 hsecond⟩
  case cutOff =>
    intro hcut
    have houtbound := Timelocks.toNat_outbound_recommend now c.duration c.margin
    refine ⟨houtbound.trans (Nat.min_eq_right (Nat.le_of_lt hcut)), ?_⟩
    rw [← Bool.not_eq_true]
    intro hleaves
    have hfits := hsafe.1 hleaves
    omega

/-- One second later the same expiries would be cut off. -/
example : (Config.standard.timelocks (Seconds.last - 108001)).leaves 21600 = true ∧
    (Config.standard.timelocks (Seconds.last - 108000)).leaves 21600 = false := by
  decide

end AtomicSwap
