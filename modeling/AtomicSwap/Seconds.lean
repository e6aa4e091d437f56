import AtomicSwap.Numeral

/-!
Points and spans of time in whole seconds, held in sixty-four bits, and the two timelocks of a swap. A
sum that would leave the range stays at the last second that can be written. The outbound half must
outlive the inbound one by a margin, so that the liquidity provider can still collect when the user
reveals the secret at the last moment.
-/

set_option autoImplicit false
set_option relaxedAutoImplicit false

namespace AtomicSwap

/-- A point in time since the epoch, or a span of time, in seconds. -/
abbrev Seconds := UInt64

namespace Seconds

def last : Seconds := 18446744073709551615

/-- `a` seconds later than `t`, or the last second if that is out of range. -/
def later (t a : Seconds) : Seconds :=
  if t.toNat + a.toNat < 2 ^ 64 then t + a else last

theorem toNat_later (t a : Seconds) : (later t a).toNat = min (t.toNat + a.toNat) (2 ^ 64 - 1) := by
  unfold later
  split
  · rename_i h
    rw [UInt64.toNat_add, Nat.mod_eq_of_lt h]
    omega
  · rename_i h
    change 18446744073709551615 = _
    omega

end Seconds

abbrev ChainId := UInt64

/-- The number of the quote that a swap answers. -/
abbrev BidId := UInt64

structure Timelocks where
  outbound : Seconds
  inbound : Seconds
deriving DecidableEq

namespace Timelocks

/-- Whether the outbound half outlives the inbound one by more than the margin. -/
def leaves (t : Timelocks) (margin : Seconds) : Bool := t.inbound.later margin < t.outbound

/-- The expiries recommended at `now` for halves that last `duration`, `margin` apart. -/
def recommend (now duration margin : Seconds) : Timelocks :=
  let inbound := now.later duration
  ⟨(inbound.later margin).later 1, inbound⟩

end Timelocks

end AtomicSwap
