import AtomicSwap.Check
import AtomicSwap.Event
import AtomicSwap.Seconds

/-!
The answer to an outbound half: the inbound half of the same swap. The liquidity provider plans it
from what the source chain announced; the user checks it against the outbound half before revealing
the secret.
-/

set_option autoImplicit false
set_option relaxedAutoImplicit false

namespace AtomicSwap

namespace Answer

/-- How an inbound half fails to answer an outbound one. -/
inductive Mismatch
  | hashlock
  | unlinked (expected found : TransferId)
  | chain (expected found : ChainId)
  | receiver
  | asset
  | amount (expected found : Amount)
  | foreignReceiver
  | foreignAsset
  | timelockMargin (outbound inbound margin : Seconds)
  | wrongLeg (expected : Leg)
deriving DecidableEq

def Mismatch.message : Mismatch → String
  | hashlock => "hashlock mismatch"
  | unlinked expected found =>
    "inbound leg references " ++ found.hex ++ ", expected " ++ expected.hex
  | chain expected found =>
    "inbound leg names source chain " ++ decimalText found ++ ", expected " ++ decimalText expected
  | receiver => "inbound receiver does not match requested destination receiver"
  | asset => "inbound asset does not match requested destination asset"
  | amount expected found =>
    "inbound amount " ++ found.decimal ++ " below requested " ++ expected.decimal
  | foreignReceiver => "destination receiver is not a local address"
  | foreignAsset => "destination asset is not a local asset"
  | timelockMargin outbound inbound margin =>
    "Invalid timelock margin: outbound=" ++ decimalText outbound ++ ", inbound="
      ++ decimalText inbound ++ ", required=" ++ decimalText margin
  | wrongLeg expected => "expected " ++ expected.name ++ " leg"

/-- Refuses expiries that do not leave a margin. -/
def checkMargin (t : Timelocks) (margin : Seconds) : Except Mismatch Unit :=
  require (t.leaves margin) (.timelockMargin t.outbound t.inbound margin)

def receiverOf (r : Request) : Except Mismatch Address :=
  match r.receiver.toLocal? with
  | some a => .ok a
  | none => .error .foreignReceiver

def assetOf (r : Request) : Except Mismatch Asset :=
  match r.asset.toLocal? with
  | some a => .ok (Asset.ofAddress a)
  | none => .error .foreignAsset

/-- The inbound half that answers an outbound one announced on the chain `source`: it escrows what
was asked for, for the receiver that was named, under the same hashlock. -/
def plan (outbound : Notice Request) (source : ChainId) (provider : Address)
    (timelock : Seconds) (nativeAmount : Amount) : Except Mismatch Params := do
  let receiver ← receiverOf outbound.route
  let asset ← assetOf outbound.route
  pure {
    terms := {
      sender := provider
      receiver := receiver
      asset := asset
      amount := outbound.route.amount
      nativeAmount := if asset.isNative then 0 else nativeAmount
      hashlock := outbound.terms.hashlock
      timelock := timelock }
    route := .inbound ⟨source, outbound.id⟩ }

/-- Refuses an inbound half that does not answer the outbound one locked on the chain `source`. -/
def verify (outbound : Record) (source : ChainId) (inbound : Params) (margin : Seconds) :
    Except Mismatch Unit :=
  match outbound.params.route, inbound.route with
  | .inbound _, _ => .error (.wrongLeg .outbound)
  | .outbound _, .outbound _ => .error (.wrongLeg .inbound)
  | .outbound asked, .inbound link => do
    require (outbound.terms.hashlock = inbound.terms.hashlock) .hashlock
    require (link.transfer = outbound.id) (.unlinked outbound.id link.transfer)
    require (link.chain = source) (.chain source link.chain)
    let receiver ← receiverOf asked
    require (inbound.terms.receiver = receiver) .receiver
    let asset ← assetOf asked
    require (inbound.terms.asset = asset) .asset
    require (asked.amount ≤ inbound.terms.amount) (.amount asked.amount inbound.terms.amount)
    checkMargin ⟨outbound.terms.timelock, inbound.terms.timelock⟩ margin

end Answer

end AtomicSwap
