import AtomicSwap.Check
import AtomicSwap.Transfer.Error

/-!
The rules that the terms of a lock keep, the record that a registry keeps of a transfer, and the two
ways in which it is settled. Each rule is a check with one cause of refusal, and `Terms.check` asks
them in order.
-/

set_option autoImplicit false
set_option relaxedAutoImplicit false

namespace AtomicSwap.Terms

def checkAmount (t : Terms) : Except TermsError Unit := require (t.amount ≠ 0) .zeroAmount

def checkTimelock (t : Terms) (now : Seconds) : Except TermsError Unit := do
  require (t.timelock ≠ 0) .zeroTimelock
  require (now < t.timelock) (.timelockNotInFuture t.timelock now)

/-- The native coin attached is what the terms declare, and a native leg declares none beside its
amount. -/
def checkAttachment (t : Terms) (attached : Amount) : Except TermsError Unit := do
  require (t.asset = .native → t.nativeAmount = 0) .nativeAmountOnNativeAsset
  require (attached = t.attachment) (.nativeAttachmentMismatch t.attachment attached)

/-- The receiver is not the custodian, who can never be paid. -/
def checkReceiver (t : Terms) (custodian : Address) : Except TermsError Unit :=
  require (t.receiver ≠ custodian) (.custodianReceiver custodian)

/-- All rules, in the order in which a broken one is reported. -/
def check (t : Terms) (now : Seconds) (attached : Amount) (custodian : Address) :
    Except TermsError Unit := do
  t.checkAmount
  t.checkTimelock now
  t.checkAttachment attached
  t.checkReceiver custodian

end AtomicSwap.Terms

namespace AtomicSwap

structure Record where
  id : TransferId
  params : Params
  state : State
  createdAt : Seconds
  settledAt : Option Seconds
  preimage : Option Preimage
deriving DecidableEq

namespace Record

def locked (id : TransferId) (params : Params) (now : Seconds) : Record :=
  ⟨id, params, .locked, now, none, none⟩

def terms (r : Record) : Terms := r.params.terms

def leg (r : Record) : Leg := r.params.leg

def hasExpired (r : Record) (now : Seconds) : Bool := r.terms.timelock ≤ now

def checkLocked (r : Record) : Except TransferError Unit :=
  require (r.state = .locked) (.invalidState r.id (.notLocked r.state))

/-- The record once the preimage has been revealed in time. Whether it opens the hashlock is not
asked here. -/
def redeem (r : Record) (preimage : Preimage) (now : Seconds) : Except TransferError Record := do
  r.checkLocked
  require (r.state.allows .redeemed now r.terms.timelock)
    (.invalidState r.id (.redemptionClosed r.terms.timelock now))
  pure { r with state := .redeemed, settledAt := some now, preimage := some preimage }

/-- The record once the funds have gone back after expiry. -/
def refund (r : Record) (now : Seconds) : Except TransferError Record := do
  r.checkLocked
  require (r.state.allows .refunded now r.terms.timelock)
    (.invalidState r.id (.refundNotYetAvailable r.terms.timelock now))
  pure { r with state := .refunded, settledAt := some now }

end Record

end AtomicSwap
