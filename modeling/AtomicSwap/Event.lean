import AtomicSwap.Transfer.Record

/-!
What a chain announces. The notice of a new transfer carries all of its parameters, so that an
observer can rebuild them.
-/

set_option autoImplicit false
set_option relaxedAutoImplicit false

namespace AtomicSwap

/-- The notice of a new transfer, with the route of its half. -/
structure Notice (ρ : Type) where
  id : TransferId
  terms : Terms
  route : ρ
deriving DecidableEq

def Notice.outboundParams (n : Notice Request) : Params := ⟨n.terms, .outbound n.route⟩

def Notice.inboundParams (n : Notice Link) : Params := ⟨n.terms, .inbound n.route⟩

/-- One change of a chain's registry. -/
inductive Event
  | outboundLocked (notice : Notice Request)
  | inboundLocked (notice : Notice Link)
  | confirmed (id : TransferId) (preimage : Preimage)
  | refunded (id : TransferId)
deriving DecidableEq

namespace Event

def ofRecord (r : Record) : Event :=
  match r.params.route with
  | .outbound route => outboundLocked ⟨r.id, r.terms, route⟩
  | .inbound route => inboundLocked ⟨r.id, r.terms, route⟩

def name : Event → String
  | outboundLocked _ => "transfer_out"
  | inboundLocked _ => "transfer_in"
  | confirmed _ _ => "transfer_confirmed"
  | refunded _ => "transfer_refunded"

def transferId : Event → TransferId
  | outboundLocked n => n.id
  | inboundLocked n => n.id
  | confirmed id _ => id
  | refunded id => id

/-- The parameters that an event announces, if it is the notice of a new transfer. -/
def params? : Event → Option Params
  | outboundLocked n => some n.outboundParams
  | inboundLocked n => some n.inboundParams
  | confirmed _ _ => none
  | refunded _ => none

end Event

end AtomicSwap
