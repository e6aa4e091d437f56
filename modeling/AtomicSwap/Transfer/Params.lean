import AtomicSwap.Amount
import AtomicSwap.Digest.Keccak
import AtomicSwap.Seconds
import AtomicSwap.Transfer.Asset

/-!
Transfers: the states that one goes through, its parameters and its identifier. It is locked until it
is either redeemed, before its timelock, or refunded, from its timelock on. The parameters are the
terms that both halves of a swap share, and the route, which says where the other half lies. The
identifier is the SHA3-256 digest of their canonical encoding, in which all fields have fixed widths,
and tags tell the halves and the kinds of asset apart.
-/

set_option autoImplicit false
set_option relaxedAutoImplicit false

namespace AtomicSwap

inductive State
  | locked | redeemed | refunded
deriving DecidableEq

namespace State

def name : State → String
  | locked => "Locked"
  | redeemed => "Redeemed"
  | refunded => "Refunded"

/-- Whether a transfer that expires at `timelock` may pass from one state to another at `now`. -/
def allows (s next : State) (now timelock : Seconds) : Bool :=
  match s, next with
  | locked, redeemed => now < timelock
  | locked, refunded => timelock ≤ now
  | _, _ => false

/-- Whether no state follows. -/
def isFinal : State → Bool
  | locked => false
  | redeemed => true
  | refunded => true

end State

/-- The two halves of a swap: the user's escrow on the source chain, and the liquidity provider's
on the destination chain. -/
inductive Leg
  | outbound | inbound
deriving DecidableEq

def Leg.name : Leg → String
  | .outbound => "outbound"
  | .inbound => "inbound"

/-- What is escrowed, for whom, and until when. Native coin may come along with a token. -/
structure Terms where
  sender : Address
  receiver : Address
  asset : Asset
  amount : Amount
  nativeAmount : Amount
  hashlock : Hashlock
  timelock : Seconds
deriving DecidableEq

/-- The native coin that must be attached when the terms are locked. -/
def Terms.attachment (t : Terms) : Amount :=
  match t.asset with
  | .native => t.amount
  | .token _ => t.nativeAmount

/-- What the user asks for on the destination chain. -/
structure Request where
  chain : ChainId
  receiver : ForeignAddress
  bid : BidId
  asset : ForeignAddress
  amount : Amount
deriving DecidableEq

structure Link where
  chain : ChainId
  transfer : TransferId
deriving DecidableEq

/-- The part of the parameters that depends on the half. -/
inductive Route
  | outbound (route : Request)
  | inbound (route : Link)
deriving DecidableEq

def Route.leg : Route → Leg
  | .outbound _ => .outbound
  | .inbound _ => .inbound

/-- The full parameters of a transfer, which its identifier is derived from. -/
structure Params where
  terms : Terms
  route : Route
deriving DecidableEq

def Params.leg (p : Params) : Leg := p.route.leg

/-- The tag that every encoding starts with. -/
def Params.domainTag : List UInt8 :=
  [0x6f, 0x62, 0x72, 0x69, 0x64, 0x67, 0x65, 0x2f, 0x74, 0x72, 0x61, 0x6e, 0x73, 0x66, 0x65, 0x72,
   0x2f, 0x76, 0x31]

def Leg.tag : Leg → UInt8
  | .outbound => 0x01
  | .inbound => 0x02

/-- The tag of a kind of asset. It keeps the native coin apart from a token at the zero address. -/
def Asset.tag : Asset → UInt8
  | .native => 0x00
  | .token _ => 0x01

def Terms.encoding (t : Terms) : List UInt8 :=
  t.sender.toList ++ t.receiver.toList ++ t.asset.tag :: t.asset.address.toList ++ t.amount.bytes
    ++ t.nativeAmount.bytes ++ t.hashlock.toList ++ BigEndian.encode 8 t.timelock.toNat

def Route.encoding : Route → List UInt8
  | .outbound r => BigEndian.encode 8 r.chain.toNat ++ r.receiver.toList
      ++ BigEndian.encode 8 r.bid.toNat ++ r.asset.toList ++ r.amount.bytes
  | .inbound r => BigEndian.encode 8 r.chain.toNat ++ r.transfer.toList

namespace Params

def encoding (p : Params) : List UInt8 :=
  domainTag ++ p.leg.tag :: p.terms.encoding ++ p.route.encoding

def id (p : Params) : TransferId := Keccak.sha3 p.encoding

end Params

end AtomicSwap
