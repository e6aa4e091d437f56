import AtomicSwap.Json.Decoder
import AtomicSwap.Json.Printer
import AtomicSwap.Transfer.Record

/-!
Transfers as JSON. Addresses and amounts are hexadecimal strings behind `0x`, identifiers, hashlocks
and preimages are arrays of bytes. The route names its half in a member of its own.
-/

set_option autoImplicit false
set_option relaxedAutoImplicit false

namespace AtomicSwap

namespace Wire

def address {n : Nat} (b : Bytes n) : Json := Json.ofText b.prefixedHex

def addressDecoder (n : Nat) : Decoder (Bytes n) := Decoder.scalar (readAddress n)

def amount (a : Amount) : Json := Json.ofText a.hex

def amountDecoder : Decoder Amount := Decoder.scalar readHexAmount

def byteArray {n : Nat} (b : Bytes n) : Json :=
  Json.ofItems (b.toList.map fun x => Json.ofNat x.toNat)

def word (n : UInt64) : Json := Json.ofNat n.toNat

def optional {α : Type} (encode : α → Json) : Option α → Json
  | some a => encode a
  | none => .null

def asset (a : Asset) : Json := address a.address

def assetDecoder : Decoder Asset := fun j => Asset.ofAddress <$> addressDecoder 20 j

def state (s : State) : Json := Json.ofText s.name

def stateDecoder : Decoder State :=
  Decoder.choice [("Locked", .locked), ("Redeemed", .redeemed), ("Refunded", .refunded)]

def legs : List (String × Leg) := [("outbound", .outbound), ("inbound", .inbound)]

def leg (l : Leg) : Json := Json.ofText l.name

def legDecoder : Decoder Leg := Decoder.choice legs

end Wire

namespace Terms

def toJson (t : Terms) : Json := Json.ofMembers [
  ("sender", Wire.address t.sender),
  ("receiver", Wire.address t.receiver),
  ("asset", Wire.asset t.asset),
  ("amount", Wire.amount t.amount),
  ("native_amount", Wire.amount t.nativeAmount),
  ("hashlock", Wire.byteArray t.hashlock),
  ("timelock", Wire.word t.timelock)]

def shape : Shape Terms :=
  Shape.pure Terms.mk
    |>.field "sender" (Wire.addressDecoder 20)
    |>.field "receiver" (Wire.addressDecoder 20)
    |>.field "asset" Wire.assetDecoder
    |>.field "amount" Wire.amountDecoder
    |>.field "native_amount" Wire.amountDecoder
    |>.field "hashlock" (Decoder.bytes .text 32)
    |>.field "timelock" Decoder.word

def decoder : Decoder Terms := shape.decoder .text

end Terms

/-- How an outbound route is written, but for the name of its half. -/
def Request.shape : Shape Request :=
  Shape.pure Request.mk
    |>.field "dst_chain_id" Decoder.word
    |>.field "dst_receiver" (Wire.addressDecoder 32)
    |>.field "bid_id" Decoder.word
    |>.field "dst_asset" (Wire.addressDecoder 32)
    |>.field "dst_amount" Wire.amountDecoder

/-- How an inbound route is written, but for the name of its half. -/
def Link.shape : Shape Link :=
  Shape.pure Link.mk
    |>.field "src_chain_id" Decoder.word
    |>.field "src_transfer_id" (Decoder.bytes .kept 32)

namespace Route

/-- A route as JSON, the name of its half first. -/
def toJson : Route → Json
  | .outbound r => Json.ofMembers [
      ("leg", Wire.leg .outbound),
      ("dst_chain_id", Wire.word r.chain),
      ("dst_receiver", Wire.address r.receiver),
      ("bid_id", Wire.word r.bid),
      ("dst_asset", Wire.address r.asset),
      ("dst_amount", Wire.amount r.amount)]
  | .inbound r => Json.ofMembers [
      ("leg", Wire.leg .inbound),
      ("src_chain_id", Wire.word r.chain),
      ("src_transfer_id", Wire.byteArray r.transfer)]

/-- The half that a value names. -/
def readLeg : Decoder Leg := Decoder.name Wire.legs

/-- The half that the members of a route name, and its other members, which are kept until the half
is known. At most `room` arrays and objects are open at once in those. -/
def splitMembers (room : Nat) :
    Option Leg → Json.Members → Except DecodeError (Option Leg × Json.Members)
  | known, .nil => .ok (known, .nil)
  | _, .stray _ => .error .malformed
  | _, .fault => .error .malformed
  | _, .cons none _ _ => .error .malformed
  | known, .cons (some name) value tail =>
    if name = "leg" then
      match known with
      | some _ => .error (.duplicateField "leg")
      | none => do
        let l ← readLeg value
        splitMembers room (some l) tail
    else if value.isSound room then do
      let (known, kept) ← splitMembers room known tail
      pure (known, .cons (some name) value kept)
    else .error .malformed

/-- The route of a half, out of what was kept of it. -/
def ofKept (l : Leg) : Decoder Route := fun j =>
  match l with
  | .outbound => Route.outbound <$> Request.shape.decoder .kept j
  | .inbound => Route.inbound <$> Link.shape.decoder .kept j

/-- Reads a route with room for `room` arrays and objects within it. -/
def decoder (room : Nat) : Decoder Route
  | .object members => do
    match ← splitMembers room none members with
    | (some l, kept) => ofKept l (.object kept)
    | (none, _) => throw (.missingField "leg")
  | .array .nil => .error (.missingField "leg")
  | .array .fault => .error .malformed
  | .array (.cons head tail) => do
    let l ← readLeg head
    if tail.isSound room then ofKept l (.array tail) else throw .malformed
  | j => .error j.mismatch

end Route

/-- The number of arrays and objects that may be open at once in a text. -/
def Json.depthLimit : Nat := 127

namespace Params

def toJson (p : Params) : Json := Json.ofMembers [
  ("terms", p.terms.toJson),
  ("route", p.route.toJson)]

/-- How parameters are written, where `room` arrays and objects may be open in the route. -/
def shape (room : Nat) : Shape Params :=
  Shape.pure Params.mk
    |>.field "terms" Terms.decoder
    |>.field "route" (Route.decoder room)

def decoder : Decoder Params := (shape (Json.depthLimit - 2)).decoder .text

end Params

namespace Record

def toJson (r : Record) : Json := Json.ofMembers [
  ("id", Wire.byteArray r.id),
  ("params", r.params.toJson),
  ("state", Wire.state r.state),
  ("created_at", Wire.word r.createdAt),
  ("settled_at", Wire.optional Wire.word r.settledAt),
  ("preimage", Wire.optional Wire.byteArray r.preimage)]

def shape : Shape Record :=
  Shape.pure Record.mk
    |>.field "id" (Decoder.bytes .text 32)
    |>.field "params" ((Params.shape (Json.depthLimit - 3)).decoder .text)
    |>.field "state" Wire.stateDecoder
    |>.field "created_at" Decoder.word
    |>.optionalField "settled_at" Decoder.word
    |>.optionalField "preimage" (Decoder.bytes .text 32)

def decoder : Decoder Record := shape.decoder .text

end Record

end AtomicSwap
