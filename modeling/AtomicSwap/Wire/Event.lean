import AtomicSwap.Event
import AtomicSwap.Wire.Transfer

/-!
Announcements as JSON: the name of the event beside its data. Byte strings are digits without a
mark, amounts are decimal. A log line carries an announcement behind a fixed mark.
-/

set_option autoImplicit false
set_option relaxedAutoImplicit false

namespace AtomicSwap

namespace Wire

def digits (b : Bytes 32) : Json := Json.ofText b.hex

def digitsDecoder : Decoder (Bytes 32) := Decoder.scalar readWord

def decimal (a : Amount) : Json := Json.ofText a.decimal

def decimalDecoder : Decoder Amount := Decoder.scalar readDecimal

end Wire

def Notice.outboundJson (n : Notice Request) : Json := Json.ofMembers [
  ("transfer_id", Wire.digits n.id),
  ("sender", Wire.address n.terms.sender),
  ("receiver", Wire.address n.terms.receiver),
  ("token", Wire.asset n.terms.asset),
  ("amount", Wire.decimal n.terms.amount),
  ("native_amount", Wire.decimal n.terms.nativeAmount),
  ("hashlock", Wire.digits n.terms.hashlock),
  ("timelock", Wire.word n.terms.timelock),
  ("dst_chain_id", Wire.word n.route.chain),
  ("dst_address", Wire.address n.route.receiver),
  ("bid_id", Wire.word n.route.bid),
  ("token_dst", Wire.address n.route.asset),
  ("amount_dst", Wire.decimal n.route.amount)]

/-- How the data of an outbound notice is written. -/
def Notice.outboundShape : Shape (Notice Request) :=
  Shape.pure (fun id sender receiver asset amount native hashlock timelock chain payee bid wanted least =>
      Notice.mk id ⟨sender, receiver, asset, amount, native, hashlock, timelock⟩
        (Request.mk chain payee bid wanted least))
    |>.field "transfer_id" Wire.digitsDecoder
    |>.field "sender" (Wire.addressDecoder 20)
    |>.field "receiver" (Wire.addressDecoder 20)
    |>.field "token" Wire.assetDecoder
    |>.field "amount" Wire.decimalDecoder
    |>.field "native_amount" Wire.decimalDecoder
    |>.field "hashlock" Wire.digitsDecoder
    |>.field "timelock" Decoder.word
    |>.field "dst_chain_id" Decoder.word
    |>.field "dst_address" (Wire.addressDecoder 32)
    |>.field "bid_id" Decoder.word
    |>.field "token_dst" (Wire.addressDecoder 32)
    |>.field "amount_dst" Wire.decimalDecoder

def Notice.inboundJson (n : Notice Link) : Json := Json.ofMembers [
  ("transfer_id", Wire.digits n.id),
  ("sender", Wire.address n.terms.sender),
  ("receiver", Wire.address n.terms.receiver),
  ("token", Wire.asset n.terms.asset),
  ("token_amount", Wire.decimal n.terms.amount),
  ("native_amount", Wire.decimal n.terms.nativeAmount),
  ("hashlock", Wire.digits n.terms.hashlock),
  ("timelock", Wire.word n.terms.timelock),
  ("src_chain_id", Wire.word n.route.chain),
  ("src_transfer_id", Wire.digits n.route.transfer)]

def Notice.inboundShape : Shape (Notice Link) :=
  Shape.pure (fun id sender receiver asset amount native hashlock timelock chain transfer =>
      Notice.mk id ⟨sender, receiver, asset, amount, native, hashlock, timelock⟩
        (Link.mk chain transfer))
    |>.field "transfer_id" Wire.digitsDecoder
    |>.field "sender" (Wire.addressDecoder 20)
    |>.field "receiver" (Wire.addressDecoder 20)
    |>.field "token" Wire.assetDecoder
    |>.field "token_amount" Wire.decimalDecoder
    |>.field "native_amount" Wire.decimalDecoder
    |>.field "hashlock" Wire.digitsDecoder
    |>.field "timelock" Decoder.word
    |>.field "src_chain_id" Decoder.word
    |>.field "src_transfer_id" Wire.digitsDecoder

namespace Event

def dataJson : Event → Json
  | outboundLocked n => n.outboundJson
  | inboundLocked n => n.inboundJson
  | confirmed id preimage => Json.ofMembers [
      ("transfer_id", Wire.digits id),
      ("preimage", Wire.digits preimage)]
  | refunded id => Json.ofMembers [("transfer_id", Wire.digits id)]

/-- The members of an event: its name and its data. -/
def members (e : Event) : List (String × Json) :=
  [("event", Json.ofText e.name), ("data", e.dataJson)]

def toJson (e : Event) : Json := Json.ofMembers e.members

/-- An event as JSON, behind the name of the standard that it follows and its version. -/
def toEnvelope (e : Event) : Json := Json.ofMembers
  (("standard", Json.ofText "obridge") :: ("version", Json.ofText "1.0.0") :: e.members)

/-- The mark of a log line that carries an event. -/
def logMark : String := "EVENT_JSON:"

def logLine (e : Event) : String := logMark ++ e.toEnvelope.print

inductive Kind
  | outboundLocked | inboundLocked | confirmed | refunded
deriving DecidableEq

def kinds : List (String × Kind) :=
  [("transfer_out", .outboundLocked), ("transfer_in", .inboundLocked),
   ("transfer_confirmed", .confirmed), ("transfer_refunded", .refunded)]

/-- Reads the name of a kind that is the value of a member. -/
def kindDecoder : Decoder Kind := Decoder.choice kinds

def confirmedShape : Shape Event :=
  Shape.pure Event.confirmed
    |>.field "transfer_id" Wire.digitsDecoder
    |>.field "preimage" Wire.digitsDecoder

def refundedShape : Shape Event :=
  Shape.pure Event.refunded |>.field "transfer_id" Wire.digitsDecoder

def dataDecoder (source : Source) : Kind → Decoder Event
  | .outboundLocked => fun j => outboundLocked <$> Notice.outboundShape.decoder source j
  | .inboundLocked => fun j => inboundLocked <$> Notice.inboundShape.decoder source j
  | .confirmed => confirmedShape.decoder source
  | .refunded => refundedShape.decoder source

inductive Part
  | name | data
deriving DecidableEq

/-- The next of the two members of an event, its value and what follows it. Other members are passed
over if they are whole. -/
def nextPart : Json.Members → Except DecodeError (Option (Part × Json × Json.Members))
  | .nil => .ok none
  | .stray _ => .error .malformed
  | .fault => .error .malformed
  | .cons none _ _ => .error .malformed
  | .cons (some name) value tail =>
    if name = "event" then .ok (some (.name, value, tail))
    else if name = "data" then .ok (some (.data, value, tail))
    else if value.isWhole then nextPart tail
    else .error .malformed

/-- The end of the members of an event: neither of the two comes again. -/
def finish (members : Json.Members) : Except DecodeError Unit := do
  match ← nextPart members with
  | none => pure ()
  | some (.name, _) => throw (.duplicateField "event")
  | some (.data, _) => throw (.duplicateField "data")

/-- Reads an event, an object or the pair of its name and its data. If in an object the data comes
before the name, the data is kept until the name is known. In a pair the name is a string. -/
def decoder : Decoder Event
  | .object members => do
    match ← nextPart members with
    | none => throw (.missingField "event")
    | some (.name, name, rest) =>
      let kind ← kindDecoder name
      match ← nextPart rest with
      | none => throw (.missingField "data")
      | some (.name, _) => throw (.duplicateField "event")
      | some (.data, data, rest) =>
        let e ← dataDecoder .text kind data
        finish rest
        pure e
    | some (.data, data, rest) =>
      if data.isSound (Json.depthLimit - 1) then
        match ← nextPart rest with
        | none => throw (.missingField "event")
        | some (.data, _) => throw (.duplicateField "data")
        | some (.name, name, rest) =>
          let kind ← kindDecoder name
          let e ← dataDecoder .kept kind data
          finish rest
          pure e
      else throw .malformed
  | .array items => do
    let (name, items) ← items.next
    let kind ← Decoder.name kinds name
    let (data, items) ← items.next
    let e ← dataDecoder .text kind data
    items.finish .text
    pure e
  | j => .error j.mismatch

end Event

end AtomicSwap
