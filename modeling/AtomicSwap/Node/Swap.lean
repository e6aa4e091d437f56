import AtomicSwap.Answer
import AtomicSwap.Node.Config
import AtomicSwap.Node.HostedChain
import AtomicSwap.Wire.Transfer

/-!
One swap played out on two new chains, by a user and a liquidity provider in turn. Each learns of
the other chain only what it announces: the user locks the outbound half, the provider answers with
the inbound one, the user checks it and collects it, which reveals the secret, and the provider
collects the outbound half with it. Where the provider never answers, the user is refunded.
-/

set_option autoImplicit false
set_option relaxedAutoImplicit false

namespace AtomicSwap.Node

open Telemetry (Counters)

/-- What a swap came to: the two halves, what each party holds, and how many events were seen. -/
structure Report where
  scenario : Scenario
  outbound : Record
  inbound : Option Record
  userReceived : Amount
  providerReceived : Amount
  userLeft : Amount
  eventsSeen : Nat
deriving DecidableEq

def Report.toJson (r : Report) : Json := Json.ofMembers [
  ("scenario", Json.ofText r.scenario.name),
  ("outbound", r.outbound.toJson),
  ("inbound", Wire.optional Record.toJson r.inbound),
  ("user_received", Wire.amount r.userReceived),
  ("lp_received", Wire.amount r.providerReceived),
  ("user_source_balance", Wire.amount r.userLeft),
  ("events_observed", Json.ofNat r.eventsSeen)]

inductive Step
  | lockOutbound | announceOutbound | answerOutbound | lockInbound | announceInbound
  | checkInbound | redeemInbound | revealSecret | redeemOutbound | replay | refundEarly
  | refundExpired
deriving DecidableEq

def Step.message : Step → String
  | lockOutbound => "user failed to lock the outbound leg"
  | announceOutbound => "outbound leg was not announced on the source chain"
  | answerOutbound => "LP could not answer the outbound leg"
  | lockInbound => "LP failed to lock the inbound leg"
  | announceInbound => "inbound leg was not announced on the destination chain"
  | checkInbound => "user rejected the counter leg"
  | redeemInbound => "user failed to redeem the inbound leg"
  | revealSecret => "redemption did not publish the preimage"
  | redeemOutbound => "LP failed to redeem the outbound leg"
  | replay => "replayed redemption was accepted"
  | refundEarly => "refund accepted before the timelock"
  | refundExpired => "user failed to refund the expired leg"

/-- Why a swap failed: a chain refused a call, the halves do not match, or a chain did what it must
not do or did not do what it must. -/
inductive Failure
  | refused (step : Step) (cause : TransferError)
  | mismatched (step : Step) (cause : Answer.Mismatch)
  | broken (step : Step)
deriving DecidableEq

/-- The wording of a failure: the step, and behind colons what caused it. -/
def Failure.message : Failure → String
  | refused step cause => ": ".intercalate (step.message :: cause.chain)
  | mismatched step cause => ": ".intercalate [step.message, cause.message]
  | broken step => step.message

structure Swap where
  scenario : Scenario
  source : HostedChain
  destination : HostedChain
  counters : Counters
  eventsSeen : Nat

inductive Side
  | source | destination
deriving DecidableEq

/-- What happens in a swap: it may fail, and leaves the swap as far as it came. -/
abbrev Play := ExceptT Failure (StateM Swap)

namespace Swap

def user : Address := Bytes.replicate 20 0x01

def provider : Address := Bytes.replicate 20 0x02

def custodian : Side → Address
  | .source => Bytes.replicate 20 0xc5
  | .destination => Bytes.replicate 20 0xcd

def label : Side → String
  | .source => "source"
  | .destination => "destination"

def blockSpan : Seconds := 12

def sourceAmount : Amount := ⟨10 ^ 18, by decide⟩

def destinationAmount : Amount := ⟨10 ^ 15, by decide⟩

def assetOn (scenario : Scenario) : Side → Asset
  | .source =>
    match scenario with
    | .nativeToToken => .native
    | _ => .token (Bytes.replicate 20 0xa0)
  | .destination =>
    match scenario with
    | .tokenToNative => .native
    | _ => .token (Bytes.replicate 20 0xb0)

/-- The ledger with a party's funds, which the custodian may pull. -/
def endow (l : Ledger) (holder : Address) (asset : Asset) (amount : Amount) : Ledger :=
  match asset with
  | .native => l.mintNative holder amount
  | .token contract => (l.mint contract holder amount).approve contract holder amount

/-- A new chain with the funds of the party that will lock on it. -/
def deploy (scenario : Scenario) (side : Side) (config : AtomicSwap.Config) : HostedChain :=
  let i := HostedChain.deploy (label side) config (custodian side)
  let (holder, amount) := match side with
    | .source => (user, sourceAmount)
    | .destination => (provider, destinationAmount)
  { i with chain := { i.chain with
      ledger := endow i.chain.ledger holder (assetOn scenario side) amount } }

def start (config : Config) : Swap where
  scenario := config.scenario
  source := deploy config.scenario .source config.source
  destination := deploy config.scenario .destination config.destination
  counters := Table.empty
  eventsSeen := 0

def node (s : Swap) : Side → HostedChain
  | .source => s.source
  | .destination => s.destination

def setNode (s : Swap) (side : Side) (i : HostedChain) : Swap :=
  match side with
  | .source => { s with source := i }
  | .destination => { s with destination := i }

/-- What a holder has on a chain of what is swapped on it. -/
def held (s : Swap) (side : Side) (holder : Address) : Amount :=
  (s.node side).chain.ledger.balance (assetOn s.scenario side) holder

def report (s : Swap) (outbound : Record) (inbound : Option Record) : Report where
  scenario := s.scenario
  outbound := outbound
  inbound := inbound
  userReceived := s.held .destination user
  providerReceived := s.held .source provider
  userLeft := s.held .source user
  eventsSeen := s.eventsSeen

def nextBlock (s : Swap) : Swap :=
  { s with
    source := { s.source with chain := s.source.chain.advance blockSpan }
    destination := { s.destination with chain := s.destination.chain.advance blockSpan } }

def call (side : Side) (operation : String) (f : Chain → Outcome Record) :
    Play (Except TransferError Record) := do
  let s ← get
  let (result, i, counters) := (s.node side).call operation f s.counters
  set { s.setNode side i with counters := counters }
  pure result

/-- The answer of a call that must not be refused. -/
def succeed (step : Step) (result : Except TransferError Record) : Play Record :=
  match result with
  | .ok r => pure r
  | .error e => throw (.refused step e)

/-- A call that must be refused. -/
def beRefused (step : Step) (result : Except TransferError Record) : Play Unit :=
  match result with
  | .ok _ => throw (.broken step)
  | .error _ => pure ()

/-- The answer to a question about the two halves. -/
def agree {α : Type} (step : Step) (result : Except Answer.Mismatch α) : Play α :=
  match result with
  | .ok a => pure a
  | .error e => throw (.mismatched step e)

def expect {α : Type} (step : Step) (a : Option α) : Play α :=
  match a with
  | some a => pure a
  | none => throw (.broken step)

/-- What a chain has announced since it was last asked. -/
def drain (side : Side) : Play (List Event) := do
  let s ← get
  let (events, i, counters) := (s.node side).drain s.counters
  set { s.setNode side i with
    counters := counters
    eventsSeen := s.eventsSeen + events.length }
  pure events

def outboundNotice? (id : TransferId) : Event → Option (Notice Request)
  | .outboundLocked n => if n.id = id then some n else none
  | _ => none

def inboundNotice? (id : TransferId) : Event → Option (Notice Link)
  | .inboundLocked n => if n.id = id then some n else none
  | _ => none

/-- The preimage that the confirmation of a transfer published. -/
def revealed? (id : TransferId) : Event → Option Preimage
  | .confirmed other preimage => if other = id then some preimage else none
  | _ => none

def outboundParams (s : Swap) (secret : Preimage) : Params where
  terms := {
    sender := user
    receiver := provider
    asset := assetOn s.scenario .source
    amount := sourceAmount
    nativeAmount := 0
    hashlock := s.source.chain.config.scheme.hashlock secret
    timelock := (s.source.chain.config.timelocks s.source.chain.now).outbound }
  route := .outbound {
    chain := s.destination.chain.config.chain
    receiver := user.toForeign
    bid := 1
    asset := (assetOn s.scenario .destination).address.toForeign
    amount := destinationAmount }

/-- The end of a swap that nobody answered: the user cannot take the funds back early, and takes
them back at the timelock. -/
def expire (outbound : Record) : Play Report := do
  beRefused .refundEarly (← call .source "refund" fun c => c.refund outbound.params)
  modify fun s => { s with
    source := { s.source with chain := s.source.chain.setTime outbound.terms.timelock } }
  let outbound ← succeed .refundExpired
    (← call .source "refund" fun c => c.refund outbound.params)
  let _ ← drain .source
  pure ((← get).report outbound none)

def complete (secret : Preimage) (inboundTimelock : Seconds) (outbound : Record)
    (announced : Notice Request) : Play Report := do
  let source := (← get).source.chain.config
  let planned ← agree .answerOutbound
    (Answer.plan announced source.chain provider inboundTimelock 0)
  let inbound ← succeed .lockInbound
    (← call .destination "lock_inbound" fun c => c.lock planned planned.terms.attachment)
  modify nextBlock
  let events ← drain .destination
  let counter ← expect .announceInbound (events.findSome? (inboundNotice? inbound.id))
  agree .checkInbound
    (Answer.verify outbound source.chain counter.inboundParams source.margin)
  let inbound ← succeed .redeemInbound
    (← call .destination "confirm" fun c => c.confirm inbound.params secret)
  modify nextBlock
  let events ← drain .destination
  let revealed ← expect .revealSecret (events.findSome? (revealed? inbound.id))
  let outbound ← succeed .redeemOutbound
    (← call .source "confirm" fun c => c.confirm outbound.params revealed)
  beRefused .replay (← call .source "confirm" fun c => c.confirm outbound.params revealed)
  let _ ← drain .source
  pure ((← get).report outbound (some inbound))

/-- The whole swap, for a secret that the user drew. -/
def play (secret : Preimage) : Play Report := do
  let s ← get
  let params := s.outboundParams secret
  let outbound ← succeed .lockOutbound
    (← call .source "lock_outbound" fun c => c.lock params params.terms.attachment)
  modify nextBlock
  let events ← drain .source
  let announced ← expect .announceOutbound (events.findSome? (outboundNotice? outbound.id))
  if s.scenario = .refund then expire outbound
  else
    let timelocks := s.source.chain.config.timelocks s.source.chain.now
    complete secret timelocks.inbound outbound announced

/-- The outcome of a swap with a configuration and a secret, and the swap behind its last step. -/
def run (config : Config) (secret : Preimage) : Except Failure Report × Swap :=
  (play secret).run (start config)

end Swap

end AtomicSwap.Node
