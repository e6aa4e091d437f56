import AtomicSwap.Config
import AtomicSwap.Feed
import AtomicSwap.Ledger
import AtomicSwap.Registry
import AtomicSwap.Transfer.Params
import AtomicSwap.Transfer.Record

/-!
A chain: its ledger, its registry of transfers, its clock and its stream of announcements. A call
first makes every check, then moves funds, then records the new state and announces it. Each answer
comes with the chain behind the call, as far as the call had come when it was refused.
-/

set_option autoImplicit false
set_option relaxedAutoImplicit false

namespace AtomicSwap

structure Chain where
  config : Config
  ledger : Ledger
  registry : Registry
  now : Seconds
  feed : Feed

/-- The answer to a call, and the chain behind it. -/
abbrev Outcome (α : Type) := Except TransferError α × Chain

namespace Chain

/-- The second at which the clock of a new chain stands. -/
def genesis : Seconds := 1700000000

/-- A new chain, whose escrow is held by `custodian`. -/
def deploy (config : Config) (custodian : Address) : Chain where
  config := config
  ledger := Ledger.empty custodian
  registry := Table.empty
  now := genesis
  feed := Feed.ofCapacity config.capacity.toNat

def setTime (c : Chain) (time : Seconds) : Chain := { c with now := time }

def advance (c : Chain) (span : Seconds) : Chain := { c with now := c.now.later span }

def announce (c : Chain) (e : Event) : Chain := { c with feed := (c.feed.publish e).2 }

def get? (c : Chain) (id : TransferId) : Option Record := c.registry.get? id

/-- Locks a transfer, with native coin attached. -/
def lock (c : Chain) (params : Params) (attached : Amount) : Outcome Record :=
  match params.terms.check c.now attached c.ledger.custodian with
  | .error e => (.error (.invalidParameters e), c)
  | .ok () =>
    if c.registry.contains params.id then (.error (.duplicateTransfer params.id), c)
    else
      match c.ledger.escrow params.terms.asset params.terms.sender params.terms.amount attached with
      | (.error e, ledger) => (.error (.assetTransferFailed e), { c with ledger := ledger })
      | (.ok _, ledger) =>
        let c := { c with ledger := ledger }
        let r := Record.locked params.id params c.now
        match c.registry.insert r with
        | (.error e, registry) => (.error e, { c with registry := registry })
        | (.ok (), registry) => (.ok r, { c with registry := registry }.announce (.ofRecord r))

/-- Pays a settled transfer out to `receiver`, records it and announces it. -/
def settle (c : Chain) (r : Record) (receiver : Address) (e : Event) : Outcome Record :=
  match c.ledger.release r.terms.asset receiver r.terms.amount r.terms.nativeAmount with
  | (.error e, ledger) => (.error (.assetTransferFailed e), { c with ledger := ledger })
  | (.ok (), ledger) =>
    let c := { c with ledger := ledger }
    match c.registry.commit r with
    | (.error e, registry) => (.error e, { c with registry := registry })
    | (.ok (), registry) => (.ok r, { c with registry := registry }.announce e)

/-- The record of a transfer that a preimage opens now. -/
def opened (c : Chain) (params : Params) (preimage : Preimage) : Except TransferError Record := do
  match c.get? params.id with
  | none => throw (.notFound params.id)
  | some r =>
    r.checkLocked
    require (c.config.scheme.opens preimage r.terms.hashlock) (.secretMismatch params.id)
    r.redeem preimage c.now

/-- Confirms a transfer: the preimage is published and the receiver is paid. -/
def confirm (c : Chain) (params : Params) (preimage : Preimage) : Outcome Record :=
  match c.opened params preimage with
  | .error e => (.error e, c)
  | .ok r => c.settle r r.terms.receiver (.confirmed params.id preimage)

def expired (c : Chain) (params : Params) : Except TransferError Record :=
  match c.get? params.id with
  | none => .error (.notFound params.id)
  | some r => r.refund c.now

def refund (c : Chain) (params : Params) : Outcome Record :=
  match c.expired params with
  | .error e => (.error e, c)
  | .ok r => c.settle r r.terms.sender (.refunded params.id)

end Chain

end AtomicSwap
