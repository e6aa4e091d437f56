import AtomicSwap.Check
import AtomicSwap.Table
import AtomicSwap.Transfer.Record

/-!
The registry of a chain: one record for each identifier, none ever removed. Totals over its records
do not depend on their order.
-/

set_option autoImplicit false
set_option relaxedAutoImplicit false

namespace AtomicSwap

abbrev Registry := Table TransferId Record

namespace Registry

/-- Keeps a new record, refused if its identifier was used before. -/
def insert (g : Registry) (r : Record) : Except TransferError Unit × Registry :=
  Attempt.on g do
    require (!(← get).contains r.id) (TransferError.duplicateTransfer r.id)
    modify fun g => g.set r.id r

/-- Keeps a new version of a record, refused if there is no old one. -/
def commit (g : Registry) (r : Record) : Except TransferError Unit × Registry :=
  Attempt.on g do
    require ((← get).contains r.id) (TransferError.notFound r.id)
    modify fun g => g.set r.id r

def count (g : Registry) (s : State) : Nat := g.values.countP fun r => r.state = s

/-- The totals with more of an asset, clamped to the greatest amount. -/
def addTotal (totals : Table Asset Amount) (asset : Asset) (amount : Amount) :
    Table Asset Amount :=
  totals.set asset (((totals.get? asset).getD 0).satAdd amount)

/-- The totals with what one record holds in escrow: nothing unless it is locked, else its amount,
and under the native coin what native coin came along. -/
def addEscrow (totals : Table Asset Amount) (r : Record) : Table Asset Amount :=
  if r.state = .locked then
    let totals := addTotal totals r.terms.asset r.terms.amount
    if r.terms.nativeAmount = 0 then totals else addTotal totals .native r.terms.nativeAmount
  else totals

def heldBy (records : List Record) : Table Asset Amount := records.foldl addEscrow Table.empty

/-- What the chain should hold in custody of each asset. -/
def held (g : Registry) : Table Asset Amount := heldBy g.values

end Registry

end AtomicSwap
