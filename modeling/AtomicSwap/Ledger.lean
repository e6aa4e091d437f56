import AtomicSwap.Check
import AtomicSwap.Table
import AtomicSwap.Transfer.Error

/-!
The ledger of a chain: native balances, token balances, and what each owner allows the custodian to
pull. A movement works out all balances before it writes the first, so one that is refused, for want of
funds, of an allowance or of room, changes nothing.
-/

set_option autoImplicit false
set_option relaxedAutoImplicit false

namespace AtomicSwap

/-- Balances and allowances. A token's are kept by the pair of its contract and the holder; what is
not listed is zero. -/
structure Ledger where
  custodian : Address
  native : Table Address Amount
  tokens : Table (Address × Address) Amount
  allowances : Table (Address × Address) Amount

structure Receipt where
  asset : Asset
  sender : Address
  amount : Amount
  nativeAmount : Amount
deriving DecidableEq

namespace Ledger

/-- The ledger of a custodian before anything was credited. -/
def empty (custodian : Address) : Ledger := ⟨custodian, Table.empty, Table.empty, Table.empty⟩

def nativeOf (l : Ledger) (holder : Address) : Amount := (l.native.get? holder).getD 0

def tokenOf (l : Ledger) (contract holder : Address) : Amount :=
  (l.tokens.get? (contract, holder)).getD 0

/-- What the custodian may pull of an owner's tokens. -/
def allowance (l : Ledger) (contract owner : Address) : Amount :=
  (l.allowances.get? (contract, owner)).getD 0

def balance (l : Ledger) (asset : Asset) (holder : Address) : Amount :=
  match asset with
  | .native => l.nativeOf holder
  | .token contract => l.tokenOf contract holder

/-- What is held in custody of an asset. -/
def custody (l : Ledger) (asset : Asset) : Amount := l.balance asset l.custodian

def setNative (l : Ledger) (holder : Address) (a : Amount) : Ledger :=
  { l with native := l.native.set holder a }

def setToken (l : Ledger) (contract holder : Address) (a : Amount) : Ledger :=
  { l with tokens := l.tokens.set (contract, holder) a }

def setBalance (l : Ledger) (asset : Asset) (holder : Address) (a : Amount) : Ledger :=
  match asset with
  | .native => l.setNative holder a
  | .token contract => l.setToken contract holder a

/-- The ledger with what the custodian may pull of an owner's tokens set. -/
def approve (l : Ledger) (contract owner : Address) (a : Amount) : Ledger :=
  { l with allowances := l.allowances.set (contract, owner) a }

/-- Credits native coin out of thin air, up to the greatest amount. -/
def mintNative (l : Ledger) (holder : Address) (a : Amount) : Ledger :=
  l.setNative holder ((l.nativeOf holder).satAdd a)

def mint (l : Ledger) (contract holder : Address) (a : Amount) : Ledger :=
  l.setToken contract holder ((l.tokenOf contract holder).satAdd a)

section

variable (l : Ledger) (contract contract' holder holder' : Address) (a : Amount)

theorem nativeOf_setNative :
    (l.setNative holder a).nativeOf holder' = if holder = holder' then a else l.nativeOf holder' := by
  unfold nativeOf setNative
  rw [Table.get?_set]
  split <;> rfl

@[simp] theorem nativeOf_setToken : (l.setToken contract holder a).nativeOf holder' = l.nativeOf holder' :=
  rfl

@[simp] theorem nativeOf_approve : (l.approve contract holder a).nativeOf holder' = l.nativeOf holder' :=
  rfl

theorem tokenOf_setToken :
    (l.setToken contract holder a).tokenOf contract' holder'
      = if contract = contract' ∧ holder = holder' then a else l.tokenOf contract' holder' := by
  unfold tokenOf setToken
  rw [Table.get?_set]
  by_cases h : contract = contract' ∧ holder = holder' <;> simp [h]

@[simp] theorem tokenOf_setNative :
    (l.setNative holder a).tokenOf contract' holder' = l.tokenOf contract' holder' := rfl

@[simp] theorem tokenOf_approve :
    (l.approve contract holder a).tokenOf contract' holder' = l.tokenOf contract' holder' := rfl

theorem allowance_approve :
    (l.approve contract holder a).allowance contract' holder'
      = if contract = contract' ∧ holder = holder' then a else l.allowance contract' holder' := by
  unfold allowance approve
  rw [Table.get?_set]
  by_cases h : contract = contract' ∧ holder = holder' <;> simp [h]

@[simp] theorem allowance_setNative :
    (l.setNative holder a).allowance contract' holder' = l.allowance contract' holder' := rfl

@[simp] theorem allowance_setToken :
    (l.setToken contract holder a).allowance contract' holder' = l.allowance contract' holder' := rfl

@[simp] theorem custodian_setNative : (l.setNative holder a).custodian = l.custodian := rfl

@[simp] theorem custodian_setToken : (l.setToken contract holder a).custodian = l.custodian := rfl

@[simp] theorem custodian_approve : (l.approve contract holder a).custodian = l.custodian := rfl

end

/-- The exact sum of two amounts, refused if there is no room for it. -/
def sum (a b : Amount) : Except FundsError Amount :=
  match a.add? b with
  | some c => .ok c
  | none => .error .balanceOverflow

/-- The balances of two holders once an amount has gone from the first to the second. Nothing is
written yet. If the first holds less, `short` says so. -/
def quote (asset : Asset) (payer payee : Address) (a : Amount) (short : Amount → FundsError) :
    Attempt Ledger FundsError (Amount × Amount) := do
  let held := (← get).balance asset payer
  require (a ≤ held) (short held)
  let received ← sum ((← get).balance asset payee) a
  pure (held - a, received)

def enter (asset : Asset) (payer payee : Address) (balances : Amount × Amount) :
    Attempt Ledger FundsError Unit := do
  modify fun l => l.setBalance asset payer balances.1
  modify fun l => l.setBalance asset payee balances.2

/-- Moves funds of a sender into custody: native coin for a native leg; for a token leg the native
coin attached, and the tokens, which the sender must have allowed. -/
def escrow (l : Ledger) (asset : Asset) (sender : Address) (amount attached : Amount) :
    Except FundsError Receipt × Ledger :=
  Attempt.on l do
    let custodian := (← get).custodian
    require (sender ≠ custodian) FundsError.custodianFunds
    match asset with
    | .native => do
      let coin ← quote .native sender custodian amount (.insufficientFunds .native amount)
      enter .native sender custodian coin
      pure ⟨asset, sender, amount, 0⟩
    | .token contract => do
      let coin ← quote .native sender custodian attached (.insufficientFunds .native attached)
      let allowed := (← get).allowance contract sender
      require (amount ≤ allowed) (FundsError.insufficientAllowance contract amount allowed)
      let tokens ← quote (.token contract) sender custodian amount (.insufficientFunds asset amount)
      enter .native sender custodian coin
      modify fun l => l.approve contract sender (allowed - amount)
      enter (.token contract) sender custodian tokens
      pure ⟨asset, sender, amount, attached⟩

/-- Moves funds out of custody to a receiver: for a native leg the amount and the native amount in
one sum, for a token leg the native amount and the tokens. -/
def release (l : Ledger) (asset : Asset) (receiver : Address) (amount nativeAmount : Amount) :
    Except FundsError Unit × Ledger :=
  Attempt.on l do
    let custodian := (← get).custodian
    require (receiver ≠ custodian) FundsError.releaseToCustodian
    match asset with
    | .native => do
      let total ← sum amount nativeAmount
      let coin ← quote .native custodian receiver total fun held => .custodyShort .native held total
      enter .native custodian receiver coin
    | .token contract => do
      let coin ← quote .native custodian receiver nativeAmount fun held =>
        .custodyShort .native held nativeAmount
      let tokens ← quote (.token contract) custodian receiver amount fun held =>
        .custodyShort asset held amount
      enter .native custodian receiver coin
      enter (.token contract) custodian receiver tokens

end Ledger

end AtomicSwap
