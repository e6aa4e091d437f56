import AtomicSwap.Transfer.Params

/-!
Why an operation on a transfer is refused, by cause, and the wording of each cause.
-/

set_option autoImplicit false
set_option relaxedAutoImplicit false

namespace AtomicSwap

/-- The decimal text of a point in time, of a span, or of a chain's number. -/
def decimalText (n : UInt64) : String := Decimal.text n.toNat

inductive TermsError
  | zeroAmount
  | zeroTimelock
  | timelockNotInFuture (timelock now : Seconds)
  | nativeAmountOnNativeAsset
  | custodianReceiver (custodian : Address)
  | nativeAttachmentMismatch (expected attached : Amount)
deriving DecidableEq

def TermsError.message : TermsError → String
  | zeroAmount => "amount must be greater than zero"
  | zeroTimelock => "timelock must be non-zero"
  | timelockNotInFuture timelock now =>
    "timelock " ++ decimalText timelock ++ " is not after current time " ++ decimalText now
  | nativeAmountOnNativeAsset => "native asset leg cannot declare a separate native amount"
  | custodianReceiver custodian => "receiver " ++ custodian.prefixedHex ++ " is the escrow custodian"
  | nativeAttachmentMismatch expected attached =>
    "attached native " ++ attached.decimal ++ " does not match declared " ++ expected.decimal

/-- Why a transfer that exists cannot be settled now. -/
inductive SettlementError
  | notLocked (state : State)
  | redemptionClosed (timelock now : Seconds)
  | refundNotYetAvailable (timelock now : Seconds)
deriving DecidableEq

def SettlementError.message : SettlementError → String
  | notLocked state => "transfer is " ++ state.name ++ ", expected Locked"
  | redemptionClosed timelock now =>
    "redemption closed at " ++ decimalText timelock ++ " (now " ++ decimalText now ++ ")"
  | refundNotYetAvailable timelock now =>
    "refund not available before " ++ decimalText timelock ++ " (now " ++ decimalText now ++ ")"

inductive FundsError
  | insufficientFunds (asset : Asset) (required available : Amount)
  | insufficientAllowance (token : Address) (required approved : Amount)
  | custodianFunds
  | releaseToCustodian
  | balanceOverflow
  | custodyShort (asset : Asset) (held needed : Amount)
deriving DecidableEq

def FundsError.message : FundsError → String
  | insufficientFunds asset required available =>
    "Insufficient funds of " ++ asset.text ++ ": required " ++ required.decimal ++ ", available "
      ++ available.decimal
  | insufficientAllowance token required approved =>
    "Insufficient allowance for token " ++ token.prefixedHex ++ ": required " ++ required.decimal
      ++ ", approved " ++ approved.decimal
  | custodianFunds => "Transfer failed: custodian cannot fund escrow"
  | releaseToCustodian => "Transfer failed: cannot release to custodian"
  | balanceOverflow => "Transfer failed: balance overflow"
  | custodyShort .native held needed =>
    "Transfer failed: custody holds " ++ held.decimal ++ " native, release needs " ++ needed.decimal
  | custodyShort (.token contract) held needed =>
    "Transfer failed: custody holds " ++ held.decimal ++ " of token " ++ contract.prefixedHex
      ++ ", release needs " ++ needed.decimal

/-- Why a lock, a confirmation or a refund fails. -/
inductive TransferError
  | invalidParameters (cause : TermsError)
  | duplicateTransfer (id : TransferId)
  | notFound (id : TransferId)
  | invalidState (id : TransferId) (reason : SettlementError)
  | secretMismatch (id : TransferId)
  | assetTransferFailed (cause : FundsError)
deriving DecidableEq

namespace TransferError

/-- The label under which failures are counted. -/
def code : TransferError → String
  | invalidParameters _ => "invalid_parameters"
  | duplicateTransfer _ => "duplicate_transfer"
  | notFound _ => "not_found"
  | invalidState _ _ => "invalid_state"
  | secretMismatch _ => "secret_mismatch"
  | assetTransferFailed _ => "asset_transfer_failed"

def message : TransferError → String
  | invalidParameters cause => "Invalid parameters: " ++ cause.message
  | duplicateTransfer id => "Duplicate transfer: " ++ id.hex
  | notFound id => "Transfer not found: " ++ id.hex
  | invalidState id reason => "Invalid state for transfer " ++ id.hex ++ ": " ++ reason.message
  | secretMismatch id => "Secret mismatch for transfer " ++ id.hex
  | assetTransferFailed cause => "Asset transfer failed: " ++ cause.message

/-- The wordings of a failure and of the failure that caused it, if another one did. -/
def chain (e : TransferError) : List String :=
  match e with
  | invalidParameters cause => [e.message, cause.message]
  | assetTransferFailed cause => [e.message, cause.message]
  | _ => [e.message]

end TransferError

end AtomicSwap
