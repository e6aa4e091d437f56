import AtomicSwap.Digest.Keccak
import AtomicSwap.Digest.Sha256
import AtomicSwap.Text

/-!
The schemes by which a secret is bound to its hashlock, and their names.
-/

set_option autoImplicit false
set_option relaxedAutoImplicit false

namespace AtomicSwap

/-- The digest that turns a preimage into its hashlock. -/
inductive Scheme
  | sha256 | sha3 | keccak256
deriving DecidableEq

namespace Scheme

def name : Scheme → String
  | sha256 => "sha256"
  | sha3 => "sha3_256"
  | keccak256 => "keccak256"

def digest : Scheme → List UInt8 → Bytes 32
  | sha256 => Sha256.digest
  | sha3 => Keccak.sha3
  | keccak256 => Keccak.keccak

def hashlock (scheme : Scheme) (preimage : Preimage) : Hashlock := scheme.digest preimage.toList

def opens (scheme : Scheme) (preimage : Preimage) (lock : Hashlock) : Bool :=
  scheme.hashlock preimage = lock

/-- A text that names no scheme, as it was compared. -/
structure UnknownName where
  normalized : String
deriving DecidableEq

def UnknownName.message (e : UnknownName) : String := "unknown hashlock scheme: " ++ e.normalized

/-- The form in which names are compared: small letters, and an underscore for each hyphen. -/
def normalize (s : String) : String := Text.replaceChar '-' '_' (Text.lower s)

/-- The scheme that a text names, in any case and with the usual spellings. -/
def ofText (s : String) : Except UnknownName Scheme :=
  let key := normalize s
  if key = "sha256" ∨ key = "sha_256" then .ok sha256
  else if key = "sha3_256" ∨ key = "sha3" then .ok sha3
  else if key = "keccak256" ∨ key = "keccak" then .ok keccak256
  else .error ⟨key⟩

end Scheme

end AtomicSwap
