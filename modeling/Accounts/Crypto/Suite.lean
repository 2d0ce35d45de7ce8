import Accounts.Crypto.Sha2
import Accounts.Crypto.Bcrypt
import Accounts.Json.Reader

/-! # Primitives

What the rest of the library takes from the platform is a record: two functions of cryptography, and
how deep JSON may be nested. So a statement about accounts can be made for every choice of them. The
standard choice is given beside it.
-/
namespace Accounts

inductive MacAlgorithm where
  | hs256
  | hs384
  | hs512
  deriving DecidableEq, Repr

def MacAlgorithm.name : MacAlgorithm → String
  | .hs256 => "HS256"
  | .hs384 => "HS384"
  | .hs512 => "HS512"

def MacAlgorithm.ofName? (s : String) : Option MacAlgorithm :=
  if s = MacAlgorithm.hs256.name then some .hs256
  else if s = MacAlgorithm.hs384.name then some .hs384
  else if s = MacAlgorithm.hs512.name then some .hs512
  else none

/-- A keyed hash for each algorithm, a digest of a cost, a salt and 72 bytes of key material, and
the depth to which JSON is followed. -/
structure Suite where
  mac : MacAlgorithm → (key msg : Bytes) → Bytes
  digest : (cost : Nat) → (salt : Vector UInt8 16) → (material : Bytes) → Vector UInt8 23
  nesting : Json.Nesting

/-- The keyed hashes of the SHA-2 family and bcrypt, and what a thousand frames leave for JSON. -/
def Suite.standard : Suite where
  mac
    | .hs256 => Crypto.hmac Crypto.Sha2.sha256
    | .hs384 => Crypto.hmac Crypto.Sha2.sha384
    | .hs512 => Crypto.hmac Crypto.Sha2.sha512
  digest cost salt material := Crypto.Bcrypt.digest cost salt.toList material
  nesting := ⟨960, 963, 960, 900, 880⟩

theorem MacAlgorithm.ofName?_name (a : MacAlgorithm) : ofName? a.name = some a := by
  cases a <;> decide

theorem MacAlgorithm.eq_name_of_ofName? {s : String} {a : MacAlgorithm} (h : ofName? s = some a) :
    s = a.name := by
  unfold ofName? at h
  grind

end Accounts
