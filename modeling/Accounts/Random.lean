import Accounts.Crypto.Sha2

/-! # Random draws

Three kinds of random values are drawn: ids, secrets and salts. A source says what each draw gives,
counted from zero for each kind; how many draws were made is part of the state of the world.
-/
namespace Accounts

structure Source where
  identifier : Nat → Vector UInt8 16
  secret : Nat → (size : Nat) → Vector UInt8 size
  salt : Nat → Vector UInt8 16

structure Draws where
  identifiers : Nat
  secrets : Nat
  salts : Nat
  deriving DecidableEq, Repr

def Draws.none : Draws := ⟨0, 0, 0⟩

namespace Source

/-- The first bytes of the hash of a kind and a count. Sizes above 32 are filled up with zeros. -/
def hashed (kind : String) (k size : Nat) : Vector UInt8 size :=
  let bs := (Crypto.Sha2.hash Crypto.Sha2.sha256 (Text.utf8 (kind ++ ":" ++ toString k))).toArray
  Vector.ofFn fun i => bs.getD i 0

def reproducible : Source where
  identifier k := hashed "uuid" k 16
  secret k size := hashed "token" k size
  salt k := hashed "salt" k 16

end Source

end Accounts
