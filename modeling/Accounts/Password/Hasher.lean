import Accounts.Password.Stored
import Accounts.Crypto.Suite

/-! # Hashing and checking passwords

A hash is made from a fresh salt and the configured cost, and checked by making it again from the
salt and the cost it holds. A stored text from which no hash can be made is told apart from a wrong
password, except that a password too long for the digest is wrong before the parameters are read.
-/
namespace Accounts.Password

def compute (suite : Suite) (p : Params) (password : String) : String :=
  let digest := suite.digest p.cost p.salt (Crypto.Bcrypt.keyMaterial (Text.utf8 password))
  String.ofList (p.chars ++ Encoding.encodeSextets letter digest.toList)

/-- The password has more bytes than the digest takes. -/
def isTooLong (password : String) : Bool :=
  Crypto.Bcrypt.maxBytes < (Text.utf8 password).length

inductive RoundsFault where
  | unrepresentable
  | outOfRange
  deriving DecidableEq, Repr

def costOfRounds (rounds : Int) : Except RoundsFault Nat :=
  if rounds < 0 ∨ 65535 < rounds then .error .unrepresentable
  else if rounds < minCost ∨ maxCost < rounds then .error .outOfRange
  else .ok rounds.toNat

inductive Corruption where
  | format
  | salt
  deriving DecidableEq, Repr

def Corruption.message : Corruption → String
  | .format => "stored password hash has an invalid format"
  | .salt => "stored password hash is corrupted: Invalid salt"

def verify (suite : Suite) (stored password : String) : Except Corruption Bool :=
  match Shape.ofChars? stored.toList with
  | none => .error .format
  | some shape =>
    if isTooLong password then .ok false
    else
      match shape.params? with
      | none => .error .salt
      | some p => .ok (compute suite p password == stored)

end Accounts.Password
