import Accounts.Breakage
import Accounts.Time
import Accounts.Text.Integer

/-! # Claims

What a token says about its subject, and the reasons for which a token is refused. A claim that
should be a number may be any value with an integer in it: a number, a truth value or a numeral.
-/
namespace Accounts.Token

structure Claims where
  subject : LooseText
  type : LooseText
  id : LooseText
  issuedAt : Instant
  expiresAt : Instant
  deriving DecidableEq, Repr

/-- What is wrong with the claims of a token that is signed properly. -/
inductive ClaimFault where
  | issuedAt
  | notBefore
  | notYetValid
  | audienceForm
  | audience
  | issuer
  | subject
  | id
  | accessHash
  | missing (name : String)
  | values
  deriving DecidableEq, Repr

inductive Refusal where
  | undecodable
  | claimsText
  | claimsForm
  | noAlgorithm
  | otherAlgorithm
  | signature
  | claims (fault : ClaimFault)
  | expired
  | otherType (expected : String) (actual : LooseText)
  deriving DecidableEq, Repr

inductive Refusal.Category where
  | malformed
  | unsigned
  | expired
  | otherType
  deriving DecidableEq, Repr

def Refusal.category : Refusal → Refusal.Category
  | .undecodable | .claimsText | .claimsForm | .claims _ => .malformed
  | .noAlgorithm | .otherAlgorithm | .signature => .unsigned
  | .expired => .expired
  | .otherType .. => .otherType

def ClaimFault.message : ClaimFault → String
  | .issuedAt => "Issued At claim (iat) must be an integer."
  | .notBefore => "Not Before claim (nbf) must be an integer."
  | .notYetValid => "The token is not yet valid (nbf)"
  | .audienceForm => "Invalid claim format in token"
  | .audience => "Invalid audience"
  | .issuer => "Invalid issuer"
  | .subject => "Subject must be a string."
  | .id => "JWT ID must be a string."
  | .accessHash => "No access_token provided to compare against at_hash claim."
  | .missing name => "invalid token claims: " ++ Text.quoted name
  | .values => "invalid token claims"

def Refusal.message : Refusal → LooseText
  | .undecodable => "Error decoding token headers."
  | .claimsText => "Invalid claims string"
  | .claimsForm => "Invalid claims string: must be a json object"
  | .noAlgorithm => "No algorithm was specified in the JWS header."
  | .otherAlgorithm => "The specified alg value is not allowed"
  | .signature => "Signature verification failed."
  | .claims fault => fault.message
  | .expired => "token has expired"
  | .otherType expected actual =>
    LooseText.ofString ("expected " ++ expected ++ " token, got ") ++ actual

inductive Failure where
  | refused (r : Refusal)
  | broken (b : Breakage)
  deriving Repr

inductive IntegerFault where
  | value
  | type
  | range
  deriving DecidableEq, Repr

def integerIn : Json → Except IntegerFault Int
  | .int n => .ok n
  | .bool b => .ok (if b then 1 else 0)
  | .text t =>
    match t.string?.bind Text.Integer.ofDecimal? with
    | some n => .ok n
    | none => .error .value
  | .real x =>
    match x.truncate?, x with
    | some n, _ => .ok n
    | none, .nan => .error .value
    | none, _ => .error .range
  | _ => .error .type

def IntegerFault.breakage : IntegerFault → Breakage
  | .value => .value
  | .type => .type
  | .range => .range

end Accounts.Token
