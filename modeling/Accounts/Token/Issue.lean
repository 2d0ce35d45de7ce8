import Accounts.Token.Key
import Accounts.Token.Claims
import Accounts.Uuid

/-! # Issuing tokens

A token has a header, claims and a signature, each in base64 and with dots between them. The
instants in the claims are whole seconds: the issue is rounded down and the expiry up, so that a
token never lives shorter than was asked for.
-/
namespace Accounts.Token

/-- Who signs: the secret, the name of the algorithm and the issuer's name. -/
structure Authority where
  secret : String
  algorithm : String
  issuer : String
  deriving DecidableEq, Repr

structure Issued where
  token : String
  expiresAt : Instant
  deriving DecidableEq, Repr

def accessType : String := "access"

def refreshType : String := "refresh"

structure Contents where
  subject : String
  issuedAt : Int
  expiresAt : Int
  id : String
  issuer : String
  type : String
  deriving DecidableEq, Repr

def Contents.json (c : Contents) : Json :=
  .object [("sub", .text c.subject), ("iat", .int c.issuedAt), ("exp", .int c.expiresAt),
    ("jti", .text c.id), ("iss", .text c.issuer), ("type", .text c.type)]

def header (algorithm : String) : Json :=
  .object [("alg", .text algorithm), ("typ", .text "JWT")]

def segment (v : Json) : List Char :=
  Encoding.Base64.encode (Text.utf8 v.write)

def signedPart (algorithm : String) (claims : Json) : List Char :=
  segment (header algorithm) ++ '.' :: segment claims

def sign (suite : Suite) (authority : Authority) (claims : Json) : Except SigningFault String :=
  match MacAlgorithm.ofName? authority.algorithm with
  | none => .error (.unsupported authority.algorithm)
  | some algorithm =>
    match signingKey authority.secret with
    | .error fault => .error (.key fault)
    | .ok key =>
      let part := signedPart authority.algorithm claims
      let mac := suite.mac algorithm key (Text.utf8 (String.ofList part))
      .ok (String.ofList (part ++ '.' :: Encoding.Base64.encode mac))

def lifespan (now : Instant) (ttl : Duration) : Except Breakage (Int × Int) :=
  match Time.after? now ttl with
  | none => .error .range
  | some expiry => .ok (Time.floorSeconds now, Time.ceilSeconds expiry)

def finish (suite : Suite) (authority : Authority) (subject type : String) (times : Int × Int)
    (id : Uuid) : Except Breakage Issued :=
  let contents : Contents := ⟨subject, times.1, times.2, id.text, authority.issuer, type⟩
  match sign suite authority contents.json with
  | .error fault => .error (.signing fault)
  | .ok token =>
    match Time.ofSeconds times.2 with
    | .ok expiresAt => .ok ⟨token, expiresAt⟩
    | .error .uncountable => .error .calendar
    | .error .outOfCalendar => .error .value

def issue (suite : Suite) (authority : Authority) (now : Instant) (id : Uuid) (subject : String)
    (ttl : Duration) (type : String) : Except Breakage Issued := do
  let times ← lifespan now ttl
  finish suite authority subject type times id

end Accounts.Token
