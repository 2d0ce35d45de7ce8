import Accounts.Token.Issue

/-! # Checking tokens

A token is taken apart, its signature is checked, and only then are its claims looked at: first
those with a standard meaning, then the ones that are returned, then the expiry and the type.
-/
namespace Accounts.Token

def splitLast (b : UInt8) (bs : Bytes) : Option (Bytes × Bytes) :=
  match bs.reverse.dropWhile (· != b) with
  | [] => none
  | _ :: before => some (before.reverse, (bs.reverse.takeWhile (· != b)).reverse)

def splitFirst (b : UInt8) (bs : Bytes) : Option (Bytes × Bytes) :=
  match bs.dropWhile (· != b) with
  | [] => none
  | _ :: after => some (bs.takeWhile (· != b), after)

def dot : UInt8 := 46

/-- The three parts of a token. What is signed are the first two with the dot between them. -/
structure Parts where
  signed : Bytes
  header : Bytes
  payload : Bytes
  signature : Bytes
  deriving DecidableEq, Repr

def Parts.ofText? (token : LooseText) : Option Parts := do
  let (signed, signature) ← splitLast dot (Text.utf8 (← token.string?))
  let (header, payload) ← splitFirst dot signed
  pure ⟨signed, header, payload, signature⟩

def jsonIn (depth : Nat) (bs : Bytes) : Option Json :=
  (Text.ofUtf8? bs).bind (Json.read? depth)

def isTooDeep (depth : Nat) (bs : Bytes) : Bool :=
  (Text.ofUtf8? bs).any (Json.isTooDeep depth)

structure Decoded where
  signed : Bytes
  header : Json.Members
  payload : Json.Members
  signature : Bytes

def Parts.decode? (depth : Nat) (p : Parts) : Option (Json.Members × Bytes × Bytes) := do
  let header ← Encoding.Base64.decode? p.header
  match ← jsonIn depth header with
  | .object ms =>
    let payload ← Encoding.Base64.decode? p.payload
    let signature ← Encoding.Base64.decode? p.signature
    pure (ms, payload, signature)
  | _ => none

/-- Takes a token apart. A header that is nested too deep is like any other that cannot be read; a
payload that is breaks the check. -/
def decode (nesting : Json.Nesting) (token : LooseText) : Except Failure Decoded :=
  match Parts.ofText? token with
  | none => .error (.refused .undecodable)
  | some parts =>
    match parts.decode? nesting.header with
    | none => .error (.refused .undecodable)
    | some (header, payload, signature) =>
      if isTooDeep nesting.payload payload then .error (.broken .tooDeep)
      else
        match jsonIn nesting.payload payload with
        | none => .error (.refused .claimsText)
        | some (.object claims) => .ok ⟨parts.signed, header, claims, signature⟩
        | some _ => .error (.refused .claimsForm)

/-- Tries the keys one after the other. A key that cannot be used breaks the check. -/
def anyKeyMatches (suite : Suite) (algorithm : String) (d : Decoded) :
    List Json → Except Breakage Bool
  | [] => .ok false
  | key :: r =>
    match MacAlgorithm.ofName? algorithm with
    | none => .error (.key .noAlgorithm)
    | some a => do
      let bytes ← keyBytes key
      if suite.mac a bytes d.signed = d.signature then pure true
      else anyKeyMatches suite algorithm d r

def checkSignature (suite : Suite) (authority : Authority) (d : Decoded) : Except Failure Unit :=
  let named := (d.header.get? "alg").getD .null
  if named.isFalsy then .error (.refused .noAlgorithm)
  else if named.string? != some authority.algorithm then .error (.refused .otherAlgorithm)
  else
    match checkingKeys suite.nesting.secret authority.secret with
    | .error b => .error (.broken b)
    | .ok keys =>
      match anyKeyMatches suite authority.algorithm d keys with
      | .error b => .error (.broken b)
      | .ok true => .ok ()
      | .ok false => .error (.refused .signature)

def requireInteger (fault : ClaimFault) (v : Json) : Except Failure Int :=
  match integerIn v with
  | .ok n => .ok n
  | .error .value => .error (.refused (.claims fault))
  | .error e => .error (.broken e.breakage)

def checkIssuedAt (ms : Json.Members) : Except Failure Unit :=
  match ms.get? "iat" with
  | none => .ok ()
  | some v => (requireInteger .issuedAt v).map fun _ => ()

/-- The token must be valid already by the system's clock; seconds count in full. -/
def checkNotBefore (system : Instant) (ms : Json.Members) : Except Failure Unit :=
  match ms.get? "nbf" with
  | none => .ok ()
  | some v => do
    let n ← requireInteger .notBefore v
    if system / Time.second < n then .error (.refused (.claims .notYetValid)) else .ok ()

def audienceFault (v : Json) : ClaimFault :=
  match v with
  | .text _ => .audience
  | .list items => if items.all fun i => i.text?.isSome then .audience else .audienceForm
  | _ => .audienceForm

def checkAudience (ms : Json.Members) : Except Failure Unit :=
  match ms.get? "aud" with
  | none => .ok ()
  | some v => .error (.refused (.claims (audienceFault v)))

def checkIssuer (issuer : String) (ms : Json.Members) : Except Failure Unit :=
  if (ms.get? "iss").bind Json.string? = some issuer then .ok ()
  else .error (.refused (.claims .issuer))

def checkText (name : String) (fault : ClaimFault) (ms : Json.Members) : Except Failure Unit :=
  match ms.get? name with
  | none => .ok ()
  | some v => if v.text?.isSome then .ok () else .error (.refused (.claims fault))

def checkAccessHash (ms : Json.Members) : Except Failure Unit :=
  if (ms.get? "at_hash").isSome then .error (.refused (.claims .accessHash)) else .ok ()

def checkClaims (issuer : String) (system : Instant) (ms : Json.Members) : Except Failure Unit := do
  checkIssuedAt ms
  checkNotBefore system ms
  checkAudience ms
  checkIssuer issuer ms
  checkText "sub" .subject ms
  checkText "jti" .id ms
  checkAccessHash ms

def require (name : String) (ms : Json.Members) : Except Failure Json :=
  match ms.get? name with
  | some v => .ok v
  | none => .error (.refused (.claims (.missing name)))

def instantIn (name : String) (ms : Json.Members) : Except Failure Instant := do
  let v ← require name ms
  match integerIn v with
  | .error _ => .error (.refused (.claims .values))
  | .ok n =>
    match Time.ofSeconds n with
    | .ok t => .ok t
    | .error .outOfCalendar => .error (.refused (.claims .values))
    | .error .uncountable => .error (.broken .calendar)

def textOf (name : String) (ms : Json.Members) : LooseText :=
  ((ms.get? name).getD (.text "")).shown

def claimsIn (ms : Json.Members) : Except Failure Claims := do
  let subject ← require "sub" ms
  let issuedAt ← instantIn "iat" ms
  let expiresAt ← instantIn "exp" ms
  pure ⟨subject.shown, textOf "type" ms, textOf "jti" ms, issuedAt, expiresAt⟩

def checkUse (now : Instant) (expected : Option String) (c : Claims) : Except Failure Claims :=
  if c.expiresAt ≤ now then .error (.refused .expired)
  else
    match expected with
    | none => .ok c
    | some type =>
      if c.type = type then .ok c else .error (.refused (.otherType type c.type))

/-- The claims of a token that is valid now and of the expected type. Whether it is valid already is
for the system's clock to say. -/
def verify (suite : Suite) (authority : Authority) (now system : Instant) (expected : Option String)
    (token : LooseText) : Except Failure Claims := do
  let d ← decode suite.nesting token
  checkSignature suite authority d
  checkClaims authority.issuer system d.payload
  let c ← claimsIn d.payload
  checkUse now expected c

end Accounts.Token
