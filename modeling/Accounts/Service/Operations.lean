import Accounts.ResetLink
import Accounts.Service.Call

/-! # The operations of the service

Sign-up, login, the two steps of a password reset, and the check of an access token. Each validates
its fields before the first call. Answers about unknown emails, wrong passwords and inactive
accounts are alike, and a reset is answered alike whether or not the email is known.
-/
namespace Accounts

structure PublicUser where
  id : String
  email : String
  firstName : String
  lastName : String
  deriving DecidableEq, Repr

def User.toPublic (u : User) : PublicUser :=
  ⟨u.id, u.email, u.firstName, u.lastName⟩

structure SignedUp where
  success : Bool
  message : String
  user : PublicUser
  deriving DecidableEq, Repr

/-- A pair of tokens, and the seconds for which the first one gives access. -/
structure LoggedIn where
  accessToken : String
  refreshToken : String
  expiresIn : Int
  user : PublicUser
  deriving DecidableEq, Repr

structure Status where
  success : Bool
  message : String
  deriving DecidableEq, Repr

structure Validated where
  valid : Bool
  user : PublicUser
  message : String
  deriving DecidableEq, Repr

namespace Service

variable (s : Service)

def roundsBreakage : Password.RoundsFault → Breakage
  | .unrepresentable => .range
  | .outOfRange => .value

def hash (password : String) : Plan String :=
  match Password.costOfRounds s.rounds with
  | .error e => .crash (roundsBreakage e)
  | .ok cost => do
    let salt ← Plan.ask .drawSalt
    if Password.isTooLong password then .crash .value
    else pure (Password.compute s.suite ⟨.b, cost, salt⟩ password)

def secretText {n : Nat} (bytes : Vector UInt8 n) : String :=
  String.ofList (Encoding.Base64.encode bytes.toList)

def resetTokenSize : Nat := 32

def dummySize : Nat := 16

/-- The hash that is checked when no account matches. It is made once. -/
def dummyHash : Plan String := do
  match ← Plan.ask .recallDummy with
  | some h => pure h
  | none =>
    let secret ← Plan.ask (.drawSecret dummySize)
    let h ← s.hash (secretText secret)
    Plan.ask (.keepDummy h)
    pure h

def issueToken (subject : String) (ttl : Duration) (type : String) : Plan Token.Issued := do
  match ← Plan.ask (.issueToken s.authority subject ttl type) with
  | .ok issued => pure issued
  | .error b => .crash b

/-- The password in a field that is to set one. It must be long enough before it must have bytes. -/
def newPassword (field : Option LooseText) : Plan String := do
  let t ← Plan.valid (Validation.passwordText field)
  let password ← Plan.encodable t
  Plan.valid (Validation.strongPassword password)

/-- Checks a password against a stored text. That the password has no bytes matters only if the text
has the form of a hash. -/
def checkPassword (stored : String) (password : LooseText) :
    Plan (Except Password.Corruption Bool) :=
  match password.string? with
  | some p => Plan.ask (.checkPassword stored p)
  | none =>
    match Password.Shape.ofChars? stored.toList with
    | some _ => .crash .encoding
    | none => pure (.error .format)

def signUp (email password firstName lastName : Option LooseText) : Plan SignedUp := do
  let email ← Plan.valid (Validation.email email)
  let password ← newPassword password
  let firstName ← Plan.valid (Validation.name "first_name" firstName)
  let lastName ← Plan.valid (Validation.name "last_name" lastName)
  let h ← s.hash password
  let created ← Plan.ask (.createUser ⟨some email, some h, some firstName, some lastName⟩)
  let user ← Plan.ofExcept created
  Plan.log (.registered user.id)
  pure ⟨true, "User registered successfully", user.toPublic⟩

/-- Spends as much on an unknown email as on a known one; what the check gives does not matter. -/
def rejectUnknown (password : LooseText) : Plan LoggedIn := do
  let dummy ← s.dummyHash
  let _ ← checkPassword dummy password
  .fail .wrongCredentials

def startSession (user : User) : Plan LoggedIn := do
  let access ← s.issueToken user.id s.lifetimes.access Token.accessType
  let refresh ← s.issueToken user.id s.lifetimes.refresh Token.refreshType
  let now ← Plan.ask .now
  let registered ← Plan.ask
    (.putSession (Session.refreshKey user.id) refresh.token (refresh.expiresAt - now))
  Plan.ofExcept registered
  match ← Plan.ask (.updateLastLogin (some user.id) none) with
  | .ok _ => pure ()
  | .error (.fault _) => Plan.log (.lastLoginLost user.id)
  | .error (.broken b) => .crash b
  pure ⟨access.token, refresh.token, Time.wholeSeconds s.lifetimes.access, user.toPublic⟩

def login (email password : Option LooseText) : Plan LoggedIn := do
  let email ← Plan.valid (Validation.email email)
  let password ← Plan.valid (Validation.presentedPassword password)
  let found ← Plan.ask (.findByEmail (some email))
  match ← Plan.ofExcept found with
  | none => s.rejectUnknown password
  | some user =>
    match ← checkPassword user.passwordHash password with
    | .error corruption =>
      Plan.log (.corruptedHash user.id corruption)
      .fail .corruptedCredentials
    | .ok matched =>
      if matched && user.isActive then s.startSession user
      else .fail .wrongCredentials

def resetRequested : Status :=
  ⟨true, "If your email is registered, you will receive a password reset link"⟩

def sendResetToken (user : User) : Plan Unit := do
  let secret ← Plan.ask (.drawSecret resetTokenSize)
  let token := secretText secret
  let registered ← Plan.ask (.putSession (Session.resetKey token) user.id s.lifetimes.reset)
  Plan.ofExcept registered
  Plan.log (.resetLink user.id (resetLink s.resetBase token) (Time.minutes s.lifetimes.reset))

def forgotPassword (email : Option LooseText) : Plan Status := do
  let email ← Plan.valid (Validation.email email)
  let found ← Plan.ask (.findByEmail (some email))
  match ← Plan.ofExcept found with
  | none => pure ()
  | some user => s.sendResetToken user
  pure resetRequested

/-- Sets a new password for whoever has a reset token, and revokes the renewal token. The reset
token is gone as soon as it is read. -/
def resetPassword (token newPassword : Option LooseText) : Plan Status := do
  let token ← Plan.valid (Validation.token token)
  let password ← Service.newPassword newPassword
  let popped ← Plan.ask (.popSession (Session.resetKey token))
  match ← Plan.ofExcept popped with
  | none => .fail .wrongResetToken
  | some userId =>
    let h ← s.hash password
    let updated ← Plan.ask (.updatePassword (some userId) (some h))
    if ← Plan.ofExcept updated then
      let deleted ← Plan.ask (.deleteSession (Session.refreshKey userId))
      Plan.ofExcept deleted
      Plan.log (.passwordReset userId)
      pure ⟨true, "Password reset successfully"⟩
    else .fail .wrongResetToken

def validateToken (accessToken : Option LooseText) : Plan Validated := do
  match Validation.token accessToken with
  | .error _ => .fail .wrongToken
  | .ok accessToken =>
    let system ← Plan.ask .systemTime
    let now ← Plan.ask .now
    match Token.verify s.suite s.authority now system (some Token.accessType) accessToken with
    | .error (.refused _) => .fail .wrongToken
    | .error (.broken b) => .crash b
    | .ok claims =>
      match claims.subject.string?.bind Uuid.ofText? with
      | none =>
        Plan.log (.unreadableSubject claims.subject)
        .fail .subjectNotId
      | some id =>
        let found ← Plan.ask (.findById (some id.text))
        match ← Plan.ofExcept found with
        | none => .fail .wrongToken
        | some user =>
          if user.isActive then pure ⟨true, user.toPublic, "token is valid"⟩
          else .fail .wrongToken

end Service

end Accounts
