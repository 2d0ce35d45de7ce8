import Accounts.Breakage
import Accounts.Validation

/-! # Failures

A failure of the service is of one of six kinds, and the kind alone decides how it is answered. What
goes wrong in a store or inside the service is not shown to the caller.
-/
namespace Accounts

inductive Kind where
  | validation
  | alreadyExists
  | unauthorized
  | badRequest
  | store
  | internal
  deriving DecidableEq, Repr

namespace Kind

def code : Kind → String
  | .validation => "validation_error"
  | .alreadyExists => "already_exists"
  | .unauthorized => "unauthorized"
  | .badRequest => "bad_request"
  | .store => "store_error"
  | .internal => "internal"

def status : Kind → Nat
  | .validation => 400
  | .alreadyExists => 409
  | .unauthorized => 401
  | .badRequest => 400
  | .store => 503
  | .internal => 500

def isShown : Kind → Bool
  | .validation | .alreadyExists | .unauthorized | .badRequest => true
  | .store | .internal => false

def publicMessage (kind : Kind) (message : String) : String :=
  if kind.isShown then message else "internal server error"

end Kind

inductive TableAction where
  | create
  | lookUp
  | update
  deriving DecidableEq, Repr

/-- The failures that the service answers for. -/
inductive Fault where
  | invalid (problem : Validation.Problem)
  | emailTaken
  | wrongCredentials
  | wrongToken
  | notAuthenticated
  | wrongResetToken
  | users (action : TableAction)
  | sessions
  | corruptedCredentials
  | subjectNotId
  deriving DecidableEq, Repr

namespace Fault

def kind : Fault → Kind
  | .invalid _ => .validation
  | .emailTaken => .alreadyExists
  | .wrongCredentials | .wrongToken | .notAuthenticated => .unauthorized
  | .wrongResetToken => .badRequest
  | .users _ | .sessions | .corruptedCredentials => .store
  | .subjectNotId => .internal

def message : Fault → String
  | .invalid problem => problem.message
  | .emailTaken => "email already registered"
  | .wrongCredentials => "invalid email or password"
  | .wrongToken => "invalid or expired token"
  | .notAuthenticated => "Not authenticated"
  | .wrongResetToken => "invalid or expired reset token"
  | .users .create => "failed to create user"
  | .users .lookUp => "failed to look up user"
  | .users .update => "failed to update user"
  | .sessions => "session store unavailable"
  | .corruptedCredentials => "stored credentials are corrupted"
  | .subjectNotId => "token subject is not a valid user id"

end Fault

/-- An operation fails in a way it answers for, or breaks. -/
inductive Failure where
  | fault (f : Fault)
  | broken (b : Breakage)
  deriving Repr

end Accounts
