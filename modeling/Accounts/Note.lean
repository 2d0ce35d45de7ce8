import Accounts.Failure
import Accounts.Password.Hasher

/-! # Log notes

Everything the service writes to its log. A note is an event with its details; level and wording
follow from it.
-/
namespace Accounts

inductive Level where
  | info
  | warning
  | error
  deriving DecidableEq, Repr

def Level.name : Level → String
  | .info => "INFO"
  | .warning => "WARNING"
  | .error => "ERROR"

inductive SessionAction where
  | write
  | read
  | delete
  deriving DecidableEq, Repr

def SessionAction.word : SessionAction → String
  | .write => "write"
  | .read => "read"
  | .delete => "delete"

inductive Note where
  | registered (userId : String)
  | corruptedHash (userId : String) (corruption : Password.Corruption)
  | lastLoginLost (userId : String)
  | resetLink (userId link : String) (minutes : Int)
  | passwordReset (userId : String)
  | unreadableSubject (subject : LooseText)
  | userNotCreated
  | emailLookupFailed
  | idLookupFailed (userId : Option String)
  | updateFailed (userId : Option String) (columns : List String)
  | sessionsFailed (action : SessionAction) (family : String)
  | databaseUnreachable
  | requestFailed (method path : String) (fault : Fault)
  /-- A request, its status, the milliseconds it took, and who sent it. -/
  | audit (method path : String) (status : Nat) (took : Double) (client : String)
  deriving DecidableEq, Repr

namespace Note

def level : Note → Level
  | .registered _ | .resetLink .. | .passwordReset _ | .audit .. => .info
  | .lastLoginLost _ => .warning
  | _ => .error

def idText (id : Option String) : String :=
  id.getD "None"

def text : Note → String
  | .registered userId => "Registered user " ++ userId
  | .corruptedHash userId corruption =>
    "Corrupted password hash for user " ++ userId ++ ": " ++ corruption.message
  | .lastLoginLost userId => "Could not record last login for user " ++ userId
  | .resetLink userId link minutes =>
    "PASSWORD RESET for user " ++ userId ++ ": " ++ link ++ " (expires in " ++ toString minutes ++
      " minutes)"
  | .passwordReset userId => "Password reset for user " ++ userId
  | .unreadableSubject subject =>
    "Signed token carries unparsable subject " ++ Text.quoted subject
  | .userNotCreated => "Failed to create user"
  | .emailLookupFailed => "Failed to look up user by email"
  | .idLookupFailed userId => "Failed to look up user " ++ idText userId
  | .updateFailed userId columns =>
    "Failed to update user " ++ idText userId ++ " (" ++ ", ".intercalate columns ++ ")"
  | .sessionsFailed action family => "Session store " ++ action.word ++ " failed for " ++ family
  | .databaseUnreachable => "Health check: database unreachable"
  | .requestFailed method path fault =>
    method ++ " " ++ path ++ " failed: " ++ fault.kind.code ++ " (" ++ fault.message ++ ")"
  | .audit method path status took client =>
    "AUDIT " ++ method ++ " " ++ path ++ " -> " ++ toString status ++ " (" ++ took.wholeText ++
      "ms) from " ++ client

end Note

/-- What comes of one step on a state: the state after it, the answer, and what is logged. -/
structure Outcome (σ α : Type) where
  state : σ
  answer : Except Failure α
  notes : List Note

namespace Outcome

variable {σ α : Type}

def ok (state : σ) (a : α) : Outcome σ α := ⟨state, .ok a, []⟩

def fault (state : σ) (f : Fault) (notes : List Note) : Outcome σ α :=
  ⟨state, .error (.fault f), notes⟩

def broken (state : σ) (b : Breakage) : Outcome σ α := ⟨state, .error (.broken b), []⟩

end Outcome

end Accounts
