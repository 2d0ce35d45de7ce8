import Accounts.Note
import Accounts.Time

/-! # The user table

Users are found by id and by email, both of which are unique and compared letter by letter. Times
that are given are those of the service's clock; those that the table fills in itself are the
system's. Statements of each sort can fail as a whole.
-/
namespace Accounts

structure User where
  id : String
  email : String
  passwordHash : String
  firstName : String
  lastName : String
  isActive : Bool
  createdAt : Instant
  updatedAt : Instant
  lastLoginAt : Option Instant
  deriving DecidableEq, Repr

/-- The fields of a user to be created. None may be missing. -/
structure Draft where
  email : Option String
  passwordHash : Option String
  firstName : Option String
  lastName : Option String
  deriving DecidableEq, Repr

abbrev Users := List User

namespace Users

structure Outages where
  select : Bool
  insert : Bool
  update : Bool
  deriving DecidableEq, Repr

def Outages.none : Outages := ⟨false, false, false⟩

def withEmail? (email : String) (us : Users) : Option User :=
  us.find? fun u => u.email == email

def withId? (id : String) (us : Users) : Option User :=
  us.find? fun u => u.id == id

def modify (id : String) (change : User → User) (us : Users) : Users :=
  us.map fun u => if u.id = id then change u else u

def rowFor? (id : String) (system : Instant) (d : Draft) : Option User := do
  let email ← d.email
  let passwordHash ← d.passwordHash
  let firstName ← d.firstName
  let lastName ← d.lastName
  pure ⟨id, email, passwordHash, firstName, lastName, true, system, system, none⟩

def isTaken (u : User) (us : Users) : Bool :=
  (us.withEmail? u.email).isSome || (us.withId? u.id).isSome

variable (outages : Outages)

/-- Adds an active user. The new row is read back, and if that fails the row stays. -/
def create (system : Instant) (id : String) (d : Draft) (us : Users) : Outcome Users User :=
  if outages.insert then .fault us (.users .create) [.userNotCreated]
  else
    match rowFor? id system d with
    | none => .fault us .emailTaken []
    | some u =>
      if us.isTaken u then .fault us .emailTaken []
      else if outages.select then .broken (us ++ [u]) .database
      else .ok (us ++ [u]) u

def findByEmail (email : Option String) (us : Users) : Outcome Users (Option User) :=
  if outages.select then .fault us (.users .lookUp) [.emailLookupFailed]
  else .ok us (email.bind fun e => us.withEmail? e)

def findById (id : Option String) (us : Users) : Outcome Users (Option User) :=
  if outages.select then .fault us (.users .lookUp) [.idLookupFailed id]
  else .ok us (id.bind fun i => us.withId? i)

/-- Changes the row with an id at an instant, and says whether there is one. `change` is missing if
the new value is not allowed in its column. -/
def update (moment : Instant) (columns : List String) (change : Option (User → User))
    (id : Option String) (us : Users) : Outcome Users Bool :=
  if outages.update then .fault us (.users .update) [.updateFailed id columns]
  else
    match id.bind fun i => us.withId? i with
    | none => .ok us false
    | some u =>
      match change with
      | none => .fault us (.users .update) [.updateFailed id columns]
      | some f => .ok (us.modify u.id fun u => { f u with updatedAt := moment }) true

def updatePassword (now : Instant) (id hash : Option String) (us : Users) : Outcome Users Bool :=
  update outages now ["password_hash", "updated_at"]
    (hash.map fun h u => { u with passwordHash := h }) id us

/-- Records a login at an instant, or now. The time of the change is the system's. -/
def updateLastLogin (now system : Instant) (id : Option String) (at? : Option Instant)
    (us : Users) : Outcome Users Bool :=
  update outages system ["last_login_at"]
    (some fun u => { u with lastLoginAt := some (at?.getD now) }) id us

end Users

end Accounts
