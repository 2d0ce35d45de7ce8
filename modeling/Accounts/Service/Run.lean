import Accounts.Service.Operations
import Accounts.Service.World

/-! # Runs

A run is a sequence of events: operations of the service, and what happens around them. The clocks
may move, together or the system's alone, commands may begin or cease to fail, and the accounts may
be changed by hand.
-/
namespace Accounts

/-- A request to the service. Each field may be missing. -/
inductive Operation where
  | signUp (email password firstName lastName : Option LooseText)
  | login (email password : Option LooseText)
  | forgotPassword (email : Option LooseText)
  | resetPassword (token newPassword : Option LooseText)
  | validateToken (accessToken : Option LooseText)
  deriving DecidableEq, Repr

inductive Answer where
  | signedUp (r : SignedUp)
  | loggedIn (r : LoggedIn)
  | status (r : Status)
  | validated (r : Validated)
  deriving DecidableEq, Repr

namespace Plan

variable {α β : Type}

def mapResult (f : α → β) (p : Plan α) : Plan β :=
  p.bind fun a => .done (.ok (f a))

end Plan

def Operation.plan (s : Service) : Operation → Plan Answer
  | .signUp email password firstName lastName =>
    (s.signUp email password firstName lastName).mapResult .signedUp
  | .login email password => (s.login email password).mapResult .loggedIn
  | .forgotPassword email => (s.forgotPassword email).mapResult .status
  | .resetPassword token newPassword => (s.resetPassword token newPassword).mapResult .status
  | .validateToken accessToken => (s.validateToken accessToken).mapResult .validated

def Service.perform (s : Service) (op : Operation) (w : World) : World × Except Failure Answer :=
  (op.plan s).run s w

namespace World

def advance (d : Duration) (w : World) : World × Except Failure Instant :=
  match Time.after? w.now d with
  | some t => ({ w with now := t, system := (Time.after? w.system d).getD w.system }, .ok t)
  | none => (w, .error (.broken .range))

def setSystem (t : Instant) (w : World) : World :=
  { w with system := if Time.isInstant t then t else w.system }

def changeUsers (email : String) (change : User → User) (w : World) : World × Nat :=
  ({ w with users := w.users.map fun u => if u.email = email then change u else u },
    w.users.countP (·.email = email))

def setActive (email : String) (active : Bool) (w : World) : World × Nat :=
  w.changeUsers email fun u => { u with isActive := active }

def setHash (email hash : String) (w : World) : World × Nat :=
  w.changeUsers email fun u => { u with passwordHash := hash }

def deleteUser (email : String) (w : World) : World × Nat :=
  ({ w with users := w.users.filter (·.email ≠ email) }, w.users.countP (·.email = email))

def dump (w : World) : Except Failure Users :=
  if w.outages.users.select then .error (.broken .database)
  else .ok (w.users.mergeSort fun a b => decide (a.email ≤ b.email))

end World

inductive Event where
  | operation (op : Operation)
  | advance (d : Duration)
  | setSystem (t : Instant)
  | outages (o : Outages)
  | activate (email : String) (active : Bool)
  deriving DecidableEq, Repr

def World.next (s : Service) (w : World) : Event → World
  | .operation op => (s.perform op w).1
  | .advance d => (w.advance d).1
  | .setSystem t => w.setSystem t
  | .outages o => { w with outages := o }
  | .activate email active => (w.setActive email active).1

def World.after (s : Service) (w : World) (events : List Event) : World :=
  events.foldl (World.next s) w

theorem Plan.run_mapResult {α β : Type} (s : Service) (f : α → β) (p : Plan α) (w : World) :
    (p.mapResult f).run s w = ((p.run s w).1, (p.run s w).2.map f) := by
  rw [mapResult, run_bind]
  rcases p.run s w with ⟨v, r | a⟩ <;> rfl

end Accounts
