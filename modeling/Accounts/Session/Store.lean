import Accounts.Session.Entries
import Accounts.Note

/-! # The session store

Tokens are registered under keys for a limited time. The store keeps its entries in memory or on a
server. In memory a deadline is exact; the server counts lifetimes in whole seconds, rounded up and
at least one, and any of its commands may fail.
-/
namespace Accounts.Session

def refreshKey (userId : String) : LooseText := LooseText.ofString ("refresh:" ++ userId)

def resetKey (token : LooseText) : LooseText := LooseText.ofString "reset:" ++ token

def family (key : LooseText) : String :=
  String.ofList (key.shown.toList.takeWhile (· != ':'))

inductive Backing where
  | memory
  | server
  deriving DecidableEq, Repr

/-- The commands of the server that fail, and what it answers to a ping. -/
structure Outages where
  set : Bool
  get : Bool
  getdel : Bool
  delete : Bool
  ping : Bool
  pong : Bool
  deriving DecidableEq, Repr

def Outages.none : Outages := ⟨false, false, false, false, false, true⟩

def ttlSeconds (ttl : Duration) : Int :=
  max 1 (Time.ceilSeconds ttl)

inductive Command where
  | set (key : LooseText) (value : String) (seconds : Int)
  | get (key : LooseText)
  | getdel (key : LooseText)
  | delete (key : LooseText)
  | ping
  deriving DecidableEq, Repr

inductive Operation where
  | put (key : LooseText) (value : String) (ttl : Duration)
  | get (key : LooseText)
  | pop (key : LooseText)
  | delete (key : LooseText)
  | ping
  deriving DecidableEq, Repr

def Operation.command : Operation → Command
  | .put key value ttl => .set key value (ttlSeconds ttl)
  | .get key => .get key
  | .pop key => .getdel key
  | .delete key => .delete key
  | .ping => .ping

def Backing.lifetime : Backing → Duration → Duration
  | .memory, ttl => ttl
  | .server, ttl => ttlSeconds ttl * Time.second

/-- The deadline of an entry that is put now. In memory it must have a date; the server only counts
the seconds that are left. -/
def Backing.deadline? (backing : Backing) (now : Instant) (ttl : Duration) : Option Instant :=
  match backing with
  | .memory => Time.after? now ttl
  | .server => some (now + backing.lifetime ttl)

theorem Backing.deadline?_eq_some_iff {backing : Backing} {now t : Instant} {ttl : Duration} :
    backing.deadline? now ttl = some t ↔ t = now + backing.lifetime ttl ∧
      (backing = .memory → Time.isInstant (now + ttl) = true) := by
  cases backing with
  | memory =>
    by_cases h : Time.isInstant (now + ttl) = true
    · simp only [deadline?, Time.after?, h, lifetime, if_true, Option.some.injEq, implies_true,
        and_true]
      exact eq_comm
    · simp [deadline?, Time.after?, h]
  | server =>
    simp only [deadline?, Option.some.injEq, reduceCtorEq, false_implies, and_true]
    exact eq_comm

def unavailable {α : Type} (action : SessionAction) (key : LooseText) (es : Entries) :
    Outcome Entries α :=
  .fault es .sessions [.sessionsFailed action (family key)]

/-- The command fails. Nothing fails in memory. -/
def Backing.isOut (backing : Backing) (command : Bool) : Bool :=
  backing == .server && command

variable (backing : Backing) (outages : Outages) (now : Instant)

def put (key : LooseText) (value : String) (ttl : Duration) (es : Entries) : Outcome Entries Unit :=
  if backing.isOut outages.set then unavailable .write key es
  else
    match backing.deadline? now ttl with
    | none => .broken es .range
    | some deadline => .ok (es.insert key ⟨value, deadline⟩) ()

def get (key : LooseText) (es : Entries) : Outcome Entries (Option String) :=
  if backing.isOut outages.get then unavailable .read key es
  else .ok (es.afterRead now key) (es.live? now key)

def pop (key : LooseText) (es : Entries) : Outcome Entries (Option String) :=
  if backing.isOut outages.getdel then unavailable .read key es
  else .ok (es.erase key) (es.live? now key)

def delete (key : LooseText) (es : Entries) : Outcome Entries Unit :=
  if backing.isOut outages.delete then unavailable .delete key es
  else .ok (es.erase key) ()

def ping : Bool :=
  match backing with
  | .memory => true
  | .server => !outages.ping && outages.pong

end Accounts.Session
