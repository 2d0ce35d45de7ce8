import Accounts.Random
import Accounts.Session.Store
import Accounts.Token.Verify
import Accounts.User.Table

/-! # Calls and plans

An operation does not act on the world itself. It is a plan: a tree of calls, each of which the
world answers in one step, with a result at the end. So one definition says what an operation does
alone, and what it does while the calls of other operations come in between.
-/
namespace Accounts

structure Lifetimes where
  access : Duration
  refresh : Duration
  reset : Duration
  deriving DecidableEq, Repr

def Lifetimes.standard : Lifetimes :=
  ⟨15 * Time.minute, 168 * Time.hour, 30 * Time.minute⟩

def Lifetimes.ofCounts (accessMinutes refreshHours resetMinutes : Int) :
    Except Breakage Lifetimes :=
  let access := accessMinutes * Time.minute
  let refresh := refreshHours * Time.hour
  let reset := resetMinutes * Time.minute
  if Time.isDuration access && Time.isDuration refresh && Time.isDuration reset then
    .ok ⟨access, refresh, reset⟩
  else .error .range

structure Service where
  suite : Suite
  source : Source
  authority : Token.Authority
  rounds : Int
  resetBase : String
  lifetimes : Lifetimes
  backing : Session.Backing

inductive Call where
  | now
  | systemTime
  | issueToken (authority : Token.Authority) (subject : String) (ttl : Duration) (type : String)
  | drawSecret (size : Nat)
  | drawSalt
  /-- The hash that is checked when no account matches, once it is made. -/
  | recallDummy
  | keepDummy (hash : String)
  | checkPassword (stored password : String)
  | createUser (d : Draft)
  | findByEmail (email : Option String)
  | findById (id : Option String)
  | updatePassword (id hash : Option String)
  | updateLastLogin (id : Option String) (at? : Option Instant)
  | putSession (key : LooseText) (value : String) (ttl : Duration)
  | getSession (key : LooseText)
  | popSession (key : LooseText)
  | deleteSession (key : LooseText)
  | pingSessions
  | probeDatabase
  | note (n : Note)
  deriving DecidableEq, Repr

@[reducible] def Call.Answer : Call → Type
  | .now => Instant
  | .systemTime => Instant
  | .issueToken .. => Except Breakage Token.Issued
  | .drawSecret size => Vector UInt8 size
  | .drawSalt => Vector UInt8 16
  | .recallDummy => Option String
  | .keepDummy _ => Unit
  | .checkPassword .. => Except Password.Corruption Bool
  | .createUser _ => Except Failure User
  | .findByEmail _ => Except Failure (Option User)
  | .findById _ => Except Failure (Option User)
  | .updatePassword .. => Except Failure Bool
  | .updateLastLogin .. => Except Failure Bool
  | .putSession .. => Except Failure Unit
  | .getSession _ => Except Failure (Option String)
  | .popSession _ => Except Failure (Option String)
  | .deleteSession _ => Except Failure Unit
  | .pingSessions => Bool
  | .probeDatabase => Bool
  | .note _ => Unit

inductive Plan (α : Type) where
  | done (r : Except Failure α)
  | call (c : Call) (next : c.Answer → Plan α)

namespace Plan

variable {α β : Type}

def bind (p : Plan α) (f : α → Plan β) : Plan β :=
  match p with
  | .done (.ok a) => f a
  | .done (.error e) => .done (.error e)
  | .call c next => .call c fun r => (next r).bind f

instance : Monad Plan where
  pure a := .done (.ok a)
  bind := Plan.bind

def fail (f : Fault) : Plan α := .done (.error (.fault f))

def crash (b : Breakage) : Plan α := .done (.error (.broken b))

def ask (c : Call) : Plan c.Answer := .call c fun r => .done (.ok r)

def ofExcept (r : Except Failure α) : Plan α := .done r

def attempt : Plan α → Plan (Except Failure α)
  | .done r => .done (.ok r)
  | .call c next => .call c fun r => (next r).attempt

def valid (r : Except Validation.Problem α) : Plan α :=
  match r with
  | .ok a => pure a
  | .error problem => fail (.invalid problem)

def encodable (t : LooseText) : Plan String :=
  match t.string? with
  | some s => pure s
  | none => crash .encoding

def log (n : Note) : Plan Unit := ask (.note n)

end Plan

end Accounts
