import Accounts.Service.Run

/-! # Traffic

Any number of requests at once. A call of a request is answered in one step, and between two calls
of a request there may come any calls of others. The clocks may move at any time; no command fails.
-/
namespace Accounts

structure Exchange where
  call : Call
  answer : call.Answer

structure Request where
  operation : Operation
  rest : Plan Answer

/-- The world, the requests in the order in which they arrived, and all exchanges so far, each with
the number of its request. -/
structure Traffic where
  world : World
  requests : List Request
  trace : List (Nat × Exchange)

inductive Turn where
  | arrive (op : Operation)
  | proceed (request : Nat)
  | wait (d : Duration)
  | setSystem (t : Instant)
  deriving DecidableEq, Repr

def Turn.arrival? : Turn → Option Operation
  | .arrive op => some op
  | _ => none

namespace Traffic

def initial (now : Instant) : Traffic :=
  ⟨.initial now, [], []⟩

/-- Answers the next call of a request. Nothing happens for a request that is done. -/
def proceed (s : Service) (t : Traffic) (i : Nat) : Traffic :=
  match t.requests[i]? with
  | some ⟨op, .call c next⟩ =>
    ⟨(t.world.answer s c).1, t.requests.set i ⟨op, next (t.world.answer s c).2⟩,
      t.trace ++ [(i, ⟨c, (t.world.answer s c).2⟩)]⟩
  | _ => t

def next (s : Service) (t : Traffic) : Turn → Traffic
  | .arrive op => { t with requests := t.requests ++ [⟨op, op.plan s⟩] }
  | .proceed i => t.proceed s i
  | .wait d => { t with world := (t.world.advance d).1 }
  | .setSystem moment => { t with world := t.world.setSystem moment }

def after (s : Service) (t : Traffic) (turns : List Turn) : Traffic :=
  turns.foldl (next s) t

def made (t : Traffic) (i : Nat) : List Exchange :=
  t.trace.filterMap fun x => if x.1 = i then some x.2 else none

def asked (t : Traffic) (i : Nat) (sort : Call → Bool) : Bool :=
  t.trace.any fun x => x.1 == i && sort x.2.call

def operation? (t : Traffic) (i : Nat) : Option Operation :=
  t.requests[i]?.map (·.operation)

def answer? (t : Traffic) (i : Nat) : Option (Except Failure Answer) :=
  match t.requests[i]? with
  | some ⟨_, .done r⟩ => some r
  | _ => none

end Traffic

def Call.createsUser : Call → Bool
  | .createUser _ => true
  | _ => false

def Call.changesPassword : Call → Bool
  | .updatePassword .. => true
  | _ => false

def Exchange.secret? : Exchange → Option String
  | ⟨.drawSecret _, bytes⟩ => some (Service.secretText bytes)
  | _ => none

def Traffic.secrets (t : Traffic) : List String :=
  t.trace.filterMap fun x => x.2.secret?

end Accounts
