import Accounts.Service.Call

/-! # The world

The state in which calls are answered: the clock of the service and the one of the system, both
stores, what was drawn so far, which commands fail, and the log. Answering a call is a function of
the state, so a run is determined by its plans.
-/
namespace Accounts

structure Outages where
  users : Users.Outages
  sessions : Session.Outages
  deriving DecidableEq, Repr

def Outages.none : Outages := ⟨.none, .none⟩

/-- The state of everything an operation can reach. The log has the latest note last. -/
structure World where
  now : Instant
  system : Instant
  users : Users
  sessions : Session.Entries
  draws : Draws
  dummy : Option String
  outages : Outages
  log : List Note
  deriving DecidableEq, Repr

namespace World

def initial (now : Instant) : World :=
  ⟨now, now, [], [], .none, none, .none, []⟩

def onUsers {α : Type} (w : World) (o : Outcome Users α) : World × Except Failure α :=
  ({ w with users := o.state, log := w.log ++ o.notes }, o.answer)

def onSessions {α : Type} (w : World) (o : Outcome Session.Entries α) :
    World × Except Failure α :=
  ({ w with sessions := o.state, log := w.log ++ o.notes }, o.answer)

def nextId (s : Service) (w : World) : Uuid :=
  Uuid.ofRandom (s.source.identifier w.draws.identifiers)

def afterId (w : World) : World :=
  { w with draws := { w.draws with identifiers := w.draws.identifiers + 1 } }

/-- Issues a token now. An id is drawn for it once its expiry has a date. -/
def issueToken (s : Service) (w : World) (authority : Token.Authority) (subject : String)
    (ttl : Duration) (type : String) : World × Except Breakage Token.Issued :=
  match Token.lifespan w.now ttl with
  | .error b => (w, .error b)
  | .ok times => (w.afterId, Token.finish s.suite authority subject type times (w.nextId s))

/-- Answers a call. An id is drawn for every user that is to be created. -/
def answer (s : Service) (w : World) : (c : Call) → World × c.Answer
  | .now => (w, w.now)
  | .systemTime => (w, w.system)
  | .issueToken authority subject ttl type => w.issueToken s authority subject ttl type
  | .drawSecret size =>
    ({ w with draws := { w.draws with secrets := w.draws.secrets + 1 } },
      s.source.secret w.draws.secrets size)
  | .drawSalt =>
    ({ w with draws := { w.draws with salts := w.draws.salts + 1 } },
      s.source.salt w.draws.salts)
  | .recallDummy => (w, w.dummy)
  | .keepDummy hash => ({ w with dummy := some hash }, ())
  | .checkPassword stored password => (w, Password.verify s.suite stored password)
  | .createUser d =>
    w.afterId.onUsers (Users.create w.outages.users w.system (w.nextId s).text d w.users)
  | .findByEmail email => w.onUsers (Users.findByEmail w.outages.users email w.users)
  | .findById id => w.onUsers (Users.findById w.outages.users id w.users)
  | .updatePassword id hash =>
    w.onUsers (Users.updatePassword w.outages.users w.now id hash w.users)
  | .updateLastLogin id at? =>
    w.onUsers (Users.updateLastLogin w.outages.users w.now w.system id at? w.users)
  | .putSession key value ttl =>
    w.onSessions (Session.put s.backing w.outages.sessions w.now key value ttl w.sessions)
  | .getSession key => w.onSessions (Session.get s.backing w.outages.sessions w.now key w.sessions)
  | .popSession key => w.onSessions (Session.pop s.backing w.outages.sessions w.now key w.sessions)
  | .deleteSession key =>
    w.onSessions (Session.delete s.backing w.outages.sessions key w.sessions)
  | .pingSessions => (w, Session.ping s.backing w.outages.sessions)
  | .probeDatabase => (w, !w.outages.users.select)
  | .note n => ({ w with log := w.log ++ [n] }, ())

end World

/-- Carries out a plan without interruption. All its calls are answered at one instant. -/
def Plan.run {α : Type} (s : Service) : Plan α → World → World × Except Failure α
  | .done r, w => (w, r)
  | .call c next, w => (next (w.answer s c).2).run s (w.answer s c).1

theorem Plan.run_bind {α β : Type} (s : Service) (p : Plan α) (f : α → Plan β) (w : World) :
    (p.bind f).run s w =
      match p.run s w with
      | (v, .ok a) => (f a).run s v
      | (v, .error e) => (v, .error e) := by
  induction p generalizing w with
  | done r => cases r <;> rfl
  | call c next ih => exact ih _ _

theorem Plan.run_attempt {α : Type} (s : Service) (p : Plan α) (w : World) :
    p.attempt.run s w = ((p.run s w).1, .ok (p.run s w).2) := by
  induction p generalizing w with
  | done r => rfl
  | call c next ih => exact ih _ _

end Accounts
