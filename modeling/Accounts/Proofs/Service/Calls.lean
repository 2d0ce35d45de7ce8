import Accounts.Proofs.Service.Answers

/-! # The calls of operations

Each operation makes calls of a few sorts only. A reset is the only operation that takes entries out
of the session store, and only requests for resets and logins put entries in.
-/
namespace Accounts

/-- The sorts of calls that an operation may make. -/
def Operation.MayAsk : Operation → Call → Prop
  | .signUp .., .drawSalt => True
  | .signUp .., .createUser _ => True
  | .signUp .., .note _ => True
  | .login .., .putSession key _ _ => ∃ id, key = Session.refreshKey id
  | .login .., .updateLastLogin .. => True
  | .login .., c => c.IsQuiet
  | .forgotPassword _, .findByEmail _ => True
  | .forgotPassword _, .drawSecret size => size = Service.resetTokenSize
  | .forgotPassword _, .putSession key _ _ => ∃ t, key = Session.resetKey t
  | .forgotPassword _, .note _ => True
  | .resetPassword .., .popSession key => ∃ t, key = Session.resetKey t
  | .resetPassword .., .drawSalt => True
  | .resetPassword .., .updatePassword .. => True
  | .resetPassword .., .deleteSession key => ∃ id, key = Session.refreshKey id
  | .resetPassword .., .note _ => True
  | .validateToken _, .now => True
  | .validateToken _, .systemTime => True
  | .validateToken _, .findById _ => True
  | .validateToken _, .note _ => True
  | _, _ => False

namespace Plan

variable {α β : Type} {P Q : Call → Prop}

theorem Asks.mono {p : Plan α} (hp : p.Asks P) (h : ∀ c, P c → Q c) : p.Asks Q := by
  induction p with
  | done r => trivial
  | call c next ih => exact ⟨h c hp.1, fun r => ih r (hp.2 r)⟩

theorem asks_mapResult {p : Plan α} (hp : p.Asks P) (f : α → β) : (p.mapResult f).Asks P :=
  asks_bind (f := fun a => .done (.ok (f a))) hp fun _ => trivial

theorem asks_valid (r : Except Validation.Problem α) : (valid r).Asks P := by
  cases r <;> trivial

end Plan

open Plan

theorem newPassword_asks (field : Option LooseText) {P : Call → Prop} :
    (Service.newPassword field).Asks P := by
  refine asks_bind (asks_valid _) fun t => asks_bind ?_ fun p => asks_valid _
  unfold encodable
  split <;> trivial

theorem hash_asks (s : Service) (password : String) {P : Call → Prop} (h : P .drawSalt) :
    (s.hash password).Asks P := by
  unfold Service.hash
  split
  · trivial
  · refine asks_bind (asks_ask h) fun salt => ?_
    split <;> trivial

theorem hash_quiet (s : Service) (password : String) : (s.hash password).Asks Call.IsQuiet :=
  hash_asks s password trivial

/-- The calls that compare a password with a hash, be it a stored one or the dummy. -/
def Call.Compares : Call → Prop
  | .drawSecret _ | .drawSalt | .recallDummy | .keepDummy _ | .checkPassword .. => True
  | _ => False

theorem Call.Compares.quiet {c : Call} (h : c.Compares) : c.IsQuiet := by
  cases c <;> trivial

theorem dummyHash_asks (s : Service) : s.dummyHash.Asks Call.Compares := by
  refine asks_bind (asks_ask trivial) fun known => ?_
  cases known with
  | some h => trivial
  | none =>
    refine asks_bind (asks_ask trivial) fun secret => ?_
    refine asks_bind (hash_asks s _ trivial) fun h => ?_
    exact asks_bind (asks_ask trivial) fun _ => trivial

theorem checkPassword_asks (stored : String) (password : LooseText) :
    (Service.checkPassword stored password).Asks Call.Compares := by
  unfold Service.checkPassword
  split
  · exact asks_ask trivial
  · split <;> trivial

theorem rejectUnknown_asks (s : Service) (password : LooseText) :
    (s.rejectUnknown password).Asks Call.Compares :=
  asks_bind (dummyHash_asks s) fun dummy =>
    asks_bind (checkPassword_asks dummy password) fun _ => trivial

theorem checkPassword_quiet (stored : String) (password : LooseText) :
    (Service.checkPassword stored password).Asks Call.IsQuiet :=
  (checkPassword_asks stored password).mono fun _ => Call.Compares.quiet

theorem rejectUnknown_quiet (s : Service) (password : LooseText) :
    (s.rejectUnknown password).Asks Call.IsQuiet :=
  (rejectUnknown_asks s password).mono fun _ => Call.Compares.quiet

theorem signUp_asks (s : Service) (e p f l : Option LooseText) :
    (s.signUp e p f l).Asks (Operation.signUp e p f l).MayAsk := by
  refine asks_bind (asks_valid _) fun _ => ?_
  refine asks_bind (newPassword_asks p) fun password => ?_
  refine asks_bind (asks_valid _) fun _ => ?_
  refine asks_bind (asks_valid _) fun _ => ?_
  refine asks_bind (hash_asks s password trivial) fun _ => ?_
  refine asks_bind (asks_ask trivial) fun _ => ?_
  refine asks_bind (asks_done _) fun _ => ?_
  exact asks_bind (asks_ask trivial) fun _ => trivial

/-- The calls that open a session for a user: two tokens are issued to the user, and the second one
is registered. -/
def Call.Opens (s : Service) (user : User) : Call → Prop
  | .issueToken authority subject ttl type => authority = s.authority ∧ subject = user.id ∧
      (ttl = s.lifetimes.access ∧ type = Token.accessType ∨
        ttl = s.lifetimes.refresh ∧ type = Token.refreshType)
  | .putSession key _ _ => key = Session.refreshKey user.id
  | .now | .updateLastLogin .. | .note _ => True
  | _ => False

theorem startSession_asks (s : Service) (user : User) :
    (s.startSession user).Asks (Call.Opens s user) := by
  have issue : ∀ ttl type, Call.Opens s user (.issueToken s.authority user.id ttl type) →
      (s.issueToken user.id ttl type).Asks (Call.Opens s user) := by
    intro ttl type h
    refine asks_bind (asks_ask h) fun r => ?_
    split <;> trivial
  refine asks_bind (issue _ _ ⟨rfl, rfl, .inl ⟨rfl, rfl⟩⟩) fun _ => ?_
  refine asks_bind (issue _ _ ⟨rfl, rfl, .inr ⟨rfl, rfl⟩⟩) fun _ => ?_
  refine asks_bind (asks_ask trivial) fun _ => ?_
  refine asks_bind (asks_ask rfl) fun _ => ?_
  refine asks_bind (asks_done _) fun _ => ?_
  refine asks_bind (asks_ask trivial) fun r => ?_
  split
  · trivial
  · exact asks_bind (asks_ask trivial) fun _ => trivial
  · trivial

theorem login_mayAsk {e p : Option LooseText} {c : Call} (h : c.IsQuiet) :
    (Operation.login e p).MayAsk c := by
  cases c <;> first | exact h | exact h.elim

theorem Call.Opens.mayAsk {s : Service} {user : User} {e p : Option LooseText} {c : Call}
    (h : c.Opens s user) : (Operation.login e p).MayAsk c := by
  cases c with
  | putSession key value ttl => exact ⟨user.id, h⟩
  | issueToken | now | updateLastLogin | note => trivial
  | systemTime | drawSecret | drawSalt | recallDummy | keepDummy | checkPassword | createUser
  | findByEmail | findById | updatePassword | getSession | popSession | deleteSession
  | pingSessions | probeDatabase => exact h.elim

theorem login_asks (s : Service) (e p : Option LooseText) :
    (s.login e p).Asks (Operation.login e p).MayAsk := by
  refine asks_bind (asks_valid _) fun _ => ?_
  refine asks_bind (asks_valid _) fun password => ?_
  refine asks_bind (asks_ask trivial) fun _ => ?_
  refine asks_bind (asks_done _) fun found => ?_
  cases found with
  | none => exact (rejectUnknown_quiet s password).mono fun _ => login_mayAsk
  | some user =>
    refine asks_bind ((checkPassword_quiet _ password).mono fun _ => login_mayAsk) fun c => ?_
    split
    · exact asks_bind (asks_ask trivial) fun _ => trivial
    · split
      · exact (startSession_asks s user).mono fun _ => Call.Opens.mayAsk
      · trivial

theorem forgotPassword_asks (s : Service) (e : Option LooseText) :
    (s.forgotPassword e).Asks (Operation.forgotPassword e).MayAsk := by
  refine asks_bind (asks_valid _) fun _ => ?_
  refine asks_bind (asks_ask trivial) fun _ => ?_
  refine asks_bind (asks_done _) fun found => ?_
  cases found with
  | none => trivial
  | some user =>
    refine asks_bind ?_ fun _ => trivial
    refine asks_bind (asks_ask rfl) fun _ => ?_
    refine asks_bind (asks_ask ⟨_, rfl⟩) fun _ => ?_
    exact asks_bind (asks_done _) fun _ => asks_ask trivial

def Call.Settles : Call → Prop
  | .drawSalt | .updatePassword .. | .note _ => True
  | .deleteSession key => ∃ id, key = Session.refreshKey id
  | _ => False

theorem resetPassword_shape (s : Service) {t : Option LooseText} {k : LooseText}
    (hk : Validation.token t = .ok k) (p : Option LooseText) :
    ∃ rest : String → Except Failure (Option String) → Plan Status,
      s.resetPassword t p = (Service.newPassword p >>= fun password =>
        ask (.popSession (Session.resetKey k)) >>= rest password) ∧
      ∀ password found, (rest password found).Asks Call.Settles := by
  refine ⟨_, by simp only [Service.resetPassword, hk, valid]; rfl, fun password found => ?_⟩
  refine asks_bind (asks_done _) fun popped => ?_
  cases popped with
  | none => trivial
  | some id =>
    refine asks_bind (hash_asks s password trivial) fun _ => ?_
    refine asks_bind (asks_ask trivial) fun _ => ?_
    refine asks_bind (asks_done _) fun updated => ?_
    split
    · refine asks_bind (asks_ask ⟨_, rfl⟩) fun _ => ?_
      refine asks_bind (asks_done _) fun _ => ?_
      exact asks_bind (asks_ask trivial) fun _ => trivial
    · trivial

theorem resetPassword_asks (s : Service) (t p : Option LooseText) :
    (s.resetPassword t p).Asks (Operation.resetPassword t p).MayAsk := by
  cases hk : Validation.token t with
  | error problem =>
    simp only [Service.resetPassword, hk, valid]
    trivial
  | ok k =>
    obtain ⟨rest, heq, hrest⟩ := resetPassword_shape s hk p
    rw [heq]
    refine asks_bind (newPassword_asks p) fun password => asks_bind (asks_ask ⟨k, rfl⟩) fun _ => ?_
    refine (hrest password _).mono fun c hc => ?_
    cases c <;> first | exact hc | exact hc.elim

theorem validateToken_asks (s : Service) (t : Option LooseText) :
    (s.validateToken t).Asks (Operation.validateToken t).MayAsk := by
  unfold Service.validateToken
  split
  · trivial
  · refine asks_bind (asks_ask trivial) fun _ => asks_bind (asks_ask trivial) fun _ => ?_
    split
    · trivial
    · trivial
    · split
      · exact asks_bind (asks_ask trivial) fun _ => trivial
      · refine asks_bind (asks_ask trivial) fun _ => ?_
        refine asks_bind (asks_done _) fun row => ?_
        split
        · trivial
        · split <;> trivial

theorem validateToken_quiet (s : Service) (t : Option LooseText) :
    (s.validateToken t).Asks Call.IsQuiet := by
  refine (validateToken_asks s t).mono fun c hc => ?_
  cases c <;> trivial

theorem plan_asks (s : Service) (op : Operation) : (op.plan s).Asks op.MayAsk := by
  cases op with
  | signUp email password firstName lastName => exact asks_mapResult (signUp_asks ..) _
  | login email password => exact asks_mapResult (login_asks ..) _
  | forgotPassword email => exact asks_mapResult (forgotPassword_asks ..) _
  | resetPassword token newPassword => exact asks_mapResult (resetPassword_asks ..) _
  | validateToken accessToken => exact asks_mapResult (validateToken_asks ..) _

end Accounts
