import Accounts.Proofs.Account.MadeHashes
import Accounts.Proofs.Http.Forms

/-! # Failed logins

A login that fails does not tell whether its email is registered, whether the password was wrong or
whether the account is inactive. Only who knows the password of an active account can see that a
session fails to start.
-/
namespace Accounts

open World Plan

variable {s : Service} {w v : World} {u : User} {email password : Option LooseText}
  {address : String} {presented : LooseText}

/-- Why a session does not start for a user: one of the tokens is not issued, or the second one is
not registered. -/
inductive SessionFailure (s : Service) (w : World) (u : User) : Failure → Prop where
  | access (b) :
      (w.issueToken s s.authority u.id s.lifetimes.access Token.accessType).2 = .error b →
      SessionFailure s w u (.broken b)
  | refresh (x access b) :
      w.issueToken s s.authority u.id s.lifetimes.access Token.accessType = (x, .ok access) →
      (x.issueToken s s.authority u.id s.lifetimes.refresh Token.refreshType).2 = .error b →
      SessionFailure s w u (.broken b)
  | registration (x access y refresh e) :
      w.issueToken s s.authority u.id s.lifetimes.access Token.accessType = (x, .ok access) →
      x.issueToken s s.authority u.id s.lifetimes.refresh Token.refreshType = (y, .ok refresh) →
      (y.answer s (.putSession (Session.refreshKey u.id) refresh.token
        (refresh.expiresAt - y.now))).2 = .error e →
      SessionFailure s w u e

theorem issueToken_run (s : Service) (subject : String) (ttl : Duration) (type : String)
    (w : World) :
    (s.issueToken subject ttl type).run s w =
      match w.issueToken s s.authority subject ttl type with
      | (v, .ok issued) => (v, .ok issued)
      | (v, .error b) => (v, .error (.broken b)) := by
  unfold Service.issueToken
  rw [run_bind_ask]
  simp only [answer]
  rcases w.issueToken s s.authority subject ttl type with ⟨v, b | issued⟩ <;> rfl

theorem users_issueToken (s : Service) (w : World) (subject : String) (ttl : Duration)
    (type : String) : (w.issueToken s s.authority subject ttl type).1.users = w.users :=
  (w.quiet_answer s (c := .issueToken s.authority subject ttl type) trivial).users

theorem startSession_fails {e : Failure} (hu : w.users.withId? u.id = some u)
    (h : (s.startSession u).run s w = (v, .error e)) : SessionFailure s w u e := by
  unfold Service.startSession at h
  rw [bind_eq, run_bind, issueToken_run] at h
  rcases hi : w.issueToken s s.authority u.id s.lifetimes.access Token.accessType with
    ⟨x, b | access⟩
  · rw [hi] at h
    cases h
    exact .access b (congrArg Prod.snd hi)
  rw [hi] at h
  dsimp only at h
  rw [bind_eq, run_bind, issueToken_run] at h
  rcases hj : x.issueToken s s.authority u.id s.lifetimes.refresh Token.refreshType with
    ⟨y, b | refresh⟩
  · rw [hj] at h
    cases h
    exact .refresh x access b hi (congrArg Prod.snd hj)
  rw [hj] at h
  dsimp only at h
  have hnow : y.answer s .now = (y, y.now) := rfl
  rw [run_bind_ask, hnow, run_bind_ask] at h
  rcases hput : y.answer s (.putSession (Session.refreshKey u.id) refresh.token
    (refresh.expiresAt - y.now)) with ⟨z, e' | ok⟩
  · rw [hput, run_bind_ofExcept_error] at h
    cases h
    exact .registration x access y refresh e hi hj (congrArg Prod.snd hput)
  rw [hput, run_bind_ofExcept_ok] at h
  -- The row is there, so whether the login can be recorded or not, the session is started.
  have hrow : z.users.withId? u.id = some u := by
    have hz : z.users = y.users := congrArg (fun a => a.1.users) hput.symm
    have hy : y.users = x.users := congrArg (fun a => a.1.users) hj.symm ▸ users_issueToken ..
    have hx : x.users = w.users := congrArg (fun a => a.1.users) hi.symm ▸ users_issueToken ..
    rw [hz, hy, hx, hu]
  rcases run_updateLastLogin hrow h with ⟨-, h⟩ | ⟨-, h⟩
  · cases (Prod.mk.inj h).2
  · cases (Prod.mk.inj h).2

/-- How a login is refused, whoever has the email. -/
def World.refusal (w : World) (presented : LooseText) : Failure :=
  if w.outages.users.select then .fault (.users .lookUp)
  else
    match presented.string? with
    | some _ => .fault .wrongCredentials
    | none => .broken .encoding

/-- The password is the one of an active user. -/
def User.Opens (s : Service) (u : User) (presented : LooseText) : Prop :=
  ∃ p, presented = LooseText.ofString p ∧ Password.isTooLong p = false ∧
    Password.verify s.suite u.passwordHash p = .ok true ∧ u.isActive = true

theorem rejectUnknown_run (made : w.HashesMade s) {hash : String} (h : s.Made hash)
    (presented : LooseText) :
    ((s.rejectUnknown presented).run s w).2 =
      .error (match presented.string? with
        | some _ => .fault .wrongCredentials
        | none => .broken .encoding) := by
  obtain ⟨x, dummy, hdummy, hmade⟩ := dummyHash_made made.dummy h
  rw [Service.rejectUnknown, bind_eq, run_bind, hdummy]
  dsimp only
  rw [bind_eq, run_bind, hmade.check]
  cases presented.string? <;> rfl

theorem login_unknown (made : w.HashesMade s) (he : Validation.email email = .ok address)
    (hp : Validation.presentedPassword password = .ok presented)
    (hu : w.users.withEmail? address = none) {hash : String} (h : s.Made hash) :
    ((s.login email password).run s w).2 = .error (w.refusal presented) := by
  simp only [Service.login, he, hp, valid, run_bind_pure]
  rw [run_bind_ask, answer_findByEmail, World.refusal]
  by_cases ho : w.outages.users.select = true
  · rw [if_pos ho, if_pos ho]
    rfl
  · rw [if_neg ho, if_neg ho, Option.bind_some, hu, run_bind_ofExcept_ok]
    exact rejectUnknown_run made h presented

/-- A login for the email of a user is refused as well, unless the password opens the account. -/
theorem login_of_user (made : w.HashesMade s) (he : Validation.email email = .ok address)
    (hp : Validation.presentedPassword password = .ok presented)
    (hu : w.users.withEmail? address = some u) :
    ((s.login email password).run s w).2 = .error (w.refusal presented) ∨
      u.Opens s presented ∧ (s.login email password).run s w = (s.startSession u).run s w := by
  obtain ⟨hmem, -⟩ := Users.mem_of_withEmail? hu
  simp only [Service.login, he, hp, valid, run_bind_pure]
  rw [run_bind_ask, answer_findByEmail, World.refusal]
  by_cases ho : w.outages.users.select = true
  · rw [if_pos ho, if_pos ho]
    exact .inl rfl
  rw [if_neg ho, if_neg ho, Option.bind_some, hu, run_bind_ofExcept_ok]
  dsimp only
  rw [bind_eq, run_bind, (made.rows u hmem).check]
  cases hstring : presented.string? with
  | none => exact .inl rfl
  | some p =>
    obtain ⟨params, hverify⟩ := (made.rows u hmem).verify
    dsimp only
    rw [hverify p]
    dsimp only
    split
    · next hopens =>
      rw [Bool.and_eq_true] at hopens
      refine .inr ⟨⟨p, LooseText.string?_eq_some_iff.mp hstring, ?_, ?_, hopens.2⟩, rfl⟩
      · have hshort := (Bool.and_eq_true _ _ ▸ hopens.1).1
        exact Bool.not_eq_true' _ ▸ hshort
      · rw [hverify p, hopens.1]
    · exact .inl rfl

/-- Requests for the two operations get the same reply in the state, as it is sent to each address.
-/
def Service.RepliesAlike (s : Service) (w : World) (op op' : Operation) : Prop :=
  ∀ (app : Http.App) (r r' : Http.Request), app.service = .ok s →
    r.AsksFor app.base.suite.nesting.body op → r'.AsksFor app.base.suite.nesting.body op' →
    ∃ reply : Http.Reply, ((Http.respond app r).run app.base w).2 = .ok (reply.sent r) ∧
      ((Http.respond app r').run app.base w).2 = .ok (reply.sent r')

theorem repliesAlike_of_outcome {op op' : Operation}
    (h : (s.perform op w).2 = (s.perform op' w).2) : s.RepliesAlike w op op' := by
  intro app r r' hs hr hr'
  refine ⟨_, Http.reply_to_form hs hr, ?_⟩
  rw [h]
  exact Http.reply_to_form hs hr'

theorem quiet_of_failed_login {e : Failure} (hk : w.users.Keyed)
    (hfail : ((s.login email password).run s w).2 = .error e) :
    Quiet w ((s.login email password).run s w).1 := by
  have h : (s.login email password).run s w =
      (((s.login email password).run s w).1, .error e) := Prod.ext rfl hfail
  cases login_cases hk h with
  | refused e hq => exact hq

/-- In every state that can be reached, a login with the email of a user and one with an email that
nobody has fail alike, if the first one fails. The outcome depends on the outages and on whether the
password has bytes, but not on the user, and the replies are the same. Nothing is changed in the
stores. The only exception is a session that cannot be started, for who has the password of an
active user. -/
theorem failed_logins_alike (s : Service) (start : Instant) (past : List Event) {w : World}
    (hw : (initial start).after s past = w) {email email' password : Option LooseText}
    {address address' : String} {presented : LooseText} {u : User} {e : Failure}
    (he : Validation.email email = .ok address) (hu : w.users.withEmail? address = some u)
    (he' : Validation.email email' = .ok address') (hu' : w.users.withEmail? address' = none)
    (hp : Validation.presentedPassword password = .ok presented)
    (hfail : (s.perform (.login email password) w).2 = .error e) :
    Quiet w (s.perform (.login email password) w).1 ∧
    Quiet w (s.perform (.login email' password) w).1 ∧
    (s.perform (.login email' password) w).2 = .error (w.refusal presented) ∧
    (e = w.refusal presented ∧
        s.RepliesAlike w (.login email password) (.login email' password) ∨
      u.Opens s presented ∧ SessionFailure s w u e) := by
  have made : w.HashesMade s := hw ▸ hashesMade_after s start past
  have keyed : w.users.Keyed := hw ▸ keyed_after s start past
  have hmem := (Users.mem_of_withEmail? hu).1
  have hunknown : ((s.login email' password).run s w).2 = .error (w.refusal presented) :=
    login_unknown made he' hp hu' (made.rows u hmem)
  have outcome : ∀ email, s.perform (.login email password) w =
      (((s.login email password).run s w).1,
        ((s.login email password).run s w).2.map .loggedIn) :=
    fun email => run_mapResult ..
  have hknown : ((s.login email password).run s w).2 = .error e := by
    rw [outcome] at hfail
    cases hr : ((s.login email password).run s w).2 with
    | ok l =>
      rw [hr] at hfail
      cases hfail
    | error e' =>
      rw [hr] at hfail
      cases hfail
      rfl
  have hrefused : (s.perform (.login email' password) w).2 = .error (w.refusal presented) := by
    rw [outcome, hunknown]
    rfl
  refine ⟨?_, ?_, hrefused, ?_⟩
  · rw [outcome]
    exact quiet_of_failed_login keyed hknown
  · rw [outcome]
    exact quiet_of_failed_login keyed hunknown
  · rcases login_of_user made he hp hu with h | ⟨opens, hstart⟩
    · have heq : e = w.refusal presented := Except.error.inj (hknown.symm.trans h)
      refine .inl ⟨heq, repliesAlike_of_outcome ?_⟩
      rw [hfail, hrefused, heq]
    · refine .inr ⟨opens, startSession_fails (v := ((s.startSession u).run s w).1)
        (keyed.withId? hmem) ?_⟩
      rw [hstart] at hknown
      exact Prod.ext rfl hknown

def annIsLockedOut : List Event :=
  [annRegisters, .activate "ann@example.org" false]

def loginForm (email password : String) : Http.Request :=
  Http.formRequest .login [("email", email), ("password", password)]

/-- With the right password, Ann is told what anybody would be told. -/
theorem annIsLockedOut_alike : ∃ w, (initial 0).after .small annIsLockedOut = w ∧
    (Service.small.perform (.login (some "ann@example.org") (some "first password 1")) w).2 =
      .error (.fault .wrongCredentials) ∧
    (Service.small.perform (.login (some "bob@example.org") (some "first password 1")) w).2 =
      .error (.fault .wrongCredentials) ∧
    ((Http.respond ⟨.small, 15, 168, 30⟩ (loginForm "ann@example.org" "first password 1")).run
        .small w).2 =
      ((Http.respond ⟨.small, 15, 168, 30⟩ (loginForm "bob@example.org" "first password 1")).run
        .small w).2 := by
  obtain ⟨u, hu⟩ : ∃ u, ((initial 0).after .small annIsLockedOut).users.withEmail?
      "ann@example.org" = some u := Option.isSome_iff_exists.mp (by decide)
  have ann : Validation.email (some "ann@example.org") = .ok "ann@example.org" :=
    ok_of_toOption (by decide)
  have bob : Validation.email (some "bob@example.org") = .ok "bob@example.org" :=
    ok_of_toOption (by decide)
  have password : Validation.presentedPassword (some "first password 1") =
      .ok (LooseText.ofString "first password 1") := ok_of_toOption (by decide)
  have fails : (Service.small.perform (.login (some "ann@example.org") (some "first password 1"))
      ((initial 0).after .small annIsLockedOut)).2 = .error (.fault .wrongCredentials) := rfl
  obtain ⟨-, -, hbob, ⟨-, replies⟩ | ⟨⟨p, -, -, -, active⟩, -⟩⟩ :=
    failed_logins_alike .small 0 annIsLockedOut rfl ann hu bob (by decide) password fails
  · obtain ⟨reply, hann, hbob'⟩ := replies ⟨.small, 15, 168, 30⟩
      (loginForm "ann@example.org" "first password 1")
      (loginForm "bob@example.org" "first password 1") rfl
      (Http.formRequest_asks rfl rfl) (Http.formRequest_asks rfl rfl)
    have sent : reply.sent (loginForm "ann@example.org" "first password 1") =
        reply.sent (loginForm "bob@example.org" "first password 1") := by
      rw [loginForm, loginForm, Http.sent_formRequest, Http.sent_formRequest]
    exact ⟨_, rfl, fails, hbob, hann.trans ((congrArg Except.ok sent).trans hbob'.symm)⟩
  · have inactive : ∀ x ∈ ((initial 0).after .small annIsLockedOut).users,
        x.isActive = false := by
      decide
    rw [inactive u (Users.mem_of_withEmail? hu).1] at active
    cases active

end Accounts
