import Accounts.Proofs.Account.Credentials
import Accounts.Proofs.Session.RefreshTokens

/-! # Requests for known and for unknown emails

A request for a reset is answered alike whether or not its email is registered, as long as the token
that is drawn for a registered one can be put into the session store. Where it cannot, the caller
of a registered email is told so, and the caller of an unknown one is not.
-/
namespace Accounts

open World

variable {s : Service} {w : World} {u : User} {field field' : Option LooseText}
  {address address' : String}

/-- A reset token can be registered now: the command does not fail, and in memory the deadline has a
date. -/
def World.canKeepToken (s : Service) (w : World) : Bool :=
  !s.backing.isOut w.outages.sessions.set && (s.backing.deadline? w.now s.lifetimes.reset).isSome

/-- The entries after a token was registered for a user. -/
def World.withToken (s : Service) (w : World) (u : User) : Session.Entries :=
  w.sessions.insert (Session.resetKey (w.nextToken s))
    ⟨u.id, w.now + s.backing.lifetime s.lifetimes.reset⟩

theorem sendResetToken_run (s : Service) (w : World) (u : User) :
    (s.sendResetToken u).run s w =
      if s.backing.isOut w.outages.sessions.set then
        (w.afterSecret.noted [.sessionsFailed .write
          (Session.family (Session.resetKey (w.nextToken s)))], .error (.fault .sessions))
      else if (s.backing.deadline? w.now s.lifetimes.reset).isSome then
        ({ w.afterSecret with sessions := w.withToken s u }.noted
          [.resetLink u.id (resetLink s.resetBase (w.nextToken s))
            (Time.minutes s.lifetimes.reset)], .ok ())
      else (w.afterSecret, .error (.broken .range)) := by
  have hout : w.afterSecret.outages = w.outages := rfl
  have hnow : w.afterSecret.now = w.now := rfl
  unfold Service.sendResetToken
  rw [Plan.run_drawSecret, Plan.run_bind_ask, answer_putSession, hout, hnow]
  by_cases hset : s.backing.isOut w.outages.sessions.set = true
  · rw [if_pos hset, if_pos hset]
    rfl
  · rw [if_neg hset, if_neg hset]
    cases hdeadline : s.backing.deadline? w.now s.lifetimes.reset with
    | none => rfl
    | some t =>
      obtain ⟨rfl, -⟩ := Session.Backing.deadline?_eq_some_iff.mp hdeadline
      rfl

theorem sendResetToken_kept (h : w.canKeepToken s = true) :
    ((s.sendResetToken u).run s w).2 = .ok () ∧
      ((s.sendResetToken u).run s w).1.users = w.users ∧
      ((s.sendResetToken u).run s w).1.sessions = w.withToken s u := by
  rw [World.canKeepToken, Bool.and_eq_true, Bool.not_eq_true'] at h
  rw [sendResetToken_run, if_neg (Bool.eq_false_iff.mp h.1), if_pos h.2]
  exact ⟨rfl, rfl, rfl⟩

/-- Why a token cannot be registered, and the failure that comes of it. -/
inductive TokenLoss (s : Service) (w : World) : Failure → Prop where
  | command : s.backing = .server → w.outages.sessions.set = true → TokenLoss s w (.fault .sessions)
  | deadline : s.backing = .memory → Time.isInstant (w.now + s.lifetimes.reset) = false →
      TokenLoss s w (.broken .range)

theorem sendResetToken_lost (h : w.canKeepToken s = false) :
    (∃ e, TokenLoss s w e ∧ ((s.sendResetToken u).run s w).2 = .error e) ∧
      ((s.sendResetToken u).run s w).1.users = w.users ∧
      ((s.sendResetToken u).run s w).1.sessions = w.sessions := by
  rw [sendResetToken_run]
  split
  · next hset =>
    rw [Session.Backing.isOut, Bool.and_eq_true, beq_iff_eq] at hset
    exact ⟨⟨_, .command hset.1 hset.2, rfl⟩, rfl, rfl⟩
  · next hset =>
    have hlost : (s.backing.deadline? w.now s.lifetimes.reset).isSome = false := by
      rw [World.canKeepToken, Bool.eq_false_iff.mpr hset] at h
      exact h
    rw [if_neg (Bool.eq_false_iff.mp hlost)]
    cases hbacking : s.backing with
    | server =>
      rw [hbacking] at hlost
      cases hlost
    | memory =>
      refine ⟨⟨_, .deadline hbacking ?_, rfl⟩, rfl, rfl⟩
      rw [hbacking, Session.Backing.deadline?, Time.after?] at hlost
      split at hlost
      · cases hlost
      · next hdate => exact Bool.eq_false_iff.mpr hdate

theorem request_in_outage (he : Validation.email field = .ok address)
    (ho : w.outages.users.select = true) :
    s.perform (.forgotPassword field) w =
      (w.noted [.emailLookupFailed], .error (.fault (.users .lookUp))) := by
  simp only [Service.perform, Operation.plan, Plan.run_mapResult, Service.forgotPassword, he,
    Plan.valid, Plan.run_bind_pure]
  rw [Plan.run_bind_ask, answer_findByEmail, if_pos ho]
  rfl

theorem request_unknown (he : Validation.email field = .ok address)
    (hu : w.users.withEmail? address = none) (ho : w.outages.users.select = false) :
    s.perform (.forgotPassword field) w = (w, .ok (.status Service.resetRequested)) := by
  simp only [Service.perform, Operation.plan, Plan.run_mapResult, Service.forgotPassword, he,
    Plan.valid, Plan.run_bind_pure]
  rw [Plan.run_bind_ask, answer_findByEmail, ho, Option.bind_some, hu]
  rfl

theorem request_known (he : Validation.email field = .ok address)
    (hu : w.users.withEmail? address = some u) (ho : w.outages.users.select = false) :
    s.perform (.forgotPassword field) w =
      (((s.sendResetToken u).run s w).1,
        ((s.sendResetToken u).run s w).2.map fun _ => .status Service.resetRequested) := by
  have hfind : w.answer s (.findByEmail (some address)) = (w, .ok (some u)) := by
    rw [answer_findByEmail, ho, Option.bind_some, hu]
    rfl
  simp only [Service.perform, Operation.plan, Plan.run_mapResult, Service.forgotPassword, he,
    Plan.valid, Plan.run_bind_pure]
  rw [Plan.run_bind_ask, hfind, Plan.run_bind_ofExcept_ok]
  dsimp only
  rw [Plan.bind_eq, Plan.run_bind]
  rcases (s.sendResetToken u).run s w with ⟨v, e | a⟩ <;> rfl

/-- What two requests come to in one state, the first with the email of a user and the second with
an email that nobody has. -/
structure Compared (s : Service) (w : World) (u : User)
    (known unknown : World × Except Failure Answer) : Prop where
  alike : known.2 = unknown.2 ↔ (w.outages.users.select || w.canKeepToken s) = true
  told : known.2 ≠ unknown.2 → (∃ e, TokenLoss s w e ∧ known.2 = .error e) ∧
    unknown.2 = .ok (.status Service.resetRequested)
  users : known.1.users = w.users
  written : known.1.sessions =
    if !w.outages.users.select && w.canKeepToken s then w.withToken s u else w.sessions
  quiet : Quiet w unknown.1

/-- The two requests have the same outcome unless rows can be looked up and the token cannot be
registered: on the server because the command fails, in memory because the deadline, counted from
the one instant at which all calls of the request are answered, has no date. Then the one fails as
the session store does or breaks, and the other is answered. In any case only the first one can
change the session store. -/
theorem requests_compared (he : Validation.email field = .ok address)
    (hu : w.users.withEmail? address = some u) (he' : Validation.email field' = .ok address')
    (hu' : w.users.withEmail? address' = none) :
    Compared s w u (s.perform (.forgotPassword field) w)
      (s.perform (.forgotPassword field') w) := by
  cases ho : w.outages.users.select with
  | true =>
    rw [request_in_outage he ho, request_in_outage he' ho]
    exact
      { alike := iff_of_true rfl (by rw [ho]; rfl)
        told := fun h => (h rfl).elim
        users := rfl
        written := by rw [ho]; rfl
        quiet := quiet_noted w _ }
  | false =>
    rw [request_known he hu ho, request_unknown he' hu' ho]
    cases hkeep : w.canKeepToken s with
    | true =>
      obtain ⟨hr, hus, hs⟩ := sendResetToken_kept (u := u) hkeep
      exact
        { alike := iff_of_true (by rw [hr]; rfl) (by rw [hkeep, Bool.or_true])
          told := fun h => (h (by rw [hr]; rfl)).elim
          users := hus
          written := by rw [hs, ho, hkeep]; rfl
          quiet := .refl w }
    | false =>
      obtain ⟨⟨e, hcause, hr⟩, hus, hs⟩ := sendResetToken_lost (u := u) hkeep
      exact
        { alike := iff_of_false (by rw [hr]; exact nofun)
            (by rw [ho, hkeep]; exact Bool.false_ne_true)
          told := fun _ => ⟨⟨e, hcause, by rw [hr]; rfl⟩, rfl⟩
          users := hus
          written := by rw [hs, ho, hkeep]; rfl
          quiet := .refl w }

/-- While nothing fails, both are answered. -/
theorem requests_alike_for_ann : ∃ u,
    Compared .small (World.withAnn .small 0) u
      (Service.small.perform (.forgotPassword (some "ann@example.org")) (World.withAnn .small 0))
      (Service.small.perform (.forgotPassword (some "bob@example.org")) (World.withAnn .small 0)) ∧
    (Service.small.perform (.forgotPassword (some "ann@example.org")) (World.withAnn .small 0)).2 =
      (Service.small.perform (.forgotPassword (some "bob@example.org"))
        (World.withAnn .small 0)).2 := by
  obtain ⟨u, hu⟩ : ∃ u, (World.withAnn .small 0).users.withEmail? "ann@example.org" = some u :=
    Option.isSome_iff_exists.mp (by decide)
  have ann : Validation.email (some "ann@example.org") = .ok "ann@example.org" :=
    ok_of_toOption (by decide)
  have bob : Validation.email (some "bob@example.org") = .ok "bob@example.org" :=
    ok_of_toOption (by decide)
  have compared := requests_compared (s := .small) ann hu bob (by decide)
  exact ⟨u, compared, compared.alike.mpr (by decide)⟩

def annInSessionOutage : List Event :=
  [annRegisters, .outages ⟨.none, { Session.Outages.none with set := true }⟩]

theorem request_tells_known_email : ∃ w known unknown,
    (initial 0).after .small annInSessionOutage = w ∧
    Validation.email (some "ann@example.org") = .ok "ann@example.org" ∧
    (w.users.withEmail? "ann@example.org").isSome = true ∧
    Validation.email (some "bob@example.org") = .ok "bob@example.org" ∧
    w.users.withEmail? "bob@example.org" = none ∧
    Service.small.perform (.forgotPassword (some "ann@example.org")) w =
      (known, .error (.fault .sessions)) ∧
    Service.small.perform (.forgotPassword (some "bob@example.org")) w =
      (unknown, .ok (.status Service.resetRequested)) := by
  have ann : Validation.email (some "ann@example.org") = .ok "ann@example.org" :=
    ok_of_toOption (by decide)
  have bob : Validation.email (some "bob@example.org") = .ok "bob@example.org" :=
    ok_of_toOption (by decide)
  exact ⟨_, _, _, rfl, ann, by decide, bob, by decide, Prod.ext rfl rfl, Prod.ext rfl rfl⟩

end Accounts
