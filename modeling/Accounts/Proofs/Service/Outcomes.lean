import Accounts.Proofs.Password.Format
import Accounts.Proofs.Service.Calls
import Accounts.Proofs.Service.Fields
import Accounts.Proofs.User.Rows

/-! # What operations come to

For each operation an inductive predicate lists the ways in which it can end, with everything it
did to the stores. A failure is quiet unless its way says otherwise.
-/
namespace Accounts

open World

variable {s : Service} {w v : World}

theorem hash_run (password : String) (w : World) :
    (s.hash password).run s w =
      match Password.costOfRounds s.rounds with
      | .error e => (w, .error (.broken (Service.roundsBreakage e)))
      | .ok cost =>
        (w.afterSalt,
          if Password.isTooLong password then .error (.broken .value)
          else
            .ok (Password.compute s.suite ⟨.b, cost, s.source.salt w.draws.salts⟩ password)) := by
  unfold Service.hash
  cases Password.costOfRounds s.rounds with
  | error e => simp
  | ok cost =>
    rw [Plan.run_drawSalt]
    split <;> simp

theorem hash_ok_iff {password hash : String} : ((s.hash password).run s w).2 = .ok hash ↔
    4 ≤ s.rounds ∧ s.rounds ≤ 31 ∧ Password.isTooLong password = false ∧
      hash =
        Password.compute s.suite ⟨.b, s.rounds.toNat, s.source.salt w.draws.salts⟩ password := by
  rw [hash_run]
  cases hcost : Password.costOfRounds s.rounds with
  | error e =>
    constructor
    · intro h
      cases h
    · rintro ⟨hmin, hmax, -, -⟩
      cases (Password.costOfRounds_ok_iff.mpr ⟨hmin, hmax, rfl⟩).symm.trans hcost
  | ok cost =>
    obtain ⟨hmin, hmax, rfl⟩ := Password.costOfRounds_ok_iff.mp hcost
    cases hlong : Password.isTooLong password <;> simp [hmin, hmax, eq_comm]

theorem afterSalt_of_hash {password hash : String}
    (h : (s.hash password).run s w = (v, .ok hash)) : v = w.afterSalt := by
  rw [hash_run] at h
  cases hc : Password.costOfRounds s.rounds with
  | error e =>
    rw [hc] at h
    cases (Prod.mk.inj h).2
  | ok cost =>
    rw [hc] at h
    exact (Prod.mk.inj h).1.symm

theorem hash_congr (s : Service) (password : String) {u : World}
    (h : u.draws.salts = w.draws.salts) :
    ((s.hash password).run s u).2 = ((s.hash password).run s w).2 := by
  rw [hash_run, hash_run, h]
  cases Password.costOfRounds s.rounds <;> rfl

theorem checkPassword_run {stored : String} {password : LooseText}
    {c : Except Password.Corruption Bool}
    (h : (Service.checkPassword stored password).run s w = (v, .ok c)) :
    v = w ∧ ∀ matched, c = .ok matched → ∃ p, password = LooseText.ofString p ∧
      Password.verify s.suite stored p = .ok matched := by
  unfold Service.checkPassword at h
  cases hp : password.string? with
  | some p =>
    rw [hp] at h
    obtain ⟨rfl, hc⟩ := Prod.mk.inj h
    refine ⟨rfl, ?_⟩
    rintro matched rfl
    exact ⟨p, LooseText.string?_eq_some_iff.mp hp, Except.ok.inj hc⟩
  | none =>
    rw [hp] at h
    simp only at h
    split at h
    · cases (Prod.mk.inj h).2
    · obtain ⟨rfl, hc⟩ := Prod.mk.inj h
      cases hc
      exact ⟨rfl, fun matched hm => nomatch hm⟩

theorem rejectUnknown_fails {password : LooseText} {r : Except Failure LoggedIn}
    (h : (s.rejectUnknown password).run s w = (v, r)) : ∃ e, r = .error e := by
  unfold Service.rejectUnknown at h
  rcases Plan.run_bind_cases h with ⟨e, -, rfl⟩ | ⟨u, dummy, -, h⟩
  · exact ⟨e, rfl⟩
  · rcases Plan.run_bind_cases h with ⟨e, -, rfl⟩ | ⟨x, a, -, h⟩
    · exact ⟨e, rfl⟩
    · rw [Plan.run_fail, Prod.mk.injEq] at h
      exact ⟨_, h.2.symm⟩

/-- The token of the next draw. -/
def World.nextToken (s : Service) (w : World) : String :=
  Service.secretText (s.source.secret w.draws.secrets Service.resetTokenSize)

/-- How a request for a reset can end. -/
inductive ResetRequest (s : Service) (field : Option LooseText) (w v : World) :
    Except Failure Status → Prop where
  | refused (e) : Quiet w v → ResetRequest s field w v (.error e)
  | unknown (address) : Validation.email field = .ok address →
      w.users.withEmail? address = none → Quiet w v →
      ResetRequest s field w v (.ok Service.resetRequested)
  | sent (address user deadline) : Validation.email field = .ok address →
      w.users.withEmail? address = some user →
      s.backing.deadline? w.now s.lifetimes.reset = some deadline →
      v.now = w.now → v.users = w.users → v.outages = w.outages →
      v.sessions =
        w.sessions.insert (Session.resetKey (w.nextToken s)) ⟨user.id, deadline⟩ →
      ⟨w, .drawSecret Service.resetTokenSize⟩ ∈ (s.forgotPassword field).trace s w →
      ResetRequest s field w v (.ok Service.resetRequested)

theorem forgotPassword_cases {field : Option LooseText} {r : Except Failure Status}
    (h : (s.forgotPassword field).run s w = (v, r)) : ResetRequest s field w v r := by
  cases he : Validation.email field with
  | error problem =>
    simp only [Service.forgotPassword, he, Plan.valid, Plan.run_bind_fail, Prod.mk.injEq] at h
    obtain ⟨rfl, rfl⟩ := h
    exact .refused _ (.refl _)
  | ok address =>
    simp only [Service.forgotPassword, he, Plan.valid, Plan.run_bind_pure] at h
    rcases Plan.run_findByEmail h with ⟨hq, e, rfl⟩ | ⟨ho, h⟩
    · exact .refused e hq
    cases hu : w.users.withEmail? address with
    | none =>
      rw [hu] at h
      obtain ⟨rfl, rfl⟩ := Prod.mk.inj h
      exact .unknown address he hu (.refl _)
    | some user =>
      simp only [hu, Service.sendResetToken, Plan.bind_bind, Plan.run_drawSecret] at h
      rcases Plan.run_putSession h with ⟨hq, e, rfl⟩ | ⟨t, ht, h⟩
      · exact .refused e ((quiet_afterSecret w).trans hq)
      obtain ⟨rfl, rfl⟩ := Prod.mk.inj h
      refine .sent address user t he hu ht rfl rfl rfl rfl ?_
      simp only [Service.forgotPassword, he, Plan.valid, Plan.trace_bind_pure,
        Plan.trace_findByEmail _ ho, hu, Service.sendResetToken, Plan.bind_bind,
        Plan.trace_bind_ask]
      exact .tail _ (.head _)

/-- How a reset can end. The token is gone from the store once it was looked for. -/
inductive Reset (s : Service) (token newPassword : Option LooseText) (w v : World) :
    Except Failure Status → Prop where
  | refused (e) : Quiet w v → Reset s token newPassword w v (.error e)
  | spent (k e) : Validation.token token = .ok k → v.now = w.now → v.users = w.users →
      v.outages = w.outages → v.sessions = w.sessions.erase (Session.resetKey k) →
      Reset s token newPassword w v (.error e)
  | changed (k p id hash user r) : Validation.token token = .ok k →
      newPassword = some (LooseText.ofString p) → Validation.password (some p) = .ok p →
      w.sessions.live? w.now (Session.resetKey k) = some id →
      (∃ m ∈ (s.resetPassword token newPassword).trace s w, m.Pops s (Session.resetKey k) id) →
      ((s.hash p).run s w).2 = .ok hash → w.users.withId? id = some user →
      v.now = w.now → v.outages = w.outages →
      v.users = w.users.modify user.id
        (fun u => { u with passwordHash := hash, updatedAt := w.now }) →
      (v.sessions = w.sessions.erase (Session.resetKey k) ∧
          s.backing.isOut w.outages.sessions.delete = true ∧ r = .error (.fault .sessions) ∨
        v.sessions = (w.sessions.erase (Session.resetKey k)).erase (Session.refreshKey id) ∧
          ∃ a, r = .ok a) →
      Reset s token newPassword w v r

theorem resetPassword_cases {token newPassword : Option LooseText} {r : Except Failure Status}
    (h : (s.resetPassword token newPassword).run s w = (v, r)) :
    Reset s token newPassword w v r := by
  cases hk : Validation.token token with
  | error problem =>
    simp only [Service.resetPassword, hk, Plan.valid, Plan.run_bind_fail, Prod.mk.injEq] at h
    obtain ⟨rfl, rfl⟩ := h
    exact .refused _ (.refl _)
  | ok k =>
    simp only [Service.resetPassword, hk, Plan.valid, Plan.run_bind_pure] at h
    rcases Plan.run_bind_cases h with ⟨e, hn, rfl⟩ | ⟨u, p, hn, h⟩
    · exact .refused e ((newPassword_run hn).1 ▸ .refl w)
    obtain ⟨he, hp⟩ := newPassword_run hn
    obtain ⟨hf, hp⟩ := hp p rfl
    rw [he] at hn h
    rcases Plan.run_popSession h with ⟨hq, e, rfl⟩ | ⟨ho, h⟩
    · exact .refused e hq
    cases hl : w.sessions.live? w.now (Session.resetKey k) with
    | none =>
      rw [hl] at h
      obtain ⟨rfl, rfl⟩ := Prod.mk.inj h
      exact .spent k _ hk rfl rfl rfl rfl
    | some id =>
      simp only [hl] at h
      rcases Plan.run_bind_cases h with ⟨e, hh, rfl⟩ | ⟨x, hash, hh, h⟩
      · have hq := Plan.quiet_run (hash_quiet s p) hh
        exact .spent k e hk hq.now hq.users hq.outages hq.sessions
      have hq := Plan.quiet_run (hash_quiet s p) hh
      rcases Plan.run_updatePassword h with ⟨hv, e, rfl⟩ | ⟨-, h⟩ | ⟨user, hu, h⟩
      · have hq := hq.trans hv
        exact .spent k e hk hq.now hq.users hq.outages hq.sessions
      · obtain ⟨rfl, rfl⟩ := Prod.mk.inj h
        exact .spent k _ hk hq.now hq.users hq.outages hq.sessions
      · rw [hq.users] at hu
        have taken : ∃ m ∈ (s.resetPassword token newPassword).trace s w,
            m.Pops s (Session.resetKey k) id := by
          refine ⟨⟨w, .popSession (Session.resetKey k)⟩, ?_, rfl, ?_⟩
          · simp only [Service.resetPassword, hk, Plan.valid, Plan.trace_bind_pure]
            exact Plan.mem_trace_bind.mpr (.inr ⟨w, p, hn, .head _⟩)
          · simp [Session.pop, ho, hl, Outcome.ok]
        have made : ((s.hash p).run s w).2 = .ok hash := by
          rw [hash_congr s p (u := { w with sessions := w.sessions.erase (Session.resetKey k) })
            (w := w) rfl |>.symm, hh]
        have hn : x.now = w.now := hq.now
        have hus : x.users = w.users := hq.users
        rcases Plan.run_deleteSession h with ⟨hv, hout, rfl⟩ | h
        · refine .changed k p id hash user _ hk hf hp hl taken made hu
            (hv.now.trans hn) (hv.outages.trans hq.outages) ?_ ?_
          · rw [hv.users, ← hn, ← hus]
          · exact .inl ⟨hv.sessions.trans hq.sessions, hq.outages ▸ hout, rfl⟩
        · obtain ⟨rfl, rfl⟩ := Prod.mk.inj h
          refine .changed k p id hash user _ hk hf hp hl taken made hu hn
            hq.outages ?_ ?_
          · rw [← hn, ← hus]
            rfl
          · exact .inr ⟨congrArg (Session.Entries.erase _) hq.sessions, _, rfl⟩

/-- How a registration can end. A row that cannot be read back after it was added stays. -/
inductive Registration (s : Service) (email password firstName lastName : Option LooseText)
    (w v : World) : Except Failure SignedUp → Prop where
  | refused (e) : Quiet w v → Registration s email password firstName lastName w v (.error e)
  | created (p user r) : Validation.email email = .ok user.email →
      password = some (LooseText.ofString p) → Validation.password (some p) = .ok p →
      Validation.name "first_name" firstName = .ok user.firstName →
      Validation.name "last_name" lastName = .ok user.lastName →
      ((s.hash p).run s w).2 = .ok user.passwordHash → user.id = (w.nextId s).text →
      user.isActive = true →
      user.createdAt = w.system → user.updatedAt = w.system → user.lastLoginAt = none →
      w.users.isTaken user = false → v.now = w.now → v.outages = w.outages →
      v.sessions = w.sessions → v.users = w.users ++ [user] →
      (w.outages.users.select = false ∧
          r = .ok ⟨true, "User registered successfully", user.toPublic⟩ ∨
        w.outages.users.select = true ∧ r = .error (.broken .database)) →
      Registration s email password firstName lastName w v r

theorem signUp_cases {email password firstName lastName : Option LooseText}
    {r : Except Failure SignedUp}
    (h : (s.signUp email password firstName lastName).run s w = (v, r)) :
    Registration s email password firstName lastName w v r := by
  cases he : Validation.email email with
  | error problem =>
    simp only [Service.signUp, he, Plan.valid, Plan.run_bind_fail, Prod.mk.injEq] at h
    obtain ⟨rfl, rfl⟩ := h
    exact .refused _ (.refl _)
  | ok address =>
    simp only [Service.signUp, he, Plan.valid, Plan.run_bind_pure] at h
    rcases Plan.run_bind_cases h with ⟨e, hn, rfl⟩ | ⟨u, p, hn, h⟩
    · exact .refused e ((newPassword_run hn).1 ▸ .refl w)
    obtain ⟨hw, hp⟩ := newPassword_run hn
    obtain ⟨hf, hp⟩ := hp p rfl
    rw [hw] at h
    cases hfirst : Validation.name "first_name" firstName with
    | error problem =>
      simp only [hfirst, Plan.run_bind_fail, Prod.mk.injEq] at h
      obtain ⟨rfl, rfl⟩ := h
      exact .refused _ (.refl _)
    | ok first =>
    cases hlast : Validation.name "last_name" lastName with
    | error problem =>
      simp only [hfirst, hlast, Plan.run_bind_pure, Plan.run_bind_fail, Prod.mk.injEq] at h
      obtain ⟨rfl, rfl⟩ := h
      exact .refused _ (.refl _)
    | ok last =>
      simp only [hfirst, hlast, Plan.run_bind_pure] at h
      rcases Plan.run_bind_cases h with ⟨e, hh, rfl⟩ | ⟨x, hash, hh, h⟩
      · exact .refused e (Plan.quiet_run (hash_quiet s p) hh)
      have hx := afterSalt_of_hash hh
      subst hx
      rcases Plan.run_createUser h with ⟨hq, e, rfl⟩ | ⟨user, hrow, ht, h⟩
      · exact .refused e ((quiet_afterSalt w).trans hq)
      obtain rfl := Option.some.inj hrow
      have made := fun r => Registration.created (s := s) (w := w) (v := v) p _ r he hf hp hfirst
        hlast (by rw [hh]) rfl rfl rfl rfl rfl ht
      rcases h with ⟨rfl, ho, rfl⟩ | ⟨ho, h⟩
      · exact made _ rfl rfl rfl rfl (.inr ⟨ho, rfl⟩)
      · obtain ⟨rfl, rfl⟩ := Prod.mk.inj h
        exact made _ rfl rfl rfl rfl (.inl ⟨ho, rfl⟩)

theorem issueToken_cases {subject type : String} {ttl : Duration} {r : Except Failure Token.Issued}
    (h : (s.issueToken subject ttl type).run s w = (v, r)) :
    Quiet w v ∧ ((∃ e, r = .error e) ∨ ∃ issued, r = .ok issued ∧
      w.issueToken s s.authority subject ttl type = (v, .ok issued)) := by
  have hq : (s.issueToken subject ttl type).Asks Call.IsQuiet := by
    refine Plan.asks_bind (Plan.asks_ask trivial) fun a => ?_
    cases a <;> trivial
  refine ⟨Plan.quiet_run hq h, ?_⟩
  unfold Service.issueToken at h
  rw [Plan.run_bind_ask] at h
  simp only [answer] at h
  rcases hi : w.issueToken s s.authority subject ttl type with ⟨u, b | issued⟩
  · rw [hi] at h
    exact .inl ⟨_, (Prod.mk.inj h).2.symm⟩
  · rw [hi] at h
    obtain ⟨rfl, rfl⟩ := Prod.mk.inj h
    exact .inr ⟨issued, rfl, rfl⟩

/-- How a login can end. -/
inductive Login (s : Service) (email password : Option LooseText) (w v : World) :
    Except Failure LoggedIn → Prop where
  | refused (e) : Quiet w v → Login s email password w v (.error e)
  | started (address p user x y access refresh deadline) :
      Validation.email email = .ok address → password = some (LooseText.ofString p) →
      w.users.withEmail? address = some user →
      Password.verify s.suite user.passwordHash p = .ok true → user.isActive = true →
      w.issueToken s s.authority user.id s.lifetimes.access Token.accessType =
        (x, .ok access) →
      x.issueToken s s.authority user.id s.lifetimes.refresh Token.refreshType =
        (y, .ok refresh) →
      s.backing.deadline? w.now (refresh.expiresAt - w.now) = some deadline →
      v.now = w.now → v.outages = w.outages →
      v.sessions = w.sessions.insert (Session.refreshKey user.id) ⟨refresh.token, deadline⟩ →
      (w.outages.users.update = true ∧ v.users = w.users ∨
        v.users = w.users.modify user.id
          fun u => { u with lastLoginAt := some w.now, updatedAt := w.system }) →
      Login s email password w v
        (.ok ⟨access.token, refresh.token, Time.wholeSeconds s.lifetimes.access, user.toPublic⟩)

theorem log_issueToken (s : Service) (w : World) (authority : Token.Authority) (subject : String)
    (ttl : Duration) (type : String) :
    (w.issueToken s authority subject ttl type).1.log = w.log := by
  unfold World.issueToken
  split <;> rfl

/-- The time of a login is recorded in the row. If rows cannot be updated, only the log tells. -/
def World.Recorded (w v : World) (id : String) : Prop :=
  if w.outages.users.update then
    v.users = w.users ∧
      v.log = w.log ++ [.updateFailed (some id) ["last_login_at"], .lastLoginLost id]
  else
    v.log = w.log ∧
      v.users = w.users.modify id fun u =>
        { u with lastLoginAt := some w.now, updatedAt := w.system }

theorem World.Recorded.users {id : String} (h : w.Recorded v id) :
    w.outages.users.update = true ∧ v.users = w.users ∨
      v.users = w.users.modify id fun u =>
        { u with lastLoginAt := some w.now, updatedAt := w.system } := by
  unfold Recorded at h
  split at h
  · next hout => exact .inl ⟨hout, h.1⟩
  · exact .inr h.2

theorem startSession_cases {user : User} {r : Except Failure LoggedIn}
    (hu : w.users.withId? user.id = some user)
    (h : (s.startSession user).run s w = (v, r)) :
    (Quiet w v ∧ ∃ e, r = .error e) ∨ ∃ x y access refresh deadline,
      w.issueToken s s.authority user.id s.lifetimes.access Token.accessType =
        (x, .ok access) ∧
      x.issueToken s s.authority user.id s.lifetimes.refresh Token.refreshType =
        (y, .ok refresh) ∧
      s.backing.deadline? w.now (refresh.expiresAt - w.now) = some deadline ∧
      v.now = w.now ∧ v.outages = w.outages ∧
      v.sessions = w.sessions.insert (Session.refreshKey user.id) ⟨refresh.token, deadline⟩ ∧
      w.Recorded v user.id ∧
      r = .ok ⟨access.token, refresh.token, Time.wholeSeconds s.lifetimes.access,
        user.toPublic⟩ := by
  unfold Service.startSession at h
  rcases Plan.run_bind_cases h with ⟨e, hi, rfl⟩ | ⟨x, access, hi, h⟩
  · exact .inl ⟨(issueToken_cases hi).1, e, rfl⟩
  obtain ⟨hx, hi⟩ := issueToken_cases hi
  obtain ⟨_, hn⟩ | ⟨_, hi', hi⟩ := hi
  · cases hn
  cases hi'
  rcases Plan.run_bind_cases h with ⟨e, hj, rfl⟩ | ⟨y, refresh, hj, h⟩
  · exact .inl ⟨hx.trans (issueToken_cases hj).1, e, rfl⟩
  obtain ⟨hy, hj⟩ := issueToken_cases hj
  obtain ⟨_, hn⟩ | ⟨_, hj', hj⟩ := hj
  · cases hn
  cases hj'
  have hq := hx.trans hy
  rw [Plan.run_bind_ask] at h
  rcases Plan.run_putSession h with ⟨hv, e, rfl⟩ | ⟨t, ht, h⟩
  · exact .inl ⟨hq.trans hv, e, rfl⟩
  have hn : y.now = w.now := hq.now
  have hsys : y.system = w.system := hq.system
  have hus : y.users = w.users := hq.users
  have ho : y.outages = w.outages := hq.outages
  have hs : y.sessions = w.sessions := hq.sessions
  have hl : y.log = w.log := by
    have hlx := log_issueToken s w s.authority user.id s.lifetimes.access Token.accessType
    have hly := log_issueToken s x s.authority user.id s.lifetimes.refresh Token.refreshType
    rw [hi] at hlx
    rw [hj] at hly
    exact hly.trans hlx
  refine .inr ⟨x, y, access, refresh, t, hi, hj, hn ▸ ht, ?_⟩
  rcases Plan.run_updateLastLogin (hus ▸ hu) h with ⟨hout, h⟩ | ⟨hout, h⟩
  · obtain ⟨rfl, rfl⟩ := Prod.mk.inj h
    refine ⟨hn, ho, congrArg (Session.Entries.insert _ _) hs, ?_, rfl⟩
    rw [World.Recorded, if_pos (ho ▸ hout), ← hl]
    exact ⟨hus, List.append_assoc ..⟩
  · obtain ⟨rfl, rfl⟩ := Prod.mk.inj h
    refine ⟨hn, ho, congrArg (Session.Entries.insert _ _) hs, ?_, rfl⟩
    rw [World.Recorded, if_neg (by rw [← ho]; exact Bool.eq_false_iff.mp hout), ← hn, ← hsys,
      ← hus]
    exact ⟨hl, rfl⟩

theorem login_reaches {email password : Option LooseText} {r : Except Failure LoggedIn}
    (h : (s.login email password).run s w = (v, r)) :
    (Quiet w v ∧ ∃ e, r = .error e) ∨ ∃ address p user,
      Validation.email email = .ok address ∧ password = some (LooseText.ofString p) ∧
      w.users.withEmail? address = some user ∧
      Password.verify s.suite user.passwordHash p = .ok true ∧ user.isActive = true ∧
      (s.startSession user).run s w = (v, r) := by
  cases he : Validation.email email with
  | error problem =>
    simp only [Service.login, he, Plan.valid, Plan.run_bind_fail, Prod.mk.injEq] at h
    obtain ⟨rfl, rfl⟩ := h
    exact .inl ⟨.refl _, _, rfl⟩
  | ok address =>
  cases hp : Validation.presentedPassword password with
  | error problem =>
    simp only [Service.login, he, hp, Plan.valid, Plan.run_bind_pure, Plan.run_bind_fail,
      Prod.mk.injEq] at h
    obtain ⟨rfl, rfl⟩ := h
    exact .inl ⟨.refl _, _, rfl⟩
  | ok t =>
    simp only [Service.login, he, hp, Plan.valid, Plan.run_bind_pure] at h
    rcases Plan.run_findByEmail h with hq | ⟨ho, h⟩
    · exact .inl hq
    cases hu : w.users.withEmail? address with
    | none =>
      rw [hu] at h
      exact .inl ⟨Plan.quiet_run (rejectUnknown_quiet s t) h, rejectUnknown_fails h⟩
    | some user =>
      simp only [hu] at h
      rcases Plan.run_bind_cases h with ⟨e, hc, rfl⟩ | ⟨u, c, hc, h⟩
      · exact .inl ⟨Plan.quiet_run (checkPassword_quiet _ t) hc, e, rfl⟩
      obtain ⟨hw, hc⟩ := checkPassword_run hc
      rw [hw] at h
      cases c with
      | error corruption =>
        obtain ⟨rfl, rfl⟩ := Prod.mk.inj h
        exact .inl ⟨quiet_noted w _, _, rfl⟩
      | ok matched =>
        obtain ⟨p, hpt, hm⟩ := hc matched rfl
        simp only at h
        split at h
        · next hb =>
          rw [Bool.and_eq_true] at hb
          rw [hb.1] at hm
          exact .inr ⟨address, p, user, rfl, hpt ▸ field_of_presentedPassword hp, hu, hm, hb.2, h⟩
        · obtain ⟨rfl, rfl⟩ := Prod.mk.inj h
          exact .inl ⟨.refl _, _, rfl⟩

theorem login_cases {email password : Option LooseText} {r : Except Failure LoggedIn}
    (hk : Users.Keyed w.users) (h : (s.login email password).run s w = (v, r)) :
    Login s email password w v r := by
  rcases login_reaches h with ⟨hq, e, rfl⟩ | ⟨address, p, user, he, hp, hu, hm, ha, h⟩
  · exact .refused e hq
  obtain ⟨hmem, haddress⟩ := Users.mem_of_withEmail? hu
  rcases startSession_cases (hk.withId? hmem) h with ⟨hq, e, rfl⟩ |
    ⟨x, y, access, refresh, deadline, hi, hj, ht, hn, hout, hs, hus, rfl⟩
  · exact .refused e hq
  · exact .started address p user x y access refresh deadline he hp hu hm ha hi hj ht hn hout hs
      hus.users

theorem expiresIn_of_startSession {user : User} {l : LoggedIn}
    (h : (s.startSession user).run s w = (v, .ok l)) :
    l.expiresIn = Time.wholeSeconds s.lifetimes.access := by
  unfold Service.startSession at h
  obtain ⟨_, access, -, h⟩ := Plan.run_bind_ok h
  obtain ⟨_, refresh, -, h⟩ := Plan.run_bind_ok h
  obtain ⟨_, now, -, h⟩ := Plan.run_bind_ok h
  obtain ⟨_, registered, -, h⟩ := Plan.run_bind_ok h
  obtain ⟨_, _, -, h⟩ := Plan.run_bind_ok h
  obtain ⟨_, updated, -, h⟩ := Plan.run_bind_ok h
  split at h
  · cases (Prod.mk.inj h).2
    rfl
  · obtain ⟨_, _, -, h⟩ := Plan.run_bind_ok h
    cases (Prod.mk.inj h).2
    rfl
  · cases (Prod.mk.inj h).2

theorem expiresIn_of_login {email password : Option LooseText} {l : LoggedIn}
    (h : (s.perform (.login email password) w).2 = .ok (.loggedIn l)) :
    l.expiresIn = Time.wholeSeconds s.lifetimes.access := by
  simp only [Service.perform, Operation.plan, Plan.run_mapResult] at h
  rcases hlogin : (s.login email password).run s w with ⟨v, e | a⟩
  · rw [hlogin] at h
    cases h
  · rw [hlogin] at h
    cases h
    obtain ⟨-, _, h⟩ | ⟨_, _, _, -, -, -, -, -, hstart⟩ := login_reaches hlogin
    · cases h
    · exact expiresIn_of_startSession hstart

theorem validateToken_accepts {field : Option LooseText} {token : LooseText} {claims : Token.Claims}
    {id : Uuid} {user : User} (ht : Validation.token field = .ok token)
    (hv : Token.verify s.suite s.authority w.now w.system (some Token.accessType) token = .ok claims)
    (hid : claims.subject.string?.bind Uuid.ofText? = some id)
    (ho : w.outages.users.select = false) (hu : w.users.withId? id.text = some user)
    (ha : user.isActive = true) :
    (s.validateToken field).run s w = (w, .ok ⟨true, user.toPublic, "token is valid"⟩) := by
  have hfind : w.answer s (.findById (some id.text)) = (w, .ok (some user)) := by
    rw [answer_findById, ho, Option.bind_some, hu]
    rfl
  have hsystem : w.answer s .systemTime = (w, w.system) := rfl
  have hnow : w.answer s .now = (w, w.now) := rfl
  unfold Service.validateToken
  simp only [ht]
  rw [Plan.run_bind_ask, hsystem, Plan.run_bind_ask, hnow]
  simp only [hv, hid]
  rw [Plan.run_bind_ask, hfind]
  simp only
  rw [Plan.run_bind_ofExcept_ok]
  simp only [ha]
  rfl

end Accounts
