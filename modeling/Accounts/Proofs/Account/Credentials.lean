import Accounts.Proofs.Account.LastPassword
import Accounts.Proofs.Password.Format

/-! # Credentials

The password set last opens the account, and any other text does so exactly if its hash under the
stored salt and cost is the stored one.
-/
namespace Accounts

open World

variable {s : Service} {w : World} {u : User}

/-- The expiry of a token, in whole seconds. -/
def Token.expiry (now : Instant) (ttl : Duration) : Instant :=
  Time.ceilSeconds (now + ttl) * Time.second

/-- The service can sign, and every date that a login computes is in the calendar. -/
structure Service.CanIssue (s : Service) (now : Instant) : Prop where
  algorithm : ∃ a, MacAlgorithm.ofName? s.authority.algorithm = some a
  key : ∃ key, Token.signingKey s.authority.secret = .ok key
  accessEnd : Time.isInstant (now + s.lifetimes.access) = true
  accessExpiry : Time.isInstant (Token.expiry now s.lifetimes.access) = true
  refreshEnd : Time.isInstant (now + s.lifetimes.refresh) = true
  refreshExpiry : Time.isInstant (Token.expiry now s.lifetimes.refresh) = true
  sessionEnd : (s.backing.deadline? now (Token.expiry now s.lifetimes.refresh - now)).isSome

theorem issueToken_ok {subject type : String} {ttl : Duration}
    (ha : ∃ a, MacAlgorithm.ofName? s.authority.algorithm = some a)
    (hk : ∃ key, Token.signingKey s.authority.secret = .ok key)
    (hend : Time.isInstant (w.now + ttl) = true)
    (hexpiry : Time.isInstant (Token.expiry w.now ttl) = true) :
    ∃ token, w.issueToken s s.authority subject ttl type =
      (w.afterId, .ok ⟨token, Token.expiry w.now ttl⟩) := by
  obtain ⟨a, ha⟩ := ha
  obtain ⟨key, hk⟩ := hk
  have htimes : Token.lifespan w.now ttl =
      .ok (Time.floorSeconds w.now, Time.ceilSeconds (w.now + ttl)) := by
    rw [Token.lifespan, Time.after?, if_pos hend]
  simp only [World.issueToken, htimes, Token.finish, Token.sign, ha, hk, Time.ofSeconds_ok hexpiry]
  exact ⟨_, rfl⟩

theorem run_issueToken {α : Type} {subject type : String} {ttl : Duration} {v : World}
    {issued : Token.Issued} (g : Token.Issued → Plan α)
    (h : w.issueToken s s.authority subject ttl type = (v, .ok issued)) :
    (s.issueToken subject ttl type >>= g).run s w = (g issued).run s v := by
  have hrun : (s.issueToken subject ttl type).run s w = (v, .ok issued) := by
    rw [Service.issueToken, Plan.run_bind_ask]
    simp only [answer, h, Plan.run_pure]
  rw [Plan.bind_eq, Plan.run_bind, hrun]

theorem isOut_false (backing : Session.Backing) : backing.isOut false = false :=
  Bool.and_false _

theorem answer_findByEmail_ok (ho : w.outages = .none) (email : String) :
    w.answer s (.findByEmail (some email)) = (w, .ok (w.users.withEmail? email)) := by
  rw [answer_findByEmail, ho]
  rfl

theorem answer_putSession_ok (key : LooseText) (value : String) {ttl : Duration}
    (ho : w.outages = .none) (hkept : (s.backing.deadline? w.now ttl).isSome) :
    ∃ v, w.answer s (.putSession key value ttl) = (v, .ok ()) ∧ v.outages = .none ∧
      v.users = w.users := by
  obtain ⟨t, ht⟩ := Option.isSome_iff_exists.mp hkept
  refine ⟨{ w with sessions := w.sessions.insert key ⟨value, t⟩ }, ?_, ho, rfl⟩
  rw [answer_putSession, ho, ht]
  exact if_neg (by rw [Outages.none, Session.Outages.none, isOut_false]; decide)

theorem answer_updateLastLogin_ok (ho : w.outages = .none) (hu : w.users.withId? u.id = some u) :
    ∃ v, w.answer s (.updateLastLogin (some u.id) none) = (v, .ok true) := by
  rw [answer_updateLastLogin, ho, hu]
  exact ⟨_, rfl⟩

theorem startSession_ok (h : s.CanIssue w.now) (ho : w.outages = .none)
    (hu : w.users.withId? u.id = some u) :
    ∃ r, ((s.startSession u).run s w).2 = .ok r ∧ r.user = u.toPublic := by
  obtain ⟨access, haccess⟩ : ∃ token,
      w.issueToken s s.authority u.id s.lifetimes.access Token.accessType =
        (w.afterId, .ok ⟨token, Token.expiry w.now s.lifetimes.access⟩) :=
    issueToken_ok h.algorithm h.key h.accessEnd h.accessExpiry
  obtain ⟨refresh, hrefresh⟩ : ∃ token,
      w.afterId.issueToken s s.authority u.id s.lifetimes.refresh Token.refreshType =
        (w.afterId.afterId, .ok ⟨token, Token.expiry w.now s.lifetimes.refresh⟩) :=
    issueToken_ok h.algorithm h.key h.refreshEnd h.refreshExpiry
  have hnow : w.afterId.afterId.answer s .now = (w.afterId.afterId, w.now) := rfl
  obtain ⟨v, hput, hv, hus⟩ : ∃ v, w.afterId.afterId.answer s (.putSession
      (Session.refreshKey u.id) refresh (Token.expiry w.now s.lifetimes.refresh - w.now)) =
        (v, .ok ()) ∧ v.outages = .none ∧ v.users = w.users :=
    answer_putSession_ok _ refresh ho h.sessionEnd
  have hrow : v.users.withId? u.id = some u := hus ▸ hu
  obtain ⟨x, hlogin⟩ : ∃ x, v.answer s (.updateLastLogin (some u.id) none) = (x, .ok true) :=
    answer_updateLastLogin_ok hv hrow
  rw [Service.startSession, run_issueToken _ haccess, run_issueToken _ hrefresh, Plan.run_bind_ask,
    hnow, Plan.run_bind_ask, hput]
  dsimp only
  rw [Plan.run_bind_ofExcept_ok, Plan.run_bind_ask, hlogin]
  exact ⟨_, rfl, rfl⟩

theorem presentedPassword_ok {password : LooseText} (h : password.isEmpty = false) :
    Validation.presentedPassword (some password) = .ok password := by
  rw [Validation.presentedPassword, Option.getD_some, h]
  rfl

theorem login_known {email : LooseText} {p : String} (ho : w.outages = .none)
    (he : Validation.email (some email) = .ok u.email) (hp : p ≠ "")
    (hu : w.users.withEmail? u.email = some u) {matched : Bool}
    (hm : Password.verify s.suite u.passwordHash p = .ok matched) :
    (s.login (some email) (some (LooseText.ofString p))).run s w =
      if matched && u.isActive then (s.startSession u).run s w
      else (w, .error (.fault .wrongCredentials)) := by
  have hpresented : Validation.presentedPassword (some (LooseText.ofString p)) =
      .ok (LooseText.ofString p) := by
    apply presentedPassword_ok
    rw [LooseText.isEmpty, LooseText.ofString, List.isEmpty_map, List.isEmpty_eq_false_iff]
    exact fun h => hp (String.toList_eq_nil_iff.mp h)
  have hcheck : (Service.checkPassword u.passwordHash (LooseText.ofString p)).run s w =
      (w, .ok (.ok matched)) := by
    rw [Service.checkPassword, LooseText.string?_ofString, Plan.run_ask]
    simp only [answer, hm]
  simp only [Service.login, he, hpresented, Plan.valid, Plan.run_bind_pure, Plan.run_bind_ask,
    answer_findByEmail_ok ho, Plan.run_bind_ofExcept_ok, hu]
  rw [Plan.bind_eq, Plan.run_bind, hcheck]
  simp only
  split <;> rfl

theorem login_unencodable {email password : LooseText} (ho : w.outages = .none)
    (he : Validation.email (some email) = .ok u.email) (hp : password.string? = none)
    (hu : w.users.withEmail? u.email = some u) {params : Password.Params}
    (hparams : Password.paramsOf? u.passwordHash = some params) :
    (s.login (some email) (some password)).run s w = (w, .error (.broken .encoding)) := by
  have hne : password.isEmpty = false := by
    rw [LooseText.isEmpty, List.isEmpty_eq_false_iff]
    intro hempty
    have hnil : password = LooseText.ofString "" := congrArg LooseText.mk hempty
    rw [hnil, LooseText.string?_ofString] at hp
    cases hp
  have hcheck : (Service.checkPassword u.passwordHash password).run s w =
      (w, .error (.broken .encoding)) := by
    obtain ⟨shape, hshape, -⟩ := Option.bind_eq_some_iff.mp hparams
    rw [Service.checkPassword, hp]
    simp only [hshape]
    rfl
  simp only [Service.login, he, presentedPassword_ok hne, Plan.valid, Plan.run_bind_pure,
    Plan.run_bind_ask, answer_findByEmail_ok ho, Plan.run_bind_ofExcept_ok, hu]
  rw [Plan.bind_eq, Plan.run_bind, hcheck]

theorem params_of_hash {q hash : String} (h : ((s.hash q).run s w).2 = .ok hash) :
    ∃ params, Password.paramsOf? hash = some params ∧ Password.isTooLong q = false ∧
      Password.compute s.suite params q = hash := by
  obtain ⟨hmin, hmax, hshort, rfl⟩ := hash_ok_iff.mp h
  have hrange : 4 ≤ s.rounds.toNat ∧ s.rounds.toNat ≤ 31 := by omega
  exact ⟨_, Password.paramsOf?_compute s.suite s.rounds.toNat _ q hrange.1 hrange.2, hshort, rfl⟩

theorem email_congr {t t' : LooseText} (h : t.trim = t'.trim) :
    Validation.email (some t) = Validation.email (some t') := by
  simp only [Validation.email, Option.getD_some, h]

theorem Enrolled.email_of_trim {history : List Step} (h : Enrolled s history u) {email : LooseText}
    (htrim : email.trim = LooseText.ofString u.email) :
    Validation.email (some email) = .ok u.email := by
  obtain ⟨field, hfield⟩ := h.email
  obtain ⟨t, ht, htrim'⟩ := field_of_email hfield
  cases ht
  rw [email_congr (htrim.trans htrim'.symm), hfield]

def Service.signIn (s : Service) (w : World) (email password : LooseText) :
    Except Failure LoggedIn :=
  ((s.login (some email) (some password)).run s w).2

theorem perform_signIn (email password : LooseText) :
    (s.perform (.login (some email) (some password)) w).2 =
      (s.signIn w email password).map .loggedIn := by
  rw [Service.perform, Operation.plan, Plan.run_mapResult]
  rfl

theorem signIn_opens {email : LooseText} {p : String} (can : s.CanIssue w.now)
    (ho : w.outages = .none) (hk : w.users.Keyed) (hu : u ∈ w.users) (active : u.isActive = true)
    (he : Validation.email (some email) = .ok u.email) (hp : p ≠ "")
    (hm : Password.verify s.suite u.passwordHash p = .ok true) :
    ∃ r, s.signIn w email p = .ok r ∧ r.user = u.toPublic := by
  obtain ⟨r, hr, huser⟩ := startSession_ok can ho (hk.withId? hu)
  refine ⟨r, ?_, huser⟩
  rw [Service.signIn, login_known ho he hp (hk.withEmail? hu) hm, active]
  exact hr

/-- The text has the given hash under its parameters, and few enough bytes to be hashed. -/
def Service.Reproduces (s : Service) (params : Password.Params) (hash p : String) : Prop :=
  (Text.utf8 p).length ≤ Crypto.Bcrypt.maxBytes ∧ Password.compute s.suite params p = hash

theorem reproduces_iff {params : Password.Params} {hash p : String} :
    s.Reproduces params hash p ↔
      (!Password.isTooLong p && Password.compute s.suite params p == hash) = true := by
  rw [Bool.and_eq_true, Bool.not_eq_true', beq_iff_eq, Service.Reproduces, Password.isTooLong,
    decide_eq_false_iff_not, Nat.not_lt]

/-- After a run without faults, the hash of a user is that of the password set last. It opens the
account under every spelling of the email, and the answer has the public fields of the registration.
Any other text opens it exactly if it reproduces the hash under the parameters in it, and is refused
as wrong credentials otherwise. Only a password with code points that have no bytes breaks the
login. -/
theorem last_password_opens (s : Service) (start : Instant) (past : List Event)
    (plain : ∀ e ∈ past, e.IsPlain) (can : s.CanIssue ((World.initial start).after s past).now)
    {u : User} (hu : u ∈ ((World.initial start).after s past).users) :
    ∃ before x after q, (World.initial start).steps s past = before ++ x :: after ∧
      x.Sets s u.id q ∧ (∀ y ∈ after, ∀ q', ¬ y.Sets s u.id q') ∧
      ((s.hash q).run s x.world).2 = .ok u.passwordHash ∧
      ∃ params, Password.paramsOf? u.passwordHash = some params ∧
      ∃ y ∈ (World.initial start).steps s past, ∃ e p f l registered,
        y.event = .operation (.signUp e p f l) ∧
        (s.perform (.signUp e p f l) y.world).2 = .ok (.signedUp registered) ∧
      ∀ email : LooseText, email.trim = LooseText.ofString u.email →
        (∃ r, s.signIn ((World.initial start).after s past) email q = .ok r ∧
          r.user = registered.user) ∧
        (∀ p : String, p ≠ "" →
          ((∃ r, s.signIn ((World.initial start).after s past) email p = .ok r) ↔
            s.Reproduces params u.passwordHash p) ∧
          (¬ s.Reproduces params u.passwordHash p →
            s.signIn ((World.initial start).after s past) email p =
              .error (.fault .wrongCredentials))) ∧
        ∀ password : LooseText, password.string? = none →
          s.signIn ((World.initial start).after s past) email password =
            .error (.broken .encoding) := by
  have creds := credentials_after s start past plain
  generalize (World.initial start).after s past = w at creds can hu ⊢
  obtain ⟨before, x, after, q, hsplit, hsets, hlast, hvalid, hhash⟩ := creds.passwords u hu
  obtain ⟨params, hparams, hshort, hcompute⟩ := params_of_hash hhash
  obtain ⟨y, hy, e, p, f, l, r, hevent, hperform, hpublic⟩ := (creds.enrolled u hu).registered
  refine ⟨before, x, after, q, hsplit, hsets, hlast, hhash, params, hparams,
    y, hy, e, p, f, l, r, hevent, hperform, fun email htrim => ?_⟩
  have hemail : Validation.email (some email) = .ok u.email := by
    obtain ⟨field, hfield⟩ := (creds.enrolled u hu).email
    obtain ⟨t, ht, htrim'⟩ := field_of_email hfield
    cases ht
    rw [email_congr (htrim.trans htrim'.symm), hfield]
  obtain ⟨session, hsession, huser⟩ := startSession_ok can creds.outages (creds.keyed.withId? hu)
  have opens : ∀ p : String, p ≠ "" → s.Reproduces params u.passwordHash p →
      s.signIn w email p = .ok session := by
    intro p hp hmatch
    rw [Service.signIn, login_known creds.outages hemail hp (creds.keyed.withEmail? hu)
      (Password.verify_of_params hparams p), reproduces_iff.mp hmatch, (creds.enrolled u hu).active]
    exact hsession
  have refuses : ∀ p : String, p ≠ "" → ¬ s.Reproduces params u.passwordHash p →
      s.signIn w email p = .error (.fault .wrongCredentials) := by
    intro p hp hmatch
    rw [reproduces_iff, Bool.not_eq_true] at hmatch
    rw [Service.signIn, login_known creds.outages hemail hp (creds.keyed.withEmail? hu)
      (Password.verify_of_params hparams p), hmatch]
    rfl
  refine ⟨?_, ?_, ?_⟩
  · have hmatch : s.Reproduces params u.passwordHash q :=
      ⟨Nat.not_lt.mp (of_decide_eq_false hshort), hcompute⟩
    exact ⟨session, opens q (ne_empty_of_password hvalid) hmatch, huser.trans hpublic.symm⟩
  · intro p hp
    refine ⟨⟨fun h => ?_, fun h => ⟨session, opens p hp h⟩⟩, refuses p hp⟩
    obtain ⟨r, hr⟩ := h
    by_cases hmatch : s.Reproduces params u.passwordHash p
    · exact hmatch
    · rw [refuses p hp hmatch] at hr
      cases hr
  · intro password hp
    rw [Service.signIn, login_unencodable creds.outages hemail hp (creds.keyed.withEmail? hu)
      hparams]

theorem smallAuthority_key : ∃ key, Token.signingKey Service.small.authority.secret = .ok key := by
  rw [Token.signingKey, Token.textKey, if_neg (by decide)]
  exact ⟨_, rfl⟩

theorem canIssue_of_dates {now : Instant} (authority : s.authority = Service.small.authority)
    (dates : Time.isInstant (now + s.lifetimes.access) = true ∧
      Time.isInstant (Token.expiry now s.lifetimes.access) = true ∧
      Time.isInstant (now + s.lifetimes.refresh) = true ∧
      Time.isInstant (Token.expiry now s.lifetimes.refresh) = true ∧
      (s.backing.deadline? now (Token.expiry now s.lifetimes.refresh - now)).isSome) :
    s.CanIssue now := by
  obtain ⟨haccess, haccessExpiry, hrefresh, hrefreshExpiry, hsession⟩ := dates
  refine ⟨?_, ?_, haccess, haccessExpiry, hrefresh, hrefreshExpiry, hsession⟩
  · rw [authority]
    exact ⟨.hs256, MacAlgorithm.ofName?_name .hs256⟩
  · rw [authority]
    exact smallAuthority_key

/-- After Ann registered with the service. -/
def World.withAnn (s : Service) (start : Instant) : World :=
  (World.initial start).after s [annRegisters]

def completedReset : List Event :=
  [annRegisters, .advance Time.minute, .operation (.forgotPassword (some "ann@example.org")),
    .operation (.resetPassword (some ((World.initial 0).nextToken .small))
      (some "second password 2")),
    .advance Time.minute]

theorem completedReset_opens :
    ∃ u ∈ ((World.initial 0).after .small completedReset).users, u.email = "ann@example.org" ∧
      ∃ q, (∃ x ∈ (World.initial 0).steps .small completedReset, x.Sets .small u.id q) ∧
        ∃ r, Service.small.signIn ((World.initial 0).after .small completedReset)
          " ann@example.org " q = .ok r := by
  have can : Service.small.CanIssue ((World.initial 0).after .small completedReset).now := by
    refine ⟨⟨.hs256, MacAlgorithm.ofName?_name .hs256⟩, ?_, ?_, ?_, ?_, ?_, ?_⟩
    · rw [Token.signingKey, Token.textKey, if_neg (by decide +kernel)]
      exact ⟨_, rfl⟩
    · decide +kernel
    · decide +kernel
    · decide +kernel
    · decide +kernel
    · decide +kernel
  obtain ⟨u, hu, hemail⟩ : ∃ u ∈ ((World.initial 0).after .small completedReset).users,
      u.email = "ann@example.org" := by
    decide +kernel
  obtain ⟨before, x, after, q, hsplit, hsets, -, -, params, -, y, -, e, p, f, l, r, -, -, hopens⟩ :=
    last_password_opens .small 0 completedReset (by decide) can hu
  have htrim : (LooseText.ofString " ann@example.org ").trim = LooseText.ofString u.email := by
    rw [hemail]
    decide +kernel
  obtain ⟨session, hsession, -⟩ := (hopens _ htrim).1
  refine ⟨u, hu, hemail, q, ⟨x, ?_, hsets⟩, session, hsession⟩
  rw [hsplit]
  exact List.mem_append_right _ (.head _)

end Accounts
