import Accounts.Proofs.Account.Lasting
import Accounts.Proofs.Account.Recovery
import Accounts.Proofs.Service.Clock
import Accounts.Proofs.Session.Agreement
import Accounts.Proofs.Token.Expiry

/-! # Refresh tokens

Each user has one key under which a refresh token is registered. It belongs to the last login, and
it is gone with the expiry of its token or when the password is reset.
-/
namespace Accounts

open World

variable {s : Service} {w v : World} {e : Event} {id token token' : String}
  {history : List Step} {x y : Step}

theorem refreshKey_injective {id id' : String}
    (h : Session.refreshKey id = Session.refreshKey id') : id = id' := by
  have hlist := congrArg String.toList (LooseText.ofString_injective h)
  rw [String.toList_append, String.toList_append] at hlist
  exact String.toList_inj.mp (List.append_cancel_left hlist)

theorem refreshKey_ne {id id' : String} (h : id' ≠ id) :
    Session.refreshKey id ≠ Session.refreshKey id' := by
  intro heq
  exact h (refreshKey_injective heq).symm

theorem now_of_issueToken {authority : Token.Authority} {subject type : String} {ttl : Duration}
    {issued : Token.Issued} (h : w.issueToken s authority subject ttl type = (v, .ok issued)) :
    v.now = w.now := by
  rw [(Token.issueToken_ok_iff.mp h).1]
  rfl

/-- The step is a login of the user with an id, and answers a refresh token. -/
def Step.LogsIn (s : Service) (x : Step) (id token : String) : Prop :=
  ∃ email password l, x.event = .operation (.login email password) ∧
    (s.perform (.login email password) x.world).2 = .ok (.loggedIn l) ∧ l.user.id = id ∧
    l.refreshToken = token

/-- The step is a successful reset with a token of the user with an id. -/
def Step.Resets (s : Service) (x : Step) (id : String) : Prop :=
  ∃ field password k r, x.event = .operation (.resetPassword field password) ∧
    Validation.token field = .ok k ∧
    x.world.sessions.live? x.world.now (Session.resetKey k) = some id ∧
    (s.perform (.resetPassword field password) x.world).2 = .ok (.status r)

theorem Step.LogsIn.token_unique (h : x.LogsIn s id token) (h' : x.LogsIn s id token') :
    token = token' := by
  obtain ⟨email, password, l, he, hl, -, rfl⟩ := h
  obtain ⟨email', password', l', he', hl', -, rfl⟩ := h'
  cases he.symm.trans he'
  cases hl.symm.trans hl'
  rfl

theorem Step.LogsIn.not_resets (h : x.LogsIn s id token) : ¬ x.Resets s id := by
  rintro ⟨field, password', k, r, he', -⟩
  obtain ⟨email, password, l, he, -⟩ := h
  cases he.symm.trans he'

theorem tells_of_logsIn (hk : x.world.users.Keyed) (calendar : Time.isInstant x.world.now = true)
    (h : x.LogsIn s id token) :
    ∃ expiry, Token.Tells s.suite.nesting token id Token.refreshType expiry ∧
      Time.isInstant (x.world.now + s.lifetimes.refresh) = true ∧
      expiry = Time.ceilSeconds (x.world.now + s.lifetimes.refresh) * Time.second ∧
      ((Json.read s.suite.nesting.secret .written s.authority.secret).isOk = false → ∀ now system,
        Token.verify s.suite s.authority now system (some Token.refreshType) token =
            .error (.refused .expired) ↔
          expiry ≤ now ∧ (Time.ofSeconds (Time.floorSeconds x.world.now)).isOk = true) := by
  obtain ⟨email, password, l, -, hl, rfl, rfl⟩ := h
  obtain ⟨user, -, y, z, access, refresh, -, hi, hj, rfl⟩ := tokens_of_login hk hl
  have hnow : y.now = x.world.now := now_of_issueToken hi
  rw [← hnow] at calendar ⊢
  obtain ⟨-, hend, hsign, hexpiry⟩ := Token.issueToken_ok_iff.mp hj
  refine ⟨refresh.expiresAt, Token.tells_of_issueToken calendar hj, hend,
    Time.eq_of_ofSeconds hexpiry, ?_⟩
  intro secret now system
  exact Token.expired_iff hsign secret rfl (Token.issuedContents_short calendar hj) hexpiry

/-- What a step does to the registration of a user. -/
inductive RefreshStep (s : Service) (w : World) (e : Event) (id : String) : Prop where
  | registered (token expiry) : Step.LogsIn s ⟨w, e⟩ id token →
      Token.Tells s.suite.nesting token id Token.refreshType expiry →
      (w.next s e).sessions.find? (Session.refreshKey id) =
        some ⟨token, w.now + s.backing.lifetime (expiry - w.now)⟩ →
      RefreshStep s w e id
  | revoked : Step.Resets s ⟨w, e⟩ id →
      (w.next s e).sessions.find? (Session.refreshKey id) = none → RefreshStep s w e id
  | kept : (∀ token, ¬ Step.LogsIn s ⟨w, e⟩ id token) → ¬ Step.Resets s ⟨w, e⟩ id →
      (w.next s e).sessions.find? (Session.refreshKey id) =
        w.sessions.find? (Session.refreshKey id) →
      RefreshStep s w e id

theorem RefreshStep.of_other (login : ∀ email password, e ≠ .operation (.login email password))
    (reset : ∀ field password, e ≠ .operation (.resetPassword field password))
    (h : (w.next s e).sessions.find? (Session.refreshKey id) =
      w.sessions.find? (Session.refreshKey id)) : RefreshStep s w e id := by
  refine .kept ?_ ?_ h
  · rintro token ⟨email, password, l, he, -⟩
    exact login email password he
  · rintro ⟨field, password, k, r, he, -⟩
    exact reset field password he

theorem refresh_step_login (hk : w.users.Keyed) (calendar : Time.isInstant w.now = true)
    (email password : Option LooseText) :
    RefreshStep s w (.operation (.login email password)) id := by
  have noReset : ¬ Step.Resets s ⟨w, .operation (.login email password)⟩ id := by
    rintro ⟨field, password', k, r, he, -⟩
    cases he
  obtain ⟨r, h, hr⟩ := perform_login (s := s) hk email password
  cases h with
  | refused failure hq =>
    refine .kept ?_ noReset (congrArg _ hq.sessions)
    rintro token ⟨email', password', l, he, hl, -⟩
    cases he
    cases hr.symm.trans hl
  | started address p user x y access refresh deadline he hp hu hv ha hi hj hd hn ho hs hus =>
    by_cases hid : user.id = id
    · subst hid
      have hnow : x.now = w.now := now_of_issueToken hi
      refine .registered refresh.token refresh.expiresAt ⟨email, password, _, rfl, hr, rfl, rfl⟩
        (Token.tells_of_issueToken (hnow ▸ calendar) hj) ?_
      rw [next, hs, Session.Entries.find?_insert, if_pos rfl,
        (Session.Backing.deadline?_eq_some_iff.mp hd).1]
    · refine .kept ?_ noReset ?_
      · rintro token ⟨email', password', l, he', hl, hid', -⟩
        cases he'
        cases hr.symm.trans hl
        exact hid hid'
      · rw [next, hs, Session.Entries.find?_insert, if_neg (refreshKey_ne hid)]

theorem refresh_step_reset (ho : w.outages = .none) (field password : Option LooseText) :
    RefreshStep s w (.operation (.resetPassword field password)) id := by
  have noLogin : ∀ token,
      ¬ Step.LogsIn s ⟨w, .operation (.resetPassword field password)⟩ id token := by
    rintro token ⟨email, password', l, he, -⟩
    cases he
  obtain ⟨r, h, hr⟩ := perform_resetPassword s field password w
  cases h with
  | refused failure hq =>
    refine .kept noLogin ?_ (congrArg _ hq.sessions)
    rintro ⟨field', password', k, a, he, -, -, ha⟩
    cases he
    cases hr.symm.trans ha
  | spent k failure hk hn hus hout hs =>
    refine .kept noLogin ?_ ?_
    · rintro ⟨field', password', k', a, he, -, -, ha⟩
      cases he
      cases hr.symm.trans ha
    · rw [next, hs, Session.Entries.find?_erase, if_neg (resetKey_ne_refreshKey k id).symm]
  | changed k p id' hash user r hk hf hp hl hm hh hu hn hout hus hs =>
    rcases hs with ⟨-, hfails, -⟩ | ⟨hs, a, rfl⟩
    · rw [ho, Session.Backing.isOut, Bool.and_eq_true] at hfails
      cases hfails.2
    by_cases hid : id' = id
    · subst hid
      refine .revoked ⟨field, password, k, a, rfl, hk, hl, hr⟩ ?_
      rw [next, hs, Session.Entries.find?_erase, if_pos rfl]
    · refine .kept noLogin ?_ ?_
      · rintro ⟨field', password', k', a', he, hk', hl', -⟩
        cases he
        cases hk.symm.trans hk'
        exact hid (Option.some.inj (hl.symm.trans hl'))
      · rw [next, hs, Session.Entries.find?_erase, if_neg (refreshKey_ne hid),
          Session.Entries.find?_erase, if_neg (resetKey_ne_refreshKey k id).symm]

theorem refresh_step (hk : w.users.Keyed) (ho : w.outages = .none)
    (calendar : Time.isInstant w.now = true) (e : Event) (id : String) : RefreshStep s w e id := by
  cases e with
  | operation op =>
    cases op with
    | signUp email password firstName lastName =>
      apply RefreshStep.of_other (by simp) (by simp)
      obtain ⟨r, h, -⟩ := perform_signUp s email password firstName lastName w
      rw [next]
      cases h with
      | refused failure hq => rw [hq.sessions]
      | created p user r he hf hp hfirst hlast hh hid ha hc hu hl ht hn hout hs => rw [hs]
    | login email password => exact refresh_step_login hk calendar email password
    | forgotPassword email =>
      apply RefreshStep.of_other (by simp) (by simp)
      obtain ⟨r, h, -⟩ := perform_forgotPassword s email w
      rw [next]
      cases h with
      | refused failure hq => rw [hq.sessions]
      | unknown address he hu hq => rw [hq.sessions]
      | sent address user deadline he hu hd hn hus hout hs =>
        rw [hs, Session.Entries.find?_insert, if_neg (resetKey_ne_refreshKey _ id).symm]
    | resetPassword field password => exact refresh_step_reset ho field password
    | validateToken accessToken =>
      apply RefreshStep.of_other (by simp) (by simp)
      rw [next, (perform_validateToken s accessToken w).sessions]
  | advance d =>
    apply RefreshStep.of_other (by simp) (by simp)
    obtain ⟨now, system, hticked⟩ := ticked_advance w d
    rw [next, hticked]
  | setSystem t => exact .of_other (by simp) (by simp) rfl
  | outages o => exact .of_other (by simp) (by simp) rfl
  | activate email active => exact .of_other (by simp) (by simp) rfl

/-- The step is the last login of the user with an id, and no reset came after it. -/
def LastLogin (s : Service) (history : List Step) (id : String) (x : Step) (token : String) :
    Prop :=
  ∃ before after, history = before ++ x :: after ∧ x.LogsIn s id token ∧
    ∀ y ∈ after, (∀ token', ¬ y.LogsIn s id token') ∧ ¬ y.Resets s id

theorem lastLogin_snoc : LastLogin s (history ++ [y]) id x token ↔
    x = y ∧ y.LogsIn s id token ∨
      LastLogin s history id x token ∧ (∀ token', ¬ y.LogsIn s id token') ∧ ¬ y.Resets s id := by
  constructor
  · rintro ⟨before, after, hsplit, hlogin, hafter⟩
    rcases List.eq_nil_or_concat after with rfl | ⟨after, z, rfl⟩
    · obtain ⟨rfl, hlast⟩ := List.append_inj' hsplit rfl
      obtain rfl := List.head_eq_of_cons_eq hlast
      exact .inl ⟨rfl, hlogin⟩
    · have hsplit : history ++ [y] = (before ++ x :: after) ++ [z] := by simpa using hsplit
      obtain ⟨rfl, hlast⟩ := List.append_inj' hsplit rfl
      obtain rfl := List.head_eq_of_cons_eq hlast
      have hlater := hafter y (by simp)
      refine .inr ⟨⟨before, after, rfl, hlogin, ?_⟩, hlater⟩
      intro z hz
      exact hafter z (by simp [hz])
  · rintro (⟨rfl, hlogin⟩ | ⟨⟨before, after, rfl, hlogin, hafter⟩, hlast⟩)
    · exact ⟨history, [], rfl, hlogin, fun _ h => nomatch h⟩
    · refine ⟨before, after ++ [y], by simp, hlogin, ?_⟩
      intro z hz
      rcases List.mem_append.mp hz with hz | hz
      · exact hafter z hz
      · rw [List.mem_singleton.mp hz]
        exact hlast

/-- The registrations after a run: each is that of the last login. -/
def FollowsLogins (s : Service) (history : List Step) (w : World) : Prop :=
  ∀ id entry, w.sessions.find? (Session.refreshKey id) = some entry ↔
    ∃ x token expiry, LastLogin s history id x token ∧
      Token.Tells s.suite.nesting token id Token.refreshType expiry ∧
      entry = ⟨token, x.world.now + s.backing.lifetime (expiry - x.world.now)⟩

theorem FollowsLogins.step (h : FollowsLogins s history w) (hk : w.users.Keyed)
    (ho : w.outages = .none) (calendar : Time.isInstant w.now = true) (e : Event) :
    FollowsLogins s (history ++ [⟨w, e⟩]) (w.next s e) := by
  intro id entry
  constructor
  · intro hentry
    cases refresh_step hk ho calendar e id with
    | registered token expiry hlogin htells hfind =>
      rw [hfind] at hentry
      exact ⟨⟨w, e⟩, token, expiry, lastLogin_snoc.mpr (.inl ⟨rfl, hlogin⟩), htells,
        (Option.some.inj hentry).symm⟩
    | revoked hreset hfind =>
      rw [hfind] at hentry
      cases hentry
    | kept hlogin hreset hfind =>
      rw [hfind] at hentry
      obtain ⟨x, token, expiry, hlast, hrest⟩ := (h id entry).mp hentry
      exact ⟨x, token, expiry, lastLogin_snoc.mpr (.inr ⟨hlast, hlogin, hreset⟩), hrest⟩
  · rintro ⟨x, token, expiry, hlast, htells, rfl⟩
    cases refresh_step hk ho calendar e id with
    | registered token' expiry' hlogin htells' hfind =>
      rcases lastLogin_snoc.mp hlast with ⟨rfl, hlogin'⟩ | ⟨-, hnone, -⟩
      · obtain rfl := hlogin.token_unique hlogin'
        obtain rfl := htells.expiry_unique htells'
        exact hfind
      · exact absurd hlogin (hnone token')
    | revoked hreset hfind =>
      rcases lastLogin_snoc.mp hlast with ⟨rfl, hlogin⟩ | ⟨-, -, hnone⟩
      · exact absurd hreset hlogin.not_resets
      · exact absurd hreset hnone
    | kept hlogin hreset hfind =>
      rw [hfind]
      rcases lastLogin_snoc.mp hlast with ⟨rfl, hlogin'⟩ | ⟨hlast, -⟩
      · exact absurd hlogin' (hlogin token)
      · exact (h id _).mpr ⟨x, token, expiry, hlast, htells, rfl⟩

theorem followsLogins_after (s : Service) (start : Instant) (past : List Event)
    (calendar : Time.isInstant start = true) (plain : ∀ e ∈ past, e.IsPlain) :
    FollowsLogins s ((initial start).steps s past) ((initial start).after s past) := by
  induction past using run_induction with
  | start =>
    intro id entry
    constructor
    · intro h
      cases h
    · rintro ⟨x, token, expiry, ⟨before, after, hsplit, -⟩, -⟩
      exact absurd hsplit (List.append_ne_nil_of_right_ne_nil _ (List.cons_ne_nil _ _)).symm
  | step past e ih =>
    have hpast := fun x hx => plain x (List.mem_append_left [e] hx)
    rw [steps_snoc, after_snoc]
    exact (ih hpast).step (keyed_after s start past) (outages_after hpast)
      (isInstant_after start calendar past) e

theorem getSession_live (ho : w.outages = .none) (key : LooseText) :
    (w.answer s (.getSession key)).2 = .ok (w.sessions.live? w.now key) := by
  simp only [answer, onSessions, Session.get, ho, Outages.none, Session.Outages.none, isOut_false]
  rfl

theorem live?_eq_some_iff {es : Session.Entries} {key : LooseText} {now : Instant} {r : String} :
    es.live? now key = some r ↔ ∃ entry, es.find? key = some entry ∧ entry.value = r ∧
      now < entry.deadline := by
  rw [Session.Entries.live?]
  cases es.find? key with
  | none => simp
  | some entry =>
    dsimp only
    by_cases hover : entry.deadline ≤ now
    · rw [if_pos hover]
      constructor
      · intro h
        cases h
      · rintro ⟨entry', hentry, -, hnow⟩
        cases hentry
        exact absurd hover (Int.not_le.mpr hnow)
    · rw [if_neg hover]
      constructor
      · intro h
        exact ⟨entry, rfl, Option.some.inj h, Int.not_le.mp hover⟩
      · rintro ⟨entry', hentry, hvalue, -⟩
        cases hentry
        rw [hvalue]

theorem FollowsLogins.live?_iff (h : FollowsLogins s history w) {now : Instant} {r : String} :
    w.sessions.live? now (Session.refreshKey id) = some r ↔ ∃ x expiry,
      LastLogin s history id x r ∧ Token.Tells s.suite.nesting r id Token.refreshType expiry ∧
      now < x.world.now + s.backing.lifetime (expiry - x.world.now) := by
  rw [live?_eq_some_iff]
  constructor
  · rintro ⟨entry, hentry, rfl, hnow⟩
    obtain ⟨x, token, expiry, hlast, htells, rfl⟩ := (h id entry).mp hentry
    exact ⟨x, expiry, hlast, htells, hnow⟩
  · rintro ⟨x, expiry, hlast, htells, hnow⟩
    exact ⟨_, (h id _).mpr ⟨x, r, expiry, hlast, htells, rfl⟩, rfl, hnow⟩

theorem memory_deadline (t expiry : Int) : t + (expiry - t) = expiry := by
  omega

/-- The server rounds the time from one instant to another up. -/
def Time.RoundsUp (t expiry : Instant) : Prop :=
  t ≤ expiry ∧ expiry ≤ t + 2 ^ 34 * second

theorem Time.RoundsUp.exact {t expiry : Int} (h : RoundsUp t expiry) :
    IsExact (expiry - t) ∧ 0 ≤ expiry - t := by
  have hlow : t ≤ expiry := h.1
  have hhigh : expiry ≤ t + 2 ^ 34 * 1000000 := h.2
  rw [IsExact]
  omega

theorem Time.RoundsUp.deadline {t expiry : Int} (h : RoundsUp t expiry) :
    expiry ≤ t + Session.Backing.server.lifetime (expiry - t) ∧
      t + Session.Backing.server.lifetime (expiry - t) ≤ expiry + second := by
  have hmin : expiry - t ≤ Session.Backing.server.lifetime (expiry - t) :=
    Session.memoryLifetime_le h.exact.1
  have hmax := Session.serverLifetime_le h.exact.1 h.exact.2
  constructor
  · have hadd := Int.add_le_add_left hmin t
    rwa [memory_deadline] at hadd
  · have hadd := Int.add_le_add_left hmax t
    rwa [← Int.add_assoc, memory_deadline] at hadd

/-- A lifetime of at least a second and at most `2 ^ 34 - 1` of them is rounded up, and so is a
shorter one if its end is exact. -/
theorem Time.roundsUp_of_lifetime {t d : Int} (calendar : isInstant (t + d) = true)
    (long : second ≤ d ∨ 0 < d ∧ IsExact (t + d)) (short : d ≤ (2 ^ 34 - 1) * second) :
    RoundsUp t (ceilSeconds (t + d) * second) := by
  have hmoderate := moderate_of_isInstant calendar
  have hsecond : second = 1000000 := rfl
  have hshort : d ≤ (2 ^ 34 - 1) * 1000000 := short
  have hceil : ceilSeconds (t + d) ≤ t / 1000000 + 2 ^ 34 := by
    have hfloor : -(t / 1000000 + 2 ^ 34) ≤ floorSeconds (-(t + d)) := by
      apply le_floorSeconds hmoderate.neg
      rw [hsecond]
      omega
    rw [ceilSeconds_eq_neg _ hmoderate]
    omega
  have hstart : t ≤ ceilSeconds (t + d) * 1000000 := by
    rcases long with hlong | ⟨hpositive, hexact⟩
    · have hlong : 1000000 ≤ d := hlong
      have hfloor : floorSeconds (-(t + d)) ≤ -t / 1000000 := by
        apply floorSeconds_le hmoderate.neg
        rw [hsecond]
        omega
      rw [ceilSeconds_eq_neg _ hmoderate]
      omega
    · have hbound := (ceilSeconds_bounds hexact).1
      rw [hsecond] at hbound
      omega
  have hend : ceilSeconds (t + d) * 1000000 ≤ t + 2 ^ 34 * 1000000 := by omega
  exact ⟨hstart, hend⟩

/-- In a run without faults, with a secret that is no JSON text, the refresh token that can be read
for a user is that of the user's last login, if no reset came after it. In memory it can be read
until its own expiry and not from then on. The server keeps it until then too, and for less than a
second longer, if the time from the login to the expiry is one that it rounds up; that is so for
every lifetime of whole seconds up to `2 ^ 34 - 1`. From the expiry on the token is refused as
expired, if the second of the login has a date. All calls of one operation are answered at one
instant. -/
theorem registration_follows_last_login (s : Service) (start : Instant) (past : List Event)
    (id : String) {w : World} (hw : (World.initial start).after s past = w)
    (calendar : Time.isInstant start = true)
    (secret : (Json.read s.suite.nesting.secret .written s.authority.secret).isOk = false)
    (plain : ∀ e ∈ past, e.IsPlain) :
    ∃ found, (w.answer s (.getSession (Session.refreshKey id))).2 = .ok found ∧
      (s.backing = .memory → ∀ r, found = some r ↔ ∃ x expiry,
        LastLogin s ((World.initial start).steps s past) id x r ∧
        Token.Tells s.suite.nesting r id Token.refreshType expiry ∧ w.now < expiry) ∧
      (s.backing = .server → ∀ r, found = some r → ∃ x expiry,
        LastLogin s ((World.initial start).steps s past) id x r ∧
        Token.Tells s.suite.nesting r id Token.refreshType expiry ∧
        (Time.RoundsUp x.world.now expiry → w.now < expiry + Time.second)) ∧
      ∀ x r, LastLogin s ((World.initial start).steps s past) id x r →
        ∃ expiry, Token.Tells s.suite.nesting r id Token.refreshType expiry ∧
          (s.backing = .server → Time.RoundsUp x.world.now expiry → w.now < expiry →
            found = some r) ∧
          (Time.second ≤ s.lifetimes.refresh ∨
              0 < s.lifetimes.refresh ∧ Time.IsExact (x.world.now + s.lifetimes.refresh) →
            s.lifetimes.refresh ≤ (2 ^ 34 - 1) * Time.second →
            Time.RoundsUp x.world.now expiry) ∧
          (Token.verify s.suite s.authority w.now w.system (some Token.refreshType) r =
              .error (.refused .expired) ↔
            expiry ≤ w.now ∧ (Time.ofSeconds (Time.floorSeconds x.world.now)).isOk = true) := by
  have follows := followsLogins_after s start past calendar plain
  have houtages : w.outages = .none := by
    rw [← hw, outages_after plain]
    rfl
  rw [hw] at follows
  refine ⟨_, getSession_live houtages _, ?_, ?_, ?_⟩
  · intro hmemory r
    rw [follows.live?_iff, hmemory]
    simp only [Session.Backing.lifetime, memory_deadline]
  · intro hserver r hfound
    obtain ⟨x, expiry, hlast, htells, hnow⟩ := follows.live?_iff.mp hfound
    refine ⟨x, expiry, hlast, htells, ?_⟩
    intro hrounds
    rw [hserver] at hnow
    exact Int.lt_of_lt_of_le hnow hrounds.deadline.2
  · intro x r hlast
    have hlast' := hlast
    obtain ⟨before, after, hsplit, hlogin, -⟩ := hlast'
    have hstep : x ∈ (World.initial start).steps s past := by
      rw [hsplit]
      exact List.mem_append_right _ (.head _)
    obtain ⟨earlier, hearlier⟩ := world_of_step hstep
    have hkeyed : x.world.users.Keyed := hearlier ▸ keyed_after s start earlier
    have hcalendar : Time.isInstant x.world.now = true :=
      hearlier ▸ isInstant_after start calendar earlier
    obtain ⟨expiry, htells, hend, hexpiry, hrefused⟩ := tells_of_logsIn hkeyed hcalendar hlogin
    refine ⟨expiry, htells, ?_, ?_, hrefused secret w.now w.system⟩
    · intro hserver hrounds hnow
      refine follows.live?_iff.mpr ⟨x, expiry, hlast, htells, ?_⟩
      rw [hserver]
      exact Int.lt_of_lt_of_le hnow hrounds.deadline.1
    · intro hlong hshort
      rw [hexpiry]
      exact Time.roundsUp_of_lifetime hend hlong hshort

def Service.smallInMemory : Service :=
  { Service.small with backing := .memory }

def annStays (d : Duration) : List Event := [annRegisters, annLogsIn, .advance d]

section Ann

variable {start : Instant} {l : LoggedIn}
  (h : (s.perform (.login (some "ann@example.org") (some "first password 1"))
    (World.withAnn s start)).2 = .ok (.loggedIn l))

include h

theorem ann_logsIn : Step.LogsIn s ⟨World.withAnn s start, annLogsIn⟩ l.user.id l.refreshToken :=
  ⟨_, _, l, rfl, h, rfl, rfl⟩

theorem lastLogin_of_ann (d : Duration) :
    LastLogin s ((World.initial start).steps s (annStays d)) l.user.id
      ⟨World.withAnn s start, annLogsIn⟩ l.refreshToken := by
  refine ⟨[_], [_], rfl, ann_logsIn h, ?_⟩
  intro y hy
  rw [List.mem_singleton.mp hy]
  constructor
  · rintro token ⟨email, password, l, he, -⟩
    cases he
  · rintro ⟨field, password, k, r, he, -⟩
    cases he

theorem tells_of_ann (calendar : Time.isInstant (World.withAnn s start).now = true) :
    ∃ expiry, Token.Tells s.suite.nesting l.refreshToken l.user.id Token.refreshType expiry ∧
      expiry = Time.ceilSeconds ((World.withAnn s start).now + s.lifetimes.refresh) *
        Time.second := by
  have hkeyed : (World.withAnn s start).users.Keyed := keyed_after s start [annRegisters]
  obtain ⟨expiry, htells, -, hexpiry, -⟩ := tells_of_logsIn hkeyed calendar (ann_logsIn h)
  exact ⟨expiry, htells, hexpiry⟩

end Ann

/-- A week that begins a quarter of a second after the epoch is over with a second. -/
theorem ann_stays_for_a_week : ∃ l : LoggedIn,
    (((World.initial 250000).after .smallInMemory
        (annStays (604800 * Time.second + 749999))).answer .smallInMemory
      (.getSession (Session.refreshKey l.user.id))).2 = .ok (some l.refreshToken) ∧
    (((World.initial 250000).after .smallInMemory
        (annStays (604800 * Time.second + 750000))).answer .smallInMemory
      (.getSession (Session.refreshKey l.user.id))).2 ≠ .ok (some l.refreshToken) := by
  have can : Service.smallInMemory.CanIssue (World.withAnn .smallInMemory 250000).now :=
    canIssue_of_dates rfl (by decide)
  obtain ⟨l, hl⟩ := ann_logs_in can (by decide)
  have follows := fun d => registration_follows_last_login .smallInMemory 250000 (annStays d)
    l.user.id rfl (by decide) smallAuthority_plain
    (by simp [annStays, annRegisters, annLogsIn, Event.IsPlain])
  obtain ⟨expiry, htells, hexpiry⟩ := tells_of_ann hl (by decide)
  refine ⟨l, ?_, ?_⟩
  · obtain ⟨found, hfound, memory, -⟩ := follows (604800 * Time.second + 749999)
    rw [hfound, (memory rfl _).mpr ⟨_, expiry, lastLogin_of_ann hl _, htells, ?_⟩]
    rw [hexpiry]
    decide
  · obtain ⟨found, hfound, memory, -⟩ := follows (604800 * Time.second + 750000)
    rw [hfound, ne_eq, Except.ok.injEq, memory rfl]
    rintro ⟨x, expiry', -, htells', hnow⟩
    rw [← htells.expiry_unique htells', hexpiry] at hnow
    exact absurd hnow (by decide)

/-- A service whose refresh tokens should live for a microsecond less than `2 ^ 34` seconds. -/
def Service.longRefresh : Service :=
  { Service.small with lifetimes := { Lifetimes.standard with refresh := 17179869183999999 } }

/-- The expiry is rounded up by a second, and then the server rounds the time until then down, so
the registration is gone a microsecond before its token expires. -/
theorem registration_gone_early : ∃ (l : LoggedIn) (v : World) (expiry : Instant),
    (World.initial 999999).after .longRefresh (annStays 17179869184000000) = v ∧
    0 < Service.longRefresh.lifetimes.refresh ∧
    Service.longRefresh.lifetimes.refresh < 2 ^ 34 * Time.second ∧
    LastLogin .longRefresh
      ((World.initial 999999).steps .longRefresh (annStays 17179869184000000)) l.user.id
      ⟨World.withAnn .longRefresh 999999, annLogsIn⟩ l.refreshToken ∧
    Token.Tells Service.longRefresh.suite.nesting l.refreshToken l.user.id Token.refreshType expiry ∧
    v.now < expiry ∧
    (v.answer .longRefresh (.getSession (Session.refreshKey l.user.id))).2 = .ok none := by
  have can : Service.longRefresh.CanIssue (World.withAnn .longRefresh 999999).now :=
    canIssue_of_dates rfl (by decide)
  obtain ⟨l, hl⟩ := ann_logs_in can (by decide)
  have last := lastLogin_of_ann hl 17179869184000000
  obtain ⟨expiry, htells, hexpiry⟩ := tells_of_ann hl (by decide)
  have follows := followsLogins_after .longRefresh 999999 (annStays 17179869184000000) (by decide)
    (by simp [annStays, annRegisters, annLogsIn, Event.IsPlain])
  have entry := (follows l.user.id _).mpr ⟨_, _, expiry, last, htells, rfl⟩
  have gone : ((World.initial 999999).after .longRefresh
      (annStays 17179869184000000)).sessions.live? ((World.initial 999999).after .longRefresh
        (annStays 17179869184000000)).now (Session.refreshKey l.user.id) = none := by
    have lapsed : (World.withAnn .longRefresh 999999).now + Service.longRefresh.backing.lifetime
        (Time.ceilSeconds ((World.withAnn .longRefresh 999999).now +
          Service.longRefresh.lifetimes.refresh) * Time.second -
            (World.withAnn .longRefresh 999999).now) ≤
        ((World.initial 999999).after .longRefresh (annStays 17179869184000000)).now := by
      decide
    rw [Session.Entries.live?, entry, hexpiry]
    exact if_pos lapsed
  refine ⟨l, _, expiry, rfl, by decide, by decide, last, htells, ?_, ?_⟩
  · rw [hexpiry]
    decide
  · rw [getSession_live rfl, gone]

end Accounts
