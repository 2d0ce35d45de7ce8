import Accounts.Proofs.Account.Access
import Accounts.Proofs.Account.Credentials
import Accounts.Proofs.Token.Length

/-! # How long a login lasts

The access token of a login is accepted until the first whole second at or after the end of its
lifetime, whatever happens in between. The refresh token is never accepted in its place.
-/
namespace Accounts

open World

variable {s : Service} {w v : World} {u : User}

def World.IsReachable (s : Service) (w : World) : Prop :=
  ∃ start past, (World.initial start).after s past = w

theorem World.IsReachable.keyed (h : w.IsReachable s) : w.users.Keyed := by
  obtain ⟨start, past, rfl⟩ := h
  exact keyed_after s start past

theorem World.IsReachable.id_of_row (h : w.IsReachable s) (hu : u ∈ w.users) :
    ∃ id : Uuid, u.id = id.text := by
  obtain ⟨start, past, rfl⟩ := h
  exact Accounts.id_of_row s start past hu

/-- The first whole second at an instant or after it. -/
def Time.roundUp (t : Instant) : Instant := -(-t / second) * second

theorem Time.le_roundUp (t : Int) : t ≤ roundUp t := by
  have hsecond : second = 1000000 := rfl
  rw [roundUp, hsecond]
  omega

theorem Time.lt_roundUp {t d now : Int} (hd : IsModerate d) (hshort : d ≤ 2 ^ 34 * second)
    (hafter : t ≤ now) (hpromised : now < t + wholeSeconds d * second) :
    now < roundUp (t + d) := by
  have hwhole := wholeSeconds_le hd hshort
  have hround := le_roundUp (t + d)
  omega

theorem Time.ofSeconds_issue {t : Int} (h : IsExact t) :
    ofSeconds (floorSeconds t) = .ok (floorSeconds t * second) := by
  apply ofSeconds_floorSeconds (isInstant_of_exact h)
  rw [IsExact] at h
  have hyear : t < 253370764800 * 1000000 := by omega
  exact hyear

theorem perform_validateToken_eq {field : Option LooseText} {r : Except Failure Validated}
    (h : (s.validateToken field).run s w = (v, r)) :
    s.perform (.validateToken field) w = (v, r.map .validated) := by
  rw [Service.perform, Operation.plan, Plan.run_mapResult, h]

theorem validateToken_refuses {field : Option LooseText} {token : LooseText} {r : Token.Refusal}
    (hfield : Validation.token field = .ok token)
    (hverify : Token.verify s.suite s.authority w.now w.system (some Token.accessType) token =
      .error (.refused r)) :
    (s.validateToken field).run s w = (w, .error (.fault .wrongToken)) := by
  have hsystem : w.answer s .systemTime = (w, w.system) := rfl
  have hnow : w.answer s .now = (w, w.now) := rfl
  unfold Service.validateToken
  simp only [hfield]
  rw [Plan.run_bind_ask, hsystem, Plan.run_bind_ask, hnow]
  simp only [hverify]
  rfl

section Issued

variable {user : Uuid} {ttl : Duration} {type : String} {issued : Token.Issued} {issue : Instant}
  {x : World}

theorem access_token_accepted
    (plain : (Json.read s.suite.nesting.secret .written s.authority.secret).isOk = false)
    (hissue : Time.ofSeconds (Time.floorSeconds w.now) = .ok issue)
    (hfield : Validation.token (some (LooseText.ofString issued.token)) =
      .ok (LooseText.ofString issued.token))
    (h : w.issueToken s s.authority user.text ttl Token.accessType = (v, .ok issued))
    (hnow : x.now < issued.expiresAt) (works : x.outages.users.select = false)
    (hu : x.users.withId? user.text = some u) (active : u.isActive = true) :
    s.perform (.validateToken (some (LooseText.ofString issued.token))) x =
      (x, .ok (.validated ⟨true, u.toPublic, "token is valid"⟩)) := by
  obtain ⟨-, -, hsign, hexpiry⟩ := Token.issueToken_ok_iff.mp h
  exact perform_validateToken_eq
    (accepted_of_sign hsign plain rfl rfl rfl hissue hexpiry hnow hfield works hu active)

theorem issued_token_refused
    (plain : (Json.read s.suite.nesting.secret .written s.authority.secret).isOk = false)
    (hissue : Time.ofSeconds (Time.floorSeconds w.now) = .ok issue)
    (hfield : Validation.token (some (LooseText.ofString issued.token)) =
      .ok (LooseText.ofString issued.token))
    (h : w.issueToken s s.authority user.text ttl type = (v, .ok issued))
    (past : issued.expiresAt ≤ x.now ∨ type ≠ Token.accessType) :
    s.perform (.validateToken (some (LooseText.ofString issued.token))) x =
      (x, .error (.fault .wrongToken)) := by
  obtain ⟨-, -, hsign, hexpiry⟩ := Token.issueToken_ok_iff.mp h
  have hverify : Token.verify s.suite s.authority x.now x.system (some Token.accessType)
      (LooseText.ofString issued.token) = _ :=
    Token.verify_sign hsign plain rfl hissue hexpiry
  by_cases hnow : issued.expiresAt ≤ x.now
  · have hexpired := hverify.trans (Token.checkUse_expired_iff.mpr hnow)
    exact perform_validateToken_eq (validateToken_refuses hfield hexpired)
  · have htype : type ≠ Token.accessType := past.resolve_left hnow
    have hother := hverify.trans (Token.checkUse_otherType_iff.mpr
      ⟨Int.not_le.mp hnow, rfl, rfl, fun heq => htype (LooseText.ofString_injective heq)⟩)
    exact perform_validateToken_eq (validateToken_refuses hfield hother)

end Issued

section Logins

variable {email password : Option LooseText} {l : LoggedIn}

theorem tokens_of_login (hk : w.users.Keyed)
    (h : (s.perform (.login email password) w).2 = .ok (.loggedIn l)) :
    ∃ user ∈ w.users, ∃ x y access refresh, user.isActive = true ∧
      w.issueToken s s.authority user.id s.lifetimes.access Token.accessType =
        (x, .ok access) ∧
      x.issueToken s s.authority user.id s.lifetimes.refresh Token.refreshType =
        (y, .ok refresh) ∧
      l = ⟨access.token, refresh.token, Time.wholeSeconds s.lifetimes.access, user.toPublic⟩ := by
  obtain ⟨r, hlogin, hr⟩ := perform_login (s := s) hk email password
  rw [h] at hr
  cases hlogin with
  | refused e hq => cases hr
  | started address p user x y access refresh deadline he hp hu hv ha hi hj hd hn ho hs hus =>
    cases hr
    exact ⟨user, (Users.mem_of_withEmail? hu).1, x, y, access, refresh, ha, hi, hj, rfl⟩

theorem expiresAt_eq {subject type : String} {ttl : Duration} {issued : Token.Issued}
    (ends : Time.IsExact (w.now + ttl))
    (h : w.issueToken s s.authority subject ttl type = (v, .ok issued)) :
    issued.expiresAt = Time.roundUp (w.now + ttl) := by
  obtain ⟨-, -, -, hexpiry⟩ := Token.issueToken_ok_iff.mp h
  rw [Time.eq_of_ofSeconds hexpiry, Time.ceilSeconds_eq ends, Time.roundUp]

variable (reachable : w.IsReachable s)
  (plain : (Json.read s.suite.nesting.secret .written s.authority.secret).isOk = false)
  (issuer : s.authority.issuer.length ≤ 100)
  (short : ∀ a key msg, (s.suite.mac a key msg).length ≤ 64) (begins : Time.IsExact w.now)
  (h : (s.perform (.login email password) w).2 = .ok (.loggedIn l))

include reachable plain issuer short begins h

theorem access_token_works (ends : Time.IsExact (w.now + s.lifetimes.access))
    {later : List Event} (handsOff : ∀ e ∈ later, e.IsHandsOff)
    (hv : (s.perform (.login email password) w).1.after s later = v)
    (hnow : v.now < Time.roundUp (w.now + s.lifetimes.access))
    (works : v.outages.users.select = false) :
    s.perform (.validateToken (some (LooseText.ofString l.accessToken))) v =
      (v, .ok (.validated ⟨true, l.user, "token is valid"⟩)) := by
  obtain ⟨user, hmem, x, y, access, refresh, ha, hi, -, rfl⟩ := tokens_of_login reachable.keyed h
  obtain ⟨id, hid⟩ := reachable.id_of_row hmem
  rw [← expiresAt_eq ends hi] at hnow
  rw [hid] at hi
  have hissue := Time.ofSeconds_issue begins
  obtain ⟨-, hfield⟩ := Token.field_of_issueToken issuer short (.inl rfl) hissue hi
  -- The login is the first of the events that leave the row in place.
  have handsOff' : ∀ e ∈ .operation (.login email password) :: later, e.IsHandsOff :=
    List.forall_mem_cons.mpr ⟨trivial, handsOff⟩
  obtain ⟨row, hrow, same, active⟩ := row_lasts_after (s := s) reachable.keyed handsOff' hmem
  have hkeyed := reachable.keyed.run (s := s) (.operation (.login email password) :: later)
  have hfound := hkeyed.withId? hrow
  rw [same.id, hid] at hfound
  subst hv
  rw [← same.toPublic]
  exact access_token_accepted plain hissue hfield hi hnow works hfound (active.trans ha)

theorem access_token_expires (ends : Time.IsExact (w.now + s.lifetimes.access))
    (past : Time.roundUp (w.now + s.lifetimes.access) ≤ v.now) :
    s.perform (.validateToken (some (LooseText.ofString l.accessToken))) v =
      (v, .error (.fault .wrongToken)) := by
  obtain ⟨user, hmem, x, y, access, refresh, -, hi, -, rfl⟩ := tokens_of_login reachable.keyed h
  obtain ⟨id, hid⟩ := reachable.id_of_row hmem
  rw [← expiresAt_eq ends hi] at past
  rw [hid] at hi
  have hissue := Time.ofSeconds_issue begins
  obtain ⟨-, hfield⟩ := Token.field_of_issueToken issuer short (.inl rfl) hissue hi
  exact issued_token_refused plain hissue hfield hi (.inl past)

theorem refresh_token_refused :
    s.perform (.validateToken (some (LooseText.ofString l.refreshToken))) v =
      (v, .error (.fault .wrongToken)) := by
  obtain ⟨user, hmem, x, y, access, refresh, -, hi, hj, rfl⟩ := tokens_of_login reachable.keyed h
  obtain ⟨id, hid⟩ := reachable.id_of_row hmem
  rw [hid] at hj
  have hissue := Time.ofSeconds_issue begins
  have hnow : x.now = w.now := by rw [(Token.issueToken_ok_iff.mp hi).1]; rfl
  rw [← hnow] at hissue
  obtain ⟨-, hfield⟩ := Token.field_of_issueToken issuer short (.inr rfl) hissue hj
  exact issued_token_refused plain hissue hfield hj (.inr access_ne_refresh.symm)

end Logins

/-- In a world that can be reached, with a secret that is no JSON text, an issuer of at most a
hundred characters and codes of at most 64 bytes, let a login return tokens at an instant within `2
^ 34` seconds of the epoch, as is the end of the access token's lifetime. After any further events
but changes by hand, the access token is accepted for the user of the login while the user can be
looked up, until the first whole second at or after the end of its lifetime; from then on it is
refused. So it is accepted for the seconds that were promised, if the lifetime is at most `2 ^ 34`
seconds. The refresh token is refused in its place in every world. All calls of one operation are
answered at one instant. -/
theorem access_token_lasts (s : Service) (w : World) (later : List Event)
    (email password : Option LooseText) (l : LoggedIn) (reachable : w.IsReachable s)
    (plain : (Json.read s.suite.nesting.secret .written s.authority.secret).isOk = false)
    (issuer : s.authority.issuer.length ≤ 100)
    (short : ∀ a key msg, (s.suite.mac a key msg).length ≤ 64)
    (begins : Time.IsExact w.now) (ends : Time.IsExact (w.now + s.lifetimes.access))
    (h : (s.perform (.login email password) w).2 = .ok (.loggedIn l))
    (handsOff : ∀ e ∈ later, e.IsHandsOff) :
    (∀ v, (s.perform (.login email password) w).1.after s later = v →
      (v.now < Time.roundUp (w.now + s.lifetimes.access) → v.outages.users.select = false →
        s.perform (.validateToken (some (LooseText.ofString l.accessToken))) v =
          (v, .ok (.validated ⟨true, l.user, "token is valid"⟩))) ∧
      (Time.roundUp (w.now + s.lifetimes.access) ≤ v.now →
        s.perform (.validateToken (some (LooseText.ofString l.accessToken))) v =
          (v, .error (.fault .wrongToken))) ∧
      (s.lifetimes.access ≤ 2 ^ 34 * Time.second → w.now ≤ v.now →
        v.now < w.now + l.expiresIn * Time.second → v.outages.users.select = false →
        s.perform (.validateToken (some (LooseText.ofString l.accessToken))) v =
          (v, .ok (.validated ⟨true, l.user, "token is valid"⟩)))) ∧
    ∀ v, s.perform (.validateToken (some (LooseText.ofString l.refreshToken))) v =
      (v, .error (.fault .wrongToken)) := by
  refine ⟨?_, fun v => refresh_token_refused reachable plain issuer short begins h⟩
  intro v hv
  have accepted := access_token_works reachable plain issuer short begins h ends handsOff hv
  refine ⟨accepted, access_token_expires reachable plain issuer short begins h ends, ?_⟩
  intro hshort hafter hpromised
  have hmoderate : Time.IsModerate s.lifetimes.access := by
    rw [Time.IsExact] at begins ends
    rw [Time.IsModerate]
    omega
  rw [expiresIn_of_login h] at hpromised
  exact accepted (Time.lt_roundUp hmoderate hshort hafter hpromised)

theorem ann_logs_in {start : Instant} (can : s.CanIssue (World.withAnn s start).now)
    (registered : ∃ u ∈ (World.withAnn s start).users, u.email = "ann@example.org" ∧
      (Password.verify s.suite u.passwordHash "first password 1").toOption = some true) :
    ∃ l, (s.perform (.login (some "ann@example.org") (some "first password 1"))
      (World.withAnn s start)).2 = .ok (.loggedIn l) := by
  obtain ⟨u, hu, hemail, hverify⟩ := registered
  have creds := credentials_after s start [annRegisters] (by decide)
  have hfield : Validation.email (some "ann@example.org") = .ok u.email := by
    apply (creds.enrolled u hu).email_of_trim
    rw [hemail]
    decide
  obtain ⟨l, hl, -⟩ := signIn_opens can creds.outages creds.keyed hu (creds.enrolled u hu).active
    hfield (by decide) (ok_of_toOption hverify)
  exact ⟨l, by rw [perform_signIn, hl]; rfl⟩

theorem smallAuthority_plain : (Json.read Service.small.suite.nesting.secret .written
    Service.small.authority.secret).isOk = false := by
  decide

theorem small_mac_short (a : MacAlgorithm) (key msg : Bytes) :
    (Service.small.suite.mac a key msg).length ≤ 64 :=
  length_mac a key msg

/-- Ann logs in, and the clock moves after another attempt to register her email. -/
def annWaits (d : Duration) : List Event := [annLogsIn, annRegisters, .advance d]

/-- A quarter of an hour that begins a quarter of a second after the epoch ends with a second. -/
theorem ann_is_in_for_a_quarter_of_an_hour : ∃ l : LoggedIn,
    (Service.small.perform (.validateToken (some (LooseText.ofString l.accessToken)))
      ((World.withAnn .small 250000).after .small (annWaits (900 * Time.second + 749999)))).2 =
        .ok (.validated ⟨true, l.user, "token is valid"⟩) ∧
    (Service.small.perform (.validateToken (some (LooseText.ofString l.accessToken)))
      ((World.withAnn .small 250000).after .small (annWaits (900 * Time.second + 750000)))).2 =
        .error (.fault .wrongToken) := by
  have can : Service.small.CanIssue (World.withAnn .small 250000).now :=
    canIssue_of_dates rfl (by decide)
  obtain ⟨l, hl⟩ := ann_logs_in can (by decide)
  have lasts := fun d => (access_token_lasts .small (World.withAnn .small 250000)
    [annRegisters, .advance d] _ _ l ⟨_, _, rfl⟩ smallAuthority_plain (by decide) small_mac_short
    (by decide) (by decide +kernel) hl (by simp [annRegisters, Event.IsHandsOff])).1 _ rfl
  have instants : ((World.withAnn .small 250000).after .small
        (annWaits (900 * Time.second + 749999))).now <
      Time.roundUp ((World.withAnn .small 250000).now + Service.small.lifetimes.access) ∧
    Time.roundUp ((World.withAnn .small 250000).now + Service.small.lifetimes.access) ≤
      ((World.withAnn .small 250000).after .small (annWaits (900 * Time.second + 750000))).now ∧
    ((World.withAnn .small 250000).after .small
      (annWaits (900 * Time.second + 749999))).outages.users.select = false := by
    decide
  obtain ⟨before, past, works⟩ := instants
  have accepted := (lasts (900 * Time.second + 749999)).1 before works
  have refused := (lasts (900 * Time.second + 750000)).2.1 past
  exact ⟨l, congrArg Prod.snd accepted, congrArg Prod.snd refused⟩

/-- A service whose access tokens live for longer than `2 ^ 34` seconds, and a fraction. -/
def Service.longLived : Service :=
  { Service.small with lifetimes := { Lifetimes.standard with access := 17500000000999999 } }

/-- The world in which Ann logs in for that long. Both ends of the lifetime are exact. -/
def World.withLongLivedAnn : World := World.withAnn .longLived (-15999999999999999)

/-- The fraction is lost in the promise, which is a microsecond longer than the token lives. -/
theorem promise_outlives_token : ∃ l v,
    World.withLongLivedAnn.IsReachable .longLived ∧
    (Json.read Service.longLived.suite.nesting.secret .written
      Service.longLived.authority.secret).isOk = false ∧
    Time.IsExact World.withLongLivedAnn.now ∧
    Time.IsExact (World.withLongLivedAnn.now + Service.longLived.lifetimes.access) ∧
    (Service.longLived.perform (.login (some "ann@example.org") (some "first password 1"))
      World.withLongLivedAnn).2 = .ok (.loggedIn l) ∧
    World.withLongLivedAnn.after .longLived (annWaits 17500000000999999) = v ∧
    World.withLongLivedAnn.now ≤ v.now ∧
    v.now < World.withLongLivedAnn.now + l.expiresIn * Time.second ∧
    v.outages.users.select = false ∧
    (Service.longLived.perform (.validateToken (some (LooseText.ofString l.accessToken))) v).2 =
      .error (.fault .wrongToken) := by
  have can : Service.longLived.CanIssue World.withLongLivedAnn.now :=
    canIssue_of_dates rfl (by decide)
  obtain ⟨l, hl⟩ := ann_logs_in can (by decide)
  have reachable : World.withLongLivedAnn.IsReachable .longLived := ⟨_, _, rfl⟩
  have begins : Time.IsExact World.withLongLivedAnn.now := by decide
  have ends : Time.IsExact (World.withLongLivedAnn.now + Service.longLived.lifetimes.access) := by
    decide
  have expires := access_token_expires reachable smallAuthority_plain (by decide) small_mac_short
    begins hl ends
    (v := World.withLongLivedAnn.after .longLived (annWaits 17500000000999999))
    (by decide)
  have promised : l.expiresIn = Time.wholeSeconds 17500000000999999 := expiresIn_of_login hl
  refine ⟨l, _, reachable, smallAuthority_plain, begins, ends, hl, rfl, by decide, ?_,
    by decide, congrArg Prod.snd expires⟩
  rw [promised]
  decide

end Accounts
