import Accounts.Proofs.Service.Intermittent
import Accounts.Proofs.Session.RefreshTokens

/-! # Operations that are interrupted

What is in the stores when commands fail in the middle of an operation. A request for a reset and a
login leave no trace unless they succeed. A reset leaves none in the rows, except that its last
command can fail: then the password is changed although the caller is told otherwise.

Commands may begin or cease to fail at any call of the operation. The outages of the world that it
starts in do not matter.
-/
namespace Accounts

open World

variable {s : Service} {w v : World} {u : User} {o : Nat → Outages}

/-- The token is live for a user, and the password is one that can be set. -/
structure CanReset (token newPassword : Option LooseText) (w : World) (k : LooseText) (u : User)
    (p : String) : Prop where
  token : Validation.token token = .ok k
  password : newPassword = some (LooseText.ofString p)
  accepted : Validation.password (some p) = .ok p
  live : w.sessions.live? w.now (Session.resetKey k) = some u.id
  row : w.users.withId? u.id = some u

/-- The stored hash of a user is overwritten with that of a password, and nothing else in the rows
but the time of the change. -/
def World.Rehashed (s : Service) (w v : World) (u : User) (p : String) : Prop :=
  ∃ hash, ((s.hash p).run s w).2 = .ok hash ∧
    v.users = w.users.modify u.id (fun x => { x with passwordHash := hash, updatedAt := w.now }) ∧
    v.users.withId? u.id = some { u with passwordHash := hash, updatedAt := w.now }

theorem withId?_modify {us : Users} {change : User → User} (hc : Users.KeepsIdentity change)
    (hu : us.withId? u.id = some u) : (us.modify u.id change).withId? u.id = some (change u) := by
  induction us with
  | nil => cases hu
  | cons x us ih =>
    rw [Users.modify, List.map_cons]
    by_cases hid : x.id = u.id
    · have hx : x = u := by
        rw [Users.withId?, List.find?_cons_of_pos (by simpa using hid)] at hu
        exact Option.some.inj hu
      rw [if_pos hid, hx, Users.withId?, List.find?_cons_of_pos (by simp [hc.id])]
    · rw [Users.withId?, List.find?_cons_of_neg (by simpa using hid)] at hu
      rw [if_neg hid, Users.withId?, List.find?_cons_of_neg (by simpa using hid)]
      exact ih hu

/-- Whatever commands fail, a reset either fails and leaves every row alone, or it overwrites the
hash of the user whose token it has. Then it succeeds and revokes the user's refresh token, unless
the command for that fails on the server: the hash is overwritten, the refresh token stays
registered, and the caller is told that the session store is unavailable. All its calls are answered
at one instant, which is the time of the change. -/
theorem reset_all_or_nothing (s : Service) (w : World) (o : Nat → Outages)
    (token newPassword : Option LooseText) :
    ∃ v r, s.performUnder (.resetPassword token newPassword) o w = (v, r) ∧
      ((∃ e, r = .error e) ∧ v.users = w.users ∨
        ∃ k u p, CanReset token newPassword w k u p ∧ w.Rehashed s v u p ∧
          ((∃ a, r = .ok (.status a)) ∧ v.sessions.find? (Session.refreshKey u.id) = none ∨
            r = .error (.fault .sessions) ∧ s.backing = .server ∧
              (∃ n, (o n).sessions.delete = true) ∧
              v.sessions.find? (Session.refreshKey u.id) =
                w.sessions.find? (Session.refreshKey u.id))) := by
  obtain ⟨met, hamong, hmet⟩ := perform_under s (.resetPassword token newPassword) o w
  obtain ⟨r, h, hr⟩ := perform_resetPassword s token newPassword (w.under met)
  rw [hmet] at h hr
  generalize hv : (s.performUnder (.resetPassword token newPassword) o w).1 = v at h
  refine ⟨v, r.map .status, Prod.ext hv hr, ?_⟩
  cases h with
  | refused e hq => exact .inl ⟨⟨e, rfl⟩, hq.users⟩
  | spent k e hk hn hus hout hs => exact .inl ⟨⟨e, rfl⟩, hus⟩
  | changed k p id hash user r hk hf hp hl hm hh hu hn hout hus hs =>
    obtain ⟨-, rfl⟩ := Users.mem_of_withId? hu
    have hhash : ((s.hash p).run s w).2 = .ok hash := by
      rwa [Plan.run_under_of_asks s (hash_asks s p rfl)] at hh
    have husers : v.users = w.users.modify user.id fun x =>
        { x with passwordHash := hash, updatedAt := w.now } := hus
    have rehashed : w.Rehashed s v user p := by
      refine ⟨hash, hhash, husers, ?_⟩
      rw [husers]
      exact withId?_modify (keepsIdentity_of_credentials _ _ _ _) hu
    refine .inr ⟨k, user, p, ⟨hk, hf, hp, hl, hu⟩, rehashed, ?_⟩
    have hsessions : v.sessions = (v.under met).sessions := rfl
    rcases hs with ⟨hs, hfails, rfl⟩ | ⟨hs, a, rfl⟩
    · rw [Session.Backing.isOut, Bool.and_eq_true, beq_iff_eq] at hfails
      refine .inr ⟨rfl, hfails.1, hamong .delete hfails.2, ?_⟩
      rw [hsessions, hs, Session.Entries.find?_erase,
        if_neg (resetKey_ne_refreshKey k user.id).symm]
      rfl
    · refine .inl ⟨⟨a, rfl⟩, ?_⟩
      rw [hsessions, hs, Session.Entries.find?_erase, if_pos rfl]

def annForgets : List Event :=
  [annRegisters, annLogsIn, .request "ann@example.org"]

def annResets : Operation :=
  .resetPassword (some (LooseText.ofString ((World.withAnn .small 0).nextToken .small)))
    (some "second password 2")

/-- Her reset fails because entries cannot be deleted, but no row has the hash that she had. Her
refresh token is live. -/
theorem reset_fails_halfway : ∃ w v, (initial 0).after .small annForgets = w ∧
    Service.small.performUnder annResets
      (fun _ => ⟨.none, { Session.Outages.none with delete := true }⟩) w =
        (v, .error (.fault .sessions)) ∧
    ∃ u ∈ w.users, (∀ x ∈ v.users, x.passwordHash ≠ u.passwordHash) ∧
      (v.sessions.live? v.now (Session.refreshKey u.id)).isSome = true := by
  refine ⟨_, (Service.small.performUnder annResets
    (fun _ => ⟨.none, { Session.Outages.none with delete := true }⟩)
    ((initial 0).after .small annForgets)).1, rfl, Prod.ext rfl rfl, ?_⟩
  decide +kernel

/-- What a login leaves that succeeds: the refresh token in the answer is registered for the user,
no other entry is different, and the time of the login is recorded. -/
structure Opened (s : Service) (email : Option LooseText) (w v : World) (l : LoggedIn)
    (u : User) : Prop where
  owner : ∃ address, Validation.email email = .ok address ∧ w.users.withEmail? address = some u
  user : l.user = u.toPublic
  now : v.now = w.now
  registered : ∃ expiry, Token.Tells s.suite.nesting l.refreshToken u.id Token.refreshType expiry ∧
    (w.now < expiry →
      v.sessions.live? w.now (Session.refreshKey u.id) = some l.refreshToken)
  others : ∀ key, key ≠ Session.refreshKey u.id → v.sessions.find? key = w.sessions.find? key
  recorded : w.Recorded v u.id

theorem lt_deadline {now expiry deadline : Int} (hnow : now < expiry)
    (h : s.backing.deadline? now (expiry - now) = some deadline) : now < deadline := by
  rw [(Session.Backing.deadline?_eq_some_iff.mp h).1]
  cases s.backing with
  | memory =>
    rw [Session.Backing.lifetime, memory_deadline]
    exact hnow
  | server =>
    have hsecond : Time.second = 1000000 := rfl
    rw [Session.Backing.lifetime, Session.ttlSeconds, hsecond]
    omega

theorem login_opens {email password : Option LooseText} {r : Except Failure LoggedIn}
    (hk : w.users.Keyed) (calendar : Time.isInstant w.now = true)
    (h : (s.login email password).run s w = (v, r)) :
    (Quiet w v ∧ ∃ e, r = .error e) ∨ ∃ l, r = .ok l ∧ ∃ u, Opened s email w v l u := by
  rcases login_reaches h with hrefused | ⟨address, p, u, he, -, hu, -, -, h⟩
  · exact .inl hrefused
  obtain ⟨hmem, -⟩ := Users.mem_of_withEmail? hu
  rcases startSession_cases (hk.withId? hmem) h with hrefused |
    ⟨x, y, access, refresh, deadline, hi, hj, hd, hn, -, hs, hrecorded, rfl⟩
  · exact .inl hrefused
  have hnow : x.now = w.now := now_of_issueToken hi
  refine .inr ⟨_, rfl, u, ⟨address, he, hu⟩, rfl, hn, ?_, ?_, hrecorded⟩
  · refine ⟨refresh.expiresAt, Token.tells_of_issueToken (hnow ▸ calendar) hj, fun hlive => ?_⟩
    have hentry : v.sessions.find? (Session.refreshKey u.id) = some ⟨refresh.token, deadline⟩ := by
      rw [hs, Session.Entries.find?_insert, if_pos rfl]
    exact live?_of_find? hentry (lt_deadline hlive hd)
  · intro key hkey
    rw [hs, Session.Entries.find?_insert, if_neg hkey]

/-- What a request leaves that succeeds: an entry for the token that was drawn, if the email is
that of a user. -/
def Requested (s : Service) (email : Option LooseText) (w v : World) : Prop :=
  v.users = w.users ∧ ∃ address, Validation.email email = .ok address ∧
    match w.users.withEmail? address with
    | none => v.sessions = w.sessions
    | some u =>
      w.nextToken s ∈ Step.secrets s ⟨w, .operation (.forgotPassword email)⟩ ∧
        v.sessions = w.sessions.insert (Session.resetKey (w.nextToken s))
          ⟨u.id, w.now + s.backing.lifetime s.lifetimes.reset⟩

theorem forgotPassword_leaves {email : Option LooseText} {r : Except Failure Status}
    (h : (s.forgotPassword email).run s w = (v, r)) :
    (Quiet w v ∧ ∃ e, r = .error e) ∨ ∃ a, r = .ok a ∧ Requested s email w v := by
  cases forgotPassword_cases h with
  | refused e hq => exact .inl ⟨hq, e, rfl⟩
  | unknown address he hu hq =>
    refine .inr ⟨_, rfl, hq.users, address, he, ?_⟩
    rw [hu]
    exact hq.sessions
  | sent address user deadline he hu hd hn hus hout hs ht =>
    refine .inr ⟨_, rfl, hus, address, he, ?_⟩
    rw [hu]
    refine ⟨nextToken_mem_secrets ht, ?_⟩
    rw [hs, (Session.Backing.deadline?_eq_some_iff.mp hd).1]

/-- An operation fails and leaves rows and entries as they were, or it succeeds and has done what it
is for. -/
def AllOrNothing (w : World) (done : World → Answer → Prop) :
    World × Except Failure Answer → Prop
  | (v, .error _) => v.users = w.users ∧ v.sessions = w.sessions
  | (v, .ok a) => done v a

theorem allOrNothing_mapResult {α : Type} {p : Plan α} {f : α → Answer}
    {done : World → Answer → Prop}
    (h : ∀ v r, p.run s w = (v, r) →
      (Quiet w v ∧ ∃ e, r = .error e) ∨ ∃ a, r = .ok a ∧ done v (f a)) :
    AllOrNothing w done ((p.mapResult f).run s w) := by
  rw [Plan.run_mapResult]
  rcases h _ _ rfl with ⟨hq, e, hr⟩ | ⟨a, hr, hdone⟩
  · rw [hr]
    exact ⟨hq.users, hq.sessions⟩
  · rw [hr]
    exact hdone

theorem AllOrNothing.of_under {met : Outages} {done done' : World → Answer → Prop}
    {x : World × Except Failure Answer}
    (h : AllOrNothing (w.under met) done (x.1.under met, x.2))
    (hdone : ∀ v a, done (v.under met) a → done' v a) : AllOrNothing w done' x := by
  obtain ⟨v, e | a⟩ := x
  · exact h
  · exact hdone v a h

/-- Whatever commands fail, a login and a request for a reset change nothing in the stores if they
fail. If they succeed then all is done, except that the time of a login is not recorded if the row
could not be updated. The time is that of the clock, and the time of the change that of the system's
clock, which is the same as long as that clock was not set. All calls of one operation are answered
at one instant. The outages that were met are among those that are given call by call. -/
theorem login_and_request_all_or_nothing (s : Service) (start : Instant) (past : List Event)
    {w : World} (hw : (initial start).after s past = w) (calendar : Time.isInstant start = true)
    (o : Nat → Outages) :
    (∀ email password, ∃ met : Outages, met.Among o ∧
      AllOrNothing w (fun v a => ∃ l, a = .loggedIn l ∧ ∃ u, Opened s email (w.under met) v l u)
        (s.performUnder (.login email password) o w)) ∧
    (∀ email, ∃ met : Outages, met.Among o ∧
      AllOrNothing w (fun v _ => Requested s email (w.under met) v)
        (s.performUnder (.forgotPassword email) o w)) ∧
    ((∀ t, .setSystem t ∉ past) → w.system = w.now) := by
  have keyed : w.users.Keyed := hw ▸ keyed_after s start past
  have dated : Time.isInstant w.now = true := hw ▸ isInstant_after start calendar past
  refine ⟨?_, ?_, fun unset => hw ▸ clocks_agree_after s start past unset⟩
  · intro email password
    obtain ⟨met, hamong, hmet⟩ := perform_under s (.login email password) o w
    have opens : AllOrNothing (w.under met)
        (fun v a => ∃ l, a = .loggedIn l ∧ ∃ u, Opened s email (w.under met) v l u)
        (s.perform (.login email password) (w.under met)) := by
      apply allOrNothing_mapResult
      intro v r h
      rcases login_opens (w := w.under met) keyed dated h with hrefused | ⟨l, hr, u, hopened⟩
      · exact .inl hrefused
      · exact .inr ⟨l, hr, l, rfl, u, hopened⟩
    rw [hmet] at opens
    refine ⟨met, hamong, opens.of_under ?_⟩
    rintro v a ⟨l, ha, u, h⟩
    exact ⟨l, ha, u, h.owner, h.user, h.now, h.registered, h.others, h.recorded⟩
  · intro email
    obtain ⟨met, hamong, hmet⟩ := perform_under s (.forgotPassword email) o w
    have requests : AllOrNothing (w.under met) (fun v _ => Requested s email (w.under met) v)
        (s.perform (.forgotPassword email) (w.under met)) := by
      apply allOrNothing_mapResult
      intro v r h
      exact forgotPassword_leaves h
    rw [hmet] at requests
    exact ⟨met, hamong, requests.of_under fun v _ h => h⟩

/-- Rows cannot be updated from the call on that is to record the time of a login. -/
def noUpdateAtLast (n : Nat) : Outages :=
  if n < 6 then .none else ⟨⟨false, false, true⟩, .none⟩

def annLogsInNow : Operation :=
  .login (some "ann@example.org") (some "first password 1")

theorem ann_logs_in_unrecorded : ∃ w v l u met,
    (initial 0).after .small [annRegisters, .advance Time.minute] = w ∧
    Service.small.performUnder annLogsInNow noUpdateAtLast w = (v, .ok (.loggedIn l)) ∧
    Opened .small (some "ann@example.org") (w.under met) v l u ∧ v.users = w.users ∧
      v.log = w.log ++ [.updateFailed (some u.id) ["last_login_at"], .lastLoginLost u.id] := by
  obtain ⟨met, -, opens⟩ := (login_and_request_all_or_nothing .small 0
    [annRegisters, .advance Time.minute] rfl (by decide) noUpdateAtLast).1
    (some "ann@example.org") (some "first password 1")
  have succeeds : (Service.small.performUnder annLogsInNow noUpdateAtLast
      ((initial 0).after .small [annRegisters, .advance Time.minute])).2.toOption.isSome = true := by
    decide +kernel
  have tells : (Service.small.performUnder annLogsInNow noUpdateAtLast
        ((initial 0).after .small [annRegisters, .advance Time.minute])).1.log ≠
      ((initial 0).after .small [annRegisters, .advance Time.minute]).log := by
    decide +kernel
  rcases hlogin : Service.small.performUnder annLogsInNow noUpdateAtLast
      ((initial 0).after .small [annRegisters, .advance Time.minute]) with ⟨v, e | a⟩
  · rw [hlogin] at succeeds
    cases succeeds
  · rw [hlogin] at tells
    rw [annLogsInNow] at hlogin
    rw [hlogin] at opens
    obtain ⟨l, rfl, u, hopened⟩ := opens
    have hrecorded := hopened.recorded
    unfold Recorded at hrecorded
    split at hrecorded
    · exact ⟨_, v, l, u, met, rfl, hlogin, hopened, hrecorded⟩
    · exact absurd hrecorded.1 tells

end Accounts
