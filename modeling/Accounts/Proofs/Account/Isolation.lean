import Accounts.Proofs.Account.Changes
import Accounts.Proofs.Service.Clock
import Accounts.Proofs.Service.Intermittent
import Accounts.Proofs.Session.RefreshTokens

/-! # Isolation of accounts

An operation resolves to at most one user. Whatever it is asked and whatever fails, it leaves the
rows of all other users and their session entries as they were. Refresh and reset tokens are
registered in one space of keys, but no text that is presented as a reset token makes its key one of
a refresh token.
-/
namespace Accounts

open World

variable {s : Service} {w v : World} {op : Operation} {u : User}

/-- The user that an operation resolves to: by email, by a live reset token, or by the subject of an
access token. -/
def Operation.concerned? (s : Service) (w : World) : Operation → Option User
  | .signUp .. => none
  | .login field _ | .forgotPassword field => do
    let address ← (Validation.email field).toOption
    w.users.withEmail? address
  | .resetPassword field _ => do
    let token ← (Validation.token field).toOption
    let id ← w.sessions.live? w.now (Session.resetKey token)
    w.users.withId? id
  | .validateToken field => do
    let token ← (Validation.token field).toOption
    let claims ← (Token.verify s.suite s.authority w.now w.system (some Token.accessType)
      token).toOption
    let id ← claims.subject.string?.bind Uuid.ofText?
    w.users.withId? id.text

/-- The keys whose entries an operation may put or take away. -/
def Operation.keys (s : Service) (w : World) (op : Operation) : List LooseText :=
  match op with
  | .signUp .. | .validateToken _ => []
  | .login .. => (op.concerned? s w).toList.map fun u => Session.refreshKey u.id
  | .forgotPassword _ =>
    (op.concerned? s w).toList.map fun _ => Session.resetKey (w.nextToken s)
  | .resetPassword token _ =>
    (token.map fun t => Session.resetKey t.trim).toList ++
      (op.concerned? s w).toList.map fun u => Session.refreshKey u.id

theorem concerned_of_login {field password : Option LooseText} {address : String}
    (he : Validation.email field = .ok address) (hu : w.users.withEmail? address = some u) :
    (Operation.login field password).concerned? s w = some u := by
  change (Validation.email field).toOption.bind w.users.withEmail? = some u
  rw [he]
  exact hu

theorem concerned_of_request {field : Option LooseText} {address : String}
    (he : Validation.email field = .ok address) (hu : w.users.withEmail? address = some u) :
    (Operation.forgotPassword field).concerned? s w = some u := by
  change (Operation.login field none).concerned? s w = some u
  exact concerned_of_login he hu

theorem concerned_of_token {field newPassword : Option LooseText} {k : LooseText} {id : String}
    (hk : Validation.token field = .ok k)
    (hl : w.sessions.live? w.now (Session.resetKey k) = some id)
    (hu : w.users.withId? id = some u) :
    (Operation.resetPassword field newPassword).concerned? s w = some u := by
  change ((Validation.token field).toOption.bind fun k =>
    (w.sessions.live? w.now (Session.resetKey k)).bind w.users.withId?) = some u
  rw [hk]
  change (w.sessions.live? w.now (Session.resetKey k)).bind w.users.withId? = some u
  rw [hl]
  exact hu

theorem refreshKey_mem_keys {id : String} (h : Session.refreshKey id ∈ op.keys s w) :
    ∃ u, op.concerned? s w = some u ∧ u.id = id := by
  have owned : Session.refreshKey id ∈
      (op.concerned? s w).toList.map (fun u => Session.refreshKey u.id) →
      ∃ u, op.concerned? s w = some u ∧ u.id = id := by
    intro h
    obtain ⟨u, hu, hkey⟩ := List.mem_map.mp h
    exact ⟨u, Option.mem_toList.mp hu, refreshKey_injective hkey⟩
  cases op with
  | signUp | validateToken => cases h
  | login email password => exact owned h
  | forgotPassword email =>
    obtain ⟨u, -, hkey⟩ := List.mem_map.mp h
    exact (resetKey_ne_refreshKey _ id hkey).elim
  | resetPassword token newPassword =>
    rcases List.mem_append.mp h with h | h
    · obtain ⟨t, -, hkey⟩ := Option.map_eq_some_iff.mp (Option.mem_toList.mp h)
      exact (resetKey_ne_refreshKey _ id hkey).elim
    · exact owned h

/-- Every row is where it was, and is as it was unless it is the one of the user concerned. The only
new row is one that was registered with its email. -/
def World.RowsKept (s : Service) (op : Operation) (w : World) (us : Users) : Prop :=
  ∃ change added, us = w.users.map change ++ added ∧ Users.KeepsIdentity change ∧
    (∀ x ∈ w.users, op.concerned? s w ≠ some x → change x = x) ∧
    (added = [] ∨ ∃ email password firstName lastName row,
      op = .signUp email password firstName lastName ∧
        Validation.email email = .ok row.email ∧ added = [row])

/-- The call takes or reads the refresh token of a user. -/
def Call.ReadsRefreshToken : Call → Prop
  | .popSession key | .getSession key => ∃ id, key = Session.refreshKey id
  | _ => False

/-- What an operation leaves as it was. A check of an access token leaves everything but the log. -/
structure Isolated (s : Service) (op : Operation) (w v : World) : Prop where
  rows : w.RowsKept s op v.users
  entries : ∀ key ∉ op.keys s w, v.sessions.find? key = w.sessions.find? key
  registrations : ∀ id, (∀ u, op.concerned? s w = some u → u.id ≠ id) →
    v.sessions.find? (Session.refreshKey id) = w.sessions.find? (Session.refreshKey id)
  reads : (op.plan s).Asks fun c => ¬ c.ReadsRefreshToken
  check : ∀ field, op = .validateToken field → ∃ notes, v.under w.outages = w.noted notes
  clocks : v.now = w.now ∧ v.system = w.system

theorem keepsIdentity_id : Users.KeepsIdentity id :=
  ⟨fun _ => rfl, fun _ => rfl, fun _ => rfl, fun _ => rfl, fun _ => rfl⟩

theorem rowsKept_same {us : Users} (h : us = w.users) : w.RowsKept s op us := by
  refine ⟨id, [], ?_, keepsIdentity_id, fun x _ _ => rfl, .inl rfl⟩
  rw [h, List.map_id, List.append_nil]

theorem rowsKept_modify (hk : w.users.Keyed) (hu : op.concerned? s w = some u) (hm : u ∈ w.users)
    {change : User → User} (hc : Users.KeepsIdentity change) :
    w.RowsKept s op (w.users.modify u.id change) := by
  refine ⟨_, [], (List.append_nil _).symm, hc.onlyWhere (·.id = u.id), ?_, .inl rfl⟩
  intro x hx hne
  refine if_neg fun hid => hne ?_
  rw [hu, hk.eq_of_id hx hm hid]

theorem rowsKept_append {email password firstName lastName : Option LooseText}
    (he : Validation.email email = .ok u.email) :
    w.RowsKept s (.signUp email password firstName lastName) (w.users ++ [u]) := by
  refine ⟨id, [u], ?_, keepsIdentity_id, fun x _ _ => rfl, .inr ⟨_, _, _, _, u, rfl, he, rfl⟩⟩
  rw [List.map_id]

theorem rows_isolated (hk : w.users.Keyed) (op : Operation) :
    w.RowsKept s op (s.perform op w).1.users := by
  cases op with
  | signUp email password firstName lastName =>
    obtain ⟨r, h, -⟩ := perform_signUp s email password firstName lastName w
    cases h with
    | refused e hq => exact rowsKept_same hq.users
    | created p user r he hf hp hfirst hlast hh hid ha hc hu hl ht hn ho hs hus =>
      rw [hus]
      exact rowsKept_append he
  | login email password =>
    obtain ⟨r, h, -⟩ := perform_login (s := s) hk email password
    cases h with
    | refused e hq => exact rowsKept_same hq.users
    | started a p user x y i j d he hp hu hv ha hi hj hd hn ho hs hus =>
      rcases hus with ⟨-, hus⟩ | hus
      · exact rowsKept_same hus
      · rw [hus]
        exact rowsKept_modify hk (concerned_of_login he hu) (Users.mem_of_withEmail? hu).1
          (keepsIdentity_of_credentials _ _ _ _)
  | forgotPassword email =>
    obtain ⟨r, h, -⟩ := perform_forgotPassword s email w
    cases h with
    | refused e hq => exact rowsKept_same hq.users
    | unknown a he hu hq => exact rowsKept_same hq.users
    | sent a user d he hu hd hn hus => exact rowsKept_same hus
  | resetPassword token newPassword =>
    obtain ⟨r, h, -⟩ := perform_resetPassword s token newPassword w
    cases h with
    | refused e hq => exact rowsKept_same hq.users
    | spent k e htoken hn hus => exact rowsKept_same hus
    | changed k p id hash user r htoken hf hp hl hm hh hu hn ho hus hs =>
      rw [hus]
      exact rowsKept_modify hk (concerned_of_token htoken hl hu) (Users.mem_of_withId? hu).1
        (keepsIdentity_of_credentials _ _ _ _)
  | validateToken accessToken => exact rowsKept_same (perform_validateToken s accessToken w).users

theorem entries_isolated (hk : w.users.Keyed) (op : Operation) {key : LooseText}
    (hkey : key ∉ op.keys s w) :
    (s.perform op w).1.sessions.find? key = w.sessions.find? key := by
  cases op with
  | signUp email password firstName lastName =>
    obtain ⟨r, h, -⟩ := perform_signUp s email password firstName lastName w
    cases h with
    | refused e hq => rw [hq.sessions]
    | created p user r he hf hp hfirst hlast hh hid ha hc hu hl ht hn ho hs => rw [hs]
  | login email password =>
    obtain ⟨r, h, -⟩ := perform_login (s := s) hk email password
    cases h with
    | refused e hq => rw [hq.sessions]
    | started a p user x y i j d he hp hu hv ha hi hj hd hn ho hs =>
      rw [Operation.keys, concerned_of_login he hu] at hkey
      rw [hs, Session.Entries.find?_insert, if_neg (List.ne_of_not_mem_cons hkey)]
  | forgotPassword email =>
    obtain ⟨r, h, -⟩ := perform_forgotPassword s email w
    cases h with
    | refused e hq => rw [hq.sessions]
    | unknown a he hu hq => rw [hq.sessions]
    | sent a user d he hu hd hn hus ho hs =>
      rw [Operation.keys, concerned_of_request he hu] at hkey
      rw [hs, Session.Entries.find?_insert, if_neg (List.ne_of_not_mem_cons hkey)]
  | resetPassword token newPassword =>
    obtain ⟨r, h, -⟩ := perform_resetPassword s token newPassword w
    have ofToken : ∀ {k}, Validation.token token = .ok k → key ≠ Session.resetKey k := by
      rintro k hk rfl
      obtain ⟨t, rfl, rfl⟩ := field_of_token hk
      exact hkey (.head _)
    cases h with
    | refused e hq => rw [hq.sessions]
    | spent k e htoken hn hus ho hs =>
      rw [hs, Session.Entries.find?_erase, if_neg (ofToken htoken)]
    | changed k p id hash user r htoken hf hp hl hm hh hu hn ho hus hs =>
      obtain ⟨-, rfl⟩ := Users.mem_of_withId? hu
      have ofUser : key ≠ Session.refreshKey user.id := by
        rintro rfl
        rw [Operation.keys, concerned_of_token htoken hl hu] at hkey
        exact hkey (List.mem_append_right _ (.head _))
      rcases hs with ⟨hs, -⟩ | ⟨hs, -⟩
      · rw [hs, Session.Entries.find?_erase, if_neg (ofToken htoken)]
      · rw [hs, Session.Entries.find?_erase, if_neg ofUser, Session.Entries.find?_erase,
          if_neg (ofToken htoken)]
  | validateToken accessToken => rw [(perform_validateToken s accessToken w).sessions]

theorem reads_no_refreshToken (s : Service) (op : Operation) :
    (op.plan s).Asks fun c => ¬ c.ReadsRefreshToken := by
  refine (plan_asks s op).mono fun c hc hreads => ?_
  cases c with
  | popSession key =>
    obtain ⟨id, rfl⟩ := hreads
    cases op with
    | resetPassword token newPassword =>
      obtain ⟨t, ht⟩ := hc
      exact resetKey_ne_refreshKey t id ht.symm
    | signUp | login | forgotPassword | validateToken => exact hc
  | getSession key => cases op <;> exact hc
  | now | systemTime | issueToken | drawSecret | drawSalt | recallDummy | keepDummy | checkPassword
  | createUser | findByEmail | findById | updatePassword | updateLastLogin | putSession
  | deleteSession | pingSessions | probeDatabase | note => exact hreads

theorem validateToken_only_logs (s : Service) (field : Option LooseText) (w : World) :
    ∃ notes, (s.perform (.validateToken field) w).1 = w.noted notes := by
  refine Plan.run_invariant (R := fun v => ∃ notes, v = w.noted notes)
    (plan_asks s (.validateToken field)) ?_ ⟨[], ?_⟩
  · rintro v c hc ⟨notes, rfl⟩
    have noted : ∀ more, (w.noted notes).noted more = w.noted (notes ++ more) := fun more => by
      simp only [World.noted, List.append_assoc]
    cases c with
    | now | systemTime => exact ⟨notes, rfl⟩
    | findById id =>
      rw [answer_findById]
      split
      · exact ⟨_, noted _⟩
      · exact ⟨notes, rfl⟩
    | note n => exact ⟨_, noted [n]⟩
    | issueToken | drawSecret | drawSalt | recallDummy | keepDummy | checkPassword | createUser
    | findByEmail | updatePassword | updateLastLogin | putSession | getSession | popSession
    | deleteSession | pingSessions | probeDatabase => exact hc.elim
  · rw [World.noted, List.append_nil]

theorem isolated_perform (hk : w.users.Keyed) (op : Operation) :
    Isolated s op w (s.perform op w).1 where
  rows := rows_isolated hk op
  entries _ hkey := entries_isolated hk op hkey
  registrations id hid := by
    refine entries_isolated hk op fun hkey => ?_
    obtain ⟨u, hu, heq⟩ := refreshKey_mem_keys hkey
    exact hid u hu heq
  reads := reads_no_refreshToken s op
  check := by
    rintro field rfl
    obtain ⟨notes, h⟩ := validateToken_only_logs s field w
    exact ⟨notes, by rw [h]; rfl⟩
  clocks := clocks_perform s op w

theorem concerned_under (s : Service) (op : Operation) (w : World) (o : Outages) :
    op.concerned? s (w.under o) = op.concerned? s w := by
  cases op <;> rfl

theorem keys_under (s : Service) (op : Operation) (w : World) (o : Outages) :
    op.keys s (w.under o) = op.keys s w := by
  cases op <;> rfl

theorem Isolated.of_under {o : Outages} (h : Isolated s op (w.under o) (v.under o)) :
    Isolated s op w v where
  rows := by
    obtain ⟨change, added, hus, hc, hsame, hadded⟩ := h.rows
    refine ⟨change, added, hus, hc, fun x hx hne => hsame x hx ?_, hadded⟩
    rwa [concerned_under]
  entries key hkey := h.entries key (by rwa [keys_under])
  registrations id hid := h.registrations id (by rwa [concerned_under])
  reads := h.reads
  check := by
    intro field hop
    obtain ⟨notes, hnotes⟩ := h.check field hop
    exact ⟨notes, congrArg (World.under w.outages) hnotes⟩
  clocks := h.clocks

/-- Whatever an operation is asked in a state that can be reached, and whichever of its commands
fail, it leaves alone the rows of all users but the one it resolves to, and all session entries but
this user's refresh token, the reset token that it sends and the one that it was given. -/
theorem operations_isolated (s : Service) (start : Instant) (past : List Event) (op : Operation)
    (o : Nat → Outages) :
    Isolated s op ((initial start).after s past)
      (s.performUnder op o ((initial start).after s past)).1 := by
  obtain ⟨met, -, hmet⟩ := perform_under s op o ((initial start).after s past)
  have keyed : (((initial start).after s past).under met).users.Keyed := keyed_after s start past
  have isolated := isolated_perform (s := s) keyed op
  rw [hmet] at isolated
  exact isolated.of_under

end Accounts
