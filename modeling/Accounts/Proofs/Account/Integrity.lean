import Accounts.Proofs.Account.Access
import Accounts.Proofs.Account.Changes
import Accounts.Proofs.Service.Clock
import Accounts.Proofs.Service.Faults
import Accounts.Proofs.Session.RefreshTokens

/-! # The state of both stores

Rows and session entries fit together after every run, whichever statements failed in it. What
stops halfway leaves the stores in order: a row that was added before its registration failed is a
proper row, and a token that was taken before its reset failed is gone.
-/
namespace Accounts

open World

variable {s : Service} {w : World} {u v : User} {e : Event}

/-- What operations write into a row. -/
structure User.IsSound (s : Service) (u : User) : Prop where
  id : ∃ id, Uuid.ofText? u.id = some id ∧ id.text = u.id
  email : Validation.email (some (LooseText.ofString u.email)) = .ok u.email
  firstName : Validation.name "first_name" (some (LooseText.ofString u.firstName)) =
    .ok u.firstName
  lastName : Validation.name "last_name" (some (LooseText.ofString u.lastName)) = .ok u.lastName
  hash : s.CanRead u.passwordHash

/-- The times in the row follow each other, and the last one is not after the instant. -/
structure User.InOrder (now : Instant) (u : User) : Prop where
  created : u.createdAt ≤ u.updatedAt
  updated : u.updatedAt ≤ now
  login : ∀ t ∈ u.lastLoginAt, t ≤ u.updatedAt

/-- What an event that is no change by hand can have done to a row. -/
inductive RowChange (s : Service) (w : World) (v : User) : Prop where
  | none : v ∈ w.users → RowChange s w v
  | loggedIn (x : User) : x ∈ w.users →
      v = { x with lastLoginAt := some w.now, updatedAt := w.system } → RowChange s w v
  | reset (x : User) (p hash) : x ∈ w.users → ((s.hash p).run s w).2 = .ok hash →
      v = { x with passwordHash := hash, updatedAt := w.now } → RowChange s w v
  | added (email firstName lastName p) : v.id = (w.nextId s).text →
      Validation.email email = .ok v.email →
      Validation.name "first_name" firstName = .ok v.firstName →
      Validation.name "last_name" lastName = .ok v.lastName →
      ((s.hash p).run s w).2 = .ok v.passwordHash → v.createdAt = w.system →
      v.updatedAt = w.system → v.lastLoginAt = Option.none → RowChange s w v

theorem row_change (hk : w.users.Keyed) (he : e.IsHandsOff) (hv : v ∈ (w.next s e).users) :
    RowChange s w v := by
  cases e with
  | operation op =>
    rw [next] at hv
    cases op with
    | signUp email password firstName lastName =>
      obtain ⟨r, h, -⟩ := perform_signUp s email password firstName lastName w
      cases h with
      | refused failure hq => exact .none (hq.users ▸ hv)
      | created p user r he hf hp hfirst hlast hh hid ha hc hu hl ht hn ho hs hus hr =>
        rw [hus] at hv
        rcases List.mem_append.mp hv with hv | hv
        · exact .none hv
        · rw [List.mem_singleton.mp hv]
          exact .added email firstName lastName p hid he hfirst hlast hh hc hu hl
    | login email password =>
      obtain ⟨r, h, -⟩ := perform_login (s := s) hk email password
      cases h with
      | refused failure hq => exact .none (hq.users ▸ hv)
      | started a p user x y i j d he hp hu hc ha hi hj hd hn ho hs hus =>
        rcases hus with ⟨-, hus⟩ | hus
        · exact .none (hus ▸ hv)
        · rw [hus] at hv
          obtain ⟨u, hu, rfl⟩ := mem_modify hv
          split
          · exact .loggedIn u hu rfl
          · exact .none hu
    | forgotPassword email =>
      obtain ⟨r, h, -⟩ := perform_forgotPassword s email w
      cases h with
      | refused failure hq => exact .none (hq.users ▸ hv)
      | unknown address he hu hq => exact .none (hq.users ▸ hv)
      | sent address user d he hu hd hn hus => exact .none (hus ▸ hv)
    | resetPassword token newPassword =>
      obtain ⟨r, h, -⟩ := perform_resetPassword s token newPassword w
      cases h with
      | refused failure hq => exact .none (hq.users ▸ hv)
      | spent k failure hk hn hus => exact .none (hus ▸ hv)
      | changed k p id hash user r htoken hf hp hl hm hh hu hn ho hus hs =>
        rw [hus] at hv
        obtain ⟨u, hu', rfl⟩ := mem_modify hv
        split
        · exact .reset u p hash hu' hh rfl
        · exact .none hu'
    | validateToken accessToken =>
      exact .none ((perform_validateToken s accessToken w).users ▸ hv)
  | advance d =>
    obtain ⟨now, system, hticked⟩ := ticked_advance w d
    rw [next, hticked] at hv
    exact .none hv
  | setSystem t => exact .none hv
  | outages o => exact .none hv
  | activate email active => exact he.elim

theorem RowChange.sound (h : RowChange s w v) (rows : ∀ u ∈ w.users, u.IsSound s) :
    v.IsSound s := by
  have readable {p hash : String} (hhash : ((s.hash p).run s w).2 = .ok hash) : s.CanRead hash := by
    obtain ⟨params, hparams, -⟩ := params_of_hash hhash
    exact canRead_of_params hparams
  cases h with
  | none hv => exact rows v hv
  | loggedIn u hu hv =>
    subst hv
    exact { rows u hu with }
  | reset u p hash hu hhash hv =>
    subst hv
    exact { rows u hu with hash := readable hhash }
  | added email firstName lastName p hid hemail hfirst hlast hhash hcreated hupdated hlogin =>
    exact
      { id := ⟨w.nextId s, by rw [hid, Uuid.ofText?_text], hid.symm⟩
        email := email_of_accepted hemail
        firstName := name_of_accepted hfirst
        lastName := name_of_accepted hlast
        hash := readable hhash }

theorem User.InOrder.later {now later : Instant} (h : u.InOrder now) (hle : now ≤ later) :
    u.InOrder later :=
  { h with updated := Int.le_trans h.updated hle }

theorem RowChange.inOrder (h : RowChange s w v) (clocks : w.system = w.now)
    (rows : ∀ u ∈ w.users, u.InOrder w.now) : v.InOrder w.now := by
  cases h with
  | none hv => exact rows v hv
  | loggedIn u hu hv =>
    have before := rows u hu
    subst hv
    refine ⟨?_, ?_, ?_⟩
    · rw [clocks]
      exact Int.le_trans before.created before.updated
    · exact Int.le_of_eq clocks
    · intro t ht
      cases ht
      exact Int.le_of_eq clocks.symm
  | reset u p hash hu hhash hv =>
    have before := rows u hu
    subst hv
    refine ⟨?_, Int.le_refl _, ?_⟩
    · exact Int.le_trans before.created before.updated
    · intro t ht
      exact Int.le_trans (before.login t ht) before.updated
  | added email firstName lastName p hid hemail hfirst hlast hhash hcreated hupdated hlogin =>
    refine ⟨Int.le_of_eq (hcreated.trans hupdated.symm), ?_, ?_⟩
    · exact Int.le_of_eq (hupdated.trans clocks)
    · rw [hlogin]
      exact fun t ht => nomatch ht

/-- The entry is a reset token of a user, or the refresh token of a user until it expires. -/
def Session.IsSound (room : Json.Nesting) (us : Users) (key : LooseText) (entry : Session.Entry) :
    Prop :=
  ∃ u ∈ us, (∃ token, key = Session.resetKey token ∧ entry.value = u.id) ∨
    key = Session.refreshKey u.id ∧
      Token.Tells room entry.value u.id Token.refreshType entry.deadline

variable {key other : LooseText} {entry entry' : Session.Entry} {es : Session.Entries}

theorem mem_of_erase (h : (key, entry) ∈ es.erase other) : (key, entry) ∈ es :=
  List.mem_of_mem_filter h

theorem mem_of_insert (h : (key, entry) ∈ es.insert other entry') :
    key = other ∧ entry = entry' ∨ (key, entry) ∈ es := by
  rcases List.mem_cons.mp h with heq | h
  · exact .inl (Prod.mk.inj heq)
  · exact .inr (mem_of_erase h)

theorem mem_of_find? (h : es.find? key = some entry) : (key, entry) ∈ es := by
  obtain ⟨x, hx, rfl⟩ := Option.map_eq_some_iff.mp h
  have hkey : x.1 = key := by simpa using List.find?_some hx
  rw [← hkey]
  exact List.mem_of_find?_eq_some hx

theorem entry_change (memory : s.backing = .memory) (calendar : Time.isInstant w.now = true)
    (hk : w.users.Keyed) (e : Event) (h : (key, entry) ∈ (w.next s e).sessions) :
    (key, entry) ∈ w.sessions ∨ Session.IsSound s.suite.nesting w.users key entry := by
  cases e with
  | operation op =>
    rw [next] at h
    cases op with
    | signUp email password firstName lastName =>
      obtain ⟨r, hr, -⟩ := perform_signUp s email password firstName lastName w
      cases hr with
      | refused failure hq => exact .inl (hq.sessions ▸ h)
      | created p user r he hf hp hfirst hlast hh hid ha hc hu hl ht hn ho hs => exact .inl (hs ▸ h)
    | login email password =>
      obtain ⟨r, hr, -⟩ := perform_login (s := s) hk email password
      cases hr with
      | refused failure hq => exact .inl (hq.sessions ▸ h)
      | started a p user x y access refresh deadline he hp hu hv ha hi hj hd hn ho hs =>
        rw [hs] at h
        rcases mem_of_insert h with ⟨rfl, rfl⟩ | h
        · have htells := Token.tells_of_issueToken (now_of_issueToken hi ▸ calendar) hj
          have hdeadline := (Session.Backing.deadline?_eq_some_iff.mp hd).1
          rw [memory, Session.Backing.lifetime, memory_deadline] at hdeadline
          rw [← hdeadline] at htells
          exact .inr ⟨user, (Users.mem_of_withEmail? hu).1, .inr ⟨rfl, htells⟩⟩
        · exact .inl h
    | forgotPassword email =>
      obtain ⟨r, hr, -⟩ := perform_forgotPassword s email w
      cases hr with
      | refused failure hq => exact .inl (hq.sessions ▸ h)
      | unknown address he hu hq => exact .inl (hq.sessions ▸ h)
      | sent address user deadline he hu hd hn hus ho hs =>
        rw [hs] at h
        rcases mem_of_insert h with ⟨rfl, rfl⟩ | h
        · exact .inr ⟨user, (Users.mem_of_withEmail? hu).1, .inl ⟨_, rfl, rfl⟩⟩
        · exact .inl h
    | resetPassword token newPassword =>
      obtain ⟨r, hr, -⟩ := perform_resetPassword s token newPassword w
      cases hr with
      | refused failure hq => exact .inl (hq.sessions ▸ h)
      | spent k failure hk hn hus ho hs => exact .inl (mem_of_erase (hs ▸ h))
      | changed k p id hash user r hk hf hp hl hm hh hu hn ho hus hs =>
        rcases hs with ⟨hs, -⟩ | ⟨hs, -⟩
        · exact .inl (mem_of_erase (hs ▸ h))
        · exact .inl (mem_of_erase (mem_of_erase (hs ▸ h)))
    | validateToken accessToken => exact .inl ((perform_validateToken s accessToken w).sessions ▸ h)
  | advance d =>
    obtain ⟨now, system, hticked⟩ := ticked_advance w d
    rw [next, hticked] at h
    exact .inl h
  | setSystem t => exact .inl h
  | outages o => exact .inl h
  | activate email active => exact .inl h

theorem Session.IsSound.evolves {room : Json.Nesting} {us us' : Users}
    (h : IsSound room us key entry) (he : us.Evolves us') : IsSound room us' key entry := by
  obtain ⟨u, hu, hsound⟩ := h
  obtain ⟨v, hv, same⟩ := Users.row_survives he hu
  rw [← same.id] at hsound
  exact ⟨v, hv, hsound⟩

/-- Both stores are in order. -/
structure World.IsSound (s : Service) (w : World) : Prop where
  rows : ∀ u ∈ w.users, u.IsSound s
  entries : ∀ x ∈ w.sessions, Session.IsSound s.suite.nesting w.users x.1 x.2

theorem World.IsSound.step (h : w.IsSound s) (memory : s.backing = .memory) (hk : w.users.Keyed)
    (calendar : Time.isInstant w.now = true) (handsOff : e.IsHandsOff) :
    (w.next s e).IsSound s where
  rows v hv := (row_change hk handsOff hv).sound h.rows
  entries := by
    rintro ⟨key, entry⟩ hx
    have hevolves := next_evolves s hk e
    rcases entry_change memory calendar hk e hx with hold | hnew
    · exact (h.entries (key, entry) hold).evolves hevolves
    · exact hnew.evolves hevolves

theorem sound_after (memory : s.backing = .memory) (start : Instant)
    (calendar : Time.isInstant start = true) (past : List Event)
    (handsOff : ∀ e ∈ past, e.IsHandsOff) : ((initial start).after s past).IsSound s := by
  induction past using run_induction with
  | start =>
    constructor
    · intro u hu
      cases hu
    · intro x hx
      cases hx
  | step past e ih =>
    have before := ih fun x hx => handsOff x (List.mem_append_left _ hx)
    rw [after_snoc]
    exact before.step memory (keyed_after s start past) (isInstant_after start calendar past)
      (handsOff e (List.mem_append_right _ (.head _)))

theorem in_order_after (start : Instant) (past : List Event) (handsOff : ∀ e ∈ past, e.IsHandsOff)
    (forward : ∀ e ∈ past, e.KeepsTime) :
    ∀ u ∈ ((initial start).after s past).users, u.InOrder ((initial start).after s past).now := by
  induction past using run_induction with
  | start => exact fun u hu => nomatch hu
  | step past e ih =>
    have hpast : ∀ x ∈ past, x ∈ past ++ [e] := fun x hx => List.mem_append_left _ hx
    have he : e ∈ past ++ [e] := List.mem_append_right _ (.head _)
    have before := ih (fun x hx => handsOff x (hpast x hx)) (fun x hx => forward x (hpast x hx))
    have clocks := clocks_agree_after s start past fun t ht => forward _ (hpast _ ht)
    rw [after_snoc]
    intro v hv
    have change := row_change (keyed_after s start past) (handsOff e he) hv
    exact (change.inOrder clocks before).later (now_le_next (forward e he))

theorem World.IsSound.user_of_reset (h : w.IsSound s) (hk : w.users.Keyed) {k : LooseText}
    {id : String} (hlive : w.sessions.live? w.now (Session.resetKey k) = some id) :
    ∃ u, w.users.withId? id = some u := by
  obtain ⟨entry, hfind, rfl, -⟩ := live?_eq_some_iff.mp hlive
  obtain ⟨u, hu, ⟨-, -, hvalue⟩ | ⟨hkey, -⟩⟩ := h.entries _ (mem_of_find? hfind)
  · rw [hvalue]
    exact ⟨u, hk.withId? hu⟩
  · exact absurd hkey (resetKey_ne_refreshKey k u.id)

/-- After every run with sessions in memory, in which nobody changes an account by hand, rows and
session entries are in order and fit together. The times in a row are in order if no clock was set
back and both clocks showed the same time. Every row stays, with all that is settled when a row is
added and with its state. So no login finds stored credentials corrupted, and no reset with a live
token finds the token wrong. Which statements fail does not matter. No operation sends two
statements of one sort, so failures that begin or end between operations stop an operation at any
one of its statements. All calls of one operation are answered at one instant. -/
theorem stores_fit_together (s : Service) (start : Instant) (past : List Event) {w : World}
    (hw : (initial start).after s past = w) (memory : s.backing = .memory)
    (calendar : Time.isInstant start = true) (handsOff : ∀ e ∈ past, e.IsHandsOff) :
    (∀ u ∈ w.users, u.IsSound s) ∧
    ((∀ e ∈ past, e.KeepsTime) → ∀ u ∈ w.users, u.InOrder w.now) ∧
    (∀ x ∈ w.sessions, Session.IsSound s.suite.nesting w.users x.1 x.2) ∧
    (∀ later : List Event, (∀ e ∈ later, e.IsHandsOff) → ∀ u ∈ w.users,
      ∃ v, (w.after s later).users.withId? u.id = some v ∧ Users.SameIdentity u v ∧
        v.isActive = u.isActive) ∧
    (∀ email password,
      (s.perform (.login email password) w).2 ≠ .error (.fault .corruptedCredentials)) ∧
    ∀ field password k id, Validation.token field = .ok k →
      w.sessions.live? w.now (Session.resetKey k) = some id →
        (s.perform (.resetPassword field password) w).2 ≠ .error (.fault .wrongResetToken) := by
  have sound : w.IsSound s := hw ▸ sound_after memory start calendar past handsOff
  have keyed : w.users.Keyed := hw ▸ keyed_after s start past
  refine ⟨sound.rows, ?_, sound.entries, ?_, ?_, ?_⟩
  · intro forward
    exact hw ▸ in_order_after start past handsOff forward
  · intro later hlater u hu
    obtain ⟨v, hv, same, active⟩ := row_lasts_after (s := s) keyed hlater hu
    have keyedLater : (w.after s later).users.Keyed := by
      rw [← hw, ← after_append]
      exact keyed_after s start (past ++ later)
    refine ⟨v, ?_, same, active⟩
    rw [← same.id]
    exact keyedLater.withId? hv
  · exact login_not_corrupted fun u hu => (sound.rows u hu).hash
  · intro field password k id hk hlive
    obtain ⟨u, hu⟩ := sound.user_of_reset keyed hlive
    exact reset_not_wrong hk hlive hu

/-- Ann registers while nothing can be looked up, and requests a reset when that is over. -/
def annInOutage : List Event :=
  [.outages ⟨⟨true, false, false⟩, .none⟩, annRegisters, .outages .none,
    .request "ann@example.org", .advance Time.minute]

/-- The registration fails after its row was added. -/
theorem annInOutage_fits : ∃ w, (initial 0).after .smallInMemory annInOutage = w ∧
    (Service.smallInMemory.perform
      (.signUp (some "ann@example.org") (some "first password 1") (some "Ann") (some "Lee"))
      ((initial 0).after .smallInMemory (annInOutage.take 1))).2 = .error (.broken .database) ∧
    (∃ u ∈ w.users, u.email = "ann@example.org" ∧ u.IsSound .smallInMemory ∧ u.InOrder w.now) ∧
    (Service.smallInMemory.perform (.resetPassword
      (some (LooseText.ofString ((initial 0).nextToken .smallInMemory)))
      (some "second password 2")) w).2 ≠ .error (.fault .wrongResetToken) := by
  have token : (LooseText.ofString ((initial 0).nextToken .smallInMemory)).trim =
      LooseText.ofString ((initial 0).nextToken .smallInMemory) := by
    decide
  obtain ⟨u, hu, hemail⟩ : ∃ u ∈ ((initial 0).after .smallInMemory annInOutage).users,
      u.email = "ann@example.org" := by
    decide
  obtain ⟨id, hlive⟩ : ∃ id, ((initial 0).after .smallInMemory annInOutage).sessions.live?
      ((initial 0).after .smallInMemory annInOutage).now
      (Session.resetKey (LooseText.ofString ((initial 0).nextToken .smallInMemory))) = some id :=
    Option.isSome_iff_exists.mp (by decide)
  obtain ⟨rows, inOrder, -, -, -, resets⟩ := stores_fit_together .smallInMemory 0 annInOutage rfl
    rfl (by decide) (by decide)
  exact ⟨_, rfl, rfl, ⟨u, hu, hemail, rows u hu, inOrder (by decide) u hu⟩,
    resets _ _ _ id (token_of_trim token) hlive⟩

end Accounts
