import Accounts.Proofs.Account.Access
import Accounts.Proofs.Account.Credentials
import Accounts.Proofs.Encoding.Sextets
import Accounts.Proofs.Number.Rounding
import Accounts.Proofs.Session.Waiting

/-! # Recovering an account

Whoever requested a reset for a registered email can carry it out with the drawn token while the
token's lifetime lasts. The new password then opens the account, and the token is spent.
-/
namespace Accounts

open World

variable {s : Service} {w v : World} {u : User} {k : LooseText} {p : String}

theorem run_newPassword {β : Type} (hp : Validation.password (some p) = .ok p)
    (g : String → Plan β) (w : World) :
    (Service.newPassword (some (LooseText.ofString p)) >>= g).run s w = (g p).run s w := by
  obtain ⟨htext, hstrong⟩ := password_ok_iff.mp hp
  have hrun : (Service.newPassword (some (LooseText.ofString p))).run s w = (w, .ok p) := by
    simp only [Service.newPassword, htext, Plan.valid, Plan.run_bind_pure, Plan.encodable,
      LooseText.string?_ofString, hstrong, Plan.run_pure]
  rw [Plan.bind_eq, Plan.run_bind, hrun]

theorem hash_of_password (rounds : Password.minCost ≤ s.rounds ∧ s.rounds ≤ Password.maxCost)
    (hp : Validation.password (some p) = .ok p) (w : World) :
    ∃ hash, (s.hash p).run s w = (w.afterSalt, .ok hash) := by
  have hshort : Password.isTooLong p = false := short_of_strongPassword (password_ok_iff.mp hp).2
  rw [hash_run, Password.costOfRounds_ok rounds]
  simp only [hshort]
  exact ⟨_, rfl⟩

theorem length_resetToken (w : World) : (w.nextToken s).length = 43 := by
  rw [World.nextToken, Service.secretText, String.length_ofList, Encoding.Base64.encode,
    Encoding.length_encodeSextets, Vector.length_toList]
  rfl

theorem token_of_trim {field : LooseText}
    (h : field.trim = LooseText.ofString (w.nextToken s)) :
    Validation.token (some field) = .ok (LooseText.ofString (w.nextToken s)) := by
  have hlength : (LooseText.ofString (w.nextToken s)).length = 43 := by
    rw [LooseText.length_ofString, length_resetToken]
  apply token_of_length h
  · rw [hlength]
    decide
  · rw [hlength]
    decide

theorem answer_popSession_ok (ho : w.outages = .none) (key : LooseText) :
    w.answer s (.popSession key) =
      ({ w with sessions := w.sessions.erase key }, .ok (w.sessions.live? w.now key)) := by
  rw [answer_popSession, ho]
  exact if_neg (by rw [Outages.none, Session.Outages.none, isOut_false]; decide)

theorem answer_deleteSession_ok (ho : w.outages = .none) (key : LooseText) :
    w.answer s (.deleteSession key) = ({ w with sessions := w.sessions.erase key }, .ok ()) := by
  rw [answer_deleteSession, ho]
  exact if_neg (by rw [Outages.none, Session.Outages.none, isOut_false]; decide)

theorem answer_updatePassword_ok (ho : w.outages = .none) {id : String} (hash : String)
    (hu : w.users.withId? id = some u) :
    ∃ v, w.answer s (.updatePassword (some id) (some hash)) = (v, .ok true) ∧
      v.outages = .none := by
  rw [answer_updatePassword, ho, hu]
  exact ⟨_, rfl, rfl⟩

theorem live?_of_absent {es : Session.Entries} {key : LooseText} (h : es.find? key = none)
    (now : Instant) : es.live? now key = none := by
  rw [Session.Entries.live?, h]

theorem getSession_none (ho : w.outages = .none) {key : LooseText}
    (h : w.sessions.find? key = none) : (w.answer s (.getSession key)).2 = .ok none := by
  simp only [answer, onSessions, Session.get, ho, Outages.none, Session.Outages.none, isOut_false,
    Outcome.ok, live?_of_absent h]
  rfl

theorem live?_of_find? {es : Session.Entries} {key : LooseText} {entry : Session.Entry}
    {now : Instant} (h : es.find? key = some entry) (hnow : now < entry.deadline) :
    es.live? now key = some entry.value := by
  rw [Session.Entries.live?, h]
  exact if_neg (Int.not_le.mpr hnow)

theorem forgotPassword_answers {email : LooseText} (ho : w.outages = .none)
    (he : Validation.email (some email) = .ok u.email)
    (hu : w.users.withEmail? u.email = some u)
    (kept : (s.backing.deadline? w.now s.lifetimes.reset).isSome) :
    ((s.forgotPassword (some email)).run s w).2 = .ok Service.resetRequested := by
  obtain ⟨v, hput, -⟩ := answer_putSession_ok (s := s) (w := w.afterSecret)
    (Session.resetKey (w.nextToken s)) u.id ho kept
  rw [World.nextToken] at hput
  simp only [Service.forgotPassword, he, Plan.valid, Plan.run_bind_pure]
  rw [Plan.run_bind_ask, answer_findByEmail_ok ho, hu]
  simp only [Plan.run_bind_ofExcept_ok, Service.sendResetToken, Plan.bind_bind, Plan.run_drawSecret]
  rw [Plan.run_bind_ask, hput]
  rfl

theorem forgotPassword_keeps {email : LooseText} (ho : w.outages = .none)
    (he : Validation.email (some email) = .ok u.email) (hk : w.users.Keyed) (hu : u ∈ w.users)
    (kept : (s.backing.deadline? w.now s.lifetimes.reset).isSome) :
    w.nextToken s ∈ Step.secrets s ⟨w, .operation (.forgotPassword (some email))⟩ ∧
      (w.next s (.operation (.forgotPassword (some email)))).sessions.find?
        (Session.resetKey (w.nextToken s)) =
          some ⟨u.id, w.now + s.backing.lifetime s.lifetimes.reset⟩ := by
  have hanswer := forgotPassword_answers ho he (hk.withEmail? hu) kept
  obtain ⟨r, h, hr⟩ := perform_forgotPassword s (some email) w
  rw [Service.perform, Operation.plan, Plan.run_mapResult, hanswer] at hr
  cases h with
  | refused e hq => cases hr
  | unknown address he' hu' hq =>
    cases he.symm.trans he'
    rw [hk.withEmail? hu] at hu'
    cases hu'
  | sent address user deadline he' hu' hd hn hus hout hs ht =>
    cases he.symm.trans he'
    rw [hk.withEmail? hu] at hu'
    cases hu'
    rw [Session.Backing.deadline?_eq_some_iff] at hd
    obtain ⟨rfl, -⟩ := hd
    refine ⟨nextToken_mem_secrets ht, ?_⟩
    rw [next, hs, Session.Entries.find?_insert, if_pos rfl]

theorem resetPassword_succeeds {field : LooseText} {id : String} (ho : w.outages = .none)
    (rounds : Password.minCost ≤ s.rounds ∧ s.rounds ≤ Password.maxCost)
    (hk : Validation.token (some field) = .ok k) (hp : Validation.password (some p) = .ok p)
    (hlive : w.sessions.live? w.now (Session.resetKey k) = some id)
    (hu : w.users.withId? id = some u) :
    ((s.resetPassword (some field) (some (LooseText.ofString p))).run s w).2 =
      .ok ⟨true, "Password reset successfully"⟩ := by
  obtain ⟨hash, hhash⟩ := hash_of_password rounds hp
    { w with sessions := w.sessions.erase (Session.resetKey k) }
  obtain ⟨v, hupdate, hv⟩ := answer_updatePassword_ok (s := s)
    (w := afterSalt { w with sessions := w.sessions.erase (Session.resetKey k) }) ho hash hu
  simp only [Service.resetPassword, hk, Plan.valid, Plan.run_bind_pure]
  rw [run_newPassword hp, Plan.run_bind_ask, answer_popSession_ok ho, hlive]
  dsimp only
  rw [Plan.run_bind_ofExcept_ok]
  dsimp only
  rw [Plan.bind_eq, Plan.run_bind, hhash]
  dsimp only
  rw [Plan.run_bind_ask, hupdate]
  dsimp only
  rw [Plan.run_bind_ofExcept_ok, if_pos rfl, Plan.run_bind_ask, answer_deleteSession_ok hv]
  rfl

theorem resetPassword_refused {field : LooseText} (ho : w.outages = .none)
    (hk : Validation.token (some field) = .ok k) (hp : Validation.password (some p) = .ok p)
    (hlive : w.sessions.live? w.now (Session.resetKey k) = none) :
    ((s.resetPassword (some field) (some (LooseText.ofString p))).run s w).2 =
      .error (.fault .wrongResetToken) := by
  simp only [Service.resetPassword, hk, Plan.valid, Plan.run_bind_pure]
  rw [run_newPassword hp, Plan.run_bind_ask, answer_popSession_ok ho, hlive]
  rfl

/-- What a reset does to the stores: the token and the refresh token of the user are gone, and the
user has a hash of the new password. -/
structure Replaced (s : Service) (w x : World) (k : LooseText) (u : User) (p : String) : Prop where
  now : x.now = w.now
  sessions : x.sessions = (w.sessions.erase (Session.resetKey k)).erase (Session.refreshKey u.id)
  users : ∃ hash, ((s.hash p).run s w).2 = .ok hash ∧
    x.users = w.users.modify u.id fun u => { u with passwordHash := hash, updatedAt := w.now }

theorem perform_reset {field : LooseText} (ho : w.outages = .none)
    (rounds : Password.minCost ≤ s.rounds ∧ s.rounds ≤ Password.maxCost)
    (hk : Validation.token (some field) = .ok k) (hp : Validation.password (some p) = .ok p)
    (hlive : w.sessions.live? w.now (Session.resetKey k) = some u.id)
    (hu : w.users.withId? u.id = some u) :
    ∃ x, s.perform (.resetPassword (some field) (some (LooseText.ofString p))) w =
        (x, .ok (.status ⟨true, "Password reset successfully"⟩)) ∧ Replaced s w x k u p := by
  have hok := resetPassword_succeeds ho rounds hk hp hlive hu
  obtain ⟨r, h, hr⟩ :=
    perform_resetPassword s (some field) (some (LooseText.ofString p)) w
  have hperform : (s.perform (.resetPassword (some field) (some (LooseText.ofString p))) w).2 =
      .ok (.status ⟨true, "Password reset successfully"⟩) := by
    rw [Service.perform, Operation.plan, Plan.run_mapResult, hok]
    rfl
  rw [hperform] at hr
  cases h with
  | refused e hq => cases hr
  | spent j e hj hn hus hout hs => cases hr
  | changed j q id hash user r hj hf hq hl hm hh hu' hn hout hus hs =>
    cases LooseText.ofString_injective (Option.some.inj hf)
    cases hk.symm.trans hj
    cases hlive.symm.trans hl
    cases hu.symm.trans hu'
    rcases hs with ⟨-, -, rfl⟩ | ⟨hs, -⟩
    · cases hr
    · exact ⟨_, Prod.ext rfl hperform, hn, hs, hash, hh, hus⟩

theorem perform_reset_refused {field : LooseText} (ho : w.outages = .none)
    (hk : Validation.token (some field) = .ok k) (hp : Validation.password (some p) = .ok p)
    (hlive : w.sessions.live? w.now (Session.resetKey k) = none) :
    (s.perform (.resetPassword (some field) (some (LooseText.ofString p))) w).2 =
      .error (.fault .wrongResetToken) := by
  rw [Service.perform, Operation.plan, Plan.run_mapResult,
    resetPassword_refused ho hk hp hlive]
  rfl

/-- The store keeps an entry for as long as it was told, unless the server has to round a lifetime
that is too long to be rounded up. -/
theorem Session.Backing.le_lifetime {backing : Session.Backing} {ttl : Int}
    (h : backing = .memory ∨ ttl ≤ 2 ^ 34 * Time.second) : ttl ≤ backing.lifetime ttl := by
  have hsecond : Time.second = 1000000 := rfl
  cases backing with
  | memory => exact Int.le_refl ttl
  | server =>
    have hshort := h.resolve_left (by decide)
    rw [lifetime, Session.ttlSeconds, hsecond]
    rw [hsecond] at hshort
    by_cases hpositive : 0 < ttl
    · have hexact : Time.IsExact ttl := by
        rw [Time.IsExact]
        omega
      have hbound := (Time.ceilSeconds_bounds hexact).1
      rw [hsecond] at hbound
      omega
    · omega

theorem Event.IsPlain.handsOff {e : Event} (h : e.IsPlain) : e.IsHandsOff := by
  cases e with
  | operation | advance | setSystem | outages => trivial
  | activate email active => exact h.elim

theorem outages_after {later : List Event} (plain : ∀ e ∈ later, e.IsPlain) :
    (w.after s later).outages = w.outages := by
  induction later generalizing w with
  | nil => rfl
  | cons e later ih =>
    have htail := ih (w := w.next s e) fun x hx => plain x (.tail _ hx)
    exact htail.trans (next_outages (plain e (.head _)))

theorem verify_of_hash {hash : String} (h : ((s.hash p).run s w).2 = .ok hash) :
    Password.verify s.suite hash p = .ok true := by
  obtain ⟨params, hparams, hshort, hcompute⟩ := params_of_hash h
  rw [Password.verify_of_params hparams, hshort, hcompute]
  simp

theorem mem_modify_of_ne {us : Users} {change : User → User} (hc : Users.KeepsIdentity change)
    {x : User} (hx : x.id ≠ u.id) : x ∈ us.modify u.id change ↔ x ∈ us := by
  constructor
  · intro h
    obtain ⟨y, hy, rfl⟩ := mem_modify h
    split
    · next hid =>
      rw [if_pos hid, hc.id] at hx
      exact absurd hid hx
    · exact hy
  · intro h
    exact List.mem_map.mpr ⟨x, h, if_neg hx⟩

section Replaced

variable {x : World}

theorem Replaced.gone (h : Replaced s w x k u p) {key : LooseText}
    (hkey : key = Session.resetKey k ∨ key = Session.refreshKey u.id) :
    x.sessions.find? key = none := by
  rw [h.sessions, Session.Entries.find?_erase, Session.Entries.find?_erase]
  rcases hkey with rfl | rfl
  · split <;> simp
  · rw [if_pos rfl]

theorem Replaced.entry (h : Replaced s w x k u p) {key : LooseText}
    (hreset : key ≠ Session.resetKey k) (hrefresh : key ≠ Session.refreshKey u.id) :
    x.sessions.find? key = w.sessions.find? key := by
  rw [h.sessions, Session.Entries.find?_erase, if_neg hrefresh, Session.Entries.find?_erase,
    if_neg hreset]

theorem Replaced.row (h : Replaced s w x k u p) {y : User} (hy : y.id ≠ u.id) :
    y ∈ x.users ↔ y ∈ w.users := by
  obtain ⟨hash, -, husers⟩ := h.users
  rw [husers]
  exact mem_modify_of_ne (keepsIdentity_of_credentials _ _ _ _) hy

theorem Replaced.opens (h : Replaced s w x k u p) (hu : u ∈ w.users) (active : u.isActive = true)
    (can : s.CanIssue w.now) (ho : x.outages = .none) (hk : x.users.Keyed) {email : LooseText}
    (hemail : Validation.email (some email) = .ok u.email)
    (hp : Validation.password (some p) = .ok p) :
    ∃ l, (s.perform (.login (some email) (some (LooseText.ofString p))) x).2 =
      .ok (.loggedIn l) := by
  obtain ⟨hash, hhash, husers⟩ := h.users
  have hmem : { u with passwordHash := hash, updatedAt := w.now } ∈ x.users := by
    rw [husers]
    exact List.mem_map.mpr ⟨u, hu, if_pos rfl⟩
  obtain ⟨l, hl, -⟩ := signIn_opens (h.now ▸ can) ho hk hmem active hemail
    (ne_empty_of_password hp) (verify_of_hash hhash)
  rw [perform_signIn, hl]
  exact ⟨l, rfl⟩

end Replaced

/-- Without an entry, a token that is not drawn again is refused ever after. -/
theorem refused_after {field : LooseText} {later : List Event} (ho : w.outages = .none)
    (hk : w.users.Keyed) (plain : ∀ e ∈ later, e.IsPlain) (undrawn : k.IsNew (w.secrets s later))
    (absent : w.sessions.find? (Session.resetKey k) = none)
    (htoken : Validation.token (some field) = .ok k) (hp : Validation.password (some p) = .ok p) :
    (s.perform (.resetPassword (some field) (some (LooseText.ofString p))) (w.after s later)).2 =
      .error (.fault .wrongResetToken) := by
  have hlater := stays_absent_after hk undrawn absent
  exact perform_reset_refused ((outages_after plain).trans ho) htoken hp (live?_of_absent hlater _)

theorem live_after_request {field : LooseText} {between : List Event} (ho : w.outages = .none)
    (hk : w.users.Keyed) (hu : u ∈ w.users)
    (hfield : Validation.email (some field) = .ok u.email)
    (kept : (s.backing.deadline? w.now s.lifetimes.reset).isSome)
    (whole : s.backing = .memory ∨ s.lifetimes.reset ≤ 2 ^ 34 * Time.second)
    (fresh : (w.secrets s (.request field :: between)).Nodup)
    (unspent : ∀ e ∈ between, ¬ e.Spends (LooseText.ofString (w.nextToken s)))
    (hv : w.after s (.request field :: between) = v) (early : v.now < w.now + s.lifetimes.reset) :
    w.nextToken s ∈ Step.secrets s ⟨w, .request field⟩ ∧
      v.sessions.live? v.now (Session.resetKey (w.nextToken s)) = some u.id := by
  obtain ⟨hdrawn, hentry⟩ := forgotPassword_keeps ho hfield hk hu kept
  refine ⟨hdrawn, ?_⟩
  rw [secrets_cons] at fresh
  have hnew := LooseText.isNew_of_nodup fresh hdrawn
  have hkeyed : (w.next s (.request field)).users.Keyed := hk.evolves (next_evolves s hk _)
  have hstays := entry_stays_after hkeyed unspent hnew
  have hrun : (w.next s (.request field)).after s between = v := hv
  rw [hrun, hentry] at hstays
  have hdeadline : v.now < w.now + s.backing.lifetime s.lifetimes.reset :=
    Int.lt_of_lt_of_le early (Int.add_le_add_left (Session.Backing.le_lifetime whole) _)
  exact live?_of_find? hstays hdeadline

/-- In a run without faults, let a user request a reset, and let the drawn token not be spent before
the end of its lifetime, which the store rounds to no less than it is. Then a reset with the token
and any password that can be set succeeds. Right after it no refresh token is registered for the
user, the password opens the account under every spelling of the email, and no other row and no
other entry is different. From then on every reset with the token is refused. All calls of one
operation are answered at one instant. -/
theorem reset_token_resets (s : Service) (start : Instant) (past between : List Event)
    (field token : LooseText) (p : String) {w v : World} {u : User}
    (hw : (World.initial start).after s past = w)
    (hv : w.after s (.request field :: between) = v)
    (plain : ∀ e ∈ past ++ between, e.IsPlain)
    (fresh : ((World.initial start).secrets s (past ++ .request field :: between)).Nodup)
    (rounds : Password.minCost ≤ s.rounds ∧ s.rounds ≤ Password.maxCost)
    (kept : (s.backing.deadline? w.now s.lifetimes.reset).isSome)
    (can : s.CanIssue v.now)
    (whole : s.backing = .memory ∨ s.lifetimes.reset ≤ 2 ^ 34 * Time.second)
    (hu : u ∈ w.users) (hfield : field.trim = LooseText.ofString u.email)
    (unspent : ∀ e ∈ between, ¬ e.Spends (LooseText.ofString (w.nextToken s)))
    (early : v.now < w.now + s.lifetimes.reset)
    (htoken : token.trim = LooseText.ofString (w.nextToken s))
    (hp : Validation.password (some p) = .ok p) :
    ∃ x, s.perform (.resetPassword (some token) (some (LooseText.ofString p))) v =
        (x, .ok (.status ⟨true, "Password reset successfully"⟩)) ∧
      (x.answer s (.getSession (Session.refreshKey u.id))).2 = .ok none ∧
      (∀ email : LooseText, email.trim = LooseText.ofString u.email →
        ∃ l, (s.perform (.login (some email) (some (LooseText.ofString p))) x).2 =
          .ok (.loggedIn l)) ∧
      (∀ later, (∀ e ∈ later, e.IsPlain) →
        ((World.initial start).secrets s
          (past ++ .request field :: between ++ .reset token p :: later)).Nodup →
        ∀ again q, again.trim = LooseText.ofString (w.nextToken s) →
          Validation.password (some q) = .ok q →
          (s.perform (.resetPassword (some again) (some (LooseText.ofString q)))
            (x.after s later)).2 = .error (.fault .wrongResetToken)) ∧
      (∀ y : User, y.id ≠ u.id → (y ∈ x.users ↔ y ∈ v.users)) ∧
      ∀ key, key ≠ Session.resetKey (LooseText.ofString (w.nextToken s)) →
        key ≠ Session.refreshKey u.id → x.sessions.find? key = v.sessions.find? key := by
  have plainSince : ∀ e ∈ .request field :: between, e.IsPlain :=
    List.forall_mem_cons.mpr ⟨trivial, fun e he => plain e (List.mem_append_right _ he)⟩
  have hrun : (World.initial start).after s (past ++ .request field :: between) = v := by
    rw [after_append, hw, hv]
  have before := credentials_after s start past fun e he => plain e (List.mem_append_left _ he)
  rw [hw] at before
  have outages : v.outages = .none := by
    rw [← hv, outages_after plainSince]
    exact before.outages
  have hfresh : (w.secrets s (.request field :: between)).Nodup := by
    rw [secrets_append, hw] at fresh
    exact (List.nodup_append.mp fresh).2.1
  obtain ⟨hdrawn, hlive⟩ := live_after_request before.outages before.keyed hu
    ((before.enrolled u hu).email_of_trim hfield) kept whole hfresh unspent hv early
  obtain ⟨row, hrow, same, active⟩ := row_lasts_after (s := s) before.keyed
    (fun e he => (plainSince e he).handsOff) hu
  rw [hv] at hrow
  have hkeyed : v.users.Keyed := hv ▸ before.keyed.run _
  rw [← same.id] at hlive ⊢
  obtain ⟨x, hperform, replaced⟩ :=
    perform_reset outages rounds (token_of_trim htoken) hp hlive (hkeyed.withId? hrow)
  have hnext : v.next s (.reset token p) = x := congrArg Prod.fst hperform
  have houtages : x.outages = .none := by
    have hplain : (Event.reset token p).IsPlain := trivial
    rw [← hnext, next_outages hplain, outages]
  have hkeyed' : x.users.Keyed := hnext ▸ hkeyed.evolves (next_evolves s hkeyed _)
  refine ⟨x, hperform, getSession_none houtages (replaced.gone (.inr rfl)), ?_, ?_,
    fun y hy => replaced.row hy, fun key hreset hrefresh => replaced.entry hreset hrefresh⟩
  · intro email htrim
    have hactive : row.isActive = true := active.trans (before.enrolled u hu).active
    have hemail := (before.enrolled u hu).email_of_trim htrim
    rw [← same.email] at hemail
    exact replaced.opens hrow hactive can houtages hkeyed' hemail hp
  · intro later plainLater freshAll again q hagain hq
    have hdrawn' : w.nextToken s ∈
        (World.initial start).secrets s (past ++ .request field :: between) := by
      rw [secrets_append, hw, secrets_cons]
      exact List.mem_append_right _ (List.mem_append_left _ hdrawn)
    rw [secrets_append, hrun, secrets_cons, hnext] at freshAll
    have hnever := (LooseText.isNew_append.mp (LooseText.isNew_of_nodup freshAll hdrawn')).2
    exact refused_after houtages hkeyed' plainLater hnever (replaced.gone (.inl rfl))
      (token_of_trim hagain) hq

/-- After the request, Ann logs in, requests another reset and is refused a short password. -/
def annDawdles (token : String) : List Event :=
  [annLogsIn, .request "ann@example.org", .reset token "short", .advance (30 * Time.minute - 1)]

theorem annDawdles_unspent (token : String) :
    ∀ e ∈ annDawdles token, ¬ e.Spends (LooseText.ofString token) := by
  intro e he
  rintro ⟨t, q, rfl, -, hq⟩
  simp only [annDawdles, annLogsIn, List.mem_cons, Event.operation.injEq, reduceCtorEq, false_or,
    Operation.resetPassword.injEq, List.not_mem_nil, or_false, Option.some.injEq] at he
  obtain rfl := LooseText.ofString_injective he.2
  exact nomatch (password_ok_iff.mp hq).1

theorem ann_recovers_in_time : ∃ x l,
    Service.small.perform (.resetPassword
      (some (LooseText.ofString (" " ++ (World.withAnn .small 0).nextToken .small)))
      (some "second password 2"))
      ((World.withAnn .small 0).after .small (.request " ann@example.org" ::
        annDawdles ((World.withAnn .small 0).nextToken .small))) =
      (x, .ok (.status ⟨true, "Password reset successfully"⟩)) ∧
    (Service.small.perform (.login (some "ann@example.org") (some "second password 2")) x).2 =
      .ok (.loggedIn l) := by
  obtain ⟨u, hu, hemail⟩ : ∃ u ∈ (World.withAnn .small 0).users, u.email = "ann@example.org" := by
    decide
  have fields : (LooseText.ofString " ann@example.org").trim =
        LooseText.ofString "ann@example.org" ∧
      (LooseText.ofString "ann@example.org").trim = LooseText.ofString "ann@example.org" ∧
      (LooseText.ofString (" " ++ (World.withAnn .small 0).nextToken .small)).trim =
        LooseText.ofString ((World.withAnn .small 0).nextToken .small) := by
    decide
  obtain ⟨field, email, token⟩ := fields
  rw [← hemail] at field
  have plain : ∀ e ∈ [annRegisters] ++ annDawdles ((World.withAnn .small 0).nextToken .small),
      e.IsPlain := by
    decide
  have fresh : ((World.initial 0).secrets .small ([annRegisters] ++
      .request " ann@example.org" ::
        annDawdles ((World.withAnn .small 0).nextToken .small))).Nodup := by
    decide
  have can : Service.small.CanIssue ((World.withAnn .small 0).after .small
      (.request " ann@example.org" ::
        annDawdles ((World.withAnn .small 0).nextToken .small))).now :=
    canIssue_of_dates rfl (by decide)
  have kept : (Service.small.backing.deadline? (World.withAnn .small 0).now
      Service.small.lifetimes.reset).isSome := by
    decide
  have early : ((World.withAnn .small 0).after .small (.request " ann@example.org" ::
      annDawdles ((World.withAnn .small 0).nextToken .small))).now <
        (World.withAnn .small 0).now + Service.small.lifetimes.reset := by
    decide
  have accepted : Validation.password (some "second password 2") = .ok "second password 2" :=
    ok_of_toOption (by decide)
  obtain ⟨x, hreset, -, hopens, -⟩ := reset_token_resets .small 0 [annRegisters]
    (annDawdles ((World.withAnn .small 0).nextToken .small)) " ann@example.org" _
    "second password 2" rfl rfl plain fresh (by decide) kept can (.inr (by decide)) hu field
    (annDawdles_unspent _) early token accepted
  obtain ⟨l, hl⟩ := hopens "ann@example.org" (hemail ▸ email)
  exact ⟨x, l, hreset, hl⟩

/-- A service whose reset tokens should live for `2 ^ 34 + 1` seconds and a microsecond. -/
def Service.longReset : Service :=
  { Service.small with lifetimes := { Lifetimes.standard with reset := 17179869185000001 } }

/-- The server rounds the lifetime down, so the token is gone a microsecond too early. -/
theorem reset_token_gone_early : ∃ v, ∃ u ∈ (World.withAnn .longReset 0).users,
    u.email = "ann@example.org" ∧
    (World.withAnn .longReset 0).after .longReset
      [.request "ann@example.org", .advance 17179869185000000] = v ∧
    v.now < (World.withAnn .longReset 0).now + Service.longReset.lifetimes.reset ∧
    (Service.longReset.perform (.resetPassword
      (some (LooseText.ofString ((World.withAnn .longReset 0).nextToken .longReset)))
      (some "second password 2")) v).2 = .error (.fault .wrongResetToken) := by
  obtain ⟨u, hu, hemail⟩ : ∃ u ∈ (World.withAnn .longReset 0).users,
      u.email = "ann@example.org" := by
    decide
  have facts : ((World.withAnn .longReset 0).after .longReset
        [.request "ann@example.org", .advance 17179869185000000]).now <
        (World.withAnn .longReset 0).now + Service.longReset.lifetimes.reset ∧
      ((World.withAnn .longReset 0).after .longReset
        [.request "ann@example.org", .advance 17179869185000000]).sessions.live?
          ((World.withAnn .longReset 0).after .longReset
            [.request "ann@example.org", .advance 17179869185000000]).now
          (Session.resetKey (LooseText.ofString ((World.withAnn .longReset 0).nextToken .longReset)))
        = none ∧
      (LooseText.ofString ((World.withAnn .longReset 0).nextToken .longReset)).trim =
        LooseText.ofString ((World.withAnn .longReset 0).nextToken .longReset) := by
    decide
  obtain ⟨early, gone, token⟩ := facts
  have accepted : Validation.password (some "second password 2") = .ok "second password 2" :=
    ok_of_toOption (by decide)
  exact ⟨_, u, hu, hemail, rfl, early,
    perform_reset_refused rfl (token_of_trim token) accepted gone⟩

end Accounts
