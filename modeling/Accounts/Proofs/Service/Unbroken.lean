import Accounts.Proofs.Account.MadeHashes
import Accounts.Proofs.Token.Escapes

/-! # Operations that do not break

An operation breaks for few reasons: the service cannot hash or sign, a date leaves the calendar, a
password has no bytes, a statement fails where that is not answered for, a token is nested too
deeply to be read, or one with claims that break its check is signed properly. Without them an
operation succeeds or fails in a way that the service answers for, whatever commands of the session
store fail.
-/
namespace Accounts

open World

variable {α β : Type} {s : Service} {w v u : World} {now : Instant}

/-- The service can hash and sign, its secret is the key itself, every date that an operation
computes is in the calendar, and a reply can tell that a body is missing. -/
structure Service.IsUsable (s : Service) (now : Instant) : Prop where
  rounds : Password.minCost ≤ s.rounds ∧ s.rounds ≤ Password.maxCost
  plain : (Json.read s.suite.nesting.secret .written s.authority.secret).isOk = false
  reply : 3 ≤ s.suite.nesting.reply
  issue : s.CanIssue now
  reset : (s.backing.deadline? now s.lifetimes.reset).isSome

def EndsWell (Q : α → Prop) : Except Failure α → Prop
  | .ok a => Q a
  | .error (.fault _) => True
  | .error (.broken _) => False

def Note.isAudit : Note → Bool
  | .audit .. => true
  | _ => false

/-- The second world comes after the first one at the same time. What was logged in between are no
notes on answered requests. -/
structure World.Leads (w v : World) : Prop where
  now : v.now = w.now
  outages : v.outages = w.outages
  log : ∃ ns, v.log = w.log ++ ns ∧ ns.filter Note.isAudit = []

theorem World.Leads.refl (w : World) : w.Leads w :=
  ⟨rfl, rfl, [], (List.append_nil _).symm, rfl⟩

theorem leads_afterId (w : World) : w.Leads w.afterId :=
  ⟨rfl, rfl, [], (List.append_nil _).symm, rfl⟩

theorem World.Leads.trans (h : w.Leads v) (k : v.Leads u) : w.Leads u := by
  obtain ⟨ns, hns, hnone⟩ := h.log
  obtain ⟨ms, hms, hnone'⟩ := k.log
  refine ⟨k.now.trans h.now, k.outages.trans h.outages, ns ++ ms, ?_, ?_⟩
  · rw [hms, hns, List.append_assoc]
  · rw [List.filter_append, hnone, hnone', List.append_nil]

/-- A call that does not break: dates are in the calendar, and the note is none on an answered
request. -/
def Call.IsSafe (s : Service) (now : Instant) : Call → Prop
  | .issueToken authority _ ttl _ => authority = s.authority ∧
      Time.isInstant (now + ttl) = true ∧ Time.isInstant (Token.expiry now ttl) = true
  | .putSession _ _ ttl => (s.backing.deadline? now ttl).isSome
  | .note n => n.isAudit = false
  | _ => True

def Call.Expects (now : Instant) : (c : Call) → c.Answer → Prop
  | .now, t => t = now
  | .issueToken _ _ ttl _, r => ∃ token, r = .ok ⟨token, Token.expiry now ttl⟩
  | .createUser _, r => EndsWell (fun _ => True) r
  | .findByEmail _, r => EndsWell (fun _ => True) r
  | .findById _, r => EndsWell (fun _ => True) r
  | .updatePassword .., r => EndsWell (fun _ => True) r
  | .updateLastLogin .., r => EndsWell (fun _ => True) r
  | .putSession .., r => EndsWell (fun _ => True) r
  | .getSession _, r => EndsWell (fun _ => True) r
  | .popSession _, r => EndsWell (fun _ => True) r
  | .deleteSession _, r => EndsWell (fun _ => True) r
  | _, _ => True

/-- A step on a store that ends well and logs no answered request. -/
structure Outcome.IsSafe {σ : Type} (x : Outcome σ α) : Prop where
  answer : EndsWell (fun _ => True) x.answer
  notes : x.notes.filter Note.isAudit = []

theorem Outcome.IsSafe.onUsers {x : Outcome Users α} (h : x.IsSafe) (w : World) :
    w.Leads (w.onUsers x).1 ∧ EndsWell (fun _ => True) (w.onUsers x).2 :=
  ⟨⟨rfl, rfl, x.notes, rfl, h.notes⟩, h.answer⟩

theorem Outcome.IsSafe.onSessions {x : Outcome Session.Entries α} (h : x.IsSafe) (w : World) :
    w.Leads (w.onSessions x).1 ∧ EndsWell (fun _ => True) (w.onSessions x).2 :=
  ⟨⟨rfl, rfl, x.notes, rfl, h.notes⟩, h.answer⟩

theorem update_safe (outages : Users.Outages) (t : Instant) (columns : List String)
    (change : Option (User → User)) (id : Option String) (us : Users) :
    (Users.update outages t columns change id us).IsSafe := by
  unfold Users.update
  split
  · exact ⟨trivial, rfl⟩
  · split
    · exact ⟨trivial, rfl⟩
    · split <;> exact ⟨trivial, rfl⟩

theorem create_safe {outages : Users.Outages} (ho : outages.select = false) (system : Instant)
    (id : String) (d : Draft) (us : Users) : (Users.create outages system id d us).IsSafe := by
  unfold Users.create
  split
  · exact ⟨trivial, rfl⟩
  · split
    · exact ⟨trivial, rfl⟩
    · rw [ho]
      split <;> exact ⟨trivial, rfl⟩

theorem answer_expected (hs : s.CanIssue w.now) (ho : w.outages.users = .none) {c : Call}
    (hc : c.IsSafe s w.now) :
    w.Leads (w.answer s c).1 ∧ c.Expects w.now (w.answer s c).2 := by
  cases c with
  | now => exact ⟨.refl w, rfl⟩
  | issueToken authority subject ttl type =>
    obtain ⟨rfl, hend, hexpiry⟩ := hc
    obtain ⟨token, htoken⟩ : ∃ token, w.issueToken s s.authority subject ttl type =
        (w.afterId, .ok ⟨token, Token.expiry w.now ttl⟩) :=
      issueToken_ok hs.algorithm hs.key hend hexpiry
    simp only [answer, htoken]
    exact ⟨leads_afterId w, token, rfl⟩
  | createUser d =>
    have hselect : w.outages.users.select = false := by
      rw [ho]
      rfl
    exact ((create_safe hselect _ _ d w.users).onUsers w.afterId).imp_left (leads_afterId w).trans
  | findByEmail email =>
    have hfind : (Users.findByEmail w.outages.users email w.users).IsSafe := by
      unfold Users.findByEmail
      split <;> exact ⟨trivial, rfl⟩
    exact hfind.onUsers w
  | findById id =>
    have hfind : (Users.findById w.outages.users id w.users).IsSafe := by
      unfold Users.findById
      split <;> exact ⟨trivial, rfl⟩
    exact hfind.onUsers w
  | updatePassword id hash => exact (update_safe _ _ _ _ id _).onUsers w
  | updateLastLogin id at? => exact (update_safe _ _ _ _ id _).onUsers w
  | putSession key value ttl =>
    have hput :
        (Session.put s.backing w.outages.sessions w.now key value ttl w.sessions).IsSafe := by
      unfold Session.put
      split
      · exact ⟨trivial, rfl⟩
      · obtain ⟨t, ht⟩ := Option.isSome_iff_exists.mp hc
        rw [ht]
        exact ⟨trivial, rfl⟩
    exact hput.onSessions w
  | getSession key =>
    have hget : (Session.get s.backing w.outages.sessions w.now key w.sessions).IsSafe := by
      unfold Session.get
      split <;> exact ⟨trivial, rfl⟩
    exact hget.onSessions w
  | popSession key =>
    have hpop : (Session.pop s.backing w.outages.sessions w.now key w.sessions).IsSafe := by
      unfold Session.pop
      split <;> exact ⟨trivial, rfl⟩
    exact hpop.onSessions w
  | deleteSession key =>
    have hdelete : (Session.delete s.backing w.outages.sessions key w.sessions).IsSafe := by
      unfold Session.delete
      split <;> exact ⟨trivial, rfl⟩
    exact hdelete.onSessions w
  | note n =>
    refine ⟨⟨rfl, rfl, [n], rfl, ?_⟩, trivial⟩
    rw [List.filter_cons_of_neg (by rw [hc]; decide), List.filter_nil]
  | systemTime | drawSecret | drawSalt | recallDummy | keepDummy | checkPassword | pingSessions
  | probeDatabase => exact ⟨⟨rfl, rfl, [], (List.append_nil _).symm, rfl⟩, trivial⟩

namespace Plan

/-- If every call is answered as expected, the plan makes safe calls only and ends well. -/
def Ensures (s : Service) (now : Instant) (Q : α → Prop) : Plan α → Prop
  | .done r => EndsWell Q r
  | .call c next => c.IsSafe s now ∧ ∀ a, c.Expects now a → (next a).Ensures s now Q

variable {Q : α → Prop} {R : β → Prop}

theorem ensures_pure {a : α} (h : Q a) : (pure a : Plan α).Ensures s now Q := h

theorem ensures_fail (f : Fault) : (fail f : Plan α).Ensures s now Q := trivial

theorem ensures_ofExcept {r : Except Failure α} (h : EndsWell Q r) :
    (ofExcept r).Ensures s now Q := h

theorem ensures_bind {p : Plan α} {f : α → Plan β} (hp : p.Ensures s now Q)
    (hf : ∀ a, Q a → (f a).Ensures s now R) : (p >>= f).Ensures s now R := by
  rw [bind_eq]
  induction p with
  | done r =>
    rcases r with (fault | b) | a
    · trivial
    · exact hp
    · exact hf a hp
  | call c next ih => exact ⟨hp.1, fun r hr => ih r (hp.2 r hr)⟩

theorem ensures_call {c : Call} {f : c.Answer → Plan β} (hc : c.IsSafe s now)
    (hf : ∀ a, c.Expects now a → (f a).Ensures s now R) : (ask c >>= f).Ensures s now R :=
  ⟨hc, hf⟩

theorem ensures_log {n : Note} (h : n.isAudit = false) :
    (log n).Ensures s now fun _ => True :=
  ⟨h, fun _ _ => trivial⟩

theorem ensures_attempt {p : Plan α} (hp : p.Ensures s now Q) :
    p.attempt.Ensures s now (EndsWell Q) := by
  induction p with
  | done r => exact hp
  | call c next ih => exact ⟨hp.1, fun r hr => ih r (hp.2 r hr)⟩

theorem ensures_valid {r : Except Validation.Problem α} (h : ∀ a, r = .ok a → Q a) :
    (valid r).Ensures s now Q := by
  cases r with
  | ok a => exact h a rfl
  | error problem => trivial

/-- A plan that makes safe calls only is carried out without a breakage. -/
theorem run_ensures (hs : s.CanIssue w.now) (ho : w.outages.users = .none) {p : Plan α}
    (hp : p.Ensures s w.now Q) : w.Leads (p.run s w).1 ∧ EndsWell Q (p.run s w).2 := by
  induction p generalizing w with
  | done r => exact ⟨.refl w, hp⟩
  | call c next ih =>
    obtain ⟨hleads, hanswer⟩ := answer_expected hs ho hp.1
    obtain ⟨hrest, hend⟩ := ih _ (hleads.now ▸ hs) (hleads.outages ▸ ho)
      (hleads.now ▸ hp.2 _ hanswer)
    exact ⟨hleads.trans hrest, hend⟩

end Plan

open Plan

theorem newPassword_ensures (p : String) :
    (Service.newPassword (some (LooseText.ofString p))).Ensures s now
      fun q => Password.isTooLong q = false := by
  refine ensures_bind (Q := fun t => t = LooseText.ofString p) (ensures_valid ?_) ?_
  · intro t ht
    exact (Option.some.inj (field_of_passwordText ht)).symm
  · rintro _ rfl
    rw [encodable, LooseText.string?_ofString]
    refine ensures_valid fun q hq => ?_
    rw [eq_of_strongPassword hq]
    exact short_of_strongPassword hq

theorem hash_ensures (rounds : Password.minCost ≤ s.rounds ∧ s.rounds ≤ Password.maxCost)
    {password : String} (short : Password.isTooLong password = false) :
    (s.hash password).Ensures s now fun _ => True := by
  rw [Service.hash, Password.costOfRounds_ok rounds]
  refine ensures_call trivial fun salt _ => ?_
  rw [short]
  exact ensures_pure trivial

theorem checkPassword_ensures (stored p : String) :
    (Service.checkPassword stored (LooseText.ofString p)).Ensures s now fun _ => True := by
  rw [Service.checkPassword, LooseText.string?_ofString]
  exact ⟨trivial, fun _ _ => trivial⟩

theorem issueToken_ensures {ttl : Duration} (hend : Time.isInstant (now + ttl) = true)
    (hexpiry : Time.isInstant (Token.expiry now ttl) = true) (subject type : String) :
    (s.issueToken subject ttl type).Ensures s now
      fun issued => issued.expiresAt = Token.expiry now ttl := by
  refine ensures_call ⟨rfl, hend, hexpiry⟩ ?_
  rintro _ ⟨token, rfl⟩
  exact ensures_pure rfl

theorem signUp_ensures (h : s.IsUsable now) (email : Option LooseText) (password : String)
    (firstName lastName : Option LooseText) :
    (s.signUp email (some (LooseText.ofString password)) firstName lastName).Ensures s now
      fun _ => True := by
  have valid_ensures : ∀ {γ : Type} (r : Except Validation.Problem γ),
      (valid r).Ensures s now fun _ => True := fun _ => ensures_valid fun _ _ => trivial
  refine ensures_bind (valid_ensures _) fun _ _ => ?_
  refine ensures_bind (newPassword_ensures password) fun p hshort => ?_
  refine ensures_bind (valid_ensures _) fun _ _ => ?_
  refine ensures_bind (valid_ensures _) fun _ _ => ?_
  refine ensures_bind (hash_ensures h.rounds hshort) fun _ _ => ?_
  refine ensures_call trivial fun created hcreated => ?_
  refine ensures_bind (ensures_ofExcept hcreated) fun user _ => ?_
  exact ensures_bind (ensures_log rfl) fun _ _ => ensures_pure trivial

theorem dummyHash_ensures (h : s.IsUsable now) : s.dummyHash.Ensures s now fun _ => True := by
  refine ensures_call trivial fun known _ => ?_
  cases known with
  | some hash => exact ensures_pure trivial
  | none =>
    refine ensures_call trivial fun secret _ => ?_
    refine ensures_bind (hash_ensures h.rounds (dummySecret_short secret)) fun hash _ => ?_
    exact ensures_call trivial fun _ _ => ensures_pure trivial

theorem startSession_ensures (h : s.CanIssue now) (user : User) :
    (s.startSession user).Ensures s now fun _ => True := by
  refine ensures_bind (issueToken_ensures h.accessEnd h.accessExpiry _ _) fun access _ => ?_
  refine ensures_bind (issueToken_ensures h.refreshEnd h.refreshExpiry _ _) fun refresh hr => ?_
  refine ensures_call trivial ?_
  rintro _ rfl
  refine ensures_call ?_ fun registered hregistered => ?_
  · rw [Call.IsSafe, hr]
    exact h.sessionEnd
  refine ensures_bind (ensures_ofExcept hregistered) fun _ _ => ?_
  refine ensures_call trivial fun recorded hrecorded => ?_
  rcases recorded with (f | b) | found
  · exact ensures_bind (ensures_log rfl) fun _ _ => ensures_pure trivial
  · exact hrecorded.elim
  · exact ensures_pure trivial

theorem login_ensures (h : s.IsUsable now) (email : Option LooseText) (password : String) :
    (s.login email (some (LooseText.ofString password))).Ensures s now fun _ => True := by
  refine ensures_bind (ensures_valid (Q := fun _ => True) fun _ _ => trivial) fun _ _ => ?_
  refine ensures_bind (Q := fun t => t = LooseText.ofString password) (ensures_valid ?_) ?_
  · intro t ht
    exact (Option.some.inj (field_of_presentedPassword ht)).symm
  rintro _ rfl
  refine ensures_call trivial fun found hfound => ?_
  refine ensures_bind (ensures_ofExcept hfound) fun row _ => ?_
  cases row with
  | none =>
    refine ensures_bind (dummyHash_ensures h) fun dummy _ => ?_
    exact ensures_bind (checkPassword_ensures dummy password) fun _ _ => ensures_fail _
  | some user =>
    refine ensures_bind (checkPassword_ensures user.passwordHash password) fun compared _ => ?_
    cases compared with
    | error corruption => exact ensures_bind (ensures_log rfl) fun _ _ => ensures_fail _
    | ok matched =>
      dsimp only
      split
      · exact startSession_ensures h.issue user
      · exact ensures_fail _

theorem forgotPassword_ensures (h : s.IsUsable now) (email : Option LooseText) :
    (s.forgotPassword email).Ensures s now fun _ => True := by
  refine ensures_bind (ensures_valid (Q := fun _ => True) fun _ _ => trivial) fun _ _ => ?_
  refine ensures_call trivial fun found hfound => ?_
  refine ensures_bind (ensures_ofExcept hfound) fun row _ => ?_
  cases row with
  | none => exact ensures_pure trivial
  | some user =>
    refine ensures_bind (Q := fun _ => True) ?_ fun _ _ => ensures_pure trivial
    refine ensures_call trivial fun secret _ => ?_
    refine ensures_call h.reset fun registered hregistered => ?_
    exact ensures_bind (ensures_ofExcept hregistered) fun _ _ => ensures_log rfl

theorem resetPassword_ensures (h : s.IsUsable now) (token : Option LooseText) (password : String) :
    (s.resetPassword token (some (LooseText.ofString password))).Ensures s now fun _ => True := by
  refine ensures_bind (ensures_valid (Q := fun _ => True) fun _ _ => trivial) fun _ _ => ?_
  refine ensures_bind (newPassword_ensures password) fun p hshort => ?_
  refine ensures_call trivial fun popped hpopped => ?_
  refine ensures_bind (ensures_ofExcept hpopped) fun owner _ => ?_
  cases owner with
  | none => exact ensures_fail _
  | some id =>
    refine ensures_bind (hash_ensures h.rounds hshort) fun _ _ => ?_
    refine ensures_call trivial fun updated hupdated => ?_
    refine ensures_bind (ensures_ofExcept hupdated) fun found _ => ?_
    split
    · refine ensures_call trivial fun deleted hdeleted => ?_
      refine ensures_bind (ensures_ofExcept hdeleted) fun _ _ => ?_
      exact ensures_bind (ensures_log rfl) fun _ _ => ensures_pure trivial
    · exact ensures_fail _

theorem validateToken_ensures {field : Option LooseText} (h : ∀ token system b,
      Validation.token field = .ok token →
      Token.verify s.suite s.authority now system (some Token.accessType) token ≠
        .error (.broken b)) :
    (s.validateToken field).Ensures s now fun _ => True := by
  unfold Service.validateToken
  cases htoken : Validation.token field with
  | error problem => exact ensures_fail _
  | ok token =>
    refine ensures_call trivial fun system _ => ?_
    refine ensures_call trivial ?_
    rintro _ rfl
    split
    · exact ensures_fail _
    · next b hbroken => exact (h token system b htoken hbroken).elim
    · split
      · exact ensures_bind (ensures_log rfl) fun _ _ => ensures_fail _
      · refine ensures_call trivial fun found hfound => ?_
        refine ensures_bind (ensures_ofExcept hfound) fun row _ => ?_
        split
        · exact ensures_fail _
        · split
          · exact ensures_pure trivial
          · exact ensures_fail _

theorem validateToken_overdeep {field : Option LooseText} {token : LooseText}
    (htoken : Validation.token field = .ok token) (h : Token.Overdeep s.suite.nesting token) :
    (s.validateToken field).run s w = (w, .error (.broken .tooDeep)) := by
  unfold Service.validateToken
  simp only [htoken]
  rw [Plan.run_bind_ask, Plan.run_bind_ask]
  simp only [answer, Token.verify_overdeep s.suite s.authority w.now w.system _ h]
  rfl

/-- The token has the header and the payload of one that the service issued, in whatever state. -/
def Service.HasIssued (s : Service) (token : LooseText) : Prop :=
  ∃ (w : World) (subject : String) (ttl : Duration) (type : String) (issued : Token.Issued),
    Time.isInstant w.now = true ∧
    (w.issueToken s s.authority subject ttl type).2 = .ok issued ∧
    Token.SameSigned token (LooseText.ofString issued.token)

namespace Token

theorem countable_floorSeconds {t : Instant} (ht : Time.isInstant t = true) :
    Time.ofSeconds (Time.floorSeconds t) ≠ .error .uncountable := by
  have hmoderate := Time.moderate_of_isInstant ht
  rw [Time.isInstant, Bool.and_eq_true] at ht
  have hmin : -62135596800 * Time.second ≤ t := of_decide_eq_true ht.1
  have hend : t ≤ 253402300799 * Time.second + 999999 := of_decide_eq_true ht.2
  have hmax : t ≤ 253402300800 * Time.second := Int.le_trans hend (by decide)
  have hlow : -62135596800 ≤ Time.floorSeconds t := Time.le_floorSeconds hmoderate hmin
  have hhigh : Time.floorSeconds t ≤ 253402300800 := Time.floorSeconds_le hmoderate hmax
  intro h
  rw [Time.ofSeconds, if_neg (by omega), if_neg (by omega)] at h
  split at h <;> cases h

theorem issued_unbroken {issuer : String} {system : Instant} {b : Breakage} {c : Contents}
    (hissue : Time.ofSeconds c.issuedAt ≠ .error .uncountable)
    (hexpiry : Time.ofSeconds c.expiresAt ≠ .error .uncountable) :
    ¬ Breaks issuer system c.members b := by
  have hiat : c.members.get? "iat" = some (.int c.issuedAt) := by
    rw [get?_members]
    rfl
  have hexp : c.members.get? "exp" = some (.int c.expiresAt) := by
    rw [get?_members]
    rfl
  intro h
  cases h with
  | issuedAt _ h =>
    obtain ⟨v, e, hv, he, -⟩ := h
    cases hiat.symm.trans hv
    cases he
  | notBefore _ _ h =>
    obtain ⟨v, e, hv, -⟩ := h
    rw [get?_members] at hv
    cases hv
  | issueDate _ _ h =>
    obtain ⟨v, n, hv, hn, hfar⟩ := h
    cases hiat.symm.trans hv
    cases hn
    exact hissue hfar
  | expiryDate _ _ _ _ h =>
    obtain ⟨v, n, hv, hn, hfar⟩ := h
    cases hexp.symm.trans hv
    cases hn
    exact hexpiry hfar

/-- If the token is not nested too deeply and was issued in case it is authentic, then its check does
not break. -/
theorem verify_unbroken (h : s.IsUsable now) {system : Instant} {expected : Option String}
    {token : LooseText} (hdeep : ¬ Overdeep s.suite.nesting token)
    (issued : ∀ d, Decodes s.suite.nesting token d → Authentic s.suite s.authority d →
      s.HasIssued token)
    (b : Breakage) : verify s.suite s.authority now system expected token ≠ .error (.broken b) := by
  obtain ⟨a, ha⟩ := h.issue.algorithm
  obtain ⟨key, hkey⟩ := h.issue.key
  rw [Ne, verify_broken_iff ha (checkingKeys_plain h.plain) (usable_of_key hkey)]
  rintro (⟨-, hover⟩ | ⟨d, hd, hauthentic, hbreaks⟩)
  · exact hdeep hover
  obtain ⟨w, subject, ttl, type, made, calendar, hmade, hsame⟩ := issued d hd hauthentic
  obtain ⟨-, -, hsign, hexpiry⟩ := issueToken_ok_iff.mp (Prod.ext rfl hmade)
  have hread := payload_of_signed hd (hsame.signed hd hsign)
  rw [read?_contents] at hread
  split at hread
  · have hpayload := Json.object.inj (Option.some.inj hread)
    rw [← hpayload] at hbreaks
    refine issued_unbroken (countable_floorSeconds calendar) ?_ hbreaks
    rw [issuedContents, hexpiry]
    exact nofun
  · cases hread

end Token

end Accounts
