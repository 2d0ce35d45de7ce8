import Accounts.Proofs.Account.Credentials
import Accounts.Proofs.Account.Integrity
import Accounts.Proofs.Text.Trimming

/-! # Normal forms of fields

An accepted email, name or token is in normal form: it has no blanks around it, the same check takes
it as it is, and blanks that are added to it make no difference. What is stored of a registration is
in that form, so an account is found under every spelling of its email.
-/
namespace Accounts

open World

namespace Validation

variable {α : Type} {check : Option LooseText → Except Problem α} {text : α → LooseText}

/-- What a check answers is in normal form, and it depends on the trimmed text alone. -/
structure NormalisesOnce (check : Option LooseText → Except Problem α) (text : α → LooseText) :
    Prop where
  bare : ∀ {field y}, check field = .ok y → (text y).IsBare
  fixed : ∀ {field y}, check field = .ok y → check (some (text y)) = .ok y
  padded : ∀ {field y}, check field = .ok y → ∀ front back : List Point,
    (∀ x ∈ front, x.isBlank = true) → (∀ x ∈ back, x.isBlank = true) →
    check (some ((text y).padded front back)) = .ok y
  alike : ∀ {field field' y y'}, check field = .ok y → check field' = .ok y' →
    (y = y' ↔ (field.getD "").trim = (field'.getD "").trim)

theorem NormalisesOnce.of_trim
    (congr : ∀ {field field'}, (field.getD "").trim = (field'.getD "").trim →
      check field = check field')
    (answer : ∀ {field y}, check field = .ok y → (field.getD "").trim = text y) :
    NormalisesOnce check text where
  bare := by
    intro field y h
    rw [← answer h]
    exact LooseText.trim_bare _
  fixed := by
    intro field y h
    rw [← h]
    apply congr
    rw [Option.getD_some, ← answer h, LooseText.trim_trim]
  padded := by
    intro field y h front back hfront hback
    rw [← h]
    apply congr
    rw [Option.getD_some, LooseText.trim_padded hfront hback, ← answer h, LooseText.trim_trim]
  alike := by
    intro field field' y y' h h'
    constructor
    · rintro rfl
      rw [answer h, answer h']
    · intro htrim
      exact Except.ok.inj (h.symm.trans ((congr htrim).trans h'))

theorem email_normalises : NormalisesOnce email LooseText.ofString := by
  apply NormalisesOnce.of_trim
  · intro field field' h
    rw [email, email, h]
  · intro field y h
    obtain ⟨t, rfl, htrim⟩ := field_of_email h
    exact htrim

theorem name_normalises (word : String) : NormalisesOnce (name word) LooseText.ofString := by
  apply NormalisesOnce.of_trim
  · intro field field' h
    rw [name, name, h]
  · exact trim_of_name

theorem token_normalises : NormalisesOnce token id := by
  apply NormalisesOnce.of_trim
  · intro field field' h
    rw [token, token, h]
  · intro field y h
    obtain ⟨t, rfl, htrim⟩ := field_of_token h
    exact htrim

end Validation

variable {s : Service} {w : World} {u v : User} {e : Event}

/-- The email and the names of a row are accepted as they are. -/
structure User.IsNormal (u : User) : Prop where
  email : Validation.email (some u.email) = .ok u.email
  firstName : Validation.name "first_name" (some u.firstName) = .ok u.firstName
  lastName : Validation.name "last_name" (some u.lastName) = .ok u.lastName

theorem RowChange.normal (h : RowChange s w v) (rows : ∀ u ∈ w.users, u.IsNormal) :
    v.IsNormal := by
  cases h with
  | none hv => exact rows v hv
  | loggedIn u hu hv =>
    rw [hv]
    exact { rows u hu with }
  | reset u p hash hu hhash hv =>
    rw [hv]
    exact { rows u hu with }
  | added email firstName lastName p hid hemail hfirst hlast =>
    exact ⟨email_of_accepted hemail, name_of_accepted hfirst, name_of_accepted hlast⟩

theorem normal_next (hk : w.users.Keyed) (rows : ∀ u ∈ w.users, u.IsNormal) (e : Event)
    (hv : v ∈ (w.next s e).users) : v.IsNormal := by
  by_cases he : e.IsHandsOff
  · exact (row_change hk he hv).normal rows
  · cases e with
    | activate email active =>
      obtain ⟨u, hu, rfl⟩ := List.mem_map.mp hv
      split
      · exact { rows u hu with }
      · exact rows u hu
    | operation | advance | setSystem | outages => exact absurd trivial he

theorem normal_after (s : Service) (start : Instant) (past : List Event) :
    ∀ u ∈ ((World.initial start).after s past).users, u.IsNormal := by
  induction past using run_induction with
  | start => exact fun u hu => nomatch hu
  | step past e ih =>
    intro v hv
    rw [after_snoc] at hv
    exact normal_next (keyed_after s start past) ih e hv

theorem identity_lasts (hk : w.users.Keyed) (later : List Event) (hu : u ∈ w.users) :
    ∃ x ∈ (w.after s later).users, Users.SameIdentity u x := by
  induction later generalizing w u with
  | nil => exact ⟨u, hu, .refl u⟩
  | cons e later ih =>
    have hnext := next_evolves s hk e
    obtain ⟨x, hx, same⟩ := Users.row_survives hnext hu
    obtain ⟨y, hy, same'⟩ := ih (hk.evolves hnext) hx
    exact ⟨y, hy, same.trans same'⟩

/-- The operation looks up the email of a row and is given the row. -/
def Operation.Finds (s : Service) (op : Operation) (w : World) (u : User) : Prop :=
  ∃ m ∈ (op.plan s).trace s w, m.call = .findByEmail (some u.email) ∧
    (m.world.answer s (.findByEmail (some u.email))).2 = .ok (some u)

/-- Under this spelling of the email, the row is found by a request for a reset and by a login with
any password. -/
structure World.Knows (s : Service) (w : World) (email : LooseText) (u : User) : Prop where
  request : (Operation.forgotPassword (some email)).Finds s w u
  login : ∀ p : LooseText, p.isEmpty = false → (Operation.login (some email) (some p)).Finds s w u

variable {email : LooseText}

theorem answer_findByEmail_of_row (hk : w.users.Keyed) (hu : u ∈ w.users)
    (ho : w.outages.users.select = false) :
    (w.answer s (.findByEmail (some u.email))).2 = .ok (some u) := by
  rw [answer_findByEmail, ho, Option.bind_some, hk.withEmail? hu]
  rfl

theorem World.Knows.of_row (hk : w.users.Keyed) (hu : u ∈ w.users)
    (ho : w.outages.users.select = false) (he : Validation.email (some email) = .ok u.email) :
    w.Knows s email u := by
  have hanswer := answer_findByEmail_of_row (s := s) hk hu ho
  constructor
  · refine ⟨⟨w, .findByEmail (some u.email)⟩, ?_, rfl, hanswer⟩
    rw [Operation.plan, Plan.trace_mapResult]
    simp only [Service.forgotPassword, he, Plan.valid, Plan.trace_bind_pure]
    rw [Plan.trace_findByEmail _ ho]
    exact .head _
  · intro p hp
    have hpresented : Validation.presentedPassword (some p) = .ok p := by
      rw [Validation.presentedPassword, Option.getD_some, hp]
      rfl
    refine ⟨⟨w, .findByEmail (some u.email)⟩, ?_, rfl, hanswer⟩
    rw [Operation.plan, Plan.trace_mapResult]
    simp only [Service.login, he, hpresented, Plan.valid, Plan.trace_bind_pure]
    rw [Plan.trace_findByEmail _ ho]
    exact .head _

theorem row_of_signUp {field p f l : Option LooseText} {r : SignedUp}
    (h : (s.perform (.signUp field p f l) w).2 = .ok (.signedUp r)) :
    ∃ u ∈ (w.next s (.operation (.signUp field p f l))).users,
      Validation.email field = .ok u.email ∧ u.toPublic = r.user := by
  obtain ⟨result, hresult, hr⟩ := perform_signUp s field p f l w
  rw [h] at hr
  cases hresult with
  | refused e hq => cases hr
  | created p user r' he hf hp hfirst hlast hh hid ha hc hu hl ht hn ho hs hus hend =>
    refine ⟨user, ?_, he, ?_⟩
    · rw [next, hus]
      exact List.mem_append_right _ (.head _)
    · rcases hend with ⟨-, rfl⟩ | ⟨-, rfl⟩
      · cases hr
        rfl
      · cases hr

theorem knows_after_signUp {p f l : Option LooseText} {r : SignedUp} {other : LooseText}
    (hk : w.users.Keyed)
    (h : (s.perform (.signUp (some email) p f l) w).2 = .ok (.signedUp r)) (later : List Event)
    (ho : ((w.next s (.operation (.signUp (some email) p f l))).after s later).outages.users.select =
      false) (hother : other.trim = email.trim) :
    ∃ u, u.toPublic = r.user ∧
      ((w.next s (.operation (.signUp (some email) p f l))).after s later).Knows s other u := by
  obtain ⟨u, hu, he, hpublic⟩ := row_of_signUp h
  have hnext : (w.next s (.operation (.signUp (some email) p f l))).users.Keyed :=
    hk.evolves (next_evolves s hk _)
  obtain ⟨x, hx, same⟩ := identity_lasts (s := s) hnext later hu
  refine ⟨x, same.toPublic.trans hpublic, .of_row (hnext.run later) hx ho ?_⟩
  rw [email_congr hother, he, same.email]

theorem User.IsNormal.email_of_trim (h : u.IsNormal)
    (htrim : email.trim = LooseText.ofString u.email) :
    Validation.email (some email) = .ok u.email := by
  rw [← h.email]
  apply email_congr
  rw [← htrim, LooseText.trim_trim]

/-- Emails, names and tokens are normalised once. The rows of every run hold normal forms and are
found under every spelling of their emails, as long as rows can be selected. So an account that was
registered under one spelling is found under every other one at any later time. -/
theorem fields_normalise_once (s : Service) (start : Instant) (past : List Event) :
    Validation.NormalisesOnce Validation.email LooseText.ofString ∧
    (∀ word, Validation.NormalisesOnce (Validation.name word) LooseText.ofString) ∧
    Validation.NormalisesOnce Validation.token id ∧
    (∀ w, w = (World.initial start).after s past → ∀ u ∈ w.users, u.IsNormal ∧
      (w.outages.users.select = false → ∀ email : LooseText,
        email.trim = LooseText.ofString u.email → w.Knows s email u)) ∧
    ∀ (email other : LooseText) (p f l : Option LooseText) (r : SignedUp) (later : List Event),
      (s.perform (.signUp (some email) p f l) ((World.initial start).after s past)).2 =
        .ok (.signedUp r) →
      other.trim = email.trim →
      ∀ w, w = (World.initial start).after s
          (past ++ .operation (.signUp (some email) p f l) :: later) →
        w.outages.users.select = false → ∃ u, u.toPublic = r.user ∧ w.Knows s other u := by
  have hk := keyed_after s start past
  refine ⟨Validation.email_normalises, Validation.name_normalises, Validation.token_normalises,
    ?_, ?_⟩
  · rintro _ rfl u hu
    have hnormal := normal_after s start past u hu
    exact ⟨hnormal, fun ho email htrim => .of_row hk hu ho (hnormal.email_of_trim htrim)⟩
  · rintro email other p f l r later h hother _ rfl ho
    rw [after_append] at ho ⊢
    exact knows_after_signUp hk h later ho hother

def annsPaddedEmail : LooseText := LooseText.ofString "\u001c\u0085ann@example.org\u3000\u001f"

/-- Ann registered without blanks, and a day later she is known under the padded email. -/
theorem ann_known_with_blanks :
    Validation.email (some annsPaddedEmail) = .ok "ann@example.org" ∧
    ∃ u, u.email = "ann@example.org" ∧
      ((World.withAnn .small 0).after .small [.advance (24 * Time.hour)]).Knows .small
        annsPaddedEmail u := by
  have padded : annsPaddedEmail.trim = (LooseText.ofString "ann@example.org").trim := by
    decide
  obtain ⟨r, hr, hemail⟩ : ∃ r, (Service.small.perform (.signUp (some "ann@example.org")
      (some "first password 1") (some "Ann") (some "Lee")) (World.initial 0)).2 =
        .ok (.signedUp r) ∧ r.user.email = "ann@example.org" :=
    ⟨_, rfl, rfl⟩
  obtain ⟨-, -, -, -, knows⟩ := fields_normalise_once .small 0 []
  obtain ⟨u, hpublic, hknows⟩ := knows (LooseText.ofString "ann@example.org") annsPaddedEmail _ _ _ r
    [.advance (24 * Time.hour)] hr padded _ rfl rfl
  refine ⟨rfl, u, ?_, hknows⟩
  rw [← hemail, ← hpublic]
  rfl

end Accounts
