import Accounts.Proofs.Account.Changes
import Accounts.Proofs.Session.ResetTokens

/-! # The last password set

When no command fails and nobody changes accounts by hand, every user is active, has the public
fields that the registration answered, and a hash of the password that was set last.
-/
namespace Accounts

open World

variable {s : Service} {w : World} {u v : User}

/-- The event is an operation, or a clock moves. -/
def Event.IsPlain : Event → Prop
  | .operation _ | .advance _ | .setSystem _ => True
  | _ => False

instance : DecidablePred Event.IsPlain
  | .operation _ | .advance _ | .setSystem _ => .isTrue trivial
  | .outages _ | .activate .. => .isFalse id

/-- The step succeeded in setting the password of the user with an id: it registered the user, or it
is a reset with a token that was put in the store for the id. -/
inductive Step.Sets (s : Service) (x : Step) (id p : String) : Prop where
  | signUp (e f l r) : x.event = .operation (.signUp e (some (LooseText.ofString p)) f l) →
      (s.perform (.signUp e (some (LooseText.ofString p)) f l) x.world).2 = .ok (.signedUp r) →
      r.user.id = id → x.Sets s id p
  | reset (t r) : x.event = .operation (.resetPassword (some t) (some (LooseText.ofString p))) →
      (s.perform (.resetPassword (some t) (some (LooseText.ofString p))) x.world).2 =
        .ok (.status r) →
      (∃ m ∈ x.moments s, m.Pops s (Session.resetKey t.trim) id) → x.Sets s id p

theorem run_outages {α : Type} (s : Service) (p : Plan α) (w : World) :
    (p.run s w).1.outages = w.outages := by
  induction p generalizing w with
  | done r => rfl
  | call c next ih =>
    rw [Plan.run, ih, answer_outages]

theorem next_outages {e : Event} (he : e.IsPlain) : (w.next s e).outages = w.outages := by
  cases e with
  | operation op => exact run_outages s _ w
  | advance d =>
    simp only [next, advance]
    split <;> rfl
  | setSystem t => rfl
  | outages o => exact he.elim
  | activate email active => exact he.elim

theorem Step.Sets.hash {e : Event} {id p : String} (h : Step.Sets s ⟨w, e⟩ id p) :
    Validation.password (some p) = .ok p ∧
      ∃ v ∈ (w.next s e).users, v.id = id ∧ ((s.hash p).run s w).2 = .ok v.passwordHash := by
  cases h with
  | signUp email first last a he hok hid =>
    cases he
    obtain ⟨r, h, hr⟩ := perform_signUp s email (some (LooseText.ofString p)) first last w
    cases h with
    | refused e hq =>
      rw [hr] at hok
      cases hok
    | created q user r he hf hp hfirst hlast hh hfresh ha hc hu hl ht hn ho hs hus hrow =>
      cases LooseText.ofString_injective (Option.some.inj hf)
      rcases hrow with ⟨-, rfl⟩ | ⟨-, rfl⟩
      · cases hr.symm.trans hok
        refine ⟨hp, user, ?_, hid, hh⟩
        rw [next, hus]
        exact List.mem_append_right _ (.head _)
      · cases hr.symm.trans hok
  | reset t a he hok hm =>
    cases he
    obtain ⟨m, hm, hpop⟩ := hm
    rw [moments_resetPassword] at hm
    obtain ⟨⟨k, hk, hkey⟩, hlive, -⟩ := popped_of_reset hm hpop
    obtain ⟨r, h, hr⟩ := perform_resetPassword s (some t) (some (LooseText.ofString p)) w
    cases h with
    | refused e hq =>
      rw [hr] at hok
      cases hok
    | spent k e hk hn hus =>
      rw [hr] at hok
      cases hok
    | changed k' q id' hash user r hk' hf hp hl hm hh hu hn ho hus hs =>
      cases LooseText.ofString_injective (Option.some.inj hf)
      rw [hk] at hk'
      cases hk'
      rw [hkey, hl] at hlive
      cases hlive
      obtain ⟨hmem, hid⟩ := Users.mem_of_withId? hu
      refine ⟨hp, { user with passwordHash := hash, updatedAt := w.now }, ?_, hid, hh⟩
      rw [next, hus]
      exact List.mem_map.mpr ⟨user, hmem, by rw [if_pos rfl]⟩

/-- What holds of a user who was registered and never locked. -/
structure Enrolled (s : Service) (history : List Step) (u : User) : Prop where
  active : u.isActive = true
  email : ∃ field, Validation.email (some field) = .ok u.email
  registered : ∃ x ∈ history, ∃ e p f l r, x.event = .operation (.signUp e p f l) ∧
    (s.perform (.signUp e p f l) x.world).2 = .ok (.signedUp r) ∧ r.user = u.toPublic

/-- The stored hash is that of the last password set. -/
def HoldsLastPassword (s : Service) (history : List Step) (u : User) : Prop :=
  ∃ before x after q, history = before ++ x :: after ∧ x.Sets s u.id q ∧
    (∀ y ∈ after, ∀ q', ¬ y.Sets s u.id q') ∧ Validation.password (some q) = .ok q ∧
    ((s.hash q).run s x.world).2 = .ok u.passwordHash

theorem Users.SameIdentity.toPublic (h : Users.SameIdentity u v) : v.toPublic = u.toPublic := by
  rw [User.toPublic, User.toPublic, h.id, h.email, h.firstName, h.lastName]

theorem Enrolled.keep {history : List Step} (h : Enrolled s history u) (x : Step)
    (same : Users.SameIdentity u v) (active : v.isActive = u.isActive) :
    Enrolled s (history ++ [x]) v where
  active := active.trans h.active
  email := by
    rw [same.email]
    exact h.email
  registered := by
    obtain ⟨y, hy, hrest⟩ := h.registered
    rw [same.toPublic]
    exact ⟨y, List.mem_append_left _ hy, hrest⟩

theorem HoldsLastPassword.keep {history : List Step} (h : HoldsLastPassword s history u) {x : Step}
    (same : Users.SameIdentity u v) (hash : v.passwordHash = u.passwordHash)
    (hx : ∀ q, ¬ x.Sets s v.id q) : HoldsLastPassword s (history ++ [x]) v := by
  obtain ⟨before, y, after, q, hsplit, hsets, hlast, hvalid, hq⟩ := h
  refine ⟨before, y, after ++ [x], q, ?_, ?_, ?_, hvalid, ?_⟩
  · rw [hsplit, List.append_assoc, List.cons_append]
  · rwa [same.id]
  · intro z hz q'
    rcases List.mem_append.mp hz with hz | hz
    · rw [same.id]
      exact hlast z hz q'
    · rw [List.mem_singleton.mp hz]
      exact hx q'
  · rwa [hash]

/-- The state of the accounts after a run without faults. -/
structure Credentials (s : Service) (history : List Step) (w : World) : Prop where
  outages : w.outages = .none
  keyed : w.users.Keyed
  enrolled : ∀ u ∈ w.users, Enrolled s history u
  passwords : ∀ u ∈ w.users, HoldsLastPassword s history u

theorem Credentials.start (s : Service) (now : Instant) : Credentials s [] (.initial now) where
  outages := rfl
  keyed := Users.keyed_nil
  enrolled _ h := nomatch h
  passwords _ h := nomatch h

theorem Credentials.step {history : List Step} (h : Credentials s history w) {e : Event}
    (he : e.IsPlain) : Credentials s (history ++ [⟨w, e⟩]) (w.next s e) where
  outages := (next_outages he).trans h.outages
  keyed := h.keyed.evolves (next_evolves s h.keyed e)
  enrolled := by
    intro v hv
    cases row_step h.keyed e hv with
    | kept _ u _ hu same hhash hactive =>
      refine (h.enrolled u hu).keep _ same ?_
      rcases hactive with hactive | ⟨email, active, rfl⟩
      · exact hactive
      · exact he.elim
    | reset t p u _ hu same hactive => exact (h.enrolled u hu).keep _ same hactive
    | registered email p first last _ hactive hfresh hemail htaken hp hh hr =>
      have hr := hr.resolve_left (by rw [h.outages]; decide)
      refine ⟨hactive, ?_, _, List.mem_append_right _ (.head _), email, _, first, last, _, rfl, hr,
        rfl⟩
      obtain ⟨field, rfl, -⟩ := field_of_email hemail
      exact ⟨field, hemail⟩
  passwords := by
    intro v hv
    by_cases hset : ∃ q, Step.Sets s ⟨w, e⟩ v.id q
    · obtain ⟨q, hset⟩ := hset
      obtain ⟨hvalid, x, hx, hid, hhash⟩ := hset.hash
      have heq : x = v := (h.keyed.evolves (next_evolves s h.keyed e)).eq_of_id hx hv hid
      rw [heq] at hhash
      exact ⟨history, ⟨w, e⟩, [], q, rfl, hset, (fun _ h => nomatch h), hvalid, hhash⟩
    · have hx : ∀ q, ¬ Step.Sets s ⟨w, e⟩ v.id q := fun q hq => hset ⟨q, hq⟩
      cases row_step h.keyed e hv with
      | kept _ u _ hu same hhash hactive => exact (h.passwords u hu).keep same hhash hx
      | reset t p u _ hu same hactive hp hl hm hh hr =>
        rcases hr with hout | ⟨r, hr⟩
        · rw [h.outages, Session.Backing.isOut, Bool.and_eq_true] at hout
          cases hout.2
        · rw [← same.id] at hm
          rw [← moments_resetPassword] at hm
          exact absurd (.reset t r rfl hr hm) (hx p)
      | registered email p first last _ hactive hfresh hemail htaken hp hh hr =>
        have hr := hr.resolve_left (by rw [h.outages]; decide)
        exact absurd (.signUp email first last _ rfl hr rfl) (hx p)

theorem credentials_after (s : Service) (now : Instant) (past : List Event)
    (plain : ∀ e ∈ past, e.IsPlain) :
    Credentials s ((initial now).steps s past) ((initial now).after s past) := by
  induction past using run_induction with
  | start => exact .start s now
  | step past e ih =>
    rw [steps_snoc, after_snoc]
    exact (ih fun x hx => plain x (List.mem_append_left _ hx)).step
      (plain e (List.mem_append_right _ (.head _)))

end Accounts
