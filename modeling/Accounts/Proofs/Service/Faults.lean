import Accounts.Proofs.Service.Outcomes

/-! # Faults of operations

Which faults an operation can end with. The stores answer with faults of their own only, so every
other fault is one that a plan decides on.
-/
namespace Accounts

open World

variable {α β : Type} {f : Fault} {s : Service} {w : World}

def Fault.IsOfStore : Fault → Prop
  | .emailTaken | .users _ | .sessions => True
  | _ => False

theorem ok_ne_error (a : α) (e : Failure) : (.ok a : Except Failure α) ≠ .error e := by
  intro heq
  cases heq

theorem broken_ne_fault (b : Breakage) (f : Fault) :
    (.error (.broken b) : Except Failure α) ≠ .error (.fault f) := by
  intro heq
  cases heq

theorem fault_ne_fault {g : Fault} (h : g ≠ f) :
    (.error (.fault g) : Except Failure α) ≠ .error (.fault f) := by
  intro heq
  cases heq
  exact h rfl

theorem ne_of_store {g : Fault} (hg : g.IsOfStore) (hf : ¬ f.IsOfStore) :
    (.error (.fault g) : Except Failure α) ≠ .error (.fault f) := by
  apply fault_ne_fault
  rintro rfl
  exact hf hg

def Call.Spares (f : Fault) : (c : Call) → c.Answer → Prop
  | .createUser _, r => r ≠ .error (.fault f)
  | .findByEmail _, r => r ≠ .error (.fault f)
  | .findById _, r => r ≠ .error (.fault f)
  | .updatePassword .., r => r ≠ .error (.fault f)
  | .updateLastLogin .., r => r ≠ .error (.fault f)
  | .putSession .., r => r ≠ .error (.fault f)
  | .getSession _, r => r ≠ .error (.fault f)
  | .popSession _, r => r ≠ .error (.fault f)
  | .deleteSession _, r => r ≠ .error (.fault f)
  | _, _ => True

namespace Plan

def Spares (f : Fault) : Plan α → Prop
  | .done r => r ≠ .error (.fault f)
  | .call c next => ∀ r, c.Spares f r → (next r).Spares f

theorem spares_pure (a : α) : (pure a : Plan α).Spares f := ok_ne_error a _

theorem spares_crash (b : Breakage) : (crash b : Plan α).Spares f := broken_ne_fault b f

theorem spares_fail {g : Fault} (h : g ≠ f) : (fail g : Plan α).Spares f := fault_ne_fault h

theorem spares_bind {p : Plan α} {g : α → Plan β} (hp : p.Spares f) (hg : ∀ a, (g a).Spares f) :
    (p >>= g).Spares f := by
  rw [bind_eq]
  induction p with
  | done r =>
    cases r with
    | ok a => exact hg a
    | error e =>
      intro heq
      cases heq
      exact hp rfl
  | call c next ih => exact fun r hr => ih r (hp r hr)

theorem spares_call {c : Call} {g : c.Answer → Plan β}
    (h : ∀ r, c.Spares f r → (g r).Spares f) : (ask c >>= g).Spares f := h

theorem spares_ofExcept {r : Except Failure α} (h : r ≠ .error (.fault f)) :
    (ofExcept r).Spares f := h

theorem spares_log (n : Note) : (log n).Spares f := fun _ _ => ok_ne_error _ _

end Plan

open Plan

theorem update_spares (hf : ¬ f.IsOfStore) (w : World) (t : Instant) (columns : List String)
    (change : Option (User → User)) (id : Option String) :
    (w.onUsers (Users.update w.outages.users t columns change id w.users)).2 ≠
      .error (.fault f) := by
  simp only [onUsers, Users.update]
  split
  · exact ne_of_store trivial hf
  · split
    · exact ok_ne_error _ _
    · split
      · exact ne_of_store trivial hf
      · exact ok_ne_error _ _

theorem answer_spares (hf : ¬ f.IsOfStore) (s : Service) (w : World) (c : Call) :
    c.Spares f (w.answer s c).2 := by
  cases c with
  | createUser d =>
    simp only [Call.Spares, answer, onUsers, Users.create]
    split
    · exact ne_of_store trivial hf
    · split
      · exact ne_of_store trivial hf
      · split
        · exact ne_of_store trivial hf
        · split
          · exact broken_ne_fault _ _
          · exact ok_ne_error _ _
  | findByEmail email =>
    rw [answer_findByEmail]
    split
    · exact ne_of_store trivial hf
    · exact ok_ne_error _ _
  | findById id =>
    rw [answer_findById]
    split
    · exact ne_of_store trivial hf
    · exact ok_ne_error _ _
  | updatePassword id hash => exact update_spares hf w _ _ _ id
  | updateLastLogin id at? => exact update_spares hf w _ _ _ id
  | putSession key value ttl =>
    rw [answer_putSession]
    split
    · exact ne_of_store trivial hf
    · split
      · exact broken_ne_fault _ _
      · exact ok_ne_error _ _
  | getSession key =>
    simp only [Call.Spares, answer, onSessions, Session.get]
    split
    · exact ne_of_store trivial hf
    · exact ok_ne_error _ _
  | popSession key =>
    rw [answer_popSession]
    split
    · exact ne_of_store trivial hf
    · exact ok_ne_error _ _
  | deleteSession key =>
    rw [answer_deleteSession]
    split
    · exact ne_of_store trivial hf
    · exact ok_ne_error _ _
  | now | systemTime | issueToken | drawSecret | drawSalt | recallDummy | keepDummy | checkPassword
  | pingSessions | probeDatabase | note => trivial

theorem run_spares (hf : ¬ f.IsOfStore) {p : Plan α} (hp : p.Spares f) (w : World) :
    (p.run s w).2 ≠ .error (.fault f) := by
  induction p generalizing w with
  | done r => exact hp
  | call c next ih => exact ih _ (hp _ (answer_spares hf s w c)) _

theorem run_bind_ne {p : Plan α} {g : α → Plan β} {e : Failure} (hp : (p.run s w).2 ≠ .error e)
    (hg : ∀ v a, p.run s w = (v, .ok a) → ((g a).run s v).2 ≠ .error e) :
    ((p >>= g).run s w).2 ≠ .error e := by
  rw [bind_eq, run_bind]
  rcases hrun : p.run s w with ⟨v, e' | a⟩
  · intro heq
    cases heq
    rw [hrun] at hp
    exact hp rfl
  · exact hg v a hrun

theorem map_ne_error {r : Except Failure α} {e : Failure} (g : α → β) (h : r ≠ .error e) :
    r.map g ≠ .error e := by
  cases r with
  | ok a => exact ok_ne_error _ _
  | error e' =>
    intro heq
    cases heq
    exact h rfl

theorem hash_spares (s : Service) (password : String) : (s.hash password).Spares f := by
  unfold Service.hash
  split
  · exact spares_crash _
  · apply spares_call
    intro salt _
    split
    · exact spares_crash _
    · exact spares_pure _

theorem dummyHash_spares (s : Service) : s.dummyHash.Spares f := by
  apply spares_call
  intro known _
  cases known with
  | some hash => exact spares_pure hash
  | none =>
    apply spares_call
    intro secret _
    apply spares_bind (hash_spares s _)
    intro hash
    exact spares_call fun _ _ => spares_pure hash

theorem checkPassword_spares (stored : String) (password : LooseText) :
    (Service.checkPassword stored password).Spares f := by
  unfold Service.checkPassword
  split
  · exact fun _ _ => ok_ne_error _ _
  · split
    · exact spares_crash _
    · exact spares_pure _

theorem rejectUnknown_spares (hf : f ≠ .wrongCredentials) (s : Service) (password : LooseText) :
    (s.rejectUnknown password).Spares f := by
  apply spares_bind (dummyHash_spares s)
  intro dummy
  apply spares_bind (checkPassword_spares dummy password)
  intro matched
  exact spares_fail hf.symm

theorem issueToken_spares (s : Service) (subject : String) (ttl : Duration) (type : String) :
    (s.issueToken subject ttl type).Spares f := by
  apply spares_call
  intro issued _
  cases issued with
  | ok issued => exact spares_pure issued
  | error b => exact spares_crash b

theorem startSession_spares (s : Service) (user : User) : (s.startSession user).Spares f := by
  apply spares_bind (issueToken_spares s _ _ _)
  intro access
  apply spares_bind (issueToken_spares s _ _ _)
  intro refresh
  apply spares_call
  intro now _
  apply spares_call
  intro registered hregistered
  apply spares_bind (spares_ofExcept hregistered)
  intro _
  apply spares_call
  intro recorded _
  cases recorded with
  | ok _ => exact spares_pure _
  | error e =>
    cases e with
    | fault g => exact spares_bind (spares_log _) fun _ => spares_pure _
    | broken b => exact spares_bind (spares_crash b) fun _ => spares_pure _

theorem newPassword_spares (hf : ∀ problem, f ≠ .invalid problem) (field : Option LooseText) :
    (Service.newPassword field).Spares f := by
  have hvalid : ∀ {γ : Type} (r : Except Validation.Problem γ), (valid r).Spares f := by
    intro γ r
    cases r with
    | ok a => exact spares_pure a
    | error problem => exact spares_fail (hf problem).symm
  apply spares_bind (hvalid _)
  intro text
  refine spares_bind ?_ fun password => hvalid _
  unfold encodable
  split
  · exact spares_pure _
  · exact spares_crash _

/-- Every password can be checked against the stored hash, if it has bytes. -/
def Service.CanRead (s : Service) (stored : String) : Prop :=
  ∀ password w,
    (∃ matched, (checkPassword stored password).run s w = (w, .ok (.ok matched))) ∨
      password.string? = none ∧ (checkPassword stored password).run s w =
        (w, .error (.broken .encoding))

theorem canRead_of_params {stored : String} {params : Password.Params}
    (h : Password.paramsOf? stored = some params) : s.CanRead stored := by
  intro password w
  unfold Service.checkPassword
  cases password.string? with
  | some p =>
    refine .inl ⟨!Password.isTooLong p && Password.compute s.suite params p == stored, ?_⟩
    change (w, Except.ok (Password.verify s.suite stored p)) = _
    rw [Password.verify_of_params h]
  | none =>
    obtain ⟨shape, hshape, -⟩ := Option.bind_eq_some_iff.mp h
    rw [hshape]
    exact .inr ⟨rfl, rfl⟩

theorem login_not_corrupted (h : ∀ u ∈ w.users, s.CanRead u.passwordHash)
    (email password : Option LooseText) :
    (s.perform (.login email password) w).2 ≠ .error (.fault .corruptedCredentials) := by
  have other : ¬ Fault.corruptedCredentials.IsOfStore := id
  rw [Service.perform, Operation.plan, run_mapResult]
  apply map_ne_error
  unfold Service.login
  cases Validation.email email with
  | error problem => exact fault_ne_fault (by simp)
  | ok address =>
  cases Validation.presentedPassword password with
  | error problem => exact fault_ne_fault (by simp)
  | ok presented =>
  simp only [valid, run_bind_pure]
  rw [run_bind_ask, answer_findByEmail]
  split
  · exact ne_of_store trivial other
  cases hu : w.users.withEmail? address with
  | none =>
    simp only [Option.bind_some, hu, run_bind_ofExcept_ok]
    exact run_spares other (rejectUnknown_spares (by decide) s presented) w
  | some user =>
    simp only [Option.bind_some, hu, run_bind_ofExcept_ok]
    rcases h user (Users.mem_of_withEmail? hu).1 presented w with
      ⟨matched, hcheck⟩ | ⟨-, hcheck⟩
    · rw [bind_eq, run_bind, hcheck]
      dsimp only
      split
      · exact run_spares other (startSession_spares s user) w
      · exact fault_ne_fault (by decide)
    · rw [bind_eq, run_bind, hcheck]
      exact broken_ne_fault _ _

theorem reset_not_wrong {field password : Option LooseText} {k : LooseText} {user : String}
    {u : User} (hk : Validation.token field = .ok k)
    (hlive : w.sessions.live? w.now (Session.resetKey k) = some user)
    (hu : w.users.withId? user = some u) :
    (s.perform (.resetPassword field password) w).2 ≠ .error (.fault .wrongResetToken) := by
  have other : ¬ Fault.wrongResetToken.IsOfStore := id
  rw [Service.perform, Operation.plan, run_mapResult]
  apply map_ne_error
  simp only [Service.resetPassword, hk, valid, run_bind_pure]
  apply run_bind_ne (run_spares other (newPassword_spares (by simp) password) w)
  intro v p hn
  rw [(newPassword_run hn).1, run_bind_ask, answer_popSession]
  split
  · exact ne_of_store trivial other
  rw [hlive, run_bind_ofExcept_ok]
  dsimp only
  apply run_bind_ne (run_spares other (hash_spares s p) _)
  intro x hash hh
  have hquiet := quiet_run (hash_quiet s p) hh
  have husers : x.users = w.users := hquiet.users
  rw [run_bind_ask, answer_updatePassword, husers, hu]
  split
  · exact ne_of_store trivial other
  rw [run_bind_ofExcept_ok, if_pos rfl]
  apply run_spares other
  apply spares_call
  intro deleted hdeleted
  apply spares_bind (spares_ofExcept hdeleted)
  intro _
  apply spares_bind (spares_log _)
  intro _
  exact spares_pure _

end Accounts
