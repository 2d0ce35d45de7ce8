import Accounts.Proofs.Account.Recovery
import Accounts.Proofs.Service.Faults

/-! # Fields come first

Whether an operation refuses a field is settled by its arguments before the first call. What is
refused has asked for nothing, so it leaves no trace: no statement, no command, no draw and no note.
-/
namespace Accounts

open World

variable {α β : Type} {s : Service} {w : World}

/-- The answer is a failure of a kind, with a message. -/
def FailsWith (r : Except Failure α) (kind : Kind) (message : String) : Prop :=
  ∃ f, r = .error (.fault f) ∧ f.kind = kind ∧ f.message = message

theorem invalid_of_kind {f : Fault} (h : f.kind = .validation) :
    ∃ problem, f = .invalid problem := by
  cases f with
  | invalid problem => exact ⟨problem, rfl⟩
  | emailTaken | wrongCredentials | wrongToken | notAuthenticated | wrongResetToken | users
  | sessions | corruptedCredentials | subjectNotId => cases h

/-- Whatever the service is, the plan is over at once because of the same problem, or no way through
it ends with a refused field. -/
inductive ChecksFirst (plan : Service → Plan α) : Prop where
  | refused (problem) : (∀ s, plan s = .fail (.invalid problem)) → ChecksFirst plan
  | passed : (∀ s problem, (plan s).Spares (.invalid problem)) → ChecksFirst plan

namespace ChecksFirst

open Plan

theorem valid_bind {r : Except Validation.Problem α} {plan : Service → α → Plan β}
    (h : ∀ a, ChecksFirst fun s => plan s a) : ChecksFirst fun s => Plan.valid r >>= plan s := by
  cases r with
  | ok a => exact h a
  | error problem => exact .refused problem fun s => rfl

theorem encodable_bind {t : LooseText} {plan : Service → String → Plan β}
    (h : ∀ p, ChecksFirst fun s => plan s p) : ChecksFirst fun s => encodable t >>= plan s := by
  unfold encodable
  cases t.string? with
  | some p => exact h p
  | none => exact .passed fun s problem => spares_crash _

theorem newPassword_bind {field : Option LooseText} {plan : Service → String → Plan β}
    (h : ∀ p, ChecksFirst fun s => plan s p) :
    ChecksFirst fun s => Service.newPassword field >>= plan s := by
  simp only [Service.newPassword, bind_bind]
  apply valid_bind
  intro t
  apply encodable_bind
  intro p
  exact valid_bind h

theorem mapResult {plan : Service → Plan α} (h : ChecksFirst plan) (f : α → β) :
    ChecksFirst fun s => (plan s).mapResult f := by
  cases h with
  | refused problem hplan =>
    refine .refused problem fun s => ?_
    rw [hplan]
    rfl
  | passed hplan =>
    exact .passed fun s problem => spares_bind (hplan s problem) fun a => spares_pure (f a)

end ChecksFirst

open Plan

theorem signUp_checksFirst (e p f l : Option LooseText) :
    ChecksFirst fun s => s.signUp e p f l := by
  apply ChecksFirst.valid_bind
  intro email
  apply ChecksFirst.newPassword_bind
  intro password
  apply ChecksFirst.valid_bind
  intro firstName
  apply ChecksFirst.valid_bind
  intro lastName
  refine .passed fun s problem => ?_
  apply spares_bind (hash_spares s password)
  intro hash
  apply spares_call
  intro created hcreated
  apply spares_bind (spares_ofExcept hcreated)
  intro user
  apply spares_bind (spares_log _)
  intro _
  exact spares_pure _

theorem login_checksFirst (e p : Option LooseText) : ChecksFirst fun s => s.login e p := by
  apply ChecksFirst.valid_bind
  intro email
  apply ChecksFirst.valid_bind
  intro password
  refine .passed fun s problem => ?_
  apply spares_call
  intro found hfound
  apply spares_bind (spares_ofExcept hfound)
  intro user
  cases user with
  | none => exact rejectUnknown_spares (by simp) s password
  | some user =>
    apply spares_bind (checkPassword_spares _ password)
    intro checked
    cases checked with
    | error corruption => exact spares_bind (spares_log _) fun _ => spares_fail (by simp)
    | ok matched =>
      dsimp only
      split
      · exact startSession_spares s user
      · exact spares_fail (by simp)

theorem forgotPassword_checksFirst (e : Option LooseText) :
    ChecksFirst fun s => s.forgotPassword e := by
  apply ChecksFirst.valid_bind
  intro email
  refine .passed fun s problem => ?_
  apply spares_call
  intro found hfound
  apply spares_bind (spares_ofExcept hfound)
  intro user
  cases user with
  | none => exact spares_pure _
  | some user =>
    refine spares_bind ?_ fun _ => spares_pure _
    apply spares_call
    intro secret _
    apply spares_call
    intro registered hregistered
    exact spares_bind (spares_ofExcept hregistered) fun _ => spares_log _

theorem resetPassword_checksFirst (t p : Option LooseText) :
    ChecksFirst fun s => s.resetPassword t p := by
  apply ChecksFirst.valid_bind
  intro token
  apply ChecksFirst.newPassword_bind
  intro password
  refine .passed fun s problem => ?_
  apply spares_call
  intro popped hpopped
  apply spares_bind (spares_ofExcept hpopped)
  intro user
  cases user with
  | none => exact spares_fail (by simp)
  | some userId =>
    apply spares_bind (hash_spares s password)
    intro hash
    apply spares_call
    intro updated hupdated
    apply spares_bind (spares_ofExcept hupdated)
    intro found
    cases found with
    | false => exact spares_fail (by simp)
    | true =>
      apply spares_call
      intro deleted hdeleted
      apply spares_bind (spares_ofExcept hdeleted)
      intro _
      exact spares_bind (spares_log _) fun _ => spares_pure _

theorem validateToken_spares (s : Service) (t : Option LooseText) (problem : Validation.Problem) :
    (s.validateToken t).Spares (.invalid problem) := by
  unfold Service.validateToken
  split
  · exact spares_fail (by simp)
  · apply spares_call
    intro system _
    apply spares_call
    intro now _
    split
    · exact spares_fail (by simp)
    · exact spares_crash _
    · split
      · exact spares_bind (spares_log _) fun _ => spares_fail (by simp)
      · apply spares_call
        intro found hfound
        apply spares_bind (spares_ofExcept hfound)
        intro user
        cases user with
        | none => exact spares_fail (by simp)
        | some user =>
          dsimp only
          split
          · exact spares_pure _
          · exact spares_fail (by simp)

theorem plan_checksFirst (op : Operation) : ChecksFirst fun s => op.plan s := by
  cases op with
  | signUp email password firstName lastName =>
    exact (signUp_checksFirst email password firstName lastName).mapResult _
  | login email password => exact (login_checksFirst email password).mapResult _
  | forgotPassword email => exact (forgotPassword_checksFirst email).mapResult _
  | resetPassword token newPassword =>
    exact (resetPassword_checksFirst token newPassword).mapResult _
  | validateToken accessToken =>
    exact ChecksFirst.mapResult (.passed fun s => validateToken_spares s accessToken) _

theorem perform_of_fail {op : Operation} {f : Fault} (h : op.plan s = .fail f) (w : World) :
    (op.plan s).trace s w = [] ∧ s.perform op w = (w, .error (.fault f)) := by
  rw [Service.perform, h]
  exact ⟨rfl, rfl⟩

/-- An operation refuses a field in all states of all services, with one message and before its first
call, or in none. -/
theorem refusal_settled (op : Operation) :
    (∃ problem, ∀ (s : Service) w, (op.plan s).trace s w = [] ∧
      s.perform op w = (w, .error (.fault (.invalid problem)))) ∨
    ∀ (s : Service) w message, ¬ FailsWith (s.perform op w).2 .validation message := by
  cases plan_checksFirst op with
  | refused problem hplan => exact .inl ⟨problem, fun s w => perform_of_fail (hplan s) w⟩
  | passed hplan =>
    right
    rintro s w message ⟨f, hfails, hkind, -⟩
    obtain ⟨problem, rfl⟩ := invalid_of_kind hkind
    exact run_spares id (hplan s problem) w hfails

theorem trace_newPassword (field : Option LooseText) (s : Service) (w : World) :
    (Service.newPassword field).trace s w = [] := by
  rw [List.eq_nil_iff_forall_not_mem]
  intro m hm
  have silent : (Service.newPassword field).Asks fun _ => False := newPassword_asks field
  exact call_of_mem_trace silent hm

variable {t field : Option LooseText}

theorem reset_unacceptable (t : Option LooseText)
    (bad : ∀ p, field = some (LooseText.ofString p) → Validation.password (some p) ≠ .ok p) :
    (s.resetPassword t field).trace s w = [] ∧ ((s.resetPassword t field).run s w).1 = w := by
  unfold Service.resetPassword
  cases Validation.token t with
  | error problem => exact ⟨rfl, rfl⟩
  | ok k =>
    simp only [valid, trace_bind_pure, run_bind_pure]
    rcases hn : (Service.newPassword field).run s w with ⟨v, e | p⟩
    · obtain ⟨rfl, -⟩ := newPassword_run hn
      constructor
      · rw [trace_bind, trace_newPassword, hn]
        rfl
      · rw [bind_eq, run_bind, hn]
    · obtain ⟨hfield, hp⟩ := (newPassword_run hn).2 p rfl
      exact absurd hp (bad p hfield)

theorem perform_reset_unacceptable (t : Option LooseText)
    (bad : ∀ p, field = some (LooseText.ofString p) → Validation.password (some p) ≠ .ok p) :
    ((Operation.resetPassword t field).plan s).trace s w = [] ∧
      (s.perform (.resetPassword t field) w).1 = w := by
  rw [Service.perform, Operation.plan, trace_mapResult, run_mapResult]
  exact reset_unacceptable t bad

theorem validateToken_misshapen {problem : Validation.Problem}
    (h : Validation.token t = .error problem) :
    (Operation.validateToken t).plan s = .fail .wrongToken := by
  rw [Operation.plan, Service.validateToken, h]
  rfl

theorem resetPassword_misshapen {problem : Validation.Problem}
    (h : Validation.token t = .error problem) (field : Option LooseText) :
    (Operation.resetPassword t field).plan s = .fail (.invalid problem) := by
  rw [Operation.plan, Service.resetPassword, h]
  rfl

theorem validateToken_not_invalid (s : Service) (t : Option LooseText) (w : World)
    (message : String) : ¬ FailsWith (s.perform (.validateToken t) w).2 .validation message := by
  rintro ⟨f, hfails, hkind, -⟩
  obtain ⟨problem, rfl⟩ := invalid_of_kind hkind
  rw [Service.perform, Operation.plan, run_mapResult] at hfails
  exact map_ne_error _ (run_spares id (validateToken_spares s t problem) w) hfails

/-- Whether an operation refuses a field, and with which message, is the same in every state of every
service, and a refusal asks for nothing and changes nothing. A reset that is tried with an
unacceptable password leaves its token as good as it was: a live token of a user still resets. The
check of an access token never refuses a field: a token for which a reset would be refused is told to
be wrong, again without a call. -/
theorem validation_comes_first (s : Service) (w : World) :
    (∀ (op : Operation) (s' : Service) (w' : World) (message : String),
      FailsWith (s.perform op w).2 .validation message ↔
        FailsWith (s'.perform op w').2 .validation message) ∧
    (∀ (op : Operation) (message : String), FailsWith (s.perform op w).2 .validation message →
      (op.plan s).trace s w = [] ∧ (s.perform op w).1 = w) ∧
    (∀ (t field : Option LooseText),
      (∀ p, field = some (LooseText.ofString p) → Validation.password (some p) ≠ .ok p) →
      ((Operation.resetPassword t field).plan s).trace s w = [] ∧
      (s.perform (.resetPassword t field) w).1 = w ∧
      ∀ (token k : LooseText) (p : String) (u : User), w.outages = .none →
        Password.minCost ≤ s.rounds ∧ s.rounds ≤ Password.maxCost →
        Validation.token (some token) = .ok k → Validation.password (some p) = .ok p →
        w.sessions.live? w.now (Session.resetKey k) = some u.id →
        w.users.withId? u.id = some u →
        ∃ r, (s.perform (.resetPassword (some token) (some (LooseText.ofString p)))
          (s.perform (.resetPassword t field) w).1).2 = .ok (.status r)) ∧
    (∀ (t : Option LooseText) (message : String),
      ¬ FailsWith (s.perform (.validateToken t) w).2 .validation message) ∧
    ∀ (t field : Option LooseText) (problem : Validation.Problem),
      Validation.token t = .error problem →
      FailsWith (s.perform (.resetPassword t field) w).2 .validation problem.message ∧
      FailsWith (s.perform (.validateToken t) w).2 .unauthorized "invalid or expired token" ∧
      ((Operation.validateToken t).plan s).trace s w = [] ∧
      (s.perform (.validateToken t) w).1 = w := by
  refine ⟨?_, ?_, ?_, fun t => validateToken_not_invalid s t w, ?_⟩
  · intro op s' w' message
    rcases refusal_settled op with ⟨problem, h⟩ | h
    · rw [(h s w).2, (h s' w').2]
    · exact iff_of_false (h s w message) (h s' w' message)
  · intro op message hfails
    rcases refusal_settled op with ⟨problem, h⟩ | h
    · exact ⟨(h s w).1, by rw [(h s w).2]⟩
    · exact absurd hfails (h s w message)
  · intro t field bad
    obtain ⟨htrace, hworld⟩ := perform_reset_unacceptable (s := s) (w := w) t bad
    refine ⟨htrace, hworld, ?_⟩
    intro token k p u ho rounds hk hp hlive hu
    obtain ⟨x, hx, -⟩ := perform_reset ho rounds hk hp hlive hu
    rw [hworld, hx]
    exact ⟨_, rfl⟩
  · intro t field problem h
    obtain ⟨-, hreset⟩ := perform_of_fail (resetPassword_misshapen h field) w (s := s)
    obtain ⟨htrace, hcheck⟩ := perform_of_fail (validateToken_misshapen h) w (s := s)
    rw [hreset, hcheck]
    exact ⟨⟨_, rfl, rfl, rfl⟩, ⟨_, rfl, rfl, rfl⟩, htrace, rfl⟩

def World.annForgot : World :=
  (World.withAnn .small 0).after .small [.request "ann@example.org"]

def annsToken : LooseText := LooseText.ofString ((World.withAnn .small 0).nextToken .small)

/-- A password that is too short does not cost Ann her token. -/
theorem ann_resets_after_short_password :
    FailsWith (Service.small.perform (.resetPassword (some annsToken) (some "short"))
      World.annForgot).2 .validation "password must be at least 8 characters long" ∧
    ∃ r, (Service.small.perform (.resetPassword (some annsToken) (some "second password 2"))
      (Service.small.perform (.resetPassword (some annsToken) (some "short"))
        World.annForgot).1).2 = .ok (.status r) := by
  obtain ⟨u, -, hlive, hu⟩ : ∃ u ∈ World.annForgot.users,
      World.annForgot.sessions.live? World.annForgot.now (Session.resetKey annsToken) =
        some u.id ∧ World.annForgot.users.withId? u.id = some u := by
    decide
  have hpassword : Validation.password (some "second password 2") = .ok "second password 2" :=
    ok_of_toOption (by decide)
  have short : ∀ p : String, some (LooseText.ofString "short") = some (LooseText.ofString p) →
      Validation.password (some p) ≠ .ok p := by
    intro p hp
    rw [← LooseText.ofString_injective (Option.some.inj hp)]
    decide
  have htoken : Validation.token (some annsToken) = .ok annsToken :=
    token_of_trim (by decide)
  obtain ⟨-, -, hresets, -⟩ := validation_comes_first .small World.annForgot
  obtain ⟨-, -, hagain⟩ := hresets (some annsToken) (some "short") short
  refine ⟨⟨_, rfl, rfl, by decide⟩, ?_⟩
  exact hagain annsToken annsToken "second password 2" u rfl (by decide) htoken hpassword hlive hu

end Accounts
