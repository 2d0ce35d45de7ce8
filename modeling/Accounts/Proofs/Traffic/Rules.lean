import Accounts.Proofs.Service.Calls
import Accounts.Service.Traffic

/-! # Rules of operations

Where an operation makes a call is a matter of the exchanges it has had before. A row is created at
most once in a request, a token is registered right after it was drawn, and a password is changed
for the user of a token that was just taken. None of this depends on what other requests do.
-/
namespace Accounts

namespace Plan

variable {α β : Type} {C : List Exchange → Call → Prop} {D : List Exchange → Except Failure α → Prop}
  {P : Call → Prop} {h : List Exchange}

/-- After the exchanges, every call the plan can make satisfies one rule, and every way it can end
satisfies the other. -/
def Obeys (C : List Exchange → Call → Prop) (D : List Exchange → Except Failure α → Prop) :
    List Exchange → Plan α → Prop
  | h, .done r => D h r
  | h, .call c next => C h c ∧ ∀ a, (next a).Obeys C D (h ++ [⟨c, a⟩])

def Then (C : List Exchange → Call → Prop) (D : List Exchange → Except Failure β → Prop)
    (f : α → Plan β) (h : List Exchange) : Except Failure α → Prop
  | .ok a => (f a).Obeys C D h
  | .error e => D h (.error e)

theorem obeys_bind {D : List Exchange → Except Failure β → Prop} {p : Plan α} {f : α → Plan β}
    (hp : p.Obeys C (Then C D f) h) : (p >>= f).Obeys C D h := by
  rw [bind_eq]
  induction p generalizing h with
  | done r => cases r <;> exact hp
  | call c next ih => exact ⟨hp.1, fun a => ih a (hp.2 a)⟩

theorem obeys_mapResult {D : List Exchange → Except Failure β → Prop} {p : Plan α} {f : α → β}
    (hp : p.Obeys C (fun h r => D h (r.map f)) h) : (p.mapResult f).Obeys C D h := by
  induction p generalizing h with
  | done r => cases r <;> exact hp
  | call c next ih => exact ⟨hp.1, fun a => ih a (hp.2 a)⟩

theorem obeys_ask {c : Call} {f : c.Answer → Plan α} (hc : C h c)
    (hf : ∀ a, (f a).Obeys C D (h ++ [⟨c, a⟩])) : (ask c >>= f).Obeys C D h :=
  ⟨hc, hf⟩

theorem obeys_valid {D : List Exchange → Except Failure β → Prop}
    {r : Except Validation.Problem α} {f : α → Plan β} (hfail : ∀ e, D h (.error e))
    (hf : ∀ a, r = .ok a → (f a).Obeys C D h) : (valid r >>= f).Obeys C D h := by
  cases r with
  | error problem => exact hfail _
  | ok a => exact hf a rfl

theorem obeys_of_silent {p : Plan α} (hp : p.Asks fun _ => False) (hD : ∀ r, D h r) :
    p.Obeys C D h := by
  cases p with
  | done r => exact hD r
  | call c next => exact hp.1.elim

/-- The second list of exchanges continues the first one with calls of a sort. -/
def Grows (P : Call → Prop) (h k : List Exchange) : Prop :=
  ∃ more, k = h ++ more ∧ ∀ x ∈ more, P x.call

theorem obeys_of_asks {p : Plan α} (hp : p.Asks P) (hC : ∀ k, Grows P h k → ∀ c, P c → C k c)
    (hD : ∀ k r, Grows P h k → D k r) : p.Obeys C D h := by
  induction p generalizing h with
  | done r => exact hD h r ⟨[], by simp, by simp⟩
  | call c next ih =>
    refine ⟨hC h ⟨[], by simp, by simp⟩ c hp.1, fun a => ih a (hp.2 a) ?_ ?_⟩
    all_goals
      have longer : ∀ k, Grows P (h ++ [⟨c, a⟩]) k → Grows P h k := by
        rintro k ⟨more, rfl, hmore⟩
        refine ⟨⟨c, a⟩ :: more, by simp, ?_⟩
        exact List.forall_mem_cons.mpr ⟨hp.1, hmore⟩
    · exact fun k hk => hC k (longer k hk)
    · exact fun k r hk => hD k r (longer k hk)

/-- With the exchanges, the first plan has come to the second one. -/
inductive Reaches (p : Plan α) : List Exchange → Plan α → Prop where
  | start : Reaches p [] p
  | step (h c next a) : Reaches p h (.call c next) → Reaches p (h ++ [⟨c, a⟩]) (next a)

/-- Wherever an obedient plan has come to, it is still obedient, and every call it has made was
allowed by exchanges it had had. -/
theorem Reaches.obeys {p q : Plan α} (hr : p.Reaches h q) (hp : p.Obeys C D []) :
    q.Obeys C D h ∧ ∀ x ∈ h, ∃ before, (∀ y ∈ before, y ∈ h) ∧ C before x.call := by
  induction hr with
  | start => exact ⟨hp, fun _ hx => nomatch hx⟩
  | step h c next a _ ih =>
    obtain ⟨⟨hc, hnext⟩, hmade⟩ := ih
    refine ⟨hnext a, ?_⟩
    intro x hx
    rcases List.mem_append.mp hx with hx | hx
    · obtain ⟨before, hbefore, hC⟩ := hmade x hx
      exact ⟨before, fun y hy => List.mem_append_left _ (hbefore y hy), hC⟩
    · rw [List.mem_singleton.mp hx]
      exact ⟨h, fun y hy => List.mem_append_left _ hy, hc⟩

end Plan

def Call.IsFree : Call → Prop
  | .createUser _ | .putSession .. | .popSession _ | .updatePassword .. => False
  | _ => True

def Exchange.Refuses (x : Exchange) (e : Failure) : Prop :=
  ∃ d, x = ⟨.createUser d, .error e⟩

/-- When an operation makes a call, after the exchanges it has had. -/
inductive Operation.Allows : Operation → List Exchange → Call → Prop where
  | prepare (e p f l h c) : c.IsFree → (∀ x ∈ h, ∀ e, ¬ x.Refuses e) →
      Allows (.signUp e p f l) h c
  | create (e p f l h address hash first last) : Validation.email e = .ok address →
      (∀ x ∈ h, x.call.IsFree) →
      Allows (.signUp e p f l) h (.createUser ⟨some address, some hash, some first, some last⟩)
  | login (e p h c) : c.IsFree → Allows (.login e p) h c
  | register (e p h id value ttl) :
      Allows (.login e p) h (.putSession (Session.refreshKey id) value ttl)
  | request (e h c) : c.IsFree → Allows (.forgotPassword e) h c
  | keep (e h size bytes value ttl) : (∀ x ∈ h, x.call.IsFree) →
      Allows (.forgotPassword e) (h ++ [⟨.drawSecret size, bytes⟩])
        (.putSession (Session.resetKey (Service.secretText bytes)) value ttl)
  | reset (t p h c) : c.IsFree → Allows (.resetPassword t p) h c
  | take (t p h k) : Validation.token t = .ok k →
      Allows (.resetPassword t p) h (.popSession (Session.resetKey k))
  | change (t p h k id hash) : Validation.token t = .ok k →
      ⟨.popSession (Session.resetKey k), .ok (some id)⟩ ∈ h →
      Allows (.resetPassword t p) h (.updatePassword (some id) (some hash))
  | validate (t h c) : c.IsFree → Allows (.validateToken t) h c

/-- How an operation ends, after the exchanges it has had. -/
inductive Operation.Ends : Operation → List Exchange → Except Failure Answer → Prop where
  | unasked (e p f l h error) : (∀ x ∈ h, x.call.IsFree) → Ends (.signUp e p f l) h (.error error)
  | refused (e p f l h d error) :
      Ends (.signUp e p f l) (h ++ [⟨.createUser d, .error error⟩]) (.error error)
  | created (e p f l h d user a) : ⟨.createUser d, .ok user⟩ ∈ h →
      (∀ x ∈ h, ∀ e, ¬ x.Refuses e) → Ends (.signUp e p f l) h (.ok a)
  | failed (t p h error) : Ends (.resetPassword t p) h (.error error)
  | changed (t p h id hash updated a) : ⟨.updatePassword id hash, updated⟩ ∈ h →
      Ends (.resetPassword t p) h (.ok a)
  | login (e p h r) : Ends (.login e p) h r
  | request (e h r) : Ends (.forgotPassword e) h r
  | validate (t h r) : Ends (.validateToken t) h r

namespace Operation.Allows

variable {op : Operation} {h : List Exchange}

theorem put {key : LooseText} {value : String} {ttl : Duration}
    (ha : op.Allows h (.putSession key value ttl)) :
    (∃ id, key = Session.refreshKey id) ∨ ∃ before size bytes,
      h = before ++ [⟨.drawSecret size, bytes⟩] ∧
      key = Session.resetKey (Service.secretText bytes) ∧ ∀ x ∈ before, x.call.IsFree := by
  cases ha with
  | register _ _ _ id => exact .inl ⟨id, rfl⟩
  | keep _ before size bytes _ _ hfree => exact .inr ⟨before, size, bytes, rfl, rfl, hfree⟩
  | prepare _ _ _ _ _ _ hfree => exact hfree.elim
  | login _ _ _ _ hfree => exact hfree.elim
  | request _ _ _ hfree => exact hfree.elim
  | reset _ _ _ _ hfree => exact hfree.elim
  | validate _ _ _ hfree => exact hfree.elim

theorem created {d : Draft} (ha : op.Allows h (.createUser d)) :
    ∃ e p f l address, op = .signUp e p f l ∧ Validation.email e = .ok address ∧
      d.email = some address := by
  cases ha with
  | create e p f l _ address _ _ _ haddress => exact ⟨e, p, f, l, address, rfl, haddress, rfl⟩
  | prepare _ _ _ _ _ _ hfree => exact hfree.elim
  | login _ _ _ _ hfree => exact hfree.elim
  | request _ _ _ hfree => exact hfree.elim
  | reset _ _ _ _ hfree => exact hfree.elim
  | validate _ _ _ hfree => exact hfree.elim

theorem changed {id hash : Option String} (ha : op.Allows h (.updatePassword id hash)) :
    ∃ t p k user, op = .resetPassword t p ∧ Validation.token t = .ok k ∧
      ⟨.popSession (Session.resetKey k), .ok (some user)⟩ ∈ h := by
  cases ha with
  | change t p _ k user _ hk hpopped => exact ⟨t, p, k, user, rfl, hk, hpopped⟩
  | prepare _ _ _ _ _ _ hfree => exact hfree.elim
  | login _ _ _ _ hfree => exact hfree.elim
  | request _ _ _ hfree => exact hfree.elim
  | reset _ _ _ _ hfree => exact hfree.elim
  | validate _ _ _ hfree => exact hfree.elim

theorem unrefused {e p f l : Option LooseText} {c : Call} {x : Exchange} {error : Failure}
    (ha : (Operation.signUp e p f l).Allows h c) (hx : x ∈ h) : ¬ x.Refuses error := by
  cases ha with
  | prepare _ _ _ _ _ _ _ hunrefused => exact hunrefused x hx error
  | create _ _ _ _ _ _ _ _ _ _ hfree =>
    rintro ⟨d, rfl⟩
    exact hfree _ hx

end Operation.Allows

namespace Operation.Ends

variable {e p f l : Option LooseText} {h : List Exchange}

theorem accepted {a : Answer} (he : (Operation.signUp e p f l).Ends h (.ok a)) :
    ∃ d user, ⟨.createUser d, .ok user⟩ ∈ h := by
  cases he with
  | created _ _ _ _ _ d user _ hcreated => exact ⟨d, user, hcreated⟩

theorem refusal {r : Except Failure Answer} {x : Exchange} {error : Failure}
    (he : (Operation.signUp e p f l).Ends h r) (hx : x ∈ h) (hrefuses : x.Refuses error) :
    ∃ d error, ⟨.createUser d, .error error⟩ ∈ h ∧ r = .error error := by
  obtain ⟨d, rfl⟩ := hrefuses
  cases he with
  | unasked _ _ _ _ _ _ hfree => exact (hfree _ hx).elim
  | refused _ _ _ _ before d error =>
    exact ⟨d, error, List.mem_append_right _ (List.mem_singleton.mpr rfl), rfl⟩
  | created _ _ _ _ _ _ _ _ _ hunrefused => exact (hunrefused _ hx error ⟨d, rfl⟩).elim

theorem updated {t p : Option LooseText} {a : Answer}
    (he : (Operation.resetPassword t p).Ends h (.ok a)) :
    ∃ id hash updated, ⟨.updatePassword id hash, updated⟩ ∈ h := by
  cases he with
  | changed _ _ _ id hash updated _ hupdate => exact ⟨id, hash, updated, hupdate⟩

end Operation.Ends

open Plan

theorem not_refuses_of_free {h : List Exchange} (hfree : ∀ x ∈ h, x.call.IsFree) :
    ∀ x ∈ h, ∀ e, ¬ x.Refuses e := by
  rintro x hx e ⟨d, rfl⟩
  exact hfree _ hx

theorem free_of_grows {h k : List Exchange} {P : Call → Prop} (hP : ∀ c, P c → c.IsFree)
    (hk : Grows P h k) (hfree : ∀ x ∈ h, x.call.IsFree) : ∀ x ∈ k, x.call.IsFree := by
  obtain ⟨more, rfl, hmore⟩ := hk
  intro x hx
  rcases List.mem_append.mp hx with hx | hx
  · exact hfree x hx
  · exact hP _ (hmore x hx)

theorem free_of_salts {k : List Exchange} (hk : Grows (· = .drawSalt) [] k) :
    ∀ x ∈ k, x.call.IsFree := by
  refine free_of_grows ?_ hk fun _ hx => nomatch hx
  rintro c rfl
  trivial

theorem signUp_obeys (s : Service) (e p f l : Option LooseText) :
    ((Operation.signUp e p f l).plan s).Obeys (Operation.signUp e p f l).Allows
      (Operation.signUp e p f l).Ends [] := by
  have unasked : ∀ error, (Operation.signUp e p f l).Ends [] (.error error) :=
    fun error => .unasked e p f l [] error fun _ hx => nomatch hx
  apply obeys_mapResult
  refine obeys_valid unasked fun address haddress => ?_
  apply obeys_bind
  refine obeys_of_silent (newPassword_asks p) fun r => ?_
  cases r with
  | error error => exact unasked error
  | ok password =>
  refine obeys_valid unasked fun first _ => ?_
  refine obeys_valid unasked fun last _ => ?_
  -- Only salts are drawn before the row is asked for.
  apply obeys_bind
  refine obeys_of_asks (P := (· = .drawSalt)) (hash_asks s password rfl) ?_ ?_
  · rintro k hk c rfl
    exact .prepare _ _ _ _ _ _ trivial (not_refuses_of_free (free_of_salts hk))
  · intro k r hk
    have hfree := free_of_salts hk
    cases r with
    | error error => exact .unasked _ _ _ _ _ _ hfree
    | ok hash =>
    refine obeys_ask (.create _ _ _ _ _ _ _ _ _ haddress hfree) fun a => ?_
    cases a with
    | error error => exact .refused _ _ _ _ _ _ _
    | ok user =>
    have unrefused : ∀ x ∈ k ++ [⟨.createUser ⟨some address, some hash, some first, some last⟩,
        .ok user⟩], ∀ e, ¬ x.Refuses e := by
      intro x hx error
      rcases List.mem_append.mp hx with hx | hx
      · exact not_refuses_of_free hfree x hx error
      · rw [List.mem_singleton.mp hx]
        rintro ⟨d, h⟩
        cases h
    refine obeys_ask (.prepare _ _ _ _ _ _ trivial unrefused) fun note => ?_
    refine .created _ _ _ _ _ ⟨some address, some hash, some first, some last⟩ user _ (by simp) ?_
    intro x hx error
    rcases List.mem_append.mp hx with hx | hx
    · exact unrefused x hx error
    · rw [List.mem_singleton.mp hx]
      rintro ⟨d, h⟩
      cases h

theorem login_obeys (s : Service) (e p : Option LooseText) :
    ((Operation.login e p).plan s).Obeys (Operation.login e p).Allows
      (Operation.login e p).Ends [] := by
  refine obeys_of_asks (plan_asks s (.login e p)) ?_ fun k r _ => .login e p k r
  intro k _ c hc
  cases c with
  | putSession key value ttl =>
    obtain ⟨id, rfl⟩ := hc
    exact .register e p k id value ttl
  | createUser | popSession | updatePassword => exact hc.elim
  | now | systemTime | issueToken | drawSecret | drawSalt | recallDummy | keepDummy | checkPassword
  | findByEmail | findById | updateLastLogin | getSession | deleteSession | pingSessions
  | probeDatabase | note =>
    exact .login e p k _ trivial

theorem forgotPassword_obeys (s : Service) (e : Option LooseText) :
    ((Operation.forgotPassword e).plan s).Obeys (Operation.forgotPassword e).Allows
      (Operation.forgotPassword e).Ends [] := by
  apply obeys_mapResult
  refine obeys_valid (fun error => .request ..) fun address _ => ?_
  refine obeys_ask (.request _ _ _ trivial) fun found => ?_
  cases found with
  | error error => exact .request ..
  | ok found =>
  cases found with
  | none => exact .request ..
  | some user =>
  have hfree : ∀ x ∈ [Exchange.mk (.findByEmail (some address)) (.ok (some user))],
      x.call.IsFree := by
    intro x hx
    rw [List.mem_singleton.mp hx]
    trivial
  apply obeys_bind
  refine obeys_ask (.request _ _ _ trivial) fun bytes => ?_
  refine obeys_ask (.keep _ _ _ _ _ _ hfree) fun kept => ?_
  cases kept with
  | error error => exact .request ..
  | ok => exact obeys_ask (.request _ _ _ trivial) fun note => .request ..

theorem resetPassword_obeys (s : Service) (t p : Option LooseText) :
    ((Operation.resetPassword t p).plan s).Obeys (Operation.resetPassword t p).Allows
      (Operation.resetPassword t p).Ends [] := by
  apply obeys_mapResult
  refine obeys_valid (fun error => .failed ..) fun k hk => ?_
  apply obeys_bind
  refine obeys_of_silent (newPassword_asks p) fun r => ?_
  cases r with
  | error error => exact .failed ..
  | ok password =>
  refine obeys_ask (.take _ _ _ _ hk) fun popped => ?_
  cases popped with
  | error error => exact .failed ..
  | ok popped =>
  cases popped with
  | none => exact .failed ..
  | some id =>
  refine obeys_bind (p := s.hash password) ?_
  refine obeys_of_asks (P := (· = .drawSalt)) (hash_asks s password rfl) ?_ ?_
  · rintro h - c rfl
    exact .reset _ _ _ _ trivial
  · rintro h r ⟨more, rfl, -⟩
    cases r with
    | error error => exact .failed ..
    | ok hash =>
    -- The exchanges have only grown, so the token is still among them.
    refine obeys_ask (.change _ _ _ k _ _ hk (by simp)) fun updated => ?_
    cases updated with
    | error error => exact .failed ..
    | ok updated =>
    cases updated with
    | false => exact .failed ..
    | true =>
    refine obeys_ask (.reset _ _ _ _ trivial) fun deleted => ?_
    cases deleted with
    | error error => exact .failed ..
    | ok =>
      refine obeys_ask (.reset _ _ _ _ trivial) fun note => ?_
      exact .changed _ _ _ (some id) (some hash) (.ok true) _ (by simp)

theorem validateToken_obeys (s : Service) (t : Option LooseText) :
    ((Operation.validateToken t).plan s).Obeys (Operation.validateToken t).Allows
      (Operation.validateToken t).Ends [] := by
  refine obeys_of_asks (plan_asks s (.validateToken t)) ?_ fun k r _ => .validate t k r
  intro k _ c hc
  refine .validate t k c ?_
  cases c with
  | createUser | putSession | popSession | updatePassword => exact hc.elim
  | _ => trivial

/-- Every operation keeps to its rules, whatever it is answered. -/
theorem plan_obeys (s : Service) (op : Operation) : (op.plan s).Obeys op.Allows op.Ends [] := by
  cases op with
  | signUp e p f l => exact signUp_obeys s e p f l
  | login e p => exact login_obeys s e p
  | forgotPassword e => exact forgotPassword_obeys s e
  | resetPassword t p => exact resetPassword_obeys s t p
  | validateToken t => exact validateToken_obeys s t

end Accounts
