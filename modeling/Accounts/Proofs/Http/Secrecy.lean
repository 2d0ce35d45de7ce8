import Accounts.Proofs.Account.FailedLogins
import Accounts.Proofs.Service.Twins

/-! # Secrecy of hashes

Nothing that is sent or logged depends on a stored hash, except through the outcome of the
comparison that a login makes with it.
-/
namespace Accounts.Http

open Plan

variable {s t : Service} {w w' : World} {o : Nat → Outages} {app : App} {r : Request}

theorem submit_alike {ms : Json.Members} {e : Endpoint} (hw : w.Twin w')
    (h : e = .login → w.compared s t (fieldOf ms "email") (fieldOf ms "password") o =
      w'.compared s t (fieldOf ms "email") (fieldOf ms "password") o) :
    RunAlike t Eq o w w' (submit s ms e) (submit s ms e) := by
  have answered : ∀ {α : Type} {p : Plan α} (f : α → Response), RunAlike t Eq o w w' p p →
      RunAlike t Eq o w w' (p >>= fun a => pure (f a)) (p >>= fun a => pure (f a)) :=
    fun f hp => hp.bind fun a b hab => alike_pure (congrArg f hab)
  cases e with
  | signUp => exact answered _ (signUp_alike s _ _ _ _ o w w' hw)
  | login => exact answered _ (login_alike hw (h rfl))
  | forgotPassword => exact answered _ (forgotPassword_alike s _ o w w' hw)
  | resetPassword => exact answered _ (resetPassword_alike s _ _ o w w' hw)
  | validateToken => exact answered _ (validateToken_alike s _ o w w' hw)
  | me | health => exact alike_pure rfl o w w' hw

theorem answerFault_rowless (r : Request) (f : Fault) :
    (answerFault r f).Asks Call.IsRowless := by
  unfold answerFault
  split
  · cases r.addressPath with
    | error b => trivial
    | ok path => exact asks_bind (asks_ask trivial) fun _ => trivial
  · trivial

theorem guarded_alike {p : Plan Response} (r : Request) (h : RunAlike t Eq o w w' p p) :
    RunAlike t Eq o w w' (guarded r p) (guarded r p) := by
  refine h.attempt.bind fun result result' hresult => ?_
  rw [hresult.eq]
  refine alike_rowless ?_
  rcases result' with (f | b) | response
  · exact answerFault_rowless r f
  · trivial
  · trivial

theorem currentUser_alike (s : Service) (r : Request) :
    Alike t Eq (currentUser s r) (currentUser s r) := by
  unfold currentUser
  split
  · exact alike_fail _
  · refine alike_bind (validateToken_alike s _) ?_
    rintro v _ rfl
    exact alike_pure rfl

theorem health_rowless : health.Asks Call.IsRowless := by
  refine asks_bind (asks_ask trivial) fun database => ?_
  split
  · exact asks_bind (asks_ask trivial) fun _ => trivial
  · exact asks_bind (asks_ask trivial) fun _ => asks_bind (asks_ask trivial) fun _ => trivial

/-- In both worlds, a request that asks for a login finds out the same about the password. -/
def Request.ComparesAlike (app : App) (o : Nat → Outages) (w w' : World) (r : Request) : Prop :=
  ∀ s email password, app.service = .ok s →
    r.AsksFor app.base.suite.nesting.body (.login email password) →
    w.compared s app.base email password o = w'.compared s app.base email password o

theorem handleForm_alike {e : Endpoint} (hw : w.Twin w') (h : r.ComparesAlike app o w w')
    (hpath : Endpoint.at? r.path = some e) (hmethod : r.method = e.method) :
    RunAlike app.base Eq o w w' (handleForm app e r) (handleForm app e r) := by
  unfold handleForm
  dsimp only
  cases hpayload : r.payload app.base.suite.nesting.body with
  | notJson refusal => exact alike_pure rfl o w w' hw
  | unreadable => exact alike_pure rfl o w w' hw
  | none => cases app.service <;> exact alike_pure rfl o w w' hw
  | value v =>
    cases hs : app.service with
    | error b => exact alike_pure rfl o w w' hw
    | ok s =>
      dsimp only
      cases hform : formOf e.fields v with
      | error cs => exact alike_pure rfl o w w' hw
      | ok ms =>
        refine guarded_alike r (submit_alike hw ?_)
        rintro rfl
        exact h s _ _ hs ⟨.login, v, ms, hpath, hmethod, hpayload, hform, rfl⟩

theorem dispatch_alike (hw : w.Twin w') (h : r.ComparesAlike app o w w') :
    RunAlike app.base Eq o w w' (dispatch app r) (dispatch app r) := by
  unfold dispatch
  cases hpath : Endpoint.at? r.path with
  | none => exact alike_pure rfl o w w' hw
  | some e =>
    dsimp only
    split
    · next hmethod =>
      cases e with
      | health => exact guarded_alike r (alike_rowless health_rowless o w w' hw)
      | me =>
        unfold handle
        cases app.service with
        | error b => exact alike_pure rfl o w w' hw
        | ok s => exact guarded_alike r (currentUser_alike s r o w w' hw)
      | signUp | login | forgotPassword | resetPassword | validateToken =>
        exact handleForm_alike hw h hpath hmethod
    · exact alike_pure rfl o w w' hw

theorem respond_alike (hw : w.Twin w') (h : r.ComparesAlike app o w w') :
    RunAlike app.base Eq o w w' (respond app r) (respond app r) := by
  refine (dispatch_alike hw h).bind ?_
  rintro reply _ rfl
  refine alike_rowless ?_
  cases reply with
  | crash b => trivial
  | response response =>
    dsimp only
    cases r.addressPath with
    | error b => trivial
    | ok path =>
      dsimp only
      split
      · exact asks_bind (asks_ask trivial) fun _ => trivial
      · trivial

/-- A request comes in, and commands fail by the number of its call, or time passes, or the system's
clock is set. -/
inductive Happening where
  | request (r : Request) (outages : Nat → Outages)
  | wait (d : Duration)
  | setSystem (t : Instant)

namespace App

variable (app : App)

def serve (r : Request) (o : Nat → Outages) (w : World) : World × Except Failure Reply :=
  (respond app r).runUnder app.base o w

def next (w : World) : Happening → World
  | .request r o => (app.serve r o w).1
  | .wait d => (w.advance d).1
  | .setSystem t => w.setSystem t

def after (w : World) (xs : List Happening) : World :=
  xs.foldl app.next w

/-- What is seen of a run: the reply to each request, and the log after it. -/
def shown (w : World) : List Happening → List (Except Failure Reply × List Note)
  | [] => []
  | .request r o :: xs =>
    ((app.serve r o w).2, (app.serve r o w).1.log) :: shown (app.serve r o w).1 xs
  | .wait d :: xs => shown (w.advance d).1 xs
  | .setSystem t :: xs => shown (w.setSystem t) xs

/-- In two runs of the same happenings, the comparisons of logins come to the same. -/
def ComparesAlike (w w' : World) : List Happening → Prop
  | [] => True
  | .request r o :: xs =>
    r.ComparesAlike app o w w' ∧ ComparesAlike (app.serve r o w).1 (app.serve r o w').1 xs
  | .wait d :: xs => ComparesAlike (w.advance d).1 (w'.advance d).1 xs
  | .setSystem t :: xs => ComparesAlike (w.setSystem t) (w'.setSystem t) xs

end App

theorem twin_advance (hw : w.Twin w') (d : Duration) : (w.advance d).1.Twin (w'.advance d).1 := by
  obtain ⟨us, hus, rfl⟩ := hw
  unfold World.advance
  dsimp only
  split <;> exact ⟨us, hus, rfl⟩

theorem twin_setSystem (hw : w.Twin w') (t : Instant) : (w.setSystem t).Twin (w'.setSystem t) := by
  obtain ⟨us, hus, rfl⟩ := hw
  exact ⟨us, hus, rfl⟩

theorem log_of_twin (hw : w.Twin w') : w'.log = w.log := by
  obtain ⟨us, -, rfl⟩ := hw
  rfl

theorem serve_alike (hw : w.Twin w') (h : r.ComparesAlike app o w w') :
    (app.serve r o w).1.Twin (app.serve r o w').1 ∧ (app.serve r o w).2 = (app.serve r o w').2 :=
  (respond_alike hw h).run.imp_right EndsAlike.eq

/-- In two states that differ at most in stored hashes, the same requests get the same replies and
leave the same notes, whatever fails and however long it takes, if every comparison of a password
with a stored hash comes to the same. The states after them differ at most in stored hashes. -/
theorem hashes_stay_secret (app : App) (hw : w.Twin w') (xs : List Happening)
    (h : app.ComparesAlike w w' xs) :
    app.shown w xs = app.shown w' xs ∧ (app.after w xs).Twin (app.after w' xs) := by
  induction xs generalizing w w' with
  | nil => exact ⟨rfl, hw⟩
  | cons x xs ih =>
    cases x with
    | request r o =>
      obtain ⟨hafter, hreply⟩ := serve_alike hw h.1
      obtain ⟨hrest, hend⟩ := ih hafter h.2
      refine ⟨?_, hend⟩
      rw [App.shown, App.shown, hrest, hreply, log_of_twin hafter]
    | wait d => exact ih (twin_advance hw d) h
    | setSystem t => exact ih (twin_setSystem hw t) h

theorem twin_setHash (w : World) (email hash : String) : w.Twin (w.setHash email hash).1 := by
  refine ⟨_, ?_, rfl⟩
  rw [List.forall₂_map_right_iff, List.forall₂_same]
  intro u _
  split
  · exact ⟨hash, rfl⟩
  · exact .refl u

theorem Request.AsksFor.unique {depth : Nat} {op op' : Operation} (h : r.AsksFor depth op)
    (h' : r.AsksFor depth op') : op = op' := by
  obtain ⟨e, v, ms, hpath, -, hpayload, hform, hop⟩ := h
  obtain ⟨e', v', ms', hpath', -, hpayload', hform', hop'⟩ := h'
  cases hpath.symm.trans hpath'
  cases hpayload.symm.trans hpayload'
  cases hform.symm.trans hform'
  exact Option.some.inj (hop.symm.trans hop')

/-- A hash of Ann's password with another salt than the one that was drawn. -/
def annOtherHash : String :=
  Password.compute Service.small.suite ⟨.b, 4, .ofFn fun i => UInt8.ofNat (100 + i)⟩
    "first password 1"

def annLogsInOnce : List Happening :=
  [.request (loginForm "ann@example.org" "first password 1") fun _ => .none, .wait Time.hour]

theorem ok_of_toOptions {ε ε' α : Type} {x : Except ε (Except ε' α)} {a : α}
    (h : x.toOption.bind Except.toOption = some a) : x = .ok (.ok a) := by
  obtain ⟨y, hx, hy⟩ := Option.bind_eq_some_iff.mp h
  rw [ok_of_toOption hx, ok_of_toOption hy]

theorem other_salt_unseen : ∃ w w' : World,
    World.withAnn .small 0 = w ∧ (w.setHash "ann@example.org" annOtherHash).1 = w' ∧
    w.Twin w' ∧ w.users ≠ w'.users ∧
    App.ComparesAlike ⟨.small, 15, 168, 30⟩ w w' annLogsInOnce ∧
    App.shown ⟨.small, 15, 168, 30⟩ w annLogsInOnce =
      App.shown ⟨.small, 15, 168, 30⟩ w' annLogsInOnce := by
  have compares : App.ComparesAlike ⟨.small, 15, 168, 30⟩ (World.withAnn .small 0)
      ((World.withAnn .small 0).setHash "ann@example.org" annOtherHash).1 annLogsInOnce := by
    refine ⟨?_, trivial⟩
    intro s email password hs hasks
    have hform : Request.AsksFor (loginForm "ann@example.org" "first password 1")
        Service.small.suite.nesting.body
        (.login (some "ann@example.org") (some "first password 1")) :=
      formRequest_asks rfl rfl
    cases hasks.unique hform
    cases hs
    have matched : ∀ v : World, v = World.withAnn .small 0 ∨
        v = ((World.withAnn .small 0).setHash "ann@example.org" annOtherHash).1 →
        v.compared .small .small (some "ann@example.org") (some "first password 1")
          (fun _ => .none) = .ok (.ok true) := by
      rintro v (rfl | rfl) <;> exact ok_of_toOptions (by decide +kernel)
    exact (matched _ (.inl rfl)).trans (matched _ (.inr rfl)).symm
  exact ⟨_, _, rfl, rfl, twin_setHash _ _ _, by decide +kernel, compares,
    (hashes_stay_secret ⟨.small, 15, 168, 30⟩ (twin_setHash _ _ _) annLogsInOnce compares).1⟩

end Accounts.Http
