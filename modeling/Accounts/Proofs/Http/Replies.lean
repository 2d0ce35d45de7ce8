import Accounts.Http.App
import Accounts.Proofs.Service.Trace

/-! # Replies to forms

A request with a form that is in order asks for one operation, and the reply to it depends on the
outcome of that operation alone: not on the rest of the request, and not on the state.
-/
namespace Accounts

variable {α : Type} {s : Service} {w : World}

theorem run_lifetimes (s : Service) (l : Lifetimes) (p : Plan α) (w : World) :
    p.run { s with lifetimes := l } w = p.run s w := by
  have answers : ∀ (w : World) (c : Call), w.answer { s with lifetimes := l } c = w.answer s c := by
    intro w c
    cases c <;> rfl
  induction p generalizing w with
  | done r => rfl
  | call c next ih =>
    rw [Plan.run, Plan.run, answers]
    exact ih _ _

namespace Http

def Endpoint.operation? (ms : Json.Members) : Endpoint → Option Operation
  | .signUp => some (.signUp (fieldOf ms "email") (fieldOf ms "password")
      (fieldOf ms "first_name") (fieldOf ms "last_name"))
  | .login => some (.login (fieldOf ms "email") (fieldOf ms "password"))
  | .forgotPassword => some (.forgotPassword (fieldOf ms "email"))
  | .resetPassword => some (.resetPassword (fieldOf ms "token") (fieldOf ms "new_password"))
  | .validateToken => some (.validateToken (fieldOf ms "access_token"))
  | .me | .health => none

def answerResponse : Answer → Response
  | .signedUp r => .ofJson 201 (signedUpJson r) []
  | .loggedIn r => .ofJson 200 (loggedInJson r) []
  | .status r => .ofJson 200 (statusJson r) []
  | .validated r => .ofJson 200 (validatedJson r) []

/-- What the handling of a request comes to, before the headers that every response has. -/
def replyOf : Except Failure Response → Reply
  | .ok r => .response r
  | .error (.fault f) => .response (faultResponse f)
  | .error (.broken b) => .crash b

/-- The reply in the end: the response is secured, unless the address of the request has no path. -/
def Reply.sent (r : Request) : Reply → Reply
  | .crash b => .crash b
  | .response answer =>
    match r.addressPath with
    | .error b => .crash b
    | .ok _ => .response answer.secured

/-- The request brings a form for an operation, and the form is in order when its body is read with
so much room for nesting. -/
def Request.AsksFor (r : Request) (depth : Nat) (op : Operation) : Prop :=
  ∃ e v ms, Endpoint.at? r.path = some e ∧ r.method = e.method ∧ r.payload depth = .value v ∧
    formOf e.fields v = .ok ms ∧ e.operation? ms = some op

theorem submit_run {ms : Json.Members} {e : Endpoint} {op : Operation}
    (h : e.operation? ms = some op) :
    ((submit s ms e).run s w).2 = (s.perform op w).2.map answerResponse := by
  have mapped : ∀ {β : Type} (p : Plan β) (f : β → Answer),
      ((p >>= fun b => pure (answerResponse (f b))).run s w).2 =
        ((p.mapResult f).run s w).2.map answerResponse := by
    intro β p f
    rw [Plan.run_mapResult, Plan.bind_eq, Plan.run_bind]
    rcases p.run s w with ⟨v, e | b⟩ <;> rfl
  cases e with
  | signUp =>
    cases h
    exact mapped _ .signedUp
  | login =>
    cases h
    exact mapped _ .loggedIn
  | forgotPassword =>
    cases h
    exact mapped _ .status
  | resetPassword =>
    cases h
    exact mapped _ .status
  | validateToken =>
    cases h
    exact mapped _ .validated
  | me | health => cases h

theorem answerFault_run (r : Request) (f : Fault) :
    ∃ reply, ((answerFault r f).run s w).2 = .ok reply ∧
      reply.sent r = (Reply.response (faultResponse f)).sent r := by
  unfold answerFault
  split
  · cases hpath : r.addressPath with
    | error b => exact ⟨.crash b, rfl, by simp only [Reply.sent, hpath]⟩
    | ok path => exact ⟨_, rfl, rfl⟩
  · exact ⟨_, rfl, rfl⟩

theorem guarded_run (r : Request) (p : Plan Response) :
    ∃ reply, ((guarded r p).run s w).2 = .ok reply ∧
      reply.sent r = (replyOf (p.run s w).2).sent r := by
  unfold guarded
  rw [Plan.bind_eq, Plan.run_bind, Plan.run_attempt]
  rcases (p.run s w).2 with (f | b) | response
  · exact answerFault_run r f
  · exact ⟨_, rfl, rfl⟩
  · exact ⟨_, rfl, rfl⟩

theorem respond_run (app : App) (r : Request) {reply : Reply}
    (h : ((dispatch app r).run s w).2 = .ok reply) :
    ((respond app r).run s w).2 = .ok (reply.sent r) := by
  unfold respond
  rw [Plan.bind_eq, Plan.run_bind]
  generalize (dispatch app r).run s w = x at h
  obtain ⟨v, result⟩ := x
  cases h
  cases reply with
  | crash b => rfl
  | response response =>
    dsimp only [Reply.sent]
    cases r.addressPath with
    | error b => rfl
    | ok path =>
      dsimp only
      split <;> rfl

theorem dispatch_form {app : App} {r : Request} {op : Operation} (hs : app.service = .ok s)
    (h : r.AsksFor app.base.suite.nesting.body op) :
    ∃ reply, ((dispatch app r).run s w).2 = .ok reply ∧
      reply.sent r = (replyOf ((s.perform op w).2.map answerResponse)).sent r := by
  obtain ⟨e, v, ms, hpath, hmethod, hpayload, hform, hop⟩ := h
  have hhandle : handle app e r = guarded r (submit s ms e) := by
    have handled : handleForm app e r = guarded r (submit s ms e) := by
      unfold handleForm
      simp only [hpayload, hs, hform]
    cases e with
    | signUp | login | forgotPassword | resetPassword | validateToken => exact handled
    | me | health => cases hop
  unfold dispatch
  simp only [hpath, hmethod, if_true]
  rw [hhandle, ← submit_run hop]
  exact guarded_run r _

theorem lifetimes_of_service {app : App} (hs : app.service = .ok s) :
    s = { app.base with lifetimes := s.lifetimes } := by
  unfold App.service at hs
  cases hl : Lifetimes.ofCounts app.accessMinutes app.refreshHours app.resetMinutes with
  | error b =>
    rw [hl] at hs
    cases hs
  | ok l =>
    rw [hl] at hs
    cases hs
    rfl

theorem reply_to_form {app : App} {r : Request} {op : Operation} (hs : app.service = .ok s)
    (h : r.AsksFor app.base.suite.nesting.body op) :
    ((respond app r).run app.base w).2 =
      .ok ((replyOf ((s.perform op w).2.map answerResponse)).sent r) := by
  rw [← run_lifetimes app.base s.lifetimes, ← lifetimes_of_service hs]
  obtain ⟨reply, hreply, hsent⟩ := dispatch_form (w := w) hs h
  rw [← hsent]
  exact respond_run app r hreply

end Http

end Accounts
