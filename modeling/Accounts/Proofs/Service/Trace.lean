import Accounts.Service.Run

/-! # Traces of plans

A trace lists the calls of a plan, each with the world that answers it. A claim about what an
operation asked for, and when, is a claim about its trace. Running and tracing are both read off
step by step with the lemmas here, so no later proof opens a plan by hand.
-/
namespace Accounts

/-- A call and the world that answers it. -/
structure Moment where
  world : World
  call : Call

def Moment.Pops (s : Service) (m : Moment) (key : LooseText) (value : String) : Prop :=
  m.call = .popSession key ∧
    (Session.pop s.backing m.world.outages.sessions m.world.now key m.world.sessions).answer =
      .ok (some value)

namespace Plan

variable {α β γ : Type} {s : Service}

def trace (s : Service) : Plan α → World → List Moment
  | .done _, _ => []
  | .call c next, w => ⟨w, c⟩ :: (next (w.answer s c).2).trace s (w.answer s c).1

theorem bind_eq (p : Plan α) (f : α → Plan β) : p >>= f = p.bind f := rfl

@[simp] theorem bind_bind (p : Plan α) (f : α → Plan β) (g : β → Plan γ) :
    (p >>= f) >>= g = p >>= fun a => f a >>= g := by
  simp only [bind_eq]
  induction p with
  | done r => cases r <;> rfl
  | call c next ih =>
    simp only [bind, call.injEq, heq_eq_eq, true_and]
    funext r
    exact ih r

@[simp] theorem run_done (r : Except Failure α) (w : World) : (done r).run s w = (w, r) := rfl

@[simp] theorem run_pure (a : α) (w : World) : (pure a : Plan α).run s w = (w, .ok a) := rfl

@[simp] theorem run_fail (f : Fault) (w : World) :
    (fail f : Plan α).run s w = (w, .error (.fault f)) := rfl

@[simp] theorem run_crash (b : Breakage) (w : World) :
    (crash b : Plan α).run s w = (w, .error (.broken b)) := rfl

@[simp] theorem run_ask (c : Call) (w : World) :
    (ask c).run s w = ((w.answer s c).1, .ok (w.answer s c).2) := rfl

@[simp] theorem run_bind_pure (a : α) (f : α → Plan β) (w : World) :
    ((pure a : Plan α) >>= f).run s w = (f a).run s w := rfl

@[simp] theorem run_bind_fail (f : Fault) (g : α → Plan β) (w : World) :
    ((fail f : Plan α) >>= g).run s w = (w, .error (.fault f)) := rfl

@[simp] theorem run_bind_crash (b : Breakage) (g : α → Plan β) (w : World) :
    ((crash b : Plan α) >>= g).run s w = (w, .error (.broken b)) := rfl

@[simp] theorem run_bind_ask (c : Call) (f : c.Answer → Plan β) (w : World) :
    (@Bind.bind Plan _ (no_index c.Answer) β (ask c) f).run s w =
      (f (w.answer s c).2).run s (w.answer s c).1 := rfl

@[simp] theorem run_bind_ofExcept_ok (a : α) (f : α → Plan β) (w : World) :
    (ofExcept (.ok a) >>= f).run s w = (f a).run s w := rfl

@[simp] theorem run_bind_ofExcept_error (e : Failure) (f : α → Plan β) (w : World) :
    (ofExcept (.error e) >>= f).run s w = (w, .error e) := rfl

theorem run_bind_cases {p : Plan α} {f : α → Plan β} {w v : World} {r : Except Failure β}
    (h : (p >>= f).run s w = (v, r)) :
    (∃ e, p.run s w = (v, .error e) ∧ r = .error e) ∨
      ∃ u a, p.run s w = (u, .ok a) ∧ (f a).run s u = (v, r) := by
  rw [bind_eq, run_bind] at h
  rcases hp : p.run s w with ⟨u, e | a⟩
  · rw [hp] at h
    simp only [Prod.mk.injEq] at h
    exact .inl ⟨e, by rw [h.1], h.2.symm⟩
  · rw [hp] at h
    exact .inr ⟨u, a, rfl, h⟩

theorem run_bind_ok {p : Plan α} {f : α → Plan β} {w v : World} {b : β}
    (h : (p >>= f).run s w = (v, .ok b)) :
    ∃ u a, p.run s w = (u, .ok a) ∧ (f a).run s u = (v, .ok b) := by
  rcases run_bind_cases h with ⟨e, -, he⟩ | hboth
  · cases he
  · exact hboth

@[simp] theorem trace_done (r : Except Failure α) (w : World) : (done r).trace s w = [] := rfl

theorem trace_bind (p : Plan α) (f : α → Plan β) (w : World) :
    (p >>= f).trace s w = p.trace s w ++
      match p.run s w with
      | (v, .ok a) => (f a).trace s v
      | (_, .error _) => [] := by
  rw [bind_eq]
  induction p generalizing w with
  | done r => cases r <;> rfl
  | call c next ih =>
    simp only [bind, trace, run, List.cons_append, List.cons.injEq, true_and]
    exact ih _ _

theorem trace_bind_ask (c : Call) (f : c.Answer → Plan β) (w : World) :
    (@Bind.bind Plan _ (no_index c.Answer) β (ask c) f).trace s w =
      ⟨w, c⟩ :: (f (w.answer s c).2).trace s (w.answer s c).1 := rfl

theorem trace_bind_pure (a : α) (f : α → Plan β) (w : World) :
    ((pure a : Plan α) >>= f).trace s w = (f a).trace s w := rfl

@[simp] theorem trace_mapResult (f : α → β) (p : Plan α) (w : World) :
    (p.mapResult f).trace s w = p.trace s w := by
  change (p >>= fun a => Plan.done (.ok (f a))).trace s w = _
  rw [trace_bind]
  rcases p.run s w with ⟨v, e | a⟩ <;> simp

theorem mem_trace_bind {p : Plan α} {f : α → Plan β} {w : World} {m : Moment} :
    m ∈ (p >>= f).trace s w ↔
      m ∈ p.trace s w ∨ ∃ v a, p.run s w = (v, .ok a) ∧ m ∈ (f a).trace s v := by
  rw [trace_bind, List.mem_append]
  rcases p.run s w with ⟨v, e | a⟩
  · constructor
    · rintro (h | h)
      · exact .inl h
      · cases h
    · rintro (h | ⟨_, _, h, -⟩)
      · exact .inl h
      · cases h
  · constructor
    · intro h
      exact h.imp_right fun h => ⟨v, a, rfl, h⟩
    · rintro (h | ⟨_, _, heq, h⟩)
      · exact .inl h
      · cases heq
        exact .inr h

/-- Every call that the plan can make satisfies the test, whatever it is answered. -/
def Asks (P : Call → Prop) : Plan α → Prop
  | .done _ => True
  | .call c next => P c ∧ ∀ r, (next r).Asks P

variable {P : Call → Prop}

theorem asks_bind {p : Plan α} {f : α → Plan β} (hp : p.Asks P) (hf : ∀ a, (f a).Asks P) :
    (p >>= f).Asks P := by
  rw [bind_eq]
  induction p with
  | done r =>
    rcases r with e | a
    · trivial
    · exact hf a
  | call c next ih => exact ⟨hp.1, fun r => ih r (hp.2 r)⟩

theorem asks_ask {c : Call} (h : P c) : (ask c).Asks P := ⟨h, fun _ => trivial⟩

theorem asks_done (r : Except Failure α) : (done r).Asks P := trivial

theorem call_of_mem_trace {p : Plan α} (hp : p.Asks P) {w : World} {m : Moment}
    (hm : m ∈ p.trace s w) : P m.call := by
  induction p generalizing w with
  | done r => cases hm
  | call c next ih =>
    rcases List.mem_cons.mp hm with rfl | hm
    · exact hp.1
    · exact ih _ (hp.2 _) hm

/-- What no call of a plan changes, the plan does not change. -/
theorem run_invariant {R : World → Prop} {p : Plan α} (hp : p.Asks P)
    (step : ∀ w c, P c → R w → R (w.answer s c).1) {w : World} (hw : R w) :
    R (p.run s w).1 := by
  induction p generalizing w with
  | done r => exact hw
  | call c next ih => exact ih _ (hp.2 _) (step w c hp.1 hw)

end Plan

end Accounts
