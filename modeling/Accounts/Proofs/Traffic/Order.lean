import Accounts.Proofs.Service.Stores
import Accounts.Proofs.Traffic.Turns

/-! # The order of exchanges

The trace of traffic has its exchanges in the order in which they took place, and nothing but them
and the clock leads from one world to the next. So what an exchange did holds until a later one
undoes it.
-/
namespace Accounts.Traffic

/-- To answer the exchanges one after the other leads from the first world to the second one. The
clocks may move in between. -/
inductive Serves (s : Service) : World → List (Nat × Exchange) → World → Prop where
  | done (w) : Serves s w [] w
  | waited (w u v xs) : w.Ticked u → Serves s u xs v → Serves s w xs v
  | answered (w v i c xs) : Serves s (w.answer s c).1 xs v →
      Serves s w ((i, ⟨c, (w.answer s c).2⟩) :: xs) v

variable {s : Service} {t : Traffic} {w v : World} {i : Nat} {xs ys : List (Nat × Exchange)}

def opened (w : World) : Traffic :=
  ⟨w, [], []⟩

theorem Orderly.opened (s : Service) (w : World) : Orderly s (opened w) where
  reached _ _ h := nomatch h
  numbered _ _ h := nomatch h

/-- Both exchanges took place, in this order. -/
def Before (t : Traffic) (x y : Nat × Exchange) : Prop :=
  [x, y].Sublist t.trace

theorem before_of_split {x y : Nat × Exchange} (h : t.trace = xs ++ ys) (hx : x ∈ xs)
    (hy : y ∈ ys) : t.Before x y := by
  rw [Before, h]
  exact (List.singleton_sublist.mpr hx).append (List.singleton_sublist.mpr hy)

theorem Before.left {x y : Nat × Exchange} (h : t.Before x y) : x ∈ t.trace :=
  h.subset List.mem_cons_self

theorem Before.right {x y : Nat × Exchange} (h : t.Before x y) : y ∈ t.trace :=
  h.subset (List.mem_cons_of_mem _ (List.mem_singleton.mpr rfl))

theorem Before.parts {x y : Nat × Exchange} (h : t.Before x y) :
    ∃ xs ys zs, t.trace = xs ++ x :: (ys ++ y :: zs) ∧
      (∀ z ∈ xs, t.Before z x ∧ t.Before z y) ∧ (∀ z ∈ ys, t.Before x z ∧ t.Before z y) ∧
      ∀ z ∈ zs, t.Before x z ∧ t.Before y z := by
  obtain ⟨left, right, hsplit, hx, hy⟩ := List.cons_sublist_iff.mp h
  obtain ⟨xs, l, rfl⟩ := List.append_of_mem hx
  obtain ⟨m, zs, rfl⟩ := List.append_of_mem (List.singleton_sublist.mp hy)
  obtain ⟨ys, htrace⟩ : ∃ ys, t.trace = xs ++ x :: (ys ++ y :: zs) :=
    ⟨l ++ m, by simpa using hsplit⟩
  refine ⟨xs, ys, zs, htrace, ?_, ?_, ?_⟩
  · intro z hz
    exact ⟨before_of_split htrace hz (by simp), before_of_split htrace hz (by simp)⟩
  · intro z hz
    constructor
    · exact before_of_split (htrace.trans (List.append_cons ..)) (by simp) (by simp [hz])
    · rw [← List.cons_append, ← List.append_assoc] at htrace
      exact before_of_split htrace (by simp [hz]) List.mem_cons_self
  · intro z hz
    rw [← List.cons_append, ← List.append_assoc, List.append_cons] at htrace
    exact ⟨before_of_split htrace (by simp) hz, before_of_split htrace (by simp) hz⟩

theorem before_total {x y : Nat × Exchange} (hx : x ∈ t.trace) (hy : y ∈ t.trace) (hne : x ≠ y) :
    t.Before x y ∨ t.Before y x := by
  obtain ⟨xs, ys, htrace⟩ := List.append_of_mem hx
  rw [htrace] at hy
  rcases List.mem_append.mp hy with hy | hy
  · exact .inr (before_of_split htrace hy List.mem_cons_self)
  · rcases List.mem_cons.mp hy with rfl | hy
    · exact (hne rfl).elim
    · rw [List.append_cons] at htrace
      exact .inl (before_of_split htrace (by simp) hy)

theorem Before.made {x y : Exchange} (h : t.Before (i, x) (i, y)) :
    [x, y].Sublist (t.made i) := by
  have hmade := h.filterMap fun x => if x.1 = i then some x.2 else none
  simpa [Traffic.made] using hmade

theorem mem_of_follows {α : Type} {a x : α} {l r : List α} (h : [a, x].Sublist (l ++ a :: r))
    (ha : a ∉ l) : x ∈ r := by
  induction l with
  | nil => exact List.singleton_sublist.mp (List.cons_sublist_cons.mp h)
  | cons b l ih =>
    rw [List.mem_cons, not_or] at ha
    cases h with
    | cons _ h => exact ih h ha.2
    | cons_cons => exact (ha.1 rfl).elim

theorem mem_of_precedes {α : Type} {a x : α} {l r : List α} (h : [x, a].Sublist (l ++ a :: r))
    (ha : a ∉ r) : x ∈ l := by
  have hreverse : [a, x].Sublist (r.reverse ++ a :: l.reverse) := by
    simpa using List.reverse_sublist.mpr h
  exact List.mem_reverse.mp (mem_of_follows hreverse fun h => ha (List.mem_reverse.mp h))

theorem serves_after (s : Service) (t : Traffic) (turns : List Turn) :
    ∃ xs, (t.after s turns).trace = t.trace ++ xs ∧
      Serves s t.world xs (t.after s turns).world := by
  induction turns generalizing t with
  | nil => exact ⟨[], (List.append_nil _).symm, .done _⟩
  | cons turn turns ih =>
    have hs := next_step s t turn
    obtain ⟨xs, htrace, hserves⟩ := ih (t.next s turn)
    change ∃ xs, ((t.next s turn).after s turns).trace = t.trace ++ xs ∧
      Serves s t.world xs ((t.next s turn).after s turns).world
    rw [htrace]
    generalize t.next s turn = u at hs hserves
    cases hs with
    | idle => exact ⟨xs, rfl, hserves⟩
    | arrived op => exact ⟨xs, rfl, hserves⟩
    | waited u hu => exact ⟨xs, rfl, .waited _ u _ _ hu hserves⟩
    | answered i op c next hi =>
      exact ⟨_ :: xs, (List.append_cons ..).symm, .answered _ _ i c _ hserves⟩

theorem serves_opened (s : Service) (w : World) (turns : List Turn) :
    Serves s w ((opened w).after s turns).trace ((opened w).after s turns).world := by
  obtain ⟨xs, htrace, hserves⟩ := serves_after s (opened w) turns
  rw [htrace]
  exact hserves

theorem Serves.at {c : Call} {a : c.Answer} (h : Serves s w (xs ++ (i, ⟨c, a⟩) :: ys) v) :
    ∃ u, Serves s w xs u ∧ a = (u.answer s c).2 ∧ Serves s (u.answer s c).1 ys v := by
  generalize hall : xs ++ (i, ⟨c, a⟩) :: ys = all at h
  induction h generalizing xs with
  | done w =>
    rw [List.append_eq_nil_iff] at hall
    cases hall.2
  | waited w x v zs hx _ ih =>
    obtain ⟨u, hbefore, ha, hafter⟩ := ih hall
    exact ⟨u, .waited _ x _ _ hx hbefore, ha, hafter⟩
  | answered w v j e zs hrest ih =>
    cases xs with
    | nil =>
      cases hall
      exact ⟨w, .done w, rfl, hrest⟩
    | cons x xs =>
      cases hall
      obtain ⟨u, hbefore, ha, hafter⟩ := ih rfl
      exact ⟨u, .answered _ _ j e _ hbefore, ha, hafter⟩

theorem Serves.keeps {R : World → Prop} (h : Serves s w xs v)
    (clocks : ∀ u u', World.Ticked u u' → R u → R u')
    (answers : ∀ x ∈ xs, ∀ u, R u → R (World.answer s u x.2.call).1) (hw : R w) : R v := by
  induction h with
  | done w => exact hw
  | waited w u v zs hu _ ih => exact ih answers (clocks w u hu hw)
  | answered w v j e zs _ ih =>
    rw [List.forall_mem_cons] at answers
    exact ih answers.2 (answers.1 w hw)

theorem Serves.keeps_users {P : Users → Prop} (h : Serves s w xs v)
    (answers : ∀ x ∈ xs, ∀ u, P u.users → P (World.answer s u x.2.call).1.users)
    (hw : P w.users) : P v.users := by
  refine h.keeps (R := fun u => P u.users) ?_ answers hw
  rintro u _ ⟨now, system, rfl⟩ hu
  exact hu

theorem Serves.keeps_sessions {P : Session.Entries → Prop} (h : Serves s w xs v)
    (answers : ∀ x ∈ xs, ∀ u, P u.sessions → P (World.answer s u x.2.call).1.sessions)
    (hw : P w.sessions) : P v.sessions := by
  refine h.keeps (R := fun u => P u.sessions) ?_ answers hw
  rintro u _ ⟨now, system, rfl⟩ hu
  exact hu

end Accounts.Traffic
