import Accounts.Proofs.Traffic.Rules

/-! # Turns

Each request is always where its plan has come to with the answers it was given, so what its
operation keeps to can be read off its exchanges. A request that is not interrupted is answered as
it is alone.
-/
namespace Accounts.Traffic

variable {s : Service} {t u : Traffic} {i j : Nat}

inductive Step (s : Service) (t : Traffic) : Traffic → Prop where
  | idle : Step s t t
  | arrived (op) : Step s t { t with requests := t.requests ++ [⟨op, op.plan s⟩] }
  | waited (w) : t.world.Ticked w → Step s t { t with world := w }
  | answered (i op c next) : t.requests[i]? = some ⟨op, .call c next⟩ →
      Step s t ⟨(t.world.answer s c).1, t.requests.set i ⟨op, next (t.world.answer s c).2⟩,
        t.trace ++ [(i, ⟨c, (t.world.answer s c).2⟩)]⟩

theorem next_step (s : Service) (t : Traffic) (turn : Turn) : Step s t (t.next s turn) := by
  cases turn with
  | arrive op => exact .arrived op
  | wait d => exact .waited _ (World.ticked_advance t.world d)
  | setSystem moment => exact .waited _ (World.ticked_setSystem t.world moment)
  | proceed i =>
    change Step s t (t.proceed s i)
    unfold proceed
    split
    · next op c next h => exact .answered i op c next h
    · exact .idle

theorem operations_next (s : Service) (t : Traffic) (turn : Turn) :
    (t.next s turn).requests.map (·.operation) =
      t.requests.map (·.operation) ++ turn.arrival?.toList := by
  cases turn with
  | arrive op => exact List.map_append
  | wait | setSystem => exact (List.append_nil _).symm
  | proceed i =>
    change (t.proceed s i).requests.map (·.operation) = t.requests.map (·.operation) ++ []
    rw [List.append_nil]
    unfold proceed
    split
    · next op c next hi =>
      have hop : (t.requests.map (·.operation))[i]? = some op := by
        rw [List.getElem?_map, hi]
        rfl
      obtain ⟨hlength, rfl⟩ := List.getElem?_eq_some_iff.mp hop
      exact List.map_set.trans (List.set_getElem_self hlength)
    · rfl

theorem operations_after (s : Service) (t : Traffic) (turns : List Turn) :
    (t.after s turns).requests.map (·.operation) =
      t.requests.map (·.operation) ++ turns.filterMap Turn.arrival? := by
  induction turns generalizing t with
  | nil => exact (List.append_nil _).symm
  | cons turn turns ih =>
    change ((t.next s turn).after s turns).requests.map (·.operation) = _
    rw [ih, operations_next, List.append_assoc]
    cases turn <;> rfl

theorem operation?_after (s : Service) (start : Instant) (turns : List Turn) (i : Nat) :
    ((initial start).after s turns).operation? i = (turns.filterMap Turn.arrival?)[i]? := by
  have h := operations_after s (initial start) turns
  rw [operation?, ← List.getElem?_map, h]
  rfl

theorem mem_made {x : Exchange} : x ∈ t.made i ↔ (i, x) ∈ t.trace := by
  rw [made, List.mem_filterMap]
  constructor
  · rintro ⟨⟨j, y⟩, hy, h⟩
    split at h
    · next hj =>
      cases h
      cases hj
      exact hy
    · cases h
  · intro h
    exact ⟨(i, x), h, if_pos rfl⟩

theorem made_answered (w : World) (requests : List Request) (x : Exchange) :
    made ⟨w, requests, t.trace ++ [(i, x)]⟩ j =
      if i = j then t.made j ++ [x] else t.made j := by
  rw [made, made, List.filterMap_append]
  by_cases hij : i = j
  · rw [if_pos hij]
    simp [hij]
  · rw [if_neg hij]
    simp [hij]

/-- The requests are where their plans have come to, and every exchange is one of a request. -/
structure Orderly (s : Service) (t : Traffic) : Prop where
  reached : ∀ i (r : Request), t.requests[i]? = some r →
    (r.operation.plan s).Reaches (t.made i) r.rest
  numbered : ∀ i x, (i, x) ∈ t.trace → i < t.requests.length

theorem Orderly.start (s : Service) (now : Instant) : Orderly s (initial now) where
  reached _ _ h := nomatch h
  numbered _ _ h := nomatch h

theorem Orderly.step (h : Orderly s t) (hs : Step s t u) : Orderly s u := by
  cases hs with
  | idle => exact h
  | waited w hw => exact ⟨h.reached, h.numbered⟩
  | arrived op =>
    constructor
    · intro i r hr
      by_cases hi : i < t.requests.length
      · rw [List.getElem?_append_left hi] at hr
        exact h.reached i r hr
      · rw [List.getElem?_append_right (by omega), List.getElem?_singleton] at hr
        split at hr
        · cases hr
          -- Only older requests have numbers in the trace.
          have hnone : t.made i = [] := by
            rw [List.eq_nil_iff_forall_not_mem]
            intro x hx
            exact hi (h.numbered i x (mem_made.mp hx))
          change (op.plan s).Reaches (t.made i) (op.plan s)
          rw [hnone]
          exact .start
        · cases hr
    · intro i x hx
      have := h.numbered i x hx
      rw [List.length_append]
      omega
  | answered i op c next hi =>
    have hlength : i < t.requests.length := (List.getElem?_eq_some_iff.mp hi).1
    constructor
    · intro j r hr
      rw [made_answered]
      by_cases hij : i = j
      · subst hij
        rw [if_pos rfl]
        rw [List.getElem?_set_self hlength] at hr
        cases hr
        exact .step _ _ _ _ (h.reached i _ hi)
      · rw [if_neg hij]
        rw [List.getElem?_set_ne hij] at hr
        exact h.reached j r hr
    · intro j x hx
      rw [List.length_set]
      rcases List.mem_append.mp hx with hx | hx
      · exact h.numbered j x hx
      · cases List.mem_singleton.mp hx
        exact hlength

theorem Orderly.run (h : Orderly s t) (turns : List Turn) : Orderly s (t.after s turns) := by
  induction turns generalizing t with
  | nil => exact h
  | cons turn turns ih => exact ih (h.step (next_step s t turn))

theorem Orderly.obeys (h : Orderly s t) {op : Operation} {p : Plan Answer}
    (hi : t.requests[i]? = some ⟨op, p⟩) : p.Obeys op.Allows op.Ends (t.made i) :=
  ((h.reached i _ hi).obeys (plan_obeys s op)).1

theorem Orderly.allowed (h : Orderly s t) {x : Exchange} (hx : (i, x) ∈ t.trace) :
    ∃ r before, t.requests[i]? = some r ∧ (∀ y ∈ before, (i, y) ∈ t.trace) ∧
      r.operation.Allows before x.call := by
  have hi := h.numbered i x hx
  have hr : t.requests[i]? = some t.requests[i] := List.getElem?_eq_getElem hi
  have hmade := ((h.reached i _ hr).obeys (plan_obeys s _)).2
  obtain ⟨before, hbefore, hallows⟩ := hmade x (mem_made.mpr hx)
  exact ⟨_, before, hr, fun y hy => mem_made.mp (hbefore y hy), hallows⟩

/-- Turns of one request only, until it is done, change the world as the request does alone and end
with the same answer. -/
theorem proceed_to_end {op : Operation} {p : Plan Answer}
    (hi : t.requests[i]? = some ⟨op, p⟩) : ∃ n,
      (t.after s (List.replicate n (.proceed i))).world = (p.run s t.world).1 ∧
      (t.after s (List.replicate n (.proceed i))).answer? i = some (p.run s t.world).2 := by
  induction p generalizing t with
  | done r =>
    refine ⟨0, rfl, ?_⟩
    change t.answer? i = some r
    rw [answer?, hi]
  | call c next ih =>
    have hlength : i < t.requests.length := (List.getElem?_eq_some_iff.mp hi).1
    have hnext : (t.next s (.proceed i)).world = (t.world.answer s c).1 ∧
        (t.next s (.proceed i)).requests[i]? = some ⟨op, next (t.world.answer s c).2⟩ := by
      rw [Traffic.next, proceed, hi]
      exact ⟨rfl, List.getElem?_set_self hlength⟩
    obtain ⟨n, hworld, hanswer⟩ := ih _ hnext.2
    rw [hnext.1] at hworld hanswer
    exact ⟨n + 1, hworld, hanswer⟩

/-- The answer to a request and what it does to the world are those of the operation, if nothing
comes in between. -/
theorem alone (s : Service) (t : Traffic) (op : Operation) : ∃ n,
    (t.after s (.arrive op :: List.replicate n (.proceed t.requests.length))).world =
      (s.perform op t.world).1 ∧
    (t.after s (.arrive op :: List.replicate n (.proceed t.requests.length))).answer?
      t.requests.length = some (s.perform op t.world).2 := by
  have hi : (t.next s (.arrive op)).requests[t.requests.length]? = some ⟨op, op.plan s⟩ :=
    List.getElem?_concat_length
  exact proceed_to_end hi

end Accounts.Traffic
