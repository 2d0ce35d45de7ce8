import Accounts.Proofs.Service.History

/-! # The clocks in a run

No operation moves a clock, and nothing takes that of the service out of the calendar. The system's
shows the same time as long as it is not set.
-/
namespace Accounts

open World

variable {s : Service} {w : World}

/-- The event sets no clock back, and does not set the two apart. -/
def Event.KeepsTime : Event → Prop
  | .advance d => 0 ≤ d
  | .setSystem _ => False
  | _ => True

instance : DecidablePred Event.KeepsTime
  | .advance d => inferInstanceAs (Decidable (0 ≤ d))
  | .setSystem _ => .isFalse id
  | .operation _ | .outages _ | .activate .. => .isTrue trivial

theorem answer_clocks (s : Service) (w : World) (c : Call) :
    (w.answer s c).1.now = w.now ∧ (w.answer s c).1.system = w.system := by
  cases c with
  | issueToken authority subject ttl type =>
    simp only [answer, issueToken]
    split <;> exact ⟨rfl, rfl⟩
  | _ => exact ⟨rfl, rfl⟩

theorem clocks_perform (s : Service) (op : Operation) (w : World) :
    (s.perform op w).1.now = w.now ∧ (s.perform op w).1.system = w.system := by
  have asks : (op.plan s).Asks fun _ => True := (plan_asks s op).mono fun _ _ => trivial
  apply Plan.run_invariant (R := fun v => v.now = w.now ∧ v.system = w.system) asks
  · intro v c _ hv
    obtain ⟨hnow, hsystem⟩ := answer_clocks s v c
    exact ⟨hnow.trans hv.1, hsystem.trans hv.2⟩
  · exact ⟨rfl, rfl⟩

theorem now_next (s : Service) (w : World) (e : Event) :
    (w.next s e).now = w.now ∨
      ∃ d, e = .advance d ∧ Time.isInstant (w.now + d) = true ∧ (w.next s e).now = w.now + d := by
  cases e with
  | operation op => exact .inl (clocks_perform s op w).1
  | advance d =>
    simp only [next, advance, Time.after?]
    by_cases h : Time.isInstant (w.now + d) = true
    · rw [if_pos h]
      exact .inr ⟨d, rfl, h, rfl⟩
    · rw [if_neg h]
      exact .inl rfl
  | setSystem t => exact .inl rfl
  | outages o => exact .inl rfl
  | activate email active => exact .inl rfl

theorem now_le_next {e : Event} (he : e.KeepsTime) : w.now ≤ (w.next s e).now := by
  rcases now_next s w e with hsame | ⟨d, rfl, -, hnow⟩
  · exact Int.le_of_eq hsame.symm
  · rw [hnow]
    exact Int.le_add_of_nonneg_right he

theorem system_next {e : Event} (he : ∀ t, e ≠ .setSystem t) (h : w.system = w.now) :
    (w.next s e).system = (w.next s e).now := by
  cases e with
  | operation op =>
    obtain ⟨hnow, hsystem⟩ := clocks_perform s op w
    exact hsystem.trans (h.trans hnow.symm)
  | advance d =>
    simp only [next, advance, h]
    cases Time.after? w.now d with
    | none => exact h
    | some t => rfl
  | setSystem t => exact absurd rfl (he t)
  | outages o => exact h
  | activate email active => exact h

theorem clocks_agree_after (s : Service) (start : Instant) (past : List Event)
    (unset : ∀ t, .setSystem t ∉ past) :
    ((initial start).after s past).system = ((initial start).after s past).now := by
  induction past using run_induction with
  | start => rfl
  | step past e ih =>
    rw [after_snoc]
    apply system_next
    · rintro t rfl
      exact unset t (List.mem_append_right _ (.head _))
    · exact ih fun t ht => unset t (List.mem_append_left _ ht)

theorem isInstant_after (start : Instant) (h : Time.isInstant start = true) (past : List Event) :
    Time.isInstant ((initial start).after s past).now = true := by
  induction past using run_induction with
  | start => exact h
  | step past e ih =>
    rw [after_snoc]
    rcases now_next s ((initial start).after s past) e with hsame | ⟨d, -, hd, hnow⟩
    · rw [hsame]
      exact ih
    · rw [hnow]
      exact hd

end Accounts
