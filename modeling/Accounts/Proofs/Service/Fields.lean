import Accounts.Proofs.Service.Trace
import Accounts.Proofs.Text.Trimming

/-! # Accepted fields

What an accepted field was before it was trimmed, and what an accepted new password is. A missing
field counts as empty, so nothing that is missing is accepted.
-/
namespace Accounts

open Validation

theorem ok_of_toOption {ε α : Type} {x : Except ε α} {a : α} (h : x.toOption = some a) :
    x = .ok a := by
  cases x with
  | error e => cases h
  | ok b => rw [Option.some.inj h]

theorem trim_empty : (LooseText.ofString "").trim = LooseText.ofString "" := by
  rw [LooseText.trim_ofString]
  rfl

theorem field_of_email {field : Option LooseText} {e : String} (h : email field = .ok e) :
    ∃ t, field = some t ∧ t.trim = LooseText.ofString e := by
  cases field with
  | none =>
    rw [email] at h
    simp only [Option.getD_none, trim_empty] at h
    exact nomatch h
  | some t =>
    refine ⟨t, rfl, ?_⟩
    simp only [email, Option.getD_some] at h
    split at h
    · cases h
    · split at h
      · cases h
      · split at h
        · next hs =>
          split at h
          · cases h
            exact LooseText.string?_eq_some_iff.mp hs
          · cases h
        · cases h

theorem email_of_accepted {field : Option LooseText} {e : String} (h : email field = .ok e) :
    email (some (LooseText.ofString e)) = .ok e := by
  obtain ⟨t, rfl, htrim⟩ := field_of_email h
  rw [email, Option.getD_some] at h ⊢
  rwa [← htrim, LooseText.trim_trim]

theorem trim_of_name {word n : String} {field : Option LooseText} (h : name word field = .ok n) :
    (field.getD "").trim = LooseText.ofString n := by
  simp only [name] at h
  repeat' split at h
  all_goals cases h
  next hs _ => exact LooseText.string?_eq_some_iff.mp hs

theorem name_of_accepted {word n : String} {field : Option LooseText}
    (h : name word field = .ok n) : name word (some (LooseText.ofString n)) = .ok n := by
  have htrim := trim_of_name h
  rw [name] at h ⊢
  rwa [Option.getD_some, ← htrim, LooseText.trim_trim]

theorem field_of_token {field : Option LooseText} {k : LooseText} (h : token field = .ok k) :
    ∃ t, field = some t ∧ t.trim = k := by
  cases field with
  | none =>
    rw [token] at h
    simp only [Option.getD_none, trim_empty] at h
    exact nomatch h
  | some t =>
    refine ⟨t, rfl, ?_⟩
    simp only [token, Option.getD_some] at h
    split at h
    · cases h
    · split at h
      · cases h
      · cases h
        rfl

theorem token_of_length {field k : LooseText} (htrim : field.trim = k) (hpos : 0 < k.length)
    (hmax : k.length ≤ maxTokenLength) : token (some field) = .ok k := by
  have hne : k.isEmpty = false := by
    rw [LooseText.isEmpty, List.isEmpty_eq_false_iff, ← List.length_pos_iff]
    exact hpos
  simp only [token, Option.getD_some, htrim, hne, Nat.not_lt.mpr hmax, if_false]
  rfl

theorem field_of_presentedPassword {field : Option LooseText} {t : LooseText}
    (h : presentedPassword field = .ok t) : field = some t := by
  unfold presentedPassword at h
  cases field with
  | none =>
    simp only [Option.getD_none] at h
    exact nomatch h
  | some x =>
    simp only [Option.getD_some] at h
    split at h
    · cases h
    · cases h
      rfl

theorem eq_of_strongPassword {p q : String} (h : strongPassword p = .ok q) : q = p := by
  unfold strongPassword at h
  split at h
  · cases h
  · split at h
    · cases h
      rfl
    · cases h

theorem short_of_strongPassword {p q : String} (h : strongPassword p = .ok q) :
    Password.isTooLong p = false := by
  unfold strongPassword at h
  split at h
  · cases h
  · next hlength => exact decide_eq_false hlength

theorem field_of_passwordText {field : Option LooseText} {t : LooseText}
    (h : passwordText field = .ok t) : field = some t := by
  unfold passwordText at h
  cases field with
  | none =>
    simp only [Option.getD_none] at h
    exact nomatch h
  | some x =>
    simp only [Option.getD_some] at h
    split at h
    · cases h
    · split at h
      · cases h
      · cases h
        rfl

theorem password_ok_iff {p : String} :
    password (some p) = .ok p ↔
      passwordText (some (LooseText.ofString p)) = .ok (LooseText.ofString p) ∧
        strongPassword p = .ok p := by
  unfold password
  simp only [Option.map_some, Option.getD_some]
  cases hp : passwordText (some (LooseText.ofString p)) with
  | error e => simp [bind, Except.bind]
  | ok t =>
    have ht := field_of_passwordText hp
    simp only [Option.some.injEq] at ht
    subst ht
    simp [bind, Except.bind]

theorem ne_empty_of_password {p : String} (h : password (some p) = .ok p) : p ≠ "" := by
  rintro rfl
  have ht := (password_ok_iff.mp h).1
  exact nomatch ht

theorem newPassword_run {s : Service} {field : Option LooseText} {w v : World}
    {r : Except Failure String} (h : (Service.newPassword field).run s w = (v, r)) :
    v = w ∧ ∀ p, r = .ok p →
      field = some (LooseText.ofString p) ∧ password (some p) = .ok p := by
  unfold Service.newPassword at h
  cases ht : passwordText field with
  | error problem =>
    simp only [ht, Plan.valid, Plan.run_bind_fail, Prod.mk.injEq] at h
    refine ⟨h.1.symm, ?_⟩
    intro p hp
    rw [← h.2] at hp
    cases hp
  | ok t =>
    simp only [ht, Plan.valid, Plan.run_bind_pure, Plan.encodable] at h
    cases hs : t.string? with
    | none =>
      simp only [hs, Plan.run_bind_crash, Prod.mk.injEq] at h
      refine ⟨h.1.symm, ?_⟩
      intro p hp
      rw [← h.2] at hp
      cases hp
    | some q =>
      simp only [hs, Plan.run_bind_pure] at h
      have hf := field_of_passwordText ht
      rw [LooseText.string?_eq_some_iff] at hs
      subst hs
      cases hq : strongPassword q with
      | error problem =>
        simp only [hq, Plan.run_fail, Prod.mk.injEq] at h
        refine ⟨h.1.symm, ?_⟩
        intro p hp
        rw [← h.2] at hp
        cases hp
      | ok q' =>
        have he := eq_of_strongPassword hq
        subst he
        simp only [hq, Plan.run_pure, Prod.mk.injEq] at h
        refine ⟨h.1.symm, ?_⟩
        intro p hp
        rw [← h.2] at hp
        cases hp
        subst hf
        exact ⟨rfl, password_ok_iff.mpr ⟨ht, hq⟩⟩

end Accounts
