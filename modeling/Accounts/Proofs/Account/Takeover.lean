import Accounts.Proofs.Account.Changes
import Accounts.Proofs.Session.ResetTokens

/-! # Taking over an account

Whoever changes the password of an account holds a token that was drawn for its email, is used for
the first time and has not expired.
-/
namespace Accounts

/-- If no secret is drawn twice, an event that changes the stored hash of a user is a reset with a
token that an earlier request drew for the user's email, that no earlier step popped, and whose
lifetime is not over. The new hash is that of the new password, which is accepted. All calls of one
operation are answered at one instant. -/
theorem hash_changes_by_reset (s : Service) (start : Instant) (past : List Event) (e : Event)
    (fresh : ((World.initial start).secrets s past).Nodup) {u v : User}
    (hu : u ∈ ((World.initial start).after s past).users)
    (hv : v ∈ ((World.initial start).after s (past ++ [e])).users)
    (hid : v.id = u.id) (hhash : v.passwordHash ≠ u.passwordHash) :
    ∃ t p, e = .operation (.resetPassword (some t) (some (LooseText.ofString p))) ∧
      (∃ x ∈ (World.initial start).steps s past, ∃ field drawn,
        x.Draws s field t.trim drawn ∧ field.trim = LooseText.ofString u.email ∧
          ((World.initial start).after s past).now <
            drawn + s.backing.lifetime s.lifetimes.reset) ∧
      (∀ x ∈ (World.initial start).steps s past, ¬ x.Pops s t.trim) ∧
      Validation.password (some p) = .ok p ∧
      ((s.hash p).run s ((World.initial start).after s past)).2 = .ok v.passwordHash := by
  have tokens := resetTokens_after s start past fresh
  rw [after_snoc] at hv
  cases row_step tokens.keyed e hv with
  | kept _ x _ hx same hsame hactive =>
    have heq : x = u := tokens.keyed.eq_of_id hx hu (same.id.symm.trans hid)
    rw [heq] at hsame
    exact absurd hsame hhash
  | reset t p x _ hx same hactive hp hl hm hh hr =>
    have heq : x = u := tokens.keyed.eq_of_id hx hu (same.id.symm.trans hid)
    obtain ⟨entry, ht, hvalue, hnow⟩ := tokens.entry_of_live hl
    obtain ⟨y, hy, field, drawn, owner, ho, hd, htrim, howner, hdeadline⟩ := ht.drawn
    have howns : owner = u := by
      refine tokens.keyed.eq_of_id ho hu ?_
      rw [← howner, hvalue, heq]
    refine ⟨t, p, rfl, ⟨y, hy, field, drawn, hd, ?_, ?_⟩, ht.unpopped, hp, hh⟩
    · rw [htrim, howns]
    · rwa [← hdeadline]
  | registered email p first last _ hactive hfresh hemail htaken hp hh hr =>
    exact absurd hid.symm (Users.not_taken htaken u hu).2

def requestedReset : List Event :=
  [annRegisters, .advance Time.minute, .operation (.forgotPassword (some " ann@example.org ")),
    .outages ⟨.none, { Session.Outages.none with delete := true }⟩, .advance Time.minute]

def requestedChange : Event :=
  .operation (.resetPassword (some ((World.initial 0).nextToken .small)) (some "second password 2"))

theorem requestedChange_by_reset :
    ((World.initial 0).secrets .small requestedReset).Nodup ∧
      ∃ t p, requestedChange =
          .operation (.resetPassword (some t) (some (LooseText.ofString p))) ∧
        ∃ x ∈ (World.initial 0).steps .small requestedReset, ∃ field drawn,
          x.Draws .small field t.trim drawn ∧ 2 * Time.minute < drawn + 30 * Time.minute := by
  have fresh : ((World.initial 0).secrets .small requestedReset).Nodup := by decide +kernel
  have changed : ∃ u ∈ ((World.initial 0).after .small requestedReset).users,
      ∃ v ∈ ((World.initial 0).after .small (requestedReset ++ [requestedChange])).users,
        v.id = u.id ∧ v.passwordHash ≠ u.passwordHash := by
    decide +kernel
  have now : ((World.initial 0).after .small requestedReset).now = 2 * Time.minute := by
    decide +kernel
  have lifetime : Service.small.backing.lifetime Service.small.lifetimes.reset =
      30 * Time.minute := by
    decide +kernel
  obtain ⟨u, hu, v, hv, hid, hhash⟩ := changed
  obtain ⟨t, p, he, ⟨x, hx, field, drawn, hd, -, ht⟩, -⟩ :=
    hash_changes_by_reset .small 0 requestedReset requestedChange fresh hu hv hid hhash
  rw [now, lifetime] at ht
  exact ⟨fresh, t, p, he, x, hx, field, drawn, hd, ht⟩

end Accounts
