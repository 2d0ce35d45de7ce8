import Accounts.Proofs.Password.Grammar
import Accounts.Proofs.Service.History
import Accounts.Proofs.Service.Outcomes

/-! # Made and checked

A hash carries what it was made with. So its own password is right for it, and it is the hash of
nothing else at other rounds or with another salt.
-/
namespace Accounts

open World Password

variable {suite suite' : Suite} {cost cost' : Nat} {salt salt' : Vector UInt8 16} {p q : String}

theorem Password.cost_and_salt_of_compute_eq (hcost : 4 ≤ cost ∧ cost ≤ 31)
    (hcost' : 4 ≤ cost' ∧ cost' ≤ 31)
    (h : compute suite ⟨.b, cost, salt⟩ p = compute suite' ⟨.b, cost', salt'⟩ q) :
    cost = cost' ∧ salt = salt' := by
  have hparams := paramsOf?_compute suite cost salt p hcost.1 hcost.2
  rw [h, paramsOf?_compute suite' cost' salt' q hcost'.1 hcost'.2] at hparams
  cases hparams
  exact ⟨rfl, rfl⟩

theorem Password.verify_compute (hcost : 4 ≤ cost ∧ cost ≤ 31) (q : String) :
    verify suite (compute suite ⟨.b, cost, salt⟩ p) q =
      .ok (!isTooLong q && compute suite ⟨.b, cost, salt⟩ q == compute suite ⟨.b, cost, salt⟩ p) :=
  verify_of_params (paramsOf?_compute suite cost salt p hcost.1 hcost.2) q

/-- With rounds among the costs, every password of at most 72 bytes is hashed. The hash has the form
that is asked for, its parameters are the cost and the salt, its password is right, and a longer one
is wrong. Nothing else is hashed to the same text at other rounds or with another salt. A password
of more than 72 bytes is not hashed. -/
theorem hashes_verify (s : Service) (w : World) (hmin : 4 ≤ s.rounds) (hmax : s.rounds ≤ 31) :
    (∀ p, (Text.utf8 p).length ≤ 72 → ∃ hash, (s.hash p).run s w = (w.afterSalt, .ok hash) ∧
      hash.toList ∈ lenientForm ∧
      paramsOf? hash = some ⟨.b, s.rounds.toNat, s.source.salt w.draws.salts⟩ ∧
      verify s.suite hash p = .ok true ∧
      (∀ q, 72 < (Text.utf8 q).length → verify s.suite hash q = .ok false) ∧
      ∀ (s' : Service) (w' : World) (q : String), ((s'.hash q).run s' w').2 = .ok hash →
        s'.rounds = s.rounds ∧ s'.source.salt w'.draws.salts = s.source.salt w.draws.salts) ∧
    ∀ p, 72 < (Text.utf8 p).length →
      (s.hash p).run s w = (w.afterSalt, .error (.broken .value)) := by
  have hcost : costOfRounds s.rounds = .ok s.rounds.toNat := costOfRounds_ok ⟨hmin, hmax⟩
  have hrange : 4 ≤ s.rounds.toNat ∧ s.rounds.toNat ≤ 31 := by omega
  constructor
  · intro p hp
    have hshort : isTooLong p = false := decide_eq_false (Nat.not_lt.mpr hp)
    have hparams := paramsOf?_compute s.suite s.rounds.toNat (s.source.salt w.draws.salts) p
      hrange.1 hrange.2
    refine ⟨compute s.suite ⟨.b, s.rounds.toNat, s.source.salt w.draws.salts⟩ p, ?_,
      lenient_of_strict (exists_paramsOf?_iff.mp ⟨_, hparams⟩), hparams, ?_, ?_, ?_⟩
    · rw [hash_run, hcost]
      simp only [hshort, Bool.false_eq_true, if_false]
    · rw [verify_compute hrange, hshort, beq_self_eq_true]
      rfl
    · intro q hq
      have hlong : isTooLong q = true := decide_eq_true hq
      rw [verify_compute hrange, hlong]
      rfl
    · intro s' w' q hmade
      obtain ⟨hmin', hmax', -, heq⟩ := hash_ok_iff.mp hmade
      have hrange' : 4 ≤ s'.rounds.toNat ∧ s'.rounds.toNat ≤ 31 := by omega
      obtain ⟨hrounds, hsalt⟩ := cost_and_salt_of_compute_eq hrange hrange' heq
      exact ⟨by omega, hsalt.symm⟩
  · intro p hp
    have hlong : isTooLong p = true := decide_eq_true hp
    rw [hash_run, hcost]
    simp only [hlong, if_true]

/-- A password with a zero and letters of more than one byte is right for its hash. -/
theorem small_hashes_verify : ∃ hash,
    (Service.small.hash "\x00пароль1").run .small (.initial 0) =
      ((World.initial 0).afterSalt, .ok hash) ∧
    verify Service.small.suite hash "\x00пароль1" = .ok true := by
  have hmin : 4 ≤ Service.small.rounds := by
    decide
  have hmax : Service.small.rounds ≤ 31 := by
    decide
  obtain ⟨hash, hmade, -, -, hright, -⟩ :=
    (hashes_verify .small (.initial 0) hmin hmax).1 "\x00пароль1" (by decide)
  exact ⟨hash, hmade, hright⟩

end Accounts
