import Accounts.Proofs.Password.Grammar

/-! # Corrupted hashes

Whether a stored text can be checked at all is a matter of its form, not of the password, as far as
the password has at most 72 bytes. A longer one is refused before the parameters are read, so it is
told to be wrong even where nothing could be right.
-/
namespace Accounts.Password

variable {suite : Suite} {stored p : String}

/-- The check tells that the text is no hash. -/
def Raises (suite : Suite) (stored p : String) : Prop :=
  ∃ corruption, verify suite stored p = .error corruption

theorem verify_unshaped (h : stored.toList ∉ lenientForm) (p : String) :
    verify suite stored p = .error .format := by
  rw [← isSome_ofChars?_iff, Bool.not_eq_true, Option.isSome_eq_false_iff,
    Option.isNone_iff_eq_none] at h
  rw [verify, h]

theorem verify_tooLong (h : stored.toList ∈ lenientForm) (hp : isTooLong p = true) :
    verify suite stored p = .ok false := by
  obtain ⟨shape, hshape⟩ := Option.isSome_iff_exists.mp (isSome_ofChars?_iff.mpr h)
  simp only [verify, hshape, hp, if_true]

theorem verify_strict (suite : Suite) (h : stored.toList ∈ strictForm) :
    ∃ params, paramsOf? stored = some params ∧ ∀ p, verify suite stored p =
      .ok (!isTooLong p && compute suite params p == stored) := by
  obtain ⟨params, hparams⟩ := exists_paramsOf?_iff.mpr h
  exact ⟨params, hparams, verify_of_params hparams⟩

theorem verify_unsalted (h : stored.toList ∈ lenientForm) (hstrict : stored.toList ∉ strictForm)
    (hp : isTooLong p = false) : verify suite stored p = .error .salt := by
  obtain ⟨shape, hshape⟩ := Option.isSome_iff_exists.mp (isSome_ofChars?_iff.mpr h)
  have hparams : shape.params? = none := by
    rw [Option.eq_none_iff_forall_ne_some]
    intro params heq
    refine hstrict (exists_paramsOf?_iff.mp ⟨params, ?_⟩)
    rw [paramsOf?, hshape, Option.bind_some, heq]
  simp only [verify, hshape, hp, hparams, Bool.false_eq_true, if_false]

theorem raises_iff : Raises suite stored p ↔ stored.toList ∉ strictForm ∧
    (isTooLong p = true → stored.toList ∉ lenientForm) := by
  constructor
  · rintro ⟨corruption, h⟩
    constructor
    · intro hstrict
      obtain ⟨params, -, hverify⟩ := verify_strict suite hstrict
      cases (hverify p).symm.trans h
    · intro hp hlenient
      cases (verify_tooLong hlenient hp).symm.trans h
  · rintro ⟨hstrict, hlong⟩
    by_cases hlenient : stored.toList ∈ lenientForm
    · have hp : isTooLong p = false := by
        rw [← Bool.not_eq_true]
        exact fun hp => hlong hp hlenient
      exact ⟨.salt, verify_unsalted hlenient hstrict hp⟩
    · exact ⟨.format, verify_unshaped hlenient p⟩

theorem figure_ne_lineFeed : ∀ k < 10, '\n' ≠ figure k := by
  decide

theorem lineFeed_not_mem_compute (suite : Suite) {params : Params} (h : params.cost ≤ 31)
    (p : String) :
    '\n' ∉ (compute suite params p).toList := by
  have hletters : ∀ bs : Bytes, '\n' ∉ Encoding.encodeSextets letter bs :=
    fun bs hmem => absurd (letters_valued bs '\n' hmem) (by decide)
  have hversion : '\n' ≠ params.version.char := by
    cases params.version <;> decide
  have htens : '\n' ≠ figure (params.cost / 10) := figure_ne_lineFeed _ (by omega)
  have hones : '\n' ≠ figure (params.cost % 10) := figure_ne_lineFeed _ (by omega)
  simp [compute, Params.chars, saltLetters, hletters, hversion, htens, hones]

theorem verify_lineFeed {hash : List Char} (h : hash ∈ hashForm)
    (hstored : stored.toList = hash ++ ['\n']) (p : String) :
    verify suite stored p = .ok false := by
  have hstrict : stored.toList ∈ strictForm := by
    rw [hstored]
    exact Language.append_mem_mul h (.inr rfl)
  obtain ⟨params, hparams, hverify⟩ := verify_strict suite hstrict
  obtain ⟨shape, -, hshape⟩ := Option.bind_eq_some_iff.mp hparams
  obtain ⟨-, hcost, -⟩ := params?_eq_some_iff.mp hshape
  have hdiffer : compute suite params p ≠ stored := by
    intro heq
    apply lineFeed_not_mem_compute suite (costOf?_eq_some_iff.mp hcost).2.1 p
    rw [heq, hstored]
    simp
  rw [hverify, beq_eq_false_iff_ne.mpr hdiffer, Bool.and_false]

/-- No password makes the check raise exactly if the text is a hash, with or without a line feed
behind it; with one, no password matches. Otherwise every password of at most 72 bytes makes it
raise, and a longer one does so if the text does not even have the lenient form. If it has, a longer
password is told to be wrong. -/
theorem corruption_told (suite : Suite) (stored : String) :
    ((∀ p, ¬ Raises suite stored p) ↔ stored.toList ∈ strictForm) ∧
    ((∀ p, (Text.utf8 p).length ≤ 72 → Raises suite stored p) ∨ ∀ p, ¬ Raises suite stored p) ∧
    (∀ p, 72 < (Text.utf8 p).length →
      (Raises suite stored p ↔ stored.toList ∉ lenientForm) ∧
      (stored.toList ∈ lenientForm → verify suite stored p = .ok false)) ∧
    ∀ hash ∈ hashForm, stored.toList = hash ++ ['\n'] → ∀ p, verify suite stored p = .ok false := by
  have hshort : ∀ p, (Text.utf8 p).length ≤ 72 → isTooLong p = false :=
    fun p hp => decide_eq_false (Nat.not_lt.mpr hp)
  have hlong : ∀ p, 72 < (Text.utf8 p).length → isTooLong p = true :=
    fun p hp => decide_eq_true hp
  have hnever : stored.toList ∈ strictForm → ∀ p, ¬ Raises suite stored p :=
    fun hstrict p hp => (raises_iff.mp hp).1 hstrict
  have halways : stored.toList ∉ strictForm → ∀ p, (Text.utf8 p).length ≤ 72 →
      Raises suite stored p := by
    intro hstrict p hp
    refine raises_iff.mpr ⟨hstrict, fun h => ?_⟩
    cases (hshort p hp).symm.trans h
  refine ⟨⟨fun h => ?_, hnever⟩, ?_, fun p hp => ⟨?_, fun h => verify_tooLong h (hlong p hp)⟩,
    fun hash h hstored => verify_lineFeed h hstored⟩
  · by_contra hstrict
    exact h "" (halways hstrict "" (by decide))
  · by_cases hstrict : stored.toList ∈ strictForm
    · exact .inr (hnever hstrict)
    · exact .inl (halways hstrict)
  · rw [raises_iff]
    constructor
    · exact fun h => h.2 (hlong p hp)
    · exact fun h => ⟨fun hstrict => h (lenient_of_strict hstrict), fun _ => h⟩

def costTooHigh : String := "$2b$99$....................................................."

def longPassword : String := String.ofList (List.replicate 73 'a')

/-- A password of 73 bytes is told to be wrong where a shorter one is told that the hash is
corrupted. -/
theorem long_password_hides_corruption :
    verify .standard costTooHigh "password1" = .error .salt ∧
      verify .standard costTooHigh longPassword = .ok false ∧
      ¬ ((∀ p, Raises .standard costTooHigh p) ∨ ∀ p, ¬ Raises .standard costTooHigh p) := by
  have hshape : Shape.ofChars? costTooHigh.toList =
      some ⟨some .b, '9', '9', List.replicate 53 '.', false⟩ := by
    decide
  have hparams : (⟨some .b, '9', '9', List.replicate 53 '.', false⟩ : Shape).params? = none := by
    decide
  have hshort : verify .standard costTooHigh "password1" = .error .salt := by
    have hlength : isTooLong "password1" = false := by
      decide
    simp only [verify, hshape, hparams, hlength, Bool.false_eq_true, if_false]
  have hlong : verify .standard costTooHigh longPassword = .ok false := by
    have hlength : isTooLong longPassword = true := by
      decide
    simp only [verify, hshape, hlength, if_true]
  refine ⟨hshort, hlong, ?_⟩
  rintro (h | h)
  · obtain ⟨corruption, hraises⟩ := h longPassword
    cases hlong.symm.trans hraises
  · exact h "password1" ⟨_, hshort⟩

end Accounts.Password
