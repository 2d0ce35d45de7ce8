import Accounts.Proofs.Token.Signing

/-! # Claims that break the check

A check of a token is to end with claims or with a refusal. What can break it is a payload that is
nested too deep, and a signed claim that should be a number and is none, or a date in a year that
the system cannot count.
-/
namespace Accounts.Token

variable {suite : Suite} {authority : Authority} {now system : Instant} {expected : Option String}
  {token : LooseText} {d : Decoded} {ms : Json.Members} {a : MacAlgorithm} {keys : List Json}
  {issuer name : String} {b : Breakage}

/-- The claim is there, and no integer can be made of it: it is a list, an object or null, or an
infinite number. A text that is no numeral is not meant here, because it is refused. -/
def IsUnconvertible (name : String) (ms : Json.Members) (b : Breakage) : Prop :=
  ∃ v e, ms.get? name = some v ∧ integerIn v = .error e ∧ e ≠ .value ∧ b = e.breakage

/-- The claim is an integer, as a date in a year that the system cannot count. -/
def IsUncountable (name : String) (ms : Json.Members) : Prop :=
  ∃ v n, ms.get? name = some v ∧ integerIn v = .ok n ∧ Time.ofSeconds n = .error .uncountable

/-- The claims break the check, in the order in which they are looked at. -/
inductive Breaks (issuer : String) (system : Instant) (ms : Json.Members) : Breakage → Prop where
  | issuedAt (b : Breakage) : IsUnconvertible "iat" ms b → Breaks issuer system ms b
  | notBefore (b : Breakage) : (∀ v, ms.get? "iat" = some v → ∃ n, integerIn v = .ok n) →
      IsUnconvertible "nbf" ms b → Breaks issuer system ms b
  | issueDate : Admissible issuer system ms → (ms.get? "sub").isSome → IsUncountable "iat" ms →
      Breaks issuer system ms .calendar
  | expiryDate (t : Instant) : Admissible issuer system ms → (ms.get? "sub").isSome →
      instantIn "iat" ms = .ok t → IsUncountable "exp" ms → Breaks issuer system ms .calendar

theorem bind_error_iff {α β ε : Type} {x : Except ε α} {f : α → Except ε β} {e : ε} :
    (x >>= f) = .error e ↔ x = .error e ∨ ∃ a, x = .ok a ∧ f a = .error e := by
  cases x <;> simp [bind, Except.bind]

theorem requireInteger_broken_iff (fault : ClaimFault) {v : Json} :
    requireInteger fault v = .error (.broken b) ↔
      ∃ e, integerIn v = .error e ∧ e ≠ .value ∧ b = e.breakage := by
  unfold requireInteger
  cases integerIn v with
  | ok n => simp
  | error e => cases e <;> simp [eq_comm]

theorem checkIssuedAt_broken_iff :
    checkIssuedAt ms = .error (.broken b) ↔ IsUnconvertible "iat" ms b := by
  unfold checkIssuedAt IsUnconvertible
  cases ms.get? "iat" with
  | none => simp
  | some v =>
    simp only [Option.some.injEq, exists_and_left, exists_eq_left',
      ← requireInteger_broken_iff .issuedAt]
    cases requireInteger .issuedAt v <;> simp [Except.map]

theorem checkNotBefore_broken_iff :
    checkNotBefore system ms = .error (.broken b) ↔ IsUnconvertible "nbf" ms b := by
  unfold checkNotBefore IsUnconvertible
  cases ms.get? "nbf" with
  | none => simp
  | some v =>
    simp only [Option.some.injEq, exists_and_left, exists_eq_left',
      ← requireInteger_broken_iff .notBefore, bind_error_iff]
    constructor
    · rintro (h | ⟨n, -, h⟩)
      · exact h
      · split at h <;> cases h
    · exact .inl

def IsSafe {α : Type} (x : Except Failure α) : Prop :=
  ∀ b, x ≠ .error (.broken b)

theorem safe_checkText (name : String) (fault : ClaimFault) (ms : Json.Members) :
    IsSafe (checkText name fault ms) := by
  intro b h
  unfold checkText at h
  split at h
  · cases h
  · split at h <;> cases h

theorem safe_otherClaims (issuer : String) (ms : Json.Members) :
    IsSafe (do
      checkAudience ms
      checkIssuer issuer ms
      checkText "sub" .subject ms
      checkText "jti" .id ms
      checkAccessHash ms) := by
  intro b h
  simp only [bind_error_iff] at h
  rcases h with h | ⟨-, -, h | ⟨-, -, h | ⟨-, -, h | ⟨-, -, h⟩⟩⟩⟩
  · unfold checkAudience at h
    split at h <;> cases h
  · unfold checkIssuer at h
    split at h <;> cases h
  · exact safe_checkText _ _ _ b h
  · exact safe_checkText _ _ _ b h
  · unfold checkAccessHash at h
    split at h <;> cases h

theorem checkClaims_broken_iff :
    checkClaims issuer system ms = .error (.broken b) ↔
      IsUnconvertible "iat" ms b ∨
        (∀ v, ms.get? "iat" = some v → ∃ n, integerIn v = .ok n) ∧ IsUnconvertible "nbf" ms b := by
  unfold checkClaims
  rw [bind_error_iff, checkIssuedAt_broken_iff]
  refine or_congr_right ?_
  constructor
  · rintro ⟨_, hiat, h⟩
    rcases bind_error_iff.mp h with h | ⟨_, -, h⟩
    · exact ⟨checkIssuedAt_ok_iff.mp hiat, checkNotBefore_broken_iff.mp h⟩
    · exact absurd h (safe_otherClaims issuer ms b)
  · rintro ⟨hiat, hnbf⟩
    exact ⟨(), checkIssuedAt_ok_iff.mpr hiat,
      bind_error_iff.mpr (.inl (checkNotBefore_broken_iff.mpr hnbf))⟩

theorem safe_require {name : String} (ms : Json.Members) : IsSafe (require name ms) := by
  intro b h
  unfold require at h
  split at h <;> cases h

theorem instantIn_broken_iff :
    instantIn name ms = .error (.broken b) ↔ IsUncountable name ms ∧ b = .calendar := by
  unfold instantIn require IsUncountable
  cases ms.get? (LooseText.ofString name) with
  | none => simp [bind, Except.bind]
  | some v =>
    simp only [bind, Except.bind, Option.some.injEq]
    cases hv : integerIn v with
    | error e => simp [hv]
    | ok n =>
      simp only
      cases ht : Time.ofSeconds n with
      | ok t => simp [hv, ht]
      | error fault => cases fault <;> simp [hv, ht, eq_comm]

theorem claimsIn_broken_iff :
    claimsIn ms = .error (.broken b) ↔ (ms.get? "sub").isSome ∧ b = .calendar ∧
      (IsUncountable "iat" ms ∨ (∃ t, instantIn "iat" ms = .ok t) ∧ IsUncountable "exp" ms) := by
  have hsub : (∃ v, require "sub" ms = .ok v) ↔ (ms.get? "sub").isSome := by
    unfold require
    cases ms.get? "sub" <;> simp
  have hpure : ∀ c : Claims, (pure c : Except Failure Claims) ≠ .error (.broken b) := nofun
  unfold claimsIn
  simp only [bind_error_iff, instantIn_broken_iff, safe_require ms b, hpure, false_or, and_false,
    exists_false, or_false]
  rw [← hsub]
  grind

theorem checkedClaims_broken_iff :
    checkedClaims issuer system ms = .error (.broken b) ↔ Breaks issuer system ms b := by
  rw [checkedClaims, bind_error_iff, checkClaims_broken_iff]
  constructor
  · rintro ((hiat | ⟨hiat, hnbf⟩) | ⟨_, hclaims, h⟩)
    · exact .issuedAt b hiat
    · exact .notBefore b hiat hnbf
    · obtain ⟨hsub, rfl, hdate | ⟨⟨t, ht⟩, hdate⟩⟩ := claimsIn_broken_iff.mp h
      · exact .issueDate (checkClaims_ok_iff.mp hclaims) hsub hdate
      · exact .expiryDate t (checkClaims_ok_iff.mp hclaims) hsub ht hdate
  · intro h
    cases h with
    | issuedAt _ hiat => exact .inl (.inl hiat)
    | notBefore _ hiat hnbf => exact .inl (.inr ⟨hiat, hnbf⟩)
    | issueDate hadm hsub hdate =>
      exact .inr ⟨(), checkClaims_ok_iff.mpr hadm,
        claimsIn_broken_iff.mpr ⟨hsub, rfl, .inl hdate⟩⟩
    | expiryDate t hadm hsub ht hdate =>
      exact .inr ⟨(), checkClaims_ok_iff.mpr hadm,
        claimsIn_broken_iff.mpr ⟨hsub, rfl, .inr ⟨⟨t, ht⟩, hdate⟩⟩⟩

theorem safe_checkUse (now : Instant) (expected : Option String) (c : Claims) :
    IsSafe (checkUse now expected c) := by
  intro b h
  unfold checkUse at h
  split at h
  · cases h
  · split at h
    · cases h
    · split at h <;> cases h

/-- If the keys can be used, then a check breaks on a payload that is nested too deep, signed or not,
and else only on the claims of an authentic token. -/
theorem verify_broken_iff (ha : MacAlgorithm.ofName? authority.algorithm = some a)
    (hk : checkingKeys suite.nesting.secret authority.secret = .ok keys)
    (hu : ∀ key ∈ keys, ∃ bytes, keyBytes key = .ok bytes) :
    verify suite authority now system expected token = .error (.broken b) ↔
      b = .tooDeep ∧ Overdeep suite.nesting token ∨
        ∃ d, Decodes suite.nesting token d ∧ Authentic suite authority d ∧
          Breaks authority.issuer system d.payload b := by
  constructor
  · intro h
    by_cases hd : ∃ d, Decodes suite.nesting token d
    · obtain ⟨d, hd⟩ := hd
      by_cases hauth : Authentic suite authority d
      · refine .inr ⟨d, hd, hauth, ?_⟩
        rw [verify_decodes hd] at h
        rcases bind_error_iff.mp h with h | ⟨_, -, h⟩
        · rcases checkSignature_usable suite d ha hk hu with ⟨hs, -⟩ | ⟨r, hs, -⟩
          · cases hs.symm.trans h
          · cases hs.symm.trans h
        · rcases bind_error_iff.mp h with h | ⟨c, -, h⟩
          · exact checkedClaims_broken_iff.mp h
          · exact absurd h (safe_checkUse now expected c b)
      · obtain ⟨r, hr, -⟩ := verify_unsigned now expected ha hk hu hd hauth
        cases hr.symm.trans h
    · by_cases hdeep : Overdeep suite.nesting token
      · cases (verify_overdeep suite authority now system expected hdeep).symm.trans h
        exact .inl ⟨rfl, hdeep⟩
      · obtain ⟨r, hr, -⟩ := verify_undecodable suite authority now system expected hd hdeep
        cases hr.symm.trans h
  · rintro (⟨rfl, hdeep⟩ | ⟨d, hd, hauth, hbreaks⟩)
    · exact verify_overdeep suite authority now system expected hdeep
    · rcases checkSignature_usable suite d ha hk hu with ⟨hs, -⟩ | ⟨r, -, -, hn⟩
      · rw [verify_decodes hd, hs]
        exact bind_error_iff.mpr
          (.inr ⟨(), rfl, bind_error_iff.mpr (.inl (checkedClaims_broken_iff.mpr hbreaks))⟩)
      · exact absurd hauth hn

/-- If the keys can be used, a check of a token ends with claims or with a refusal, whatever the
token is. There are two exceptions: a token, signed or not, with a payload that is nested too deep,
which takes more characters than levels that can be followed; and an authentic token with claims
that break the check: one that should be a number and is a list, an object, null or infinite, or a
date in a year that cannot be counted. -/
theorem check_answers_unless_broken (suite : Suite) (authority : Authority) (now system : Instant)
    (expected : Option String) (token : LooseText) {a : MacAlgorithm} {keys : List Json}
    (ha : MacAlgorithm.ofName? authority.algorithm = some a)
    (hk : checkingKeys suite.nesting.secret authority.secret = .ok keys)
    (hu : ∀ key ∈ keys, ∃ bytes, keyBytes key = .ok bytes) :
    (((∃ c, verify suite authority now system expected token = .ok c) ∨
        ∃ r, verify suite authority now system expected token = .error (.refused r)) ↔
      ¬ Overdeep suite.nesting token ∧
        ¬ ∃ d b, Decodes suite.nesting token d ∧ Authentic suite authority d ∧
          Breaks authority.issuer system d.payload b) ∧
    (Overdeep suite.nesting token →
      verify suite authority now system expected token = .error (.broken .tooDeep)) ∧
    (token.length ≤ suite.nesting.payload + 1 → ¬ Overdeep suite.nesting token) ∧
    ∀ d b, Decodes suite.nesting token d → Authentic suite authority d →
      Breaks authority.issuer system d.payload b →
      verify suite authority now system expected token = .error (.broken b) := by
  have broken : ∀ b, verify suite authority now system expected token = .error (.broken b) ↔
      b = .tooDeep ∧ Overdeep suite.nesting token ∨
        ∃ d, Decodes suite.nesting token d ∧ Authentic suite authority d ∧
          Breaks authority.issuer system d.payload b :=
    fun _ => verify_broken_iff ha hk hu
  refine ⟨⟨?_, ?_⟩, ?_, not_overdeep_of_short, ?_⟩
  · intro h
    refine ⟨fun hdeep => ?_, ?_⟩
    · have hb := (broken _).mpr (.inl ⟨rfl, hdeep⟩)
      rcases h with ⟨c, hc⟩ | ⟨r, hr⟩
      · cases hc.symm.trans hb
      · cases hr.symm.trans hb
    · rintro ⟨d, b, hd, hauth, hbreaks⟩
      have hb := (broken b).mpr (.inr ⟨d, hd, hauth, hbreaks⟩)
      rcases h with ⟨c, hc⟩ | ⟨r, hr⟩
      · cases hc.symm.trans hb
      · cases hr.symm.trans hb
  · rintro ⟨hdeep, hclaims⟩
    cases hv : verify suite authority now system expected token with
    | ok c => exact .inl ⟨c, rfl⟩
    | error e =>
      cases e with
      | refused r => exact .inr ⟨r, rfl⟩
      | broken b =>
        rcases (broken b).mp hv with ⟨-, h⟩ | ⟨d, hd, hauth, hbreaks⟩
        · exact absurd h hdeep
        · exact absurd ⟨d, b, hd, hauth, hbreaks⟩ hclaims
  · intro hdeep
    exact (broken _).mpr (.inl ⟨rfl, hdeep⟩)
  · intro d b hd hauth hbreaks
    exact (broken b).mpr (.inr ⟨d, hd, hauth, hbreaks⟩)

def plainAuthority : Authority :=
  ⟨"a secret", "HS256", "accounts"⟩

theorem plainAuthority_keys :
    checkingKeys Suite.standard.nesting.secret plainAuthority.secret =
      .ok [.text plainAuthority.secret] := by
  have plain : (Json.read Suite.standard.nesting.secret .written
      plainAuthority.secret).isOk = false := by
    decide +kernel
  exact checkingKeys_plain plain

theorem plainAuthority_signs (claims : Json) :
    ∃ text, sign .standard plainAuthority claims = .ok text := by
  have hkey : signingKey plainAuthority.secret = .ok (Text.utf8 plainAuthority.secret) := by
    rw [signingKey, textKey, if_neg (by decide +kernel)]
  exact ⟨_, sign_ok_iff.mpr ⟨.hs256, _, MacAlgorithm.ofName?_name .hs256, hkey, rfl⟩⟩

def nullIssue : Json :=
  .object [("iat", .null)]

theorem read?_nullIssue (depth : Nat) : Json.read? depth nullIssue.write = some nullIssue := by
  have hflat : ∀ m ∈ ([("iat", .null)] : Json.Members), Json.FlatMember m :=
    List.forall_mem_singleton.mpr ⟨_, rfl, .null⟩
  exact Json.read?_write_object depth hflat (List.pairwise_singleton _ _)

theorem null_issue_breaks_check : ∃ text d,
    sign .standard plainAuthority nullIssue = .ok text ∧
    Decodes Suite.standard.nesting (LooseText.ofString text) d ∧
    Authentic .standard plainAuthority d ∧ Breaks plainAuthority.issuer 0 d.payload .type ∧
    verify .standard plainAuthority 0 0 (some accessType) (LooseText.ofString text) =
      .error (.broken .type) := by
  obtain ⟨text, hsign⟩ := plainAuthority_signs nullIssue
  obtain ⟨a, ha, usable⟩ := usable_of_keys hsign
  obtain ⟨d, hd, hauthentic, hpayload⟩ :=
    authentic_of_read hsign plainAuthority_keys (read?_nullIssue _)
  have hnull : d.payload.get? "iat" = some Json.null := by
    rw [hpayload]
    exact if_pos rfl
  have hbreaks : Breaks plainAuthority.issuer 0 d.payload .type :=
    .issuedAt _ ⟨_, .type, hnull, rfl, nofun, rfl⟩
  exact ⟨text, d, hsign, hd, hauthentic, hbreaks, (check_answers_unless_broken .standard
    plainAuthority 0 0 (some accessType) _ ha plainAuthority_keys usable).2.2.2 d _ hd
    hauthentic hbreaks⟩

/-- The contents of an access token whose expiry is some three thousand million years away. -/
def farContents : Contents :=
  ⟨"user-1", 1768478400, 100000000000000000, "j-1", "accounts", "access"⟩

/-- Signed with a secret that is its own key, these contents are neither returned nor refused. -/
theorem far_expiry_breaks_check : ∃ text,
    sign .standard plainAuthority farContents.json = .ok text ∧
    checkingKeys Suite.standard.nesting.secret plainAuthority.secret =
      .ok [.text plainAuthority.secret] ∧
    (∀ c, verify .standard plainAuthority 0 0 none (LooseText.ofString text) ≠ .ok c) ∧
    ∀ r, verify .standard plainAuthority 0 0 none (LooseText.ofString text) ≠
      .error (.refused r) := by
  have hread : Json.read? Suite.standard.nesting.payload farContents.json.write =
      some (.object farContents.members) := by
    rw [read?_contents, if_pos (by decide +kernel)]
  have hexpiry : IsUncountable "exp" farContents.members := by
    refine ⟨.int farContents.expiresAt, _, by rw [get?_members]; rfl, rfl, ?_⟩
    rw [Time.ofSeconds, if_neg (by decide +kernel), if_pos (by decide +kernel)]
  have hissue : instantIn "iat" farContents.members = .ok (1768478400 * Time.second) :=
    (instantIn_int (by rw [get?_members]; rfl)).mpr (Time.ofSeconds_ok (by decide +kernel))
  obtain ⟨text, hsign⟩ := plainAuthority_signs farContents.json
  obtain ⟨a, ha, usable⟩ := usable_of_keys hsign
  obtain ⟨d, hd, hauthentic, hpayload⟩ := authentic_of_read hsign plainAuthority_keys hread
  have hbreaks : Breaks plainAuthority.issuer 0 d.payload .calendar := by
    rw [hpayload]
    refine .expiryDate _ (admissible_members 0 rfl) ?_ hissue hexpiry
    rw [get?_members]
    rfl
  have hbroken : verify .standard plainAuthority 0 0 none (LooseText.ofString text) =
      .error (.broken .calendar) :=
    (verify_broken_iff ha plainAuthority_keys usable).mpr (.inr ⟨d, hd, hauthentic, hbreaks⟩)
  refine ⟨text, hsign, plainAuthority_keys, ?_, ?_⟩ <;> rw [hbroken] <;> exact nofun

end Accounts.Token
