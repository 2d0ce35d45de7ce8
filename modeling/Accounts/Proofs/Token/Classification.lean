import Accounts.Proofs.Token.Nesting

/-! # How tokens are refused

Checking a token looks at its form, then at its signature, then at its claims, and at the expiry and
the type last. So the kind of refusal says how far the token got.
-/
namespace Accounts.Token

variable {suite : Suite} {authority : Authority} {now system : Instant} {expected : Option String}
  {token : LooseText} {d : Decoded} {ms : Json.Members} {a : MacAlgorithm} {keys : List Json}

/-- If the secret is read as JSON text, then it stands for itself. -/
def IsOwnKey (depth : Nat) (secret : String) : Prop :=
  ∀ v, Json.read depth .written secret = .ok v → v = .text secret

theorem checkingKeys_own {depth : Nat} {secret : String} (own : IsOwnKey depth secret) :
    checkingKeys depth secret = .ok [.text secret] := by
  unfold checkingKeys
  cases hread : Json.read depth .written secret with
  | error e => rfl
  | ok v =>
    rw [own v hread]
    rfl

theorem checkingKeys_plain {depth : Nat} {secret : String}
    (h : (Json.read depth .written secret).isOk = false) :
    checkingKeys depth secret = .ok [.text secret] := by
  apply checkingKeys_own
  intro v hread
  rw [hread] at h
  cases h

theorem keyBytes_ofString (s : String) :
    keyBytes (.text (LooseText.ofString s)) = (signingKey s).mapError .key := by
  simp only [keyBytes, LooseText.string?_ofString, signingKey]

/-- The bytes are one of the keys that signatures are checked with. -/
def Authority.HasKey (authority : Authority) (depth : Nat) (bytes : Bytes) : Prop :=
  ∃ keys, checkingKeys depth authority.secret = .ok keys ∧ ∃ key ∈ keys, keyBytes key = .ok bytes

/-- The header names the algorithm in use, and the signature is the code of what is signed under one
of the keys. -/
structure Authentic (suite : Suite) (authority : Authority) (d : Decoded) : Prop where
  algorithm : (d.header.get? "alg").bind Json.string? = some authority.algorithm
  signature : ∃ a key, MacAlgorithm.ofName? authority.algorithm = some a ∧
    authority.HasKey suite.nesting.secret key ∧ d.signature = suite.mac a key d.signed

theorem algorithm_of_named
    (h : ¬ (((d.header.get? "alg").getD .null).string? != some authority.algorithm) = true) :
    (d.header.get? "alg").bind Json.string? = some authority.algorithm := by
  simp only [bne_iff_ne, ne_eq, Decidable.not_not] at h
  cases hget : d.header.get? "alg" with
  | none =>
    rw [hget] at h
    cases h
  | some v =>
    rw [hget] at h
    exact h

theorem truthy_of_named {v : Json} (ha : MacAlgorithm.ofName? authority.algorithm = some a)
    (hs : v.string? = some authority.algorithm) : v.isFalsy = false := by
  cases v with
  | text t =>
    rw [Json.string?, Json.text?, Option.bind_some, LooseText.string?_eq_some_iff] at hs
    rw [MacAlgorithm.eq_name_of_ofName? ha] at hs
    subst hs
    cases a <;> decide
  | null | bool | int | real | list | object => cases hs

theorem anyKeyMatches_usable (suite : Suite) (d : Decoded)
    (ha : MacAlgorithm.ofName? authority.algorithm = some a)
    (hu : ∀ key ∈ keys, ∃ bytes, keyBytes key = .ok bytes) :
    ∃ found, anyKeyMatches suite authority.algorithm d keys = .ok found ∧
      (found = true ↔
        ∃ key ∈ keys, ∃ bytes, keyBytes key = .ok bytes ∧
          d.signature = suite.mac a bytes d.signed) := by
  induction keys with
  | nil => exact ⟨false, rfl, by simp⟩
  | cons key r ih =>
    obtain ⟨bytes, hb⟩ := hu key (.head _)
    obtain ⟨found, hf, hiff⟩ := ih fun k hk => hu k (.tail _ hk)
    simp only [anyKeyMatches, ha, hb]
    by_cases hmac : suite.mac a bytes d.signed = d.signature
    · refine ⟨true, ?_, ?_⟩
      · simp only [bind, Except.bind, hmac]
        rfl
      · simp only [true_iff]
        exact ⟨key, .head _, bytes, hb, hmac.symm⟩
    · refine ⟨found, ?_, ?_⟩
      · simpa only [bind, Except.bind, hmac, if_false] using hf
      · rw [hiff]
        constructor
        · rintro ⟨k, hk, h⟩
          exact ⟨k, .tail _ hk, h⟩
        · rintro ⟨k, hk, bytes', hb', hsig⟩
          rcases List.mem_cons.mp hk with rfl | hk
          · rw [hb] at hb'
            cases hb'
            exact absurd hsig.symm hmac
          · exact ⟨k, hk, bytes', hb', hsig⟩

theorem checkSignature_usable (suite : Suite) (d : Decoded)
    (ha : MacAlgorithm.ofName? authority.algorithm = some a)
    (hk : checkingKeys suite.nesting.secret authority.secret = .ok keys)
    (hu : ∀ key ∈ keys, ∃ bytes, keyBytes key = .ok bytes) :
    checkSignature suite authority d = .ok () ∧ Authentic suite authority d ∨
      ∃ r, checkSignature suite authority d = .error (.refused r) ∧ r.category = .unsigned ∧
        ¬ Authentic suite authority d := by
  unfold checkSignature
  simp only
  split
  · next hfalsy =>
    refine .inr ⟨.noAlgorithm, rfl, rfl, fun h => ?_⟩
    obtain ⟨v, hv, hs⟩ := Option.bind_eq_some_iff.mp h.algorithm
    rw [hv, Option.getD_some, truthy_of_named ha hs] at hfalsy
    cases hfalsy
  · split
    · next hname =>
      refine .inr ⟨.otherAlgorithm, rfl, rfl, fun h => ?_⟩
      obtain ⟨v, hv, hs⟩ := Option.bind_eq_some_iff.mp h.algorithm
      rw [hv, Option.getD_some, hs] at hname
      simp at hname
    · next hname =>
      have halg := algorithm_of_named hname
      obtain ⟨found, hf, hiff⟩ := anyKeyMatches_usable suite d ha hu
      simp only [hk, hf]
      cases found with
      | true =>
        obtain ⟨key, hmem, bytes, hb, hsig⟩ := hiff.mp rfl
        exact .inl ⟨rfl, halg, a, bytes, ha, ⟨keys, hk, key, hmem, hb⟩, hsig⟩
      | false =>
        refine .inr ⟨.signature, rfl, rfl, fun h => ?_⟩
        obtain ⟨a', bytes, ha', ⟨keys', hk', key, hmem, hb⟩, hsig⟩ := h.signature
        rw [hk] at hk'
        cases hk'
        rw [ha] at ha'
        cases ha'
        exact nomatch hiff.mpr ⟨key, hmem, bytes, hb, hsig⟩

theorem key_of_match (h : anyKeyMatches suite authority.algorithm d keys = .ok true) :
    ∃ a, MacAlgorithm.ofName? authority.algorithm = some a ∧ ∃ key ∈ keys, ∃ bytes,
      keyBytes key = .ok bytes ∧ d.signature = suite.mac a bytes d.signed := by
  induction keys with
  | nil => cases h
  | cons key r ih =>
    rw [anyKeyMatches] at h
    cases ha : MacAlgorithm.ofName? authority.algorithm with
    | none =>
      rw [ha] at h
      cases h
    | some a =>
    cases hb : keyBytes key with
    | error e =>
      simp only [ha, hb] at h
      cases h
    | ok bytes =>
      simp only [ha, hb, bind, Except.bind] at h
      split at h
      · next hmac => exact ⟨a, rfl, key, .head _, bytes, hb, hmac.symm⟩
      · obtain ⟨a', ha', k, hk, hkey⟩ := ih h
        exact ⟨a', ha ▸ ha', k, .tail _ hk, hkey⟩

theorem authentic_of_checkSignature (h : checkSignature suite authority d = .ok ()) :
    Authentic suite authority d := by
  unfold checkSignature at h
  simp only at h
  split at h
  · cases h
  split at h
  · cases h
  next hname =>
  split at h
  · cases h
  next keys hk =>
  split at h
  · cases h
  · next hmatch =>
    obtain ⟨a, ha, key, hmem, bytes, hb, hsig⟩ := key_of_match hmatch
    exact ⟨algorithm_of_named hname, a, bytes, ha, ⟨keys, hk, key, hmem, hb⟩, hsig⟩
  · cases h

theorem signature_of_keys
    (hkeys : checkingKeys suite.nesting.secret authority.secret = .ok [.text authority.secret])
    (h : Authentic suite authority d) :
    ∃ a, MacAlgorithm.ofName? authority.algorithm = some a ∧
      d.signature = suite.mac a (Text.utf8 authority.secret) d.signed := by
  obtain ⟨a, key, ha, ⟨keys, hkeys', v, hv, hbytes⟩, hsignature⟩ := h.signature
  rw [hkeys, Except.ok.injEq] at hkeys'
  rw [← hkeys', List.mem_singleton] at hv
  rw [hv, keyBytes_ofString, signingKey, textKey] at hbytes
  split at hbytes
  · cases hbytes
  · cases hbytes
    exact ⟨a, ha, hsignature⟩

/-- The claims pass the checks of those with a standard meaning. -/
structure Admissible (issuer : String) (system : Instant) (ms : Json.Members) : Prop where
  issuedAt : ∀ v, ms.get? "iat" = some v → ∃ n, integerIn v = .ok n
  notBefore : ∀ v, ms.get? "nbf" = some v → ∃ n, integerIn v = .ok n ∧ n ≤ system / Time.second
  audience : ms.get? "aud" = none
  issuer : (ms.get? "iss").bind Json.string? = some issuer
  subject : ∀ v, ms.get? "sub" = some v → v.text?.isSome
  id : ∀ v, ms.get? "jti" = some v → v.text?.isSome
  accessHash : ms.get? "at_hash" = none

theorem requireInteger_ok_iff (fault : ClaimFault) {v : Json} {n : Int} :
    requireInteger fault v = .ok n ↔ integerIn v = .ok n := by
  unfold requireInteger
  cases integerIn v with
  | ok m => simp
  | error e => cases e <;> simp

theorem checkIssuedAt_ok_iff :
    checkIssuedAt ms = .ok () ↔ ∀ v, ms.get? "iat" = some v → ∃ n, integerIn v = .ok n := by
  unfold checkIssuedAt
  cases ms.get? "iat" with
  | none => simp
  | some v =>
    simp only [Option.some.injEq, forall_eq', ← requireInteger_ok_iff .issuedAt]
    cases requireInteger .issuedAt v <;> simp [Except.map]

theorem checkNotBefore_ok_iff :
    checkNotBefore system ms = .ok () ↔
      ∀ v, ms.get? "nbf" = some v → ∃ n, integerIn v = .ok n ∧ n ≤ system / Time.second := by
  unfold checkNotBefore
  cases ms.get? "nbf" with
  | none => simp
  | some v =>
    simp only [Option.some.injEq, forall_eq', ← requireInteger_ok_iff .notBefore]
    cases requireInteger .notBefore v with
    | error e => simp [bind, Except.bind]
    | ok n =>
      by_cases hn : system / Time.second < n
      · simp [bind, Except.bind, hn]
      · simp [bind, Except.bind, hn, Int.not_lt.mp hn]

theorem checkAudience_ok_iff : checkAudience ms = .ok () ↔ ms.get? "aud" = none := by
  unfold checkAudience
  cases ms.get? "aud" <;> simp

theorem checkIssuer_ok_iff {issuer : String} :
    checkIssuer issuer ms = .ok () ↔ (ms.get? "iss").bind Json.string? = some issuer := by
  unfold checkIssuer
  split <;> simp_all

theorem checkText_ok_iff {name : String} {fault : ClaimFault} :
    checkText name fault ms = .ok () ↔ ∀ v, ms.get? name = some v → v.text?.isSome := by
  unfold checkText
  cases ms.get? name with
  | none => simp
  | some v => cases hv : v.text? <;> simp [hv]

theorem checkAccessHash_ok_iff : checkAccessHash ms = .ok () ↔ ms.get? "at_hash" = none := by
  unfold checkAccessHash
  cases ms.get? "at_hash" <;> simp

theorem seq_ok_iff {α ε : Type} {x : Except ε Unit} {f : Unit → Except ε α} {b : α} :
    (x >>= f) = .ok b ↔ x = .ok () ∧ f () = .ok b := by
  cases x <;> simp [bind, Except.bind]

theorem checkClaims_ok_iff {issuer : String} :
    checkClaims issuer system ms = .ok () ↔ Admissible issuer system ms := by
  simp only [checkClaims, seq_ok_iff, checkIssuedAt_ok_iff, checkNotBefore_ok_iff,
    checkAudience_ok_iff, checkIssuer_ok_iff, checkText_ok_iff, checkAccessHash_ok_iff]
  constructor
  · rintro ⟨hiat, hnbf, haud, hiss, hsub, hjti, hash⟩
    exact ⟨hiat, hnbf, haud, hiss, hsub, hjti, hash⟩
  · intro h
    exact ⟨h.issuedAt, h.notBefore, h.audience, h.issuer, h.subject, h.id, h.accessHash⟩

def BlamesClaims {α : Type} (x : Except Failure α) : Prop :=
  ∀ r, x = .error (.refused r) → r.category = .malformed

theorem blames_ok {α : Type} (a : α) : BlamesClaims (.ok a) := fun _ h => nomatch h

theorem blames_broken {α : Type} (b : Breakage) : BlamesClaims (α := α) (.error (.broken b)) :=
  fun _ h => nomatch h

theorem blames_claims {α : Type} (f : ClaimFault) :
    BlamesClaims (α := α) (.error (.refused (.claims f))) := by
  intro r h
  cases h
  rfl

theorem blames_bind {α β : Type} {x : Except Failure α} {f : α → Except Failure β}
    (hx : BlamesClaims x) (hf : ∀ a, BlamesClaims (f a)) : BlamesClaims (x >>= f) := by
  cases x with
  | ok a => exact hf a
  | error e =>
    intro r h
    cases h
    exact hx r rfl

theorem blames_map {α β : Type} {x : Except Failure α} (f : α → β) (hx : BlamesClaims x) :
    BlamesClaims (x.map f) := by
  cases x with
  | ok a => exact blames_ok _
  | error e =>
    intro r h
    cases h
    exact hx r rfl

theorem blames_requireInteger (f : ClaimFault) (v : Json) : BlamesClaims (requireInteger f v) := by
  unfold requireInteger
  split
  · exact blames_ok _
  · exact blames_claims f
  · exact blames_broken _

theorem blames_checkText (name : String) (f : ClaimFault) : BlamesClaims (checkText name f ms) := by
  unfold checkText
  split
  · exact blames_ok _
  · split
    · exact blames_ok _
    · exact blames_claims f

theorem blames_checkClaims (issuer : String) (system : Instant) (ms : Json.Members) :
    BlamesClaims (checkClaims issuer system ms) := by
  have hiat : BlamesClaims (checkIssuedAt ms) := by
    unfold checkIssuedAt
    split
    · exact blames_ok _
    · exact blames_map _ (blames_requireInteger _ _)
  have hnbf : BlamesClaims (checkNotBefore system ms) := by
    unfold checkNotBefore
    split
    · exact blames_ok _
    · refine blames_bind (blames_requireInteger _ _) fun n => ?_
      split
      · exact blames_claims _
      · exact blames_ok _
  have haud : BlamesClaims (checkAudience ms) := by
    unfold checkAudience
    split
    · exact blames_ok _
    · exact blames_claims _
  have hiss : BlamesClaims (checkIssuer issuer ms) := by
    unfold checkIssuer
    split
    · exact blames_ok _
    · exact blames_claims _
  have hash : BlamesClaims (checkAccessHash ms) := by
    unfold checkAccessHash
    split
    · exact blames_claims _
    · exact blames_ok _
  refine blames_bind hiat fun _ => blames_bind hnbf fun _ => blames_bind haud fun _ => ?_
  refine blames_bind hiss fun _ => blames_bind (blames_checkText _ _) fun _ => ?_
  exact blames_bind (blames_checkText _ _) fun _ => hash

theorem blames_require (name : String) (ms : Json.Members) : BlamesClaims (require name ms) := by
  unfold require
  split
  · exact blames_ok _
  · exact blames_claims _

theorem blames_instantIn (name : String) (ms : Json.Members) :
    BlamesClaims (instantIn name ms) := by
  refine blames_bind (blames_require name ms) fun v => ?_
  split
  · exact blames_claims _
  · split
    · exact blames_ok _
    · exact blames_claims _
    · exact blames_broken _

theorem blames_claimsIn (ms : Json.Members) : BlamesClaims (claimsIn ms) := by
  refine blames_bind (blames_require _ _) fun _ => blames_bind (blames_instantIn _ _) fun _ => ?_
  exact blames_bind (blames_instantIn _ _) fun _ => blames_ok _

def checkedClaims (issuer : String) (system : Instant) (ms : Json.Members) :
    Except Failure Claims := do
  checkClaims issuer system ms
  claimsIn ms

theorem checkedClaims_ok_iff {issuer : String} {c : Claims} :
    checkedClaims issuer system ms = .ok c ↔ Admissible issuer system ms ∧ claimsIn ms = .ok c := by
  rw [checkedClaims, seq_ok_iff, checkClaims_ok_iff]

theorem blames_checkedClaims (issuer : String) (system : Instant) (ms : Json.Members) :
    BlamesClaims (checkedClaims issuer system ms) :=
  blames_bind (blames_checkClaims issuer system ms) fun _ => blames_claimsIn ms

theorem checkUse_ok_iff {c c' : Claims} :
    checkUse now expected c = .ok c' ↔ c = c' ∧ now < c'.expiresAt ∧
      ∀ type, expected = some type → c'.type = LooseText.ofString type := by
  unfold checkUse
  split
  · next hnow =>
    simp only [reduceCtorEq, false_iff, not_and]
    rintro rfl hlt
    exact absurd hnow (Int.not_le.mpr hlt)
  · next hnow =>
    cases expected with
    | none =>
      simp only [Except.ok.injEq, reduceCtorEq, false_implies, implies_true, and_true]
      exact ⟨fun h => ⟨h, h ▸ Int.not_le.mp hnow⟩, fun h => h.1⟩
    | some type =>
      simp only [Option.some.injEq, forall_eq']
      split
      · next ht =>
        simp only [Except.ok.injEq]
        exact ⟨fun h => ⟨h, h ▸ Int.not_le.mp hnow, h ▸ ht⟩, fun h => h.1⟩
      · next ht =>
        simp only [reduceCtorEq, false_iff, not_and]
        rintro rfl - h
        exact ht h

theorem checkUse_expired_iff {c : Claims} :
    checkUse now expected c = .error (.refused .expired) ↔ c.expiresAt ≤ now := by
  unfold checkUse
  split
  · next hnow => simp [hnow]
  · next hnow =>
    simp only [hnow, iff_false]
    cases expected with
    | none => simp
    | some type =>
      simp only
      split <;> simp

theorem checkUse_otherType_iff {c : Claims} {type : String} {actual : LooseText} :
    checkUse now expected c = .error (.refused (.otherType type actual)) ↔
      now < c.expiresAt ∧ expected = some type ∧ c.type = actual ∧
        actual ≠ LooseText.ofString type := by
  unfold checkUse
  split
  · next hnow =>
    simp only [Except.error.injEq, Failure.refused.injEq, reduceCtorEq, false_iff, not_and]
    intro hlt
    exact absurd hnow (Int.not_le.mpr hlt)
  · next hnow =>
    simp only [Int.not_le.mp hnow, true_and]
    cases expected with
    | none => simp
    | some type' =>
      simp only [Option.some.injEq]
      split
      · next ht =>
        simp only [reduceCtorEq, false_iff, not_and]
        rintro rfl rfl h
        exact h ht
      · next ht =>
        simp only [Except.error.injEq, Failure.refused.injEq, Refusal.otherType.injEq]
        constructor
        · rintro ⟨rfl, rfl⟩
          exact ⟨rfl, rfl, ht⟩
        · rintro ⟨rfl, rfl, -⟩
          exact ⟨rfl, rfl⟩

/-- The token is decodable and authentic, and these are its claims, which pass the checks. -/
structure Presents (suite : Suite) (authority : Authority) (system : Instant) (token : LooseText)
    (d : Decoded) (c : Claims) : Prop where
  decodes : Decodes suite.nesting token d
  authentic : Authentic suite authority d
  admissible : Admissible authority.issuer system d.payload
  claims : claimsIn d.payload = .ok c

theorem verify_overdeep (suite : Suite) (authority : Authority) (now system : Instant)
    (expected : Option String) (h : Overdeep suite.nesting token) :
    verify suite authority now system expected token = .error (.broken .tooDeep) := by
  rw [verify, decode_broken_iff.mpr ⟨rfl, h⟩]
  rfl

theorem verify_undecodable (suite : Suite) (authority : Authority) (now system : Instant)
    (expected : Option String) (h : ¬ ∃ d, Decodes suite.nesting token d)
    (hdeep : ¬ Overdeep suite.nesting token) :
    ∃ r, verify suite authority now system expected token = .error (.refused r) ∧
      r.category = .malformed := by
  cases hd : decode suite.nesting token with
  | ok d => exact absurd ⟨d, decode_ok_iff.mp hd⟩ h
  | error e =>
    cases e with
    | broken b => exact absurd (decode_broken_iff.mp hd).2 hdeep
    | refused r =>
      refine ⟨r, ?_, category_of_decode hd⟩
      rw [verify, hd]
      rfl

theorem verify_decodes (hd : Decodes suite.nesting token d) :
    verify suite authority now system expected token =
      (checkSignature suite authority d >>= fun _ =>
        checkedClaims authority.issuer system d.payload >>= checkUse now expected) := by
  rw [verify, decode_ok_iff.mpr hd]
  simp only [checkedClaims, bind, Except.bind]
  cases checkSignature suite authority d with
  | error e => rfl
  | ok _ => cases checkClaims authority.issuer system d.payload <;> rfl

theorem verify_unsigned (now : Instant) (expected : Option String)
    (ha : MacAlgorithm.ofName? authority.algorithm = some a)
    (hk : checkingKeys suite.nesting.secret authority.secret = .ok keys)
    (hu : ∀ key ∈ keys, ∃ bytes, keyBytes key = .ok bytes) (hd : Decodes suite.nesting token d)
    (h : ¬ Authentic suite authority d) :
    ∃ r, verify suite authority now system expected token = .error (.refused r) ∧
      r.category = .unsigned := by
  rcases checkSignature_usable suite d ha hk hu with ⟨-, hauth⟩ | ⟨r, hs, hr, -⟩
  · exact absurd hauth h
  · exact ⟨r, by rw [verify_decodes hd, hs]; rfl, hr⟩

theorem verify_presents {c : Claims} (ha : MacAlgorithm.ofName? authority.algorithm = some a)
    (hk : checkingKeys suite.nesting.secret authority.secret = .ok keys)
    (hu : ∀ key ∈ keys, ∃ bytes, keyBytes key = .ok bytes)
    (h : Presents suite authority system token d c) :
    verify suite authority now system expected token = checkUse now expected c := by
  rcases checkSignature_usable suite d ha hk hu with ⟨hs, -⟩ | ⟨r, -, -, hn⟩
  · rw [verify_decodes h.decodes, hs, checkedClaims_ok_iff.mpr ⟨h.admissible, h.claims⟩]
    rfl
  · exact absurd h.authentic hn

/-- A token is malformed, or not signed properly, or breaks the check, or presents its claims. -/
theorem verify_cases (ha : MacAlgorithm.ofName? authority.algorithm = some a)
    (hk : checkingKeys suite.nesting.secret authority.secret = .ok keys)
    (hu : ∀ key ∈ keys, ∃ bytes, keyBytes key = .ok bytes) :
    (∃ r, verify suite authority now system expected token = .error (.refused r) ∧
      (r.category = .malformed ∨ r.category = .unsigned)) ∨
    (∃ b, verify suite authority now system expected token = .error (.broken b)) ∨
    ∃ d c, Presents suite authority system token d c ∧
      verify suite authority now system expected token = checkUse now expected c := by
  by_cases h : ∃ d, Decodes suite.nesting token d
  · obtain ⟨d, hd⟩ := h
    by_cases hauth : Authentic suite authority d
    · cases hc : checkedClaims authority.issuer system d.payload with
      | ok c =>
        obtain ⟨hadm, hin⟩ := checkedClaims_ok_iff.mp hc
        have hp : Presents suite authority system token d c := ⟨hd, hauth, hadm, hin⟩
        exact .inr (.inr ⟨d, c, hp, verify_presents ha hk hu hp⟩)
      | error e =>
        have hv : verify suite authority now system expected token = .error e := by
          rcases checkSignature_usable suite d ha hk hu with ⟨hs, -⟩ | ⟨r, -, -, hn⟩
          · rw [verify_decodes hd, hs, hc]
            rfl
          · exact absurd hauth hn
        cases e with
        | refused r => exact .inl ⟨r, hv, .inl (blames_checkedClaims _ _ _ r hc)⟩
        | broken b => exact .inr (.inl ⟨b, hv⟩)
    · obtain ⟨r, hr, hc⟩ := verify_unsigned now expected ha hk hu hd hauth
      exact .inl ⟨r, hr, .inr hc⟩
  · by_cases hdeep : Overdeep suite.nesting token
    · exact .inr (.inl ⟨_, verify_overdeep suite authority now system expected hdeep⟩)
    · obtain ⟨r, hr, hm⟩ := verify_undecodable suite authority now system expected h hdeep
      exact .inl ⟨r, hr, .inl hm⟩

/-- Claims are returned only for a token that presents them, with every key there may be. -/
theorem presents_of_verify {c : Claims}
    (h : verify suite authority now system expected token = .ok c) :
    ∃ d, Presents suite authority system token d c ∧ now < c.expiresAt ∧
      ∀ type, expected = some type → c.type = LooseText.ofString type := by
  cases hd : decode suite.nesting token with
  | error r =>
    rw [verify, hd] at h
    cases h
  | ok d =>
    have hd := decode_ok_iff.mp hd
    rw [verify_decodes hd, seq_ok_iff] at h
    obtain ⟨hs, h⟩ := h
    cases hc : checkedClaims authority.issuer system d.payload with
    | error e =>
      rw [hc] at h
      cases h
    | ok c' =>
      rw [hc] at h
      obtain ⟨rfl, hnow, htype⟩ := checkUse_ok_iff.mp h
      obtain ⟨hadm, hin⟩ := checkedClaims_ok_iff.mp hc
      exact ⟨d, ⟨hd, authentic_of_checkSignature hs, hadm, hin⟩, hnow, htype⟩

/-- What is refused for its use presents claims. -/
theorem presents_of_refused {r : Refusal} (ha : MacAlgorithm.ofName? authority.algorithm = some a)
    (hk : checkingKeys suite.nesting.secret authority.secret = .ok keys)
    (hu : ∀ key ∈ keys, ∃ bytes, keyBytes key = .ok bytes)
    (h : verify suite authority now system expected token = .error (.refused r))
    (hcat : r.category ≠ .malformed ∧ r.category ≠ .unsigned) :
    ∃ d c, Presents suite authority system token d c ∧
      checkUse now expected c = .error (.refused r) := by
  rcases verify_cases ha hk hu with ⟨r', hr, hcat'⟩ | ⟨b, hb⟩ | ⟨d, c, hp, hc⟩
  · cases hr.symm.trans h
    exact absurd hcat' (not_or.mpr hcat)
  · cases hb.symm.trans h
  · exact ⟨d, c, hp, hc.symm.trans h⟩

/-- If the algorithm is known and the keys can be used: a token whose payload is nested too deep
breaks the check; what else is not decodable is malformed; what is decodable but not authentic is
not signed properly; and only a token that presents its claims is accepted, has expired or has
another type, in this order of precedence. -/
theorem verify_classifies (suite : Suite) (authority : Authority) (now system : Instant)
    (expected : Option String) (token : LooseText) {a : MacAlgorithm} {keys : List Json}
    (ha : MacAlgorithm.ofName? authority.algorithm = some a)
    (hk : checkingKeys suite.nesting.secret authority.secret = .ok keys)
    (hu : ∀ key ∈ keys, ∃ bytes, keyBytes key = .ok bytes) :
    (Overdeep suite.nesting token →
      verify suite authority now system expected token = .error (.broken .tooDeep)) ∧
    ((¬ ∃ d, Decodes suite.nesting token d) → ¬ Overdeep suite.nesting token →
      ∃ r, verify suite authority now system expected token = .error (.refused r) ∧
        r.category = .malformed) ∧
    (∀ d, Decodes suite.nesting token d → ¬ Authentic suite authority d →
      ∃ r, verify suite authority now system expected token = .error (.refused r) ∧
        r.category = .unsigned) ∧
    (∀ c, verify suite authority now system expected token = .ok c ↔
      ∃ d, Presents suite authority system token d c ∧ now < c.expiresAt ∧
        ∀ type, expected = some type → c.type = LooseText.ofString type) ∧
    (verify suite authority now system expected token = .error (.refused .expired) ↔
      ∃ d c, Presents suite authority system token d c ∧ c.expiresAt ≤ now) ∧
    (∀ type actual,
      verify suite authority now system expected token = .error (.refused (.otherType type actual)) ↔
        ∃ d c, Presents suite authority system token d c ∧ now < c.expiresAt ∧
          expected = some type ∧ c.type = actual ∧ actual ≠ LooseText.ofString type) := by
  refine ⟨verify_overdeep suite authority now system expected,
    verify_undecodable suite authority now system expected,
    fun d hd h => verify_unsigned now expected ha hk hu hd h, ?_, ?_, ?_⟩
  · intro c
    constructor
    · exact presents_of_verify
    · rintro ⟨d, hp, hnow, htype⟩
      rw [verify_presents ha hk hu hp]
      exact checkUse_ok_iff.mpr ⟨rfl, hnow, htype⟩
  · constructor
    · intro h
      obtain ⟨d, c, hp, hc⟩ := presents_of_refused ha hk hu h (by simp [Refusal.category])
      exact ⟨d, c, hp, checkUse_expired_iff.mp hc⟩
    · rintro ⟨d, c, hp, hnow⟩
      rw [verify_presents ha hk hu hp]
      exact checkUse_expired_iff.mpr hnow
  · intro type actual
    constructor
    · intro h
      obtain ⟨d, c, hp, hc⟩ := presents_of_refused ha hk hu h (by simp [Refusal.category])
      exact ⟨d, c, hp, checkUse_otherType_iff.mp hc⟩
    · rintro ⟨d, c, hp, h⟩
      rw [verify_presents ha hk hu hp]
      exact checkUse_otherType_iff.mpr h

/-- A decodable token without an algorithm is not signed properly. -/
theorem verify_classifies_without_algorithm :
    ∃ r, verify .standard ⟨"a secret", "HS256", "accounts"⟩ 0 0 (some accessType) "e30.e30.AA" =
        .error (.refused r) ∧ r.category = .unsigned := by
  have plain : (Json.read 960 .written "a secret").isOk = false := by decide +kernel
  have usable : ∀ key ∈ [Json.text "a secret"], ∃ bytes, keyBytes key = .ok bytes := by
    intro key hkey
    rw [List.mem_singleton.mp hkey, keyBytes_ofString, signingKey, textKey,
      if_neg (by decide +kernel)]
    exact ⟨_, rfl⟩
  obtain ⟨d, hd, hempty⟩ : ∃ d, decode Suite.standard.nesting "e30.e30.AA" = .ok d ∧
      d.header = [] := by
    have h : ((decode Suite.standard.nesting "e30.e30.AA").toOption.any fun d =>
        d.header.isEmpty) = true := by
      decide +kernel
    cases hd : decode Suite.standard.nesting "e30.e30.AA" with
    | error r =>
      rw [hd] at h
      cases h
    | ok d =>
      rw [hd] at h
      exact ⟨d, rfl, List.isEmpty_iff.mp h⟩
  have named : ¬ Authentic .standard ⟨"a secret", "HS256", "accounts"⟩ d := by
    intro h
    have := h.algorithm
    rw [hempty] at this
    cases this
  exact (verify_classifies .standard ⟨"a secret", "HS256", "accounts"⟩ 0 0 (some accessType)
    "e30.e30.AA" (MacAlgorithm.ofName?_name .hs256) (checkingKeys_plain plain) usable).2.2.1 d
    (decode_ok_iff.mp hd) named

/-- A token that only opens arrays is not decodable, however deep it is followed, and yet it is not
told to be malformed. -/
theorem opened_token_breaks_check :
    (∀ nesting d, ¬ Decodes nesting (LooseText.ofString (openedToken 1480)) d) ∧
    ∀ r, verify .standard ⟨"a secret", "HS256", "accounts"⟩ 0 0 none
      (LooseText.ofString (openedToken 1480)) ≠ .error (.refused r) := by
  have hdeep : Overdeep Suite.standard.nesting (LooseText.ofString (openedToken 1480)) :=
    overdeep_openedToken (by decide)
  refine ⟨fun nesting d => not_decodes_openedToken nesting 1479 d, ?_⟩
  rw [verify_overdeep .standard _ 0 0 none hdeep]
  exact nofun

end Accounts.Token
