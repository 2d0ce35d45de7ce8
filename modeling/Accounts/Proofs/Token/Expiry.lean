import Accounts.Proofs.Token.RoundTrip

/-! # What an issued token tells

For whom a token is, as what it serves and when it expires can be read in it without a key.
-/
namespace Accounts.Token

variable {s : Service} {w v : World} {suite : Suite} {nesting : Json.Nesting}
  {authority : Authority} {now system : Instant}
  {expected : Option String} {subject type : String} {ttl : Duration} {issued : Issued}
  {c : Contents} {text : String}

/-- The token says its subject, its type and its expiry. -/
def Tells (nesting : Json.Nesting) (token : LooseText) (subject type : String) (expiry : Instant) :
    Prop :=
  ∃ d n, decode nesting token = .ok d ∧
    d.payload.get? "sub" = some (.text (LooseText.ofString subject)) ∧
    d.payload.get? "type" = some (.text (LooseText.ofString type)) ∧
    d.payload.get? "exp" = some (.int n) ∧ expiry = n * Time.second

theorem Tells.expiry_unique {token : LooseText} {subject' type' : String} {t t' : Instant}
    (h : Tells nesting token subject type t)
    (h' : Tells nesting token subject' type' t') : t = t' := by
  obtain ⟨d, n, hd, -, -, hn, rfl⟩ := h
  obtain ⟨d', n', hd', -, -, hn', rfl⟩ := h'
  cases hd.symm.trans hd'
  cases hn.symm.trans hn'
  rfl

theorem isShort_floorSeconds (h : Time.isInstant now = true) :
    Json.isShort (.int (Time.floorSeconds now)) = true := by
  have hmoderate := Time.moderate_of_isInstant h
  rw [Time.isInstant, Bool.and_eq_true] at h
  have hlow : -62135596800 ≤ Time.floorSeconds now :=
    Time.le_floorSeconds hmoderate (of_decide_eq_true h.1)
  have hhigh : Time.floorSeconds now ≤ 253402300800 := by
    apply Time.floorSeconds_le hmoderate
    exact Int.le_trans (of_decide_eq_true h.2) (by decide)
  have hrange : (Time.floorSeconds now).natAbs < 10 ^ 12 := by omega
  have hdigits := (Nat.length_toDigits_le_iff (by omega) (by omega)).mpr hrange
  have hmax : Text.Integer.maxDigits = 4300 := rfl
  rw [Json.isShort, decide_eq_true_eq]
  omega

section Issued

variable (calendar : Time.isInstant w.now = true)
  (h : w.issueToken s authority subject ttl type = (v, .ok issued))

include calendar h

theorem issuedContents_short : (issuedContents s w authority subject ttl type).IsShort := by
  obtain ⟨-, -, -, hexpiry⟩ := issueToken_ok_iff.mp h
  exact ⟨isShort_floorSeconds calendar, isShort_of_ofSeconds hexpiry⟩

theorem tells_of_issueToken : Tells s.suite.nesting issued.token subject type issued.expiresAt := by
  obtain ⟨-, -, hsign, hexpiry⟩ := issueToken_ok_iff.mp h
  obtain ⟨a, key, -, -, hdecodes⟩ := decodes_of_sign hsign (issuedContents_short calendar h)
  refine ⟨_, Time.ceilSeconds (w.now + ttl), decode_ok_iff.mpr hdecodes, ?_, ?_, ?_, ?_⟩
  · rw [get?_members]
    rfl
  · rw [get?_members]
    rfl
  · rw [get?_members]
    rfl
  · exact Time.eq_of_ofSeconds hexpiry

end Issued

theorem presents_of_expired {a : MacAlgorithm} {keys : List Json} {token : LooseText}
    (ha : MacAlgorithm.ofName? authority.algorithm = some a)
    (hk : checkingKeys suite.nesting.secret authority.secret = .ok keys)
    (hu : ∀ key ∈ keys, ∃ bytes, keyBytes key = .ok bytes)
    (h : verify suite authority now system expected token = .error (.refused .expired)) :
    ∃ d claims, Presents suite authority system token d claims ∧
      checkUse now expected claims = .error (.refused .expired) := by
  have outcomes : _ ∨
      (∃ b, verify suite authority now system expected token = .error (.broken b)) ∨ _ :=
    verify_cases ha hk hu
  rcases outcomes with ⟨r, hr, hcategory⟩ | ⟨b, hb⟩ | ⟨d, claims, hpresents, hverify⟩
  · cases hr.symm.trans h
    rcases hcategory with hcategory | hcategory <;> cases hcategory
  · cases hb.symm.trans h
  · exact ⟨d, claims, hpresents, hverify.symm.trans h⟩

/-- A signed token is refused as expired from its expiry on, if the second of its issue has a date.
Otherwise it is refused for its values at any time. -/
theorem expired_iff (hsign : sign suite authority c.json = .ok text)
    (plain : (Json.read suite.nesting.secret .written authority.secret).isOk = false)
    (hissuer : c.issuer = authority.issuer) (hshort : c.IsShort) {expiry : Instant}
    (hexpiry : Time.ofSeconds c.expiresAt = .ok expiry) :
    verify suite authority now system expected (LooseText.ofString text) =
        .error (.refused .expired) ↔
      expiry ≤ now ∧ (Time.ofSeconds c.issuedAt).isOk = true := by
  constructor
  · intro h
    obtain ⟨a, ha, hkeys, usable⟩ := usable_of_sign hsign plain
    obtain ⟨d, claims, hpresents, huse⟩ := presents_of_expired ha hkeys usable h
    obtain ⟨a, key, -, -, hdecodes⟩ := decodes_of_sign hsign hshort
    have hd := decode_ok_iff.mpr hpresents.decodes
    have hpayload := congrArg Decoded.payload
      (Except.ok.inj (hd.symm.trans (decode_ok_iff.mpr hdecodes)))
    have hclaims := hpresents.claims
    rw [hpayload] at hclaims
    obtain ⟨issue, expiry', hissue, hexpiry', rfl⟩ := claimsIn_members_iff.mp hclaims
    cases hexpiry.symm.trans hexpiry'
    rw [hissue]
    exact ⟨checkUse_expired_iff.mp huse, rfl⟩
  · rintro ⟨hnow, hdate⟩
    cases hissue : Time.ofSeconds c.issuedAt with
    | error fault =>
      rw [hissue] at hdate
      cases hdate
    | ok issue =>
      rw [verify_sign hsign plain hissuer hissue hexpiry]
      exact checkUse_expired_iff.mpr hnow

end Accounts.Token
