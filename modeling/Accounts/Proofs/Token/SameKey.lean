import Accounts.Proofs.Encoding.Sextets
import Accounts.Proofs.Json.Extent
import Accounts.Proofs.Token.RoundTrip

/-! # Signed and checked with one key

A token is signed with the bytes of the secret. It is checked with them exactly if the secret is its
own key: if it is no JSON text, or one that stands for itself, as a numeral does. The keys in any
other secret are shorter than the secret, because of the quotes or brackets around them.
-/
namespace Accounts.Token

variable {suite : Suite} {authority : Authority} {now system : Instant} {expected : Option String}
  {token : LooseText} {d : Decoded} {a : MacAlgorithm} {secret : String} {key : Json}
  {keys : List Json} {bytes : Bytes} {n : Nat}

theorem keyBytes_text_iff {t : LooseText} :
    keyBytes (.text t) = .ok bytes ↔
      ∃ s, t = LooseText.ofString s ∧ signingKey s = .ok bytes := by
  constructor
  · intro h
    cases ht : t.string? with
    | none =>
      simp only [keyBytes, ht] at h
      cases h
    | some s =>
      rw [LooseText.string?_eq_some_iff.mp ht, keyBytes_ofString] at h
      cases hs : signingKey s with
      | error e =>
        rw [hs] at h
        cases h
      | ok bytes' =>
        rw [hs] at h
        cases h
        exact ⟨s, LooseText.string?_eq_some_iff.mp ht, hs⟩
  · rintro ⟨s, rfl, hs⟩
    rw [keyBytes_ofString, hs]
    rfl

theorem eq_utf8_of_signingKey (h : signingKey secret = .ok bytes) : bytes = Text.utf8 secret := by
  rw [signingKey, textKey] at h
  split at h
  · cases h
  · cases h
    rfl

theorem length_objectKey_le {ms : Json.Members} (hfit : ms.Fit n) (h : objectKey ms = .ok bytes) :
    bytes.length ≤ n := by
  unfold objectKey at h
  split at h
  · split at h
    · next k hk =>
      obtain ⟨letters, hletters, hbytes⟩ := Json.ok_of_bind h
      cases hs : k.string? with
      | none =>
        simp only [stringBytes, hs] at hletters
        cases hletters
      | some s =>
        simp only [stringBytes, hs] at hletters
        cases hletters
        cases hdecode : Encoding.Base64.decode (Text.utf8 s) with
        | error e =>
          rw [hdecode] at hbytes
          cases hbytes
        | ok bytes' =>
          rw [hdecode] at hbytes
          cases hbytes
          have hlength := Encoding.Base64.length_decode_le hdecode
          cases (hfit.get? hk).2 with
          | text _ hshort =>
            rw [LooseText.string?_eq_some_iff.mp hs, LooseText.length_ofString] at hshort
            exact Nat.le_trans hlength hshort
    · cases h
  · cases h

theorem keyBytes_ne_of_fits (hfits : Json.Fits n key) (hn : n < secret.length) :
    keyBytes key ≠ .ok (Text.utf8 secret) := by
  intro h
  cases hfits with
  | text t ht =>
    obtain ⟨s, rfl, hs⟩ := keyBytes_text_iff.mp h
    have heq : secret = s := Text.utf8_injective (eq_utf8_of_signingKey hs)
    rw [LooseText.length_ofString, ← heq] at ht
    omega
  | object ms hnames hvalues =>
    have hfit : ms.Fit n := fun m hm => ⟨hnames m hm, hvalues m hm⟩
    have hlength := length_objectKey_le hfit h
    have hsecret := Text.length_le_utf8 secret
    omega
  | null | bool | int | real | list => cases h

theorem fits_listedKeys {v : Json} (hfits : Json.Fits n v) (hn : 1 ≤ n)
    (h : listedKeys v = .ok keys) : ∀ key ∈ keys, Json.Fits n key := by
  cases hfits with
  | list items hitems =>
    cases h
    exact hitems
  | text t ht =>
    cases h
    intro key hkey
    obtain ⟨p, -, rfl⟩ := List.mem_map.mp hkey
    exact .text _ hn
  | object ms hnames hvalues =>
    cases h
    intro key hkey
    obtain ⟨m, hm, rfl⟩ := List.mem_map.mp hkey
    exact .text _ (hnames m hm)
  | null | bool | int | real => cases h

theorem fits_keysIn {v : Json} (hfits : Json.Fits n v) (h : keysIn v = .ok keys) :
    ∀ key ∈ keys, Json.Fits n key := by
  have single : ∀ key ∈ [v], Json.Fits n key := fun key hkey => List.mem_singleton.mp hkey ▸ hfits
  have hfits' := hfits
  cases hfits' with
  | list items hitems =>
    cases h
    exact hitems
  | object ms hnames hvalues =>
    have hfit : ms.Fit n := fun m hm => ⟨hnames m hm, hvalues m hm⟩
    simp only [keysIn] at h
    cases hkeys : ms.get? "keys" with
    | some v =>
      rw [hkeys] at h
      obtain ⟨hname, hv⟩ := hfit.get? hkeys
      have hn : 1 ≤ n := Nat.le_trans (by decide) hname
      exact fits_listedKeys hv hn h
    | none =>
      rw [hkeys] at h
      dsimp only at h
      split at h
      · cases h
        exact single
      · cases h
        intro key hkey
        obtain ⟨m, hm, rfl⟩ := List.mem_map.mp hkey
        exact hvalues m hm
  | null | bool | int | real | text =>
    cases h
    exact single

/-- A secret is among the keys that signatures are checked with only if it is its own key. -/
theorem own_of_hasKey {depth : Nat} (h : authority.HasKey depth (Text.utf8 authority.secret)) :
    IsOwnKey depth authority.secret := by
  intro v hread
  obtain ⟨keys, hkeys, key, hmem, hbytes⟩ := h
  rw [checkingKeys, hread] at hkeys
  -- The bound on lengths is strict for all values but texts. A text has to be the secret itself.
  by_cases htext : ∃ t, v = .text t
  · obtain ⟨t, rfl⟩ := htext
    cases hkeys
    rw [List.mem_singleton.mp hmem] at hbytes
    obtain ⟨s, rfl, hs⟩ := keyBytes_text_iff.mp hbytes
    rw [Text.utf8_injective (eq_utf8_of_signingKey hs)]
  · obtain ⟨n, hn, hfits⟩ := Json.fits_of_read hread fun t ht => htext ⟨t, ht⟩
    exact absurd hbytes (keyBytes_ne_of_fits (fits_keysIn hfits hkeys key hmem) hn)

theorem hasKey_own {depth : Nat} (own : IsOwnKey depth authority.secret)
    (hk : signingKey authority.secret = .ok bytes) : authority.HasKey depth bytes :=
  ⟨_, checkingKeys_own own, _, .head _, keyBytes_text_iff.mpr ⟨_, rfl, hk⟩⟩

theorem checkSignature_single (suite : Suite)
    (ha : MacAlgorithm.ofName? authority.algorithm = some a)
    (hk : checkingKeys suite.nesting.secret authority.secret = .ok [key])
    (hb : keyBytes key = .ok bytes)
    (named : (d.header.get? "alg").bind Json.string? = some authority.algorithm) :
    checkSignature suite authority d =
      if d.signature = suite.mac a bytes d.signed then .ok ()
      else .error (.refused .signature) := by
  obtain ⟨v, hv, hs⟩ := Option.bind_eq_some_iff.mp named
  have htruthy : v.isFalsy = false := truthy_of_named ha hs
  unfold checkSignature
  simp only [hv, Option.getD_some, htruthy, hs, hk, anyKeyMatches, ha, hb, bne_self_eq_false,
    Bool.false_eq_true, if_false, bind, Except.bind]
  by_cases hmac : d.signature = suite.mac a bytes d.signed
  · rw [if_pos hmac, if_pos hmac.symm]
    rfl
  · rw [if_neg hmac, if_neg fun heq => hmac heq.symm]

theorem verify_single (suite : Suite) (now system : Instant) (expected : Option String)
    (ha : MacAlgorithm.ofName? authority.algorithm = some a)
    (hk : checkingKeys suite.nesting.secret authority.secret = .ok [key])
    (hb : keyBytes key = .ok bytes)
    (hd : Decodes suite.nesting token d)
    (named : (d.header.get? "alg").bind Json.string? = some authority.algorithm) :
    verify suite authority now system expected token =
      if d.signature = suite.mac a bytes d.signed then
        checkedClaims authority.issuer system d.payload >>= checkUse now expected
      else .error (.refused .signature) := by
  rw [verify_decodes hd, checkSignature_single suite ha hk hb named]
  split <;> rfl

theorem verify_congr {other : Authority}
    (hkeys : checkingKeys suite.nesting.secret authority.secret =
      checkingKeys suite.nesting.secret other.secret)
    (halgorithm : authority.algorithm = other.algorithm)
    (hissuer : authority.issuer = other.issuer) :
    verify suite authority now system expected token =
      verify suite other now system expected token := by
  simp only [verify, checkSignature, hkeys, halgorithm, hissuer]

theorem ofSeconds_issue {s : Service} {w v : World} {subject type : String} {ttl : Duration}
    {issued : Issued} (calendar : Time.isInstant w.now = true)
    (h : w.issueToken s authority subject ttl type = (v, .ok issued))
    (lives : w.now ≤ issued.expiresAt ∨ w.now < Time.lastYear) :
    Time.ofSeconds (Time.floorSeconds w.now) = .ok (Time.floorSeconds w.now * Time.second) := by
  rcases lives with hexpiry | early
  · obtain ⟨-, -, -, hdate⟩ := issueToken_ok_iff.mp h
    have hinstant := Time.isInstant_of_ofSeconds hdate
    rw [Time.eq_of_ofSeconds hdate] at hexpiry hinstant
    exact Time.ofSeconds_floorSeconds_of_le calendar hinstant hexpiry
  · exact Time.ofSeconds_floorSeconds calendar early

/-- Signing and checking use the same key exactly for the secrets that are their own key. Whoever
issues tokens with such a secret accepts a signature exactly if it is the code of what is signed
under the bytes of the secret. So they accept their own tokens until these expire, unless the second
of the issue has no date, and never accept a token with another signature. -/
theorem own_key_signs_and_checks (s : Service) (w v : World) (authority : Authority)
    (subject type : String) (ttl : Duration) (issued : Issued)
    (calendar : Time.isInstant w.now = true)
    (h : w.issueToken s authority subject ttl type = (v, .ok issued)) :
    (authority.HasKey s.suite.nesting.secret (Text.utf8 authority.secret) ↔
      IsOwnKey s.suite.nesting.secret authority.secret) ∧
    (IsOwnKey s.suite.nesting.secret authority.secret →
      ∃ a, MacAlgorithm.ofName? authority.algorithm = some a ∧
        (∀ token d, Decodes s.suite.nesting token d →
          (d.header.get? "alg").bind Json.string? = some authority.algorithm →
          ∀ now system expected, verify s.suite authority now system expected token =
            if d.signature = s.suite.mac a (Text.utf8 authority.secret) d.signed then
              checkedClaims authority.issuer system d.payload >>= checkUse now expected
            else .error (.refused .signature)) ∧
        (w.now ≤ issued.expiresAt ∨ w.now < Time.lastYear →
          ∀ now < issued.expiresAt, ∀ system expected, expected = some type ∨ expected = none →
            verify s.suite authority now system expected issued.token =
              .ok ⟨subject, type, (w.nextId s).text, Time.floorSeconds w.now * Time.second,
                issued.expiresAt⟩) ∧
        ∀ token now system expected c, verify s.suite authority now system expected token = .ok c →
          ∃ d, Decodes s.suite.nesting token d ∧
            d.signature = s.suite.mac a (Text.utf8 authority.secret) d.signed) := by
  obtain ⟨-, -, hsign, hexpiry⟩ := issueToken_ok_iff.mp h
  obtain ⟨a, bytes, ha, hk, -⟩ := sign_ok_iff.mp hsign
  obtain rfl := eq_utf8_of_signingKey hk
  refine ⟨⟨own_of_hasKey, fun own => hasKey_own own hk⟩, fun own => ?_⟩
  have hkeys := checkingKeys_own own
  have hbytes : keyBytes (.text authority.secret) = .ok (Text.utf8 authority.secret) :=
    keyBytes_text_iff.mpr ⟨_, rfl, hk⟩
  refine ⟨a, ha, ?_, ?_, ?_⟩
  · intro token d hd named now system expected
    exact verify_single s.suite now system expected ha hkeys hbytes hd named
  · intro lives now hnow system expected hexpected
    have hissue := ofSeconds_issue calendar h lives
    rw [verify_sign_of_keys hsign hkeys rfl hissue hexpiry]
    refine checkUse_ok_iff.mpr ⟨rfl, hnow, ?_⟩
    rintro t rfl
    rcases hexpected with heq | heq
    · cases heq
      rfl
    · cases heq
  · intro token now system expected c hverify
    obtain ⟨d, hpresents, -⟩ := presents_of_verify hverify
    obtain ⟨a', ha', hsignature⟩ := signature_of_keys hkeys hpresents.authentic
    cases ha.symm.trans ha'
    exact ⟨d, hpresents.decodes, hsignature⟩

theorem issued_of_any {s : Service} {w : World} {subject type : String} {ttl : Duration}
    {p : Issued → Bool}
    (h : (w.issueToken s authority subject ttl type).2.toOption.any p = true) :
    ∃ issued, w.issueToken s authority subject ttl type = (w.afterId, .ok issued) ∧
      p issued = true := by
  rcases hissue : w.issueToken s authority subject ttl type with ⟨v, e | issued⟩
  · rw [hissue] at h
    cases h
  · rw [hissue] at h
    obtain ⟨rfl, -⟩ := issueToken_ok_iff.mp hissue
    exact ⟨issued, rfl, h⟩

def numeralAuthority : Authority :=
  ⟨"31415926535897932384626433832795", "HS256", "accounts"⟩

theorem isOwnKey_numeral : IsOwnKey 960 numeralAuthority.secret := by
  intro v hv
  have hread : Json.read 960 .written numeralAuthority.secret =
      .ok (.text numeralAuthority.secret) := by
    rfl
  cases hread.symm.trans hv
  rfl

theorem numeral_signs_and_checks : ∃ v issued,
    (World.initial 0).issueToken .small numeralAuthority "ann" Time.hour accessType =
      (v, .ok issued) ∧
    numeralAuthority.HasKey Service.small.suite.nesting.secret (Text.utf8 numeralAuthority.secret) ∧
    verify Service.small.suite numeralAuthority 0 0 none issued.token =
      .ok ⟨LooseText.ofString "ann", LooseText.ofString accessType,
        ((World.initial 0).nextId .small).text, 0, issued.expiresAt⟩ := by
  have issues : ((World.initial 0).issueToken .small numeralAuthority "ann" Time.hour
      accessType).2.toOption.any (0 < ·.expiresAt) = true := by
    decide +kernel
  have floor : Time.floorSeconds (World.initial 0).now * Time.second = 0 := by decide +kernel
  have early : (World.initial 0).now < Time.lastYear := by decide
  obtain ⟨issued, h, alive⟩ := issued_of_any issues
  obtain ⟨hkey, accepts⟩ :=
    own_key_signs_and_checks .small _ _ numeralAuthority _ _ _ _ (by decide) h
  obtain ⟨a, -, -, own, -⟩ := accepts isOwnKey_numeral
  have hverify := own (.inr early) 0 (of_decide_eq_true alive) 0 none (.inr rfl)
  rw [floor] at hverify
  exact ⟨_, issued, h, hkey.mpr isOwnKey_numeral, hverify⟩

def quotedAuthority : Authority :=
  ⟨"\"\"", "HS256", "accounts"⟩

/-- With this secret a service refuses its own tokens and accepts those signed with the empty key. -/
theorem quoted_secret_checks_with_empty_key : ∃ v issued forged,
    (World.initial 0).issueToken .small quotedAuthority "ann" Time.hour accessType =
      (v, .ok issued) ∧
    0 < issued.expiresAt ∧
    verify Service.small.suite quotedAuthority 0 0 none issued.token =
      .error (.refused .signature) ∧
    (World.initial 0).issueToken .small ⟨"", "HS256", "accounts"⟩ "ann" Time.hour accessType =
      (v, .ok forged) ∧
    ∃ c, verify Service.small.suite quotedAuthority 0 0 none forged.token = .ok c := by
  have issues : ((World.initial 0).issueToken .small quotedAuthority "ann" Time.hour
      accessType).2.toOption.any (0 < ·.expiresAt) = true := by
    decide +kernel
  have forges : ((World.initial 0).issueToken .small ⟨"", "HS256", "accounts"⟩ "ann" Time.hour
      accessType).2.toOption.any (0 < ·.expiresAt) = true := by
    decide +kernel
  have hkeys : checkingKeys 960 quotedAuthority.secret = .ok [.text ""] := by rfl
  obtain ⟨issued, h, alive⟩ := issued_of_any issues
  obtain ⟨forged, h', alive'⟩ := issued_of_any forges
  refine ⟨_, issued, forged, h, of_decide_eq_true alive, ?_, h', ?_⟩
  · have short : (issuedContents .small (World.initial 0) quotedAuthority "ann" Time.hour
        accessType).IsShort := by
      decide +kernel
    have named : ((headerMembers quotedAuthority.algorithm).get? "alg").bind Json.string? =
        some quotedAuthority.algorithm := by
      rfl
    have hempty : keyBytes (.text "") = .ok [] := by rfl
    obtain ⟨-, -, hsign, -⟩ := issueToken_ok_iff.mp h
    obtain ⟨a, key, ha, hk, hdecodes⟩ := decodes_of_sign hsign short
    cases ha.symm.trans (MacAlgorithm.ofName?_name .hs256)
    obtain rfl := eq_utf8_of_signingKey hk
    rw [verify_single Service.small.suite 0 0 none ha hkeys hempty hdecodes named, if_neg]
    -- The two codes, under the two quotes and under no bytes, are computed and compared.
    decide +kernel
  · have floor : Time.ofSeconds (Time.floorSeconds (World.initial 0).now) = .ok 0 := by
      decide +kernel
    have hplain : checkingKeys 960 "" = .ok [.text ""] := by rfl
    have same : verify Service.small.suite quotedAuthority 0 0 none forged.token =
        verify Service.small.suite ⟨"", "HS256", "accounts"⟩ 0 0 none forged.token :=
      verify_congr (hkeys.trans hplain.symm) rfl rfl
    obtain ⟨-, -, hsign, hexpiry⟩ := issueToken_ok_iff.mp h'
    rw [same, verify_sign_of_keys hsign hplain rfl floor hexpiry]
    exact ⟨_, checkUse_ok_iff.mpr ⟨rfl, of_decide_eq_true alive', nofun⟩⟩

end Accounts.Token
