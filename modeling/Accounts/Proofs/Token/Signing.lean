import Accounts.Proofs.Encoding.Sextets
import Accounts.Proofs.Json.Objects
import Accounts.Proofs.Service.Fields
import Accounts.Proofs.Token.Classification

/-! # What a signed token says

A token may be presented with another spelling of its signature. Its header and payload are then
still the signed ones, so it is decoded to the contents that were signed.
-/
namespace Accounts.Token

variable {suite : Suite} {nesting : Json.Nesting} {authority : Authority} {now system : Instant}
  {expected : Option String} {token : LooseText} {d : Decoded} {c : Contents}

def segmentBytes (v : Json) : Bytes :=
  (segment v).flatMap String.utf8EncodeChar

theorem dot_not_mem_segmentBytes (v : Json) : dot ∉ segmentBytes v :=
  Encoding.Base64.dot_not_mem_encode _

theorem decode?_segmentBytes (v : Json) :
    Encoding.Base64.decode? (segmentBytes v) = some (Text.utf8 v.write) :=
  Encoding.Base64.decode?_encode _

def signedBytes (algorithm : String) (claims : Json) : Bytes :=
  segmentBytes (header algorithm) ++ dot :: segmentBytes claims

theorem utf8_signedPart (algorithm : String) (claims : Json) :
    Text.utf8 (String.ofList (signedPart algorithm claims)) = signedBytes algorithm claims := by
  rw [Text.utf8, String.toList_ofList, signedPart, List.flatMap_append, List.flatMap_cons]
  rfl

theorem sign_ok_iff {claims : Json} {text : String} :
    sign suite authority claims = .ok text ↔ ∃ a key,
      MacAlgorithm.ofName? authority.algorithm = some a ∧ signingKey authority.secret = .ok key ∧
      text = String.ofList (signedPart authority.algorithm claims ++ '.' ::
        Encoding.Base64.encode (suite.mac a key (signedBytes authority.algorithm claims))) := by
  unfold sign
  cases MacAlgorithm.ofName? authority.algorithm with
  | none => simp
  | some a =>
    cases signingKey authority.secret with
    | error e => simp
    | ok key => simp [utf8_signedPart, eq_comm]

theorem parts_of_sign {claims : Json} {text : String} (h : sign suite authority claims = .ok text) :
    ∃ a key, MacAlgorithm.ofName? authority.algorithm = some a ∧
      signingKey authority.secret = .ok key ∧
      Parts.ofText? (LooseText.ofString text) = some ⟨signedBytes authority.algorithm claims,
        segmentBytes (header authority.algorithm), segmentBytes claims,
        (Encoding.Base64.encode (suite.mac a key (signedBytes authority.algorithm claims))).flatMap
          String.utf8EncodeChar⟩ := by
  obtain ⟨a, key, ha, hk, rfl⟩ := sign_ok_iff.mp h
  refine ⟨a, key, ha, hk, ?_⟩
  generalize suite.mac a key _ = mac
  refine ofText?_eq_some_iff.mpr ⟨_, rfl, ?_, ?_, ?_, ?_⟩
  · simp only
    rw [Text.utf8, String.toList_ofList, List.flatMap_append, List.flatMap_cons,
      ← utf8_signedPart, Text.utf8, String.toList_ofList]
    rfl
  · exact Encoding.Base64.dot_not_mem_encode mac
  · simp only [signedBytes]
  · simp only
    exact dot_not_mem_segmentBytes (header authority.algorithm)

/-- The two tokens have the same header and the same payload. -/
def SameSigned (t t' : LooseText) : Prop :=
  ∃ p p', Parts.ofText? t = some p ∧ Parts.ofText? t' = some p' ∧ p.signed = p'.signed

theorem parts_of_decodes (hd : Decodes nesting token d) :
    ∃ p, Parts.ofText? token = some p ∧ p.signed = d.signed := by
  obtain ⟨text, header, payload, signature, -, -, ht, hbytes, hheader, hsignature, hsigned, -⟩ := hd
  refine ⟨⟨d.signed, header, payload, signature⟩, ?_, rfl⟩
  exact ofText?_eq_some_iff.mpr ⟨text, ht, hsigned ▸ hbytes, hsignature, hsigned, hheader⟩

theorem SameSigned.signed {claims : Json} {text : String}
    (h : SameSigned token (LooseText.ofString text)) (hd : Decodes nesting token d)
    (hsign : sign suite authority claims = .ok text) :
    d.signed = signedBytes authority.algorithm claims := by
  obtain ⟨p, p', hp, hp', hsame⟩ := h
  obtain ⟨q, hq, hsigned⟩ := parts_of_decodes hd
  obtain ⟨a, key, -, -, hparts⟩ := parts_of_sign hsign
  rw [hp, Option.some.injEq] at hq
  rw [hp', Option.some.injEq] at hparts
  rw [← hsigned, ← hq, hsame, hparts]

theorem payload_of_signed {claims : Json} {algorithm : String} (hd : Decodes nesting token d)
    (hs : d.signed = signedBytes algorithm claims) :
    Json.read? nesting.payload claims.write = some (.object d.payload) := by
  obtain ⟨text, header', payload, signature, headerText, payloadText, -, -, hheader, -, hsplit, -,
    -, hpayload, hread, -⟩ := hd
  have hsame : some (header', payload) =
      some (segmentBytes (header algorithm), segmentBytes claims) := by
    rw [← splitFirst_append hheader, ← hsplit, hs]
    exact splitFirst_append (dot_not_mem_segmentBytes _)
  obtain ⟨-, rfl⟩ := Prod.mk.inj (Option.some.inj hsame)
  rw [decode?_segmentBytes, Option.some.injEq] at hpayload
  rwa [← hpayload, jsonIn, Text.ofUtf8?_utf8, Option.bind_some] at hread

theorem ofString_eq_iff {s t : String} :
    LooseText.ofString s = LooseText.ofString t ↔ s = t :=
  ⟨LooseText.ofString_injective, congrArg _⟩

def Contents.members (c : Contents) : Json.Members :=
  [("sub", .text c.subject), ("iat", .int c.issuedAt), ("exp", .int c.expiresAt),
    ("jti", .text c.id), ("iss", .text c.issuer), ("type", .text c.type)]

def Contents.IsShort (c : Contents) : Prop :=
  Json.isShort (.int c.issuedAt) = true ∧ Json.isShort (.int c.expiresAt) = true

instance (c : Contents) : Decidable c.IsShort :=
  inferInstanceAs (Decidable (_ ∧ _))

theorem read?_contents (c : Contents) (depth : Nat) :
    Json.read? depth c.json.write = if c.IsShort then some (.object c.members) else none := by
  have hflat : ∀ x ∈ c.members, Json.FlatMember x := by
    simp only [Contents.members, List.mem_cons, List.not_mem_nil, or_false, forall_eq_or_imp,
      forall_eq]
    exact ⟨⟨_, rfl, .text _⟩, ⟨_, rfl, .int _⟩, ⟨_, rfl, .int _⟩, ⟨_, rfl, .text _⟩,
      ⟨_, rfl, .text _⟩, ⟨_, rfl, .text _⟩⟩
  have hnames : (c.members.map (·.1)).Nodup := by
    simp [Contents.members, ofString_eq_iff]
  have hshort : c.members.all (Json.isShort ·.2) = true ↔ c.IsShort := by
    simp [Contents.members, Contents.IsShort, Json.isShort]
  have hread := Json.read?_write_object depth hflat hnames
  simp only [← hshort]
  exact hread

def headerMembers (algorithm : String) : Json.Members :=
  [("alg", .text algorithm), ("typ", .text "JWT")]

theorem read?_header (algorithm : String) (depth : Nat) :
    Json.read? depth (header algorithm).write = some (.object (headerMembers algorithm)) := by
  have hflat : ∀ x ∈ headerMembers algorithm, Json.FlatMember x := by
    simp only [headerMembers, List.mem_cons, List.not_mem_nil, or_false, forall_eq_or_imp,
      forall_eq]
    exact ⟨⟨_, rfl, .text _⟩, ⟨_, rfl, .text _⟩⟩
  have hnames : ((headerMembers algorithm).map (·.1)).Nodup := by
    simp [headerMembers, ofString_eq_iff]
  exact Json.read?_write_object depth hflat hnames

theorem isShort_of_ofSeconds {n : Int} {t : Instant} (h : Time.ofSeconds n = .ok t) :
    Json.isShort (.int n) = true := by
  have hrange : n.natAbs < 10 ^ 19 := by
    unfold Time.ofSeconds at h
    split at h
    · cases h
    · omega
  have hdigits := (Nat.length_toDigits_le_iff (by omega) (by omega)).mpr hrange
  have hmax : Text.Integer.maxDigits = 4300 := rfl
  rw [Json.isShort, decide_eq_true_eq]
  omega

theorem get?_members (c : Contents) (name : String) :
    c.members.get? (LooseText.ofString name) =
      if name = "sub" then some (.text c.subject) else if name = "iat" then some (.int c.issuedAt)
      else if name = "exp" then some (.int c.expiresAt) else if name = "jti" then some (.text c.id)
      else if name = "iss" then some (.text c.issuer)
      else if name = "type" then some (.text c.type) else none := by
  simp only [Contents.members, Json.Members.get?, ofString_eq_iff, eq_comm (b := name)]

theorem instantIn_int {name : String} {ms : Json.Members} {n : Int}
    (h : ms.get? (LooseText.ofString name) = some (.int n)) {t : Instant} :
    instantIn name ms = .ok t ↔ Time.ofSeconds n = .ok t := by
  simp only [instantIn, require, h, bind, Except.bind, integerIn]
  cases Time.ofSeconds n with
  | ok t' => simp
  | error e => cases e <;> simp

theorem claimsIn_members_iff {claims : Claims} :
    claimsIn c.members = .ok claims ↔ ∃ issue expiry, Time.ofSeconds c.issuedAt = .ok issue ∧
      Time.ofSeconds c.expiresAt = .ok expiry ∧
        claims = ⟨c.subject, c.type, c.id, issue, expiry⟩ := by
  have hsub : require "sub" c.members = .ok (.text c.subject) := by
    simp [require, get?_members]
  have htype : textOf "type" c.members = c.type := by
    simp [textOf, get?_members, Json.shown]
  have hid : textOf "jti" c.members = c.id := by
    simp [textOf, get?_members, Json.shown]
  have hiat : ∀ t, instantIn "iat" c.members = .ok t ↔ Time.ofSeconds c.issuedAt = .ok t :=
    fun t => instantIn_int (by simp [get?_members])
  have hexp : ∀ t, instantIn "exp" c.members = .ok t ↔ Time.ofSeconds c.expiresAt = .ok t :=
    fun t => instantIn_int (by simp [get?_members])
  simp only [← hiat, ← hexp, claimsIn, hsub, htype, hid, bind, Except.bind]
  cases instantIn "iat" c.members with
  | error e => simp
  | ok issue =>
    cases instantIn "exp" c.members with
    | error e => simp
    | ok expiry =>
      constructor
      · intro h
        cases h
        exact ⟨issue, expiry, rfl, rfl, rfl⟩
      · rintro ⟨issue', expiry', hissue, hexpiry, rfl⟩
        cases hissue
        cases hexpiry
        rfl

theorem decodes_of_read {claims : Json} {ms : Json.Members} {text : String}
    (h : sign suite authority claims = .ok text)
    (hread : Json.read? suite.nesting.payload claims.write = some (.object ms)) :
    ∃ a key, MacAlgorithm.ofName? authority.algorithm = some a ∧
      signingKey authority.secret = .ok key ∧
      Decodes suite.nesting (LooseText.ofString text) ⟨signedBytes authority.algorithm claims,
        headerMembers authority.algorithm, ms,
        suite.mac a key (signedBytes authority.algorithm claims)⟩ := by
  obtain ⟨a, key, ha, hk, hparts⟩ := parts_of_sign h
  refine ⟨a, key, ha, hk, ?_⟩
  have hheader : jsonIn suite.nesting.header (Text.utf8 (header authority.algorithm).write) =
      some (.object (headerMembers authority.algorithm)) := by
    rw [jsonIn, Text.ofUtf8?_utf8, Option.bind_some, read?_header]
  have hpayload : jsonIn suite.nesting.payload (Text.utf8 claims.write) = some (.object ms) := by
    rw [jsonIn, Text.ofUtf8?_utf8, Option.bind_some, hread]
  exact decodes_of_parts hparts (decode?_segmentBytes _) hheader (decode?_segmentBytes _) hpayload
    (Encoding.Base64.decode?_encode _)

theorem decodes_of_sign {text : String} (h : sign suite authority c.json = .ok text)
    (hshort : c.IsShort) : ∃ a key, MacAlgorithm.ofName? authority.algorithm = some a ∧
      signingKey authority.secret = .ok key ∧
      Decodes suite.nesting (LooseText.ofString text) ⟨signedBytes authority.algorithm c.json,
        headerMembers authority.algorithm, c.members,
        suite.mac a key (signedBytes authority.algorithm c.json)⟩ :=
  decodes_of_read h (by rw [read?_contents, if_pos hshort])

theorem authentic_of_read {claims : Json} {ms : Json.Members} {text : String}
    (h : sign suite authority claims = .ok text)
    (hkeys : checkingKeys suite.nesting.secret authority.secret = .ok [.text authority.secret])
    (hread : Json.read? suite.nesting.payload claims.write = some (.object ms)) :
    ∃ d, Decodes suite.nesting (LooseText.ofString text) d ∧ Authentic suite authority d ∧
      d.payload = ms := by
  obtain ⟨a, key, ha, hk, hdecodes⟩ := decodes_of_read h hread
  have hkey : keyBytes (.text authority.secret) = .ok key := by
    rw [keyBytes_ofString, hk]
    rfl
  have named : ((headerMembers authority.algorithm).get? "alg").bind Json.string? =
      some authority.algorithm := by
    simp [headerMembers, Json.Members.get?, Json.string?, Json.text?]
  exact ⟨_, hdecodes, ⟨named, a, key, ha, ⟨_, hkeys, _, .head _, hkey⟩, rfl⟩, rfl⟩

theorem admissible_members (system : Instant) {issuer : String} (h : c.issuer = issuer) :
    Admissible issuer system c.members := by
  constructor
  · intro v hv
    have hv' : v = .int c.issuedAt := by simpa [get?_members, eq_comm] using hv
    exact ⟨c.issuedAt, by rw [hv', integerIn]⟩
  · intro v hv
    simp [get?_members] at hv
  · simp [get?_members]
  · simp [get?_members, Json.string?, Json.text?, h]
  · intro v hv
    have hv' : v = .text c.subject := by simpa [get?_members, eq_comm] using hv
    rw [hv']
    rfl
  · intro v hv
    have hv' : v = .text c.id := by simpa [get?_members, eq_comm] using hv
    rw [hv']
    rfl
  · simp [get?_members]

theorem usable_of_key {secret : String} {bytes : Bytes} (h : signingKey secret = .ok bytes) :
    ∀ key ∈ [Json.text secret], ∃ bytes, keyBytes key = .ok bytes := by
  intro key hkey
  rw [List.mem_singleton.mp hkey, keyBytes_ofString, h]
  exact ⟨bytes, rfl⟩

theorem usable_of_keys {claims : Json} {text : String}
    (h : sign suite authority claims = .ok text) :
    ∃ a, MacAlgorithm.ofName? authority.algorithm = some a ∧
      ∀ key ∈ [Json.text authority.secret], ∃ bytes, keyBytes key = .ok bytes := by
  obtain ⟨a, key, ha, hkey, -⟩ := sign_ok_iff.mp h
  exact ⟨a, ha, usable_of_key hkey⟩

theorem usable_of_sign {claims : Json} {text : String}
    (h : sign suite authority claims = .ok text)
    (plain : (Json.read suite.nesting.secret .written authority.secret).isOk = false) :
    ∃ a, MacAlgorithm.ofName? authority.algorithm = some a ∧
      checkingKeys suite.nesting.secret authority.secret = .ok [.text authority.secret] ∧
      ∀ key ∈ [Json.text authority.secret], ∃ bytes, keyBytes key = .ok bytes := by
  obtain ⟨a, ha, usable⟩ := usable_of_keys h
  exact ⟨a, ha, checkingKeys_plain plain, usable⟩

theorem verify_sign_of_keys {text : String} (h : sign suite authority c.json = .ok text)
    (hkeys : checkingKeys suite.nesting.secret authority.secret = .ok [.text authority.secret])
    (hissuer : c.issuer = authority.issuer) {issue expiry : Instant}
    (hissue : Time.ofSeconds c.issuedAt = .ok issue)
    (hexpiry : Time.ofSeconds c.expiresAt = .ok expiry) :
    verify suite authority now system expected (LooseText.ofString text) =
      checkUse now expected ⟨c.subject, c.type, c.id, issue, expiry⟩ := by
  have hshort : c.IsShort := ⟨isShort_of_ofSeconds hissue, isShort_of_ofSeconds hexpiry⟩
  have hread : Json.read? suite.nesting.payload c.json.write = some (.object c.members) := by
    rw [read?_contents, if_pos hshort]
  obtain ⟨d, hdecodes, hauthentic, hpayload⟩ := authentic_of_read h hkeys hread
  obtain ⟨a, ha, usable⟩ := usable_of_keys h
  have hclaims := claimsIn_members_iff.mpr ⟨issue, expiry, hissue, hexpiry, rfl⟩
  rw [← hpayload] at hclaims
  have hadmissible : Admissible authority.issuer system d.payload := by
    rw [hpayload]
    exact admissible_members system hissuer
  exact verify_presents ha hkeys usable ⟨hdecodes, hauthentic, hadmissible, hclaims⟩

theorem verify_sign {text : String} (h : sign suite authority c.json = .ok text)
    (plain : (Json.read suite.nesting.secret .written authority.secret).isOk = false)
    (hissuer : c.issuer = authority.issuer) {issue expiry : Instant}
    (hissue : Time.ofSeconds c.issuedAt = .ok issue)
    (hexpiry : Time.ofSeconds c.expiresAt = .ok expiry) :
    verify suite authority now system expected (LooseText.ofString text) =
      checkUse now expected ⟨c.subject, c.type, c.id, issue, expiry⟩ :=
  verify_sign_of_keys h (checkingKeys_plain plain) hissuer hissue hexpiry

theorem verify_of_sign {text : String} (h : sign suite authority c.json = .ok text)
    (plain : (Json.read suite.nesting.secret .written authority.secret).isOk = false)
    (hissuer : c.issuer = authority.issuer) {issue expiry : Instant}
    (hissue : Time.ofSeconds c.issuedAt = .ok issue)
    (hexpiry : Time.ofSeconds c.expiresAt = .ok expiry) (hnow : now < expiry) :
    verify suite authority now system (some c.type) (LooseText.ofString text) =
      .ok ⟨c.subject, c.type, c.id, issue, expiry⟩ := by
  rw [verify_sign h plain hissuer hissue hexpiry]
  refine checkUse_ok_iff.mpr ⟨rfl, hnow, ?_⟩
  intro type htype
  cases htype
  rfl

theorem finish_ok_iff {subject type : String} {times : Int × Int} {id : Uuid} {issued : Issued} :
    finish suite authority subject type times id = .ok issued ↔
      sign suite authority (Contents.json ⟨subject, times.1, times.2, id.text, authority.issuer,
        type⟩) = .ok issued.token ∧ Time.ofSeconds times.2 = .ok issued.expiresAt := by
  simp only [finish]
  cases sign suite authority (Contents.json ⟨subject, times.1, times.2, id.text, authority.issuer,
    type⟩) with
  | error fault => simp
  | ok token =>
    simp only [Except.ok.injEq]
    cases Time.ofSeconds times.2 with
    | error e => cases e <;> simp
    | ok t =>
      obtain ⟨token', t'⟩ := issued
      simp

theorem isBlank_char : ∀ n < 64, Text.isBlank (Encoding.Base64.char n) = false := by
  decide

theorem isBlank_of_mem_encode {bs : Bytes} {l : Char} (h : l ∈ Encoding.Base64.encode bs) :
    Text.isBlank l = false := by
  rw [Encoding.Base64.encode, Encoding.encodeSextets_eq_map] at h
  obtain ⟨n, hn, rfl⟩ := List.mem_map.mp h
  exact isBlank_char n (Encoding.sextets_lt bs n hn)

theorem length_encode (bs : Bytes) :
    (Encoding.Base64.encode bs).length = (4 * bs.length + 2) / 3 :=
  Encoding.length_encodeSextets ..

theorem isBlank_of_mem_signedPart {algorithm : String} {claims : Json} {l : Char}
    (h : l ∈ signedPart algorithm claims) : Text.isBlank l = false := by
  rw [signedPart, List.mem_append, List.mem_cons] at h
  rcases h with h | rfl | h
  · exact isBlank_of_mem_encode h
  · decide
  · exact isBlank_of_mem_encode h

theorem field_of_sign {claims : Json} {text : String} (h : sign suite authority claims = .ok text)
    (hlength : ∀ a key, (signedPart authority.algorithm claims).length + 1 +
      (4 * (suite.mac a key (signedBytes authority.algorithm claims)).length + 2) / 3 ≤
        Validation.maxTokenLength) :
    (LooseText.ofString text).trim = LooseText.ofString text ∧
      Validation.token (some (LooseText.ofString text)) = .ok (LooseText.ofString text) := by
  obtain ⟨a, key, -, -, rfl⟩ := sign_ok_iff.mp h
  have hbound := hlength a key
  rw [← length_encode] at hbound
  generalize suite.mac a key _ = mac at hbound ⊢
  have htrim : (LooseText.ofString (String.ofList (signedPart authority.algorithm claims ++ '.' ::
      Encoding.Base64.encode mac))).trim = LooseText.ofString (String.ofList
        (signedPart authority.algorithm claims ++ '.' :: Encoding.Base64.encode mac)) := by
    apply LooseText.trim_of_unblank
    intro l hl
    rw [List.mem_append, List.mem_cons] at hl
    rcases hl with hl | rfl | hl
    · exact isBlank_of_mem_signedPart hl
    · decide
    · exact isBlank_of_mem_encode hl
  refine ⟨htrim, token_of_length htrim ?_ ?_⟩
  · rw [LooseText.length_ofString, String.length_ofList, List.length_append, List.length_cons]
    omega
  · rw [LooseText.length_ofString, String.length_ofList, List.length_append, List.length_cons]
    omega

theorem field_of_openedToken {n : Nat} (hn : n ≤ 1480) :
    Validation.token (some (LooseText.ofString (openedToken n))) =
      .ok (LooseText.ofString (openedToken n)) := by
  have hbytes : (Text.utf8 (String.ofList (List.replicate n '['))).length = n := by
    have hbracket : (String.utf8EncodeChar '[').length = 1 := rfl
    rw [Text.utf8, String.toList_ofList, List.length_flatMap, List.map_replicate, hbracket,
      List.sum_replicate_nat, Nat.mul_one]
  have hlength : (LooseText.ofString (openedToken n)).length = 7 + (4 * n + 2) / 3 := by
    have hends : "e30".toList.length = 3 ∧ "xx".toList.length = 2 := by decide
    rw [LooseText.length_ofString, openedToken, String.length_ofList, List.length_append,
      List.length_cons, List.length_append, List.length_cons, length_encode, hbytes, hends.1,
      hends.2]
    omega
  have hmax : Validation.maxTokenLength = 2000 := rfl
  apply token_of_length
  · apply LooseText.trim_of_unblank
    intro c hc
    have hends : ∀ c ∈ "e30".toList ++ "xx".toList, Text.isBlank c = false := by
      have hall : ("e30".toList ++ "xx".toList).all (!Text.isBlank ·) = true := by decide
      simpa using List.all_eq_true.mp hall
    rw [List.mem_append, List.mem_cons, List.mem_append, List.mem_cons] at hc
    rcases hc with hc | rfl | hc | rfl | hc
    · exact hends c (List.mem_append_left _ hc)
    · decide
    · exact isBlank_of_mem_encode hc
    · decide
    · exact hends c (List.mem_append_right _ hc)
  · omega
  · omega

end Accounts.Token
