import Accounts.Proofs.Text.Hex
import Accounts.Proofs.Token.RoundTrip

/-! # How long a token is

Escapes make a text at most twelve times as long, and base64 adds a third to that. With an issuer of
at most a hundred characters every token of a user passes the length check.
-/
namespace Accounts.Text

def width : List Char → Nat
  | [] => 0
  | c :: cs => c.utf8Size + width cs

@[simp] theorem width_nil : width [] = 0 := rfl

@[simp] theorem width_cons (c : Char) (cs : List Char) : width (c :: cs) = c.utf8Size + width cs :=
  rfl

@[simp] theorem width_append (cs ds : List Char) : width (cs ++ ds) = width cs + width ds := by
  induction cs with
  | nil => simp
  | cons c cs ih => simp [ih, Nat.add_assoc]

theorem length_utf8 (cs : List Char) : (utf8 (String.ofList cs)).length = width cs := by
  rw [utf8, String.toList_ofList]
  induction cs with
  | nil => rfl
  | cons c cs ih => rw [List.flatMap_cons, List.length_append, ih, String.length_utf8EncodeChar]; rfl

theorem width_eq_length {cs : List Char} (h : ∀ c ∈ cs, c.utf8Size = 1) : width cs = cs.length := by
  induction cs with
  | nil => rfl
  | cons c cs ih =>
    have hrest := ih fun d hd => h d (.tail _ hd)
    rw [width, h c (.head _), hrest, List.length_cons, Nat.add_comm]

end Accounts.Text

namespace Accounts.Json

open Text

theorem utf8Size_digitChar : ∀ d < 16, (Nat.digitChar d).utf8Size = 1 := by
  decide

theorem width_unitEscape {n : Nat} (h : n < 65536) : width (unitEscape n) = 6 := by
  have hdigits : width (hex 4 n) = 4 := by
    rw [hex_eq_nibbles (by omega) h, width_eq_length, List.length_map, length_nibbles]
    intro c hc
    obtain ⟨d, hd, rfl⟩ := List.mem_map.mp hc
    exact utf8Size_digitChar d (nibbles_lt 4 n d hd)
  rw [unitEscape, width_cons, width_cons, hdigits]
  decide

theorem utf8Size_printable {c : Char} (h : c.toNat ≤ 0x7E) : c.utf8Size = 1 := by
  rw [Char.utf8Size_eq_one_iff, UInt32.le_iff_toNat_le]
  exact Nat.le_trans h (by decide)

theorem width_escapeChar_le (c : Char) : width (escapeChar c) ≤ 12 := by
  have hvalid : c.toNat < 0x110000 := by
    have := c.valid
    have hrange : c.toNat < 0xD800 ∨ 0xDFFF < c.toNat ∧ c.toNat < 0x110000 := this
    omega
  unfold escapeChar
  split
  · next h =>
    rw [Bool.or_eq_true, beq_iff_eq, beq_iff_eq] at h
    rcases h with rfl | rfl <;> decide
  split
  · decide
  split
  · decide
  split
  · decide
  split
  · decide
  split
  · decide
  split
  · next h =>
    rw [Bool.and_eq_true, decide_eq_true_eq, decide_eq_true_eq] at h
    rw [width_cons, utf8Size_printable h.2]
    decide
  split
  · next h =>
    rw [width_unitEscape h]
    decide
  · apply Nat.le_of_eq
    rw [width_append, width_unitEscape (by omega), width_unitEscape (by omega)]

theorem width_writeText (s : String) :
    width (writeText s) = width (s.toList.flatMap escapeChar) + 2 := by
  have hpoints : (s.toList.map Point.char).flatMap escapePoint = s.toList.flatMap escapeChar := by
    rw [List.flatMap_map]
    rfl
  rw [writeText, LooseText.ofString, hpoints, List.cons_append, width_cons, width_append]
  have hquote : ('"' : Char).utf8Size = 1 := by decide
  rw [width_cons, width_nil, hquote]
  omega

theorem width_flatMap_le {f : Char → List Char} {cs : List Char} {b : Nat}
    (h : ∀ c ∈ cs, width (f c) ≤ b) : width (cs.flatMap f) ≤ b * cs.length := by
  induction cs with
  | nil => exact Nat.zero_le _
  | cons c cs ih =>
    have hhead := h c (.head _)
    have htail := ih fun d hd => h d (.tail _ hd)
    rw [List.flatMap_cons, width_append, List.length_cons, Nat.mul_succ]
    omega

theorem width_writeText_le (s : String) : width (writeText s) ≤ 12 * s.length + 2 := by
  have hchars : ∀ c ∈ s.toList, width (escapeChar c) ≤ 12 := fun c _ => width_escapeChar_le c
  have := width_flatMap_le hchars
  rw [width_writeText, ← String.length_toList]
  omega

theorem escapeChar_digit : ∀ d < 16, width (escapeChar (Nat.digitChar d)) ≤ 1 := by
  decide

theorem width_writeText_id (id : Uuid) : width (writeText id.text) ≤ 38 := by
  have hlength : id.chars.length = 36 := by
    have hhex : (hex 32 id.toNat).length = 32 := by
      rw [Uuid.hex_eq_digits, List.length_map, Uuid.digits, length_nibbles]
    simp [Uuid.chars, hhex]
  have hplain : ∀ c ∈ id.chars, width (escapeChar c) ≤ 1 := by
    intro c hc
    rcases Uuid.mem_chars hc with hc | rfl
    · obtain ⟨d, hd, rfl⟩ := Uuid.mem_hex hc
      exact escapeChar_digit d hd
    · decide
  have := width_flatMap_le hplain
  rw [width_writeText, Uuid.text, String.toList_ofList]
  omega

theorem width_writeInt_le {n : Int} (h : n.natAbs < 10 ^ 12) : width (writeInt n) ≤ 13 := by
  have hdigits : width (Nat.toDigits 10 n.natAbs) ≤ 12 := by
    rw [width_eq_length]
    · exact (Nat.length_toDigits_le_iff (by omega) (by omega)).mpr h
    · intro c hc
      have hdigit : c.isDigit = true := Nat.isDigit_of_mem_toDigits (by omega) (by omega) hc
      rw [Char.isDigit, Bool.and_eq_true, decide_eq_true_eq, decide_eq_true_eq] at hdigit
      apply utf8Size_printable
      have hle : c.val.toNat ≤ 57 := UInt32.le_iff_toNat_le.mp hdigit.2
      exact Nat.le_trans hle (by decide)
  have hminus : ('-' : Char).utf8Size = 1 := by decide
  unfold writeInt
  split
  · rw [width_cons, hminus]
    omega
  · omega

end Accounts.Json

namespace Accounts.Token

open Json Text

theorem length_segment (v : Json) : (segment v).length = (4 * width (writeChars [] v) + 2) / 3 := by
  rw [segment, length_encode, write, length_utf8]

theorem length_header (a : MacAlgorithm) : (segment (header a.name)).length = 36 := by
  cases a <;> decide

theorem width_contents (c : Contents) : width (writeChars [] c.json) =
    width (writeText c.subject) + width (writeInt c.issuedAt) + width (writeInt c.expiresAt) +
      width (writeText c.id) + width (writeText c.issuer) + width (writeText c.type) + 44 := by
  have hnames : width (writeText "sub") = 5 ∧ width (writeText "iat") = 5 ∧
      width (writeText "exp") = 5 ∧ width (writeText "jti") = 5 ∧ width (writeText "iss") = 5 ∧
      width (writeText "type") = 6 := by
    decide
  obtain ⟨hsub, hiat, hexp, hjti, hiss, htype⟩ := hnames
  have hmarks : ('\x7b' : Char).utf8Size = 1 ∧ ('\x7d' : Char).utf8Size = 1 ∧
      (':' : Char).utf8Size = 1 ∧ (',' : Char).utf8Size = 1 := by
    decide
  obtain ⟨hopen, hclose, hcolon, hcomma⟩ := hmarks
  simp only [Contents.json, writeChars, writeMembers, width_append, width_cons, width_nil, hsub,
    hiat, hexp, hjti, hiss, htype, hopen, hclose, hcolon, hcomma, List.nil_append,
    List.cons_append, List.append_assoc]
  clear hsub hiat hexp hjti hiss htype hopen hclose hcolon hcomma
  generalize width (writeText c.subject) = subject
  generalize width (writeText c.id) = id
  generalize width (writeText c.issuer) = issuer
  generalize width (writeText c.type) = type
  generalize width (writeInt c.issuedAt) = issuedAt
  generalize width (writeInt c.expiresAt) = expiresAt
  omega

theorem natAbs_lt_of_ofSeconds {n : Int} {t : Instant} (h : Time.ofSeconds n = .ok t) :
    n.natAbs < 10 ^ 12 := by
  unfold Time.ofSeconds at h
  split at h
  · cases h
  split at h
  · cases h
  split at h
  · next hinstant =>
    rw [Time.isInstant, Bool.and_eq_true] at hinstant
    have hmin : -62135596800 * 1000000 ≤ n * 1000000 := of_decide_eq_true hinstant.1
    have hmax : n * 1000000 ≤ 253402300799 * 1000000 + 999999 := of_decide_eq_true hinstant.2
    omega
  · cases h

theorem width_contents_le {c : Contents} {user id : Uuid} (hsubject : c.subject = user.text)
    (hid : c.id = id.text) (hissuer : c.issuer.length ≤ 100)
    (htype : c.type = accessType ∨ c.type = refreshType) {issue expiry : Instant}
    (hissue : Time.ofSeconds c.issuedAt = .ok issue)
    (hexpiry : Time.ofSeconds c.expiresAt = .ok expiry) :
    width (writeChars [] c.json) ≤ 1357 := by
  have hsubjectWidth := width_writeText_id user
  have hidWidth := width_writeText_id id
  have hissuerWidth := width_writeText_le c.issuer
  have hissueWidth := width_writeInt_le (natAbs_lt_of_ofSeconds hissue)
  have hexpiryWidth := width_writeInt_le (natAbs_lt_of_ofSeconds hexpiry)
  have htypeWidth : width (writeText c.type) ≤ 9 := by
    rcases htype with h | h
    · rw [h]
      decide
    · rw [h]
      decide
  rw [width_contents, hsubject, hid]
  omega

theorem field_of_issueToken {s : Service} {w v : World} {user : Uuid} {ttl : Duration}
    {type : String} {issued : Issued} (issuer : s.authority.issuer.length ≤ 100)
    (short : ∀ a key msg, (s.suite.mac a key msg).length ≤ 64)
    (htype : type = accessType ∨ type = refreshType) {issue : Instant}
    (hissue : Time.ofSeconds (Time.floorSeconds w.now) = .ok issue)
    (h : w.issueToken s s.authority user.text ttl type = (v, .ok issued)) :
    (LooseText.ofString issued.token).trim = LooseText.ofString issued.token ∧
      Validation.token (some (LooseText.ofString issued.token)) =
        .ok (LooseText.ofString issued.token) := by
  obtain ⟨-, -, hsign, hexpiry⟩ := issueToken_ok_iff.mp h
  refine field_of_sign hsign fun a key => ?_
  obtain ⟨b, -, hname, -⟩ := sign_ok_iff.mp hsign
  have hheader := length_header b
  rw [← MacAlgorithm.eq_name_of_ofName? hname] at hheader
  have hcontents := width_contents_le (c := issuedContents s w s.authority user.text ttl type) rfl
    rfl issuer htype hissue hexpiry
  have hmac := short a key (signedBytes s.authority.algorithm
    (issuedContents s w s.authority user.text ttl type).json)
  have hmax : Validation.maxTokenLength = 2000 := rfl
  rw [signedPart, List.length_append, List.length_cons, hheader, length_segment]
  omega

end Accounts.Token
