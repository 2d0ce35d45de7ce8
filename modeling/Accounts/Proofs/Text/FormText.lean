import Accounts.Text.Escaped
import Accounts.Proofs.Encoding.Sextets
import Accounts.Proofs.Password.Grammar
import Accounts.Proofs.Text.Lossy

/-! # Written form values

Each byte of a value is written in one of three ways, and what a reader makes of a written value
follows from what it makes of these. The strict reader and the one for queries both give the value
back, and what is written has none of the marks that divide an address or a query.
-/
namespace Accounts.Text.FormEncoding

open Computability
open Password (one mem_one_pow)

variable {b : UInt8} {cs : List Char}

def isUnescaped (c : Char) : Bool :=
  isAsciiLetter c || isAsciiDigit c || ['_', '.', '-', '~', '+'].contains c

def isHexDigit (c : Char) : Bool :=
  isAsciiDigit c || ('A' ≤ c && c ≤ 'F')

/-- Unescaped characters and escapes `%XX`, in any order. -/
def formText : Language Char := (one isUnescaped + {['%']} * one isHexDigit ^ 2)∗

/-- How a byte is written: as a character, as a plus sign or as an escape. -/
inductive Spelling (b : UInt8) : List Char → Prop where
  | plain (c : Char) : isPlain b = true → b.toNat < 128 → c.toNat = b.toNat → isUnescaped c = true →
      c ≠ '+' → c ≠ '%' → Spelling b [c]
  | space : b = 32 → Spelling b ['+']
  | escape (hi lo : Nat) : hi < 16 → lo < 16 → b = UInt8.ofNat (16 * hi + lo) →
      Spelling b ['%', hexDigit hi, hexDigit lo]

theorem lt_of_isPlain (h : isPlain b = true) : b.toNat < 128 := by
  simp only [isPlain, Bool.or_eq_true, Bool.and_eq_true, decide_eq_true_eq, beq_iff_eq,
    UInt8.le_iff_toNat_le, ← UInt8.toNat_inj] at h
  rcases h with ((((((h | h) | h) | h) | h) | h) | h)
  all_goals
    simp only [UInt8.reduceToNat] at h
    omega

theorem plain_spec : ∀ n < 128, isPlain (UInt8.ofNat n) = true →
    (Char.ofNat n).toNat = n ∧ isUnescaped (Char.ofNat n) = true ∧
      Char.ofNat n ≠ '+' ∧ Char.ofNat n ≠ '%' := by
  decide

theorem hexDigit_spec : ∀ n < 16, hexValue? (hexDigit n) = some n ∧
    isHexDigit (hexDigit n) = true ∧ hexDigit n ≠ '+' := by
  decide

theorem encodeByte_spelling (b : UInt8) : Spelling b (encodeByte b) := by
  have hlt : b.toNat < 256 := b.toNat_lt
  unfold encodeByte
  split
  · next hplain =>
    have hascii := lt_of_isPlain hplain
    have hspec := plain_spec b.toNat hascii
    rw [UInt8.ofNat_toNat] at hspec
    obtain ⟨hchar, hunescaped, hplus, hpercent⟩ := hspec hplain
    exact .plain _ hplain hascii hchar hunescaped hplus hpercent
  · split
    · next hspace => exact .space (beq_iff_eq.mp hspace)
    · have hvalue : 16 * (b.toNat / 16) + b.toNat % 16 = b.toNat := Nat.div_add_mod b.toNat 16
      refine .escape _ _ (by omega) (by omega) ?_
      rw [hvalue, UInt8.ofNat_toNat]

theorem decodeBytes_spelling (h : Spelling b cs) (rest : List Char) :
    decodeBytes (cs ++ rest) = (decodeBytes rest).map (b :: ·) := by
  cases h with
  | plain c hplain hascii hchar _ hplus hpercent =>
    have hb : UInt8.ofNat c.toNat = b := by rw [hchar, UInt8.ofNat_toNat]
    rw [List.singleton_append, decodeBytes, hb, hplain, hchar, decide_eq_true hascii]
    · rfl
    · exact hplus
    · exact fun _ _ _ heq => absurd heq hpercent
  | space hb =>
    rw [hb]
    rfl
  | escape hi lo hhi hlo hb =>
    rw [List.cons_append, List.cons_append, List.singleton_append, decodeBytes,
      (hexDigit_spec hi hhi).1, (hexDigit_spec lo hlo).1, hb]
    cases decodeBytes rest <;> rfl

theorem decodeBytes_written (bs : Bytes) : decodeBytes (bs.flatMap encodeByte) = some bs := by
  induction bs with
  | nil => rfl
  | cons b bs ih =>
    rw [List.flatMap_cons, decodeBytes_spelling (encodeByte_spelling b), ih]
    rfl

/-- A value is read back from what is written for it. -/
theorem decode_encode (s : String) : decode (encode s) = some s := by
  rw [decode, encode, String.toList_ofList, decodeBytes_written, Option.bind_some, ofUtf8?_utf8]

theorem encode_injective {s t : String} (h : encode s = encode t) : s = t := by
  have hs := decode_encode s
  rw [h, decode_encode] at hs
  exact (Option.some.inj hs).symm

def spaced (c : Char) : Char := if c = '+' then ' ' else c

theorem unescape_spelling (h : Spelling b cs) (rest : List Char) :
    unescape (cs.map spaced ++ rest) = b :: unescape rest := by
  cases h with
  | plain c _ hascii hchar _ hplus hpercent =>
    have hbytes : String.utf8EncodeChar c = [b] := by
      have hle : c.val.toNat ≤ 127 := by
        change c.toNat ≤ 127
        omega
      rw [String.utf8EncodeChar, if_pos hle, ← UInt8.ofNat_toNat (x := b), ← hchar]
      rfl
    have hspaced : spaced c = c := if_neg hplus
    rw [List.map_cons, List.map_nil, hspaced, List.singleton_append, unescape, hbytes]
    · rfl
    · exact fun _ _ _ heq => absurd heq hpercent
  | space hb =>
    rw [hb]
    rfl
  | escape hi lo hhi hlo hb =>
    obtain ⟨hhigh, -, hplus⟩ := hexDigit_spec hi hhi
    obtain ⟨hlow, -, hplus'⟩ := hexDigit_spec lo hlo
    have hspaced : ['%', hexDigit hi, hexDigit lo].map spaced = ['%', hexDigit hi, hexDigit lo] := by
      simp [spaced, hplus, hplus']
    rw [hspaced, List.cons_append, List.cons_append, List.singleton_append, unescape, hhigh, hlow,
      hb]

theorem unescape_written (bs : Bytes) : unescape ((bs.flatMap encodeByte).map spaced) = bs := by
  induction bs with
  | nil => rfl
  | cons b bs ih =>
    rw [List.flatMap_cons, List.map_append, unescape_spelling (encodeByte_spelling b), ih]

theorem queryText_encode (s : String) : queryText (encode s).toList = s.toList := by
  have hunescape : unescape ((encode s).toList.map spaced) = utf8 s := by
    rw [encode, String.toList_ofList, unescape_written]
  rw [← lossy_utf8 s, ← hunescape]
  rfl

theorem spelling_mem (h : Spelling b cs) : cs ∈ one isUnescaped + {['%']} * one isHexDigit ^ 2 := by
  rw [Language.mem_add, Language.mem_mul]
  cases h with
  | plain c _ _ _ hunescaped => exact .inl ⟨c, hunescaped, rfl⟩
  | space => exact .inl ⟨'+', by decide, rfl⟩
  | escape hi lo hhi hlo =>
    refine .inr ⟨['%'], rfl, [hexDigit hi, hexDigit lo], ?_, rfl⟩
    rw [mem_one_pow]
    simp [(hexDigit_spec hi hhi).2.1, (hexDigit_spec lo hlo).2.1]

theorem encode_mem_formText (s : String) : (encode s).toList ∈ formText := by
  rw [encode, String.toList_ofList, List.flatMap_def]
  refine Language.join_mem_kstar fun piece hpiece => ?_
  obtain ⟨b, -, rfl⟩ := List.mem_map.mp hpiece
  exact spelling_mem (encodeByte_spelling b)

theorem isUnescaped_of_hexDigit {c : Char} (h : isHexDigit c = true) : isUnescaped c = true := by
  rw [isUnescaped, Bool.or_eq_true, Bool.or_eq_true]
  simp only [isHexDigit, Bool.or_eq_true, Bool.and_eq_true, decide_eq_true_eq] at h
  rcases h with hdigit | ⟨hmin, hmax⟩
  · exact .inl (.inr hdigit)
  · have hlast : 'F' ≤ 'Z' := by decide
    have hletter : c ≤ 'Z' := Char.le_trans hmax hlast
    simp [isAsciiLetter, hmin, hletter]

theorem mem_of_formText (h : cs ∈ formText) : ∀ c ∈ cs, c = '%' ∨ isUnescaped c = true := by
  obtain ⟨pieces, rfl, hpieces⟩ := h
  intro c hc
  obtain ⟨piece, hpiece, hc⟩ := List.mem_flatten.mp hc
  rcases hpieces piece hpiece with ⟨d, hd, rfl⟩ | ⟨_, rfl, digits, hdigits, rfl⟩
  · rw [List.mem_singleton.mp hc]
    exact .inr hd
  · rcases List.mem_cons.mp hc with rfl | hc
    · exact .inl rfl
    · exact .inr (isUnescaped_of_hexDigit ((mem_one_pow.mp hdigits).2 c hc))

theorem not_mem_of_formText {mark : Char} (hmark : mark ≠ '%' ∧ isUnescaped mark = false)
    (h : cs ∈ formText) : mark ∉ cs := by
  intro hmem
  rcases mem_of_formText h mark hmem with heq | hunescaped
  · exact hmark.1 heq
  · rw [hmark.2] at hunescaped
    cases hunescaped

theorem encodeByte_letter : ∀ n < 64,
    encodeByte (Encoding.Base64.letterByte n) = [Encoding.Base64.char n] := by
  decide

theorem encode_letters (bs : Bytes) : encode (String.ofList (Encoding.Base64.encode bs)) =
    String.ofList (Encoding.Base64.encode bs) := by
  have hletters : ∀ n ∈ Encoding.sextets bs,
      encodeByte (Encoding.Base64.letterByte n) = [Encoding.Base64.char n] := by
    intro n hn
    exact encodeByte_letter n (Encoding.sextets_lt bs n hn)
  rw [encode, utf8, String.toList_ofList, Encoding.Base64.utf8_encode, List.flatMap_map,
    List.flatMap_congr hletters, Encoding.Base64.encode, Encoding.encodeSextets_eq_map,
    List.map_eq_flatMap]

end Accounts.Text.FormEncoding
