import Accounts.Text.Lossy

/-! # Undamaged UTF-8

What is UTF-8 is read without loss: after the bytes of a character the reader has given exactly
that character, and nothing has begun.
-/
namespace Accounts.Text

variable {b v : Nat} {c : Char} {bits left low high : Nat} {rest : Bytes}

theorem readLossy_ascii (h : b < 0x80) (rest : Bytes) :
    readLossy none (UInt8.ofNat b :: rest) = Char.ofNat b :: readLossy none rest := by
  have hmax : b < 256 := by omega
  have hb : (UInt8.ofNat b).toNat = b := UInt8.toNat_ofNat_of_lt' hmax
  simp only [readLossy, advance, start, hb]
  rw [if_pos h]
  rfl

theorem readLossy_lead {s : Begun} (hmin : 0x80 ≤ b) (hmax : b < 256)
    (hlead : Begun.ofLead? b = some s) (rest : Bytes) :
    readLossy none (UInt8.ofNat b :: rest) = readLossy (some s) rest := by
  have hb : (UInt8.ofNat b).toNat = b := UInt8.toNat_ofNat_of_lt' hmax
  simp only [readLossy, advance, start, hb, hlead]
  rw [if_neg (by omega)]
  rfl

theorem advance_begun (hlow : low ≤ b) (hhigh : b ≤ high) :
    advance (some ⟨bits, left, low, high⟩) b =
      if left ≤ 1 then ([Char.ofNat (64 * bits + b % 64)], none)
      else ([], some ⟨64 * bits + b % 64, left - 1, 0x80, 0xBF⟩) := by
  simp [advance, hlow, hhigh]

theorem readLossy_more (hlow : low ≤ b) (hhigh : b ≤ high) (hmax : b < 256) (rest : Bytes) :
    readLossy (some ⟨bits, left + 2, low, high⟩) (UInt8.ofNat b :: rest) =
      readLossy (some ⟨64 * bits + b % 64, left + 1, 0x80, 0xBF⟩) rest := by
  have hb : (UInt8.ofNat b).toNat = b := UInt8.toNat_ofNat_of_lt' hmax
  rw [readLossy, hb, advance_begun hlow hhigh, if_neg (by omega)]
  rfl

theorem readLossy_last (hlow : low ≤ b) (hhigh : b ≤ high) (hmax : b < 256) (rest : Bytes) :
    readLossy (some ⟨bits, 1, low, high⟩) (UInt8.ofNat b :: rest) =
      Char.ofNat (64 * bits + b % 64) :: readLossy none rest := by
  have hb : (UInt8.ofNat b).toNat = b := UInt8.toNat_ofNat_of_lt' hmax
  rw [readLossy, hb, advance_begun hlow hhigh, if_pos (by omega)]
  rfl

theorem ofLead?_two (hmin : 0x80 ≤ v) (hmax : v < 0x800) :
    Begun.ofLead? (v / 64 + 0xC0) = some ⟨v / 64, 1, 0x80, 0xBF⟩ := by
  simp only [Begun.ofLead?, Bool.and_eq_true, decide_eq_true_eq]
  rw [if_pos (by omega), Nat.add_sub_cancel]

theorem ofLead?_three (hmin : 0x800 ≤ v) (hmax : v < 0x10000) (hscalar : v < 0xD800 ∨ 0xE000 ≤ v) :
    ∃ low high, Begun.ofLead? (v / 4096 + 0xE0) = some ⟨v / 4096, 2, low, high⟩ ∧
      low ≤ v / 64 % 64 + 0x80 ∧ v / 64 % 64 + 0x80 ≤ high := by
  by_cases hzero : v / 4096 = 0
  · refine ⟨0xA0, 0xBF, ?_, by omega, by omega⟩
    rw [hzero]
    rfl
  · by_cases hsurrogates : v / 4096 = 0xD
    · refine ⟨0x80, 0x9F, ?_, by omega, by omega⟩
      rw [hsurrogates]
      rfl
    · refine ⟨0x80, 0xBF, ?_, by omega, by omega⟩
      simp only [Begun.ofLead?, Bool.and_eq_true, decide_eq_true_eq, beq_iff_eq]
      rw [if_neg (by omega), if_neg (by omega), if_neg (by omega), if_pos (by omega),
        Nat.add_sub_cancel]

theorem ofLead?_four (hmin : 0x10000 ≤ v) (hmax : v < 0x110000) :
    ∃ low high, Begun.ofLead? (v / 262144 + 0xF0) = some ⟨v / 262144, 3, low, high⟩ ∧
      low ≤ v / 4096 % 64 + 0x80 ∧ v / 4096 % 64 + 0x80 ≤ high := by
  have hlead : v / 262144 = 0 ∨ v / 262144 = 1 ∨ v / 262144 = 2 ∨ v / 262144 = 3 ∨
      v / 262144 = 4 := by
    omega
  rcases hlead with h | h | h | h | h
  · exact ⟨0x90, 0xBF, by rw [h]; rfl, by omega, by omega⟩
  · exact ⟨0x80, 0xBF, by rw [h]; rfl, by omega, by omega⟩
  · exact ⟨0x80, 0xBF, by rw [h]; rfl, by omega, by omega⟩
  · exact ⟨0x80, 0xBF, by rw [h]; rfl, by omega, by omega⟩
  · exact ⟨0x80, 0x8F, by rw [h]; rfl, by omega, by omega⟩

theorem readLossy_two (hmin : 0x80 ≤ v) (hmax : v < 0x800) (rest : Bytes) :
    readLossy none (UInt8.ofNat (v / 64 % 32 + 0xC0) :: UInt8.ofNat (v % 64 + 0x80) :: rest) =
      Char.ofNat v :: readLossy none rest := by
  have hfit : v / 64 % 32 = v / 64 := Nat.mod_eq_of_lt (by omega)
  have hbits : 64 * (v / 64) + (v % 64 + 0x80) % 64 = v := by omega
  rw [hfit, readLossy_lead (by omega) (by omega) (ofLead?_two hmin hmax),
    readLossy_last (by omega) (by omega) (by omega), hbits]

theorem readLossy_three (hmin : 0x800 ≤ v) (hmax : v < 0x10000)
    (hscalar : v < 0xD800 ∨ 0xE000 ≤ v) (rest : Bytes) :
    readLossy none (UInt8.ofNat (v / 4096 % 16 + 0xE0) :: UInt8.ofNat (v / 64 % 64 + 0x80) ::
      UInt8.ofNat (v % 64 + 0x80) :: rest) = Char.ofNat v :: readLossy none rest := by
  have hfit : v / 4096 % 16 = v / 4096 := Nat.mod_eq_of_lt (by omega)
  have hbits : 64 * (64 * (v / 4096) + (v / 64 % 64 + 0x80) % 64) + (v % 64 + 0x80) % 64 = v := by
    omega
  obtain ⟨low, high, hlead, hlow, hhigh⟩ := ofLead?_three hmin hmax hscalar
  rw [hfit, readLossy_lead (by omega) (by omega) hlead, readLossy_more hlow hhigh (by omega),
    readLossy_last (by omega) (by omega) (by omega), hbits]

theorem readLossy_four (hmin : 0x10000 ≤ v) (hmax : v < 0x110000) (rest : Bytes) :
    readLossy none (UInt8.ofNat (v / 262144 % 8 + 0xF0) ::
      UInt8.ofNat (v / 4096 % 64 + 0x80) :: UInt8.ofNat (v / 64 % 64 + 0x80) ::
        UInt8.ofNat (v % 64 + 0x80) :: rest) = Char.ofNat v :: readLossy none rest := by
  have hfit : v / 262144 % 8 = v / 262144 := Nat.mod_eq_of_lt (by omega)
  have hbits : 64 * (64 * (64 * (v / 262144) + (v / 4096 % 64 + 0x80) % 64) +
      (v / 64 % 64 + 0x80) % 64) + (v % 64 + 0x80) % 64 = v := by
    omega
  obtain ⟨low, high, hlead, hlow, hhigh⟩ := ofLead?_four hmin hmax
  rw [hfit, readLossy_lead (by omega) (by omega) hlead, readLossy_more hlow hhigh (by omega),
    readLossy_more (by omega) (by omega) (by omega),
    readLossy_last (by omega) (by omega) (by omega), hbits]

theorem readLossy_encodeChar (c : Char) (rest : Bytes) :
    readLossy none (String.utf8EncodeChar c ++ rest) = c :: readLossy none rest := by
  have hscalar : c.val.toNat < 0xD800 ∨ 0xDFFF < c.val.toNat ∧ c.val.toNat < 0x110000 := c.valid
  have hchar : Char.ofNat c.val.toNat = c := Char.ofNat_toNat c
  unfold String.utf8EncodeChar
  generalize c.val.toNat = v at hscalar hchar
  subst hchar
  dsimp only
  split
  · next hone => exact readLossy_ascii (Nat.lt_succ_of_le hone) rest
  · next hone =>
    split
    · next htwo => exact readLossy_two (Nat.not_le.mp hone) (Nat.lt_succ_of_le htwo) rest
    · next htwo =>
      split
      · next hthree =>
        have hbounds : v < 0xD800 ∨ 0xE000 ≤ v := by omega
        exact readLossy_three (Nat.not_le.mp htwo) (Nat.lt_succ_of_le hthree) hbounds rest
      · next hthree =>
        have hmax : v < 0x110000 := by omega
        exact readLossy_four (Nat.not_le.mp hthree) hmax rest

theorem lossy_utf8 (s : String) : lossy (utf8 s) = s.toList := by
  rw [lossy, utf8]
  induction s.toList with
  | nil => rfl
  | cons c cs ih => rw [List.flatMap_cons, readLossy_encodeChar, ih]

end Accounts.Text
