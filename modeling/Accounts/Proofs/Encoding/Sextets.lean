import Accounts.Encoding.Base64

/-! # Bytes in six-bit groups and back

Both alphabets write the same groups. What was written is read back, and written text has no padding
and no dot in it.
-/
namespace Accounts.Encoding

def sextets : Bytes → List Nat
  | a :: b :: c :: r =>
    a.toNat / 4 :: (a.toNat % 4 * 16 + b.toNat / 16) :: (b.toNat % 16 * 4 + c.toNat / 64) ::
      c.toNat % 64 :: sextets r
  | [a, b] => [a.toNat / 4, a.toNat % 4 * 16 + b.toNat / 16, b.toNat % 16 * 4]
  | [a] => [a.toNat / 4, a.toNat % 4 * 16]
  | [] => []

theorem encodeSextets_eq_map (char : Nat → Char) (bs : Bytes) :
    encodeSextets char bs = (sextets bs).map char := by
  fun_induction sextets bs with
  | case1 a b c r ih => simp [encodeSextets, ih]
  | case2 a b => rfl
  | case3 a => rfl
  | case4 => rfl

theorem length_sextets (bs : Bytes) : (sextets bs).length = (4 * bs.length + 2) / 3 := by
  rw [← length_encodeSextets Base64.char, encodeSextets_eq_map, List.length_map]

theorem sextets_lt (bs : Bytes) : ∀ n ∈ sextets bs, n < 64 := by
  fun_induction sextets bs with
  | case1 a b c r ih =>
    have ha := a.toNat_lt
    have hb := b.toNat_lt
    have hc := c.toNat_lt
    simp only [List.mem_cons, forall_eq_or_imp]
    exact ⟨by omega, by omega, by omega, by omega, ih⟩
  | case2 a b =>
    have ha := a.toNat_lt
    have hb := b.toNat_lt
    simp only [List.mem_cons, forall_eq_or_imp, List.not_mem_nil, false_implies, implies_true]
    exact ⟨by omega, by omega, by omega, trivial⟩
  | case3 a =>
    have ha := a.toNat_lt
    simp only [List.mem_cons, forall_eq_or_imp, List.not_mem_nil, false_implies, implies_true]
    exact ⟨by omega, by omega, trivial⟩
  | case4 => simp

theorem ofNat_eq {n : Nat} {b : UInt8} (h : n = b.toNat) : UInt8.ofNat n = b := by
  rw [h, UInt8.ofNat_toNat]

theorem ofSextets_sextets (bs : Bytes) : ofSextets (sextets bs) = bs := by
  fun_induction sextets bs with
  | case1 a b c r ih =>
    have ha := a.toNat_lt
    have hb := b.toNat_lt
    have hc := c.toNat_lt
    rw [ofSextets, ih, ofNat_eq (b := a) (by omega), ofNat_eq (b := b) (by omega),
      ofNat_eq (b := c) (by omega)]
  | case2 a b =>
    have ha := a.toNat_lt
    have hb := b.toNat_lt
    rw [ofSextets, ofNat_eq (b := a) (by omega), ofNat_eq (b := b) (by omega)]
  | case3 a =>
    have ha := a.toNat_lt
    rw [ofSextets, ofNat_eq (b := a) (by omega)]
  | case4 => rfl

theorem length_ofSextets_le (values : List Nat) : (ofSextets values).length ≤ values.length := by
  fun_induction ofSextets values with
  | case1 w x y z r ih =>
    simp only [List.length_cons]
    omega
  | case2 | case3 | case4 => simp

namespace Base64

def letterByte (n : Nat) : UInt8 :=
  UInt8.ofNat (char n).toNat

theorem letterByte_spec : ∀ n < 64, String.utf8EncodeChar (char n) = [letterByte n] ∧
    value? (letterByte n) = some n ∧ letterByte n ≠ pad ∧ letterByte n ≠ 46 := by
  decide

theorem utf8_letters (values : List Nat) (hv : ∀ n ∈ values, n < 64) :
    (values.map char).flatMap String.utf8EncodeChar = values.map letterByte := by
  induction values with
  | nil => rfl
  | cons n ns ih =>
    rw [List.map_cons, List.flatMap_cons, (letterByte_spec n (hv n (.head _))).1,
      ih fun m hm => hv m (.tail _ hm)]
    rfl

theorem utf8_encode (bs : Bytes) :
    (encode bs).flatMap String.utf8EncodeChar = (sextets bs).map letterByte := by
  rw [encode, encodeSextets_eq_map, utf8_letters _ (sextets_lt bs)]

theorem scan_letters (values : List Nat) (hv : ∀ n ∈ values, n < 64) (letters : Nat) (r : Bytes) :
    scan letters 0 (values.map letterByte ++ r) =
      (scan (letters + values.length) 0 r).map (values ++ ·) := by
  induction values generalizing letters with
  | nil => cases hs : scan letters 0 r <;> simp [Except.map, hs]
  | cons n ns ih =>
    obtain ⟨-, hvalue, hpad, -⟩ := letterByte_spec n (hv n (.head _))
    simp only [List.map_cons, List.cons_append, scan, hpad, if_false, hvalue]
    rw [ih (fun m hm => hv m (.tail _ hm)), List.length_cons, Nat.add_right_comm letters 1,
      ← Nat.add_assoc]
    cases scan (letters + ns.length + 1) 0 r <;> rfl

theorem scan_padding (letters : Nat) (h : letters % 4 ≠ 1) :
    scan letters 0 (List.replicate ((4 - letters % 4) % 4) pad) = .ok [] := by
  have hlt : letters % 4 < 4 := Nat.mod_lt _ (by omega)
  rcases hm : letters % 4 with _ | _ | _ | _ | k
  · simp [scan, hm]
  · exact absurd hm h
  · simp [scan, hm, List.replicate]
  · simp [scan, hm]
  · omega

theorem decode_sextets (bs : Bytes) : decode ((sextets bs).map letterByte) = .ok bs := by
  have hlen := length_sextets bs
  have hmod : (sextets bs).length % 4 ≠ 1 := by omega
  rw [decode, fillUp, List.length_map, scan_letters _ (sextets_lt bs), Nat.zero_add,
    scan_padding _ hmod]
  simp [Except.map, ofSextets_sextets]

theorem decode?_encode (bs : Bytes) :
    decode? ((encode bs).flatMap String.utf8EncodeChar) = some bs := by
  rw [utf8_encode, decode?, decode_sextets]
  rfl

theorem dot_not_mem_encode (bs : Bytes) :
    46 ∉ (encode bs).flatMap String.utf8EncodeChar := by
  rw [utf8_encode]
  intro h
  obtain ⟨n, hn, he⟩ := List.mem_map.mp h
  exact (letterByte_spec n (sextets_lt bs n hn)).2.2.2 he

def isLetter (b : UInt8) : Bool :=
  (value? b).isSome

theorem isLetter_ofNat {n : Nat} (hmin : 128 ≤ n) (hmax : n < 256) :
    isLetter (UInt8.ofNat n) = false := by
  have hn : (UInt8.ofNat n).toNat = n := UInt8.toNat_ofNat_of_lt' hmax
  have hnone : value? (UInt8.ofNat n) = none := by
    simp only [value?, hn]
    rw [if_neg, if_neg, if_neg, if_neg, if_neg]
    all_goals
      simp only [Bool.and_eq_true, Bool.or_eq_true, decide_eq_true_eq]
      omega
  rw [isLetter, hnone]
  rfl

theorem isLetter_eq_false_of_mem {c : Char} (hc : 127 < c.val.toNat) {b : UInt8}
    (hb : b ∈ String.utf8EncodeChar c) : isLetter b = false := by
  unfold String.utf8EncodeChar at hb
  rw [if_neg (Nat.not_le.mpr hc)] at hb
  split at hb
  · simp only [List.mem_cons, List.not_mem_nil, or_false] at hb
    rcases hb with rfl | rfl <;> exact isLetter_ofNat (by omega) (by omega)
  · split at hb
    · simp only [List.mem_cons, List.not_mem_nil, or_false] at hb
      rcases hb with rfl | rfl | rfl <;> exact isLetter_ofNat (by omega) (by omega)
    · simp only [List.mem_cons, List.not_mem_nil, or_false] at hb
      rcases hb with rfl | rfl | rfl | rfl <;> exact isLetter_ofNat (by omega) (by omega)

theorem countP_utf8EncodeChar_le (c : Char) : (String.utf8EncodeChar c).countP isLetter ≤ 1 := by
  by_cases hc : c.val.toNat ≤ 127
  · have hlength : (String.utf8EncodeChar c).length = 1 := by
      unfold String.utf8EncodeChar
      rw [if_pos hc]
      rfl
    exact hlength ▸ List.countP_le_length
  · have hzero : (String.utf8EncodeChar c).countP isLetter = 0 := by
      refine List.countP_eq_zero.mpr fun b hb => ?_
      rw [isLetter_eq_false_of_mem (Nat.not_le.mp hc) hb]
      exact Bool.false_ne_true
    omega

theorem countP_utf8_le (s : String) : (Text.utf8 s).countP isLetter ≤ s.length := by
  rw [Text.utf8, ← String.length_toList]
  induction s.toList with
  | nil => exact Nat.le_refl 0
  | cons c cs ih =>
    have hc := countP_utf8EncodeChar_le c
    rw [List.flatMap_cons, List.countP_append, List.length_cons]
    omega

theorem length_scan_le {letters pads : Nat} {bs : Bytes} {values : List Nat}
    (h : scan letters pads bs = .ok values) : values.length ≤ bs.countP isLetter := by
  fun_induction scan letters pads bs generalizing values with
  | case1 | case4 =>
    cases h
    exact Nat.zero_le _
  | case2 | case3 => cases h
  | case5 letters pads r _ _ ih =>
    have hr := ih h
    rw [List.countP_cons]
    omega
  | case6 letters pads r _ ih =>
    have hr := ih h
    rw [List.countP_cons]
    omega
  | case7 letters pads b r _ _ ih =>
    have hr := ih h
    rw [List.countP_cons]
    omega
  | case8 letters pads b r _ v hv ih =>
    cases hr : scan (letters + 1) 0 r with
    | error e =>
      rw [hr] at h
      cases h
    | ok vs =>
      rw [hr] at h
      cases h
      have hletter : isLetter b = true := by rw [isLetter, hv, Option.isSome_some]
      have hvs := ih hr
      rw [List.countP_cons_of_pos hletter, List.length_cons]
      omega

theorem ok_of_decode? {bs out : Bytes} (h : decode? bs = some out) : decode bs = .ok out := by
  cases hd : decode bs with
  | error e =>
    rw [decode?, hd] at h
    cases h
  | ok out' =>
    rw [decode?, hd] at h
    cases h
    rfl

theorem length_decode_le_countP {bs out : Bytes} (h : decode bs = .ok out) :
    out.length ≤ bs.countP isLetter := by
  rw [decode] at h
  cases hscan : scan 0 0 (fillUp bs) with
  | error e =>
    rw [hscan] at h
    cases h
  | ok values =>
    rw [hscan] at h
    cases h
    have hpad : isLetter pad = false := by decide
    have hvalues := length_scan_le hscan
    rw [fillUp, List.countP_append, List.countP_replicate, hpad] at hvalues
    have hbytes := length_ofSextets_le values
    simp only [Bool.false_eq_true, if_false, Nat.add_zero] at hvalues
    omega

theorem length_decode_le {s : String} {bs : Bytes} (h : decode (Text.utf8 s) = .ok bs) :
    bs.length ≤ s.length :=
  Nat.le_trans (length_decode_le_countP h) (countP_utf8_le s)

end Base64

end Accounts.Encoding
