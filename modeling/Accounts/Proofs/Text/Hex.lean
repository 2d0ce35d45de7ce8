import Accounts.Uuid
import Accounts.Proofs.Text.Trimming

/-! # Hexadecimal digits

A number that fits its width is written with as many digits as the width says, and they have the
values of its digits. The canonical text of an id is read back as the id.
-/
namespace Accounts.Text

/-- The last digits of a number in base sixteen, as many as the width says. -/
def nibbles : Nat → Nat → List Nat
  | 0, _ => []
  | w + 1, n => nibbles w (n / 16) ++ [n % 16]

theorem length_nibbles (w n : Nat) : (nibbles w n).length = w := by
  induction w generalizing n with
  | zero => rfl
  | succ w ih => rw [nibbles, List.length_append, ih, List.length_singleton]

theorem nibbles_lt (w n : Nat) : ∀ d ∈ nibbles w n, d < 16 := by
  induction w generalizing n with
  | zero => simp [nibbles]
  | succ w ih =>
    intro d hd
    rcases List.mem_append.mp hd with hd | hd
    · exact ih _ d hd
    · rw [List.mem_singleton.mp hd]
      exact Nat.mod_lt _ (by omega)

theorem div_lt_pow {w n : Nat} (h : n < Nat.pow 16 (w + 1)) : n / 16 < Nat.pow 16 w := by
  have hpow : Nat.pow 16 (w + 1) = Nat.pow 16 w * 16 := rfl
  rw [hpow] at h
  omega

theorem ofDigits_nibbles {w n : Nat} (h : n < Nat.pow 16 w) :
    Integer.ofDigits 16 (nibbles w n) = n := by
  induction w generalizing n with
  | zero =>
    have hzero : n = 0 := Nat.lt_one_iff.mp h
    rw [hzero]
    rfl
  | succ w ih =>
    have hdiv := div_lt_pow h
    have hrest := ih hdiv
    rw [Integer.ofDigits] at hrest ⊢
    rw [nibbles, List.foldl_append, hrest, List.foldl_cons, List.foldl_nil]
    omega

theorem hex_succ {w : Nat} (hw : 0 < w) (n : Nat) :
    hex (w + 1) n = hex w (n / 16) ++ [Nat.digitChar (n % 16)] := by
  unfold hex
  rw [Nat.toDigits_eq_if (n := n) (by omega : 1 < 16)]
  split
  · next hlt =>
    have hdiv : n / 16 = 0 := by omega
    have hmod : n % 16 = n := by omega
    rw [hdiv, hmod, Nat.toDigits_zero]
    obtain ⟨v, rfl⟩ : ∃ v, w = v + 1 := ⟨w - 1, by omega⟩
    simp [List.replicate_succ']
  · simp [List.append_assoc]

theorem hex_eq_nibbles {w n : Nat} (hw : 0 < w) (h : n < Nat.pow 16 w) :
    hex w n = (nibbles w n).map Nat.digitChar := by
  induction w generalizing n with
  | zero => omega
  | succ w ih =>
    have hdiv := div_lt_pow h
    rcases Nat.eq_zero_or_pos w with rfl | hpos
    · have hlt : n < 16 := h
      rw [hex, Nat.toDigits_of_lt_base hlt, nibbles, nibbles, Nat.mod_eq_of_lt hlt]
      rfl
    · rw [hex_succ hpos, ih hpos hdiv, nibbles, List.map_append]
      rfl

theorem digitChar_spec : ∀ d < 16, Integer.hexValue? (Nat.digitChar d) = some d ∧
    Nat.digitChar d ≠ 'u' ∧ Nat.digitChar d ≠ '-' ∧ Nat.digitChar d ≠ '+' ∧
    Nat.digitChar d ≠ '_' ∧ Nat.digitChar d ≠ 'x' ∧ Nat.digitChar d ≠ 'X' ∧
    Uuid.isBrace (Nat.digitChar d) = false ∧ Integer.isPadding (Nat.digitChar d) = false := by
  decide

theorem digitValues_digits (ds : List Nat) (hne : ds ≠ []) (hd : ∀ d ∈ ds, d < 16) :
    Integer.digitValues Integer.hexValue? (ds.map Nat.digitChar) = some ds := by
  induction ds with
  | nil => exact absurd rfl hne
  | cons d r ih =>
    have hvalue := (digitChar_spec d (hd d (.head _))).1
    cases r with
    | nil => simp [Integer.digitValues, hvalue]
    | cons e r =>
      have hrest := ih (by simp) fun x hx => hd x (.tail _ hx)
      have hunder := (digitChar_spec e (hd e (.tail _ (.head _)))).2.2.2.2.1
      simp only [List.map_cons] at hrest ⊢
      rw [Integer.digitValues]
      · rw [hvalue, hrest]
        rfl
      · exact List.cons_ne_nil _ _
      · intro r' h
        exact hunder (List.cons.inj h).1

end Accounts.Text

namespace Accounts.Uuid

open Text

def digits (u : Uuid) : List Nat :=
  nibbles 32 u.toNat

theorem hex_eq_digits (u : Uuid) : hex 32 u.toNat = u.digits.map Nat.digitChar :=
  hex_eq_nibbles (by omega) u.isLt

theorem mem_hex {u : Uuid} {c : Char} (h : c ∈ hex 32 u.toNat) : ∃ d < 16, c = Nat.digitChar d := by
  rw [hex_eq_digits] at h
  obtain ⟨d, hd, rfl⟩ := List.mem_map.mp h
  exact ⟨d, nibbles_lt 32 _ d hd, rfl⟩

theorem mem_chars {u : Uuid} {c : Char} (h : c ∈ u.chars) : c ∈ hex 32 u.toNat ∨ c = '-' := by
  simp only [chars, List.mem_append, List.mem_cons] at h
  rcases h with (((h | h | h) | h | h) | h | h) | h | h
  · exact .inl (List.mem_of_mem_take h)
  · exact .inr h
  · exact .inl (List.mem_of_mem_drop (List.mem_of_mem_take h))
  · exact .inr h
  · exact .inl (List.mem_of_mem_drop (List.mem_of_mem_take h))
  · exact .inr h
  · exact .inl (List.mem_of_mem_drop (List.mem_of_mem_take h))
  · exact .inr h
  · exact .inl (List.mem_of_mem_drop h)

theorem without_eq_self {mark : Char} {more cs : List Char} (h : mark ∉ cs) :
    without (mark :: more) 0 cs = cs := by
  induction cs with
  | nil => rfl
  | cons c r ih =>
    have hne : (mark == c) = false := by
      rw [beq_eq_false_iff_ne]
      rintro rfl
      exact h (.head _)
    rw [without, List.isPrefixOf, hne, Bool.false_and, if_neg (by decide),
      ih fun hr => h (.tail _ hr)]

theorem bare_chars (u : Uuid) : bare u.chars = hex 32 u.toNat := by
  have hmark : 'u' ∉ u.chars := by
    intro h
    rcases mem_chars h with h | h
    · obtain ⟨d, hd, hc⟩ := mem_hex h
      exact (digitChar_spec d hd).2.1 hc.symm
    · exact absurd h (by decide)
  have hbrace : ∀ c ∈ u.chars, isBrace c = false := by
    intro c h
    rcases mem_chars h with h | rfl
    · obtain ⟨d, hd, rfl⟩ := mem_hex h
      exact (digitChar_spec d hd).2.2.2.2.2.2.2.1
    · rfl
  have hkeep : ∀ cs : List Char, (∀ c ∈ cs, c ∈ hex 32 u.toNat) → cs.filter (· != '-') = cs := by
    intro cs hcs
    refine List.filter_eq_self.mpr fun c hc => ?_
    obtain ⟨d, hd, rfl⟩ := mem_hex (hcs c hc)
    exact bne_iff_ne.mpr (digitChar_spec d hd).2.2.1
  have hparts : ∀ (ds : List Char) i j,
      (ds.drop i).take j ++ ds.drop (i + j) = ds.drop i := by
    intro ds i j
    rw [← List.drop_drop, List.take_append_drop]
  have hskip : ∀ cs : List Char, ('-' :: cs).filter (· != '-') = cs.filter (· != '-') :=
    fun cs => List.filter_cons_of_neg (by decide)
  rw [bare, without_eq_self hmark, without_eq_self hmark, stripWhere_eq_self hbrace, chars]
  simp only [List.filter_append, hskip]
  rw [hkeep _ fun c h => List.mem_of_mem_take h,
    hkeep _ fun c h => List.mem_of_mem_drop (List.mem_of_mem_take h),
    hkeep _ fun c h => List.mem_of_mem_drop (List.mem_of_mem_take h),
    hkeep _ fun c h => List.mem_of_mem_drop (List.mem_of_mem_take h),
    hkeep _ fun c h => List.mem_of_mem_drop h]
  simp only [List.append_assoc, hparts, List.take_append_drop]

theorem ofHex?_digits (u : Uuid) :
    Integer.ofHex? (String.ofList (hex 32 u.toNat)) = some (u.toNat : Int) := by
  have hpad : ∀ c ∈ hex 32 u.toNat, Integer.isPadding c = false := by
    intro c h
    obtain ⟨d, hd, rfl⟩ := mem_hex h
    exact (digitChar_spec d hd).2.2.2.2.2.2.2.2
  have hlt : ∀ d ∈ u.digits, d < 16 := nibbles_lt 32 _
  obtain ⟨d, e, r, hsplit⟩ : ∃ d e r, u.digits = d :: e :: r := by
    have hlen : u.digits.length = 32 := length_nibbles 32 _
    match hds : u.digits with
    | d :: e :: r => exact ⟨d, e, r, rfl⟩
    | [d] => simp [hds] at hlen
    | [] => simp [hds] at hlen
  have hd := digitChar_spec d (hlt d (by simp [hsplit]))
  have he := digitChar_spec e (hlt e (by simp [hsplit]))
  have hvalues : Integer.digitValues Integer.hexValue? (u.digits.map Nat.digitChar) =
      some u.digits :=
    digitValues_digits u.digits (by simp [hsplit]) hlt
  have hmark : Integer.dropHexMark (u.digits.map Nat.digitChar) = u.digits.map Nat.digitChar := by
    rw [hsplit, List.map_cons, List.map_cons]
    unfold Integer.dropHexMark
    split <;> simp_all
  have hunsigned : ∀ read? : List Char → Option Nat,
      Integer.signed read? (u.digits.map Nat.digitChar) =
        (read? (u.digits.map Nat.digitChar)).map Int.ofNat := by
    intro read?
    rw [hsplit, List.map_cons]
    unfold Integer.signed
    split <;> simp_all
  rw [Integer.ofHex?, String.toList_ofList, stripWhere_eq_self hpad, hex_eq_digits, hunsigned,
    hmark, hvalues, Option.map_some, Option.map_some, digits, ofDigits_nibbles u.isLt]
  rfl

theorem ofText?_text (u : Uuid) : ofText? u.text = some u := by
  have hlen : (hex 32 u.toNat).length = 32 := by
    rw [hex_eq_digits, List.length_map, digits, length_nibbles]
  have hrange :
      (decide (0 ≤ (u.toNat : Int)) && decide ((u.toNat : Int) < Nat.pow 2 128)) = true := by
    have := u.isLt
    simp only [Bool.and_eq_true, decide_eq_true_eq]
    refine ⟨by omega, ?_⟩
    exact Int.ofNat_lt.mpr this
  have hu : BitVec.ofInt 128 (u.toNat : Int) = u := by
    rw [BitVec.ofInt_natCast, BitVec.ofNat_toNat, BitVec.setWidth_eq]
  have hguard : ∀ {p : Prop} [Decidable p], p → guard (f := Option) p = some () :=
    fun h => if_pos h
  rw [ofText?, text, String.toList_ofList, bare_chars]
  refine Option.bind_eq_some_iff.mpr ⟨(), hguard hlen, ?_⟩
  refine Option.bind_eq_some_iff.mpr ⟨_, ofHex?_digits u, ?_⟩
  exact Option.bind_eq_some_iff.mpr ⟨(), hguard hrange, congrArg some hu⟩

end Accounts.Uuid
