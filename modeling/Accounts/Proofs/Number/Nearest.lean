import Mathlib.Algebra.Order.Field.Power
import Mathlib.Data.Rat.Floor
import Mathlib.Tactic.Linarith
import Mathlib.Tactic.FieldSimp
import Mathlib.Tactic.Ring
import Mathlib.Tactic.Positivity
import Accounts.Proofs.Number.Rounding

/-! # Nearest doubles

Rounding a quotient gives a double to which no other one is preferable: none is nearer, and if
another one is as near, the mantissa is even. On its own binade the rounded number is the nearest
multiple of a power of two; doubles on a finer grid all lie below the binade.
-/
namespace Accounts.Double

/-- The number that a finite double stands for. -/
def value : Double → ℚ
  | .finite negative m e => signedMantissa negative m * 2 ^ e
  | _ => 0

def mantissa : Double → Nat
  | .finite _ m _ => m
  | _ => 0

/-- A finite double in the form it is stored in: the mantissa has 53 bits, or fewer with the least
exponent. -/
def IsStored : Double → Prop
  | .finite _ m e => m < 2 ^ 53 ∧ -1074 ≤ e ∧ e ≤ 971 ∧ (2 ^ 52 ≤ m ∨ e = -1074)
  | _ => False

/-- The double nearest to a number, with an even mantissa if another one is as near. -/
structure IsNearest (x : Double) (q : ℚ) : Prop where
  stored : x.IsStored
  closest : ∀ y, IsStored y → |x.value - q| ≤ |y.value - q|
  even : ∀ y, IsStored y → |y.value - q| = |x.value - q| → y.value = x.value ∨ Even x.mantissa

theorem value_opposite (x : Double) : x.opposite.value = -x.value := by
  cases x with
  | nan => rfl
  | infinite negative => rfl
  | finite negative m e => cases negative <;> simp [opposite, value, signedMantissa]

theorem isStored_opposite {x : Double} : x.opposite.IsStored ↔ x.IsStored := by
  cases x <;> rfl

theorem opposite_opposite (x : Double) : x.opposite.opposite = x := by
  cases x <;> simp [opposite]

theorem mantissa_opposite (x : Double) : x.opposite.mantissa = x.mantissa := by
  cases x <;> rfl

theorem IsNearest.opposite {x : Double} {q : ℚ} (h : IsNearest x q) :
    IsNearest x.opposite (-q) := by
  have hdist : ∀ y : Double, |y.opposite.value - -q| = |y.value - q| := by
    intro y
    rw [value_opposite, neg_sub_neg, abs_sub_comm]
  have hother : ∀ y : Double, |y.value - -q| = |y.opposite.value - q| := by
    intro y
    rw [← hdist, opposite_opposite]
  constructor
  · exact isStored_opposite.mpr h.stored
  · intro y hy
    rw [hdist, hother]
    exact h.closest _ (isStored_opposite.mpr hy)
  · intro y hy heq
    rw [hdist, hother] at heq
    rw [value_opposite, mantissa_opposite]
    refine (h.even _ (isStored_opposite.mpr hy) heq).imp_left fun hvalue => ?_
    rw [← hvalue, value_opposite, neg_neg]

theorem even_roundHalfEven {n d : Nat} (hd : 0 < d)
    (h : 2 * |(roundHalfEven n d : ℤ) * d - n| = d) :
    Even (roundHalfEven n d) := by
  have hsplit : (n : ℤ) = (n / d : ℕ) * d + (n % d : ℕ) := by
    exact_mod_cast (Nat.div_add_mod' n d).symm
  rw [hsplit] at h
  unfold roundHalfEven at h ⊢
  dsimp only at h ⊢
  split at h
  · next hdown =>
    rw [sub_add_cancel_left, abs_neg, Nat.abs_cast] at h
    omega
  · split at h
    · next hup =>
      have hmod : n % d < d := Nat.mod_lt n hd
      have hrest : ((n / d + 1 : ℕ) : ℤ) * d - ((n / d : ℕ) * d + (n % d : ℕ)) =
          d - (n % d : ℕ) := by
        push_cast
        ring
      rw [hrest, abs_of_nonneg (by omega)] at h
      omega
    · next hdown hup =>
      rw [if_neg hdown, if_neg hup, Nat.even_iff]
      omega

/-- No multiple is nearer to a number than the rounded one. -/
theorem roundHalfEven_closest {n d : Nat} (hd : 0 < d) (k : ℤ) :
    |(roundHalfEven n d : ℤ) * d - n| ≤ |k * d - n| ∧
      (|k * d - n| = |(roundHalfEven n d : ℤ) * d - n| →
        k = roundHalfEven n d ∨ Even (roundHalfEven n d)) := by
  by_cases hk : k = roundHalfEven n d
  · rw [hk]
    exact ⟨le_refl _, fun _ => .inl rfl⟩
  · have herror : 2 * |(roundHalfEven n d : ℤ) * d - n| ≤ d := by
      obtain ⟨hupper, hlower⟩ := roundHalfEven_error (n := n) hd
      zify at hupper hlower
      rcases abs_cases ((roundHalfEven n d : ℤ) * d - n) with ⟨habs, -⟩ | ⟨habs, -⟩
      · omega
      · omega
    have hstep : (d : ℤ) ≤ |k * d - (roundHalfEven n d : ℤ) * d| := by
      rw [← sub_mul, abs_mul, Nat.abs_cast]
      exact le_mul_of_one_le_left (by omega) (Int.one_le_abs (sub_ne_zero.mpr hk))
    have htriangle := abs_sub_le (k * d) n ((roundHalfEven n d : ℤ) * d)
    rw [abs_sub_comm (n : ℤ)] at htriangle
    refine ⟨by omega, fun heq => .inr (even_roundHalfEven hd ?_)⟩
    omega

theorem pow_le_div_iff {n d : Nat} (hd : 0 < d) (k : ℤ) :
    (2 : ℚ) ^ k ≤ n / d ↔ d * 2 ^ k.toNat ≤ n * 2 ^ (-k).toNat := by
  have hq : (0 : ℚ) < d := by exact_mod_cast hd
  rw [le_div_iff₀ hq]
  rcases Int.le_total 0 k with hk | hk
  · obtain ⟨j, rfl⟩ := Int.eq_ofNat_of_zero_le hk
    rw [zpow_natCast, Int.toNat_natCast, show (-(j : ℤ)).toNat = 0 by omega, pow_zero, mul_one,
      mul_comm]
    exact_mod_cast Iff.rfl
  · obtain ⟨j, hj⟩ := Int.eq_ofNat_of_zero_le (Int.neg_nonneg.mpr hk)
    obtain rfl : k = -(j : ℤ) := by omega
    have hpow : (0 : ℚ) < 2 ^ j := by positivity
    rw [neg_neg, Int.toNat_natCast, show (-(j : ℤ)).toNat = 0 by omega, pow_zero, mul_one, zpow_neg,
      zpow_natCast, inv_mul_le_iff₀ hpow, mul_comm]
    exact_mod_cast Iff.rfl

theorem floorLog2_bounds {n d : Nat} (hn : 0 < n) (hd : 0 < d) :
    (2 : ℚ) ^ floorLog2 n d ≤ n / d ∧ (n / d : ℚ) < 2 ^ (floorLog2 n d + 1) := by
  have hq : (0 : ℚ) < d := by exact_mod_cast hd
  have hnlow : (2 : ℚ) ^ (n.log2 : ℤ) ≤ n := by
    rw [zpow_natCast]
    exact_mod_cast Nat.log2_self_le (by omega)
  have hdlow : (2 : ℚ) ^ (d.log2 : ℤ) ≤ d := by
    rw [zpow_natCast]
    exact_mod_cast Nat.log2_self_le (by omega)
  have hnhigh : (n : ℚ) < 2 ^ ((n.log2 : ℤ) + 1) := by
    exact_mod_cast Nat.lt_log2_self (n := n)
  have hdhigh : (d : ℚ) < 2 ^ ((d.log2 : ℤ) + 1) := by
    exact_mod_cast Nat.lt_log2_self (n := d)
  unfold floorLog2
  dsimp only
  split
  · next hfits =>
    refine ⟨(pow_le_div_iff hd _).mpr hfits, ?_⟩
    rw [div_lt_iff₀ hq]
    calc (n : ℚ) < 2 ^ ((n.log2 : ℤ) + 1) := hnhigh
      _ = 2 ^ ((n.log2 : ℤ) - d.log2 + 1) * 2 ^ (d.log2 : ℤ) := by
        rw [← zpow_add₀ two_ne_zero]
        congr 1
        ring
      _ ≤ 2 ^ ((n.log2 : ℤ) - d.log2 + 1) * d := by gcongr
  · next hfits =>
    rw [sub_add_cancel]
    refine ⟨?_, lt_of_not_ge fun h => hfits ((pow_le_div_iff hd _).mp h)⟩
    rw [le_div_iff₀ hq]
    calc (2 : ℚ) ^ ((n.log2 : ℤ) - d.log2 - 1) * d
        ≤ 2 ^ ((n.log2 : ℤ) - d.log2 - 1) * 2 ^ ((d.log2 : ℤ) + 1) := by gcongr
      _ = 2 ^ (n.log2 : ℤ) := by
        rw [← zpow_add₀ two_ne_zero]
        congr 1
        ring
      _ ≤ n := hnlow

section Grid

variable {n d : Nat} {e : ℤ}

theorem zpow_mul_pow_toNat (e : ℤ) : (2 : ℚ) ^ (-e).toNat * 2 ^ e = 2 ^ e.toNat := by
  rcases Int.le_total 0 e with h | h
  · obtain ⟨j, rfl⟩ := Int.eq_ofNat_of_zero_le h
    rw [Int.toNat_natCast, zpow_natCast, show (-(j : ℤ)).toNat = 0 by omega, pow_zero, one_mul]
  · obtain ⟨j, hj⟩ := Int.eq_ofNat_of_zero_le (Int.neg_nonneg.mpr h)
    obtain rfl : e = -(j : ℤ) := by omega
    rw [neg_neg, Int.toNat_natCast, show (-(j : ℤ)).toNat = 0 by omega, pow_zero, zpow_neg,
      zpow_natCast, mul_inv_cancel₀ (by positivity)]

theorem div_eq_scaled (hd : 0 < d) (e : ℤ) :
    (n / d : ℚ) = (n * 2 ^ (-e).toNat : ℕ) / (d * 2 ^ e.toNat : ℕ) * 2 ^ e := by
  have hq : (0 : ℚ) < d := by exact_mod_cast hd
  push_cast
  rw [div_mul_eq_mul_div, mul_assoc, zpow_mul_pow_toNat, mul_div_mul_right _ _ (by positivity)]

theorem scaled_pos (hd : 0 < d) (e : ℤ) : (0 : ℚ) < (d * 2 ^ e.toNat : ℕ) := by
  exact_mod_cast Nat.mul_pos hd (Nat.two_pow_pos _)

theorem distance_scaled (hd : 0 < d) (e k : ℤ) :
    |(k : ℚ) * 2 ^ e - n / d| =
      (|k * (d * 2 ^ e.toNat : ℕ) - (n * 2 ^ (-e).toNat : ℕ)| : ℤ) *
        (2 ^ e / (d * 2 ^ e.toNat : ℕ)) := by
  have hD := scaled_pos hd e
  have hunit : (0 : ℚ) < 2 ^ e / (d * 2 ^ e.toNat : ℕ) := div_pos (by positivity) hD
  rw [div_eq_scaled hd e, Int.cast_abs, ← abs_of_pos hunit, ← abs_mul]
  congr 1
  rw [Int.cast_sub, Int.cast_mul, Int.cast_natCast, Int.cast_natCast]
  field_simp

theorem grid_closest (hd : 0 < d) {m : Nat}
    (hm : m = roundHalfEven (n * 2 ^ (-e).toNat) (d * 2 ^ e.toNat)) (k : ℤ) :
    |(m : ℚ) * 2 ^ e - n / d| ≤ |(k : ℚ) * 2 ^ e - n / d| ∧
      (|(k : ℚ) * 2 ^ e - n / d| = |(m : ℚ) * 2 ^ e - n / d| → k = m ∨ Even m) := by
  have hD : 0 < d * 2 ^ e.toNat := Nat.mul_pos hd (Nat.two_pow_pos _)
  have hunit : (0 : ℚ) < 2 ^ e / (d * 2 ^ e.toNat : ℕ) :=
    div_pos (by positivity) (scaled_pos hd e)
  obtain ⟨hclosest, htie⟩ := roundHalfEven_closest (n := n * 2 ^ (-e).toNat) hD k
  have hself := distance_scaled (n := n) hd e m
  rw [Int.cast_natCast] at hself
  rw [hself, distance_scaled hd, hm]
  refine ⟨mul_le_mul_of_nonneg_right (by exact_mod_cast hclosest) (le_of_lt hunit), fun heq => ?_⟩
  exact htie (by exact_mod_cast mul_right_cancel₀ (ne_of_gt hunit) heq)

theorem le_scaled_iff (hd : 0 < d) (e : ℤ) (c : Nat) :
    (n / d : ℚ) ≤ c * 2 ^ e ↔ n * 2 ^ (-e).toNat ≤ c * (d * 2 ^ e.toNat) := by
  rw [div_eq_scaled hd e, mul_le_mul_iff_left₀ (by positivity), div_le_iff₀ (scaled_pos hd e)]
  exact_mod_cast Iff.rfl

theorem scaled_le_iff (hd : 0 < d) (e : ℤ) (c : Nat) :
    (c : ℚ) * 2 ^ e ≤ n / d ↔ c * (d * 2 ^ e.toNat) ≤ n * 2 ^ (-e).toNat := by
  rw [div_eq_scaled hd e, mul_le_mul_iff_left₀ (by positivity), le_div_iff₀ (scaled_pos hd e)]
  exact_mod_cast Iff.rfl

end Grid

section Nearest

variable {n d b : Nat} {y : Double} {e : ℤ}

theorem IsStored.onGrid_or_below (hy : y.IsStored) (e : ℤ) :
    (∃ k : ℤ, y.value = k * 2 ^ e) ∨ -1074 < e ∧ y.value < 2 ^ 52 * 2 ^ e := by
  cases y with
  | nan => exact hy.elim
  | infinite negative => exact hy.elim
  | finite negative m f =>
    obtain ⟨hm, hmin, -, -⟩ := hy
    rcases lt_or_ge f e with hlt | hle
    · refine .inr ⟨by omega, ?_⟩
      have hmantissa : (signedMantissa negative m : ℚ) < 2 ^ 53 := by
        have : signedMantissa negative m < 2 ^ 53 := by
          unfold signedMantissa
          split <;> omega
        exact_mod_cast this
      calc (signedMantissa negative m : ℚ) * 2 ^ f < 2 ^ 53 * 2 ^ f := by gcongr
        _ = 2 ^ 52 * 2 ^ (f + 1) := by
          rw [zpow_add₀ two_ne_zero]
          ring
        _ ≤ 2 ^ 52 * 2 ^ e := by
          gcongr
          · exact one_le_two
          · exact hlt
    · refine .inl ⟨signedMantissa negative m * 2 ^ (f - e).toNat, ?_⟩
      have hexponent : f = (f - e).toNat + e := by omega
      rw [value, Int.cast_mul, Int.cast_pow, Int.cast_ofNat, mul_assoc, ← zpow_natCast,
        ← zpow_add₀ two_ne_zero, ← hexponent]

theorem exponentFor_bounds (hn : 0 < n) (hd : 0 < d) (he : exponentFor n d = e) :
    -1074 ≤ e ∧ (n / d : ℚ) < 2 ^ 53 * 2 ^ e ∧ (e = -1074 ∨ (2 : ℚ) ^ 52 * 2 ^ e ≤ n / d) := by
  obtain ⟨hlow, hhigh⟩ := floorLog2_bounds hn hd
  unfold exponentFor at he
  refine ⟨by omega, ?_, ?_⟩
  · calc (n / d : ℚ) < 2 ^ (floorLog2 n d + 1) := hhigh
      _ ≤ 2 ^ (53 + e) := zpow_le_zpow_right₀ one_le_two (by omega)
      _ = 2 ^ 53 * 2 ^ e := by
        rw [zpow_add₀ two_ne_zero]
        rfl
  · rcases Int.le_total (-1074) (floorLog2 n d - 52) with h | h
    · right
      calc (2 : ℚ) ^ 52 * 2 ^ e = 2 ^ (52 + e) := by
            rw [zpow_add₀ two_ne_zero]
            rfl
        _ = 2 ^ floorLog2 n d := by
            congr 1
            omega
        _ ≤ n / d := hlow
    · left
      omega

theorem ofQuotient_parts (hn : 0 < n) (hd : 0 < d) (h : n < d * 2 ^ b) (hb : b ≤ 1023)
    (he : exponentFor n d = e) :
    ∃ m, m = roundHalfEven (n * 2 ^ (-e).toNat) (d * 2 ^ e.toNat) ∧
      (ofQuotient false n d).value = m * 2 ^ e ∧ (ofQuotient false n d).IsStored ∧
      (Even m → Even (ofQuotient false n d).mantissa) := by
  obtain ⟨hmin, hhigh, hbinade⟩ := exponentFor_bounds hn hd he
  have hmax : e ≤ 970 := by
    have := exponentFor_le (by omega) h
    omega
  have hD : 0 < d * 2 ^ e.toNat := Nat.mul_pos hd (Nat.two_pow_pos _)
  have hle : roundHalfEven (n * 2 ^ (-e).toNat) (d * 2 ^ e.toNat) ≤ 2 ^ 53 :=
    roundHalfEven_le hD ((le_scaled_iff hd e (2 ^ 53)).mp (by exact_mod_cast le_of_lt hhigh))
  have hge : e = -1074 ∨ 2 ^ 52 ≤ roundHalfEven (n * 2 ^ (-e).toNat) (d * 2 ^ e.toNat) :=
    hbinade.imp_right fun hlow =>
      le_roundHalfEven hD ((scaled_le_iff hd e (2 ^ 52)).mp (by exact_mod_cast hlow))
  refine ⟨_, rfl, ?_⟩
  have hparts : ofQuotient false n d =
      if roundHalfEven (n * 2 ^ (-e).toNat) (d * 2 ^ e.toNat) = 2 ^ 53 then
        .finite false (2 ^ 52) (e + 1)
      else .finite false (roundHalfEven (n * 2 ^ (-e).toNat) (d * 2 ^ e.toNat)) e := by
    unfold ofQuotient
    dsimp only
    rw [he, if_neg (by omega), if_neg (show ¬ 971 ≤ e by omega), if_neg (show ¬ 971 < e by omega)]
    rfl
  rw [hparts]
  split
  · next hcarry =>
    have htwo : Even (2 ^ 52) := by
      decide
    refine ⟨?_, ⟨by decide, by omega, by omega, .inl (by decide)⟩, fun _ => htwo⟩
    rw [hcarry, value, zpow_add₀ two_ne_zero]
    simp only [signedMantissa]
    push_cast
    ring
  · refine ⟨rfl, ⟨by omega, hmin, by omega, ?_⟩, id⟩
    omega

theorem isNearest_ofQuotient (hn : 0 < n) (hd : 0 < d) (h : n < d * 2 ^ b) (hb : b ≤ 1023) :
    IsNearest (ofQuotient false n d) (n / d) := by
  obtain ⟨-, -, hbinade⟩ := exponentFor_bounds hn hd rfl
  obtain ⟨m, hm, hvalue, hstored, heven⟩ := ofQuotient_parts hn hd h hb rfl
  have hclosest := grid_closest hd hm
  -- Below the binade, the start of the binade is nearer, and that is on the grid.
  have hbelow : ∀ y : Double, -1074 < exponentFor n d → y.value < 2 ^ 52 * 2 ^ exponentFor n d →
      |(ofQuotient false n d).value - n / d| < |y.value - n / d| := by
    intro y hmin hy
    have hstart := hbinade.resolve_left (by omega)
    calc |(ofQuotient false n d).value - n / d|
        ≤ |((2 ^ 52 : ℤ) : ℚ) * 2 ^ exponentFor n d - n / d| := hvalue ▸ (hclosest (2 ^ 52)).1
      _ = n / d - 2 ^ 52 * 2 ^ exponentFor n d := by
        rw [abs_of_nonpos (by push_cast; linarith)]
        push_cast
        ring
      _ < n / d - y.value := by linarith
      _ ≤ |y.value - n / d| := by
        rw [abs_sub_comm]
        exact le_abs_self _
  constructor
  · exact hstored
  · intro y hy
    rcases hy.onGrid_or_below (exponentFor n d) with ⟨k, hk⟩ | ⟨hmin, hlt⟩
    · rw [hvalue, hk]
      exact (hclosest k).1
    · exact le_of_lt (hbelow y hmin hlt)
  · intro y hy heq
    rcases hy.onGrid_or_below (exponentFor n d) with ⟨k, hk⟩ | ⟨hmin, hlt⟩
    · rw [hvalue, hk] at heq
      rw [hvalue, hk]
      refine ((hclosest k).2 heq).imp (fun hsame => ?_) heven
      rw [hsame, Int.cast_natCast]
    · exact absurd heq (ne_of_gt (hbelow y hmin hlt))

/-- Rounding a quotient gives the nearest double, unless the quotient is too great for any. -/
theorem isNearest_ofRatio {n : ℤ} (hd : 0 < d) (h : n.natAbs < d * 2 ^ b) (hb : b ≤ 1023) :
    IsNearest (ofRatio n d) (n / d) := by
  rcases Int.lt_trichotomy n 0 with hneg | rfl | hpos
  · have hopposite := (isNearest_ofQuotient (n := n.natAbs) (by omega) hd h hb).opposite
    have hsign : -((n.natAbs : ℚ) / d) = n / d := by
      rw [← neg_div, Nat.cast_natAbs, abs_of_neg hneg, Int.cast_neg, neg_neg]
    rw [← ofQuotient_not, hsign] at hopposite
    rwa [ofRatio, decide_eq_true hneg]
  · have hzero : (finite false 0 (-1074)).value = 0 := zero_mul _
    rw [ofRatio_zero, Int.cast_zero, zero_div]
    constructor
    · exact ⟨by decide, by decide, by decide, .inr rfl⟩
    · intro y _
      rw [hzero, sub_zero, abs_zero]
      exact abs_nonneg _
    · exact fun _ _ _ => .inr Even.zero
  · have hnearest := isNearest_ofQuotient (n := n.natAbs) (by omega) hd h hb
    rw [Nat.cast_natAbs, abs_of_pos hpos] at hnearest
    rwa [ofRatio, decide_eq_false (by omega)]

end Nearest

def truncated (q : ℚ) : ℤ :=
  if 0 ≤ q then ⌊q⌋ else ⌈q⌉

theorem floorScaled_eq_floor (m e : ℤ) : floorScaled m e = ⌊(m : ℚ) * 2 ^ e⌋ := by
  rcases Int.le_total 0 e with h | h
  · obtain ⟨j, rfl⟩ := Int.eq_ofNat_of_zero_le h
    have hscaled : (m : ℚ) * 2 ^ (j : ℤ) = ((m * 2 ^ j : ℤ) : ℚ) := by
      push_cast
      rw [zpow_natCast]
    rw [hscaled, Int.floor_intCast, floorScaled, if_pos h, Int.toNat_natCast]
    exact congrArg (m * ·) (Int.natCast_pow 2 j)
  · obtain ⟨j, hj⟩ := Int.eq_ofNat_of_zero_le (Int.neg_nonneg.mpr h)
    obtain rfl : e = -(j : ℤ) := by omega
    have hscaled : (m : ℚ) * 2 ^ (-(j : ℤ)) = (m : ℚ) / ((2 ^ j : ℕ) : ℚ) := by
      push_cast
      rw [zpow_neg, zpow_natCast, div_eq_mul_inv]
    rw [hscaled, Rat.floor_intCast_div_natCast, floorScaled_negPow, Nat.cast_pow, Nat.cast_ofNat]

section Whole

variable {x : Double}

theorem floor?_eq_floor (h : x.IsStored) : x.floor? = some ⌊x.value⌋ := by
  cases x with
  | nan => exact h.elim
  | infinite negative => exact h.elim
  | finite negative m e => exact congrArg some (floorScaled_eq_floor _ e)

theorem ceil?_eq_ceil (h : x.IsStored) : x.ceil? = some ⌈x.value⌉ := by
  have hfloor := floor?_eq_floor (isStored_opposite.mpr h)
  rw [value_opposite, Int.floor_neg] at hfloor
  rw [← opposite_opposite x, ceil?_opposite, hfloor, opposite_opposite, Option.map_some, neg_neg]

theorem truncate?_eq_truncated (h : x.IsStored) : x.truncate? = some (truncated x.value) := by
  cases x with
  | nan => exact h.elim
  | infinite negative => exact h.elim
  | finite negative m e =>
    have hnonneg : (0 : ℚ) ≤ m * 2 ^ e := by positivity
    cases negative with
    | false =>
      have hvalue : (finite false m e).value = m * 2 ^ e := rfl
      rw [hvalue, truncated, if_pos hnonneg]
      exact congrArg some (floorScaled_eq_floor m e)
    | true =>
      have hvalue : (finite true m e).value = -(m * 2 ^ e) := by
        simp [value, signedMantissa]
      have htruncate : (finite true m e).truncate? = some ⌈-(m * 2 ^ e : ℚ)⌉ := by
        rw [Int.ceil_neg]
        exact congrArg (some <| -·) (floorScaled_eq_floor m e)
      rw [htruncate, hvalue, truncated]
      split
      · next hpos =>
        have hzero : (m * 2 ^ e : ℚ) = 0 := le_antisymm (neg_nonneg.mp hpos) hnonneg
        rw [hzero, neg_zero, Int.ceil_zero, Int.floor_zero]
      · rfl

end Whole

end Accounts.Double
