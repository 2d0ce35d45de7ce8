import Mathlib.Algebra.Group.Int.Defs
import Mathlib.Algebra.Group.Nat.Defs
import Accounts.Time

/-! # Seconds through doubles

A count of microseconds is divided by a million and rounded once, to a multiple of a power of two.
Whole seconds are such multiples, so rounding never crosses one. Within `2 ^ 34` seconds the
multiples are closer to each other than microseconds, and whole seconds come out exactly.
-/
namespace Accounts.Double

theorem div_le_roundHalfEven (n d : Nat) : n / d ≤ roundHalfEven n d := by
  unfold roundHalfEven
  dsimp only
  split
  · exact Nat.le_refl _
  · split <;> omega

theorem roundHalfEven_le_succ (n d : Nat) : roundHalfEven n d ≤ n / d + 1 := by
  unfold roundHalfEven
  dsimp only
  split
  · omega
  · split <;> omega

theorem le_roundHalfEven {n d q : Nat} (hd : 0 < d) (h : q * d ≤ n) : q ≤ roundHalfEven n d := by
  have hdiv : q ≤ n / d := (Nat.le_div_iff_mul_le hd).mpr h
  exact Nat.le_trans hdiv (div_le_roundHalfEven n d)

theorem roundHalfEven_le {n d q : Nat} (hd : 0 < d) (h : n ≤ q * d) : roundHalfEven n d ≤ q := by
  by_cases heq : n = q * d
  · have hmod : n % d = 0 := by rw [heq, Nat.mul_mod_left]
    have hdiv : n / d = q := by rw [heq, Nat.mul_div_cancel q hd]
    have hround : roundHalfEven n d = q := by rw [roundHalfEven, hmod, if_pos (by omega), hdiv]
    exact Nat.le_of_eq hround
  · have hdiv : n / d < q := (Nat.div_lt_iff_lt_mul hd).mpr (by omega)
    have hsucc := roundHalfEven_le_succ n d
    omega

theorem roundHalfEven_error {n d : Nat} (hd : 0 < d) :
    2 * (roundHalfEven n d * d) ≤ 2 * n + d ∧ 2 * n ≤ 2 * (roundHalfEven n d * d) + d := by
  have hsplit : n / d * d + n % d = n := by
    rw [Nat.mul_comm]
    exact Nat.div_add_mod n d
  have hmod := Nat.mod_lt n hd
  have hsucc : (n / d + 1) * d = n / d * d + d := Nat.succ_mul _ _
  by_cases hdown : 2 * (n % d) < d
  · have hround : roundHalfEven n d = n / d := if_pos hdown
    rw [hround]
    omega
  · have hrest : roundHalfEven n d = n / d ∧ 2 * (n % d) ≤ d ∨ roundHalfEven n d = n / d + 1 := by
      unfold roundHalfEven
      rw [if_neg hdown]
      by_cases hup : d < 2 * (n % d)
      · exact .inr (if_pos hup)
      · rw [if_neg hup]
        have hparity := Nat.mod_lt (n / d) (by omega : 0 < 2)
        omega
    rcases hrest with ⟨hround, hle⟩ | hround
    · rw [hround]
      omega
    · rw [hround, hsucc]
      omega

theorem floorLog2_lt {n d b : Nat} (hn : n ≠ 0) (h : n < d * 2 ^ b) : floorLog2 n d < b := by
  have hd : d < 2 ^ (d.log2 + 1) := Nat.lt_log2_self
  have hself : 2 ^ n.log2 ≤ n := Nat.log2_self_le hn
  have hlog : n.log2 < d.log2 + 1 + b := by
    refine (Nat.pow_lt_pow_iff_right (a := 2) (by omega)).mp ?_
    calc 2 ^ n.log2 ≤ n := hself
      _ < d * 2 ^ b := h
      _ ≤ 2 ^ (d.log2 + 1) * 2 ^ b := Nat.mul_le_mul_right _ (Nat.le_of_lt hd)
      _ = 2 ^ (d.log2 + 1 + b) := (Nat.pow_add ..).symm
  unfold floorLog2
  dsimp only
  split
  · next hfits =>
    -- The difference of the logarithms can be `b` itself; then the test is what excludes it.
    by_cases hb : (n.log2 : Int) - d.log2 = b
    · rw [hb, Int.toNat_natCast, show (-(b : Int)).toNat = 0 by omega] at hfits
      have : d * 2 ^ b ≤ n * 2 ^ 0 := hfits
      omega
    · omega
  · omega

theorem exponentFor_le {n d b : Nat} (hn : n ≠ 0) (h : n < d * 2 ^ b) :
    exponentFor n d ≤ b - 53 := by
  have hlog := floorLog2_lt hn h
  unfold exponentFor
  omega

/-- An integer nearest to a quotient scaled by a power of two, which leaves multiples of that power
on their side. -/
structure IsRounding (n : Int) (d k : Nat) (m : Int) : Prop where
  upper : 2 * (m * d) ≤ 2 * (n * 2 ^ k) + d
  lower : 2 * (n * 2 ^ k) ≤ 2 * (m * d) + d
  above : ∀ q : Int, q * d ≤ n → q * 2 ^ k ≤ m
  below : ∀ q : Int, n ≤ q * d → m ≤ q * 2 ^ k

theorem IsRounding.neg {n m : Int} {d k : Nat} (h : IsRounding n d k m) :
    IsRounding (-n) d k (-m) := by
  constructor
  · have := h.lower
    rw [Int.neg_mul, Int.neg_mul]
    omega
  · have := h.upper
    rw [Int.neg_mul, Int.neg_mul]
    omega
  · intro q hq
    have := h.below (-q) (by rw [Int.neg_mul]; omega)
    rw [Int.neg_mul] at this
    omega
  · intro q hq
    have := h.above (-q) (by rw [Int.neg_mul]; omega)
    rw [Int.neg_mul] at this
    omega

theorem isRounding_natCast {n d k : Nat} (hd : 0 < d) :
    IsRounding n d k (roundHalfEven (n * 2 ^ k) d) := by
  obtain ⟨hupper, hlower⟩ := roundHalfEven_error (n := n * 2 ^ k) hd
  constructor
  · exact_mod_cast hupper
  · exact_mod_cast hlower
  · intro q hq
    by_cases hneg : q ≤ 0
    · have hpow : (0 : Int) ≤ 2 ^ k := Int.pow_nonneg (by omega)
      have hle : q * 2 ^ k ≤ 0 := Int.mul_nonpos_of_nonpos_of_nonneg hneg hpow
      omega
    · obtain ⟨p, rfl⟩ := Int.eq_ofNat_of_zero_le (by omega : 0 ≤ q)
      have hp : p * d ≤ n := by exact_mod_cast hq
      have hscaled : p * 2 ^ k * d ≤ n * 2 ^ k := by
        rw [Nat.mul_right_comm]
        exact Nat.mul_le_mul_right _ hp
      exact_mod_cast le_roundHalfEven hd hscaled
  · intro q hq
    have hpos : 0 ≤ q := by
      apply Int.not_lt.mp
      intro hneg
      have hproduct : q * d < 0 := Int.mul_neg_of_neg_of_pos hneg (by omega)
      omega
    obtain ⟨p, rfl⟩ := Int.eq_ofNat_of_zero_le hpos
    have hp : n ≤ p * d := by exact_mod_cast hq
    have hscaled : n * 2 ^ k ≤ p * 2 ^ k * d := by
      rw [Nat.mul_right_comm]
      exact Nat.mul_le_mul_right _ hp
    exact_mod_cast roundHalfEven_le hd hscaled

theorem floorScaled_negPow (m : Int) (k : Nat) : floorScaled m (-(k : Int)) = m / 2 ^ k := by
  unfold floorScaled
  rcases Nat.eq_zero_or_pos k with rfl | hk
  · simp
  · rw [if_neg (by omega), Int.neg_neg, Int.toNat_natCast]
    exact congrArg (m / ·) (Int.natCast_pow 2 k)

theorem floor?_ofQuotient (negative : Bool) {n d b : Nat} (hn : n ≠ 0) (h : n < d * 2 ^ b)
    (hb : b ≤ 52) :
    ∃ k, 53 ≤ k + b ∧ (ofQuotient negative n d).floor? =
      some (signedMantissa negative (roundHalfEven (n * 2 ^ k) d) / 2 ^ k) := by
  have hexponent := exponentFor_le hn h
  have hmin : -1074 ≤ exponentFor n d := Int.le_max_left _ _
  obtain ⟨k, hk⟩ : ∃ k : Nat, exponentFor n d = -((k + 1 : Nat) : Int) :=
    ⟨(-exponentFor n d).toNat - 1, by omega⟩
  have hdown : (-exponentFor n d).toNat = k + 1 := by omega
  have hup : (exponentFor n d).toNat = 0 := by omega
  have hone : d * Nat.pow 2 0 = d := Nat.mul_one d
  refine ⟨k + 1, by omega, ?_⟩
  unfold ofQuotient
  dsimp only
  rw [if_neg hn, hdown, hup, hone]
  change (if roundHalfEven (n * 2 ^ (k + 1)) d = Nat.pow 2 53 then _ else _ : Double).floor? = _
  split
  · next hcarry =>
    -- A mantissa that overflows is halved under an exponent that is one higher.
    have hnext : exponentFor n d + 1 = -(k : Int) := by omega
    have htwice : signedMantissa negative (roundHalfEven (n * 2 ^ (k + 1)) d) =
        2 * signedMantissa negative (Nat.pow 2 52) := by
      rw [hcarry]
      cases negative <;> decide
    have hpow : (2 : Int) ^ (k + 1) = 2 * 2 ^ k := by rw [Int.pow_succ, Int.mul_comm]
    rw [if_neg (by omega), hnext, floor?, floorScaled_negPow, htwice, hpow,
      Int.mul_ediv_mul_of_pos _ _ (by decide)]
  · rw [if_neg (by omega), hk, floor?, floorScaled_negPow]
    rfl

theorem floorScaled_zero (e : Int) : floorScaled 0 e = 0 := by
  unfold floorScaled
  split
  · exact Int.zero_mul _
  · exact Int.zero_ediv _

theorem ofRatio_zero (d : Nat) : ofRatio 0 d = .finite false 0 (-1074) := rfl

theorem floor?_ofRatio {n : Int} {d b : Nat} (hd : 0 < d) (h : n.natAbs < d * 2 ^ b)
    (hb : b ≤ 52) :
    ∃ k m, 53 ≤ k + b ∧ IsRounding n d k m ∧ (ofRatio n d).floor? = some (m / 2 ^ k) := by
  by_cases hn : n.natAbs = 0
  · obtain rfl := Int.natAbs_eq_zero.mp hn
    have hzero : roundHalfEven (0 * 2 ^ 53) d = 0 :=
      Nat.le_zero.mp (roundHalfEven_le hd (by rw [Nat.zero_mul]; exact Nat.zero_le _))
    have hround : IsRounding (0 : Nat) d 53 (roundHalfEven (0 * 2 ^ 53) d) :=
      isRounding_natCast hd
    rw [hzero] at hround
    refine ⟨53, 0, by omega, hround, ?_⟩
    rw [ofRatio_zero, floor?, Int.zero_ediv]
    exact congrArg some (floorScaled_zero _)
  · obtain ⟨k, hk, hfloor⟩ := floor?_ofQuotient (n < 0) hn h hb
    have hround : IsRounding n.natAbs d k (roundHalfEven (n.natAbs * 2 ^ k) d) :=
      isRounding_natCast hd
    refine ⟨k, _, hk, ?_, hfloor⟩
    by_cases hneg : n < 0
    · have hsign : n = -(n.natAbs : Int) := by omega
      rw [signedMantissa, if_pos (decide_eq_true hneg)]
      have := hround.neg
      rwa [← hsign] at this
    · have hsign : n = (n.natAbs : Int) := by omega
      rw [signedMantissa, if_neg (by rw [decide_eq_true_eq]; exact hneg)]
      rwa [← hsign] at hround

def opposite : Double → Double
  | .nan => .nan
  | .infinite negative => .infinite !negative
  | .finite negative m e => .finite (!negative) m e

theorem ofQuotient_not (negative : Bool) (n d : Nat) :
    ofQuotient (!negative) n d = (ofQuotient negative n d).opposite := by
  unfold ofQuotient
  dsimp only
  repeat' split
  all_goals rfl

theorem ceil?_opposite (x : Double) : x.opposite.ceil? = x.floor?.map (- ·) := by
  cases x with
  | nan => rfl
  | infinite negative => rfl
  | finite negative m e =>
    have hsign : -signedMantissa (!negative) m = signedMantissa negative m := by
      cases negative
      · exact Int.neg_neg _
      · rfl
    rw [opposite, ceil?, hsign]
    rfl

theorem sign_opposite {n : Int} (hn : n ≠ 0) : decide (n < 0) = !decide (-n < 0) := by
  by_cases h : n < 0
  · rw [decide_eq_true h, decide_eq_false (by omega)]
    rfl
  · rw [decide_eq_false h, decide_eq_true (by omega)]
    rfl

theorem ceil?_ofRatio (n : Int) (d : Nat) :
    (ofRatio n d).ceil? = (ofRatio (-n) d).floor?.map (- ·) := by
  by_cases hn : n = 0
  · rw [hn, Int.neg_zero, ofRatio_zero]
    rfl
  · rw [ofRatio, sign_opposite hn, ofQuotient_not, ceil?_opposite, ofRatio, Int.natAbs_neg]

def negative? : Double → Option Bool
  | .nan => none
  | .infinite negative | .finite negative .. => some negative

theorem negative?_ofQuotient (negative : Bool) (n d : Nat) :
    (ofQuotient negative n d).negative? = some negative := by
  unfold ofQuotient
  dsimp only
  repeat' split
  all_goals rfl

theorem truncate?_ofRatio (n : Int) (d : Nat) :
    (ofRatio n d).truncate? = if n < 0 then (ofRatio n d).ceil? else (ofRatio n d).floor? := by
  have hsign : (ofRatio n d).negative? = some (decide (n < 0)) := negative?_ofQuotient ..
  cases hx : ofRatio n d with
  | nan =>
    rw [hx] at hsign
    cases hsign
  | infinite negative => split <;> rfl
  | finite negative m e =>
    rw [hx] at hsign
    cases hsign
    by_cases hn : n < 0
    · rw [if_pos hn, decide_eq_true hn, ceil?, signedMantissa, if_pos rfl, Int.neg_neg]
      rfl
    · rw [if_neg hn, decide_eq_false hn]
      rfl

end Accounts.Double

namespace Accounts.Time

open Double

variable {us n : Int}

/-- The count of microseconds is far below the largest whole numbers of a double. -/
def IsModerate (us : Int) : Prop :=
  us.natAbs < 1000000 * 2 ^ 52

theorem floorSeconds_rounded {b : Nat} (h : us.natAbs < 1000000 * 2 ^ b) (hb : b ≤ 52) :
    ∃ k m, 53 ≤ k + b ∧ IsRounding us 1000000 k m ∧ floorSeconds us = m / 2 ^ k := by
  obtain ⟨k, m, hk, hround, hfloor⟩ := floor?_ofRatio (by decide) h hb
  refine ⟨k, m, hk, hround, ?_⟩
  rw [floorSeconds, seconds, hfloor]
  rfl

theorem ceilSeconds_eq_neg (us : Int) (h : IsModerate us) :
    ceilSeconds us = -floorSeconds (-us) := by
  rw [IsModerate, ← Int.natAbs_neg] at h
  obtain ⟨k, m, -, -, hfloor⟩ := floor?_ofRatio (by decide) h (by decide)
  rw [ceilSeconds, floorSeconds, seconds, seconds, ceil?_ofRatio, hfloor]
  rfl

theorem IsModerate.neg (h : IsModerate us) : IsModerate (-us) := by
  rwa [IsModerate, Int.natAbs_neg]

theorem le_floorSeconds (hus : IsModerate us) (h : n * second ≤ us) : n ≤ floorSeconds us := by
  obtain ⟨k, m, -, hround, hfloor⟩ := floorSeconds_rounded hus (by decide)
  have hpow : (0 : Int) < 2 ^ k := Int.pow_pos (by decide)
  rw [hfloor]
  exact (Int.le_ediv_iff_mul_le hpow).mpr (hround.above n h)

theorem floorSeconds_le (hus : IsModerate us) (h : us ≤ n * second) : floorSeconds us ≤ n := by
  obtain ⟨k, m, -, hround, hfloor⟩ := floorSeconds_rounded hus (by decide)
  have hpow : (0 : Int) < 2 ^ k := Int.pow_pos (by decide)
  have hm : m ≤ n * 2 ^ k := hround.below n h
  rw [hfloor]
  calc m / 2 ^ k ≤ n * 2 ^ k / 2 ^ k := Int.ediv_le_ediv hpow hm
    _ = n := Int.mul_ediv_cancel n (Int.ne_of_gt hpow)

/-- A count of microseconds that is no whole second stays below the next one, if rounding moves it by
less than a microsecond. -/
theorem rounding_lt {k : Nat} {m : Int} (hround : IsRounding us 1000000 k m) (hk : 19 ≤ k)
    (h : us < n * second) : m < n * 2 ^ k := by
  have hfine : (2 : Int) ^ 19 ≤ 2 ^ k := by exact_mod_cast Nat.pow_le_pow_right (by decide) hk
  have hupper := hround.upper
  have hgap : (us + 1) * 2 ^ k ≤ n * second * 2 ^ k := Int.mul_le_mul_of_nonneg_right h (by omega)
  have hexpand : (us + 1) * 2 ^ k = us * 2 ^ k + 2 ^ k := by rw [Int.add_mul, Int.one_mul]
  have hcomm : n * second * 2 ^ k = n * 2 ^ k * 1000000 := Int.mul_right_comm ..
  omega

/-- Up to `2 ^ 34` seconds, rounding moves a count by less than a microsecond. -/
def IsExact (us : Int) : Prop :=
  us.natAbs ≤ 1000000 * 2 ^ 34

instance (us : Int) : Decidable (IsExact us) :=
  inferInstanceAs (Decidable (_ ≤ _))

theorem IsExact.moderate (h : IsExact us) : IsModerate us := by
  rw [IsExact] at h
  rw [IsModerate]
  omega

theorem IsExact.neg (h : IsExact us) : IsExact (-us) := by
  rwa [IsExact, Int.natAbs_neg]

theorem floorSeconds_eq (h : IsExact us) : floorSeconds us = us / second := by
  have hlow : us / second * second ≤ us := Int.ediv_mul_le us (by decide)
  apply Int.le_antisymm
  · by_cases hwhole : us = us / second * second
    · exact floorSeconds_le h.moderate (Int.le_of_eq hwhole)
    · have hsecond : second = 1000000 := rfl
      have hbelow : us < (us / second + 1) * second := by
        rw [hsecond]
        omega
      have hstrict : us.natAbs < 1000000 * 2 ^ 34 := by
        rw [IsExact] at h
        rw [hsecond] at hwhole
        omega
      obtain ⟨k, m, hk, hround, hfloor⟩ := floorSeconds_rounded hstrict (by decide)
      have hpow : (0 : Int) < 2 ^ k := Int.pow_pos (by decide)
      have hm : m < (us / second + 1) * 2 ^ k := rounding_lt hround (by omega) hbelow
      have hdiv : m / 2 ^ k < us / second + 1 := (Int.ediv_lt_iff_lt_mul hpow).mpr hm
      omega
  · exact le_floorSeconds h.moderate hlow

theorem ceilSeconds_eq (h : IsExact us) : ceilSeconds us = -(-us / second) := by
  rw [ceilSeconds_eq_neg us h.moderate, floorSeconds_eq h.neg]

theorem wholeSeconds_eq (h : IsExact us) : wholeSeconds us = us.tdiv second := by
  rw [wholeSeconds, seconds, truncate?_ofRatio]
  by_cases hneg : us < 0
  · rw [if_pos hneg]
    have hopposite : us.tdiv second = -((-us).tdiv second) := by rw [Int.neg_tdiv, Int.neg_neg]
    rw [hopposite, Int.tdiv_eq_ediv_of_nonneg (by omega)]
    exact ceilSeconds_eq h
  · rw [if_neg hneg, Int.tdiv_eq_ediv_of_nonneg (by omega)]
    exact floorSeconds_eq h

theorem moderate_of_isInstant (h : isInstant us = true) : IsModerate us := by
  rw [isInstant, Bool.and_eq_true] at h
  have hmin : -62135596800 * 1000000 ≤ us := of_decide_eq_true h.1
  have hmax : us ≤ 253402300799 * 1000000 + 999999 := of_decide_eq_true h.2
  rw [IsModerate]
  omega

theorem ceilSeconds_bounds (h : IsExact us) :
    us ≤ ceilSeconds us * second ∧ ceilSeconds us * second < us + second := by
  have hsecond : second = 1000000 := rfl
  rw [ceilSeconds_eq h, hsecond]
  omega

theorem wholeSeconds_le (hus : IsModerate us) (h : us ≤ 2 ^ 34 * second) :
    wholeSeconds us * second ≤ max us 0 := by
  have hsecond : second = 1000000 := rfl
  by_cases hneg : us < 0
  · have hwhole : wholeSeconds us = ceilSeconds us := by
      rw [wholeSeconds, seconds, truncate?_ofRatio, if_pos hneg]
      rfl
    have hopposite : 0 ≤ floorSeconds (-us) := le_floorSeconds hus.neg (by omega)
    rw [hwhole, ceilSeconds_eq_neg us hus, hsecond]
    omega
  · have hexact : IsExact us := by
      rw [hsecond] at h
      rw [IsExact]
      omega
    have hdiv : us / second * second ≤ us := Int.ediv_mul_le us (by decide)
    rw [wholeSeconds_eq hexact, Int.tdiv_eq_ediv_of_nonneg (by omega)]
    omega

theorem isInstant_of_exact (h : IsExact us) : isInstant us = true := by
  rw [IsExact] at h
  have hmin : -62135596800 * 1000000 ≤ us := by omega
  have hmax : us ≤ 253402300799 * 1000000 + 999999 := by omega
  rw [isInstant, Bool.and_eq_true]
  exact ⟨decide_eq_true hmin, decide_eq_true hmax⟩

end Accounts.Time
