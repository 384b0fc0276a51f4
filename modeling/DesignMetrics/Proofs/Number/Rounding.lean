import DesignMetrics.Number.Binary64
import Mathlib.Algebra.Order.Field.Power
import Mathlib.Algebra.Order.Ring.Rat
import Mathlib.Data.Rat.Cast.Order
import Mathlib.Tactic.Linarith
import Mathlib.Tactic.LinearCombination
import Mathlib.Tactic.NormNum
import Mathlib.Tactic.Positivity
import Mathlib.Tactic.Ring

/-!
# Rounding to binary numbers

Which binary number a rational number is rounded to: the nearest one, and of two nearest ones the
one with an even significand. There is at most one such number, and rounding keeps the order.
Exponents are not bounded from above here, so that every number can be rounded.
-/

namespace DesignMetrics.Number

theorem two_zpow_pos (e : Int) : (0 : ℚ) < 2 ^ e :=
  zpow_pos (by norm_num) e

theorem two_zpow_le {a b : Int} (h : a ≤ b) : (2 : ℚ) ^ a ≤ 2 ^ b :=
  zpow_le_zpow_right₀ (by norm_num) h

theorem two_zpow_add_one (e : Int) : (2 : ℚ) ^ (e + 1) = 2 * 2 ^ e := by
  rw [zpow_add_one₀ (by norm_num), mul_comm]

namespace Binary64

variable {x y : Binary64} {q r : ℚ}

/-! ## Values -/

/-- A number without its sign. -/
def magnitude (x : Binary64) : ℚ :=
  x.significand * 2 ^ x.exponent

/-- The rational number that a binary number stands for. -/
def value (x : Binary64) : ℚ :=
  if x.negative then -x.magnitude else x.magnitude

/-- The number with the other sign. -/
def neg (x : Binary64) : Binary64 :=
  { x with negative := !x.negative }

theorem magnitude_nonneg (x : Binary64) : 0 ≤ x.magnitude :=
  mul_nonneg (Nat.cast_nonneg _) (two_zpow_pos _).le

/-- The sign aside, a value is its magnitude. -/
theorem abs_value (x : Binary64) : |x.value| = x.magnitude := by
  have hpos := magnitude_nonneg x
  unfold value
  split
  · rw [abs_neg, abs_of_nonneg hpos]
  · rw [abs_of_nonneg hpos]

@[simp] theorem value_neg (x : Binary64) : x.neg.value = -x.value := by
  obtain ⟨negative, m, e⟩ := x
  cases negative <;> simp [value, neg, magnitude]

@[simp] theorem value_zero (negative : Bool) : (zero negative).value = 0 := by
  cases negative <;> simp [value, zero, magnitude]

/-- A multiple of a power of two is one of every smaller power. -/
theorem exists_value_eq_mul {e : Int} (h : e ≤ x.exponent) : ∃ k : Int, x.value = k * 2 ^ e := by
  have hmagnitude : x.magnitude = ((x.significand * 2 ^ (x.exponent - e).toNat : Nat) : Int) *
      2 ^ e := by
    have hsplit : (2 : ℚ) ^ x.exponent = 2 ^ (x.exponent - e).toNat * 2 ^ e := by
      rw [← zpow_natCast, ← zpow_add₀ (by norm_num)]
      congr 1
      omega
    rw [magnitude, hsplit]
    push_cast
    ring
  unfold value
  split
  · exact ⟨-_, by rw [hmagnitude, Int.cast_neg, neg_mul]⟩
  · exact ⟨_, hmagnitude⟩

/-! ## Precision -/

/-- The significand has 53 bits, and the first one is used unless the exponent is the smallest. -/
structure Precise (x : Binary64) : Prop where
  significand_lt : x.significand < 2 ^ 53
  minExponent_le : minExponent ≤ x.exponent
  leading : minExponent < x.exponent → 2 ^ 52 ≤ x.significand

/-- The other sign needs no other bits. -/
theorem Precise.neg (h : Precise x) : Precise x.neg :=
  ⟨h.significand_lt, h.minExponent_le, h.leading⟩

theorem precise_zero (negative : Bool) : Precise (zero negative) :=
  ⟨by simp [zero], le_refl _, fun h => absurd h (lt_irrefl _)⟩

/-- A number with a smaller exponent is less than any of full length with the larger one. -/
theorem Precise.magnitude_lt (h : Precise x) {e : Int} (he : x.exponent < e) :
    x.magnitude < 2 ^ 52 * 2 ^ e := by
  have hsignificand : (x.significand : ℚ) < 2 ^ 53 := by exact_mod_cast h.significand_lt
  have hunit : (2 : ℚ) ^ (x.exponent + 1) ≤ 2 ^ e := two_zpow_le (by omega)
  calc x.magnitude
    _ < 2 ^ 53 * 2 ^ x.exponent := mul_lt_mul_of_pos_right hsignificand (two_zpow_pos _)
    _ = 2 ^ 52 * 2 ^ (x.exponent + 1) := by rw [two_zpow_add_one]; ring
    _ ≤ 2 ^ 52 * 2 ^ e := mul_le_mul_of_nonneg_left hunit (by positivity)

/-- A number whose first bit is used has at least the value of that bit. -/
theorem Precise.le_magnitude (h : Precise x) (he : minExponent < x.exponent) :
    2 ^ 52 * 2 ^ x.exponent ≤ x.magnitude := by
  have hsignificand : (2 : ℚ) ^ 52 ≤ x.significand := by exact_mod_cast h.leading he
  exact mul_le_mul_of_nonneg_right hsignificand (two_zpow_pos _).le

/-- Larger numbers do not have smaller exponents. -/
theorem Precise.exponent_le (hx : Precise x) (hy : Precise y) (h : x.magnitude ≤ y.magnitude) :
    x.exponent ≤ y.exponent := by
  by_contra hlt
  have hmin := hy.minExponent_le
  have hlarge := hx.le_magnitude (by omega)
  have hsmall := hy.magnitude_lt (e := x.exponent) (by omega)
  linarith

/-- No two significands stand for one number. -/
theorem Precise.significand_eq (hx : Precise x) (hy : Precise y) (h : x.magnitude = y.magnitude) :
    x.significand = y.significand := by
  have hexponent : x.exponent = y.exponent :=
    le_antisymm (hx.exponent_le hy h.le) (hy.exponent_le hx h.ge)
  rw [magnitude, magnitude, hexponent] at h
  have hsame := mul_right_cancel₀ (two_zpow_pos y.exponent).ne' h
  exact_mod_cast hsame

/-! ## Neighbours -/

/-- The next larger number, for a number that is not negative. -/
def next (x : Binary64) : Binary64 :=
  if x.significand + 1 = 2 ^ 53 then ⟨false, 2 ^ 52, x.exponent + 1⟩
  else ⟨false, x.significand + 1, x.exponent⟩

/-- The next number lies one unit of the last bit further. -/
theorem magnitude_next (x : Binary64) : x.next.magnitude = x.magnitude + 2 ^ x.exponent := by
  unfold next
  split
  · next hfull =>
    have hcast : (x.significand : ℚ) + 1 = 2 ^ 53 := by exact_mod_cast hfull
    simp only [magnitude, two_zpow_add_one]
    push_cast
    norm_num at hcast ⊢
    linear_combination (-(2 : ℚ) ^ x.exponent) * hcast
  · simp only [magnitude]
    push_cast
    ring

/-- It is not negative. -/
theorem value_next (x : Binary64) : x.next.value = x.next.magnitude := by
  have hsign : x.next.negative = false := by
    unfold next
    split <;> rfl
  simp [value, hsign]

/-- It has 53 bits too, since a full significand goes on to the next exponent. -/
theorem Precise.next (h : Precise x) : Precise x.next := by
  have hlt := h.significand_lt
  have hmin := h.minExponent_le
  unfold Binary64.next
  split
  · exact ⟨by simp, by simp only; omega, fun _ => le_refl _⟩
  · refine ⟨by simp only; omega, hmin, fun hgt => ?_⟩
    have hleading := h.leading hgt
    simp only
    omega

/-- No number lies between a number and the next one. -/
theorem Precise.magnitude_next_le (hx : Precise x) (hy : Precise y)
    (h : x.magnitude < y.magnitude) : x.next.magnitude ≤ y.magnitude := by
  have hunit := two_zpow_pos x.exponent
  obtain ⟨k, hk⟩ := exists_value_eq_mul (hx.exponent_le hy h.le)
  -- both are whole numbers of the smaller unit
  have hmagnitude : y.magnitude = (|k| : Int) * 2 ^ x.exponent := by
    rw [← abs_value, hk, abs_mul, abs_of_pos hunit, Int.cast_abs]
  rw [hmagnitude] at h ⊢
  have hlt : (x.significand : ℚ) < (|k| : Int) := lt_of_mul_lt_mul_right h hunit.le
  have hstep : (x.significand : ℚ) + 1 ≤ (|k| : Int) := by
    have hint : (x.significand : Int) + 1 ≤ |k| := by exact_mod_cast hlt
    exact_mod_cast hint
  calc x.next.magnitude
    _ = (x.significand + 1) * 2 ^ x.exponent := by rw [magnitude_next, magnitude]; ring
    _ ≤ (|k| : Int) * 2 ^ x.exponent := mul_le_mul_of_nonneg_right hstep hunit.le

/-- After an even significand comes an odd one. -/
theorem not_even_next (h : Even x.significand) : ¬ Even x.next.significand := by
  unfold next
  split
  · next hfull =>
    obtain ⟨k, hk⟩ := h
    omega
  · simpa [Nat.even_add_one] using h

/-- Between two magnitudes with even significands lies the one next to the smaller. -/
theorem Precise.exists_magnitude_between (hx : Precise x) (hy : Precise y)
    (hxe : Even x.significand) (hye : Even y.significand) (h : x.magnitude < y.magnitude) :
    ∃ z, Precise z ∧ z.value = z.magnitude ∧ x.magnitude < z.magnitude ∧
      z.magnitude < y.magnitude := by
  have hnext := magnitude_next x
  have hunit := two_zpow_pos x.exponent
  refine ⟨x.next, hx.next, value_next x, by linarith, ?_⟩
  apply lt_of_le_of_ne (hx.magnitude_next_le hy h)
  intro hsame
  apply not_even_next hxe
  rwa [hx.next.significand_eq hy hsame]

/-- Two numbers with even significands are no neighbours. -/
theorem Precise.exists_between (hx : Precise x) (hy : Precise y) (hxe : Even x.significand)
    (hye : Even y.significand) (h : x.value < y.value) :
    ∃ z, Precise z ∧ x.value < z.value ∧ z.value < y.value := by
  have hxabs := abs_value x
  have hyabs := abs_value y
  rcases le_or_gt 0 x.value with hpos | hneg
  · rw [abs_of_nonneg hpos] at hxabs
    rw [abs_of_nonneg (by linarith)] at hyabs
    obtain ⟨z, hz, hvalue, hlt, hgt⟩ :=
      hx.exists_magnitude_between hy hxe hye (by rwa [← hxabs, ← hyabs])
    exact ⟨z, hz, by linarith, by linarith⟩
  rcases le_or_gt y.value 0 with hneg' | hpos
  · rw [abs_of_neg hneg] at hxabs
    rw [abs_of_nonpos hneg'] at hyabs
    obtain ⟨z, hz, hvalue, hlt, hgt⟩ :=
      hy.exists_magnitude_between hx hye hxe (by linarith)
    refine ⟨z.neg, hz.neg, ?_, ?_⟩
    · rw [value_neg]
      linarith
    · rw [value_neg]
      linarith
  · exact ⟨zero false, precise_zero false, by rwa [value_zero], by rwa [value_zero]⟩

/-! ## Rounding -/

/-- The number nearest to `q`; where another one is as near, the one with an even significand. -/
structure Rounds (q : ℚ) (x : Binary64) : Prop where
  precise : Precise x
  nearest : ∀ y, Precise y → |x.value - q| ≤ |y.value - q|
  even_of_tie : ∀ y, Precise y → y.value ≠ x.value → |y.value - q| = |x.value - q| →
    Even x.significand

/-- A number that can be written is its own rounding. -/
theorem Precise.rounds (h : Precise x) : Rounds x.value x := by
  refine ⟨h, fun y _ => ?_, fun y _ hne htie => ?_⟩
  · rw [sub_self, abs_zero]
    exact abs_nonneg _
  · rw [sub_self, abs_zero, abs_eq_zero, sub_eq_zero] at htie
    exact absurd htie hne

namespace Rounds

/-- Rounding does not depend on the sign. -/
theorem neg (h : Rounds q x) : Rounds (-q) x.neg := by
  -- distances from `-q` are those of the numbers with the other sign from `q`
  have hflip : ∀ y : Binary64, |y.value - -q| = |y.neg.value - q| := by
    intro y
    rw [value_neg, ← abs_neg]
    congr 1
    ring
  have hself : |x.neg.value - -q| = |x.value - q| := by
    rw [hflip, value_neg, value_neg, neg_neg]
  refine ⟨h.precise.neg, fun y hy => ?_, fun y hy hne htie => ?_⟩
  · rw [hself, hflip]
    exact h.nearest _ hy.neg
  · rw [hself, hflip] at htie
    apply h.even_of_tie y.neg hy.neg _ htie
    intro hsame
    apply hne
    rw [value_neg, ← hsame, value_neg, neg_neg]

/-- The larger of two numbers is nearer only to what lies beyond their middle. -/
theorem add_le_of_abs_le {a b : ℚ} (hab : a < b) (h : |b - q| ≤ |a - q|) : a + b ≤ 2 * q := by
  rcases abs_cases (b - q) with ⟨hb, _⟩ | ⟨hb, _⟩ <;>
    rcases abs_cases (a - q) with ⟨ha, _⟩ | ⟨ha, _⟩ <;> rw [ha, hb] at h <;> linarith

/-- What is nearer to the smaller of two numbers lies below their middle. -/
theorem le_add_of_abs_le {a b : ℚ} (hab : a < b) (h : |a - q| ≤ |b - q|) : 2 * q ≤ a + b := by
  rcases abs_cases (b - q) with ⟨hb, _⟩ | ⟨hb, _⟩ <;>
    rcases abs_cases (a - q) with ⟨ha, _⟩ | ⟨ha, _⟩ <;> rw [ha, hb] at h <;> linarith

/-- Rounding keeps the order. -/
theorem value_le_value (hx : Rounds q x) (hy : Rounds r y) (h : q ≤ r) : x.value ≤ y.value := by
  by_contra hlt
  rw [not_le] at hlt
  have hbelow := add_le_of_abs_le hlt (hx.nearest y hy.precise)
  have habove := le_add_of_abs_le hlt (hy.nearest x hx.precise)
  -- both were rounded from the middle between them
  have hq : q = (x.value + y.value) / 2 := by linarith
  have hr : r = (x.value + y.value) / 2 := by linarith
  have hxq : x.value - q = (x.value - y.value) / 2 := by linarith
  have hyq : y.value - q = -((x.value - y.value) / 2) := by linarith
  have htie : |y.value - q| = |x.value - q| := by rw [hxq, hyq, abs_neg]
  have hxe : Even x.significand := hx.even_of_tie y hy.precise hlt.ne htie
  have hye : Even y.significand := by
    have hqr : r = q := by linarith
    apply hy.even_of_tie x hx.precise hlt.ne'
    rw [hqr, htie]
  obtain ⟨z, hz, hyz, hzx⟩ := hy.precise.exists_between hx.precise hye hxe hlt
  have hnear := hx.nearest z hz
  rw [hxq, abs_of_pos (by linarith)] at hnear
  have hcloser : |z.value - q| < (x.value - y.value) / 2 := by
    rw [abs_lt]
    constructor <;> linarith
  linarith

/-- There is no other number to round to. -/
theorem value_eq (hx : Rounds q x) (hy : Rounds q y) : x.value = y.value :=
  le_antisymm (hx.value_le_value hy (le_refl q)) (hy.value_le_value hx (le_refl q))

end Rounds

/-! ## One, and the largest number -/

/-- The number one. -/
def one : Binary64 :=
  ⟨false, 2 ^ 52, -52⟩

/-- The largest number. -/
def greatest : Binary64 :=
  ⟨false, 2 ^ 53 - 1, maxExponent⟩

@[simp] theorem value_one : one.value = 1 := by
  norm_num [one, value, magnitude]

theorem value_greatest : greatest.value = (2 ^ 53 - 1) * 2 ^ maxExponent := by
  norm_num [value, greatest, magnitude]

/-- One can be written. -/
theorem rounds_one : Rounds 1 one := by
  have hprecise : Precise one := by
    refine ⟨?_, ?_, ?_⟩ <;> simp [one, minExponent]
  rw [← value_one]
  exact hprecise.rounds

/-- The greatest number is beyond one. -/
theorem one_le_greatest : (1 : ℚ) ≤ greatest.value := by
  have hunit : (2 : ℚ) ^ (0 : Int) ≤ 2 ^ maxExponent := two_zpow_le (by decide)
  rw [zpow_zero] at hunit
  rw [value_greatest]
  linarith

/-- A number is at most the largest one if its exponent is. -/
theorem Precise.magnitude_le_greatest_iff (h : Precise x) :
    x.magnitude ≤ greatest.value ↔ x.exponent ≤ maxExponent := by
  have hunit := two_zpow_pos maxExponent
  rw [value_greatest]
  constructor
  · intro hle
    by_contra hgt
    have hlarge := h.le_magnitude (by unfold minExponent maxExponent at *; omega)
    have hunit' : (2 : ℚ) ^ (maxExponent + 1) ≤ 2 ^ x.exponent := two_zpow_le (by omega)
    rw [two_zpow_add_one] at hunit'
    linarith
  · intro hle
    have hsignificand : (x.significand : ℚ) ≤ 2 ^ 53 - 1 := by
      have hnat : x.significand + 1 ≤ 2 ^ 53 := h.significand_lt
      have hcast : ((x.significand + 1 : Nat) : ℚ) ≤ ((2 ^ 53 : Nat) : ℚ) := Nat.cast_le.2 hnat
      push_cast at hcast
      linarith
    exact mul_le_mul hsignificand (two_zpow_le hle) (two_zpow_pos _).le (by norm_num)

end Binary64
end DesignMetrics.Number
