import DesignMetrics.Factor.Ratio
import DesignMetrics.Proofs.Number.Rounding
import Mathlib.Data.Nat.Log
import Mathlib.Tactic.FieldSimp

/-!
# Quotients are rounded correctly

A quotient of whole numbers, however large, becomes the binary number that is nearest to it, ties
going to the even significand. It is refused exactly if that number is too large.
-/

namespace DesignMetrics.Number

/-! ## Whole numbers -/

/-- The whole number nearest to `r`; in the middle between two of them, the even one. -/
structure RoundsWhole (r : ℚ) (m : Nat) : Prop where
  near : |m - r| ≤ 1 / 2
  even_of_tie : |m - r| = 1 / 2 → Even m

section

variable {low : Nat} {part : ℚ}

/-- Less than a half is rounded down. -/
theorem roundsWhole_low (hpart : 0 ≤ part) (h : part < 1 / 2) : RoundsWhole (low + part) low := by
  have hdist : |(low : ℚ) - (low + part)| = part := by
    rw [sub_add_cancel_left, abs_neg, abs_of_nonneg hpart]
  refine ⟨by rw [hdist]; exact h.le, fun htie => ?_⟩
  rw [hdist] at htie
  linarith

/-- More than a half is rounded up. -/
theorem roundsWhole_high (hpart : part < 1) (h : 1 / 2 < part) :
    RoundsWhole (low + part) (low + 1) := by
  have hdist : |((low + 1 : Nat) : ℚ) - (low + part)| = 1 - part := by
    push_cast
    rw [add_sub_add_left_eq_sub, abs_of_nonneg (by linarith)]
  refine ⟨by rw [hdist]; linarith, fun htie => ?_⟩
  rw [hdist] at htie
  linarith

/-- In the middle, an odd number gives way to the next one. -/
theorem roundsWhole_half (low : Nat) : RoundsWhole (low + 1 / 2) (low + low % 2) := by
  have heven : Even (low + low % 2) := by
    rw [Nat.even_iff]
    omega
  refine ⟨?_, fun _ => heven⟩
  rcases Nat.mod_two_eq_zero_or_one low with hmod | hmod
  · rw [hmod]
    norm_num
  · rw [hmod]
    push_cast
    rw [add_sub_add_left_eq_sub]
    norm_num

end

/-- What is left over decides to which side the quotient is rounded. -/
theorem roundsWhole_roundHalfEven (n : Nat) {d : Nat} (hd : 0 < d) :
    RoundsWhole (n / d) (roundHalfEven n d) := by
  have hdq : (0 : ℚ) < d := by exact_mod_cast hd
  -- the quotient is its whole part and the remainder over the divisor
  have hquotient : (n : ℚ) / d = (n / d : Nat) + (n % d : Nat) / d := by
    have hdiv : (d : ℚ) * (n / d : Nat) + (n % d : Nat) = n := by
      exact_mod_cast Nat.div_add_mod n d
    rw [div_eq_iff hdq.ne', ← hdiv]
    field_simp
  have hpart : (0 : ℚ) ≤ ((n % d : Nat) : ℚ) / d := by positivity
  have hpart' : ((n % d : Nat) : ℚ) / d < 1 := by
    rw [div_lt_one hdq]
    exact_mod_cast Nat.mod_lt n hd
  -- which is compared with a half by doubling the remainder
  have hdouble : ((n % d : Nat) : ℚ) / d * 2 = ((2 * (n % d) : Nat) : ℚ) / d := by
    push_cast
    ring
  unfold roundHalfEven
  simp only
  rw [hquotient]
  split
  · next hless =>
    apply roundsWhole_low hpart
    rw [lt_div_iff₀ two_pos, hdouble, div_lt_one hdq]
    exact_mod_cast hless
  split
  · next hmore =>
    apply roundsWhole_high hpart'
    rw [div_lt_iff₀ two_pos, hdouble, one_lt_div hdq]
    exact_mod_cast hmore
  · next hge hle =>
    have hhalf : ((n % d : Nat) : ℚ) / d = 1 / 2 := by
      rw [eq_div_iff two_ne_zero, hdouble, div_eq_one_iff_eq hdq.ne']
      exact_mod_cast le_antisymm (not_lt.1 hle) (not_lt.1 hge)
    rw [hhalf]
    exact roundsWhole_half _

namespace RoundsWhole

variable {r : ℚ} {m : Nat} (h : RoundsWhole r m)
include h

/-- Every other whole number is at least half a unit away. -/
theorem half_le_of_ne {k : Int} (hk : k ≠ m) : 1 / 2 ≤ |k - r| := by
  have hnear := h.near
  have hapart : (1 : ℚ) ≤ |(k : ℚ) - m| := by
    have hint : 1 ≤ |k - m| := Int.one_le_abs (sub_ne_zero.2 hk)
    exact_mod_cast hint
  have htriangle : |(k : ℚ) - m| ≤ |k - r| + |m - r| := by
    rw [abs_sub_comm (m : ℚ) r]
    exact abs_sub_le _ _ _
  linarith

/-- No whole number is nearer. -/
theorem nearest (k : Int) : |m - r| ≤ |k - r| := by
  by_cases hk : k = m
  · rw [hk, Int.cast_natCast]
  · exact h.near.trans (h.half_le_of_ne hk)

/-- If another one is as near, the one that was chosen is even. -/
theorem even_of_ne {k : Int} (hk : k ≠ m) (htie : |k - r| = |m - r|) : Even m := by
  have hfar := h.half_le_of_ne hk
  have hnear := h.near
  exact h.even_of_tie (by linarith)

/-- Rounding does not go below a whole number that is not greater. -/
theorem le_of_le {k : Nat} (hk : k ≤ r) : k ≤ m := by
  have hnear := (abs_le.1 h.near).1
  by_contra hlt
  have hstep : ((m + 1 : Nat) : ℚ) ≤ k := Nat.cast_le.2 (by omega)
  push_cast at hstep
  linarith

/-- It does not go beyond one that is not less. -/
theorem le_of_ge {k : Nat} (hk : r ≤ k) : m ≤ k := by
  have hnear := (abs_le.1 h.near).2
  by_contra hlt
  have hstep : ((k + 1 : Nat) : ℚ) ≤ m := Nat.cast_le.2 (by omega)
  push_cast at hstep
  linarith

end RoundsWhole

/-! ## Units -/

/-- Scaling by whole numbers divides by the unit. -/
theorem scaled_div (n d : Nat) (e : Int) :
    ((n * Nat.pow 2 (-e).toNat : Nat) : ℚ) / ((d * Nat.pow 2 e.toNat : Nat) : ℚ) =
      n / d / 2 ^ e := by
  have hunit : (2 : ℚ) ^ (-e).toNat / 2 ^ e.toNat = (2 ^ e)⁻¹ := by
    rw [← zpow_natCast, ← zpow_natCast, ← zpow_sub₀ (by norm_num), ← zpow_neg]
    congr 1
    omega
  push_cast [Nat.pow_eq]
  rw [mul_div_mul_comm, hunit, ← div_eq_mul_inv]

/-- A quotient is rounded to the nearest whole number of units. -/
theorem roundsWhole_roundInUnits (n : Nat) {d : Nat} (hd : 0 < d) (e : Int) :
    RoundsWhole (n / d / 2 ^ e) (roundInUnits n d e) := by
  rw [← scaled_div]
  exact roundsWhole_roundHalfEven _ (Nat.mul_pos hd (Nat.two_pow_pos _))

namespace Binary64

variable {n d : Nat}

/-- The logarithm of a number is that of the power of two just below it. -/
theorem two_zpow_log2_le (hn : n ≠ 0) : (2 : ℚ) ^ (n.log2 : Int) ≤ n := by
  rw [zpow_natCast]
  exact_mod_cast Nat.log2_self_le hn

/-- The next power of two is greater. -/
theorem lt_two_zpow_log2 (n : Nat) : (n : ℚ) < 2 * 2 ^ (n.log2 : Int) := by
  rw [zpow_natCast, mul_comm, ← pow_succ]
  exact_mod_cast Nat.lt_log2_self

/-- The quotient lies between two powers of two. -/
theorem ratioLog2_bounds (hn : n ≠ 0) (hd : 0 < d) :
    (2 : ℚ) ^ ratioLog2 n d ≤ n / d ∧ (n : ℚ) / d < 2 * 2 ^ ratioLog2 n d := by
  have hdq : (0 : ℚ) < d := by exact_mod_cast hd
  have hnlow := two_zpow_log2_le hn
  have hnhigh := lt_two_zpow_log2 n
  have hdlow := two_zpow_log2_le hd.ne'
  have hdhigh := lt_two_zpow_log2 d
  have hlow := two_zpow_pos (d.log2 : Int)
  unfold ratioLog2
  simp only
  generalize hguess : (n.log2 : Int) - d.log2 = guess
  have hsplit : (2 : ℚ) ^ (n.log2 : Int) = 2 ^ guess * 2 ^ (d.log2 : Int) := by
    rw [← zpow_add₀ (by norm_num)]
    congr 1
    omega
  have hunit := two_zpow_pos guess
  rw [hsplit] at hnlow hnhigh
  -- the guess is right, or too large by one
  have hcompare : d * Nat.pow 2 guess.toNat ≤ n * Nat.pow 2 (-guess).toNat ↔
      (2 : ℚ) ^ guess ≤ n / d := by
    have hpow : (0 : ℚ) < ((d * Nat.pow 2 guess.toNat : Nat) : ℚ) :=
      Nat.cast_pos.2 (Nat.mul_pos hd (Nat.two_pow_pos _))
    rw [← Nat.cast_le (α := ℚ), ← one_le_div hpow, scaled_div, one_le_div hunit]
  split
  · next hright =>
    refine ⟨hcompare.1 hright, ?_⟩
    rw [div_lt_iff₀ hdq]
    calc (n : ℚ)
      _ < 2 * (2 ^ guess * 2 ^ (d.log2 : Int)) := hnhigh
      _ = 2 * 2 ^ guess * 2 ^ (d.log2 : Int) := by ring
      _ ≤ 2 * 2 ^ guess * d := mul_le_mul_of_nonneg_left hdlow (by positivity)
  · next hwrong =>
    have hdouble : (2 : ℚ) ^ guess = 2 * 2 ^ (guess - 1) := by
      rw [← two_zpow_add_one, sub_add_cancel]
    have hunit' := two_zpow_pos (guess - 1)
    refine ⟨?_, ?_⟩
    · rw [le_div_iff₀ hdq]
      calc (2 : ℚ) ^ (guess - 1) * d
        _ ≤ 2 ^ (guess - 1) * (2 * 2 ^ (d.log2 : Int)) :=
          mul_le_mul_of_nonneg_left hdhigh.le hunit'.le
        _ = 2 ^ guess * 2 ^ (d.log2 : Int) := by rw [hdouble]; ring
        _ ≤ n := hnlow
    · rw [← hdouble, ← not_le, ← hcompare]
      exact hwrong

/-! ## The nearest number -/

/-- The number nearest to `n / d`, however large it is. -/
def rounded (negative : Bool) (n d : Nat) : Binary64 :=
  if n = 0 then zero negative
  else
    let e := max minExponent (ratioLog2 n d - 52)
    let m := roundInUnits n d e
    if m = 2 ^ 53 then ⟨negative, 2 ^ 52, e + 1⟩ else ⟨negative, m, e⟩

/-- There is a nearest number unless the rounded one has too large an exponent. -/
theorem nearest?_eq (negative : Bool) (n d : Nat) : nearest? negative n d =
    if maxExponent < (rounded negative n d).exponent then none
    else some (rounded negative n d) := by
  unfold nearest? rounded
  by_cases hn : n = 0
  · rw [if_pos hn, if_pos hn, if_neg (by simp [zero, minExponent, maxExponent])]
  · rw [if_neg hn, if_neg hn]
    simp only [Nat.pow_eq]
    split <;> rfl

theorem negative_rounded (negative : Bool) (n d : Nat) :
    (rounded negative n d).negative = negative := by
  unfold rounded
  simp only
  split
  · rfl
  · split <;> rfl

/-- The sign of a quotient does not change how it is rounded. -/
theorem neg_rounded_false (n d : Nat) : (rounded false n d).neg = rounded true n d := by
  unfold rounded
  simp only
  split
  · rfl
  · split <;> rfl

/-- The unit in the last place of the number nearest to `n / d`: small enough for 52 bits and
large enough for 53. -/
structure IsUnit (q : ℚ) (e : Int) : Prop where
  minExponent_le : minExponent ≤ e
  leading : minExponent < e → 2 ^ 52 * 2 ^ e ≤ q
  lt : q < 2 ^ 53 * 2 ^ e

/-- The exponent that is chosen is the unit in the last place. -/
theorem isUnit (hn : n ≠ 0) (hd : 0 < d) :
    IsUnit (n / d) (max minExponent (ratioLog2 n d - 52)) := by
  have hbounds := ratioLog2_bounds hn hd
  have hsplit : (2 : ℚ) ^ ratioLog2 n d = 2 ^ 52 * 2 ^ (ratioLog2 n d - 52) := by
    rw [← zpow_natCast, ← zpow_add₀ (by norm_num)]
    congr 1
    omega
  have hunit : (2 : ℚ) ^ (ratioLog2 n d - 52) ≤ 2 ^ max minExponent (ratioLog2 n d - 52) :=
    two_zpow_le (le_max_right _ _)
  refine ⟨le_max_left _ _, fun hlt => ?_, ?_⟩
  · rw [max_eq_right (by omega), ← hsplit]
    exact hbounds.1
  · rw [hsplit] at hbounds
    linarith [hbounds.2]

/-- A whole number of units is the nearest number if it is the nearest whole number of units. -/
theorem IsUnit.rounds {q : ℚ} {e : Int} {m : Nat} {x : Binary64} (he : IsUnit q e)
    (hm : RoundsWhole (q / 2 ^ e) m) (hx : Precise x) (hvalue : x.value = m * 2 ^ e)
    (heven : Even m → Even x.significand) : Rounds q x := by
  have hunit := two_zpow_pos e
  -- distances are measured in units
  have hmeasure : ∀ k : ℚ, |k * 2 ^ e - q| = |k - q / 2 ^ e| * 2 ^ e := by
    intro k
    have hscale : k * 2 ^ e - q = (k - q / 2 ^ e) * 2 ^ e := by
      rw [sub_mul, div_mul_cancel₀ _ hunit.ne']
    rw [hscale, abs_mul, abs_of_pos hunit]
  -- numbers that are no whole number of units are too small to be near
  have hfar : ∀ y, Precise y → y.exponent < e → |x.value - q| < |y.value - q| := by
    intro y hy hlt
    have hmin := hy.minExponent_le
    have hsmall := hy.magnitude_lt hlt
    have hlarge := he.leading (by omega)
    have hle := le_abs_self y.value
    rw [abs_value] at hle
    have hnear := mul_le_mul_of_nonneg_right (hm.nearest (2 ^ 52)) hunit.le
    rw [← hmeasure, ← hmeasure, Int.cast_pow, Int.cast_ofNat,
      abs_of_nonpos (a := 2 ^ 52 * 2 ^ e - q) (by linarith)] at hnear
    rw [hvalue, abs_of_neg (a := y.value - q) (by linarith)]
    linarith
  refine ⟨hx, fun y hy => ?_, fun y hy hne htie => ?_⟩
  · rcases lt_or_ge y.exponent e with hlt | hge
    · exact (hfar y hy hlt).le
    · obtain ⟨k, hk⟩ := exists_value_eq_mul hge
      rw [hvalue, hk, hmeasure, hmeasure]
      exact mul_le_mul_of_nonneg_right (hm.nearest k) hunit.le
  · rcases lt_or_ge y.exponent e with hlt | hge
    · exact absurd htie (hfar y hy hlt).ne'
    · obtain ⟨k, hk⟩ := exists_value_eq_mul hge
      apply heven
      rw [hvalue, hk, hmeasure, hmeasure] at htie
      apply hm.even_of_ne _ (mul_right_cancel₀ hunit.ne' htie)
      intro hkm
      apply hne
      rw [hvalue, hk, hkm, Int.cast_natCast]

/-- A quotient that is not negative is rounded to the nearest number. -/
theorem rounds_rounded_false (n : Nat) (hd : 0 < d) : Rounds (n / d) (rounded false n d) := by
  by_cases hn : n = 0
  · have hzero := (precise_zero false).rounds
    rw [value_zero] at hzero
    rw [rounded, if_pos hn, hn, Nat.cast_zero, zero_div]
    exact hzero
  have he := isUnit hn hd
  rw [rounded, if_neg hn]
  simp only
  generalize max minExponent (ratioLog2 n d - 52) = e at he
  have hm := roundsWhole_roundInUnits n hd e
  have hunit := two_zpow_pos e
  generalize roundInUnits n d e = m at hm
  have hle : m ≤ 2 ^ 53 := by
    apply hm.le_of_ge
    rw [div_le_iff₀ hunit]
    exact_mod_cast he.lt.le
  have hleading : minExponent < e → 2 ^ 52 ≤ m := by
    intro hlt
    apply hm.le_of_le
    rw [le_div_iff₀ hunit]
    exact_mod_cast he.leading hlt
  split
  · next hfull =>
    -- all bits are carried over into the next place
    refine he.rounds hm ⟨by simp, ?_, fun _ => le_refl _⟩ ?_ fun _ => ?_
    · have hmin := he.minExponent_le
      simp only
      omega
    · rw [hfull, value]
      simp only [magnitude, two_zpow_add_one]
      push_cast
      ring
    · exact Nat.even_pow.2 ⟨even_two, by omega⟩
  · next hpart =>
    exact he.rounds hm ⟨lt_of_le_of_ne hle hpart, he.minExponent_le, hleading⟩ rfl id

end Binary64
end DesignMetrics.Number

namespace DesignMetrics.Factor

open Number Binary64

/-- The number nearest to `n / d`, however large it is. -/
def roundedQuotient (n d : Int) : Binary64 :=
  rounded (decide (n < 0) != decide (d < 0)) n.natAbs d.natAbs

/-- So is every quotient. -/
theorem rounds_roundedQuotient (n : Int) {d : Int} (hd : d ≠ 0) :
    Rounds (n / d) (roundedQuotient n d) := by
  -- magnitudes are rounded, and the sign is put in front
  have hpos := rounds_rounded_false n.natAbs (Int.natAbs_pos.2 hd)
  rw [Nat.cast_natAbs, Nat.cast_natAbs, Int.cast_abs, Int.cast_abs, ← abs_div] at hpos
  unfold roundedQuotient
  rcases lt_trichotomy ((n : ℚ) / d) 0 with hneg | hzero | hpositive
  · have hsign : (decide (n < 0) != decide (d < 0)) = true := by
      rw [div_neg_iff] at hneg
      norm_cast at hneg
      rw [bne_iff_ne, Ne, decide_eq_decide]
      omega
    have hflipped := hpos.neg
    rwa [abs_of_neg hneg, neg_neg, neg_rounded_false, ← hsign] at hflipped
  · -- zero has either sign
    have hn : n = 0 := by simpa [div_eq_zero_iff, hd] using hzero
    have hround := (precise_zero (decide (n < 0) != decide (d < 0))).rounds
    rw [value_zero] at hround
    rwa [hzero, rounded, if_pos (by simpa using hn)]
  · have hsign : (decide (n < 0) != decide (d < 0)) = false := by
      rw [div_pos_iff] at hpositive
      norm_cast at hpositive
      rw [bne_eq_false_iff_eq, decide_eq_decide]
      omega
    rwa [abs_of_pos hpositive, ← hsign] at hpos

/-- A quotient is refused if the number nearest to it is larger than all others. -/
theorem quotient?_eq (n : Int) {d : Int} (hd : d ≠ 0) : quotient? n d =
    if |(roundedQuotient n d).value| ≤ greatest.value then some (roundedQuotient n d)
    else none := by
  have hprecise := (rounds_roundedQuotient n hd).precise
  rw [quotient?, if_neg hd, nearest?_eq]
  show (if maxExponent < (roundedQuotient n d).exponent then none
    else some (roundedQuotient n d)) = _
  by_cases hle : (roundedQuotient n d).exponent ≤ maxExponent
  · rw [if_neg (not_lt.2 hle), abs_value, if_pos (hprecise.magnitude_le_greatest_iff.2 hle)]
  · rw [if_pos (not_le.1 hle), abs_value, if_neg (mt hprecise.magnitude_le_greatest_iff.1 hle)]

/-- The quotient that is computed is a rounding of the true one. -/
theorem rounds_of_quotient? {n d : Int} {x : Binary64} (hd : d ≠ 0)
    (h : quotient? n d = some x) : Rounds (n / d) x := by
  rw [quotient?_eq n hd] at h
  split at h
  · rw [← Option.some.inj h]
    exact rounds_roundedQuotient n hd
  · exact absurd h (Option.some_ne_none x).symm

/-- Shares of a whole are between zero and one, and there are such numbers for all of them. -/
theorem exists_quotient?_of_le {n d : Int} (hn : 0 ≤ n) (hd : n ≤ d) :
    ∃ x, quotient? n d = some x ∧ 0 ≤ x.value ∧ x.value ≤ 1 := by
  by_cases hzero : d = 0
  · exact ⟨zero false, by rw [quotient?, if_pos hzero], by simp, by simp⟩
  have hdq : (0 : ℚ) < d := by exact_mod_cast lt_of_le_of_ne (hn.trans hd) (Ne.symm hzero)
  have hround := rounds_roundedQuotient n hzero
  have hlow : 0 ≤ (roundedQuotient n d).value := by
    have hbottom := (precise_zero false).rounds
    have hle := hbottom.value_le_value hround (by rw [value_zero]; positivity)
    rwa [value_zero] at hle
  have hhigh : (roundedQuotient n d).value ≤ 1 := by
    have hquotient : (n : ℚ) / d ≤ 1 := by
      rw [div_le_one hdq]
      exact_mod_cast hd
    rw [← value_one]
    exact hround.value_le_value rounds_one hquotient
  refine ⟨roundedQuotient n d, ?_, hlow, hhigh⟩
  rw [quotient?_eq n hzero, if_pos]
  rw [abs_of_nonneg hlow]
  exact hhigh.trans one_le_greatest

/-- The quotient of two whole numbers is zero where there is none to take, and else the nearest
binary number, unless that is larger than all others. So shares of a whole lie between zero and one,
and a larger quotient never becomes a smaller number. -/
theorem quotient?_rounds :
    (∀ n, quotient? n 0 = some (zero false)) ∧
    (∀ n d : Int, d ≠ 0 → ∃ x, Rounds (n / d) x ∧
      x.negative = (decide (n < 0) != decide (d < 0)) ∧
      quotient? n d = if |x.value| ≤ greatest.value then some x else none) ∧
    (∀ n d, 0 ≤ n → n ≤ d → ∃ x, quotient? n d = some x ∧ 0 ≤ x.value ∧ x.value ≤ 1) ∧
    (∀ n₁ d₁ n₂ d₂ : Int, ∀ x₁ x₂, 0 < d₁ → 0 < d₂ → (n₁ : ℚ) / d₁ ≤ n₂ / d₂ →
      quotient? n₁ d₁ = some x₁ → quotient? n₂ d₂ = some x₂ → x₁.value ≤ x₂.value) := by
  refine ⟨fun n => if_pos rfl, fun n d hd => ?_, fun n d => exists_quotient?_of_le, ?_⟩
  · exact ⟨roundedQuotient n d, rounds_roundedQuotient n hd, negative_rounded _ _ _,
      quotient?_eq n hd⟩
  · intro n₁ d₁ n₂ d₂ x₁ x₂ hd₁ hd₂ hle h₁ h₂
    have hround₁ := rounds_of_quotient? hd₁.ne' h₁
    have hround₂ := rounds_of_quotient? hd₂.ne' h₂
    exact hround₁.value_le_value hround₂ hle

/-- A tie goes to the even significand, a power of two is too large, one third lies between zero
and one, and below one half. -/
theorem quotient?_rounds_at_edges :
    Rounds ((2 ^ 53 + 1 : Int) / (1 : Int)) ⟨false, 2 ^ 52, 1⟩ ∧
    (∃ x, Rounds ((2 ^ 1024 : Int) / (1 : Int)) x ∧ greatest.value < |x.value|) ∧
    (∃ x, quotient? 1 3 = some x ∧ 0 ≤ x.value ∧ x.value ≤ 1) ∧
    value ⟨false, 6004799503160661, -54⟩ ≤ value ⟨false, 2 ^ 52, -53⟩ := by
  have htie : quotient? (2 ^ 53 + 1) 1 = some ⟨false, 2 ^ 52, 1⟩ := by decide +kernel
  have hlarge : quotient? (2 ^ 1024) 1 = none := by decide +kernel
  have hthird : quotient? 1 3 = some ⟨false, 6004799503160661, -54⟩ := by decide +kernel
  have hhalf : quotient? 1 2 = some ⟨false, 2 ^ 52, -53⟩ := by decide +kernel
  refine ⟨?_, ?_, quotient?_rounds.2.2.1 1 3 (by decide) (by decide), ?_⟩
  · obtain ⟨x, hround, -, hx⟩ := quotient?_rounds.2.1 (2 ^ 53 + 1) 1 (by decide)
    rw [htie] at hx
    split at hx
    · rwa [Option.some.inj hx]
    · exact absurd hx (Option.some_ne_none _)
  · obtain ⟨x, hround, -, hx⟩ := quotient?_rounds.2.1 (2 ^ 1024) 1 (by decide)
    refine ⟨x, hround, ?_⟩
    rw [hlarge] at hx
    split at hx
    · exact absurd hx (Option.some_ne_none x).symm
    · next hgreater => exact not_le.1 hgreater
  · apply quotient?_rounds.2.2.2 1 3 1 2 _ _ (by decide) (by decide) _ hthird hhalf
    norm_num

end DesignMetrics.Factor
