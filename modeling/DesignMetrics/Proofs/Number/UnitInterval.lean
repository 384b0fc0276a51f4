import DesignMetrics.Number.Binary64
import Mathlib.Algebra.Order.Ring.Nat
import Mathlib.Data.Nat.Log

/-!
# Quotients up to one

Rounding never leaves the interval from zero to one: a quotient of natural numbers that is at most
one has a nearest binary number, and that is at most one as well.
-/

namespace DesignMetrics.Number

/-- What is at most a whole number is rounded to at most that number. -/
theorem roundHalfEven_le {n d k : Nat} (hd : 0 < d) (h : n ≤ k * d) : roundHalfEven n d ≤ k := by
  have hdiv : d * (n / d) + n % d = n := Nat.div_add_mod n d
  have hrest : n % d < d := Nat.mod_lt n hd
  rcases Nat.lt_or_ge (n / d) k with hlow | hlow
  · -- rounding goes up by one at most
    unfold roundHalfEven
    simp only
    split
    · omega
    · split <;> omega
  · -- the quotient is `k` itself, and nothing is left over to round
    have hk : k * d ≤ d * (n / d) := by
      rw [Nat.mul_comm d]
      exact Nat.mul_le_mul_right d hlow
    have hzero : n % d = 0 := by omega
    have hlow' : n / d = k := by
      have hle : n / d ≤ k := Nat.div_le_of_le_mul (by rwa [Nat.mul_comm] at h)
      omega
    unfold roundHalfEven
    simp only [hzero, hlow']
    rw [if_pos (by omega)]

namespace Binary64

/-- The number lies between zero and one. -/
def InUnitInterval (x : Binary64) : Prop :=
  x.negative = false ∧ x.significand * 2 ^ x.exponent.toNat ≤ 2 ^ (-x.exponent).toNat

instance (x : Binary64) : Decidable x.InUnitInterval :=
  inferInstanceAs (Decidable (_ ∧ _))

theorem inUnitInterval_zero : (zero false).InUnitInterval := by
  refine ⟨rfl, ?_⟩
  rw [zero, Nat.zero_mul]
  exact Nat.zero_le _

/-- The exponent of a quotient that is at most one is not positive. -/
theorem ratioLog2_nonpos {n d : Nat} (h : n ≤ d) : ratioLog2 n d ≤ 0 := by
  have hlog : n.log2 ≤ d.log2 := by
    rw [Nat.log2_eq_log_two, Nat.log2_eq_log_two]
    exact Nat.log_mono_right h
  unfold ratioLog2
  simp only
  split <;> omega

/-- A quotient that is at most one has a nearest number, and rounding does not take it beyond
one. -/
theorem exists_nearest?_of_le {n d : Nat} (h : n ≤ d) :
    ∃ x, nearest? false n d = some x ∧ x.InUnitInterval := by
  by_cases hn : n = 0
  · exact ⟨zero false, by rw [nearest?, if_pos hn], inUnitInterval_zero⟩
  have hd : 0 < d := by omega
  have hlog := ratioLog2_nonpos h
  -- there are `k ≥ 52` binary places
  obtain ⟨k, hk, hplaces⟩ : ∃ k : Nat, max minExponent (ratioLog2 n d - 52) = -(k : Int) ∧ 52 ≤ k :=
    ⟨(-max minExponent (ratioLog2 n d - 52)).toNat, by unfold minExponent; omega,
      by unfold minExponent; omega⟩
  have hround : roundInUnits n d (-(k : Int)) ≤ 2 ^ k := by
    have hscaled : n * 2 ^ k ≤ 2 ^ k * d := by
      rw [Nat.mul_comm]
      exact Nat.mul_le_mul_left _ h
    unfold roundInUnits
    rw [Int.neg_neg, Int.toNat_natCast, show (-(k : Int)).toNat = 0 by omega]
    exact roundHalfEven_le (by simpa using hd) (by simpa using hscaled)
  rw [nearest?, if_neg hn, hk]
  simp only
  by_cases hfull : roundInUnits n d (-(k : Int)) = Nat.pow 2 53
  · -- one place less is needed, as there are more than 52
    have hk53 : 53 ≤ k := (Nat.pow_le_pow_iff_right (by omega)).1 (hfull ▸ hround)
    rw [if_pos hfull]
    refine ⟨_, if_neg (by unfold maxExponent; simp only; omega), rfl, ?_⟩
    have hexponent : (-(-(k : Int) + 1)).toNat = k - 1 := by omega
    simp only [hexponent, show (-(k : Int) + 1).toNat = 0 by omega, pow_zero, Nat.mul_one]
    exact Nat.pow_le_pow_right (by omega) (by omega)
  · rw [if_neg hfull]
    refine ⟨_, if_neg (by unfold maxExponent; simp only; omega), rfl, ?_⟩
    simpa using hround

end Binary64
end DesignMetrics.Number
