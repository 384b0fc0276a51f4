import DesignMetrics.Number.Notation

/-!
# What numbers are written with

However a number is written, there is nothing in it but digits, signs, a point and the `e` of an
exponent.
-/

namespace DesignMetrics.Number

/-- The characters that numbers are written with. -/
def isFigure (c : Char) : Bool :=
  c.isDigit || ['.', 'e', '+', '-'].contains c

/-- A text of such characters. -/
def IsNumeral (cs : List Char) : Prop :=
  ∀ c ∈ cs, isFigure c = true

variable {cs ds : List Char}

theorem IsNumeral.append (hcs : IsNumeral cs) (hds : IsNumeral ds) : IsNumeral (cs ++ ds) :=
  List.forall_mem_append.2 ⟨hcs, hds⟩

theorem IsNumeral.cons {c : Char} (hc : isFigure c = true) (hcs : IsNumeral cs) :
    IsNumeral (c :: cs) :=
  List.forall_mem_cons.2 ⟨hc, hcs⟩

/-- The digits of a number. -/
theorem isNumeral_digitsOf (n : Nat) : IsNumeral (digitsOf n) := by
  intro c hc
  have hdigit : c.isDigit = true := Nat.isDigit_of_mem_toDigits (by decide) (by decide) hc
  unfold isFigure
  rw [hdigit, Bool.true_or]

theorem isNumeral_zeros (n : Nat) : IsNumeral (List.replicate n '0') := by
  intro c hc
  rw [(List.mem_replicate.1 hc).2]
  decide

/-- A sign, or none. -/
theorem isNumeral_sign (negative : Bool) : IsNumeral (if negative then ['-'] else []) := by
  cases negative <;> simp [IsNumeral, isFigure]

/-- Digits with zeros in front. -/
theorem isNumeral_padded (width n : Nat) : IsNumeral (padded width n) :=
  (isNumeral_zeros _).append (isNumeral_digitsOf n)

/-- A whole number, with its sign. -/
theorem isNumeral_toString (n : Int) : IsNumeral (toString n).toList := by
  rw [Int.toString_eq_repr, Int.repr_eq_if]
  split
  · rw [Nat.toList_repr]
    exact isNumeral_digitsOf n.toNat
  · rw [String.toList_append, Nat.toList_repr]
    exact (isNumeral_sign true).append (isNumeral_digitsOf (-n).toNat)

/-! ## Binary numbers -/

/-- Digits with a point among them, before them or after them. -/
theorem IsNumeral.positional (h : IsNumeral ds) (point : Int) :
    IsNumeral (positional ds point) := by
  have htake : IsNumeral (ds.take point.toNat) := fun c hc => h c (List.mem_of_mem_take hc)
  have hdrop : IsNumeral (ds.drop point.toNat) := fun c hc => h c (List.mem_of_mem_drop hc)
  unfold Number.positional
  split
  · exact (IsNumeral.cons (by decide) (.cons (by decide) (isNumeral_zeros _))).append h
  · refine (htake.append (isNumeral_zeros _)).append (.cons (by decide) ?_)
    split
    · exact isNumeral_zeros 1
    · exact hdrop

/-- Digits with an exponent behind them. -/
theorem IsNumeral.scientific (h : IsNumeral ds) (exponent : Int) :
    IsNumeral (scientific ds exponent) := by
  unfold Number.scientific
  refine IsNumeral.append ?_ (.cons (by decide) (.cons ?_ (isNumeral_padded 2 _)))
  · split
    · rcases List.forall_mem_cons.1 h with ⟨hfirst, hrest⟩
      exact .cons hfirst (.cons (by decide) hrest)
    · exact h
  · split <;> decide

namespace Binary64

/-- A value as the plain report shows it where all digits count. -/
theorem isNumeral_toText (x : Binary64) : IsNumeral x.toText.toList := by
  have hdigits := isNumeral_digitsOf (shortest x).digits
  by_cases hzero : x.significand = 0
  · rw [toText, if_pos hzero, String.toList_ofList]
    exact (isNumeral_sign x.negative).append
      (.cons (by decide) (.cons (by decide) (isNumeral_zeros 1)))
  · rw [toText, if_neg hzero, String.toList_ofList]
    refine (isNumeral_sign x.negative).append ?_
    split
    · exact hdigits.positional _
    · exact hdigits.scientific _

/-- A value with a set number of places. -/
theorem isNumeral_toFixed (places : Nat) (x : Binary64) : IsNumeral (x.toFixed places).toList := by
  unfold toFixed
  simp only [List.splitAt_eq, String.toList_ofList]
  have hdigits := isNumeral_padded (places + 1)
    (roundInUnits (x.significand * Nat.pow 10 places) 1 (-x.exponent))
  apply IsNumeral.append
  · apply (isNumeral_sign x.negative).append
    exact fun c hc => hdigits c (List.mem_of_mem_take hc)
  · apply IsNumeral.cons (by decide)
    exact fun c hc => hdigits c (List.mem_of_mem_drop hc)

end Binary64
end DesignMetrics.Number
