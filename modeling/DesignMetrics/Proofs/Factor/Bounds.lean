import DesignMetrics.Proofs.Factor.Tally
import DesignMetrics.Proofs.Number.UnitInterval

/-!
# Bounds of the factors

Hiding and inheritance compare a part with the whole, so that they lie between zero and one in every
hierarchy. Polymorphism compares the methods that override with the new methods of parents: it lies
between zero and one where no class overrides more than its parent has to offer.
-/

namespace DesignMetrics

/-! ## Quotients -/

namespace Factor.Ratio

open Number (Binary64)

/-- The quotient of the two sums, which is zero where the second sum is, lies between zero and
one. -/
def InUnitInterval (r : Ratio) : Prop :=
  r.denominator = 0 ∨ r.IsShare

instance (r : Ratio) : Decidable r.InUnitInterval :=
  inferInstanceAs (Decidable (_ ∨ _))

/-- A ratio in the unit interval has a quotient, which is zero if the second sum is. -/
theorem InUnitInterval.exists_score {r : Ratio} (h : r.InUnitInterval) :
    ∃ s, r.score? = some s ∧ s.ratio = r ∧ s.value.InUnitInterval ∧
      (r.denominator = 0 → s.value = .zero false) := by
  have hquotient : ∃ x, quotient? r.numerator r.denominator = some x ∧ x.InUnitInterval ∧
      (r.denominator = 0 → x = .zero false) := by
    unfold quotient?
    by_cases hd : r.denominator = 0
    · exact ⟨_, if_pos hd, Binary64.inUnitInterval_zero, fun _ => rfl⟩
    · obtain ⟨hnumerator, hle⟩ : r.IsShare := h.resolve_left hd
      -- neither sum is negative
      have hsign : (decide (r.numerator < 0) != decide (r.denominator < 0)) = false := by
        rw [decide_eq_false (by omega), decide_eq_false (by omega)]
        rfl
      have hnat : r.numerator.natAbs ≤ r.denominator.natAbs := by omega
      obtain ⟨x, hx, hunit⟩ := Binary64.exists_nearest?_of_le hnat
      exact ⟨x, by rw [if_neg hd, hsign, hx], hunit, fun hzero => absurd hzero hd⟩
  obtain ⟨x, hx, hunit, hzero⟩ := hquotient
  refine ⟨⟨r, x, hx⟩, ?_, rfl, hunit, hzero⟩
  unfold score?
  split
  · next value hvalue =>
    obtain rfl : x = value := Option.some.inj (hx.symm.trans hvalue)
    rfl
  · next hnone =>
    rw [hx] at hnone
    cases hnone

theorem score?_eq_none_iff {r : Ratio} :
    r.score? = none ↔ quotient? r.numerator r.denominator = none := by
  unfold score?
  split
  · next value hvalue => simp [hvalue]
  · next hnone => simp [hnone]

end Factor.Ratio

/-- Ratios in the unit interval have scores, and their values lie there. -/
theorem Factor.exists_scores {ratios : Factors Factor.Ratio}
    (h : ∀ r ∈ ratios.named.map Prod.snd, r.InUnitInterval) :
    ∃ scores, Factor.scores ratios = .ok scores ∧ scores.map Factor.Score.ratio = ratios ∧
      ∀ s ∈ scores.named.map Prod.snd, s.value.InUnitInterval ∧
        (s.ratio.denominator = 0 → s.value = .zero false) := by
  obtain ⟨mhf, ahf, mif, aif, pof⟩ := ratios
  simp only [Factors.named, List.map_cons, List.map_nil, List.forall_mem_cons] at h
  obtain ⟨hmhf, hahf, hmif, haif, hpof, -⟩ := h
  obtain ⟨s₁, h₁, rfl, hs₁⟩ := hmhf.exists_score
  obtain ⟨s₂, h₂, rfl, hs₂⟩ := hahf.exists_score
  obtain ⟨s₃, h₃, rfl, hs₃⟩ := hmif.exists_score
  obtain ⟨s₄, h₄, rfl, hs₄⟩ := haif.exists_score
  obtain ⟨s₅, h₅, rfl, hs₅⟩ := hpof.exists_score
  refine ⟨⟨s₁, s₂, s₃, s₄, s₅⟩, ?_, rfl, ?_⟩
  · simp only [Factor.scores, Factors.map, h₁, h₂, h₃, h₄, h₅]
    rfl
  · simp only [Factors.named, List.map_cons, List.map_nil, List.forall_mem_cons]
    exact ⟨hs₁, hs₂, hs₃, hs₄, hs₅, by simp⟩

/-! ## What classes override -/

namespace Hierarchy

/-- The new methods of the class that a class inherits from. -/
def offered (h : Hierarchy) (c : ClassInfo) : Nat :=
  (h.parentOf? c).elim 0 ClassInfo.newMethods

/-- All methods that override, against the new methods that the parents of classes offer. -/
def polymorphism (h : Hierarchy) : Factor.Ratio :=
  ⟨((h.classes.values.map ClassInfo.overriding).sum : Nat),
    ((h.classes.values.map h.offered).sum : Nat)⟩

/-- No class overrides more methods than are new in its parent. -/
def OverridesOffered (h : Hierarchy) : Prop :=
  ∀ c ∈ h.classes.values, c.overriding ≤ h.offered c

instance (h : Hierarchy) : Decidable h.OverridesOffered :=
  inferInstanceAs (Decidable (∀ c ∈ h.classes.values, _))

end Hierarchy

/-- The sums of polymorphism are those of the methods that override, and of the new methods that
the parents offer. -/
theorem Factor.Tally.pof_eq {infos : List ClassInfo} {sums : Factors Factor.Ratio}
    (h : Factor.Tally infos sums) : sums.pof = (Hierarchy.ofInfos infos).polymorphism := by
  have hoverriding := Classes.sum_values_eq infos ClassInfo.overriding
  have hoffered := Classes.sum_parentOf?_eq infos ClassInfo.newMethods
  show Factor.Ratio.mk sums.pof.numerator sums.pof.denominator = _
  rw [h.pof_numerator, h.pof_denominator_eq, ← hoverriding, ← hoffered]
  rfl

/-- The sums of hiding and inheritance compare a part with the whole. -/
theorem exists_sums_of_ofInfos (infos : List ClassInfo) :
    ∃ sums, Factor.sums (Hierarchy.ofInfos infos) = .ok sums ∧
      sums.mhf.InUnitInterval ∧ sums.ahf.InUnitInterval ∧
      sums.mif.InUnitInterval ∧ sums.aif.InUnitInterval ∧
      sums.pof = (Hierarchy.ofInfos infos).polymorphism := by
  obtain ⟨sums, hsums, htally⟩ := Factor.exists_tally infos
  obtain ⟨hmhf, hahf, hmif, haif⟩ := htally.isShare
  exact ⟨sums, hsums, .inr hmhf, .inr hahf, .inr hmif, .inr haif, htally.pof_eq⟩

/-- Only the quotient of polymorphism can be too large. -/
theorem ofHierarchy_eq_error_iff (infos : List ClassInfo) {e : Factor.FactorError} :
    let h := Hierarchy.ofInfos infos
    Factor.ofHierarchy h = .error e ↔
      e = .overflow ∧
        Factor.quotient? h.polymorphism.numerator h.polymorphism.denominator = none := by
  intro h
  obtain ⟨sums, hsums, hmhf, hahf, hmif, haif, hpof⟩ := exists_sums_of_ofInfos infos
  have hscores : Factor.ofHierarchy h = Factor.scores sums := by
    rw [Factor.ofHierarchy, hsums]
    rfl
  obtain ⟨s₁, h₁, -⟩ := hmhf.exists_score
  obtain ⟨s₂, h₂, -⟩ := hahf.exists_score
  obtain ⟨s₃, h₃, -⟩ := hmif.exists_score
  obtain ⟨s₄, h₄, -⟩ := haif.exists_score
  rw [hscores, ← hpof, ← Factor.Ratio.score?_eq_none_iff]
  simp only [Factor.scores, Factors.map, h₁, h₂, h₃, h₄]
  cases hscore : sums.pof.score? with
  | none =>
    show Except.error Factor.FactorError.overflow = Except.error e ↔ _
    simp [eq_comm]
  | some s₅ =>
    show Except.ok _ = Except.error e ↔ _
    simp

/-- In every hierarchy the factors of hiding and of inheritance lie between zero and one.
Polymorphism compares all methods that override with the new methods that the parents of classes
offer, and so it lies there too if no class overrides more than its parent offers. Then all factors
have a value, and none lies outside. -/
theorem bounds_of_ofInfos (infos : List ClassInfo) :
    let h := Hierarchy.ofInfos infos
    ∃ sums, Factor.sums h = .ok sums ∧
      sums.mhf.InUnitInterval ∧ sums.ahf.InUnitInterval ∧
      sums.mif.InUnitInterval ∧ sums.aif.InUnitInterval ∧
      sums.pof = h.polymorphism ∧
      (h.OverridesOffered → sums.pof.InUnitInterval) ∧
      (sums.pof.InUnitInterval → ∃ scores, Factor.ofHierarchy h = .ok scores ∧
        scores.map Factor.Score.ratio = sums ∧
        ∀ s ∈ scores.named.map Prod.snd, s.value.InUnitInterval ∧
          (s.ratio.denominator = 0 → s.value = .zero false)) := by
  intro h
  obtain ⟨sums, hsums, hmhf, hahf, hmif, haif, hpof⟩ := exists_sums_of_ofInfos infos
  refine ⟨sums, hsums, hmhf, hahf, hmif, haif, hpof, ?_, ?_⟩
  · intro hoffered
    have hle : (h.classes.values.map ClassInfo.overriding).sum ≤
        (h.classes.values.map h.offered).sum := List.sum_le_sum hoffered
    rw [hpof]
    exact .inr ⟨Int.natCast_nonneg _, Int.ofNat_le.2 hle⟩
  · intro hunit
    have hall : ∀ r ∈ sums.named.map Prod.snd, r.InUnitInterval := by
      simp only [Factors.named, List.map_cons, List.map_nil, List.forall_mem_cons]
      exact ⟨hmhf, hahf, hmif, haif, hunit, by simp⟩
    obtain ⟨scores, hscores, hvalues⟩ := Factor.exists_scores hall
    refine ⟨scores, ?_, hvalues⟩
    rw [Factor.ofHierarchy, hsums]
    exact hscores

/-- A class that overrides one of the two new methods of its parent. -/
theorem bounds_of_ofInfos_half :
    let h := Hierarchy.ofInfos [{ name := "A", methods := [{ name := "a" }, { name := "b" }] },
      { name := "B", parent := some "A", methods := [{ name := "a", overrides := true }] }]
    h.OverridesOffered ∧ ∃ scores, Factor.ofHierarchy h = .ok scores ∧
      scores.pof.ratio = ⟨1, 2⟩ ∧ scores.pof.value.InUnitInterval := by
  intro h
  have hoffered : h.OverridesOffered := by decide +kernel
  have hoverriding : (h.classes.values.map ClassInfo.overriding).sum = 1 := by decide +kernel
  have hnew : (h.classes.values.map h.offered).sum = 2 := by decide +kernel
  obtain ⟨sums, -, -, -, -, -, hpof, hunit, hscores⟩ := bounds_of_ofInfos
    [{ name := "A", methods := [{ name := "a" }, { name := "b" }] },
      { name := "B", parent := some "A", methods := [{ name := "a", overrides := true }] }]
  obtain ⟨scores, hok, hratio, hvalues⟩ := hscores (hunit hoffered)
  refine ⟨hoffered, scores, hok, ?_, ?_⟩
  · have hratios : scores.pof.ratio = sums.pof := congrArg Factors.pof hratio
    rw [hratios, hpof, Hierarchy.polymorphism, hoverriding, hnew]
    rfl
  · exact (hvalues scores.pof (by simp [Factors.named])).1

/-- A class that overrides two methods where its parent has one: polymorphism comes to two. -/
theorem not_inUnitInterval_pof :
    ∃ sums, Factor.sums (Hierarchy.ofInfos [{ name := "A", methods := [{ name := "a" }] },
        { name := "B", parent := some "A",
          methods := [{ name := "a", overrides := true }, { name := "b", overrides := true }] }]) =
        .ok sums ∧
      sums.pof = ⟨2, 1⟩ ∧ ¬sums.pof.InUnitInterval := by
  refine ⟨⟨⟨0, 3⟩, ⟨0, 0⟩, ⟨1, 4⟩, ⟨0, 0⟩, ⟨2, 1⟩⟩, ?_, rfl, ?_⟩
  · decide +kernel
  · decide

end DesignMetrics
