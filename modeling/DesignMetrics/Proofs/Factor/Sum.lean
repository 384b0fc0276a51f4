import DesignMetrics.Factor.Basic
import DesignMetrics.Proofs.Except
import DesignMetrics.Proofs.Hierarchy.Links

/-!
# Sums of shares

The sums over the classes of a hierarchy always exist, since every class has a position, and they
do not depend on the order of the classes.
-/

namespace DesignMetrics

theorem Factor.Ratio.add_right_comm (a b c : Factor.Ratio) :
    (a.add b).add c = (a.add c).add b := by
  simp only [add, mk.injEq]
  omega

namespace Factors

/-- The sums over no class. -/
def zero : Factors Factor.Ratio := ⟨.zero, .zero, .zero, .zero, .zero⟩

def add : Factors Factor.Ratio → Factors Factor.Ratio → Factors Factor.Ratio :=
  zipWith Factor.Ratio.add

/-- Shares may be added in any order. -/
theorem add_right_comm (x y z : Factors Factor.Ratio) :
    add (add x y) z = add (add x z) y := by
  simp only [add, zipWith, Factor.Ratio.add_right_comm]

/-- Five results are there only if each of them is. -/
theorem of_sequence?_eq_some {α : Type} {x : Factors (Option α)} {y : Factors α}
    (h : x.sequence? = some y) :
    x.mhf = some y.mhf ∧ x.ahf = some y.ahf ∧ x.mif = some y.mif ∧ x.aif = some y.aif ∧
      x.pof = some y.pof := by
  obtain ⟨mhf, hmhf, h⟩ := Option.bind_eq_some_iff.1 h
  obtain ⟨ahf, hahf, h⟩ := Option.bind_eq_some_iff.1 h
  obtain ⟨mif, hmif, h⟩ := Option.bind_eq_some_iff.1 h
  obtain ⟨aif, haif, h⟩ := Option.bind_eq_some_iff.1 h
  obtain ⟨pof, hpof, h⟩ := Option.bind_eq_some_iff.1 h
  obtain rfl := Option.some.inj h
  exact ⟨hmhf, hahf, hmif, haif, hpof⟩

end Factors

namespace Classes

variable {classes : Classes}

/-- What a class adds to the sums of its hierarchy. -/
def shareOf (classes : Classes) (c : ClassInfo) : Factors Factor.Ratio :=
  Factor.share ((Hierarchy.ofClasses classes).parentOf? c) c (classes.childrenOf c.name).length

/-- Every class of a hierarchy has a position, and so a share. -/
theorem Keyed.shareIn_eq (hk : classes.Keyed) {c : ClassInfo} (hc : c ∈ classes.values) :
    Factor.shareIn (Hierarchy.ofClasses classes) c = .ok (classes.shareOf c) := by
  have hfind : classes.find? c.name = some c := hk.mem_values_iff.1 hc
  have hposition := classes.find?_positions c.name
  rw [hfind, Option.map_some] at hposition
  rw [Factor.shareIn, hposition, shareOf, ← find?_children]
  rfl

/-- The sums over a hierarchy exist, and are those of the shares of its classes. -/
theorem Keyed.sums_eq (hk : classes.Keyed) :
    Factor.sums (Hierarchy.ofClasses classes) =
      .ok ((classes.values.map classes.shareOf).foldl Factors.add Factors.zero) := by
  rw [Factor.sums, show (Hierarchy.ofClasses classes).classes = classes from rfl,
    mapM_eq_ok fun c => hk.shareIn_eq]
  rfl

end Classes

/-! ## Scores -/

namespace Factor

/-- A score is one of its ratio. -/
theorem Ratio.ratio_of_score? {r : Ratio} {s : Score} (h : r.score? = some s) : s.ratio = r := by
  unfold score? at h
  split at h
  · rw [← Option.some.inj h]
  · cases h

/-- Scores keep the ratios that they are scores of. -/
theorem ratio_of_scores {ratios : Factors Ratio} {s : Factors Score}
    (h : scores ratios = .ok s) : s.map Score.ratio = ratios := by
  unfold scores at h
  split at h
  · next s' hs =>
    obtain rfl := Except.ok.inj h
    obtain ⟨hmhf, hahf, hmif, haif, hpof⟩ := Factors.of_sequence?_eq_some hs
    simp only [Factors.map, Ratio.ratio_of_score? hmhf, Ratio.ratio_of_score? hahf,
      Ratio.ratio_of_score? hmif, Ratio.ratio_of_score? haif, Ratio.ratio_of_score? hpof]
  · cases h

/-- The scores of a hierarchy keep its sums. -/
theorem ratio_of_ofHierarchy {h : Hierarchy} {s : Factors Score} (hs : ofHierarchy h = .ok s) :
    sums h = .ok (s.map Score.ratio) := by
  obtain ⟨ratios, hratios, hs⟩ := bind_eq_ok.1 hs
  rw [hratios, ratio_of_scores hs]

end Factor
end DesignMetrics
