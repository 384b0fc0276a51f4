import DesignMetrics.Factor.Ratio
import DesignMetrics.Hierarchy.Basic

/-!
# The five factors

Every class adds its share to five ratios, which compare private, inherited and overriding members
with the members that there are. `Factor.ofHierarchy` sums the shares of a hierarchy.
-/

namespace DesignMetrics

/-- The five factors of a project: hiding of methods and attributes, inheritance of methods and
attributes, and polymorphism. -/
structure Factors (α : Type) where
  mhf : α
  ahf : α
  mif : α
  aif : α
  pof : α
deriving DecidableEq, Repr

namespace Factors

variable {α β γ : Type}

def map (f : α → β) (x : Factors α) : Factors β :=
  ⟨f x.mhf, f x.ahf, f x.mif, f x.aif, f x.pof⟩

def zipWith (f : α → β → γ) (x : Factors α) (y : Factors β) : Factors γ :=
  ⟨f x.mhf y.mhf, f x.ahf y.ahf, f x.mif y.mif, f x.aif y.aif, f x.pof y.pof⟩

/-- All five results, if there are five. -/
def sequence? (x : Factors (Option α)) : Option (Factors α) :=
  return ⟨← x.mhf, ← x.ahf, ← x.mif, ← x.aif, ← x.pof⟩

/-- The factors with their names, in the order of reports. -/
def named (x : Factors α) : List (String × α) :=
  [("mhf", x.mhf), ("ahf", x.ahf), ("mif", x.mif), ("aif", x.aif), ("pof", x.pof)]

end Factors

namespace Factor

/-- Why a hierarchy has no factors. -/
inductive FactorError where
  | noPosition (name : String)
  | overflow
deriving DecidableEq, Repr

def FactorError.message : FactorError → String
  | .noPosition name => Text.quoted name
  | .overflow => "integer division result too large for a float"

/-- What one class adds to the sums. Members are inherited from the direct parent only. -/
def share (parent : Option ClassInfo) (c : ClassInfo) (childCount : Int) : Factors Ratio :=
  let methods : Int := c.methods.length
  let attributes : Int := c.attributes.length
  let privateMethods := c.methods.countP (·.visibility = .priv)
  let privateAttributes := c.attributes.countP (·.visibility = .priv)
  let inheritedMethods : Int := (parent.elim [] ClassInfo.methods).length
  let inheritedAttributes : Int := (parent.elim [] ClassInfo.attributes).length
  let overriding : Int := c.methods.countP Method.overrides
  { mhf := ⟨privateMethods, methods⟩
    ahf := ⟨privateAttributes, attributes⟩
    mif := ⟨inheritedMethods, inheritedMethods + methods⟩
    aif := ⟨inheritedAttributes, inheritedAttributes + attributes⟩
    pof := ⟨overriding, (methods - overriding) * childCount⟩ }

/-- The share of one class of a hierarchy, which must have a position for its name. -/
def shareIn (h : Hierarchy) (c : ClassInfo) : Except FactorError (Factors Ratio) :=
  match h.positions.find? c.name with
  | some position => .ok (share (h.parentOf? c) c position.childCount)
  | none => .error (.noPosition c.name)

/-- The sums over all classes. -/
def sums (h : Hierarchy) : Except FactorError (Factors Ratio) := do
  let shares ← h.classes.values.mapM (shareIn h)
  return shares.foldl (Factors.zipWith Ratio.add) ⟨.zero, .zero, .zero, .zero, .zero⟩

/-- The scores of five ratios, unless a quotient is too large. -/
def scores (ratios : Factors Ratio) : Except FactorError (Factors Score) :=
  match (ratios.map Ratio.score?).sequence? with
  | some scores => .ok scores
  | none => .error .overflow

/-- The five factors of a hierarchy. -/
def ofHierarchy (h : Hierarchy) : Except FactorError (Factors Score) := do
  scores (← sums h)

end Factor
end DesignMetrics
