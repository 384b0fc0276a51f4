import DesignMetrics.Report.Literal.Expression

/-!
# Rules

A grammar names rules, and each rule lists alternatives, which are tried in turn: the first one
that fits is taken. An alternative says what it consists of, and how its parts are put together.
-/

namespace DesignMetrics.Report.Literal

/-- What an alternative comes to: a part, nothing after all, or a fault, which is found at a token.
If none is named, it is the last one that has been looked at. -/
inductive Answer where
  | part (p : Part)
  | refused
  | fault (f : Fault) (place : Option Nat)

/-- What is known when an alternative has been read: how many brackets are open, at which tokens
the parts begin, and how texts that follow one another are joined. -/
structure Context where
  depth : Nat
  places : List Nat
  joined : List QuotedText → Except TextFault TextKind

/-- How an alternative is put together from what has been read for it. -/
abbrev Build := Context → List Part → Except Halt Answer

mutual

/-- What an alternative consists of; `ρ` names the rules. -/
inductive Item (ρ : Type) where
  /-- A keyword or a mark. -/
  | sign (s : String)
  | name
  /-- A name that is the beginning of one of the `openings`. -/
  | opening
  | number
  | text
  | lineEnd
  | finish
  | rule (r : ρ)
  /-- The alternatives of a rule, whatever is kept of it. -/
  | body (r : ρ)
  | group (as : List (Alternative ρ))
  | optional (i : Item ρ)
  | many (atLeastOne : Bool) (i : Item ρ)
  /-- Several with commas between them. -/
  | separated (i : Item ρ)
  /-- Those of several that follow the first. -/
  | followers (i : Item ρ)
  /-- Something that must come next, but is not read. -/
  | ahead (i : Item ρ)
  /-- Something that must not come next. -/
  | notAhead (i : Item ρ)
  /-- From here on no other alternative will do. -/
  | cut

/-- One way to read a rule. A suspicion is a way to read what was not meant to be written, and is
only looked at where care is taken. -/
inductive Alternative (ρ : Type) where
  | mk (isSuspicion : Bool) (items : List (Item ρ)) (build : Build)

end

instance {ρ : Type} : Coe String (Item ρ) := ⟨.sign⟩

instance {ρ : Type} : Coe ρ (Item ρ) := ⟨.rule⟩

/-- A grammar with rules named by `ρ`. -/
structure Grammar (ρ : Type) where
  alternatives : ρ → List (Alternative ρ)
  /-- Rules that are read once at each place. -/
  keeps : ρ → Bool
  /-- Rules that begin with themselves. Those are kept as well. -/
  isLeftRecursive : ρ → Bool
  /-- Rules that are read without care. -/
  isTrusting : ρ → Bool

end DesignMetrics.Report.Literal
