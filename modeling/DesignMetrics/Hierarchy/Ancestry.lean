import DesignMetrics.ClassInfo
import DesignMetrics.OrderedMap
import DesignMetrics.Text.Quoted

/-!
# Ancestry

The way from a class up through its parents. It ends at a class whose parent is not known, or it
runs into a cycle: `Classes.ancestry` says which, and `Classes.depth` counts the classes on it.
-/

namespace DesignMetrics

/-- The classes of a project by name, in the order in which the names came up. -/
abbrev Classes := OrderedMap ClassInfo

/-- Classes each of which is the parent of the one before; the first stands again at the end. -/
structure Cycle where
  members : List String
deriving DecidableEq, Repr

namespace Cycle

def describe (c : Cycle) : String :=
  " -> ".intercalate c.members

def message (c : Cycle) : String :=
  "Inheritance cycle detected: " ++ c.describe

/-- Whether two cycles run through the same classes. -/
def sameMembers (a b : Cycle) : Bool :=
  a.members.all b.members.contains && b.members.all a.members.contains

/-- The first of all cycles that run through the same classes. -/
def distinct : List Cycle → List Cycle
  | [] => []
  | c :: rest => c :: (distinct rest).filter fun d => !c.sameMembers d

end Cycle

/-- Where the parents of a class lead: through a chain of classes, itself the first, to one whose
parent is not known, or into a cycle. -/
inductive Ancestry where
  | rooted (chain : List String)
  | cyclic (cycle : Cycle)
deriving DecidableEq, Repr

namespace Ancestry

/-- The number of classes on the way to the root, the class itself included. -/
def depth? : Ancestry → Option Nat
  | .rooted chain => some chain.length
  | .cyclic _ => none

def cycle? : Ancestry → Option Cycle
  | .rooted _ => none
  | .cyclic cycle => some cycle

end Ancestry

/-- Why a class has no depth. -/
inductive DepthError where
  | unknown (name : String)
  | cyclic (cycle : Cycle)
deriving DecidableEq, Repr

def DepthError.message : DepthError → String
  | .unknown name => Text.quoted name
  | .cyclic cycle => cycle.message

namespace Classes

/-- The parent under a key, if it is itself a key. -/
def parent? (classes : Classes) (name : String) : Option String :=
  match (classes.find? name).bind ClassInfo.parent with
  | some parent => if classes.contains parent then some parent else none
  | none => none

/-- Follows the parents of `name`; `path` holds the classes met so far, `name` at its head. -/
def climb (classes : Classes) : (steps : Nat) → (path : List String) → (name : String) → Ancestry
  | 0, path, _ => .rooted path.reverse
  | steps + 1, path, name =>
    match classes.parent? name with
    | none => .rooted path.reverse
    | some parent =>
      if parent ∈ path then .cyclic ⟨path.reverse.dropWhile (· != parent) ++ [parent]⟩
      else climb classes steps (parent :: path) parent

/-- Where the parents of a class lead. Every step meets a new key, so there are no more steps than
keys. -/
def ancestry (classes : Classes) (name : String) : Ancestry :=
  climb classes classes.size [name] name

/-- The number of classes from a class up to its root. -/
def depth (classes : Classes) (name : String) : Except DepthError Nat :=
  if classes.contains name then
    match classes.ancestry name with
    | .rooted chain => .ok chain.length
    | .cyclic cycle => .error (.cyclic cycle)
  else .error (.unknown name)

end Classes
end DesignMetrics
