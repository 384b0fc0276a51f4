import DesignMetrics.Hierarchy.Ancestry

/-!
# The hierarchy of a project

Classes linked by the names of their parents. `Hierarchy.ofInfos` keeps the last class of every
name, and derives children, positions and cycles from what is kept.
-/

namespace DesignMetrics

/-- Where a class stands: its depth below the root, which it does not have if there is a cycle
above it, and its number of children. -/
structure Position where
  name : String
  depth : Option Int
  childCount : Int
deriving DecidableEq, Repr

/-- The classes of a project, linked by inheritance. -/
structure Hierarchy where
  classes : Classes
  children : OrderedMap (List String) := .empty
  positions : OrderedMap Position
  cycles : List Cycle := []

/-- A class that takes the place of an earlier one of the same name. -/
structure Replacement where
  new : ClassInfo
  old : ClassInfo

namespace Classes

/-- One class for each name: the last one, at the place of the first. -/
def ofInfos (infos : List ClassInfo) : Classes :=
  OrderedMap.ofList (infos.map fun c => (c.name, c))

/-- The classes that take the place of one in `before` or of an earlier one of the list, each with
the one that stood there. -/
def replacementsAfter (before : Classes) : List ClassInfo → List Replacement
  | [] => []
  | c :: rest =>
    let later := replacementsAfter (before.insert c.name c) rest
    match before.find? c.name with
    | some old => ⟨c, old⟩ :: later
    | none => later

def replacements (infos : List ClassInfo) : List Replacement :=
  replacementsAfter .empty infos

/-- Enters a class among the children of its parent, if that is known. -/
def addChild (classes : Classes) (children : OrderedMap (List String)) (c : ClassInfo) :
    OrderedMap (List String) :=
  match c.parent with
  | none => children
  | some parent =>
    if classes.contains parent then
      children.insert parent ((children.find? parent).getD [] ++ [c.name])
    else children

/-- The children of every known parent, in the order of the classes. -/
def children (classes : Classes) : OrderedMap (List String) :=
  classes.values.foldl (addChild classes) .empty

/-- The cycles that the classes run into, each where it is met first. -/
def cycles (classes : Classes) : List Cycle :=
  Cycle.distinct (classes.keys.filterMap fun name => (classes.ancestry name).cycle?)

/-- Where the class of a name stands among classes with these children. -/
def position (classes : Classes) (children : OrderedMap (List String)) (name : String) : Position :=
  { name
    depth := (classes.ancestry name).depth?.map Int.ofNat
    childCount := ((children.find? name).getD []).length }

end Classes

namespace Hierarchy

/-- Links classes by their parents. -/
def ofClasses (classes : Classes) : Hierarchy :=
  let children := classes.children
  { classes
    children
    positions := classes.mapEntries fun name _ => classes.position children name
    cycles := classes.cycles }

/-- The hierarchy of classes as they were declared. -/
def ofInfos (infos : List ClassInfo) : Hierarchy :=
  ofClasses (Classes.ofInfos infos)

/-- The class that is the parent of another one, if it is known. -/
def parentOf? (h : Hierarchy) (c : ClassInfo) : Option ClassInfo :=
  c.parent.bind h.classes.find?

end Hierarchy
end DesignMetrics
