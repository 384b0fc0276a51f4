import DesignMetrics.Log.Logged
import DesignMetrics.Source.Declaration
import DesignMetrics.Source.Member

/-!
# Scanning sources

The classes of many sources. A team of workers may scan them side by side; the result has the order
of the sources in any case.
-/

namespace DesignMetrics.Source

open Log

/-- A text and the name by which its classes are traced back to it. -/
structure SourceFile where
  name : String
  text : String
deriving DecidableEq, Repr

/-- A class declared in a file, with its members. -/
def Declaration.toInfo (file : String) (d : Declaration) : ClassInfo :=
  { name := d.name
    parent := d.parent
    methods := methodsOf d.body
    attributes := attributesOf d.body
    file }

namespace SourceFile

/-- The classes of a source. -/
def classes (s : SourceFile) : List ClassInfo :=
  (declarations s.text).map (Declaration.toInfo s.name)

/-- The classes of a source, with a report of their number. -/
def scan (s : SourceFile) : Logged (List ClassInfo) :=
  ⟨s.classes, [.sourceScanned s.name s.classes.length]⟩

end SourceFile

/-- Scans sources one after the other. -/
def scanInTurn (sources : List SourceFile) : Logged (List (List ClassInfo)) :=
  sources.mapM SourceFile.scan

/-- Scans the sources at the given positions, one after the other, and puts the classes of each
into the slot at its position. -/
def scanIntoSlots (sources : List SourceFile) (order : List Nat) (slots : List (List ClassInfo)) :
    Logged (List (List ClassInfo)) :=
  order.foldlM (fun slots i => do
    match sources[i]? with
    | some source => return slots.set i (← source.scan)
    | none => return slots) slots

/-- Scans sources side by side; `order` holds their positions in the order in which the scans are
completed. -/
def scanSideBySide (sources : List SourceFile) (order : List Nat) :
    Logged (List (List ClassInfo)) :=
  scanIntoSlots sources order (sources.map fun _ => [])

/-- A team that scans sources; it has at least one worker. -/
structure Team where
  workers : Nat
  workers_pos : 0 < workers

namespace Team

/-- There is no team of less than one worker. -/
def ofWorkers? (workers : Int) : Option Team :=
  if h : 0 < workers.toNat then some ⟨workers.toNat, h⟩ else none

/-- Why there is no team of a number of workers. -/
def refusal : String := "max_workers must be > 0"

/-- The classes of all sources, in the order of the sources. Workers complete their scans in the
order in which they took them up. -/
def scan (team : Team) (sources : List SourceFile) : Logged (List ClassInfo) := do
  let found ←
    if team.workers = 1 ∨ sources.length ≤ 1 then scanInTurn sources
    else scanSideBySide sources (List.range sources.length)
  return found.flatten

end Team
end DesignMetrics.Source
