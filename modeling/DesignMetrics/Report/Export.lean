import DesignMetrics.Analysis
import DesignMetrics.Report.Json

/-!
# The full report

Everything that an analysis has found out, as a JSON document.
-/

namespace DesignMetrics.Report

open Factor (FactorError Score)

/-- All that is told of one class. -/
structure ClassEntry where
  info : ClassInfo
  depth : Option Int
  childCount : Int
  children : List String
deriving DecidableEq

/-- All that is told of an analysis. -/
structure Export where
  factors : Factors Score
  classes : List ClassEntry
  cycles : List Cycle
  failures : List ReadFailure

namespace Export

/-- The entry of a class of a hierarchy, which must have a position for its name. -/
def entry (h : Hierarchy) (c : ClassInfo) : Except FactorError ClassEntry :=
  match h.positions.find? c.name with
  | none => .error (.noPosition c.name)
  | some position =>
    .ok ⟨c, position.depth, position.childCount, (h.children.find? c.name).getD []⟩

def ofAnalysis (a : Analysis) : Except FactorError Export := do
  return {
    factors := a.factors
    classes := ← a.hierarchy.classes.values.mapM (entry a.hierarchy)
    cycles := a.hierarchy.cycles
    failures := a.failures }

def texts (ss : List String) : Json := .array (ss.map .text)

def scoreJson (s : Score) : Json :=
  .sorted [("numerator", .int s.ratio.numerator), ("denominator", .int s.ratio.denominator),
    ("value", .number s.value)]

def methodJson (m : Method) : Json :=
  .sorted [("name", .text m.name), ("visibility", .text m.visibility.word),
    ("overrides", .bool m.overrides)]

def attributeJson (a : Attribute) : Json :=
  .sorted [("name", .text a.name), ("visibility", .text a.visibility.word)]

def entryJson (e : ClassEntry) : Json :=
  .sorted [
    ("name", .text e.info.name),
    ("parent", e.info.parent.elim .null .text),
    ("file_path", .text e.info.file),
    ("dit", e.depth.elim .null .int),
    ("noc", .int e.childCount),
    ("children", texts e.children),
    ("methods", .array (e.info.methods.map methodJson)),
    ("attributes", .array (e.info.attributes.map attributeJson))]

def failureJson (f : ReadFailure) : Json :=
  .sorted [("file_path", .text f.file), ("message", .text f.message)]

/-- The document that tells all. -/
def toJson (x : Export) : Json :=
  .sorted [
    ("project_metrics", .sorted (x.factors.named.map fun (name, s) => (name, scoreJson s))),
    ("classes", .array (x.classes.map entryJson)),
    ("cycles", .array (x.cycles.map fun c => texts c.members)),
    ("errors", .array (x.failures.map failureJson))]

end Export
end DesignMetrics.Report
