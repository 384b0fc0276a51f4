import DesignMetrics.Search

/-!
# Analysis of a project

From a directory, or from sources at hand, to hierarchy and factors, with a report of every step.
-/

namespace DesignMetrics

open Factor (FactorError Score)
open Files (Path Tree)
open Log
open Source (SourceFile Team)

/-- What is found out about a project. -/
structure Analysis where
  hierarchy : Hierarchy
  factors : Factors Score
  failures : List ReadFailure := []

namespace Analysis

/-- Builds the hierarchy of classes and reports replaced classes and cycles. -/
def linkClasses (infos : List ClassInfo) : Logged Hierarchy :=
  let h := Hierarchy.ofInfos infos
  ⟨h,
    (Classes.replacements infos).map .classReplaced ++ h.cycles.map .cycleFound ++
      [.hierarchyBuilt h.classes.size infos.length h.cycles.length]⟩

/-- Computes the factors of a hierarchy and reports their values. -/
def sumUp (h : Hierarchy) : ExceptT FactorError Logged (Factors Score) :=
  match Factor.ofHierarchy h with
  | .error e => throw e
  | .ok scores => do
    Logged.report [.factorsComputed (scores.map Score.value)]
    return scores

/-- Analyzes sources that are at hand. -/
def ofSources (team : Team) (sources : List SourceFile) : ExceptT FactorError Logged Analysis := do
  let infos ← team.scan sources
  let hierarchy ← linkClasses infos
  let factors ← sumUp hierarchy
  return { hierarchy, factors }

/-- Why a project cannot be analyzed. -/
inductive Error where
  | noWorkers
  | search (e : SearchError)
  | factors (e : FactorError)

def Error.message : Error → String
  | .noWorkers => Team.refusal
  | .search e => e.message
  | .factors e => e.message

/-- Finds the sources below a root and analyzes them. -/
def ofPath (t : Tree) (root : Path) (extensions : List String) (workers : Int)
    (respectRules : Bool) : ExceptT Error Logged Analysis :=
  match Team.ofWorkers? workers with
  | none => throw .noWorkers
  | some team => do
    let found ← (Search.find t root extensions respectRules).adapt .search
    let analysis ← (ofSources team found.sources).adapt .factors
    Logged.report [.analysisDone root.toString found.sources.length
      analysis.hierarchy.classes.size found.failures.length]
    return { analysis with failures := found.failures }

end Analysis
end DesignMetrics
