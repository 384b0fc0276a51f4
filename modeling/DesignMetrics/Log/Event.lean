import DesignMetrics.Factor.Basic
import DesignMetrics.Files.Error
import DesignMetrics.Number.Notation

/-!
# Events

What is reported while a project is analyzed: how much it matters, and how it reads.
-/

namespace DesignMetrics.Log

open Number (Binary64)

/-- How much an event matters. -/
inductive Level where
  | debug
  | info
  | warning
deriving DecidableEq, Repr

def Level.rank : Level → Nat
  | .debug => 0
  | .info => 1
  | .warning => 2

/-- The activity that an event belongs to. -/
inductive Activity where
  | search
  | scan
  | linking
  | summation
  | analysis
  | commandLine
deriving DecidableEq, Repr

/-- What is reported while a project is analyzed. Paths are texts as they are shown. -/
inductive Event where
  | directorySkipped (path : String)
  | pathIgnored (path : String)
  | fileUnreadable (path : String) (error : Files.ReadError)
  | searchDone (root : String) (files errors : Nat)
  | sourceScanned (file : String) (classes : Nat)
  | classReplaced (replacement : Replacement)
  | cycleFound (cycle : Cycle)
  | hierarchyBuilt (classes infos cycles : Nat)
  | factorsComputed (values : Factors Binary64)
  | analysisDone (root : String) (files classes errors : Nat)
  | argumentsRefused (words : List String)
  | notDirectory (path : String)
  | workersRefused (workers : Int)
  | extensionsRefused (argument : String)
  | ignoreFilesUnreadable (error : Files.ReadError)
  | outputUnwritable (path : String) (error : Files.FileError)

namespace Event

def level : Event → Level
  | .directorySkipped _ | .pathIgnored _ | .sourceScanned .. | .factorsComputed _ => .debug
  | .searchDone .. | .hierarchyBuilt .. | .analysisDone .. => .info
  | _ => .warning

def activity : Event → Activity
  | .directorySkipped _ | .pathIgnored _ | .fileUnreadable .. | .searchDone .. => .search
  | .sourceScanned .. => .scan
  | .classReplaced _ | .cycleFound _ | .hierarchyBuilt .. => .linking
  | .factorsComputed _ => .summation
  | .analysisDone .. => .analysis
  | _ => .commandLine

/-- Values by name, between braces. -/
def valuesText (values : Factors Binary64) : String :=
  "\x7b" ++
    ", ".intercalate (values.named.map fun (name, value) =>
      Text.quoted name ++ ": " ++ value.toText) ++
    "\x7d"

/-- Named values after a headline, between parentheses. -/
def withFields (headline : String) (fields : List (String × String)) : String :=
  headline ++ " (" ++ " ".intercalate (fields.map fun (name, value) => name ++ "=" ++ value) ++ ")"

def message : Event → String
  | .directorySkipped path => withFields "Skipping directory" [("path", path)]
  | .pathIgnored path => withFields "Skipping ignored path" [("path", path)]
  | .fileUnreadable path error =>
    withFields "Skipping file due to read failure" [("file_path", path), ("error", error.message)]
  | .searchDone root files errors =>
    withFields "Source discovery completed"
      [("path", root), ("files", files.repr), ("errors", errors.repr)]
  | .sourceScanned file classes =>
    withFields "Scanned source" [("file_path", file), ("classes", classes.repr)]
  | .classReplaced r =>
    withFields "Duplicate class name; later declaration replaces earlier"
      [("name", r.new.name), ("file_path", r.new.file), ("previous_file_path", r.old.file)]
  | .cycleFound cycle => cycle.message ++ "; DIT is not computed for affected classes"
  | .hierarchyBuilt classes infos cycles =>
    withFields "Class model built"
      [("classes", classes.repr), ("records", infos.repr), ("cycles", cycles.repr)]
  | .factorsComputed values =>
    withFields "Project metrics computed" [("metrics", valuesText values)]
  | .analysisDone root files classes errors =>
    withFields "Analysis completed"
      [("path", root), ("files", files.repr), ("classes", classes.repr), ("errors", errors.repr)]
  | .argumentsRefused words =>
    withFields "Argument parsing failed" [("argv", Text.quotedList words)]
  | .notDirectory path => withFields "Path is not a directory" [("path", path)]
  | .workersRefused workers => withFields "Invalid worker count" [("workers", toString workers)]
  | .extensionsRefused argument =>
    withFields "Invalid extensions argument" [("extensions", argument)]
  | .ignoreFilesUnreadable error =>
    withFields "Failed to read .gitignore files" [("error", error.message)]
  | .outputUnwritable path error =>
    withFields "Failed to write JSON output file"
      [("output_path", path), ("error", error.message)]

end Event

/-- The events that matter at least as much as the level asks. -/
def visible (least : Level) (events : List Event) : List Event :=
  events.filter fun e => least.rank ≤ e.level.rank

end DesignMetrics.Log
