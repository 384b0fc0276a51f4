import DesignMetrics.Ignore.Load
import DesignMetrics.Source.Scan
import DesignMetrics.Text.Lowercase

/-!
# Searching for sources

A search visits the names below a root, level by level, and sorts out the files with a wanted
extension that no rule excludes.
-/

namespace DesignMetrics

open Files (Path Tree FileError ReadError)
open Ignore (RuleSet LoadError)
open Source (SourceFile)
open Log

/-- A file that could not be read, and why. -/
structure ReadFailure where
  file : String
  message : String
deriving DecidableEq, Repr

/-- What is looked for: files below a root with one of the extensions, apart from those that the
rules exclude. -/
structure Search where
  tree : Tree
  root : Path
  extensions : List String
  rules : Option RuleSet

namespace Search

/-- The extensions that are looked for unless others are given. -/
def standardExtensions : List String := ["kt", "java"]

/-- An extension in small letters, without dots in front. -/
def normalizeExtension (extension : String) : String :=
  String.ofList ((Text.lowercase extension.toList).dropWhile (· == '.'))

/-- What became of a name in a directory. Paths are relative to the root. -/
inductive Visit where
  /-- A link to a directory, or the directory of version control. -/
  | skipped (path : String)
  | ignored (path : String)
  | directory (names : List String)
  | otherFile (path : String)
  | source (source : SourceFile)
  | unreadable (path : String) (error : ReadError)
  /-- The end of the search: it cannot be told what the name stands for. -/
  | blocked (error : FileError)

namespace Visit

def directory? : Visit → Option (List String)
  | .directory names => some names
  | _ => none

def source? : Visit → Option SourceFile
  | .source s => some s
  | _ => none

def failure? : Visit → Option ReadFailure
  | .unreadable path e => some ⟨path, e.message⟩
  | _ => none

def event? : Visit → Option Event
  | .skipped path => some (.directorySkipped path)
  | .ignored path => some (.pathIgnored path)
  | .unreadable path e => some (.fileUnreadable path e)
  | _ => none

def obstacle? : Visit → Option FileError
  | .blocked e => some e
  | _ => none

end Visit

/-- Whether files of this name are looked for. -/
def wants (s : Search) (name : String) : Bool :=
  (s.extensions.map normalizeExtension).contains (normalizeExtension (Files.extensionOf name))

/-- Visits a name in the directory to which `above` leads from the root. -/
def visit (s : Search) (above : List String) (name : String) : Visit :=
  let names := above ++ [name]
  let path := "/".intercalate names
  let place := s.root.append names
  match s.tree.isDirectory place with
  | .error e => .blocked e
  | .ok isDirectory =>
    if isDirectory && (name = ".git" || s.tree.isLink place) then .skipped path
    else if s.rules.any (·.excludes path isDirectory) then .ignored path
    else if isDirectory then .directory names
    else if !s.wants name then .otherFile path
    else
      match s.tree.readText place with
      | .ok text => .source ⟨path, String.ofList text⟩
      | .error e => .unreadable path e

/-- Visits all names in a directory. -/
def visitAll (s : Search) (above : List String) : List Visit :=
  match s.tree.list (s.root.append above) with
  | .error e => [.blocked e]
  | .ok (_, names) => names.map (s.visit above)

/-- Visits directories of one depth, then those that were found in them, down to `depth` levels. -/
def levels (s : Search) : (depth : Nat) → List (List String) → List Visit
  | 0, _ => []
  | _ + 1, [] => []
  | depth + 1, directories =>
    let visits := directories.flatMap s.visitAll
    visits ++ s.levels depth (visits.filterMap Visit.directory?)

/-- Everything there is to visit, level by level. No directory lies deeper than there are entries
in the tree. -/
def visits (s : Search) : List Visit :=
  s.levels (s.tree.entries.length + 1) [[]]

end Search

/-- Why a search is not done, or not to its end. -/
inductive SearchError where
  | rules (e : LoadError)
  | blocked (e : FileError)
deriving DecidableEq, Repr

def SearchError.message : SearchError → String
  | .rules e => e.message
  | .blocked e => e.message

/-- What a search finds: sources, and files that should be sources. -/
structure Found where
  sources : List SourceFile
  failures : List ReadFailure

namespace Search

/-- The search below a root, with the rules of its ignore files if they are to be respected. -/
def below (t : Tree) (root : Path) (extensions : List String) (respectRules : Bool) :
    Except SearchError Search :=
  if respectRules then
    match Ignore.load t root with
    | .ok rules => .ok ⟨t, root, extensions, some rules⟩
    | .error e => .error (.rules e)
  else .ok ⟨t, root, extensions, none⟩

/-- Visits everything and sorts out what was found. A search that is blocked has reported what it
met before. -/
def run (s : Search) : ExceptT SearchError Logged Found := do
  let visits := s.visits
  let passed := visits.takeWhile fun v => v.obstacle?.isNone
  Logged.report (passed.filterMap Visit.event?)
  match visits.findSome? Visit.obstacle? with
  | some e => throw (.blocked e)
  | none =>
    let found : Found := ⟨passed.filterMap Visit.source?, passed.filterMap Visit.failure?⟩
    Logged.report [.searchDone s.root.toString found.sources.length found.failures.length]
    return found

/-- The sources below a root, directories of smaller depth first and names in order. -/
def find (t : Tree) (root : Path) (extensions : List String) (respectRules : Bool) :
    ExceptT SearchError Logged Found := do
  let s ← below t root extensions respectRules
  s.run

end Search
end DesignMetrics
