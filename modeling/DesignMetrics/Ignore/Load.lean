import DesignMetrics.Files.Tree
import DesignMetrics.Ignore.Relocate
import DesignMetrics.Ignore.RuleSet

/-!
# Ignore files

Collects the ignore files below a root, in the order of their paths, into one set of rules.
-/

namespace DesignMetrics.Ignore

open Files (Path Tree FileError ReadError)

/-- The name of ignore files. -/
def fileName : String := ".gitignore"

/-- Why the rules of a project cannot be loaded. -/
inductive LoadError where
  | unreadable (error : ReadError)
  | refused (error : RuleError)
deriving DecidableEq, Repr

def LoadError.message : LoadError → String
  | .unreadable e => e.message
  | .refused e => e.message

/-- The order of paths by their names, one after the other. A path comes before those below it. -/
def namesLe : List String → List String → Bool
  | [], _ => true
  | _ :: _, [] => false
  | a :: as, b :: bs => a < b || (a = b && namesLe as bs)

/-- Whether a directory below the root holds an ignore file. All links in it are looked at as well,
because they may lead to directories. -/
def holdsFile (t : Tree) (root : Path) (directory : List String) : Except FileError Bool := do
  let place := root.append directory
  let found ← t.contains (place.append [fileName])
  match t.list place with
  | .error _ => return found
  | .ok (l, _) =>
    t.inspect place (t.linksIn l)
    return found

/-- The directories below the root that hold an ignore file, sorted by the path of that file, name
by name. There are none if the root is no directory. -/
def directories (t : Tree) (root : Path) : Except FileError (List (List String)) := do
  if !(← t.isDirectory root) then return []
  match t.list root with
  | .error _ => return []
  | .ok (l, _) =>
    let holding ← (t.directoriesBelow l).filterM (holdsFile t root)
    return sortBy (fun a b => namesLe (a ++ [fileName]) (b ++ [fileName])) holding

/-- The lines of the ignore file in a directory, written for the root. -/
def linesOf (t : Tree) (root : Path) (directory : List String) :
    Except ReadError (List String) := do
  let cs ← t.readText (root.append (directory ++ [fileName]))
  return (Text.lines cs).map fun line => relocate ("/".intercalate directory) (String.ofList line)

/-- The lines of all ignore files, written for the root. -/
def allLines (t : Tree) (root : Path) : Except ReadError (List String) := do
  let directories ← (directories t root).mapError .file
  return (← directories.mapM (linesOf t root)).flatten

/-- The rules of all ignore files below a root. Every file is read before a line is refused. -/
def load (t : Tree) (root : Path) : Except LoadError RuleSet :=
  match allLines t root with
  | .error e => .error (.unreadable e)
  | .ok lines =>
    match RuleSet.ofLines lines with
    | .error e => .error (.refused e)
    | .ok rules => .ok rules

end DesignMetrics.Ignore
