import DesignMetrics.Text.Trim

/-!
# Paths

A path is a list of names. Reading one removes what makes no difference to where it leads.
-/

namespace DesignMetrics.Files

/-- A path: one or two slashes in front if it is absolute, and the names on the way. A name `..`
leads back up. -/
structure Path where
  anchor : String := ""
  names : List String
deriving DecidableEq, Repr

namespace Path

/-- Reads a path. Names `.` and repeated slashes say nothing; exactly two slashes in front are not
the same as one. -/
def ofString (s : String) : Path :=
  let cs := s.toList
  let slashes := (cs.takeWhile (· == '/')).length
  { anchor := if slashes = 0 then "" else if slashes = 2 then "//" else "/"
    names := ((Text.splitOn '/' cs).filter fun name => name != [] && name != ['.']).map
      String.ofList }

def toString (p : Path) : String :=
  if p.anchor = "" ∧ p.names = [] then "." else p.anchor ++ "/".intercalate p.names

instance : ToString Path := ⟨toString⟩

def isAbsolute (p : Path) : Bool := p.anchor != ""

/-- The path without its last name. -/
def parent (p : Path) : Path := { p with names := p.names.dropLast }

/-- The path followed by further names. -/
def append (p : Path) (names : List String) : Path := { p with names := p.names ++ names }

end Path

/-- What follows the last dot of a file name. A dot at either end of the name does not count. -/
def extensionOf (name : String) : String :=
  let cs := name.toList
  let backwards := cs.reverse.takeWhile (· != '.')
  if backwards.length + 1 < cs.length ∧ backwards ≠ [] then String.ofList backwards.reverse else ""

end DesignMetrics.Files
