import DesignMetrics.Text.Trim

/-!
# Rules of nested directories

A line of an ignore file speaks of its own directory. `relocate` writes it so that it says the same
of the root.
-/

namespace DesignMetrics.Ignore

/-- Whether a pattern has a slash other than at its end, which ties it to its place. -/
def isAnchored (pattern : List Char) : Bool :=
  (Text.dropTrailing (· == '/') (Text.trimEnd pattern)).contains '/'

/-- A pattern of the directory `base`, written for the root. -/
def moveUnder (base pattern : List Char) : List Char :=
  '/' :: base ++ (if isAnchored pattern then ['/'] else ['/', '*', '*', '/']) ++
    pattern.dropWhile (· == '/')

/-- A line that is left as it is: blank, a comment, or one that starts with a backslash. -/
def isPassive (line : List Char) : Bool :=
  let text := Text.trim line
  text.isEmpty || text.head? == some '#' || line.head? == some '\\'

/-- A line of the ignore file in the directory `base`, written for the root. -/
def relocateChars (base line : List Char) : List Char :=
  if base.isEmpty || isPassive line then line
  else
    match line with
    | '!' :: pattern => '!' :: moveUnder base pattern
    | _ => moveUnder base line

def relocate (base line : String) : String :=
  String.ofList (relocateChars base.toList line.toList)

end DesignMetrics.Ignore
