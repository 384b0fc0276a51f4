import DesignMetrics.Ignore.Rule

/-!
# Sets of ignore rules

Later rules win over earlier ones, but a rule that fits a whole path wins over all that only fit a
directory on the way.
-/

namespace DesignMetrics.Ignore

/-- The rules of a project, in the order of their lines. -/
abbrev RuleSet := List Rule

namespace RuleSet

/-- The rules of lines; the first line that is refused decides the error. -/
def ofLines (lines : List String) : Except RuleError RuleSet := do
  let rules ← (lines.filter (· != "")).mapM Rule.ofLine
  return rules.filterMap id

/-- The rules that fit a path, the last one first. -/
def hits (rules : RuleSet) (path : List Char) : List (Rule × Strength) :=
  rules.reverse.filterMap fun rule => (rule.shape.fits? path).map (rule, ·)

/-- The rule that decides on a path: the last one that fits all of it, or else the last one that
fits a directory on the way. -/
def decisive? (rules : RuleSet) (path : List Char) : Option Rule :=
  let found := rules.hits path
  ((found.find? (·.2 = .whole)).or found.head?).map Prod.fst

/-- A path may be written with a slash or a dot and a slash in front. -/
def relative : List Char → List Char
  | '/' :: rest => rest
  | '.' :: '/' :: rest => rest
  | cs => cs

/-- Whether the rules ignore a path as it is written. -/
def covers (rules : RuleSet) (path : List Char) : Bool :=
  (rules.decisive? (relative path)).elim false Rule.ignores

/-- Whether the rules ignore a path below the root. A directory is also tried with a slash at its
end. -/
def excludes (rules : RuleSet) (path : String) (isDirectory : Bool) : Bool :=
  path != "" &&
    (rules.covers path.toList || (isDirectory && rules.covers (path.toList ++ ['/'])))

end RuleSet
end DesignMetrics.Ignore
