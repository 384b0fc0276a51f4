import DesignMetrics.Ignore.Glob
import DesignMetrics.Text.Quoted
import DesignMetrics.Text.Trim

/-!
# Ignore rules

The meaning of one line of an ignore file. A line is cut at its slashes into segments, the segments
become a `Shape`, and a shape fits a path as a whole or a directory on the way to it.
-/

namespace DesignMetrics.Ignore

/-- A part of a path pattern. -/
inductive Step where
  | item (i : GlobItem)
  /-- A whole name, whatever it is. -/
  | anyName
  | slash
  /-- Any directories in front of a name, or none. -/
  | leadingDirectories
  /-- Any directories between two names, or none. -/
  | innerDirectories
deriving DecidableEq, Repr

/-- Where a path pattern ends. -/
inductive Ending where
  /-- After a name: the path ends there too, or goes on below it. -/
  | entry
  /-- After a name that must be a directory. -/
  | directory
  /-- After a directory, of which only the content is meant. -/
  | below
deriving DecidableEq, Repr

/-- How well a pattern fits. A pattern that fits a directory on the way yields to one that fits
the whole path. -/
inductive Strength where
  | directory
  | whole
deriving DecidableEq, Repr

/-- What a path must look like. -/
inductive Shape where
  | anything
  | someSlash (strength : Strength)
  | path (steps : List Step) (ending : Ending)
deriving DecidableEq, Repr

/-- A pattern that ignores the paths that it fits, or takes them back. -/
structure Rule where
  ignores : Bool
  shape : Shape
deriving DecidableEq, Repr

/-- Why a line is refused. -/
inductive RuleError where
  | malformed (line : String)
  | reversedRange
deriving DecidableEq, Repr

/-- Only the text of a malformed line is reported. -/
def RuleError.message : RuleError → String
  | .malformed line => "Invalid git pattern: " ++ Text.quoted line
  | .reversedRange => ""

/-! ## Fitting a path -/

/-- The texts left over when a run of characters that satisfy `p` is passed over, the longest run
first. -/
def passOver (p : Char → Bool) : List Char → List (List Char)
  | [] => [[]]
  | c :: cs => if p c then passOver p cs ++ [c :: cs] else [c :: cs]

namespace Step

/-- The texts left over when a step has been matched at the start of a text, in the order in which
they are tried. Directories of any depth stop at a line feed. -/
def rests : Step → List Char → List (List Char)
  | .item .many, cs => passOver (· != '/') cs
  | .item i, c :: cs => if i.admits c then [cs] else []
  | .item _, [] => []
  | .anyName, c :: cs => if c != '/' then passOver (· != '/') cs else []
  | .anyName, [] => []
  | .slash, c :: cs => if c = '/' then [cs] else []
  | .slash, [] => []
  | .leadingDirectories, cs =>
    match cs with
    | [] => [cs]
    | c :: rest =>
      let deeper := if c != '\n' then passOver (· != '\n') rest else []
      deeper.filterMap (fun | '/' :: rest => some rest | _ => none) ++ [cs]
  | .innerDirectories, cs =>
    match cs with
    | '/' :: c :: rest => (if c != '\n' then passOver (· != '\n') rest else []) ++ [cs]
    | _ => [cs]

end Step

/-- A path may end with a line feed that no pattern mentions. -/
def atEnd (cs : List Char) : Bool :=
  cs = [] || cs = ['\n']

/-- Whether a pattern may end where this text is left over. -/
def Ending.fits? : Ending → List Char → Option Strength
  | .entry, '/' :: _ => some .directory
  | .entry, cs => if atEnd cs then some .whole else none
  | .directory, '/' :: _ => some .directory
  | .directory, _ => none
  | .below, '/' :: _ => some .whole
  | .below, _ => none

/-- The first way to match all steps and the ending. -/
def fitSteps (ending : Ending) : List Step → List Char → Option Strength
  | [], cs => ending.fits? cs
  | step :: steps, cs => (step.rests cs).findSome? (fitSteps ending steps)

def Shape.fits? : Shape → List Char → Option Strength
  | .anything, cs => if cs.any (· != '\n') then some .whole else none
  | .someSlash strength, cs => if cs.contains '/' then some strength else none
  | .path steps ending, cs => fitSteps ending steps cs

/-! ## From segments to shapes -/

/-- A segment that stands for directories of any depth. -/
def deep : List Char := ['*', '*']

/-- One deep segment in place of several that follow one another. -/
def collapse : List (List Char) → List (List Char)
  | a :: b :: rest =>
    if a = deep ∧ b = deep then collapse (b :: rest) else a :: collapse (b :: rest)
  | segments => segments

/-- The segments of a pattern. A name alone, with or without a slash after it, is meant at any
depth; a slash in front only says that the pattern has its place. A slash at the end means what is
below. -/
def normalize (segments : List (List Char)) : List (List Char) :=
  let placed :=
    match segments with
    | [] :: rest => rest
    | [name] => if name = deep then segments else deep :: segments
    | [name, []] => if name = deep then segments else deep :: segments
    | _ => segments
  collapse (if placed.getLast? = some [] then placed.dropLast ++ [deep] else placed)

/-- The steps for one segment. -/
def segmentSteps (segment : List Char) : Except GlobError (List Step) :=
  if segment = ['*'] then .ok [.anyName] else return (← glob segment).map .item

/-- The steps for all segments; `slash` says whether a slash stands before the first of them. -/
def assemble (directory : Bool) : (slash : Bool) → List (List Char) →
    Except GlobError (List Step × Ending)
  | _, [] => .ok ([], .entry)
  | slash, segment :: rest =>
    if segment = deep then
      if rest.isEmpty then .ok ([], if directory then .directory else .below)
      else do
        let (steps, ending) ← assemble directory true rest
        return (.innerDirectories :: steps, ending)
    else do
      let own ← segmentSteps segment
      let (steps, ending) ← assemble directory true rest
      return ((if slash then [.slash] else []) ++ own ++ steps, ending)

/-- The shape that normalized segments describe; `directory` says that the pattern ends with a
slash. -/
def shapeOf (directory : Bool) (segments : List (List Char)) : Except GlobError Shape :=
  if segments = [deep] then .ok (if directory then .someSlash .directory else .anything)
  else if segments = [deep, ['*']] then .ok .anything
  else if segments = [deep, ['*'], deep] then
    .ok (.someSlash (if directory then .directory else .whole))
  else
    match segments with
    | first :: rest =>
      if first = deep then do
        let (steps, ending) ← assemble directory false rest
        return .path (.leadingDirectories :: steps) ending
      else do
        let (steps, ending) ← assemble directory false segments
        return .path steps ending
    | [] => .ok (.path [] .entry)

/-- Whether all ranges of a shape are in order. -/
def Shape.rangesOrdered : Shape → Bool
  | .path steps _ => steps.all fun
    | .item i => i.rangesOrdered
    | _ => true
  | _ => true

/-! ## Reading a line -/

/-- White space at the end of a line counts only if the last space is escaped. -/
def significant (line : List Char) : List Char :=
  if ['\\', ' '].isSuffixOf line then line else Text.trimEnd line

/-- The rule of a line, if it has one: blank lines, comments, a slash alone and unclosed brackets
mean nothing. -/
def Rule.ofLine (line : String) : Except RuleError (Option Rule) :=
  let cs := significant line.toList
  if cs = [] ∨ cs.head? = some '#' ∨ cs = ['/'] then .ok none
  else
    let (ignores, cs) : Bool × List Char :=
      match cs with
      | '!' :: rest => (false, rest)
      | _ => (true, cs)
    let segments := Text.splitOn '/' cs
    let directory := segments.getLast? = some []
    match normalize segments with
    | [] => .error (.malformed line)
    | normal =>
      match shapeOf directory normal with
      | .error .danglingEscape => .error (.malformed line)
      | .error .unclosedBracket => .ok none
      | .ok shape =>
        if shape.rangesOrdered then .ok (some ⟨ignores, shape⟩) else .error .reversedRange

end DesignMetrics.Ignore
