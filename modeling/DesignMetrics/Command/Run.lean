import DesignMetrics.Command.Arguments
import DesignMetrics.Report.Table

/-!
# Runs

What a command line does: it checks its arguments, analyzes a directory and reports.

Names and paths are taken to hold no emoji code, which is a name between two colons as in `:cat:`.
The console puts the emoji in the place of such a code, in the cells of tables and in a document on
the output stream, and this is left out here. A document in a file keeps its codes.
-/

namespace DesignMetrics.Command

open Files (Path Tree FileError ReadError)
open Log
open Factor (Score FactorError)
open Report (Export TableError)

/-- How a run ends: the code, what it has written to the two streams, and the files. -/
structure Outcome where
  code : Nat
  stdout : String := ""
  stderr : String := ""
  tree : Tree

/-- An error that a run does not turn into a code. -/
inductive Escape where
  | rules (e : Ignore.RuleError)
  | factors (e : FactorError)
  | markup (e : Report.Markup.MarkupError)
  | width (e : Report.Cell.CutError)
  | files (e : FileError)
  /-- There is no team of so few workers. -/
  | noWorkers
  /-- No number of workers is left to compare with. -/
  | workersMissing
  /-- No list of extensions is left to be split. -/
  | extensionsMissing

def Escape.message : Escape → String
  | .rules e => e.message
  | .factors e => e.message
  | .markup e => e.message
  | .width e => e.message
  | .files e => e.message
  | .noWorkers => Source.Team.refusal
  | .workersMissing => "'<=' not supported between instances of 'list' and 'int'"
  | .extensionsMissing => "'list' object has no attribute 'split'"

/-- The line for a file that could not be read. -/
def failureLine (e : ReadFailure) : String :=
  "scan_error: ScanError(file_path=" ++ Text.quoted e.file ++ ", message=" ++
    Text.quoted e.message ++ ")"

/-- The line for a cycle. -/
def cycleLine (c : Cycle) : String :=
  "structural_error: " ++ c.message

/-- The lines for all that is wrong with a project. -/
def problemLines (a : Analysis) : List String :=
  a.failures.map failureLine ++ a.hierarchy.cycles.map cycleLine

/-- All that is wrong with a project; every line ends with a line feed. -/
def problemText (a : Analysis) : String :=
  String.join ((problemLines a).map (· ++ "\n"))

/-- The exported document of an analysis. -/
def document (a : Analysis) : Except FactorError String := do
  return (← Export.ofAnalysis a).toJson.toText

/-- Writes a text to a file and makes the directories above it. -/
def writeOutput (t : Tree) (output text : String) : Except FileError Tree := do
  let path := Path.ofString output
  let t ← t.ensureDirectories path.parent
  t.writeText path text

/-- Gives out the report of an analysis. -/
def report (t : Tree) (arguments : Arguments) (a : Analysis) : ExceptT Escape Logged Outcome := do
  let stderr := problemText a
  match arguments.format, arguments.output.getD "" with
  | .text, _ =>
    return { code := 0, stdout := Report.text (a.factors.map Score.value) a.hierarchy.positions,
             stderr, tree := t }
  | .table, _ =>
    match Report.tables a with
    | .ok stdout => return { code := 0, stdout, stderr, tree := t }
    | .error (.factors e) => throw (.factors e)
    | .error (.markup e) => throw (.markup e)
    | .error (.width e) => throw (.width e)
  | .json, output =>
    match document a with
    | .error e => throw (.factors e)
    | .ok text =>
      if output = "" then return { code := 0, stdout := text ++ "\n", stderr, tree := t }
      else
        match writeOutput t output text with
        | .ok tree => return { code := 0, stderr, tree }
        | .error .nullInPath => throw (.files .nullInPath)
        | .error e => do
          Logged.report [.outputUnwritable output e]
          return { code := 2, tree := t.attemptDirectories (Path.ofString output).parent
                   stderr := stderr ++ "Failed to write JSON output file: " ++ output ++ "\n" }

/-- Ends a run that cannot go on. -/
def refuse (t : Tree) (event : Event) (stderr : String) : ExceptT Escape Logged Outcome := do
  Logged.report [event]
  return { code := 2, stderr, tree := t }

/-- Ends a run because the sources cannot be found. Files that cannot be read are reported, lines
that mean nothing are not. -/
def refuseFiles (t : Tree) (e : ReadError) : ExceptT Escape Logged Outcome :=
  refuse t (.ignoreFilesUnreadable e) ("Failed to read .gitignore files: " ++ e.message ++ "\n")

/-- Analyzes a directory and reports. -/
def analyze (t : Tree) (arguments : Arguments) (root : Path) (extensions : List String)
    (workers : Int) : ExceptT Escape Logged Outcome := do
  match ← (Analysis.ofPath t root extensions workers arguments.respectRules).run with
  | .ok a => report t arguments a
  | .error .noWorkers => throw .noWorkers
  | .error (.search (.blocked .nullInPath)) => throw (.files .nullInPath)
  | .error (.search (.blocked e)) => refuseFiles t (.file e)
  | .error (.search (.rules (.unreadable e))) => refuseFiles t e
  | .error (.search (.rules (.refused e))) => throw (.rules e)
  | .error (.factors e) => throw (.factors e)

/-- Checks the workers, then the extensions, and goes on with what is in order. -/
def checkValues (t : Tree) (arguments : Arguments)
    (next : List String → Int → ExceptT Escape Logged Outcome) : ExceptT Escape Logged Outcome :=
  match arguments.workers with
  | none => throw .workersMissing
  | some workers =>
    if workers ≤ 0 then refuse t (.workersRefused workers) "workers must be > 0\n"
    else
      match arguments.extensions with
      | none => throw .extensionsMissing
      | some listed =>
        match extensionsOf listed with
        | [] => refuse t (.extensionsRefused listed) ("Invalid extensions: " ++ listed ++ "\n")
        | extensions => next extensions workers

/-- Runs with arguments. The path is checked before anything else. -/
def runWith (t : Tree) (arguments : Arguments) : ExceptT Escape Logged Outcome :=
  match arguments.path with
  | none => return { code := 2, stdout := "Usage: oom <project_dir>\n", tree := t }
  | some path =>
    let root := Path.ofString path
    match t.isDirectory root with
    | .error e => throw (.files e)
    | .ok false =>
      refuse t (.notDirectory root.toString)
        ("Path is not a directory: " ++ root.toString ++ "\n")
    | .ok true => checkValues t arguments (analyze t arguments root)

/-- Runs a command line on the files of the current directory. -/
def run (t : Tree) (words : List String) : ExceptT Escape Logged Outcome :=
  match Arguments.read? words with
  | none => refuse t (.argumentsRefused words) ""
  | some arguments => runWith t arguments

/-- How much an event must matter to be shown. -/
def logLevel (words : List String) : Level :=
  if (Arguments.read? words).any Arguments.verbose then .debug else .info

end DesignMetrics.Command
