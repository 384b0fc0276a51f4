import DesignMetrics.Search
import DesignMetrics.Number.Whole

/-!
# Arguments

How the words of a command line are read.
-/

namespace DesignMetrics.Command

/-- The form of a report. -/
inductive Format where
  | text
  | table
  | json
deriving DecidableEq, Repr

def Format.ofName? : String → Option Format
  | "text" => some .text
  | "table" => some .table
  | "json" => some .json
  | _ => none

/-- What the command line asks for. Extensions or workers are missing if their option has taken
back what was there and has given nothing. -/
structure Arguments where
  path : Option String := none
  format : Format := .text
  output : Option String := none
  extensions : Option String := some (",".intercalate Search.standardExtensions)
  workers : Option Int := some 1
  respectRules : Bool := true
  verbose : Bool := false
deriving DecidableEq, Repr

/-! ## Options -/

/-- The options of the command line. -/
inductive Choice where
  | help
  | format
  | output
  | extensions
  | workers
  | noIgnore
  | verbose
deriving DecidableEq, Repr

namespace Choice

def all : List Choice := [.help, .format, .output, .extensions, .workers, .noIgnore, .verbose]

def name : Choice → String
  | .help => "--help"
  | .format => "--format"
  | .output => "--output"
  | .extensions => "--extensions"
  | .workers => "--workers"
  | .noIgnore => "--no-gitignore"
  | .verbose => "--verbose"

/-- Enters the value of an option, if it takes one and admits this one. -/
def enterValue? (c : Choice) (value : String) (a : Arguments) : Option Arguments :=
  match c with
  | .format => (Format.ofName? value).map fun format => { a with format }
  | .output => some { a with output := some value }
  | .extensions => some { a with extensions := some value }
  | .workers => (Number.whole? value.toList).map fun n => { a with workers := some n }
  | .help | .noIgnore | .verbose => none

/-- Enters an option without the value that it takes. A report has then its plain form, and goes
where it goes by itself. -/
def enterNothing (c : Choice) (a : Arguments) : Arguments :=
  match c with
  | .format => { a with format := .text }
  | .output => { a with output := none }
  | .extensions => { a with extensions := none }
  | .workers => { a with workers := none }
  | .help | .noIgnore | .verbose => a

/-- Enters a value that is attached to an option. Two dashes end the options, so they are no
value: they stand for nothing. -/
def enterAttached? (c : Choice) (value : String) (a : Arguments) : Option Arguments :=
  if value = "--" then some (c.enterNothing a) else c.enterValue? value a

/-- Enters an option that takes no value. Help is not an analysis, so nothing is read after it. -/
def enterAlone? (c : Choice) (a : Arguments) : Option Arguments :=
  match c with
  | .noIgnore => some { a with respectRules := false }
  | .verbose => some { a with verbose := true }
  | _ => none

def takesValue : Choice → Bool
  | .format | .output | .extensions | .workers => true
  | .help | .noIgnore | .verbose => false

end Choice

/-! ## Words -/

/-- A word of the command line. A value may be attached to an option by `=`. -/
inductive Word where
  | operand (text : String)
  | choice (c : Choice) (attached : Option String)
deriving DecidableEq, Repr

/-- A negative number, whole or with a point. A line feed at its end does not count. -/
def isNegativeNumber (cs : List Char) : Bool :=
  let isDigit (c : Char) := (Text.digitValue? c).isSome
  match cs with
  | '-' :: rest =>
    let rest := if rest.getLast? = some '\n' then rest.dropLast else rest
    let part :=
      match rest.dropWhile isDigit with
      | '.' :: part => part
      | _ => rest
    !part.isEmpty && part.all isDigit
  | _ => false

/-- Reads a word before any `--`. An option may be shortened as long as no other one begins alike.
Words that begin with a minus and are no option are refused, unless they are negative numbers or
hold a blank. -/
def Word.ofString? (s : String) : Option Word :=
  match s.toList with
  | '-' :: rest@(second :: _) =>
    let cs := '-' :: rest
    let name := cs.takeWhile (· != '=')
    let attached :=
      match cs.drop name.length with
      | [] => none
      | _ :: value => some (String.ofList value)
    let fitting :=
      if second = '-' then Choice.all.filter fun c => name.isPrefixOf c.name.toList
      else if second = 'h' then [.help]
      else []
    match fitting with
    | [c] => some (.choice c attached)
    | _ :: _ :: _ => none
    | [] => if isNegativeNumber cs || cs.contains ' ' then some (.operand s) else none
  | _ => some (.operand s)

namespace Arguments

/-- Reads what follows `--`: the path and nothing else, if it has not come before. -/
def afterSeparator? (a : Arguments) : List String → Option Arguments
  | [] => if a.path.isNone then some a else none
  | [path] => if a.path.isNone then some { a with path := some path } else none
  | _ => none

/-- Reads words after those that `a` was read from. There is one path; right after it `--` may
stand at the end. -/
def readFrom? (a : Arguments) : List String → Option Arguments
  | [] => some a
  | first :: rest =>
    if first = "--" then a.afterSeparator? rest
    else
      match Word.ofString? first with
      | none => none
      | some (.operand path) =>
        if a.path.isSome then none
        else if rest = ["--"] then some { a with path := some path }
        else readFrom? { a with path := some path } rest
      | some (.choice c attached) =>
        if c.takesValue then
          match attached, rest with
          | some value, rest => (c.enterAttached? value a).bind fun a => readFrom? a rest
          | none, value :: rest =>
            if value = "--" then none
            else
              match Word.ofString? value with
              | some (.operand value) => (c.enterValue? value a).bind fun a => readFrom? a rest
              | _ => none
          | none, [] => none
        else if attached.isSome then none
        else (c.enterAlone? a).bind fun a => readFrom? a rest

/-- Reads the command line. -/
def read? (words : List String) : Option Arguments :=
  readFrom? {} words

end Arguments

/-- The extensions in a list with commas: without blanks around them and dots in front, in small
letters, each one once. -/
def extensionsOf (argument : String) : List String :=
  let tokens := (Text.splitOn ',' argument.toList).map fun part =>
    String.ofList (Text.lowercase ((Text.trim part).dropWhile (· == '.')))
  (tokens.filter (· != "")).eraseDups

end DesignMetrics.Command
