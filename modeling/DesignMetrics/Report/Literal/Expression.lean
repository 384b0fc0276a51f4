import DesignMetrics.Report.Literal.Token

/-!
# Expressions

What a value can be written as, told apart as far as values and messages need it, and the parts
that expressions are put together from.
-/

namespace DesignMetrics.Report.Literal

/-- An expression. -/
inductive Expr where
  | number (imaginary : Bool)
  | text (kind : TextKind)
  /-- `True`, `False` or `None`. -/
  | constant (w : String)
  | ellipsis
  | name (w : String)
  | attribute
  /-- A call; `function` is what is called if it is a name and gets no arguments. -/
  | call (function : Option String)
  | tuple (items : List Expr)
  | set (items : List Expr)
  | dict (entries : List Expr)
  /-- An entry of a dictionary. -/
  | entry (key value : Expr)
  /-- What stands for the key where a dictionary is taken over with `**`. -/
  | takenOver
  /-- An expression with a sign. -/
  | signed (e : Expr)
  /-- A sum or a difference. -/
  | sum (left right : Expr)
  | operation
  /-- An expression with `not`, `and` or `or`. -/
  | logical
  /-- A comparison; `isIn` says whether its first operator is `in`. -/
  | comparison (left : Expr) (isIn : Bool)
  | conditional
  /-- An expression behind a star. -/
  | starred (e : Expr)
  /-- An expression that gets a name. -/
  | named
  | function
  /-- Expressions with `for`: by themselves, in a set, and in a dictionary. -/
  | generator
  | setRepetition
  | dictRepetition
  | yielded
  | awaited
deriving Repr

namespace Expr

/-- What messages call an expression. -/
def kind : Expr → String
  | .number _ => "literal"
  | .text .filled => "f-string expression"
  | .text _ => "literal"
  | .constant w => w
  | .ellipsis => "ellipsis"
  | .name _ => "name"
  | .attribute => "attribute"
  | .call _ => "function call"
  | .tuple _ => "tuple"
  | .set _ => "set display"
  | .dict _ => "dict literal"
  | .comparison _ _ => "comparison"
  | .conditional => "conditional expression"
  | .starred _ => "starred"
  | .named => "named expression"
  | .function => "lambda"
  | .generator => "generator expression"
  | .setRepetition => "set comprehension"
  | .dictRepetition => "dict comprehension"
  | .yielded => "yield expression"
  | .awaited => "await expression"
  | .entry _ _ | .takenOver | .signed _ | .sum _ _ | .operation | .logical => "expression"

def name? : Expr → Option String
  | .name w => some w
  | _ => none

mutual

/-- The first part of an expression that cannot be the target of `for`. What stands before `in` is
read as the left side of a comparison. -/
def untargetable? : Expr → Option Expr
  | .name _ | .attribute => none
  | .tuple es => untargetableIn? es
  | .starred e => untargetable? e
  | .comparison left isIn => if isIn then untargetable? left else none
  | e => some e

def untargetableIn? : List Expr → Option Expr
  | [] => none
  | e :: es => (untargetable? e).or (untargetableIn? es)

end
end Expr

/-- How an argument of a call is given: its value alone, taken from a collection, with a name, or
taken from a dictionary. -/
inductive Giving where
  | plain | unpacked | named | namedUnpacked
deriving DecidableEq, Repr

/-- An argument of a call, and the token with which it begins. -/
structure Argument where
  giving : Giving
  place : Nat
deriving DecidableEq, Repr

/-- What is read of a text. -/
inductive Part where
  | nothing
  | token (t : Token)
  | expr (e : Expr)
  | argument (a : Argument)
  | list (ps : List Part)
deriving Repr

namespace Part

def expr? : Part → Option Expr
  | .expr e => some e
  | _ => none

def text? : Part → Option QuotedText
  | .token (.text t) => some t
  | _ => none

def argument? : Part → Option Argument
  | .argument a => some a
  | _ => none

/-- The parts of a list. -/
def parts : Part → List Part
  | .list ps => ps
  | _ => []

/-- The expressions in a list. -/
def exprs (p : Part) : List Expr := p.parts.filterMap expr?

/-- The arguments in a list. -/
def arguments (p : Part) : List Argument := p.parts.filterMap argument?

end Part

/-! ## Words -/

/-- The words that are no names. -/
def keywords : List String := [
  "False", "None", "True", "and", "as", "assert", "async", "await", "break", "class", "continue",
  "def", "del", "elif", "else", "except", "finally", "for", "from", "global", "if", "import", "in",
  "is", "lambda", "nonlocal", "not", "or", "pass", "raise", "return", "try", "while", "with",
  "yield"]

def isName (w : String) : Bool :=
  !keywords.contains w

/-- The functions that were called without brackets in former times. -/
def commands : List String := ["print", "exec"]

/-- The words of which no beginning, where it stands first, makes one think of a missing comma. -/
def openings : List String := ["_", "case", "match"]

end DesignMetrics.Report.Literal
