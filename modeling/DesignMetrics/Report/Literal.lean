import DesignMetrics.Report.Literal.Reading
import DesignMetrics.Text.Lines
import DesignMetrics.Text.Trim
import DesignMetrics.Text.Word

/-!
# Literals

A value may be written out: numbers, texts, tuples, sets and dictionaries of them. What is written
with names, calls or operators has no value.
-/

namespace DesignMetrics.Report

/-- Collections that cannot be in a set, or be the key of an entry. -/
inductive Literal.Collection where
  | set | dict
deriving DecidableEq, Repr

/-- Why an expression has no value. -/
inductive Literal.ValueFault where
  /-- A collection that changes stands where values are compared. -/
  | unhashable (c : Collection)
  /-- A dictionary is taken over from another expression. -/
  | takenOver
  | noValue
deriving DecidableEq, Repr

/-- Why a text is no literal: it is not written as one, with or without a place of the fault that
can be told, its parts stand too deep in one another, or it has no value. -/
inductive LiteralError where
  | malformed (f : Literal.Fault)
  | untold
  | exhausted
  | value (f : Literal.ValueFault)
deriving DecidableEq, Repr

namespace Literal

def ValueFault.message : ValueFault → String
  | .unhashable .set => "unhashable type: 'set'"
  | .unhashable .dict => "unhashable type: 'dict'"
  | .takenOver => "malformed node or string: None"
  | .noValue => "malformed node or string"

end Literal

def LiteralError.message : LiteralError → String
  | .malformed f => f.message
  | .untold => "Negative size passed to PyUnicode_New"
  | .exhausted => ""
  | .value f => f.message

namespace Literal
namespace Expr

/-- Whether the expression is a number, and an imaginary one. -/
def number? : Expr → Option Bool
  | .number imaginary => some imaginary
  | _ => none

/-- Whether the expression is a number with a sign or none, and an imaginary one. -/
def signedNumber? : Expr → Option Bool
  | .signed e => e.number?
  | e => e.number?

mutual

/-- The first collection in a value that cannot be compared. -/
def collection? : Expr → Option Collection
  | .set _ => some .set
  | .dict _ => some .dict
  | .call _ => some .set
  | .tuple es => collectionIn? es
  | _ => none

def collectionIn? : List Expr → Option Collection
  | [] => none
  | e :: es => (collection? e).or (collectionIn? es)

end

/-- Checks that a value may be compared with others. -/
def compared (e : Expr) : Except ValueFault Unit :=
  match e.collection? with
  | some c => .error (.unhashable c)
  | none => .ok ()

mutual

/-- Checks that an expression has a value. A sum has one if it is a complex number with its two
parts. The keys of a dictionary are compared. -/
def evaluated : Expr → Except ValueFault Unit
  | .number _ | .constant _ | .ellipsis => .ok ()
  | .text kind => if kind = .filled then .error .noValue else .ok ()
  | .call callee => if callee = some "set" then .ok () else .error .noValue
  | .signed e => if e.number?.isSome then .ok () else .error .noValue
  | .sum l r =>
    if l.signedNumber? = some false && r.number? = some true then .ok () else .error .noValue
  | .tuple es => evaluatedEach false es
  | .set es => evaluatedEach true es
  | .dict es => evaluatedEach false es
  | .entry key value => do
    evaluated key
    evaluated value
    compared key
  | .takenOver => .error .takenOver
  | _ => .error .noValue

/-- Checks the parts of a collection; those of a set are compared. -/
def evaluatedEach (isSet : Bool) : List Expr → Except ValueFault Unit
  | [] => .ok ()
  | e :: es => do
    evaluated e
    if isSet then compared e
    evaluatedEach isSet es

end
end Expr

/-- Checks that a text is a literal. -/
def check (cs : List Char) : Except LiteralError Unit := do
  let e ← (Expr.ofText (Text.unifyNewlines cs)).mapError fun
    | .fault f => .malformed f
    | .untold => .untold
    | .exhausted => .exhausted
  e.evaluated.mapError .value

/-- The arguments of a handler, which is written as a name with points in it and brackets around
the arguments: the brackets with all between them, and empty ones if there are none. A text of
another form is given back. -/
def argumentsOf (cs : List Char) : List Char :=
  let rest := cs.dropWhile fun c => Text.isWord c || c = '.'
  match rest with
  | [] => "()".toList
  | '(' :: _ => if rest.getLast? = some ')' && !rest.contains '\n' then rest else cs
  | _ => cs

end Literal
end DesignMetrics.Report
