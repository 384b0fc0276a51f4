import DesignMetrics.Report.Literal.Field
import DesignMetrics.Report.Literal.Grammar
import DesignMetrics.Report.Literal.Layout
import DesignMetrics.Report.Literal.Reader

/-!
# Reading expressions

A text is read without care at first. If it cannot be read so, it is read again, and the first
suspicion that comes true says what is wrong. Filled texts are read field by field, each field as
a text of its own.
-/

namespace DesignMetrics.Report.Literal

/-! ## Sources -/

/-- How many levels there are for reading. -/
def maxLevels : Nat := 6000

namespace Source

/-- Whether the end of the text has been met with a number of tokens. -/
def meetsEnd (s : Source) (seen : Nat) : Bool := (s.lexemes.toList.take seen).any (·.meetsEnd)

/-- The fault to tell after one has been found and a number of tokens looked at. A token that
cannot be made goes before it, and so does a bracket that is still open at the end and stands on
an earlier line than the last token looked at. -/
def told (s : Source) (f : Fault) (seen : Nat) : Fault :=
  match (s.lexeme (s.lexemes.size - 1)).token with
  | .stop (.broken g) => g
  | .stop (.halted _ ((opening, line) :: _)) =>
    if line < (s.lexeme (seen - 1)).line then s.blame (.neverClosed opening) else f
  | _ => f

/-- Reads a phrase at the start of a source: the expression, if it is one, and how many tokens have
been looked at. -/
def attempt (s : Source) (careful : Bool) (seen : Nat) (p : Phrase) :
    Except Halt (Option Expr × Nat) :=
  let start : Progress Phrase :=
    { seen, careful, kept := Array.replicate (s.lexemes.size + 1) [] }
  match (Reader.enter Phrase.grammar maxLevels (.rule p) s).run start with
  | .ok (found, progress) => .ok (found.bind Part.expr?, progress.seen)
  | .error (.tokens f) => .error (.fault f)
  | .error (.found f seen) => .error (.fault (if s.meetsEnd seen then f else s.told f seen))
  | .error (.other h) => .error h

/-- Reads a phrase at the start of a source, or finds out what is wrong. -/
def read (s : Source) (p : Phrase) : Except Halt Expr := do
  match ← s.attempt false 0 p with
  | (some e, _) => return e
  | (none, seen) => do
    let (_, later) ← s.attempt true seen p
    let last := s.lexeme (seen - 1)
    if last.token = .indent then throw (.fault .indented)
    let own := s.blame .misplaced
    let f := s.told own later
    throw (if f = own && !s.tells (seen - 1) then .untold else .fault f)

end Source

/-! ## Texts -/

namespace QuotedText

/-- The line and the column of a field, given what stands before its expression, with the brace at
its end, and the expression. The columns before the brace do not count if the expression begins on
the next line. -/
def fieldPlace (t : QuotedText) (before expr : List Char) : Nat × Nat :=
  let lines := before.count '\n'
  let own := width ((before.dropLast.reverse).takeWhile (· != '\n'))
  let inset := if lines = 0 then t.marking.length + if t.isLong then 3 else 1 else 0
  let beginsLater := (expr.dropWhile isGap).head? = some '\n'
  (t.line + lines,
    (if lines = 0 then t.column else 0) + if beginsLater then 0 else own + inset)

/-- Checks the fields of a filled text; `read` reads an expression from a place on. -/
def checkFields (t : QuotedText) (read : Nat × Nat → List Char → Except Halt Unit) :
    Except TextFault Unit := do
  let reader : FieldReader := {
    isRaw := t.isRaw
    piece := fun cs => if t.isRaw then none else escapeFault? cs
    expr := fun cs after =>
      let before := t.content.take (t.content.length - (cs ++ after).length)
      read (t.fieldPlace before cs) ('(' :: cs ++ [')', '\n']) }
  let _ ← reader.check 0 t.content (t.content.length + 1)

end QuotedText

/-- Checks texts that follow one another, given whether those before them are bytes. -/
def checkTexts (read : Nat × Nat → List Char → Except Halt Unit) (areBytes : Option Bool) :
    List QuotedText → Except TextFault Unit
  | [] => .ok ()
  | t :: ts => do
    if let some f := t.fault? then throw (.own f)
    let isBytes := decide (t.kind = .bytes)
    if areBytes.any (· != isBytes) then throw (.own .mixedTexts)
    if t.kind = .filled then t.checkFields read
    checkTexts read (some isBytes) ts

/-- The kind of checked texts that follow one another. -/
def joinedKind (ts : List QuotedText) : TextKind :=
  if ts.any (·.kind = .filled) then .filled else (ts.head?.map (·.kind)).getD .plain

/-- How texts are joined where they stand at most so deep in one another. -/
def joined : (depth : Nat) → List QuotedText → Except TextFault TextKind
  | 0, _ => .error (.inField .exhausted)
  | depth + 1, ts => do
    let read (place : Nat × Nat) (cs : List Char) : Except Halt Unit := do
      let source : Source := {
        lexemes := (lexemes place.1 place.2 cs).toArray
        isWithin := true
        column := place.2
        joined := joined depth }
      let _ ← source.read .inField
    checkTexts read none ts
    return joinedKind ts

/-- Reads a text as an expression. What stands in a field is shorter than the text around it. -/
def Expr.ofText (cs : List Char) : Except Halt Expr :=
  let source : Source := {
    lexemes := (lexemes 1 0 cs).toArray
    isWithin := false
    column := 0
    joined := joined (cs.length + 1) }
  source.read .whole

end DesignMetrics.Report.Literal
