import DesignMetrics.Report.Literal.Escape

/-!
# Fields of filled texts

A filled text has fields between braces. A field holds an expression, then possibly `=`, a
conversion behind `!`, and a format behind `:`, which may have fields itself. Two braces in a row
stand for one.
-/

namespace DesignMetrics.Report.Literal

def isBrace (c : Char) : Bool :=
  c = '\x7b' || c = '\x7d'

/-! ## Pieces between fields -/

/-- Where in a piece of text a character stands: anywhere, behind a backslash, behind the letter of
a name, or in the name. -/
inductive PiecePlace where
  | anywhere | escaped | naming | inName
deriving DecidableEq, Repr

/-- The place after a character. There is none after a brace that ends the piece. -/
def PiecePlace.after? (isRaw : Bool) (c : Char) : PiecePlace → Option PiecePlace
  | .anywhere =>
    if c = '\\' && !isRaw then some .escaped else if isBrace c then none else some .anywhere
  | .escaped => if c = 'N' then some .naming else if isBrace c then none else some .anywhere
  | .naming => some (if c = '\x7b' then .inName else .anywhere)
  | .inName => some (if c = '\x7d' then .anywhere else .inName)

/-- Cuts a text before the first brace that counts. -/
def pieceOf (isRaw : Bool) : PiecePlace → List Char → List Char × List Char
  | _, [] => ([], [])
  | place, c :: rest =>
    match place.after? isRaw c with
    | none => ([], c :: rest)
    | some place =>
      let (piece, after) := pieceOf isRaw place rest
      (c :: piece, after)

/-! ## Expressions in fields -/

/-- What is open in an expression: a quote, one or three times, or brackets, the innermost
first. -/
structure OpenParts where
  quote : Option (Char × Bool) := none
  brackets : List Char := []

/-- How deep brackets may stand in one another in a field. -/
def maxFieldDepth : Nat := 200

/-- The bracket that a closing one belongs to. -/
def openingOf (closing : Char) : Char :=
  if closing = ')' then '(' else '\x7b'

/-- What a character means for the expression in which it stands. -/
inductive FieldStep where
  /-- The expression ends before the character. -/
  | stop
  /-- It goes on, and the next characters belong to this one. -/
  | goOn (o : OpenParts) (more : Nat)

/-- What a character means where no quote is open. -/
def OpenParts.step (o : OpenParts) (c : Char) (rest : List Char) : Except FieldFault FieldStep :=
  if c = '\'' || c = '"' then
    let isLong := [c, c].isPrefixOf rest
    .ok (.goOn { o with quote := some (c, isLong) } (if isLong then 2 else 0))
  else if c = '\x7b' || c = '(' then
    if o.brackets.length < maxFieldDepth then
      .ok (.goOn { o with brackets := c :: o.brackets } 0)
    else .error .tooManyBrackets
  else if c = '#' then .error .comment
  else if o.brackets = [] && ['!', '=', '<', '>'].contains c && rest.head? = some '=' then
    .ok (.goOn o 1)
  else if o.brackets = [] && ['!', ':', '\x7d', '='].contains c then .ok .stop
  else if c = '\x7d' || c = ')' then
    match o.brackets with
    | [] => .error (.unmatched c)
    | opening :: others =>
      if opening = openingOf c then .ok (.goOn { o with brackets := others } 0)
      else .error (.mismatched c opening)
  else .ok (.goOn o 0)

/-- What a character means where a quote is open. -/
def OpenParts.stepQuoted (o : OpenParts) (quote : Char) (isLong : Bool) (c : Char)
    (rest : List Char) : FieldStep :=
  if c = quote && (!isLong || [c, c].isPrefixOf rest) then
    .goOn { o with quote := none } (if isLong then 2 else 0)
  else .goOn o 0

/-- Cuts a text after the expression with which it begins. The first `skip` characters are known to
belong to it. -/
def expressionOf : OpenParts → (skip : Nat) → List Char → Except FieldFault (List Char × List Char)
  | { quote := some _, .. }, _, [] => .error .unterminated
  | { brackets := opening :: _, .. }, _, [] => .error (.unmatched opening)
  | _, _, [] => .error .unclosed
  | o, skip + 1, c :: rest => do
    let (found, after) ← expressionOf o skip rest
    return (c :: found, after)
  | o, 0, c :: rest => do
    if c = '\\' then throw .backslash
    let step ←
      match o.quote with
      | some (quote, isLong) => pure (o.stepQuoted quote isLong c rest)
      | none => o.step c rest
    match step with
    | .stop => return ([], c :: rest)
    | .goOn o more => do
      let (found, after) ← expressionOf o more rest
      return (c :: found, after)

/-- The fault of an expression that is blank and ends before a character. -/
def blankFault? (expr : List Char) (stop : Option Char) : Option FieldFault :=
  if expr.all fun c => [' ', '\t', '\n', '\x0c'].contains c then
    match stop with
    | some '!' => some (.nothingBefore '!')
    | some ':' => some (.nothingBefore ':')
    | some '=' => some (.nothingBefore '=')
    | _ => some .empty
  else none

/-! ## Fields -/

/-- A blank that may follow `=` in a field. -/
def isFieldBlank (c : Char) : Bool :=
  c = ' ' || ('\t' ≤ c && c ≤ '\x0d')

/-- What follows `=` with the blanks after it, if it is there. -/
def afterEqual : List Char → Except FieldFault (List Char)
  | '=' :: rest =>
    match rest.dropWhile isFieldBlank with
    | [] => .error .unclosed
    | after => .ok after
  | cs => .ok cs

/-- What follows `!` with the letter of a conversion, if they are there. -/
def afterConversion : List Char → Except FieldFault (List Char)
  | ['!'] => .error .unclosed
  | '!' :: c :: rest => if ['s', 'r', 'a'].contains c then .ok rest else .error .conversion
  | cs => .ok cs

/-- What follows a field up to its closing brace. -/
def afterField : List Char → Except FieldFault (List Char)
  | '\x7d' :: rest => .ok rest
  | _ => .error .unclosed

/-- How deep fields may stand in one another. -/
def maxNesting : Nat := 2

/-- How the parts of a filled text are checked: its pieces, and its expressions with what follows
them in the text. -/
structure FieldReader where
  isRaw : Bool
  piece : List Char → Option Fault
  expr : List Char → List Char → Except Halt Unit

namespace FieldReader

def checkPiece (r : FieldReader) (cs : List Char) : Except TextFault Unit :=
  match r.piece cs with
  | some f => .error (.own f)
  | none => .ok ()

/-- Checks a text up to its end, or up to the brace that ends the field around it; gives back what
follows. At most as many parts are read as the last argument says. -/
def check (r : FieldReader) (nesting : Nat) (cs : List Char) : Nat → Except TextFault (List Char)
  | 0 => .ok []
  | n + 1 => do
    let (piece, rest) := pieceOf r.isRaw .anywhere cs
    match rest with
    | [] => do
      r.checkPiece piece
      return []
    | brace :: after => do
      if nesting = 0 && after.head? = some brace then do
        r.checkPiece (piece ++ [brace])
        r.check nesting (after.drop 1) n
      else if brace = '\x7d' then do
        if nesting = 0 then throw (.own (.field .singleBrace))
        r.checkPiece piece
        return rest
      else do
        r.checkPiece piece
        if maxNesting ≤ nesting then throw (.own (.field .tooDeep))
        let (expr, after) ← here (expressionOf {} 0 after)
        if let some f := blankFault? expr after.head? then throw (.own (.field f))
        (r.expr expr after).mapError .inField
        let after ← here (do afterConversion (← afterEqual after))
        let after ←
          match after with
          | ':' :: format => do
            if format = [] then throw (.own (.field .unclosed))
            r.check (nesting + 1) format n
          | _ => pure after
        r.check nesting (← here (afterField after)) n
where
  /-- What a text itself says. -/
  here {α : Type} (e : Except FieldFault α) : Except TextFault α := e.mapError (.own ∘ .field)

end FieldReader
end DesignMetrics.Report.Literal
