import DesignMetrics.Report.Literal.Token

/-!
# Layout of literals

A text is cut into tokens line by line. Brackets are matched, and blanks at the start of a line
count where no bracket is open.
-/

namespace DesignMetrics.Report.Literal

/-! ## Brackets -/

/-- How deep brackets may stand in one another. -/
def maxDepth : Nat := 200

/-- The open brackets after a token on a line. -/
def OpenBrackets.after (opened : OpenBrackets) (line : Nat) : Token → Except Fault OpenBrackets
  | .mark "(" => if opened.length < maxDepth then .ok (('(', line) :: opened) else .error .tooDeep
  | .mark "\x7b" =>
    if opened.length < maxDepth then .ok (('\x7b', line) :: opened) else .error .tooDeep
  | .mark ")" => close ')' '('
  | .mark "\x7d" => close '\x7d' '\x7b'
  | _ => .ok opened
where
  close (closing opening : Char) : Except Fault OpenBrackets :=
    match opened with
    | [] => .error (.unmatched closing)
    | (found, place) :: rest =>
      if found = opening then .ok rest
      else .error (.mismatched closing found (if place = line then none else some place))

/-- The fault of a text that ends where it should go on. -/
def OpenBrackets.ending : OpenBrackets → Fault
  | [] => .endOfText
  | (opening, _) :: _ => .neverClosed opening

/-! ## Indentation -/

/-- How far a line is indented, with tabs that reach to the next multiple of eight columns, and
with tabs as wide as blanks. -/
structure Indent where
  columns : Nat
  blanks : Nat
deriving DecidableEq, Repr

/-- The start of a line: its indent, and what follows at which place. -/
structure LineStart where
  indent : Indent
  line : Nat
  column : Nat
  rest : List Char

/-- Reads blanks at the start of a line. Where lines are joined, the blanks before the first joint
count, if there are any. -/
def lineStart (opened : OpenBrackets) (found : Indent) (joint line column : Nat) :
    List Char → Except Fault LineStart
  | ' ' :: cs =>
    lineStart opened ⟨found.columns + 1, found.blanks + 1⟩ joint line (column + 1) cs
  | '\t' :: cs =>
    lineStart opened ⟨(found.columns / 8 + 1) * 8, found.blanks + 1⟩ joint line (column + 1) cs
  | '\x0c' :: cs => lineStart opened ⟨0, 0⟩ joint line (column + 1) cs
  | '\\' :: '\n' :: c :: cs =>
    lineStart opened found (if joint = 0 then found.columns else joint) (line + 1) 0 (c :: cs)
  | ['\\', '\n'] => .error opened.ending
  | '\\' :: _ => .error .backslash
  | cs => .ok ⟨if joint = 0 then found else ⟨joint, joint⟩, line, column, cs⟩

/-- The indents of the lines around, the nearest first, after a line with an indent. -/
def indentsAfter (indent : Indent) : List Indent → Except Fault (List Token × List Indent)
  | [] =>
    if indent.columns = 0 then if indent.blanks = 0 then .ok ([], []) else .error .mixedIndent
    else if indent.blanks = 0 then .error .mixedIndent
    else .ok ([.indent], [indent])
  | nearest :: others =>
    if indent.columns = nearest.columns then
      if indent.blanks = nearest.blanks then .ok ([], nearest :: others) else .error .mixedIndent
    else if nearest.columns < indent.columns then
      if indent.blanks ≤ nearest.blanks then .error .mixedIndent
      else .ok ([.indent], indent :: nearest :: others)
    else leave others
where
  /-- Leaves lines that are indented further. -/
  leave : List Indent → Except Fault (List Token × List Indent)
    | [] =>
      if indent.columns ≠ 0 then .error .unevenIndent
      else if indent.blanks ≠ 0 then .error .mixedIndent
      else .ok ([.dedent], [])
    | outer :: others =>
      if indent.columns < outer.columns then
        (leave others).map fun (tokens, indents) => (.dedent :: tokens, indents)
      else if indent.columns ≠ outer.columns then .error .unevenIndent
      else if indent.blanks ≠ outer.blanks then .error .mixedIndent
      else .ok ([.dedent], outer :: others)

/-! ## Tokens -/

/-- What is known where a text is cut. -/
structure Layout where
  opened : OpenBrackets := []
  line : Nat
  column : Nat
  indents : List Indent := []
  /-- Whether a line begins here. -/
  atStart : Bool := true
  /-- Whether the line holds nothing, up to here. -/
  isBlank : Bool := false

/-- The width of characters where columns are counted: the bytes that they take. -/
def width (cs : List Char) : Nat := cs.foldl (fun n c => n + c.utf8Size) 0

/-- A blank between tokens. -/
def isGap (c : Char) : Bool :=
  c = ' ' || c = '\t' || c = '\x0c'

namespace Layout

/-- The end of the tokens. -/
def stop (l : Layout) (e : Ending) : List Lexeme :=
  [{ token := .stop e, line := l.line, column := l.column }]

/-- The end of the tokens where the lines do not go on. -/
def halt (l : Layout) (f : Fault) : List Lexeme := l.stop (.halted f l.opened)

/-- The layout after the blanks at the start of a line, the tokens that they make, and what
follows. -/
def start (l : Layout) (cs : List Char) : Except Fault (Layout × List Lexeme × List Char) := do
  let found ← lineStart l.opened ⟨0, 0⟩ 0 l.line l.column cs
  let l := { l with line := found.line, column := found.column, atStart := false }
  if found.rest.head?.any fun c => c = '#' || c = '\n' then
    return ({ l with isBlank := true }, [], found.rest)
  if !l.opened.isEmpty then return (l, [], found.rest)
  let (tokens, indents) ← indentsAfter found.indent l.indents
  let place (token : Token) : Lexeme := { token, line := l.line, column := l.column }
  return ({ l with indents }, tokens.map place, found.rest)

/-- The layout after a line end. -/
def nextLine (l : Layout) : Layout :=
  { l with line := l.line + 1, column := 0, atStart := true, isBlank := false }

/-- The layout after characters that do not begin a line. -/
def after (l : Layout) (cs : List Char) : Layout :=
  let last := cs.reverse.takeWhile (· != '\n')
  if last.length = cs.length then { l with column := l.column + width cs }
  else { l with line := l.line + cs.count '\n', column := width last }

/-- Cuts a text in at most as many steps as the last argument says. Line ends count where no
bracket is open and the line is not blank. -/
def lexemes (l : Layout) (cs : List Char) : Nat → List Lexeme
  | 0 => l.stop .whole
  | n + 1 =>
    if l.atStart then
      match l.start cs with
      | .error f => l.halt f
      | .ok (l, found, rest) => found ++ l.lexemes rest n
    else
      let l := l.after (cs.takeWhile isGap)
      match cs.dropWhile isGap with
      | [] => if l.opened.isEmpty then l.stop .whole else l.halt l.opened.ending
      | '#' :: rest => l.lexemes (rest.dropWhile (· != '\n')) n
      | '\n' :: rest =>
        let later := l.nextLine.lexemes rest n
        if l.isBlank || !l.opened.isEmpty then later
        else { token := .lineEnd, line := l.line, column := l.column } :: later
      | ['\\', '\n'] => l.halt l.opened.ending
      | '\\' :: '\n' :: rest => (l.after ['\n']).lexemes rest n
      | '\\' :: _ => l.halt .backslash
      | c :: rest =>
        let result := do
          let (found, after) ← token l.line l.column c rest
          return (found, ← l.opened.after l.line found, after)
        match result with
        | .error f => l.stop (.broken f)
        | .ok (found, opened, after) =>
          let later := l.after ((c :: rest).take (rest.length + 1 - after.length))
          ⟨found, opened.length, l.line, l.column, found.meetsEnd after⟩ ::
            { later with opened }.lexemes after n

end Layout

/-- The tokens of a text that begins at a place. Every step takes a character or begins a line. -/
def lexemes (line column : Nat) (cs : List Char) : List Lexeme :=
  Layout.lexemes { line, column } cs (2 * cs.length + 2)

end DesignMetrics.Report.Literal
