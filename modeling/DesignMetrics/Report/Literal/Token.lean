import DesignMetrics.Report.Literal.Escape
import DesignMetrics.Text.Name

/-!
# Tokens of literals

The words, numbers, quoted texts and marks that a value is written with. What is wrong with the
characters of one is found when it is cut off from the text.
-/

namespace DesignMetrics.Report.Literal

/-- The brackets that are open, the innermost first, and the lines on which they stand. -/
abbrev OpenBrackets := List (Char × Nat)

/-- How a list of tokens ends. -/
inductive Ending where
  /-- With the text. -/
  | whole
  /-- At characters that make no token. -/
  | broken (f : Fault)
  /-- Where the lines of the text do not go on as they should; the brackets are open there. -/
  | halted (f : Fault) (opened : OpenBrackets)
deriving DecidableEq, Repr

/-- A part of an expression. -/
inductive Token where
  | word (w : String)
  | number (imaginary : Bool)
  | text (t : QuotedText)
  | mark (m : String)
  | lineEnd
  /-- A line that begins with more blanks than the one before it, or with fewer. -/
  | indent
  | dedent
  | stop (e : Ending)
deriving DecidableEq, Repr

/-- A token, how many brackets are open after it, where it begins, and whether the end of the text
is met when it is cut off. -/
structure Lexeme where
  token : Token
  depth : Nat := 0
  line : Nat
  column : Nat
  meetsEnd : Bool := false
deriving DecidableEq, Repr

/-! ## Numbers -/

/-- The words that may follow a number without a blank. -/
def followers : List String := ["and", "else", "for", "if", "in", "is", "or", "not"]

/-- A character of a name as far as ASCII goes; all others are looked at later. -/
def mayBelong (c : Char) : Bool :=
  c.isAlphanum || c = '_' || 128 ≤ c.toNat

/-- Whether a text begins with a word that may follow a number. The ones with two letters of which
the first is `i` need not end there. -/
def beginsFollower (cs : List Char) : Bool :=
  followers.any fun w =>
    w.toList.isPrefixOf cs &&
      (w.toList.head? = some 'i' || !(cs.drop w.length).head?.any mayBelong)

/-- Checks what follows a number, which is given back. -/
def ended (kind : Numeral) (cs : List Char) : Except Fault (List Char) :=
  if cs.head?.any mayBelong && !beginsFollower cs then
    .error (.numeral kind)
  else .ok cs

/-- What follows digits. Single `_` may stand between them. -/
def afterDigits (isDigit : Char → Bool) (kind : Numeral) : List Char → Except Fault (List Char)
  | [] => .ok []
  | '_' :: rest =>
    if rest.head?.any isDigit then afterDigits isDigit kind rest
    else
      match rest with
      | c :: _ => .error (if c.isDigit then .digit c kind else .numeral kind)
      | [] => .error (.numeral kind)
  | c :: rest =>
    if isDigit c then afterDigits isDigit kind rest
    else if c.isDigit then .error (.digit c kind)
    else .ok (c :: rest)

/-- A digit of an octal number. -/
def isOctalDigit (c : Char) : Bool :=
  '0' ≤ c && c < '8'

/-- A digit of a binary number. -/
def isBinaryDigit (c : Char) : Bool :=
  c = '0' || c = '1'

/-- Reads the digits of a number with a base, after the letter of the base. -/
def basedNumber (isDigit : Char → Bool) (kind : Numeral) (cs : List Char) :
    Except Fault (List Char) := do
  let cs ← afterDigits isDigit kind (if cs.head? = some '_' then cs else '_' :: cs)
  ended kind cs

/-- Reads what may follow the digits and the point of a decimal number. -/
def exponent (cs : List Char) : Except Fault (Bool × List Char) := do
  let cs ←
    match cs with
    | e :: rest =>
      if e = 'e' || e = 'E' then
        match rest with
        | s :: digits =>
          if s = '+' || s = '-' then
            if digits.head?.any Char.isDigit then afterDigits Char.isDigit .decimal digits
            else throw (.numeral .decimal)
          else if s.isDigit then afterDigits Char.isDigit .decimal rest
          else pure cs
        | [] => pure cs
      else pure cs
    | [] => pure cs
  match cs with
  | c :: rest =>
    if c = 'j' || c = 'J' then return (true, ← ended .imaginary rest)
    else return (false, ← ended .decimal cs)
  | [] => return (false, [])

/-- Reads a number, which begins with a digit, or with a point and a digit: whether it is
imaginary, and what follows it. -/
def number (cs : List Char) : Except Fault (Bool × List Char) := do
  match cs with
  | '0' :: c :: rest =>
    if c = 'x' || c = 'X' then return (false, ← basedNumber isHexDigit .hexadecimal rest)
    if c = 'o' || c = 'O' then return (false, ← basedNumber isOctalDigit .octal rest)
    if c = 'b' || c = 'B' then return (false, ← basedNumber isBinaryDigit .binary rest)
  | _ => pure ()
  let rest ← afterDigits Char.isDigit .decimal cs
  let whole := cs.take (cs.length - rest.length)
  match rest with
  | '.' :: fraction =>
    exponent (← if fraction.head?.any Char.isDigit then afterDigits Char.isDigit .decimal fraction
      else pure fraction)
  | _ =>
    let goesOn := rest.head?.any fun c => ['e', 'E', 'j', 'J'].contains c
    if whole.head? = some '0' && whole.any (fun c => c != '0' && c != '_') && !goesOn then
      throw .leadingZeros
    exponent rest

/-! ## Quoted texts, names and marks -/

/-- Reads a text up to its closing quotes, three or one: its content and what follows. The line on
which it is given is the one where the text goes on. -/
def quotedContent (quote : Char) (long : Bool) :
    (line : Nat) → List Char → Except Fault (List Char × List Char)
  | line, [] => .error (.unterminated long line)
  | line, '\\' :: c :: rest => do
    let (content, after) ← quotedContent quote long (if c = '\n' then line + 1 else line) rest
    return ('\\' :: c :: content, after)
  | line, c :: rest =>
    if c = quote && (!long || [quote, quote].isPrefixOf rest) then
      .ok ([], if long then rest.drop 2 else rest)
    else if c = '\n' && !long then .error (.unterminated long line)
    else do
      let (content, after) ← quotedContent quote long (if c = '\n' then line + 1 else line) rest
      return (c :: content, after)

/-- Reads a quoted text from its first quote on. The place is the one of the letters before. -/
def quotedText (line column : Nat) (marking : List Char) (quote : Char) (cs : List Char) :
    Except Fault (Token × List Char) := do
  let isLong := [quote, quote, quote].isPrefixOf cs
  let (content, after) ← quotedContent quote isLong line (cs.drop (if isLong then 3 else 1))
  return (.text { marking := marking.map Char.toLower, isLong, content, line, column }, after)

/-- The first character that cannot stand in a name where it stands. -/
def foreignChar? : List Char → Option Char
  | [] => none
  | c :: rest => if Text.isNameStart c then rest.find? (!Text.isNameChar ·) else some c

/-- Marks of several characters, the longest first. -/
def longMarks : List String := [
  "**=", "...", "//=", "<<=", ">>=", "!=", "%=", "&=", "**", "*=", "+=", "-=", "->", "//", "/=",
  ":=", "<<", "<=", "<>", "==", ">=", ">>", "@=", "^=", "|="]

/-- Reads a mark. -/
def mark (c : Char) (rest : List Char) : Except Fault (Token × List Char) :=
  match longMarks.find? (·.toList.isPrefixOf (c :: rest)) with
  | some m => .ok (.mark m, (c :: rest).drop m.length)
  | none => if Text.isPrintable c then .ok (.mark c.toString, rest) else .error (.character c)

/-- Reads a token that is no line end, at a place given. -/
def token (line column : Nat) (c : Char) (rest : List Char) :
    Except Fault (Token × List Char) := do
  let word := (c :: rest).takeWhile mayBelong
  let after := (c :: rest).drop word.length
  if c.isDigit || (c = '.' && rest.head?.any Char.isDigit) then
    let (imaginary, after) ← number (c :: rest)
    return (.number imaginary, after)
  match after with
  | quote :: _ =>
    if (quote = '\'' || quote = '"') &&
        markings.contains (String.ofList (word.map Char.toLower)) then
      return ← quotedText line column word quote after
  | [] => pure ()
  match word with
  | [] => mark c rest
  | _ =>
    match foreignChar? word with
    | some foreign => throw (.character foreign)
    | none => return (.word (String.ofList word), after)

/-- The followers of a number that are looked at as a whole. -/
def longFollowers : List String := ["and", "else", "for", "or", "not"]

/-- Whether the end of a text is met where a token is cut off before the rest. Words, numbers and
marks of one or two characters are followed by a look at the next one. -/
def Token.meetsEnd (rest : List Char) : Token → Bool
  | .word _ => rest = []
  | .number _ => rest = [] || longFollowers.contains (String.ofList rest)
  | .mark m => (rest = [] && m.length < 3) || (m = "." && rest = ['.'])
  | .text t => rest = [] && t.content = [] && !t.isLong
  | _ => false

end DesignMetrics.Report.Literal
