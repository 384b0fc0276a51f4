import DesignMetrics.Report.Literal
import DesignMetrics.Report.Style.Theme
import DesignMetrics.Report.StyledText
import DesignMetrics.Text.Quoted

/-!
# Style tags

Cells of tables may hold tags in brackets, which open and close styles. What stands outside the
tags is shown in the styles that are open there.

A cell may also hold emoji codes such as `:cat:`, in the place of which the emoji is shown. They are
left out here: the names and paths that cells are made of are taken to hold none.
-/

namespace DesignMetrics.Report.Markup

/-- A style tag: what stands between its brackets, cut at the first `=`. -/
structure Tag where
  name : List Char
  parameters : Option (List Char)
deriving DecidableEq, Repr

namespace Tag

def ofContent (content : List Char) : Tag :=
  { name := content.takeWhile (· != '=')
    parameters :=
      match content.dropWhile (· != '=') with
      | [] => none
      | _ :: rest => some rest }

/-- The tag as it was written. -/
def toText (t : Tag) : List Char :=
  '[' :: t.name ++ (t.parameters.elim [] fun p => '=' :: p) ++ [']']

end Tag

/-- A part of a text with style tags. -/
inductive Piece where
  | text (cs : List Char)
  | tag (position : Nat) (t : Tag)
deriving DecidableEq, Repr

/-- Why a text with style tags cannot be shown. -/
inductive MarkupError where
  /-- A closing tag names no style that is open. -/
  | unmatched (t : Tag) (position : Nat)
  | nothingOpen (position : Nat)
  /-- The parameters of a handler mean nothing; `part` is what was read of them. -/
  | handler (parameters part : List Char) (e : LiteralError)
  /-- A mixed color in which a part is left out. -/
  | color
deriving DecidableEq, Repr

def MarkupError.message : MarkupError → String
  | .unmatched t position =>
    "closing tag '" ++ String.ofList t.toText ++ "' at position " ++ position.repr ++
      " doesn't match any open tag"
  | .nothingOpen position =>
    "closing tag '[/]' at position " ++ position.repr ++ " has nothing to close"
  | .handler parameters part e =>
    let place :=
      match e with
      | .malformed _ =>
        Text.quoted (String.ofList part) ++ " in " ++ Text.quoted (String.ofList parameters)
      | .untold | .exhausted | .value _ => Text.quoted (String.ofList parameters)
    "error parsing " ++ place ++ "; " ++ e.message
  | .color => "invalid literal for int() with base 10: ''"

/-- The first character of a tag. Others than these stand between brackets as text. -/
def startsTag (c : Char) : Bool :=
  c.isLower || c = '#' || c = '/' || c = '@'

/-- The content of a tag whose `[` was read before: it reaches to the first `]`, and no `[` stands
before that. -/
def content? (cs : List Char) : Option (List Char) :=
  let content := cs.takeWhile fun c => c != ']' && c != '['
  match content, cs.drop content.length with
  | c :: _, ']' :: _ => if startsTag c then some content else none
  | _, _ => none

/-- A tag and the backslashes in front of it, and how many characters they take. Two backslashes
make one, and one left over makes text of the tag. -/
def tagged? (position : Nat) (cs : List Char) : Option (List Piece × Nat) :=
  let slashes := (cs.takeWhile (· == '\\')).length
  match cs.drop slashes with
  | '[' :: rest =>
    (content? rest).map fun content =>
      let shown := if slashes < 2 then [] else [Piece.text (List.replicate (slashes / 2) '\\')]
      let last :=
        if slashes % 2 = 1 then Piece.text ('[' :: content ++ [']'])
        else Piece.tag (position + slashes / 2 * 2) (Tag.ofContent content)
      (shown ++ [last], slashes + content.length + 2)
  | _ => none

/-- Puts a character in front of the text that comes first. -/
def consText (c : Char) : List Piece → List Piece
  | .text cs :: rest => .text (c :: cs) :: rest
  | pieces => .text [c] :: pieces

/-- The pieces of a text that stands at a position; the first `skip` characters belong to a tag
read before. -/
def piecesFrom : (skip position : Nat) → List Char → List Piece
  | _, _, [] => []
  | skip + 1, position, _ :: cs => piecesFrom skip (position + 1) cs
  | 0, position, c :: cs =>
    match tagged? position (c :: cs) with
    | some (found, size) => found ++ piecesFrom (size - 1) (position + 1) cs
    | none => consText c (piecesFrom 0 (position + 1) cs)

/-- A backslash before a bracket that starts no tag is left out. -/
def unescape : List Char → List Char
  | [] => []
  | '\\' :: '[' :: rest => '[' :: unescape rest
  | c :: rest => c :: unescape rest

/-- Terminal controls that are never shown: bell, backspace, vertical tab, form feed and carriage
return. -/
def isControl (c : Char) : Bool :=
  ['\x07', '\x08', '\x0b', '\x0c', '\x0d'].contains c

/-- What is shown of a text. -/
def visible (cs : List Char) : List Char :=
  (unescape cs).filter fun c => !isControl c

/-! ## Opening and closing -/

/-- The name of a style, the same for all texts that define the same one. -/
def styleName (cs : List Char) : Except MarkupError (List Char) :=
  match Style.ofDefinition cs with
  | .ok s => .ok s.definition
  | .error .unknown => .ok (Text.lowercase (Text.trim cs))
  | .error .emptyPart => .error .color

/-- A tag that has been opened, and where its style begins. -/
structure OpenTag where
  name : List Char
  parameters : Option (List Char)
  start : Nat
deriving DecidableEq, Repr

namespace OpenTag

/-- The text that calls for the style of a tag. -/
def styleText (t : OpenTag) : List Char :=
  t.name ++ t.parameters.elim [] (' ' :: ·)

/-- The span of a tag that ends at a position. -/
def span (t : OpenTag) (stop : Nat) : Span (List Char) := ⟨t.start, stop, t.styleText⟩

/-- What is checked when a tag is closed: the parameters of a handler, whose name begins with
`@`, are a name with arguments or a value. -/
def check (t : OpenTag) : Except MarkupError Unit :=
  match t.name, t.parameters with
  | '@' :: _, some (c :: cs) =>
    let part := Literal.argumentsOf (Text.trim (c :: cs))
    match Literal.check part with
    | .ok () => .ok ()
    | .error e => .error (.handler (c :: cs) part e)
  | _, _ => .ok ()

end OpenTag

/-- The latest open tag with a name, and the other open ones. -/
def takeNamed? (name : List Char) : List OpenTag → Option (OpenTag × List OpenTag)
  | [] => none
  | t :: rest =>
    if t.name = name then some (t, rest)
    else (takeNamed? name rest).map fun (found, others) => (found, t :: others)

/-- Reads pieces, given the tags that are open, the latest first, and how much text stands before.
A closing tag closes the latest open one of its name, or the latest of all if it has no name. Spans
come in the order in which they are closed; what is never closed ends with the text. -/
def readFrom (opened : List OpenTag) (position : Nat) :
    List Piece → Except MarkupError (List Char × List (Span (List Char)))
  | [] => .ok ([], opened.map (·.span position))
  | .text cs :: rest => do
    let shown := visible cs
    let (chars, spans) ← readFrom opened (position + shown.length) rest
    return (shown ++ chars, spans)
  | .tag place t :: rest =>
    match t.name with
    | '/' :: name => do
      let (found, others) ←
        if Text.trim name = [] then
          match opened with
          | [] => throw (.nothingOpen place)
          | found :: others => pure (found, others)
        else
          match takeNamed? (← styleName (Text.trim name)) opened with
          | some result => pure result
          | none => throw (.unmatched t place)
      found.check
      let (chars, spans) ← readFrom others position rest
      return (chars, found.span position :: spans)
    | name => do readFrom (⟨← styleName name, t.parameters, position⟩ :: opened) position rest

/-- Reads a text with style tags. Of two spans that begin together, the one that ends later comes
first. -/
def read (cs : List Char) : Except MarkupError (StyledText (List Char)) := do
  let (chars, spans) ← readFrom [] 0 (piecesFrom 0 0 cs)
  return { chars, spans := sortBy (fun a b => decide (a.start ≤ b.start)) spans.reverse }

/-- The text with the styles that its tags call for. -/
def resolve (t : StyledText (List Char)) : Except MarkupError (StyledText Style) :=
  t.mapStyles fun cs => (Style.called cs).mapError fun _ => .color

end DesignMetrics.Report.Markup
