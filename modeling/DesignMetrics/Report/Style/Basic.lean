import DesignMetrics.Report.Style.Color

/-!
# Styles

How text looks in a terminal. A style is defined by words, and shown by codes around the text.
-/

namespace DesignMetrics.Report

/-- What a style may switch on or off. -/
inductive Effect where
  | bold
  | dim
  | italic
  | underline
  | blink
  | fastBlink
  | reverse
  | conceal
  | strike
  | doubleUnderline
  | frame
  | encircle
  | overline
deriving DecidableEq, Repr

namespace Effect

def all : List Effect :=
  [.bold, .dim, .italic, .underline, .blink, .fastBlink, .reverse, .conceal, .strike,
    .doubleUnderline, .frame, .encircle, .overline]

def name : Effect → String
  | .bold => "bold"
  | .dim => "dim"
  | .italic => "italic"
  | .underline => "underline"
  | .blink => "blink"
  | .fastBlink => "blink2"
  | .reverse => "reverse"
  | .conceal => "conceal"
  | .strike => "strike"
  | .doubleUnderline => "underline2"
  | .frame => "frame"
  | .encircle => "encircle"
  | .overline => "overline"

/-- The code that switches an effect on. -/
def code : Effect → Nat
  | .bold => 1
  | .dim => 2
  | .italic => 3
  | .underline => 4
  | .blink => 5
  | .fastBlink => 6
  | .reverse => 7
  | .conceal => 8
  | .strike => 9
  | .doubleUnderline => 21
  | .frame => 51
  | .encircle => 52
  | .overline => 53

/-- The short words for effects. -/
def shortNames : List (String × Effect) :=
  [("d", .dim), ("b", .bold), ("i", .italic), ("u", .underline), ("r", .reverse), ("c", .conceal),
    ("s", .strike), ("uu", .doubleUnderline), ("o", .overline)]

/-- The effect that a word stands for. -/
def ofWord? (word : List Char) : Option Effect :=
  let word := String.ofList word
  (all.find? (·.name = word)).or (shortNames.lookup word)

end Effect

/-- How text looks: the effects that are switched on or off, the latest first, the colors of the
letters and of what is behind them, and where a click leads. -/
structure Style where
  effects : List (Effect × Bool) := []
  color : Option Color := none
  background : Option Color := none
  link : Option (List Char) := none
deriving DecidableEq, Repr

namespace Style

def italic : Style := { effects := [(.italic, true)] }

def bold : Style := { effects := [(.bold, true)] }

/-! ## Definitions -/

/-- Reads the words of a definition into a style. Two words make an effect that is switched off, a
color behind the letters, or a link. -/
def ofWords (s : Style) : List (List Char) → Except ColorError Style
  | [] => .ok s
  | [word] =>
    match Effect.ofWord? (Text.lowercase word) with
    | some e => .ok { s with effects := (e, true) :: s.effects }
    | none => (Color.ofText word).map fun c => { s with color := some c }
  | word :: second :: rest =>
    let word := Text.lowercase word
    if word = "on".toList then
      match Color.ofText second with
      | .ok c => ofWords { s with background := some c } rest
      | .error e => .error e
    else if word = "not".toList then
      match Effect.ofWord? second with
      | some e => ofWords { s with effects := (e, false) :: s.effects } rest
      | none => .error .unknown
    else if word = "link".toList then ofWords { s with link := some second } rest
    else
      match Effect.ofWord? word with
      | some e => ofWords { s with effects := (e, true) :: s.effects } (second :: rest)
      | none =>
        match Color.ofText word with
        | .ok c => ofWords { s with color := some c } (second :: rest)
        | .error e => .error e

/-- Reads a definition: words between blanks, or `none`. -/
def ofDefinition (cs : List Char) : Except ColorError Style :=
  if Text.trim cs = "none".toList then .ok {} else ofWords {} (Text.wordsOf cs)

/-- The definition of a style, in an order that does not depend on how it was written. -/
def definition (s : Style) : List Char :=
  let effects := Effect.all.filterMap fun e =>
    (s.effects.lookup e).map fun on => (if on then e.name else "not " ++ e.name).toList
  let color := (s.color.map Color.name).toList
  let background := (s.background.map fun c => "on ".toList ++ c.name).toList
  let link := (s.link.map fun target => "link ".toList ++ target).toList
  match effects ++ color ++ background ++ link with
  | [] => "none".toList
  | words => [' '].intercalate words

/-! ## Showing -/

/-- One style over another: what the upper one says holds. -/
def onto (upper lower : Style) : Style :=
  { effects := upper.effects ++ lower.effects
    color := upper.color.or lower.color
    background := upper.background.or lower.background
    link := upper.link.or lower.link }

/-- The codes that switch a style on. -/
def codes (s : Style) : List Nat :=
  (Effect.all.filter fun e => s.effects.lookup e = some true).map Effect.code ++
    (s.color.elim [] fun c => c.shade.codes 30) ++
    (s.background.elim [] fun c => c.shade.codes 40)

/-- Text between the codes that switch a style on and the one that switches all off. -/
def shown (s : Style) (cs : List Char) : List Char :=
  if s.codes = [] ∨ cs = [] then cs
  else
    '\x1b' :: '[' :: (";".intercalate (s.codes.map Nat.repr)).toList ++ 'm' :: cs ++
      ['\x1b', '[', '0', 'm']

end Style
end DesignMetrics.Report
