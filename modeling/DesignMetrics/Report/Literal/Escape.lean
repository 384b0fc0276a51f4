import DesignMetrics.Report.Literal.Fault
import DesignMetrics.Text.CharacterName

/-!
# Quoted texts in literals

What stands between the quotes of a text may hold escapes, which begin with a backslash. The
letters in front of the quotes say how they are read.
-/

namespace DesignMetrics.Report.Literal

/-- What a quoted text is: characters, bytes, or a text with values filled in. -/
inductive TextKind where
  | plain | bytes | filled
deriving DecidableEq, Repr

/-- The letters that may stand in front of a quote. -/
def markings : List String :=
  ["", "b", "u", "r", "f", "br", "rb", "fr", "rf"]

/-- A quoted text: the letters in front of it, whether it has three quotes at its ends or one, what
stands between them, and where it begins. -/
structure QuotedText where
  marking : List Char
  isLong : Bool
  content : List Char
  line : Nat
  column : Nat
deriving DecidableEq, Repr

namespace QuotedText

def kind (t : QuotedText) : TextKind :=
  if t.marking.contains 'b' then .bytes else if t.marking.contains 'f' then .filled else .plain

/-- Whether backslashes stand for themselves. -/
def isRaw (t : QuotedText) : Bool :=
  t.marking.contains 'r'

end QuotedText

/-- A hexadecimal digit. -/
def isHexDigit (c : Char) : Bool :=
  c.isDigit || ('a' ≤ c && c ≤ 'f') || ('A' ≤ c && c ≤ 'F')

/-- The value of a hexadecimal digit. -/
def hexValue (c : Char) : Nat :=
  if c.isDigit then c.toNat - 48 else c.toLower.toNat - 87

/-- The places that a character takes where places are counted: one beyond ASCII is counted as an
escape with eight digits. -/
def places (c : Char) : Nat :=
  if c.toNat < 128 then 1 else 10

/-- How many digits follow the letter of an escape. -/
def escapeDigits : Char → Nat
  | 'x' => 2
  | 'u' => 4
  | 'U' => 8
  | _ => 0

/-- The fault of an escape with digits that begins at a position; the text after its letter is
given. -/
def digitsFault? (position : Nat) (letter : Char) (cs : List Char) : Option Fault :=
  let digits := (cs.take (escapeDigits letter)).takeWhile isHexDigit
  if digits.length < escapeDigits letter then
    some (.escape position (position + 1 + digits.length) (.truncated letter))
  else if digits.foldl (fun n c => 16 * n + hexValue c) 0 > 0x10FFFF then
    some (.escape position (position + 1 + digits.length) .beyondRange)
  else none

/-- What is wrong with an escape with a name that begins at a position; the text after its letter
is given. -/
def nameFault? (position : Nat) : List Char → Option Fault
  | '\x7b' :: rest =>
    let name := rest.takeWhile (· != '\x7d')
    let stop := position + 2 + name.foldl (fun n c => n + places c) 0
    if name.length = rest.length then some (.escape position stop .unclosedName)
    else if name = [] then some (.escape position stop .unclosedName)
    else if Text.isCharacterName name then none
    else some (.escape position (stop + 1) .unknownName)
  | _ => some (.escape position (position + 1) .unclosedName)

/-- The first faulty escape of a text that stands at a position. The first `skip` characters belong
to an escape. -/
def escapeFaultFrom? : (skip position : Nat) → List Char → Option Fault
  | _, _, [] => none
  | skip + 1, position, c :: rest => escapeFaultFrom? skip (position + places c) rest
  | 0, position, '\\' :: c :: rest =>
    if c = 'N' then
      let name := rest.takeWhile (· != '\x7d')
      (nameFault? position rest).or (escapeFaultFrom? (name.length + 1) (position + 2) rest)
    else if c.toNat < 128 then
      (digitsFault? position c rest).or (escapeFaultFrom? 0 (position + 2) rest)
    else escapeFaultFrom? 0 (position + 6 + places c) rest
  | 0, position, c :: rest => escapeFaultFrom? 0 (position + places c) rest

/-- The first faulty escape of a text. -/
def escapeFault? (cs : List Char) : Option Fault :=
  escapeFaultFrom? 0 0 cs

/-- The first faulty escape in bytes: one needs two digits. -/
def byteEscapeFault? : (position : Nat) → List Char → Option Fault
  | _, [] => none
  | position, '\\' :: c :: rest =>
    if c = 'x' && ((rest.take 2).takeWhile isHexDigit).length < 2 then some (.byteEscape position)
    else byteEscapeFault? (position + 2) rest
  | position, _ :: rest => byteEscapeFault? (position + 1) rest

/-- What is wrong with a quoted text, as far as no values are filled in. -/
def QuotedText.fault? (t : QuotedText) : Option Fault :=
  match t.kind with
  | .bytes =>
    if t.content.any (128 ≤ ·.toNat) then some .wideByte
    else if t.isRaw then none
    else byteEscapeFault? 0 t.content
  | .plain => if t.isRaw then none else escapeFault? t.content
  | .filled => none

end DesignMetrics.Report.Literal
