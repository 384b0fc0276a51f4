import DesignMetrics.Text.Quoted

/-!
# Faults of literals

What can be wrong with a value that is written out: its characters, the order of its parts, or what
it stands for.
-/

namespace DesignMetrics.Report.Literal

/-- How a number is written. -/
inductive Numeral where
  | decimal | imaginary | hexadecimal | octal | binary
deriving DecidableEq, Repr

def Numeral.name : Numeral → String
  | .decimal => "decimal"
  | .imaginary => "imaginary"
  | .hexadecimal => "hexadecimal"
  | .octal => "octal"
  | .binary => "binary"

/-- What is wrong with an escape in a text. -/
inductive EscapeFault where
  /-- An escape `\x`, `\u` or `\U` with too few digits. -/
  | truncated (letter : Char)
  | beyondRange
  | unclosedName
  | unknownName
deriving DecidableEq, Repr

def EscapeFault.message : EscapeFault → String
  | .truncated 'x' => "truncated \\xXX escape"
  | .truncated 'u' => "truncated \\uXXXX escape"
  | .truncated _ => "truncated \\UXXXXXXXX escape"
  | .beyondRange => "illegal Unicode character"
  | .unclosedName => "malformed \\N character escape"
  | .unknownName => "unknown Unicode character name"

/-- What is wrong with the parameters of a function without a name. -/
inductive ParameterFault where
  /-- A parameter without a value after one with a value. -/
  | afterValue
  | bracketed
  | missingValue
  | nothingBeforeSlash
  | secondSlash
  | slashAfterStar
  | slashBeforeStar
  | bareStar
  | secondStar
  | starValue
  | doubleStarValue
  | afterDoubleStar
deriving DecidableEq, Repr

def ParameterFault.message : ParameterFault → String
  | .afterValue => "non-default argument follows default argument"
  | .bracketed => "Lambda expression parameters cannot be parenthesized"
  | .missingValue => "expected default value expression"
  | .nothingBeforeSlash => "at least one argument must precede /"
  | .secondSlash => "/ may appear only once"
  | .slashAfterStar => "/ must be ahead of *"
  | .slashBeforeStar => "expected comma between / and *"
  | .bareStar => "named arguments must follow bare *"
  | .secondStar => "* argument may appear only once"
  | .starValue => "var-positional argument cannot have default value"
  | .doubleStarValue => "var-keyword argument cannot have default value"
  | .afterDoubleStar => "arguments cannot follow var-keyword argument"

/-- What is wrong with a field of a text that values are filled in. -/
inductive FieldFault where
  | singleBrace
  | tooDeep
  | backslash
  | comment
  | tooManyBrackets
  | unmatched (c : Char)
  | mismatched (closing opening : Char)
  | unterminated
  | unclosed
  | conversion
  /-- Nothing stands before the mark that ends an expression. -/
  | nothingBefore (c : Char)
  | empty
deriving DecidableEq, Repr

def FieldFault.message : FieldFault → String
  | .singleBrace => "f-string: single '\x7d' is not allowed"
  | .tooDeep => "f-string: expressions nested too deeply"
  | .backslash => "f-string expression part cannot include a backslash"
  | .comment => "f-string expression part cannot include '#'"
  | .tooManyBrackets => "f-string: too many nested parenthesis"
  | .unmatched c => "f-string: unmatched '" ++ c.toString ++ "'"
  | .mismatched closing opening =>
    "f-string: closing parenthesis '" ++ closing.toString ++
      "' does not match opening parenthesis '" ++ opening.toString ++ "'"
  | .unterminated => "f-string: unterminated string"
  | .unclosed => "f-string: expecting '\x7d'"
  | .conversion =>
    "f-string: invalid conversion character: expected 's', 'r', or 'a'"
  | .nothingBefore c => "f-string: expression required before '" ++ c.toString ++ "'"
  | .empty => "f-string: empty expression not allowed"

/-- Why a text is not written as a value. -/
inductive Fault where
  /-- A closing bracket where none is open. -/
  | unmatched (closing : Char)
  /-- A closing bracket of another kind than the open one, which stands on the line given if that
  is not the same line. -/
  | mismatched (closing opening : Char) (line : Option Nat)
  | tooDeep
  | neverClosed (opening : Char)
  /-- A quoted text, with three quotes or one, whose end is missing on a line. -/
  | unterminated (long : Bool) (line : Nat)
  | numeral (kind : Numeral)
  | digit (c : Char) (kind : Numeral)
  | leadingZeros
  /-- A character that stands in no expression. -/
  | character (c : Char)
  | backslash
  /-- The text ends where a line should go on. -/
  | endOfText
  | indented
  /-- Blanks at the start of a line that are fewer than before, but not as many as on any line. -/
  | unevenIndent
  | mixedIndent
  /-- Something that does not fit where it stands. -/
  | misplaced
  | missingComma
  | missingElse
  /-- A function whose argument stands without brackets. -/
  | bareCall (name : String)
  /-- `:=` after what is no name. -/
  | badTarget (kind : String)
  /-- `=` after a name, or after what is none. -/
  | assignedName
  | assigned (kind : String)
  /-- Something that cannot get a value. -/
  | unassignable (kind : String)
  | starred
  | doubleStarred
  | missingValue
  | missingColon
  | starredValue
  | assignedArgument
  /-- An argument without a name after one with a name, or after the entries of a dictionary. -/
  | lateArgument (unpacked : Bool)
  | lateUnpacking
  /-- Several elements are listed for each step of a repetition. -/
  | bareElements
  | starredElement
  | unpackedEntry
  /-- A repetition among other arguments. -/
  | bareRepetition
  | parameter (f : ParameterFault)
  | field (f : FieldFault)
  /-- A fault of an expression in a text that values are filled in. -/
  | within (f : Fault)
  /-- A character beyond ASCII in a text of bytes. -/
  | wideByte
  | mixedTexts
  | escape (first last : Nat) (e : EscapeFault)
  | byteEscape (position : Nat)
deriving DecidableEq, Repr

namespace Fault

def message : Fault → String
  | .unmatched closing => "unmatched '" ++ closing.toString ++ "'"
  | .mismatched closing opening line =>
    "closing parenthesis '" ++ closing.toString ++ "' does not match opening parenthesis '" ++
      opening.toString ++ "'" ++ line.elim "" fun n => " on line " ++ n.repr
  | .tooDeep => "too many nested parentheses"
  | .neverClosed opening => "'" ++ opening.toString ++ "' was never closed"
  | .unterminated long line =>
    "unterminated " ++ (if long then "triple-quoted " else "") ++
      "string literal (detected at line " ++ line.repr ++ ")"
  | .numeral kind => "invalid " ++ kind.name ++ " literal"
  | .digit c kind => "invalid digit '" ++ c.toString ++ "' in " ++ kind.name ++ " literal"
  | .leadingZeros =>
    "leading zeros in decimal integer literals are not permitted; " ++
      "use an 0o prefix for octal integers"
  | .character c =>
    let code := String.ofList ((Nat.toDigits 16 c.toNat).map Char.toUpper)
    let number := "U+" ++ "".pushn '0' (4 - code.length) ++ code
    if Text.isPrintable c then "invalid character '" ++ c.toString ++ "' (" ++ number ++ ")"
    else "invalid non-printable character " ++ number
  | .backslash => "unexpected character after line continuation character"
  | .endOfText => "unexpected EOF while parsing"
  | .indented => "unexpected indent"
  | .unevenIndent => "unindent does not match any outer indentation level"
  | .mixedIndent => "inconsistent use of tabs and spaces in indentation"
  | .misplaced => "invalid syntax"
  | .missingComma => "invalid syntax. Perhaps you forgot a comma?"
  | .missingElse => "expected 'else' after 'if' expression"
  | .bareCall name =>
    "Missing parentheses in call to '" ++ name ++ "'. Did you mean " ++ name ++ "(...)?"
  | .badTarget kind => "cannot use assignment expressions with " ++ kind
  | .assignedName => "invalid syntax. Maybe you meant '==' or ':=' instead of '='?"
  | .assigned kind => "cannot assign to " ++ kind ++ " here. Maybe you meant '==' instead of '='?"
  | .unassignable kind => "cannot assign to " ++ kind
  | .starred => "cannot use starred expression here"
  | .doubleStarred => "cannot use double starred expression here"
  | .missingValue => "expression expected after dictionary key and ':'"
  | .missingColon => "':' expected after dictionary key"
  | .starredValue => "cannot use a starred expression in a dictionary value"
  | .assignedArgument => "expression cannot contain assignment, perhaps you meant \"==\"?"
  | .lateArgument unpacked =>
    "positional argument follows keyword argument" ++ if unpacked then " unpacking" else ""
  | .lateUnpacking => "iterable argument unpacking follows keyword argument unpacking"
  | .bareElements => "did you forget parentheses around the comprehension target?"
  | .starredElement => "iterable unpacking cannot be used in comprehension"
  | .unpackedEntry => "dict unpacking cannot be used in dict comprehension"
  | .bareRepetition => "Generator expression must be parenthesized"
  | .parameter f => f.message
  | .field f => f.message
  | .within f => "f-string: " ++ f.message
  | .wideByte => "bytes can only contain ASCII literal characters"
  | .mixedTexts => "cannot mix bytes and nonbytes literals"
  | .escape first last e =>
    "(unicode error) 'unicodeescape' codec can't decode bytes in position " ++ first.repr ++ "-" ++
      last.repr ++ ": " ++ e.message
  | .byteEscape position => "(value error) invalid \\x escape at position " ++ position.repr

end Fault

/-- Why a text is not read to its end: it is faulty, with or without a place of the fault that can
be told, or its parts stand too deep in one another. -/
inductive Halt where
  | fault (f : Fault)
  | untold
  | exhausted
deriving DecidableEq, Repr

/-- What is wrong with texts that follow one another: something in the texts, or in a field of
one. -/
inductive TextFault where
  | own (f : Fault)
  | inField (h : Halt)
deriving DecidableEq, Repr

end DesignMetrics.Report.Literal
