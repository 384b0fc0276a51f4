import DesignMetrics.Number.Notation
import DesignMetrics.Sorting
import DesignMetrics.Text.Quoted

/-!
# JSON documents

Values of a document and how they are written: two blanks for each level and ASCII only.
-/

namespace DesignMetrics.Report

open Number (Binary64)

/-- A value of a JSON document. -/
inductive Json where
  | null
  | bool (b : Bool)
  | int (n : Int)
  | number (x : Binary64)
  | text (s : String)
  | array (items : List Json)
  | object (fields : List (String × Json))

namespace Json

/-- An escaped 16-bit unit. -/
def unitEscape (n : Nat) : List Char :=
  '\\' :: 'u' :: Text.hexDigits 4 n

/-- A character of a text. Everything beyond ASCII is escaped, by two units if one is not
enough. -/
def textChar (c : Char) : List Char :=
  if c = '"' || c = '\\' then ['\\', c]
  else if c = '\n' then ['\\', 'n']
  else if c = '\r' then ['\\', 'r']
  else if c = '\t' then ['\\', 't']
  else if c = '\x08' then ['\\', 'b']
  else if c = '\x0c' then ['\\', 'f']
  else if 32 ≤ c.toNat && c.toNat < 127 then [c]
  else if c.toNat < 0x10000 then unitEscape c.toNat
  else
    unitEscape (0xD800 + (c.toNat - 0x10000) / 0x400) ++
      unitEscape (0xDC00 + (c.toNat - 0x10000) % 0x400)

/-- A text between double quotes. -/
def textLiteral (s : String) : String :=
  String.ofList ('"' :: s.toList.flatMap textChar ++ ['"'])

/-- An object whose fields are sorted by name. -/
def sorted (fields : List (String × Json)) : Json :=
  .object (sortBy (fun a b => decide (a.1 ≤ b.1)) fields)

/-- A line end and the blanks in front of the next line. -/
def newline (depth : Nat) : String :=
  "\n" ++ String.ofList (List.replicate (2 * depth) ' ')

mutual

/-- Writes a value at a depth; every item and every field has a line of its own. -/
def render (depth : Nat) : Json → String
  | .null => "null"
  | .bool b => if b then "true" else "false"
  | .int n => toString n
  | .number x => x.toText
  | .text s => textLiteral s
  | .array [] => "[]"
  | .array (item :: items) =>
    "[" ++ newline (depth + 1) ++ item.render (depth + 1) ++ renderItems (depth + 1) items ++
      newline depth ++ "]"
  | .object [] => "\x7b\x7d"
  | .object ((name, value) :: fields) =>
    "\x7b" ++ newline (depth + 1) ++ textLiteral name ++ ": " ++ value.render (depth + 1) ++
      renderFields (depth + 1) fields ++ newline depth ++ "\x7d"

/-- Writes the items after the first. -/
def renderItems (depth : Nat) : List Json → String
  | [] => ""
  | item :: items => "," ++ newline depth ++ item.render depth ++ renderItems depth items

/-- Writes the fields after the first. -/
def renderFields (depth : Nat) : List (String × Json) → String
  | [] => ""
  | (name, value) :: fields =>
    "," ++ newline depth ++ textLiteral name ++ ": " ++ value.render depth ++
      renderFields depth fields

end

/-- The text of a document. -/
def toText (j : Json) : String := j.render 0

end Json
end DesignMetrics.Report
