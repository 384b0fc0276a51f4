import DesignMetrics.Text.CharacterName.AtoB
import DesignMetrics.Text.CharacterName.CtoD
import DesignMetrics.Text.CharacterName.EtoK
import DesignMetrics.Text.CharacterName.LtoM
import DesignMetrics.Text.CharacterName.NtoR
import DesignMetrics.Text.CharacterName.S
import DesignMetrics.Text.CharacterName.TtoZ
import DesignMetrics.Text.Ranges

/-!
# Names of characters

Most characters have a name, and some have several. The names of Korean syllables and of Chinese
characters follow rules; all others are listed.
-/

namespace DesignMetrics.Text

/-! ## Syllables -/

/-- What the names of Korean syllables begin with. -/
def leadingSounds : List String := [
  "", "G", "GG", "N", "D", "DD", "R", "M", "B", "BB", "S", "SS", "J", "JJ", "C", "K", "T", "P", "H"]

/-- The vowels in the names of Korean syllables. -/
def vowels : List String := [
  "A", "AE", "YA", "YAE", "EO", "E", "YEO", "YE", "O", "WA", "WAE", "OE", "YO", "U", "WEO", "WE",
  "WI", "YU", "EU", "YI", "I"]

/-- What the names of Korean syllables end with. -/
def trailingSounds : List String := [
  "", "G", "GG", "GS", "N", "NJ", "NH", "D", "L", "LG", "LM", "LB", "LS", "LT", "LP", "LH", "M",
  "B", "BS", "S", "SS", "NG", "J", "C", "K", "T", "P", "H"]

/-- A letter of a vowel. -/
def isVowelLetter (c : Char) : Bool :=
  ['A', 'E', 'I', 'O', 'U', 'W', 'Y'].contains c

/-- Whether a name is that of a Korean syllable. -/
def isSyllableName (name : List Char) : Bool :=
  let lead := "HANGUL SYLLABLE ".toList
  let sounds := name.drop lead.length
  let first := sounds.takeWhile (!isVowelLetter ·)
  let rest := sounds.drop first.length
  let vowel := rest.takeWhile isVowelLetter
  lead.isPrefixOf name && leadingSounds.contains (String.ofList first) &&
    vowels.contains (String.ofList vowel) &&
    trailingSounds.contains (String.ofList (rest.drop vowel.length))

/-! ## Chinese characters -/

/-- The Chinese characters that are shared by several scripts. -/
def ideographRanges : Ranges := [
  (0x3400, 0x4DBF), (0x4E00, 0x9FFF), (0x20000, 0x2A6DF), (0x2A700, 0x2B738), (0x2B740, 0x2B81D),
  (0x2B820, 0x2CEA1), (0x2CEB0, 0x2EBE0), (0x30000, 0x3134A)]

/-- The value of a hexadecimal digit, which is no small letter. -/
def codeDigit? (c : Char) : Option Nat :=
  if c.isDigit then some (c.toNat - 48)
  else if 'A' ≤ c && c ≤ 'F' then some (c.toNat - 55)
  else none

/-- Whether a name is that of a Chinese character: its code point in four or five digits. -/
def isIdeographName (name : List Char) : Bool :=
  let lead := "CJK UNIFIED IDEOGRAPH-".toList
  let code := name.drop lead.length
  let digits := code.filterMap codeDigit?
  lead.isPrefixOf name && (code.length = 4 || code.length = 5) && digits.length = code.length &&
    ideographRanges.contains (digits.foldl (fun n d => 16 * n + d) 0)

/-! ## Listed names -/

/-- What is known while a table is read in search of a name. -/
structure NameSearch where
  /-- The name that has been read, from its end. -/
  name : List Char := []
  /-- Whether it ends where a character is dropped. -/
  isWhole : Bool := false
  isFound : Bool := false

/-- Reads a character of a table. The name that is looked for is given from its end. -/
def NameSearch.next (wanted : List Char) (s : NameSearch) (c : Char) : NameSearch :=
  if c.isLower then
    { name := s.name.drop (c.toNat - 'a'.toNat)
      isFound := s.isFound || (s.isWhole && s.name == wanted) }
  else { s with name := c :: s.name, isWhole := true }

/-- Whether a table lists a name. A small letter ends the table. -/
def listsName (table : List String) (name : List Char) : Bool :=
  let search : NameSearch :=
    table.foldl (fun s line => line.toList.foldl (NameSearch.next name.reverse) s) {}
  search.isFound

/-- The table in which a name stands if it is listed. -/
def tableOf (name : List Char) : List String :=
  match name with
  | [] => []
  | c :: _ =>
    if c ≤ 'B' then namesAtoB
    else if c ≤ 'D' then namesCtoD
    else if c ≤ 'K' then namesEtoK
    else if c ≤ 'M' then namesLtoM
    else if c ≤ 'R' then namesNtoR
    else if c ≤ 'S' then namesS
    else namesTtoZ

/-- Whether a character has a name. Listed names may be written in small letters. -/
def isCharacterName (name : List Char) : Bool :=
  let listed := name.map Char.toUpper
  isSyllableName name || isIdeographName name || listsName (tableOf listed) listed

end DesignMetrics.Text
