import DesignMetrics.Text.Blank

/-!
# Cutting texts

White space at the ends of a text is removed by `trim`, and `splitOn` cuts at a separator.
-/

namespace DesignMetrics.Text

/-- Removes the longest run at the end whose characters all satisfy `p`. -/
def dropTrailing (p : Char → Bool) : List Char → List Char
  | [] => []
  | c :: rest =>
    match dropTrailing p rest with
    | [] => if p c then [] else [c]
    | kept => c :: kept

/-- Removes white space at the start. -/
def trimStart (cs : List Char) : List Char :=
  cs.dropWhile isBlank

/-- Removes white space at the end. -/
def trimEnd (cs : List Char) : List Char :=
  dropTrailing isBlank cs

/-- Removes white space at both ends. -/
def trim (cs : List Char) : List Char :=
  trimEnd (trimStart cs)

/-- The runs of characters that are no white space. -/
def wordsOf : List Char → List (List Char)
  | [] => []
  | c :: rest =>
    if isBlank c then wordsOf rest
    else
      match wordsOf rest with
      | [] => [[c]]
      | word :: words =>
        if rest.head?.any isBlank then [c] :: word :: words else (c :: word) :: words

/-- The pieces of a text between the separators; there is one more of them than separators. -/
def splitOn (separator : Char) : List Char → List (List Char)
  | [] => [[]]
  | c :: rest =>
    if c = separator then [] :: splitOn separator rest
    else
      match splitOn separator rest with
      | [] => [[c]]
      | piece :: pieces => (c :: piece) :: pieces

end DesignMetrics.Text
