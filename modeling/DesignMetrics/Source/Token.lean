import DesignMetrics.Text.Blank
import DesignMetrics.Text.Word

/-!
# Tokens

A source text as words, white space and marks. No character is lost: `textOf` gives the text back.
-/

namespace DesignMetrics.Source

/-- A piece of a source text: a longest run of word characters, a longest run of white space, or
any other single character. -/
inductive Token where
  | word (letters : List Char)
  | blank (spaces : List Char)
  | mark (c : Char)
deriving DecidableEq, Repr

namespace Token

def text : Token → List Char
  | .word letters => letters
  | .blank spaces => spaces
  | .mark c => [c]

/-- Puts a character in front; it joins the first token if that is a run of its kind. -/
def push (c : Char) (ts : List Token) : List Token :=
  if Text.isWord c then
    match ts with
    | .word letters :: rest => .word (c :: letters) :: rest
    | _ => .word [c] :: ts
  else if Text.isBlank c then
    match ts with
    | .blank spaces :: rest => .blank (c :: spaces) :: rest
    | _ => .blank [c] :: ts
  else .mark c :: ts

end Token

/-- The tokens of a text. -/
def tokens (cs : List Char) : List Token :=
  cs.foldr Token.push []

/-- The text that tokens were read from. -/
def textOf (ts : List Token) : List Char :=
  ts.flatMap Token.text

theorem textOf_push (c : Char) (ts : List Token) :
    textOf (Token.push c ts) = c :: textOf ts := by
  unfold Token.push
  split
  · split <;> simp [textOf, Token.text]
  · split
    · split <;> simp [textOf, Token.text]
    · simp [textOf, Token.text]

/-- Nothing is lost between a text and its tokens. -/
theorem textOf_tokens (cs : List Char) : textOf (tokens cs) = cs := by
  induction cs with
  | nil => rfl
  | cons c cs ih => rw [tokens, List.foldr_cons, textOf_push]; exact congrArg _ ih

end DesignMetrics.Source
