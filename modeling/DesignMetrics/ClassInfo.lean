/-!
# Classes as they are declared

What a source says of a class: its name, the name of its parent, and its members with their
visibility. Nothing here looks at other classes.
-/

namespace DesignMetrics

/-- How far a member can be seen. Sources have three words for it; a class that was described by
hand may carry another. -/
inductive Visibility where
  | priv
  | prot
  | pub
  | other (word : String) (foreign : word ∉ ["private", "protected", "public"])
deriving DecidableEq

namespace Visibility

def ofWord (word : String) : Visibility :=
  if word = "private" then .priv
  else if word = "protected" then .prot
  else if h : word ∈ ["private", "protected", "public"] then .pub
  else .other word h

def word : Visibility → String
  | .priv => "private"
  | .prot => "protected"
  | .pub => "public"
  | .other word _ => word

/-- Every word is that of the visibility read from it. -/
theorem word_ofWord (w : String) : (ofWord w).word = w := by
  unfold ofWord
  split
  · simp_all [word]
  · split
    · simp_all [word]
    · split
      · simp_all [word]
      · rfl

/-- A visibility is read back from its word. -/
theorem ofWord_word (v : Visibility) : ofWord v.word = v := by
  cases v with
  | other w foreign => simp at foreign; simp [word, ofWord, foreign]
  | _ => rfl

end Visibility

/-- A method of a class. -/
structure Method where
  name : String
  visibility : Visibility := .pub
  overrides : Bool := false
deriving DecidableEq

/-- An attribute of a class. -/
structure Attribute where
  name : String
  visibility : Visibility := .pub
deriving DecidableEq

/-- A class as it was declared: its parent is a name that need not be known, and members stand in
the order of declaration. -/
structure ClassInfo where
  name : String
  parent : Option String := none
  methods : List Method := []
  attributes : List Attribute := []
  file : String := ""
deriving DecidableEq

end DesignMetrics
