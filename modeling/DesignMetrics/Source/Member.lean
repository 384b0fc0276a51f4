import DesignMetrics.ClassInfo
import DesignMetrics.Source.Lead
import DesignMetrics.Source.Occurrence

/-!
# Members

Headers of methods and attributes in the body of a class.
-/

namespace DesignMetrics.Source

/-- Words that may stand before the keyword of a member and say nothing that is recorded. -/
def memberModifiers : List String :=
  ["open", "final", "abstract", "suspend", "inline", "operator", "infix", "tailrec", "external",
    "lateinit", "const"]

/-- The visibility in front, `public` if there is none, and what follows it. -/
def readVisibility (ts : List Token) : Visibility × List Token :=
  match lead? ts with
  | some (word, rest) =>
    if word ∈ ["private", "protected", "public"] then (Visibility.ofWord word, rest) else (.pub, ts)
  | none => (.pub, ts)

/-- Whether `override` stands in front, and what follows it. -/
def readOverride (ts : List Token) : Bool × List Token :=
  match lead? ts with
  | some ("override", rest) => (true, rest)
  | _ => (false, ts)

/-- A method header: a visibility, modifiers with at most one `override` among them, `fun` and the
name. All but the last two may be left out. -/
def method? (ts : List Token) : Option (Method × List Token) :=
  let (visibility, ts) := readVisibility ts
  let (overrides, ts) := readOverride (skipLeads memberModifiers ts)
  (namedBy? ["fun"] (skipLeads memberModifiers ts)).map fun (name, rest) =>
    (⟨name, visibility, overrides⟩, rest)

/-- An attribute header: a visibility, modifiers, `val` or `var` and the name. -/
def attribute? (ts : List Token) : Option (Attribute × List Token) :=
  let (visibility, ts) := readVisibility ts
  (namedBy? ["val", "var"] (skipLeads ("override" :: memberModifiers) ts)).map fun (name, rest) =>
    (⟨name, visibility⟩, rest)

/-- The methods of a class body, in its order. -/
def methodsOf (body : String) : List Method :=
  readAll method? (tokens body.toList)

/-- The attributes of a class body, in its order. -/
def attributesOf (body : String) : List Attribute :=
  readAll attribute? (tokens body.toList)

end DesignMetrics.Source
