import DesignMetrics.Proofs.Source.Reader
import DesignMetrics.Proofs.Source.Token

/-!
# Classes as they are written

How a list of classes may be written down. White space between words, keywords without a meaning
and the order of methods among attributes are free, so that one list can be written in many ways.
-/

namespace DesignMetrics.Source

/-! ## Names -/

/-- The words that headers are made of. -/
def headerWords : List String :=
  ["class", "fun", "val", "var"] ++ memberLeads ++ classModifiers

/-- A name of a class or of a member. -/
structure IsName (name : String) : Prop where
  letters : IsWordRun name.toList
  free : name ∉ headerWords

/-- The characters of a parent type. -/
def isTypeLetter (c : Char) : Bool :=
  Text.isWord c || c == '<' || c == '>'

/-- A name of a parent, which may have type arguments. -/
abbrev IsTypeName (name : String) : Prop :=
  IsRun isTypeLetter name.toList

/-- A class whose names can be read. -/
structure Legible (info : ClassInfo) : Prop where
  name : IsName info.name
  parent : ∀ parent ∈ info.parent, IsTypeName parent
  methods : ∀ m ∈ info.methods, IsName m.name
  attributes : ∀ a ∈ info.attributes, IsName a.name

/-! ## Texts -/

/-- A run of words out of a list. White space follows each of them. -/
inductive LeadsText (words : List String) : List Char → Prop where
  | nil : LeadsText words []
  | cons {word : String} {gap text : List Char} : word ∈ words → IsGap gap →
      LeadsText words text → LeadsText words (word.toList ++ (gap ++ text))

/-- A visibility. `public` need not be written. -/
inductive VisibilityText : Visibility → List Char → Prop where
  | unsaid : VisibilityText .pub []
  | said {word : String} {gap : List Char} : word ∈ ["private", "protected", "public"] →
      IsGap gap → VisibilityText (.ofWord word) (word.toList ++ gap)

/-- Whether a method overrides another. -/
inductive OverrideText : Bool → List Char → Prop where
  | unsaid : OverrideText false []
  | said {gap : List Char} : IsGap gap → OverrideText true ("override".toList ++ gap)

/-- What follows the name of a method: an empty body, and the end of the line. -/
def methodEnd : List Char := "() \x7b\x7d\n".toList

/-- What follows the name of an attribute: a value, and the end of the line. -/
def attributeEnd : List Char := " = 0\n".toList

/-- A method with an empty body on a line. -/
inductive MethodText : Method → List Char → Prop where
  | intro {m : Method} {visibility before overrides after gap : List Char} :
      VisibilityText m.visibility visibility → LeadsText memberModifiers before →
      OverrideText m.overrides overrides → LeadsText memberModifiers after → IsGap gap →
      MethodText m (visibility ++ (before ++ (overrides ++ (after ++
        ("fun".toList ++ (gap ++ (m.name.toList ++ methodEnd)))))))

/-- An attribute with a value on a line. -/
inductive AttributeText : Attribute → List Char → Prop where
  | intro {a : Attribute} {visibility before gap : List Char} {keyword : String} :
      VisibilityText a.visibility visibility →
      LeadsText ("override" :: memberModifiers) before → keyword ∈ ["val", "var"] → IsGap gap →
      AttributeText a (visibility ++ (before ++
        (keyword.toList ++ (gap ++ (a.name.toList ++ attributeEnd)))))

/-- Methods and attributes, each kind in its order. -/
inductive MembersText : List Method → List Attribute → List Char → Prop where
  | nil : MembersText [] [] []
  | consMethod {m : Method} {methods : List Method} {attributes : List Attribute}
      {text rest : List Char} : MethodText m text → MembersText methods attributes rest →
      MembersText (m :: methods) attributes (text ++ rest)
  | consAttribute {a : Attribute} {methods : List Method} {attributes : List Attribute}
      {text rest : List Char} : AttributeText a text → MembersText methods attributes rest →
      MembersText methods (a :: attributes) (text ++ rest)

/-- Arguments of a parent, which may be left out. -/
inductive ArgumentsText : List Char → Prop where
  | none : ArgumentsText []
  | some {arguments : List Char} : ')' ∉ arguments →
      ArgumentsText ('(' :: (arguments ++ [')']))

/-- A parent clause, if there is a parent. -/
inductive ParentText : Option String → List Char → Prop where
  | none : ParentText none []
  | some {parent : String} {before after arguments : List Char} :
      (∀ c ∈ before, Text.isBlank c = true) → (∀ c ∈ after, Text.isBlank c = true) →
      ArgumentsText arguments →
      ParentText (some parent) (before ++ (':' :: (after ++ (parent.toList ++ arguments))))

/-- What opens a body. -/
def bodyStart : List Char := " \x7b".toList

/-- What closes a body. -/
def bodyEnd : List Char := "\x7d\n".toList

/-- The body of a class, between its header and the next one. -/
inductive BodyText : ClassInfo → List Char → Prop where
  | intro {info : ClassInfo} {members : List Char} :
      MembersText info.methods info.attributes members →
      BodyText info (bodyStart ++ (members ++ bodyEnd))

/-- A class. -/
inductive ClassText : ClassInfo → List Char → Prop where
  | intro {info : ClassInfo} {modifiers gap parent body : List Char} :
      LeadsText classModifiers modifiers → IsGap gap → ParentText info.parent parent →
      BodyText info body →
      ClassText info (modifiers ++ ("class".toList ++ (gap ++ (info.name.toList ++
        (parent ++ body)))))

/-- Classes, one after the other. -/
inductive ClassesText : List ClassInfo → List Char → Prop where
  | nil : ClassesText [] []
  | cons {info : ClassInfo} {infos : List ClassInfo} {text rest : List Char} :
      ClassText info text → ClassesText infos rest → ClassesText (info :: infos) (text ++ rest)

/-! ## Every list of classes can be written down -/

theorem isGap_space : IsGap [' '] :=
  .singleton (by decide)

/-- Every visibility that has a keyword can be written. -/
theorem exists_visibilityText {v : Visibility}
    (h : v.word ∈ ["private", "protected", "public"]) : ∃ text, VisibilityText v text := by
  rw [← Visibility.ofWord_word v]
  exact ⟨_, .said h isGap_space⟩

/-- A method can be written whether it overrides another or not. -/
theorem exists_overrideText (overrides : Bool) : ∃ text, OverrideText overrides text := by
  cases overrides with
  | false => exact ⟨_, .unsaid⟩
  | true => exact ⟨_, .said isGap_space⟩

/-- Members with such visibilities can be written one after the other. -/
theorem exists_membersText {methods : List Method} {attributes : List Attribute}
    (hm : ∀ m ∈ methods, m.visibility.word ∈ ["private", "protected", "public"])
    (ha : ∀ a ∈ attributes, a.visibility.word ∈ ["private", "protected", "public"]) :
    ∃ text, MembersText methods attributes text := by
  induction methods with
  | nil =>
    induction attributes with
    | nil => exact ⟨_, .nil⟩
    | cons a attributes ih =>
      rw [List.forall_mem_cons] at ha
      obtain ⟨rest, hrest⟩ := ih ha.2
      obtain ⟨visibility, hv⟩ := exists_visibilityText ha.1
      have hval : "val" ∈ ["val", "var"] := List.mem_cons_self
      exact ⟨_, .consAttribute (.intro hv .nil hval isGap_space) hrest⟩
  | cons m methods ih =>
    rw [List.forall_mem_cons] at hm
    obtain ⟨rest, hrest⟩ := ih hm.2
    obtain ⟨visibility, hv⟩ := exists_visibilityText hm.1
    obtain ⟨overrides, ho⟩ := exists_overrideText m.overrides
    exact ⟨_, .consMethod (.intro hv .nil ho .nil isGap_space) hrest⟩

/-- A class can be written with its parent, or without one. -/
theorem exists_parentText (parent : Option String) : ∃ text, ParentText parent text := by
  cases parent with
  | none => exact ⟨_, .none⟩
  | some name =>
    have hnone : ∀ c ∈ [], Text.isBlank c = true := by simp
    exact ⟨_, .some hnone hnone .none⟩

/-- Classes whose members have one of the three visibilities can be written down. -/
theorem exists_classesText {infos : List ClassInfo}
    (hm : ∀ info ∈ infos, ∀ m ∈ info.methods,
      m.visibility.word ∈ ["private", "protected", "public"])
    (ha : ∀ info ∈ infos, ∀ a ∈ info.attributes,
      a.visibility.word ∈ ["private", "protected", "public"]) :
    ∃ text, ClassesText infos text := by
  induction infos with
  | nil => exact ⟨_, .nil⟩
  | cons info infos ih =>
    rw [List.forall_mem_cons] at hm ha
    obtain ⟨rest, hrest⟩ := ih hm.2 ha.2
    obtain ⟨members, hmembers⟩ := exists_membersText hm.1 ha.1
    obtain ⟨parent, hparent⟩ := exists_parentText info.parent
    exact ⟨_, .cons (.intro .nil isGap_space hparent (.intro hmembers)) hrest⟩

end DesignMetrics.Source
