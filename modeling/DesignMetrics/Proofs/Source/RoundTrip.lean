import DesignMetrics.Proofs.Source.Header
import DesignMetrics.Source.Scan
import Mathlib.Data.List.Forall2

/-!
# Reading classes as they are written

However a list of classes is written down, a scan of the text gives the list back.
-/

namespace DesignMetrics.Source

open Text (isWord isBlank)

variable {text rest : List Char}

/-! ## Parent clauses -/

theorem ArgumentsText.groupText (h : ArgumentsText text) (rest : List Char) :
    GroupText text (bodyStart ++ rest) := by
  cases h with
  | none => exact .none fun more h => absurd (List.cons.inj h).1 (by decide)
  | some hclose => exact .some hclose

/-- No part of a type follows the parent. -/
theorem ArgumentsText.ends_isTypeLetter (h : ArgumentsText text) (rest : List Char) :
    Ends isTypeLetter (text ++ (bodyStart ++ rest)) := by
  cases h with
  | none => exact Ends.append (by decide) (by decide) rest
  | some _ => exact ends_cons (by decide) _

theorem not_startsClause_bodyStart (rest : List Char) : ¬StartsClause (bodyStart ++ rest) := by
  rintro ⟨before, after, c, more, hbefore, -, -, htext⟩
  have hstart : bodyStart = [' ', '\x7b'] := by decide
  rw [hstart] at htext
  cases before with
  | nil => exact absurd (List.cons.inj htext).1 (by decide)
  | cons b before =>
    obtain ⟨-, htext⟩ := List.cons.inj htext
    cases before with
    | nil => exact absurd (List.cons.inj htext).1 (by decide)
    | cons d before =>
      obtain ⟨rfl, -⟩ := List.cons.inj htext
      exact absurd (hbefore '\x7b' (by simp)) (by decide)

/-- After the parent and its arguments comes the body. -/
theorem ParentText.clauseText {parent : Option String} (h : ParentText parent text)
    (hp : ∀ name ∈ parent, IsTypeName name) (rest : List Char) :
    ClauseText parent text (bodyStart ++ rest) := by
  cases h with
  | none => exact .none (not_startsClause_bodyStart rest)
  | some hbefore hafter harguments =>
    exact .some hbefore hafter (hp _ rfl) (harguments.ends_isTypeLetter rest)
      (harguments.groupText rest)

theorem ParentText.ends_isWord {parent : Option String} (h : ParentText parent text)
    (rest : List Char) : Ends isWord (text ++ (bodyStart ++ rest)) := by
  cases h with
  | none => exact Ends.append (by decide) (by decide) rest
  | @some name before after arguments hbefore _ _ =>
    by_cases hne : before = []
    · subst hne
      exact ends_cons (by decide) _
    · have hgap : IsGap before := ⟨hne, hbefore⟩
      rw [List.append_assoc]
      exact hgap.ends_isWord _

/-! ## Class headers -/

theorem BodyText.exists_eq {info : ClassInfo} (h : BodyText info text) :
    ∃ members, text = bodyStart ++ members := by
  obtain @⟨members, _⟩ := h
  exact ⟨members ++ bodyEnd, rfl⟩

/-- A header of a class is read up to its body. -/
theorem header?_tokens {info : ClassInfo} {modifiers gap parent body : List Char}
    (hl : Legible info) (hm : LeadsText classModifiers modifiers) (hg : IsGap gap)
    (hp : ParentText info.parent parent) (hb : BodyText info body) (rest : List Char) :
    header? (tokens (modifiers ++ ("class".toList ++ (gap ++ (info.name.toList ++
      (parent ++ (body ++ rest))))))) =
      some (⟨info.name, info.parent⟩, tokens (body ++ rest)) := by
  obtain ⟨members, rfl⟩ := hb.exists_eq
  rw [List.append_assoc]
  have hends : Ends isWord (parent ++ (bodyStart ++ (members ++ rest))) := hp.ends_isWord _
  have hname : NameText ["class"] info.name ("class".toList ++ (gap ++ info.name.toList))
      (parent ++ (bodyStart ++ (members ++ rest))) :=
    .intro List.mem_cons_self hg hl.name.letters hends
  have hread := (HeaderText.intro hm hname (hp.clauseText hl.parent (members ++ rest))).header?_eq
  simpa only [List.append_assoc] using hread

/-! ## Classes -/

/-- What a search for headers finds where a class stands. -/
structure Found (info : ClassInfo) (o : Occurrence Header) : Prop where
  value_eq : o.value = ⟨info.name, info.parent⟩
  gap_eq : ∃ body, BodyText info body ∧ o.gap = tokens body

theorem ClassesText.ends_isBlank {infos : List ClassInfo} (h : ClassesText infos text) :
    Ends isBlank text := by
  cases h with
  | nil => exact fun c hc => absurd hc (by simp)
  | cons hclass _ =>
    obtain ⟨hm, _, _, _⟩ := hclass
    have hword : IsWordRun "class".toList := isWordRun_of_mem_headerWords (by decide)
    rw [List.append_assoc]
    refine hm.ends_isBlank mem_headerWords_of_mem_classModifiers ?_
    rw [List.append_assoc]
    exact hword.ends_isBlank _

/-- Headers are found where classes stand, and nowhere else. -/
theorem ClassesText.exists_found {infos : List ClassInfo} (h : ClassesText infos text)
    (hl : ∀ info ∈ infos, Legible info) :
    ∃ found, occurrences header? (tokens text) = ([], found) ∧
      List.Forall₂ Found infos found := by
  induction h with
  | nil => exact ⟨[], rfl, .nil⟩
  | @cons info infos text rest hclass hrest ih =>
    rw [List.forall_mem_cons] at hl
    obtain ⟨found, hfound, hall⟩ := ih hl.2
    obtain @⟨modifiers, gap, parent, body, hm, hg, hp, hb⟩ := hclass
    have hread := header?_tokens hl.1 hm hg hp hb rest
    obtain ⟨source, -, -, hocc⟩ := header?_reads.occurrences_eq hread
    -- a body holds no header, and the next class starts with one
    have happart : Apart body rest := apart_of_line hb.getLast?_eq hrest.ends_isBlank
    rw [tokens_append happart, header?_reads.occurrences_append (hb.quiet hl.1), hfound,
      List.append_nil] at hocc
    let here : Occurrence Header := ⟨⟨info.name, info.parent⟩, source, tokens body⟩
    have hhere : Found info here := ⟨rfl, body, hb, rfl⟩
    refine ⟨here :: found, ?_, .cons hhere hall⟩
    simpa only [List.append_assoc] using hocc

/-- The places of classes give the classes back, with their members. -/
theorem map_toInfo_declarationsFrom {infos : List ClassInfo} {found : List (Occurrence Header)}
    (h : List.Forall₂ Found infos found) (hl : ∀ info ∈ infos, Legible info) (file : String)
    (start : Nat) :
    (declarationsFrom start found).map (Declaration.toInfo file) =
      infos.map fun info => { info with file } := by
  induction h generalizing start with
  | nil => rfl
  | @cons info o infos found ho _ ih =>
    rw [List.forall_mem_cons] at hl
    obtain ⟨hvalue, body, hb, hgap⟩ := ho
    have hbody : textOf o.gap = body := by rw [hgap, textOf_tokens]
    rw [declarationsFrom, List.map_cons, List.map_cons, ih hl.2, Declaration.toInfo, hbody, hvalue,
      hb.methodsOf_eq hl.1, hb.attributesOf_eq hl.1]

/-- However classes with legible names are written down, a scan of that text alone gives exactly
these classes back, in their order and with their members, as classes of its file. -/
theorem Team.scan_classesText (team : Team) (file : String) {infos : List ClassInfo}
    {text : String} (hl : ∀ info ∈ infos, Legible info)
    (h : ClassesText infos text.toList) :
    (team.scan [⟨file, text⟩]).value = infos.map fun info => { info with file } := by
  obtain ⟨found, hfound, hall⟩ := h.exists_found hl
  have hclasses : (declarations text).map (Declaration.toInfo file) =
      infos.map fun info => { info with file } := by
    rw [declarations, hfound]
    exact map_toInfo_declarationsFrom hall hl file 0
  have hscan : (team.scan [⟨file, text⟩]).value =
      [(declarations text).map (Declaration.toInfo file)].flatten := by
    unfold Team.scan
    rw [if_pos (Or.inr (by simp))]
    rfl
  rw [hscan, List.flatten_singleton, hclasses]

/-- Two classes, the first of which has type arguments and a value for its parent. -/
theorem Team.scan_classesText_pair :
    let a : ClassInfo :=
      { name := "A"
        parent := some "B<T>"
        methods := [{ name := "f", visibility := .priv, overrides := true }]
        attributes := [{ name := "x" }] }
    let b : ClassInfo := { name := "B" }
    let text :=
      "class\tA: B<T>(0) \x7bprivate override fun f() \x7b\x7d\nconst val x = 0\n\x7d\nclass B \x7b\x7d\n"
    let team : Team := ⟨1, Nat.one_pos⟩
    (∀ info ∈ [a, b], Legible info) ∧ ClassesText [a, b] text.toList ∧
    (team.scan [⟨"main", text⟩]).value = [a, b].map fun info => { info with file := "main" } := by
  intro a b text team
  have hname : ∀ name ∈ ["A", "B", "f", "x"], IsName name := by
    intro name hmem
    have hall : ∀ name ∈ ["A", "B", "f", "x"], IsWordRun name.toList ∧ name ∉ headerWords := by
      decide
    exact ⟨(hall name hmem).1, (hall name hmem).2⟩
  have hlegible : ∀ info ∈ [a, b], Legible info := by
    have htype : IsTypeName "B<T>" := by decide
    refine List.forall_mem_cons.2 ⟨?_, List.forall_mem_singleton.2 ?_⟩
    · exact ⟨hname _ (by simp [a]), by simpa [a] using htype,
        by simpa [a] using hname "f" (by simp), by simpa [a] using hname "x" (by simp)⟩
    · exact ⟨hname _ (by simp [b]), by simp [b], by simp [b], by simp [b]⟩
  have hspace : IsGap [' '] := .singleton (by decide)
  have htab : IsGap ['\t'] := .singleton (by decide)
  have hnone : ∀ c ∈ [], Text.isBlank c = true := by simp
  -- the pieces of the text, from left to right
  have hparent : ParentText (some "B<T>") ": B<T>(0)".toList :=
    .some hnone hspace.all (.some (by decide : ')' ∉ ['0']))
  have hprivate : VisibilityText .priv "private ".toList :=
    .said (by decide : "private" ∈ ["private", "protected", "public"]) hspace
  have hoverride : OverrideText true "override ".toList := .said hspace
  have hmethod : MethodText ⟨"f", .priv, true⟩ _ := .intro hprivate .nil hoverride .nil hspace
  have hconst : LeadsText ("override" :: memberModifiers) "const ".toList :=
    .cons (by decide : "const" ∈ _) hspace .nil
  have hattribute : AttributeText ⟨"x", .pub⟩ _ :=
    .intro .unsaid hconst (by decide : "val" ∈ _) hspace
  have hbody : BodyText a _ := .intro (.consMethod hmethod (.consAttribute hattribute .nil))
  have ha : ClassText a _ := .intro .nil htab hparent hbody
  have hb : ClassText b _ := .intro .nil hspace .none (.intro .nil)
  have hclasses : ClassesText [a, b] text.toList := by
    have hpieces := ClassesText.cons ha (.cons hb .nil)
    refine (congrArg (ClassesText [a, b]) ?_).mp hpieces
    decide
  exact ⟨hlegible, hclasses, Team.scan_classesText team "main" hlegible hclasses⟩

end DesignMetrics.Source
