import DesignMetrics.Proofs.Source.Cut

/-!
# The grammar of class headers

What a class header is made of, as a grammar over the characters of a text. Every piece of it is as
long as it can be, so each rule also tells what may follow the piece. The reader of headers reads
what the grammar describes, and nothing else.
-/

namespace DesignMetrics.Source

open Text (isWord isBlank)

variable {text rest more : List Char} {ts us : List Token} {header : Header}

/-! ## The grammar -/

/-- The arguments of a parent, up to the first `)`. They are left out only where no `(` follows or
no `)` comes later. -/
inductive GroupText : List Char → List Char → Prop where
  | none {rest : List Char} : (∀ more, rest = '(' :: more → ')' ∉ more) → GroupText [] rest
  | some {arguments rest : List Char} : ')' ∉ arguments →
      GroupText ('(' :: (arguments ++ [')'])) rest

/-- A text starts with a colon and a letter of a type, which may have white space around the
colon. -/
def StartsClause (text : List Char) : Prop :=
  ∃ before after c more, (∀ b ∈ before, isBlank b = true) ∧ (∀ b ∈ after, isBlank b = true) ∧
    isTypeLetter c = true ∧ text = before ++ ':' :: (after ++ c :: more)

/-- The clause that names a parent. It is left out only where none starts. -/
inductive ClauseText : Option String → List Char → List Char → Prop where
  | none {rest : List Char} : ¬StartsClause rest → ClauseText none [] rest
  | some {parent : String} {before after arguments rest : List Char} :
      (∀ b ∈ before, isBlank b = true) → (∀ b ∈ after, isBlank b = true) → IsTypeName parent →
      Ends isTypeLetter (arguments ++ rest) → GroupText arguments rest →
      ClauseText (some parent) (before ++ (':' :: (after ++ (parent.toList ++ arguments)))) rest

/-- A class header: modifiers, `class`, a name and a parent clause. -/
inductive HeaderText : Header → List Char → List Char → Prop where
  | intro {name : String} {parent : Option String} {modifiers source clause rest : List Char} :
      LeadsText classModifiers modifiers → NameText ["class"] name source (clause ++ rest) →
      ClauseText parent clause rest →
      HeaderText ⟨name, parent⟩ (modifiers ++ (source ++ clause)) rest

/-! ## Less of the text behind a header

What is no continuation of a piece is none either if the text breaks off earlier. -/

theorem GroupText.of_append {arguments : List Char} (h : GroupText arguments (rest ++ more)) :
    GroupText arguments rest := by
  cases h with
  | none hopen =>
    refine .none fun later hrest hmem => hopen (later ++ more) (by rw [hrest]; rfl) ?_
    exact List.mem_append_left more hmem
  | some hclose => exact .some hclose

theorem StartsClause.append (h : StartsClause text) (more : List Char) :
    StartsClause (text ++ more) := by
  obtain ⟨before, after, c, later, hbefore, hafter, hc, rfl⟩ := h
  exact ⟨before, after, c, later ++ more, hbefore, hafter, hc, by simp⟩

theorem ClauseText.of_append {parent : Option String} {clause : List Char}
    (h : ClauseText parent clause (rest ++ more)) : ClauseText parent clause rest := by
  cases h with
  | none hnone => exact .none fun hstart => hnone (hstart.append more)
  | some hbefore hafter hparent hends hgroup =>
    rw [← List.append_assoc] at hends
    exact .some hbefore hafter hparent hends.of_append hgroup.of_append

theorem NameText.of_append {keywords : List String} {name : String} {source : List Char}
    (h : NameText keywords name source (rest ++ more)) : NameText keywords name source rest := by
  obtain ⟨hmem, hgap, hname, hends⟩ := h
  exact .intro hmem hgap hname hends.of_append

theorem HeaderText.of_append {source : List Char} (h : HeaderText header source (rest ++ more)) :
    HeaderText header source rest := by
  obtain ⟨hmodifiers, hname, hclause⟩ := h
  rw [← List.append_assoc] at hname
  exact .intro hmodifiers hname.of_append hclause.of_append

/-! ## Types and white space -/

theorem isBlank_eq_false_of_isTypeLetter {c : Char} (h : isTypeLetter c = true) :
    isBlank c = false := by
  simp only [isTypeLetter, Bool.or_eq_true, beq_iff_eq] at h
  rcases h with (hword | rfl) | rfl
  · exact Text.isBlank_eq_false_of_isWord hword
  · decide
  · decide

theorem isWord_eq_false_of_isTypeLetter {c : Char} (h : isTypeLetter c = false) :
    isWord c = false := by
  rw [isTypeLetter, Bool.or_eq_false_iff, Bool.or_eq_false_iff] at h
  exact h.1.1

theorem isTypePart_of_mem_tokens (h : ∀ c ∈ text, isTypeLetter c = true) {t : Token}
    (ht : t ∈ tokens text) : isTypePart t = true := by
  have hproper := Token.proper_of_mem_tokens ht
  have hmem := fun c (hc : c ∈ t.text) => h c (Token.mem_of_mem_tokens ht hc)
  cases t with
  | word letters => rfl
  | blank spaces =>
    have hgap : IsGap spaces := hproper
    obtain ⟨c, spaces, rfl⟩ := List.exists_cons_of_ne_nil hgap.ne_nil
    have hc := isBlank_eq_false_of_isTypeLetter (hmem c List.mem_cons_self)
    rw [hgap.all c List.mem_cons_self] at hc
    exact absurd hc (by simp)
  | mark c =>
    have hc : isTypeLetter c = true := hmem c List.mem_cons_self
    have hword : isWord c = false := hproper.1
    simpa [isTypeLetter, isTypePart, hword] using hc

/-- A part of a type starts with a letter of a type. -/
theorem exists_of_isTypePart {t : Token} (hproper : t.Proper) (h : isTypePart t = true) :
    ∃ c letters, t.text = c :: letters ∧ isTypeLetter c = true := by
  cases t with
  | word letters =>
    have hletters : IsWordRun letters := hproper
    obtain ⟨c, letters, rfl⟩ := List.exists_cons_of_ne_nil hletters.ne_nil
    refine ⟨c, letters, rfl, ?_⟩
    rw [isTypeLetter, hletters.all c List.mem_cons_self]
    rfl
  | blank spaces => exact absurd h (by simp [isTypePart])
  | mark c => exact ⟨c, [], rfl, by simpa [isTypePart, isTypeLetter, or_assoc] using Or.inr h⟩

/-- Where no type goes on, no part of a type comes next. -/
theorem Ends.takeWhile_isTypePart (h : Ends isTypeLetter text) :
    (tokens text).takeWhile isTypePart = [] := by
  cases htokens : tokens text with
  | nil => rfl
  | cons t us =>
    obtain ⟨rest, rfl, -, hproper, -⟩ := exists_of_tokens_eq_cons htokens
    refine List.takeWhile_cons_of_neg fun hpart => ?_
    obtain ⟨c, letters, ht, hc⟩ := exists_of_isTypePart hproper hpart
    rw [ht] at h
    rw [h c rfl] at hc
    exact absurd hc (by simp)

theorem Ends.dropWhile_isTypePart (h : Ends isTypeLetter text) :
    (tokens text).dropWhile isTypePart = tokens text := by
  have hwhole : (tokens text).takeWhile isTypePart ++ (tokens text).dropWhile isTypePart =
      tokens text := List.takeWhile_append_dropWhile
  rwa [h.takeWhile_isTypePart, List.nil_append] at hwhole

/-- White space in front is passed over, as much of it as there is. -/
theorem skipBlank_tokens (h : ∀ c ∈ text, isBlank c = true) (hrest : Ends isBlank rest) :
    skipBlank (tokens (text ++ rest)) = tokens rest := by
  by_cases hne : text = []
  · subst hne
    rw [List.nil_append]
    unfold skipBlank
    split
    · next spaces ts heq =>
      cases rest with
      | nil => exact absurd heq (by simp [tokens])
      | cons c rest => exact absurd heq (Token.push_ne_blank (hrest c rfl) _ _ _)
    · rfl
  · rw [tokens_gap_append ⟨hne, h⟩ hrest, skipBlank]

theorem exists_of_skipBlank_tokens (text : List Char) :
    ∃ blanks rest, text = blanks ++ rest ∧ (∀ b ∈ blanks, isBlank b = true) ∧
      skipBlank (tokens text) = tokens rest := by
  unfold skipBlank
  split
  · next spaces us htokens =>
    obtain ⟨rest, rfl, rfl, hspaces, -⟩ := exists_of_tokens_eq_blank htokens
    exact ⟨spaces, rest, rfl, hspaces.all, rfl⟩
  · exact ⟨[], text, rfl, by simp, rfl⟩

/-- A type is apart from a text that carries no word on. -/
theorem apart_type {name : String} (hn : IsTypeName name) (hrest : Ends isWord rest) :
    Apart name.toList rest := by
  intro c hc
  refine ⟨fun _ => hrest, fun hblank => ?_⟩
  rw [isBlank_eq_false_of_isTypeLetter (hn.all c (List.mem_of_getLast? hc))] at hblank
  exact absurd hblank (by simp)

/-! ## Arguments of a parent -/

/-- The arguments of a parent are passed over, as far as they are closed. -/
theorem GroupText.skipArguments_eq {arguments : List Char} (h : GroupText arguments rest) :
    skipArguments (tokens (arguments ++ rest)) = tokens rest := by
  cases h with
  | none hopen =>
    rw [List.nil_append]
    unfold skipArguments
    split
    · next us htokens =>
      obtain ⟨more, hrest, rfl, -, -⟩ := exists_of_tokens_eq_cons htokens
      have hclose : ')' ∉ more := hopen more hrest
      split
      · next t later hdrop =>
        -- no `)` is among the tokens, since none is in the text
        have hmem : Token.mark ')' ∈ tokens more := by
          have hnot := List.head?_dropWhile_not (· != Token.mark ')') (tokens more)
          rw [hdrop] at hnot
          obtain rfl : t = .mark ')' := by simpa using hnot
          exact (List.dropWhile_suffix _).subset (hdrop ▸ List.mem_cons_self)
        exact absurd (Token.mem_of_mem_tokens hmem List.mem_cons_self) hclose
      · rfl
    · rfl
  | @some arguments _ hclose =>
    have hopen : isWord '(' = false ∧ isBlank '(' = false := by decide
    have hshut : isWord ')' = false ∧ isBlank ')' = false := by decide
    have happart : Apart arguments (')' :: rest) :=
      fun _ _ => ⟨fun _ => ends_cons hshut.1 _, fun _ => ends_cons hshut.2 _⟩
    have htokens : tokens ('(' :: (arguments ++ [')']) ++ rest) =
        .mark '(' :: (tokens arguments ++ .mark ')' :: tokens rest) := by
      rw [List.cons_append, tokens_mark hopen.1 hopen.2, List.append_assoc, List.singleton_append,
        tokens_append happart, tokens_mark hshut.1 hshut.2]
    have hpass : ∀ t ∈ tokens arguments, (t != .mark ')') = true := by
      intro t ht
      rw [bne_iff_ne]
      rintro rfl
      exact hclose (Token.mem_of_mem_tokens ht List.mem_cons_self)
    rw [htokens, skipArguments, List.dropWhile_append_of_pos hpass,
      List.dropWhile_cons_of_neg (by simp)]

/-- Every text begins with arguments, if only with none. -/
theorem exists_groupText (text : List Char) :
    ∃ arguments rest, text = arguments ++ rest ∧ GroupText arguments rest := by
  by_cases h : ∃ more, text = '(' :: more ∧ ')' ∈ more
  · obtain ⟨more, rfl, hmem⟩ := h
    obtain ⟨arguments, rest, rfl, hclose⟩ := List.eq_append_cons_of_mem hmem
    exact ⟨_, rest, by simp, .some hclose⟩
  · exact ⟨[], text, rfl, .none fun more htext hmem => h ⟨more, htext, hmem⟩⟩

/-! ## Parent clauses -/

/-- What is read after a colon, if a type stands there. -/
theorem parentClause?_of_colon {name : String}
    (hcolon : skipBlank ts = .mark ':' :: us)
    (hname : textOf ((skipBlank us).takeWhile isTypePart) = name.toList)
    (hne : name.toList ≠ []) :
    parentClause? ts = some (name, skipArguments ((skipBlank us).dropWhile isTypePart)) := by
  unfold parentClause?
  split
  · next rest heq =>
    obtain rfl : us = rest := by simpa [hcolon] using heq
    dsimp only
    split
    · next hnil =>
      rw [hnil] at hname
      exact absurd hname.symm hne
    · rw [hname, String.ofList_toList]
  · next hnone => exact absurd hcolon (hnone us)

theorem startsClause_of_parentClause? {parent : String}
    (h : parentClause? (tokens text) = some (parent, us)) : StartsClause text := by
  obtain ⟨before, later, rfl, hbefore, hskip⟩ := exists_of_skipBlank_tokens text
  unfold parentClause? at h
  rw [hskip] at h
  split at h
  · next ts hcolon =>
    obtain ⟨behind, rfl, rfl, -, -⟩ := exists_of_tokens_eq_cons hcolon
    obtain ⟨after, name, rfl, hafter, hskip'⟩ := exists_of_skipBlank_tokens behind
    dsimp only at h
    rw [hskip'] at h
    split at h
    · exact absurd h (by simp)
    · next hparts =>
      -- a name that does not begin with a letter of types would have no part
      cases name with
      | nil => exact absurd rfl hparts
      | cons c more =>
        have hc : isTypeLetter c = true := by
          by_contra hc
          have hends : Ends isTypeLetter (c :: more) := ends_cons (by simpa using hc) more
          exact hparts hends.takeWhile_isTypePart
        exact ⟨before, after, c, more, hbefore, hafter, hc, rfl⟩
  · exact absurd h (by simp)

/-- The clause of a parent is read as it is written. -/
theorem ClauseText.parentClause?_eq {parent : Option String} {clause : List Char}
    (h : ClauseText parent clause rest) :
    parentClause? (tokens (clause ++ rest)) = parent.map fun name => (name, tokens rest) := by
  cases h with
  | none hnone =>
    rw [List.nil_append, Option.map_none, Option.eq_none_iff_forall_not_mem]
    exact fun r hr => hnone (startsClause_of_parentClause? hr)
  | @some name before after arguments _ hbefore hafter hn hstop hgroup =>
    have hcolon : isWord ':' = false ∧ isBlank ':' = false := by decide
    have hends : Ends isBlank (name.toList ++ (arguments ++ rest)) :=
      hn.ends (fun _ => isBlank_eq_false_of_isTypeLetter) _
    have hword : Ends isWord (arguments ++ rest) :=
      fun c hc => isWord_eq_false_of_isTypeLetter (hstop c hc)
    have hparts : ∀ t ∈ tokens name.toList, isTypePart t = true :=
      fun t => isTypePart_of_mem_tokens hn.all
    have htext : before ++ (':' :: (after ++ (name.toList ++ arguments))) ++ rest =
        before ++ (':' :: (after ++ (name.toList ++ (arguments ++ rest)))) := by
      simp only [List.append_assoc, List.cons_append]
    have hclause : skipBlank (tokens (before ++ (':' :: (after ++ (name.toList ++
        (arguments ++ rest)))))) =
        .mark ':' :: tokens (after ++ (name.toList ++ (arguments ++ rest))) := by
      rw [skipBlank_tokens hbefore (ends_cons hcolon.2 _), tokens_mark hcolon.1 hcolon.2]
    have htype : skipBlank (tokens (after ++ (name.toList ++ (arguments ++ rest)))) =
        tokens name.toList ++ tokens (arguments ++ rest) := by
      rw [skipBlank_tokens hafter hends, tokens_append (apart_type hn hword)]
    -- the type ends where the arguments or the rest start
    rw [htext, parentClause?_of_colon hclause ?_ hn.ne_nil, htype,
      List.dropWhile_append_of_pos hparts, hstop.dropWhile_isTypePart, hgroup.skipArguments_eq]
    · rfl
    · rw [htype, List.takeWhile_append_of_pos hparts, hstop.takeWhile_isTypePart,
        List.append_nil, textOf_tokens]

/-- Every text begins with a clause, if only with an empty one. -/
theorem exists_clauseText (text : List Char) :
    ∃ parent clause rest, text = clause ++ rest ∧ ClauseText parent clause rest := by
  by_cases h : StartsClause text
  · obtain ⟨before, after, c, more, hbefore, hafter, hc, rfl⟩ := h
    obtain ⟨letters, behind, htext, hletters, hends⟩ := exists_run hc more
    obtain ⟨arguments, rest, rfl, hgroup⟩ := exists_groupText behind
    have hparent : IsTypeName (String.ofList letters) := by
      rwa [IsTypeName, String.toList_ofList]
    refine ⟨_, _, rest, ?_, .some hbefore hafter hparent hends hgroup⟩
    rw [String.toList_ofList, htext]
    simp
  · exact ⟨none, [], text, rfl, .none h⟩

/-! ## Class headers -/

theorem isWordRun_class : ∀ word ∈ ["class"], IsWordRun word.toList := by
  decide

/-- What the grammar describes is read. -/
theorem HeaderText.header?_eq {source : List Char} (h : HeaderText header source rest) :
    header? (tokens (source ++ rest)) = some (header, tokens rest) := by
  obtain @⟨name, parent, modifiers, source, clause, _, hmodifiers, hname, hclause⟩ := h
  have hread := hname.namedBy?_eq isWordRun_class
  have hends : Ends isBlank (source ++ (clause ++ rest)) := by
    obtain ⟨hmem, -, -, -⟩ := hname
    rw [List.append_assoc]
    exact (isWordRun_class _ hmem).ends_isBlank _
  have hunled : Unled classModifiers (tokens (source ++ (clause ++ rest))) :=
    .of_namedBy? hread (by decide)
  rw [List.append_assoc, List.append_assoc]
  unfold header?
  rw [hmodifiers.skipLeads_eq mem_headerWords_of_mem_classModifiers (fun _ h => h) hends,
    hunled.skipLeads_eq, hread]
  dsimp only
  rw [hclause.parentClause?_eq]
  cases parent with
  | none =>
    cases hclause
    rfl
  | some parent => rfl

/-- What is read is described by the grammar. -/
theorem exists_of_header?_tokens (h : header? (tokens text) = some (header, us)) :
    ∃ source rest, text = source ++ rest ∧ us = tokens rest ∧ HeaderText header source rest := by
  obtain ⟨modifiers, behind, rfl, hmodifiers, hskip⟩ := exists_leadsText classModifiers text
  have hnamed : namedBy? ["class"] (tokens behind) ≠ none := by
    intro hnone
    unfold header? at h
    rw [hskip, hnone] at h
    exact absurd h (by simp)
  obtain ⟨⟨name, ts⟩, hname⟩ := Option.ne_none_iff_exists'.1 hnamed
  obtain ⟨source, later, rfl, rfl, hsource⟩ := exists_of_namedBy?_tokens hname
  obtain ⟨parent, clause, rest, rfl, hclause⟩ := exists_clauseText later
  have hheader : HeaderText ⟨name, parent⟩ (modifiers ++ (source ++ clause)) rest :=
    .intro hmodifiers hsource hclause
  have htext : modifiers ++ (source ++ (clause ++ rest)) =
      modifiers ++ (source ++ clause) ++ rest := by
    simp only [List.append_assoc]
  rw [htext, hheader.header?_eq] at h
  obtain ⟨rfl, rfl⟩ := Prod.mk.inj (Option.some.inj h)
  exact ⟨_, rest, htext, rfl, hheader⟩

/-- A header starts with a word. -/
theorem HeaderText.head?_any {source : List Char} (h : HeaderText header source rest)
    (more : List Char) : (source ++ more).head?.any isWord = true := by
  obtain ⟨hmodifiers, hname, -⟩ := h
  rw [List.append_assoc]
  cases hmodifiers with
  | nil =>
    rw [List.nil_append, List.append_assoc]
    exact hname.head?_any isWordRun_class _
  | cons hword _ _ =>
    have hrun := isWordRun_of_mem_headerWords (mem_headerWords_of_mem_classModifiers _ hword)
    rw [List.append_assoc]
    exact hrun.head?_any _

theorem HeaderText.ne_nil {source : List Char} (h : HeaderText header source rest) :
    source ≠ [] := by
  rintro rfl
  exact absurd (h.head?_any []) (by simp)

/-- A header is read wherever `class` and a name come after the modifiers. -/
theorem header?_eq_none_iff :
    header? ts = none ↔ namedBy? ["class"] (skipLeads classModifiers ts) = none := by
  refine ⟨fun h => ?_, header?_reads.eq_none⟩
  unfold header? at h
  split at h
  · assumption
  · split at h
    · exact absurd h (by simp)
    · exact absurd h (by simp)

/-- A keyword and a name that are read are still read if more tokens come behind them. -/
theorem namedBy?_skipLeads_append {leads keywords : List String} {name : String}
    (h : namedBy? keywords (skipLeads leads ts) = some (name, us)) (vs : List Token) :
    namedBy? keywords (skipLeads leads (ts ++ vs)) = some (name, us ++ vs) := by
  fun_induction skipLeads leads ts with
  | case1 letters spaces rest hmem ih =>
    rw [List.cons_append, List.cons_append, skipLeads_of_mem rfl hmem]
    exact ih h
  | case2 letters spaces rest hmem =>
    obtain ⟨keyword, letters', hlead, hkeyword, rfl⟩ := exists_of_namedBy?_eq_some h
    obtain ⟨rfl, rfl⟩ := Prod.mk.inj (Option.some.inj hlead)
    rw [List.cons_append, List.cons_append, skipLeads, if_neg hmem]
    exact if_pos hkeyword
  | case3 ts hnone =>
    obtain ⟨keyword, letters, hlead, -, -⟩ := exists_of_namedBy?_eq_some h
    obtain ⟨letters', spaces, rfl, -⟩ := exists_of_lead?_eq_some hlead
    exact absurd rfl (hnone letters' spaces (.word letters :: us))

/-- Where no header is read, none is read if the text breaks off earlier. -/
theorem header?_eq_none_of_append (h : header? (ts ++ us) = none) : header? ts = none := by
  rw [header?_eq_none_iff] at h ⊢
  by_contra hsome
  obtain ⟨⟨name, rest⟩, hname⟩ := Option.ne_none_iff_exists'.1 hsome
  rw [namedBy?_skipLeads_append hname us] at h
  exact absurd h (by simp)

/-- Where a name follows `class`, a header is read. -/
theorem header?_class_ne_none {gap : List Char} {c : Char} (hgap : IsGap gap)
    (hc : isWord c = true) (text : List Char) :
    header? (tokens ("class".toList ++ (gap ++ c :: text))) ≠ none := by
  obtain ⟨name, source, rest, htext, hname⟩ :=
    exists_nameText (List.mem_singleton_self "class") hgap hc text
  have hread := hname.namedBy?_eq isWordRun_class
  have hunled : Unled classModifiers (tokens (source ++ rest)) := .of_namedBy? hread (by decide)
  rw [htext, ne_eq, header?_eq_none_iff, hunled.skipLeads_eq, hread]
  simp

/-- A modifier in front of a header belongs to it. -/
theorem header?_modifier_ne_none {modifier : String} {gap : List Char}
    (hmodifier : modifier ∈ classModifiers) (hgap : IsGap gap)
    (hword : text.head?.any isWord = true) (hread : header? (tokens text) ≠ none) :
    header? (tokens (modifier.toList ++ (gap ++ text))) ≠ none := by
  have hrun := isWordRun_of_mem_headerWords (mem_headerWords_of_mem_classModifiers _ hmodifier)
  have hlead := lead?_tokens hrun hgap (ends_isBlank_of_head?_any hword)
  rw [ne_eq, header?_eq_none_iff] at hread ⊢
  rwa [skipLeads_of_mem hlead hmodifier]

end DesignMetrics.Source
