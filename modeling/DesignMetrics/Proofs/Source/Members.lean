import DesignMetrics.Proofs.Source.Written

/-!
# Reading members as they are written

Each of the two readers of members reads back the members of its kind and passes over the others.
-/

namespace DesignMetrics.Source

open Text (isWord isBlank)

variable {words leads keywords : List String} {text rest gap : List Char} {name : String}

/-! ## Words of headers -/

theorem isWordRun_of_mem_headerWords {word : String} (h : word ∈ headerWords) :
    IsWordRun word.toList := by
  have hall : ∀ word ∈ headerWords, IsWordRun word.toList := by decide
  exact hall word h

theorem mem_headerWords_of_mem_memberLeads : ∀ word ∈ memberLeads, word ∈ headerWords := by
  decide

theorem mem_headerWords_of_mem_classModifiers :
    ∀ word ∈ classModifiers, word ∈ headerWords := by
  decide

/-- A word with white space behind it leads. -/
theorem lead?_tokens {word : String} (hw : IsWordRun word.toList) (hg : IsGap gap)
    (hrest : Ends isBlank rest) :
    lead? (tokens (word.toList ++ (gap ++ rest))) = some (word, tokens rest) := by
  rw [tokens_word_gap hw hg hrest, lead?, String.ofList_toList]

/-- A word that is not among those that may lead is not passed over. -/
theorem unled_tokens {word : String} (hw : IsWordRun word.toList) (hg : IsGap gap)
    (hrest : Ends isBlank rest) (hmem : word ∉ words) :
    Unled words (tokens (word.toList ++ (gap ++ rest))) := by
  intro word' rest' hlead
  rw [lead?_tokens hw hg hrest] at hlead
  obtain ⟨rfl, _⟩ := Prod.mk.inj (Option.some.inj hlead)
  exact hmem

/-- A keyword in front of a name is read with it. -/
theorem namedBy?_tokens {keyword : String} (hmem : keyword ∈ keywords)
    (hk : IsWordRun keyword.toList) (hg : IsGap gap) (hn : IsWordRun name.toList)
    (hrest : Ends isWord rest) :
    namedBy? keywords (tokens (keyword.toList ++ (gap ++ (name.toList ++ rest)))) =
      some (name, tokens rest) := by
  unfold namedBy?
  rw [lead?_tokens hk hg (hn.ends_isBlank rest), tokens_word_append hn hrest]
  dsimp only
  rw [if_pos hmem, String.ofList_toList]

/-! ## Leading words -/

/-- Words that may lead may lead among more. -/
theorem LeadsText.mono {words' : List String} (hsub : ∀ word ∈ words, word ∈ words')
    (h : LeadsText words text) : LeadsText words' text := by
  induction h with
  | nil => exact .nil
  | cons hword hg _ ih => exact .cons (hsub _ hword) hg ih

/-- Leading words may be written in two goes. -/
theorem LeadsText.append (h : LeadsText words text) (h' : LeadsText words rest) :
    LeadsText words (text ++ rest) := by
  induction h with
  | nil => exact h'
  | cons hword hg _ ih =>
    rw [List.append_assoc, List.append_assoc]
    exact .cons hword hg ih

/-- A visibility is written as a leading word, or not at all. -/
theorem VisibilityText.leadsText {v : Visibility} (h : VisibilityText v text) :
    LeadsText ["private", "protected", "public"] text := by
  cases h with
  | unsaid => exact .nil
  | @said word gap hword hg =>
    rw [← List.append_nil gap]
    exact .cons hword hg .nil

/-- So is an override. -/
theorem OverrideText.leadsText {overrides : Bool} (h : OverrideText overrides text) :
    LeadsText ["override"] text := by
  cases h with
  | unsaid => exact .nil
  | @said gap hg =>
    rw [← List.append_nil gap]
    exact .cons List.mem_cons_self hg .nil

/-- Leading words begin with a word, so that white space in front of them does not go on. -/
theorem LeadsText.ends_isBlank (hwords : ∀ word ∈ words, word ∈ headerWords)
    (h : LeadsText words text) (hrest : Ends isBlank rest) : Ends isBlank (text ++ rest) := by
  cases h with
  | nil => exact hrest
  | cons hword hg _ =>
    rw [List.append_assoc]
    exact (isWordRun_of_mem_headerWords (hwords _ hword)).ends_isBlank _

/-- Leading words are passed over. -/
theorem LeadsText.skipLeads_eq (hwords : ∀ word ∈ words, word ∈ headerWords)
    (hsub : ∀ word ∈ words, word ∈ leads) (h : LeadsText words text)
    (hrest : Ends isBlank rest) :
    skipLeads leads (tokens (text ++ rest)) = skipLeads leads (tokens rest) := by
  induction h with
  | nil => rfl
  | cons hword hg htext ih =>
    have hw := isWordRun_of_mem_headerWords (hwords _ hword)
    rw [List.append_assoc, List.append_assoc,
      skipLeads_of_mem (lead?_tokens hw hg (htext.ends_isBlank hwords hrest)) (hsub _ hword), ih]

/-- Other words are not. -/
theorem LeadsText.unled (hwords : ∀ word ∈ words, word ∈ headerWords)
    (hd : ∀ word ∈ words, word ∉ leads) (h : LeadsText words text) (hrest : Ends isBlank rest)
    (hunled : Unled leads (tokens rest)) : Unled leads (tokens (text ++ rest)) := by
  cases h with
  | nil => exact hunled
  | cons hword hg htext =>
    have hw := isWordRun_of_mem_headerWords (hwords _ hword)
    rw [List.append_assoc, List.append_assoc]
    exact unled_tokens hw hg (htext.ends_isBlank hwords hrest) (hd _ hword)

/-- Leading words hold no header if what they lead holds none. -/
theorem LeadsText.quiet (hwords : ∀ word ∈ words, word ∈ headerWords)
    (hd : ∀ word ∈ words, word ∉ keywords) (h : LeadsText words text)
    (hrest : Ends isBlank rest) (hne : rest ≠ []) (hquiet : Quiet leads keywords (tokens rest)) :
    Quiet leads keywords (tokens (text ++ rest)) := by
  induction h with
  | nil => exact hquiet
  | @cons word gap text hword hg htext ih =>
    have hw := isWordRun_of_mem_headerWords (hwords _ hword)
    rw [List.append_assoc, List.append_assoc,
      tokens_word_gap hw hg (htext.ends_isBlank hwords hrest)]
    -- the word may lead a header, but only one that starts in what follows
    have hnil : tokens (text ++ rest) ≠ [] := tokens_ne_nil (by simp [hne])
    refine Quiet.word_blank ?_ (fun h => absurd h hnil) ih
    rw [String.ofList_toList]
    exact hd word hword

/-! ## Members of either kind -/

/-- A member: leading words, a keyword, the name, and what ends the line. -/
inductive MemberText (keywords : List String) (name : String) (ending : List Char) :
    List Char → Prop where
  | intro {before gap : List Char} {keyword : String} : LeadsText memberLeads before →
      keyword ∈ keywords → IsGap gap → MemberText keywords name ending
        (before ++ (keyword.toList ++ (gap ++ (name.toList ++ ending))))

/-- A method is a member with `fun` for its keyword. -/
theorem MethodText.memberText {m : Method} (h : MethodText m text) :
    MemberText ["fun"] m.name methodEnd text := by
  obtain @⟨visibility, before, overrides, after, gap, hv, hb, ho, ha, hg⟩ := h
  have hsub : ∀ word ∈ memberModifiers, word ∈ memberLeads := by decide
  have hvisibility : LeadsText memberLeads visibility := hv.leadsText.mono (by decide)
  have hover : LeadsText memberLeads overrides := ho.leadsText.mono (by decide)
  have hleads : LeadsText memberLeads (visibility ++ (before ++ (overrides ++ after))) :=
    hvisibility.append <| (hb.mono hsub).append <| hover.append (ha.mono hsub)
  have hfun : "fun" ∈ ["fun"] := List.mem_cons_self
  simpa only [List.append_assoc] using MemberText.intro hleads hfun hg

/-- An attribute is a member with `val` or `var`. -/
theorem AttributeText.memberText {a : Attribute} (h : AttributeText a text) :
    MemberText ["val", "var"] a.name attributeEnd text := by
  obtain @⟨visibility, before, gap, keyword, hv, hb, hk, hg⟩ := h
  have hsub : ∀ word ∈ "override" :: memberModifiers, word ∈ memberLeads := by decide
  have hvisibility : LeadsText memberLeads visibility := hv.leadsText.mono (by decide)
  have hleads : LeadsText memberLeads (visibility ++ before) := hvisibility.append (hb.mono hsub)
  rw [← List.append_assoc]
  exact .intro hleads hk hg

/-- A member begins with a word. -/
theorem MemberText.ends_isBlank {ending : List Char}
    (hwords : ∀ word ∈ words, word ∈ headerWords) (h : MemberText words name ending text)
    (rest : List Char) : Ends isBlank (text ++ rest) := by
  obtain @⟨before, gap, keyword, hb, hk, hg⟩ := h
  have hkeyword := isWordRun_of_mem_headerWords (hwords _ hk)
  rw [List.append_assoc]
  refine hb.ends_isBlank mem_headerWords_of_mem_memberLeads ?_
  rw [List.append_assoc]
  exact hkeyword.ends_isBlank _

/-- A member that ends its line ends with a line feed. -/
theorem MemberText.getLast?_eq {ending : List Char} (h : MemberText words name ending text)
    (hending : ending.getLast? = some '\n') : text.getLast? = some '\n' := by
  obtain ⟨_, _, _⟩ := h
  simp [List.getLast?_append, hending]

/-- A member of another kind holds no header if there is none from its name on. -/
theorem MemberText.quiet {ending : List Char} (hwords : ∀ word ∈ words, word ∈ headerWords)
    (h : MemberText words name ending text) (hn : IsWordRun name.toList)
    (hending : Ends isWord ending) (hd : ∀ word ∈ words, word ∉ keywords)
    (hleads : ∀ word ∈ memberLeads, word ∉ keywords)
    (hquiet : Quiet leads keywords (.word name.toList :: tokens ending)) :
    Quiet leads keywords (tokens text) := by
  obtain @⟨before, gap, keyword, hb, hk, hg⟩ := h
  have hkeyword := isWordRun_of_mem_headerWords (hwords _ hk)
  refine hb.quiet mem_headerWords_of_mem_memberLeads hleads (hkeyword.ends_isBlank _)
    (by simp [hkeyword.ne_nil]) ?_
  rw [tokens_word_gap hkeyword hg (hn.ends_isBlank _), tokens_word_append hn hending]
  refine Quiet.word_blank ?_ (fun h => absurd h (by simp)) hquiet
  rw [String.ofList_toList]
  exact hd keyword hk

theorem tokens_methodEnd : tokens methodEnd =
    [.mark '(', .mark ')', .blank [' '], .mark '\x7b', .mark '\x7d', .blank ['\n']] := by
  decide

theorem tokens_attributeEnd : tokens attributeEnd =
    [.blank [' '], .mark '=', .blank [' '], .word ['0'], .blank ['\n']] := by
  decide

/-- What ends a method holds no header. -/
theorem quiet_methodEnd (leads keywords : List String) :
    Quiet leads keywords (tokens methodEnd) := by
  rw [tokens_methodEnd]
  have hbraces : Quiet leads keywords [.mark '\x7b', .mark '\x7d', .blank ['\n']] :=
    .mark _ <| .mark _ <| .blank _ trivial
  exact .mark _ <| .mark _ <| .blank _ hbraces

/-- What ends an attribute holds no header. -/
theorem quiet_attributeEnd (hleads : ∀ word ∈ leads, word ∈ headerWords)
    (hkeywords : ∀ word ∈ keywords, word ∈ headerWords) :
    Quiet leads keywords (tokens attributeEnd) := by
  rw [tokens_attributeEnd]
  have hzero : String.ofList ['0'] ∉ headerWords := by decide
  have hvalue : Quiet leads keywords [.word ['0'], .blank ['\n']] :=
    .word_blank (fun h => hzero (hkeywords _ h)) (fun _ h => hzero (hleads _ h)) trivial
  exact .blank _ <| .mark _ <| .blank _ hvalue

/-- The line of a method holds no header of another kind. -/
theorem MethodText.quiet {m : Method} (h : MethodText m text) (hn : IsName m.name)
    (hd : ∀ word ∈ "fun" :: memberLeads, word ∉ keywords) :
    Quiet leads keywords (tokens text) := by
  rw [List.forall_mem_cons] at hd
  refine h.memberText.quiet (by decide) hn.letters (by decide) (by simpa using hd.1) hd.2 ?_
  have hend := quiet_methodEnd leads keywords
  rw [tokens_methodEnd] at hend ⊢
  exact hend.word_mark _ _

/-- The line of an attribute holds no header of another kind. -/
theorem AttributeText.quiet {a : Attribute} (h : AttributeText a text) (hn : IsName a.name)
    (hleads : ∀ word ∈ leads, word ∈ headerWords)
    (hkeywords : ∀ word ∈ keywords, word ∈ headerWords)
    (hd : ∀ word ∈ "val" :: "var" :: memberLeads, word ∉ keywords) :
    Quiet leads keywords (tokens text) := by
  rw [List.forall_mem_cons, List.forall_mem_cons] at hd
  refine h.memberText.quiet (by decide) hn.letters (by decide) (by simp [hd.1, hd.2.1]) hd.2.2 ?_
  have hend := quiet_attributeEnd hleads hkeywords
  rw [tokens_attributeEnd] at hend ⊢
  refine Quiet.word_blank ?_ (fun h => absurd h (by simp)) hend.2
  rw [String.ofList_toList]
  exact fun hmem => hn.free (hkeywords _ hmem)

/-! ## Reading a member -/

/-- The visibility in front of a member is read back. -/
theorem VisibilityText.readVisibility_eq {v : Visibility} (h : VisibilityText v text)
    (hrest : Ends isBlank rest)
    (hunled : Unled ["private", "protected", "public"] (tokens rest)) :
    readVisibility (tokens (text ++ rest)) = (v, tokens rest) := by
  unfold readVisibility
  cases h with
  | unsaid =>
    rw [List.nil_append]
    split
    · next word rest' hlead => rw [if_neg (hunled word rest' hlead)]
    · rfl
  | @said word gap hword hg =>
    have hw : IsWordRun word.toList := by
      apply isWordRun_of_mem_headerWords
      exact mem_headerWords_of_mem_memberLeads word
        (List.mem_append_left ("override" :: memberModifiers) hword)
    rw [List.append_assoc, lead?_tokens hw hg hrest]
    dsimp only
    rw [if_pos hword]

/-- Without the word for it there is no override. -/
theorem readOverride_of_unled {ts : List Token} (h : Unled ["override"] ts) :
    readOverride ts = (false, ts) := by
  unfold readOverride
  split
  · next rest hlead => exact absurd List.mem_cons_self (h _ rest hlead)
  · rfl

/-- However `override` stands among the modifiers, it is found, and so is what follows them. -/
theorem OverrideText.readOverride_eq {overrides : Bool} {after : List Char}
    (h : OverrideText overrides text) (ha : LeadsText memberModifiers after)
    (hrest : Ends isBlank rest)
    (hunled : Unled ("override" :: memberModifiers) (tokens rest)) :
    ∃ ts, readOverride (skipLeads memberModifiers (tokens (text ++ (after ++ rest)))) =
      (overrides, ts) ∧ skipLeads memberModifiers ts = tokens rest := by
  have hmods : ∀ word ∈ memberModifiers, word ∈ headerWords := by decide
  have hnot : Unled memberModifiers (tokens rest) :=
    hunled.mono fun _ => List.mem_cons_of_mem _
  have hafter : skipLeads memberModifiers (tokens (after ++ rest)) = tokens rest := by
    rw [ha.skipLeads_eq hmods (fun _ h => h) hrest, hnot.skipLeads_eq]
  cases h with
  | unsaid =>
    have hover : Unled ["override"] (tokens rest) := hunled.mono (by simp)
    -- the first run of modifiers takes in the second one
    refine ⟨tokens rest, ?_, hnot.skipLeads_eq⟩
    rw [List.nil_append, hafter, readOverride_of_unled hover]
  | @said gap hg =>
    have hw : IsWordRun "override".toList := isWordRun_of_mem_headerWords (by decide)
    have hends : Ends isBlank (after ++ rest) := ha.ends_isBlank hmods hrest
    have hstop : Unled memberModifiers (tokens ("override".toList ++ (gap ++ (after ++ rest)))) :=
      unled_tokens hw hg hends (by decide)
    refine ⟨tokens (after ++ rest), ?_, hafter⟩
    rw [List.append_assoc, hstop.skipLeads_eq, readOverride, lead?_tokens hw hg hends]
    rfl

/-- What stands before `fun` decides all of a method but its name. -/
theorem method?_tokens {m : Method} {visibility before overrides after : List Char}
    (hv : VisibilityText m.visibility visibility) (hb : LeadsText memberModifiers before)
    (ho : OverrideText m.overrides overrides) (ha : LeadsText memberModifiers after)
    (hrest : Ends isBlank rest) (hunled : Unled memberLeads (tokens rest)) :
    method? (tokens (visibility ++ (before ++ (overrides ++ (after ++ rest))))) =
      (namedBy? ["fun"] (tokens rest)).map fun (name, rest) =>
        (⟨name, m.visibility, m.overrides⟩, rest) := by
  have hmods : ∀ word ∈ memberModifiers, word ∈ headerWords := by decide
  have hafter : Ends isBlank (after ++ rest) := ha.ends_isBlank hmods hrest
  have hover : Ends isBlank (overrides ++ (after ++ rest)) :=
    ho.leadsText.ends_isBlank (by decide) hafter
  -- no visibility stands behind the first one
  have hfirst : Unled ["private", "protected", "public"]
      (tokens (before ++ (overrides ++ (after ++ rest)))) := by
    refine hb.unled hmods (by decide) hover (ho.leadsText.unled (by decide) (by decide) hafter ?_)
    exact ha.unled hmods (by decide) hrest (hunled.mono (by decide))
  obtain ⟨ts, hts, hskip⟩ := ho.readOverride_eq ha hrest (hunled.mono (by decide))
  unfold method?
  rw [hv.readVisibility_eq (hb.ends_isBlank hmods hover) hfirst]
  dsimp only
  rw [hb.skipLeads_eq hmods (fun _ h => h) hover, hts]
  dsimp only
  rw [hskip]

/-- A method is read up to its name. -/
theorem MethodText.method?_eq {m : Method} (h : MethodText m text) (hn : IsName m.name)
    (rest : List Char) :
    method? (tokens (text ++ rest)) = some (m, tokens (methodEnd ++ rest)) := by
  obtain @⟨visibility, before, overrides, after, gap, hv, hb, ho, ha, hg⟩ := h
  have hfun : IsWordRun "fun".toList := isWordRun_of_mem_headerWords (by decide)
  have hending : Ends isWord (methodEnd ++ rest) :=
    Ends.append (by decide) (by decide) rest
  have hunled := unled_tokens hfun hg
    (hn.letters.ends_isBlank (methodEnd ++ rest)) (by decide : "fun" ∉ memberLeads)
  have hread := method?_tokens hv hb ho ha (hfun.ends_isBlank _) hunled
  rw [namedBy?_tokens List.mem_cons_self hfun hg hn.letters hending, Option.map_some] at hread
  simpa only [List.append_assoc] using hread

/-- What stands before `val` or `var` decides all of an attribute but its name. -/
theorem attribute?_tokens {a : Attribute} {visibility before : List Char}
    (hv : VisibilityText a.visibility visibility)
    (hb : LeadsText ("override" :: memberModifiers) before) (hrest : Ends isBlank rest)
    (hunled : Unled memberLeads (tokens rest)) :
    attribute? (tokens (visibility ++ (before ++ rest))) =
      (namedBy? ["val", "var"] (tokens rest)).map fun (name, rest) =>
        (⟨name, a.visibility⟩, rest) := by
  have hmods : ∀ word ∈ "override" :: memberModifiers, word ∈ headerWords := by decide
  have hfirst : Unled ["private", "protected", "public"] (tokens (before ++ rest)) :=
    hb.unled hmods (by decide) hrest (hunled.mono (by decide))
  have hlast : Unled ("override" :: memberModifiers) (tokens rest) := hunled.mono (by decide)
  unfold attribute?
  rw [hv.readVisibility_eq (hb.ends_isBlank hmods hrest) hfirst]
  dsimp only
  rw [hb.skipLeads_eq hmods (fun _ h => h) hrest, hlast.skipLeads_eq]

/-- An attribute is read up to its name. -/
theorem AttributeText.attribute?_eq {a : Attribute} (h : AttributeText a text)
    (hn : IsName a.name) (rest : List Char) :
    attribute? (tokens (text ++ rest)) = some (a, tokens (attributeEnd ++ rest)) := by
  obtain @⟨visibility, before, gap, keyword, hv, hb, hk, hg⟩ := h
  have hvalues : ∀ keyword ∈ ["val", "var"], keyword ∈ headerWords ∧ keyword ∉ memberLeads := by
    decide
  have hkeyword : IsWordRun keyword.toList := isWordRun_of_mem_headerWords (hvalues _ hk).1
  have hending : Ends isWord (attributeEnd ++ rest) := Ends.append (by decide) (by decide) rest
  have hunled := unled_tokens hkeyword hg
    (hn.letters.ends_isBlank (attributeEnd ++ rest)) (hvalues _ hk).2
  have hread := attribute?_tokens hv hb (hkeyword.ends_isBlank _) hunled
  rw [namedBy?_tokens hk hkeyword hg hn.letters hending, Option.map_some] at hread
  simpa only [List.append_assoc] using hread

/-! ## Lines of a body -/

/-- A line is apart from what follows, unless that starts with white space. -/
theorem apart_of_line (hline : text.getLast? = some '\n') (hrest : Ends isBlank rest) :
    Apart text rest := by
  intro c hc
  rw [hline] at hc
  obtain rfl := Option.some.inj hc
  exact ⟨fun hword => absurd hword (by decide), fun _ => hrest⟩

/-- What comes after a method does not go on what ends it. -/
theorem MethodText.apart {m : Method} (h : MethodText m text) (hrest : Ends isBlank rest) :
    Apart text rest :=
  apart_of_line (h.memberText.getLast?_eq rfl) hrest

/-- Nor does what comes after an attribute. -/
theorem AttributeText.apart {a : Attribute} (h : AttributeText a text)
    (hrest : Ends isBlank rest) : Apart text rest :=
  apart_of_line (h.memberText.getLast?_eq rfl) hrest

/-- A reader passes over text that holds no header. -/
theorem Reads.readAll_tokens_append {α : Type} {read? : List Token → Option (α × List Token)}
    (hr : Reads leads keywords read?) (hquiet : Quiet leads keywords (tokens text))
    (happart : Apart text rest) :
    readAll read? (tokens (text ++ rest)) = readAll read? (tokens rest) := by
  rw [tokens_append happart, hr.readAll_append hquiet]

/-- The methods found from the line of a method on. -/
theorem MethodText.readAll_method?_eq {m : Method} (h : MethodText m text) (hn : IsName m.name)
    (hrest : Ends isBlank rest) :
    readAll method? (tokens (text ++ rest)) = m :: readAll method? (tokens rest) := by
  have happart : Apart methodEnd rest := apart_of_line rfl hrest
  rw [method?_reads.readAll_eq (h.method?_eq hn rest),
    method?_reads.readAll_tokens_append (quiet_methodEnd _ _) happart]

/-- The line of an attribute adds no method. -/
theorem AttributeText.readAll_method?_eq {a : Attribute} (h : AttributeText a text)
    (hn : IsName a.name) (hrest : Ends isBlank rest) :
    readAll method? (tokens (text ++ rest)) = readAll method? (tokens rest) := by
  have hquiet : Quiet memberLeads ["fun"] (tokens text) :=
    h.quiet hn mem_headerWords_of_mem_memberLeads (by decide) (by decide)
  exact method?_reads.readAll_tokens_append hquiet (h.apart hrest)

/-- The attributes found from the line of an attribute on. -/
theorem AttributeText.readAll_attribute?_eq {a : Attribute} (h : AttributeText a text)
    (hn : IsName a.name) (hrest : Ends isBlank rest) :
    readAll attribute? (tokens (text ++ rest)) = a :: readAll attribute? (tokens rest) := by
  have hquiet : Quiet memberLeads ["val", "var"] (tokens attributeEnd) :=
    quiet_attributeEnd mem_headerWords_of_mem_memberLeads (by decide)
  have happart : Apart attributeEnd rest := apart_of_line rfl hrest
  rw [attribute?_reads.readAll_eq (h.attribute?_eq hn rest),
    attribute?_reads.readAll_tokens_append hquiet happart]

/-- The line of a method adds no attribute. -/
theorem MethodText.readAll_attribute?_eq {m : Method} (h : MethodText m text)
    (hn : IsName m.name) (hrest : Ends isBlank rest) :
    readAll attribute? (tokens (text ++ rest)) = readAll attribute? (tokens rest) := by
  have hquiet : Quiet memberLeads ["val", "var"] (tokens text) := h.quiet hn (by decide)
  exact attribute?_reads.readAll_tokens_append hquiet (h.apart hrest)

/-! ## Reading a body -/

section
variable {methods : List Method} {attributes : List Attribute}

/-- Members begin with words. -/
theorem MembersText.ends_isBlank (h : MembersText methods attributes text)
    (hrest : Ends isBlank rest) : Ends isBlank (text ++ rest) := by
  cases h with
  | nil => exact hrest
  | consMethod hm _ =>
    rw [List.append_assoc]
    exact hm.memberText.ends_isBlank (by decide) _
  | consAttribute ha _ =>
    rw [List.append_assoc]
    exact ha.memberText.ends_isBlank (by decide) _

/-- All methods are read back, in order, and none of the attributes for one. -/
theorem MembersText.readAll_method?_eq (h : MembersText methods attributes text)
    (hm : ∀ m ∈ methods, IsName m.name) (ha : ∀ a ∈ attributes, IsName a.name)
    (hrest : Ends isBlank rest) :
    readAll method? (tokens (text ++ rest)) = methods ++ readAll method? (tokens rest) := by
  induction h with
  | nil => rfl
  | consMethod hline htext ih =>
    rw [List.forall_mem_cons] at hm
    rw [List.append_assoc, hline.readAll_method?_eq hm.1 (htext.ends_isBlank hrest), ih hm.2 ha]
    rfl
  | consAttribute hline htext ih =>
    rw [List.forall_mem_cons] at ha
    rw [List.append_assoc, hline.readAll_method?_eq ha.1 (htext.ends_isBlank hrest), ih hm ha.2]

/-- All attributes are read back, in order, and none of the methods for one. -/
theorem MembersText.readAll_attribute?_eq (h : MembersText methods attributes text)
    (hm : ∀ m ∈ methods, IsName m.name) (ha : ∀ a ∈ attributes, IsName a.name)
    (hrest : Ends isBlank rest) :
    readAll attribute? (tokens (text ++ rest)) =
      attributes ++ readAll attribute? (tokens rest) := by
  induction h with
  | nil => rfl
  | consMethod hline htext ih =>
    rw [List.forall_mem_cons] at hm
    rw [List.append_assoc, hline.readAll_attribute?_eq hm.1 (htext.ends_isBlank hrest), ih hm.2 ha]
  | consAttribute hline htext ih =>
    rw [List.forall_mem_cons] at ha
    rw [List.append_assoc, hline.readAll_attribute?_eq ha.1 (htext.ends_isBlank hrest), ih hm ha.2]
    rfl

/-- Members hold no class header. -/
theorem MembersText.quiet (h : MembersText methods attributes text)
    (hm : ∀ m ∈ methods, IsName m.name) (ha : ∀ a ∈ attributes, IsName a.name)
    (hrest : Ends isBlank rest) (hquiet : Quiet classModifiers ["class"] (tokens rest)) :
    Quiet classModifiers ["class"] (tokens (text ++ rest)) := by
  induction h with
  | nil => exact hquiet
  | consMethod hline htext ih =>
    rw [List.forall_mem_cons] at hm
    rw [List.append_assoc, tokens_append (hline.apart (htext.ends_isBlank hrest))]
    exact (hline.quiet hm.1 (by decide)).append (ih hm.2 ha)
  | @consAttribute a methods attributes line text hline htext ih =>
    rw [List.forall_mem_cons] at ha
    have hquiet' : Quiet classModifiers ["class"] (tokens line) :=
      hline.quiet ha.1 mem_headerWords_of_mem_classModifiers (by decide) (by decide)
    rw [List.append_assoc, tokens_append (hline.apart (htext.ends_isBlank hrest))]
    exact hquiet'.append (ih hm ha.2)

end

section
variable {info : ClassInfo} {body : List Char}

/-- An opening brace is apart from whatever follows. -/
theorem apart_bodyStart (rest : List Char) : Apart bodyStart rest := by
  intro c hc
  obtain rfl : c = '\x7b' := (Option.some.inj hc).symm
  exact ⟨fun hword => absurd hword (by decide), fun hblank => absurd hblank (by decide)⟩

/-- What begins a body holds no header. -/
theorem quiet_bodyStart (leads keywords : List String) :
    Quiet leads keywords (tokens bodyStart) := by
  have htokens : tokens bodyStart = [.blank [' '], .mark '\x7b'] := by decide
  rw [htokens]
  exact .blank _ <| .mark _ trivial

/-- The methods of a body are those that were written there. -/
theorem BodyText.methodsOf_eq (h : BodyText info body) (hl : Legible info) :
    methodsOf (String.ofList body) = info.methods := by
  obtain @⟨members, hmembers⟩ := h
  unfold methodsOf
  rw [String.toList_ofList,
    method?_reads.readAll_tokens_append (quiet_bodyStart _ _) (apart_bodyStart _),
    hmembers.readAll_method?_eq hl.methods hl.attributes (by decide)]
  exact List.append_nil _

/-- The attributes of a body are those that were written there. -/
theorem BodyText.attributesOf_eq (h : BodyText info body) (hl : Legible info) :
    attributesOf (String.ofList body) = info.attributes := by
  obtain @⟨members, hmembers⟩ := h
  unfold attributesOf
  rw [String.toList_ofList,
    attribute?_reads.readAll_tokens_append (quiet_bodyStart _ _) (apart_bodyStart _),
    hmembers.readAll_attribute?_eq hl.methods hl.attributes (by decide)]
  exact List.append_nil _

/-- A body holds no class header. -/
theorem BodyText.quiet (h : BodyText info body) (hl : Legible info) :
    Quiet classModifiers ["class"] (tokens body) := by
  obtain @⟨members, hmembers⟩ := h
  have hend : tokens bodyEnd = [.mark '\x7d', .blank ['\n']] := by decide
  have hquiet : Quiet classModifiers ["class"] (tokens bodyEnd) := by
    rw [hend]
    exact .mark _ <| .blank _ trivial
  rw [tokens_append (apart_bodyStart _)]
  exact (quiet_bodyStart _ _).append
    (hmembers.quiet hl.methods hl.attributes (by decide) hquiet)

/-- A body ends with a line feed. -/
theorem BodyText.getLast?_eq (h : BodyText info body) : body.getLast? = some '\n' := by
  obtain @⟨members, _⟩ := h
  have hend : bodyEnd.getLast? = some '\n' := by decide
  simp [List.getLast?_append, hend]

end

end DesignMetrics.Source
