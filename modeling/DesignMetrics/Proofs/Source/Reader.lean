import DesignMetrics.Source.Declaration
import DesignMetrics.Source.Member

/-!
# Readers of headers

The three readers of headers read from the front, and they read nothing unless leading words, a
keyword and a name come next. From these two facts alone it follows which tokens a search passes
over.
-/

namespace DesignMetrics.Source

variable {α : Type} {leads leads' keywords : List String} {ts us rest : List Token}

/-! ## Leading words -/

/-- A leading word stands in front of white space. -/
theorem exists_of_lead?_eq_some {word : String} (h : lead? ts = some (word, rest)) :
    ∃ letters spaces, ts = .word letters :: .blank spaces :: rest ∧
      word = String.ofList letters := by
  unfold lead? at h
  split at h
  · next letters spaces rest' =>
    simp only [Option.some.injEq, Prod.mk.injEq] at h
    obtain ⟨rfl, rfl⟩ := h
    exact ⟨letters, spaces, rfl, rfl⟩
  · exact absurd h (by simp)

/-- A leading word is passed over. -/
theorem skipLeads_of_mem {word : String} (h : lead? ts = some (word, rest)) (hw : word ∈ leads) :
    skipLeads leads ts = skipLeads leads rest := by
  obtain ⟨letters, spaces, rfl, rfl⟩ := exists_of_lead?_eq_some h
  rw [skipLeads, if_pos hw]

/-- No word out of `words`, with white space after it, stands in front. -/
def Unled (words : List String) (ts : List Token) : Prop :=
  ∀ word rest, lead? ts = some (word, rest) → word ∉ words

theorem Unled.mono (hsub : ∀ word ∈ leads, word ∈ leads') (h : Unled leads' ts) :
    Unled leads ts :=
  fun word rest hlead hmem => h word rest hlead (hsub word hmem)

/-- Where no word leads, nothing is passed over. -/
theorem Unled.skipLeads_eq (h : Unled leads ts) : skipLeads leads ts = ts := by
  unfold skipLeads
  split
  · next letters spaces rest => rw [if_neg (h _ rest rfl)]
  · rfl

/-- Passing over words leaves the rest of the text. -/
theorem skipLeads_suffix (leads : List String) (ts : List Token) : skipLeads leads ts <:+ ts := by
  fun_induction skipLeads leads ts with
  | case1 letters spaces rest hw ih =>
    exact ih.trans ((List.suffix_cons _ _).trans (List.suffix_cons _ _))
  | case2 => exact List.suffix_rfl
  | case3 => exact List.suffix_rfl

/-- Words that are passed over in two goes are passed over in one. -/
theorem skipLeads_skipLeads (h : ∀ word ∈ leads, word ∈ leads') (ts : List Token) :
    skipLeads leads' (skipLeads leads ts) = skipLeads leads' ts := by
  fun_induction skipLeads leads ts with
  | case1 letters spaces rest hw ih =>
    rw [ih]
    exact (skipLeads_of_mem rfl (h _ hw)).symm
  | case2 => rfl
  | case3 => rfl

/-! ## Keywords and names -/

/-- A name is a word behind a keyword, with white space between them. -/
theorem exists_of_namedBy?_eq_some {name : String} (h : namedBy? keywords ts = some (name, rest)) :
    ∃ keyword letters, lead? ts = some (keyword, .word letters :: rest) ∧ keyword ∈ keywords ∧
      name = String.ofList letters := by
  unfold namedBy? at h
  split at h
  · next keyword letters rest' hlead =>
    split at h
    · next hmem =>
      simp only [Option.some.injEq, Prod.mk.injEq] at h
      obtain ⟨rfl, rfl⟩ := h
      exact ⟨keyword, letters, hlead, hmem, rfl⟩
    · exact absurd h (by simp)
  · exact absurd h (by simp)

/-- Where a name follows a keyword, that keyword is what stands in front. -/
theorem Unled.of_namedBy? {name : String} (h : namedBy? keywords ts = some (name, rest))
    (hd : ∀ word ∈ keywords, word ∉ leads) : Unled leads ts := by
  obtain ⟨keyword, letters, hlead, hmem, _⟩ := exists_of_namedBy?_eq_some h
  intro word rest' hlead'
  rw [hlead] at hlead'
  obtain ⟨rfl, _⟩ := Prod.mk.inj (Option.some.inj hlead')
  exact hd keyword hmem

/-- A name is read from the front. -/
theorem exists_source_of_namedBy? {name : String} (h : namedBy? keywords ts = some (name, rest)) :
    ∃ source, source ≠ [] ∧ source ++ rest = ts := by
  obtain ⟨keyword, letters, hlead, _, _⟩ := exists_of_namedBy?_eq_some h
  obtain ⟨letters', spaces, rfl, _⟩ := exists_of_lead?_eq_some hlead
  exact ⟨[.word letters', .blank spaces, .word letters], by simp, rfl⟩

/-! ## Readers -/

/-- A reader of headers: it reads from the front, and nothing if what follows the leading words is
not one of the keywords and a name. -/
structure Reads (leads keywords : List String) (read? : List Token → Option (α × List Token)) :
    Prop where
  front : ∀ {ts value rest}, read? ts = some (value, rest) →
    ∃ source, source ≠ [] ∧ source ++ rest = ts
  eq_none : ∀ {ts}, namedBy? keywords (skipLeads leads ts) = none → read? ts = none

/-- A source in front of a suffix of the text. -/
theorem exists_source_of_suffix (h : ∃ source, source ≠ [] ∧ source ++ rest = us)
    (hs : us <:+ ts) : ∃ source, source ≠ [] ∧ source ++ rest = ts := by
  obtain ⟨source, hne, rfl⟩ := h
  obtain ⟨before, rfl⟩ := hs
  exact ⟨before ++ source, by simp [hne], by simp⟩

/-- A source that is followed by more of the header. -/
theorem exists_source_of_rest (h : ∃ source, source ≠ [] ∧ source ++ us = ts)
    (hs : rest <:+ us) : ∃ source, source ≠ [] ∧ source ++ rest = ts := by
  obtain ⟨source, hne, rfl⟩ := h
  obtain ⟨more, rfl⟩ := hs
  exact ⟨source ++ more, by simp [hne], by simp⟩

section
variable {read? : List Token → Option (α × List Token)}

/-- Tokens that belong to the place found last are passed over. -/
theorem occurrencesFrom_length (source : List Token) :
    occurrencesFrom read? source.length (source ++ rest) = occurrences read? rest := by
  induction source with
  | nil => rfl
  | cons t source ih => exact ih

/-- Where nothing is read, a search goes on with the next token. -/
theorem occurrences_of_eq_none {t : Token} (h : read? (t :: ts) = none) :
    occurrences read? (t :: ts) =
      (t :: (occurrences read? ts).1, (occurrences read? ts).2) := by
  unfold occurrences
  rw [occurrencesFrom, h]

/-- A search that is successful at once goes on with what was left unread. -/
theorem Reads.occurrences_eq (hr : Reads leads keywords read?) {value : α}
    (h : read? ts = some (value, rest)) :
    ∃ source, source ≠ [] ∧ source ++ rest = ts ∧ occurrences read? ts =
      ([], ⟨value, source, (occurrences read? rest).1⟩ :: (occurrences read? rest).2) := by
  obtain ⟨source, hne, rfl⟩ := hr.front h
  obtain ⟨t, source, rfl⟩ := List.exists_cons_of_ne_nil hne
  refine ⟨t :: source, hne, rfl, ?_⟩
  -- the length of the source is told from what is left unread
  have hsize : (t :: (source ++ rest)).length - rest.length = source.length + 1 := by
    simp only [List.length_cons, List.length_append]
    omega
  have htake : (t :: (source ++ rest)).take (source.length + 1) = t :: source := by simp
  rw [List.cons_append] at h ⊢
  show occurrencesFrom read? 0 (t :: (source ++ rest)) = _
  rw [occurrencesFrom, h]
  simp only [hsize, htake, Nat.add_sub_cancel, occurrencesFrom_length]

/-- What is read at the front comes first, and the search goes on behind it. -/
theorem Reads.readAll_eq (hr : Reads leads keywords read?) {value : α}
    (h : read? ts = some (value, rest)) : readAll read? ts = value :: readAll read? rest := by
  obtain ⟨source, -, -, hocc⟩ := hr.occurrences_eq h
  unfold readAll
  rw [hocc]
  rfl

end

/-! ## Tokens that hold no header -/

/-- In none of these places do leading words, a keyword and a name come next, whatever follows. -/
def Quiet (leads keywords : List String) : List Token → Prop
  | [] => True
  | t :: ts => (∀ rest, namedBy? keywords (skipLeads leads (t :: ts ++ rest)) = none) ∧
    Quiet leads keywords ts

/-- Two texts hold no header if neither does, whatever comes next. -/
theorem Quiet.append (hts : Quiet leads keywords ts) (hus : Quiet leads keywords us) :
    Quiet leads keywords (ts ++ us) := by
  induction ts with
  | nil => exact hus
  | cons t ts ih =>
    refine ⟨fun rest => ?_, ih hts.2⟩
    show namedBy? keywords (skipLeads leads (t :: (ts ++ us) ++ rest)) = none
    rw [List.cons_append, List.append_assoc]
    exact hts.1 (us ++ rest)

/-- What is not led by a word is none of the places where a header starts. -/
theorem Quiet.cons_of_lead?_eq_none {t : Token} (ht : ∀ rest, lead? (t :: ts ++ rest) = none)
    (h : Quiet leads keywords ts) : Quiet leads keywords (t :: ts) := by
  refine ⟨fun rest => ?_, h⟩
  have hunled : Unled leads (t :: ts ++ rest) := by
    intro word rest' hlead
    rw [ht rest] at hlead
    exact absurd hlead (by simp)
  rw [hunled.skipLeads_eq, namedBy?, ht rest]

/-- A mark leads no header. -/
theorem Quiet.mark (c : Char) (h : Quiet leads keywords ts) :
    Quiet leads keywords (.mark c :: ts) :=
  h.cons_of_lead?_eq_none fun _ => rfl

/-- White space leads no header. -/
theorem Quiet.blank (spaces : List Char) (h : Quiet leads keywords ts) :
    Quiet leads keywords (.blank spaces :: ts) :=
  h.cons_of_lead?_eq_none fun _ => rfl

/-- Nor does a word in front of a mark. -/
theorem Quiet.word_mark (letters : List Char) (c : Char)
    (h : Quiet leads keywords (.mark c :: ts)) :
    Quiet leads keywords (.word letters :: .mark c :: ts) :=
  h.cons_of_lead?_eq_none fun _ => rfl

/-- A word that is no keyword starts no header. If it may lead one, that header has to start after
it, so something has to stand there. -/
theorem Quiet.word_blank {letters spaces : List Char} (hk : String.ofList letters ∉ keywords)
    (hend : ts = [] → String.ofList letters ∉ leads) (h : Quiet leads keywords ts) :
    Quiet leads keywords (.word letters :: .blank spaces :: ts) := by
  refine ⟨fun rest => ?_, h.blank spaces⟩
  have hlead : lead? (.word letters :: .blank spaces :: ts ++ rest) =
    some (String.ofList letters, ts ++ rest) := rfl
  by_cases hl : String.ofList letters ∈ leads
  · -- the word is passed over, and what follows it holds no header
    rw [skipLeads_of_mem hlead hl]
    cases ts with
    | nil => exact absurd hl (hend rfl)
    | cons t ts => exact h.1 rest
  · have hunled : Unled leads (.word letters :: .blank spaces :: ts ++ rest) := by
      intro word rest' h'
      rw [hlead] at h'
      obtain ⟨rfl, _⟩ := Prod.mk.inj (Option.some.inj h')
      exact hl
    rw [hunled.skipLeads_eq, Option.eq_none_iff_forall_not_mem]
    rintro ⟨name, rest'⟩ hname
    obtain ⟨keyword, _, hlead', hmem, _⟩ := exists_of_namedBy?_eq_some hname
    rw [hlead] at hlead'
    obtain ⟨rfl, _⟩ := Prod.mk.inj (Option.some.inj hlead')
    exact hk hmem

section
variable {read? : List Token → Option (α × List Token)}

/-- A search passes over tokens that hold no header. -/
theorem Reads.occurrences_append (hr : Reads leads keywords read?)
    (h : Quiet leads keywords ts) (rest : List Token) :
    occurrences read? (ts ++ rest) =
      (ts ++ (occurrences read? rest).1, (occurrences read? rest).2) := by
  induction ts with
  | nil => rfl
  | cons t ts ih =>
    have hnone : read? (t :: (ts ++ rest)) = none := hr.eq_none (h.1 rest)
    rw [List.cons_append, occurrences_of_eq_none hnone, ih h.2]
    rfl

/-- Nothing is read where there is no header. -/
theorem Reads.readAll_append (hr : Reads leads keywords read?) (h : Quiet leads keywords ts)
    (rest : List Token) : readAll read? (ts ++ rest) = readAll read? rest := by
  unfold readAll
  rw [hr.occurrences_append h]

end

/-! ## The three readers -/

theorem skipBlank_suffix (ts : List Token) : skipBlank ts <:+ ts := by
  unfold skipBlank
  split
  · exact List.suffix_cons _ _
  · exact List.suffix_rfl

/-- Passing over arguments leaves the rest of the text. -/
theorem skipArguments_suffix (ts : List Token) : skipArguments ts <:+ ts := by
  unfold skipArguments
  split
  · next rest =>
    split
    · next t rest' heq =>
      have hdrop : t :: rest' <:+ rest := heq ▸ List.dropWhile_suffix _
      exact (List.suffix_cons t rest').trans (hdrop.trans (List.suffix_cons _ _))
    · exact List.suffix_rfl
  · exact List.suffix_rfl

/-- The clause of a parent is read from the front. -/
theorem parentClause?_suffix {parent : String} (h : parentClause? ts = some (parent, rest)) :
    rest <:+ ts := by
  unfold parentClause? at h
  split at h
  · next rest' hcolon =>
    dsimp only at h
    split at h
    · exact absurd h (by simp)
    · next parts hparts =>
      simp only [Option.some.injEq, Prod.mk.injEq] at h
      obtain ⟨-, rfl⟩ := h
      have hclause : .mark ':' :: rest' <:+ ts := hcolon ▸ skipBlank_suffix ts
      exact (skipArguments_suffix _).trans <| (List.dropWhile_suffix _).trans <|
        (skipBlank_suffix rest').trans <| (List.suffix_cons _ _).trans hclause
  · exact absurd h (by simp)

/-- Headers of classes are led by modifiers and `class`. -/
theorem header?_reads : Reads classModifiers ["class"] header? where
  front := by
    intro ts header rest h
    unfold header? at h
    split at h
    · exact absurd h (by simp)
    · next name after hname =>
      have hsource := exists_source_of_suffix (exists_source_of_namedBy? hname)
        (skipLeads_suffix classModifiers ts)
      split at h
      · next parent rest' hparent =>
        simp only [Option.some.injEq, Prod.mk.injEq] at h
        obtain ⟨-, rfl⟩ := h
        exact exists_source_of_rest hsource (parentClause?_suffix hparent)
      · simp only [Option.some.injEq, Prod.mk.injEq] at h
        obtain ⟨-, rfl⟩ := h
        exact hsource
  eq_none := by
    intro ts h
    unfold header?
    rw [h]

/-- Words that may stand before the keyword of a member. -/
def memberLeads : List String :=
  "private" :: "protected" :: "public" :: "override" :: memberModifiers

/-- What is left of tokens after some of the leading words. -/
structure Passes (leads : List String) (us ts : List Token) : Prop where
  suffix : us <:+ ts
  skipLeads_eq : skipLeads leads us = skipLeads leads ts

/-- Words may be passed over in two goes. -/
theorem Passes.trans {vs : List Token} (h : Passes leads us ts) (h' : Passes leads vs us) :
    Passes leads vs ts :=
  ⟨h'.suffix.trans h.suffix, h'.skipLeads_eq.trans h.skipLeads_eq⟩

/-- What is passed over as leading words may be passed over. -/
theorem passes_skipLeads (h : ∀ word ∈ leads, word ∈ leads') (ts : List Token) :
    Passes leads' (skipLeads leads ts) ts :=
  ⟨skipLeads_suffix leads ts, skipLeads_skipLeads h ts⟩

theorem passes_of_lead? {word : String} (h : lead? ts = some (word, rest)) (hw : word ∈ leads) :
    Passes leads rest ts := by
  refine ⟨?_, (skipLeads_of_mem h hw).symm⟩
  obtain ⟨letters, spaces, rfl, _⟩ := exists_of_lead?_eq_some h
  exact (List.suffix_cons _ _).trans (List.suffix_cons _ _)

/-- The visibility is one of the leading words of a member. -/
theorem passes_readVisibility (ts : List Token) :
    Passes memberLeads (readVisibility ts).2 ts := by
  unfold readVisibility
  split
  · next word rest h =>
    split
    · next hw =>
      have hlead : word ∈ memberLeads := List.mem_append_left ("override" :: memberModifiers) hw
      exact passes_of_lead? h hlead
    · exact ⟨List.suffix_rfl, rfl⟩
  · exact ⟨List.suffix_rfl, rfl⟩

/-- So is the override. -/
theorem passes_readOverride (ts : List Token) : Passes memberLeads (readOverride ts).2 ts := by
  unfold readOverride
  split
  · next rest h => exact passes_of_lead? h (by decide)
  · exact ⟨List.suffix_rfl, rfl⟩

/-- A reader that reads a keyword and a name after some of the leading words. -/
theorem reads_of_passes {read? : List Token → Option (α × List Token)}
    (hd : ∀ word ∈ keywords, word ∉ leads)
    (h : ∀ {ts value rest}, read? ts = some (value, rest) →
      ∃ us name, Passes leads us ts ∧ namedBy? keywords us = some (name, rest)) :
    Reads leads keywords read? where
  front := by
    intro ts value rest hread
    obtain ⟨us, name, hpasses, hname⟩ := h hread
    exact exists_source_of_suffix (exists_source_of_namedBy? hname) hpasses.suffix
  eq_none := by
    intro ts hnone
    rw [Option.eq_none_iff_forall_not_mem]
    rintro ⟨value, rest⟩ hread
    obtain ⟨us, name, hpasses, hname⟩ := h hread
    rw [← hpasses.skipLeads_eq, (Unled.of_namedBy? hname hd).skipLeads_eq, hname] at hnone
    exact absurd hnone (by simp)

/-- Methods are led by modifiers and `fun`. -/
theorem method?_reads : Reads memberLeads ["fun"] method? := by
  refine reads_of_passes (by decide) fun {ts value rest} h => ?_
  have hsub : ∀ word ∈ memberModifiers, word ∈ memberLeads := by decide
  obtain ⟨⟨name, rest'⟩, hname, heq⟩ := Option.map_eq_some_iff.1 h
  obtain ⟨-, rfl⟩ := Prod.mk.inj heq
  refine ⟨_, name, ?_, hname⟩
  exact (passes_readVisibility ts).trans <| (passes_skipLeads hsub _).trans <|
    (passes_readOverride _).trans (passes_skipLeads hsub _)

/-- Attributes are led by modifiers and `val` or `var`. -/
theorem attribute?_reads : Reads memberLeads ["val", "var"] attribute? := by
  refine reads_of_passes (by decide) fun {ts value rest} h => ?_
  have hsub : ∀ word ∈ "override" :: memberModifiers, word ∈ memberLeads := by decide
  obtain ⟨⟨name, rest'⟩, hname, heq⟩ := Option.map_eq_some_iff.1 h
  obtain ⟨-, rfl⟩ := Prod.mk.inj heq
  exact ⟨_, name, (passes_readVisibility ts).trans (passes_skipLeads hsub _), hname⟩

end DesignMetrics.Source
