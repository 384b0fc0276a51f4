import DesignMetrics.Proofs.Source.Layout
import DesignMetrics.Proofs.Source.Members

/-!
# Where a text is cut

Readers see tokens, but what they read is described by characters. Here the two views are brought
together: the places between two tokens are the places of the text where no run of characters goes
on, and what a reader takes from the front of the tokens is a text of the grammar with a rest behind
it.
-/

namespace DesignMetrics.Source

open Text (isWord isBlank)

variable {text before after rest gap : List Char} {ts us : List Token}
  {keyword name word : String} {words keywords : List String}

/-- A word starts or ends here: of the characters on both sides, one belongs to a word and the other
does not. -/
def IsBoundary (before after : List Char) : Prop :=
  before.getLast?.any isWord ≠ after.head?.any isWord

instance (before after : List Char) : Decidable (IsBoundary before after) :=
  inferInstanceAs (Decidable (_ ≠ _))

/-! ## Boundaries -/

/-- Where a word starts, none goes on. -/
theorem isBoundary_iff (h : after.head?.any isWord = true) :
    IsBoundary before after ↔ before.getLast?.any isWord = false := by
  rw [IsBoundary, h, ne_eq, Bool.not_eq_true]

/-- What stands in front of the last characters does not matter. -/
theorem isBoundary_append_iff (hne : before ≠ []) (front : List Char) :
    IsBoundary (front ++ before) after ↔ IsBoundary before after := by
  rw [IsBoundary, IsBoundary, List.getLast?_append_of_ne_nil front hne]

theorem IsRun.head?_any {kind : Char → Bool} (h : IsRun kind text) (rest : List Char) :
    (text ++ rest).head?.any kind = true := by
  obtain ⟨c, text, rfl⟩ := List.exists_cons_of_ne_nil h.ne_nil
  exact h.all c List.mem_cons_self

theorem Ends.head?_any {kind : Char → Bool} (h : Ends kind text) : text.head?.any kind = false := by
  cases text with
  | nil => rfl
  | cons c text => exact h c rfl

theorem ends_of_head?_any {kind : Char → Bool} (h : text.head?.any kind = false) :
    Ends kind text := by
  cases text with
  | nil => exact fun c hc => absurd hc (by simp)
  | cons c text => exact ends_cons h text

/-- No white space goes on where a word starts. -/
theorem ends_isBlank_of_head?_any (h : text.head?.any isWord = true) : Ends isBlank text := by
  cases text with
  | nil => exact ends_of_head?_any rfl
  | cons c text => exact ends_cons (Text.isBlank_eq_false_of_isWord h) text

/-- What does not go on in a text does not go on in the beginning of it. -/
theorem Ends.of_append {kind : Char → Bool} (h : Ends kind (text ++ rest)) : Ends kind text := by
  cases text with
  | nil => exact ends_of_head?_any rfl
  | cons c text => exact ends_cons (h c rfl) text

/-- At a boundary of words no run goes on. -/
theorem IsBoundary.apart (h : IsBoundary before after) : Apart before after := by
  intro c hc
  have hlast : before.getLast?.any isWord = isWord c := by rw [hc, Option.any_some]
  rw [IsBoundary, hlast] at h
  constructor
  · intro hword
    rw [hword, ne_eq, eq_comm, Bool.not_eq_true] at h
    exact ends_of_head?_any h
  · intro hblank
    -- white space belongs to no word, so a word starts behind it
    rw [Text.isWord_eq_false_of_isBlank hblank, ne_eq, eq_comm, Bool.not_eq_false] at h
    obtain ⟨d, hd, hword⟩ := (Option.any_eq_true _ _).1 h
    intro e he
    obtain rfl : d = e := Option.some.inj (hd.symm.trans he)
    exact Text.isBlank_eq_false_of_isWord hword

theorem Apart.isBoundary (h : Apart before after) (hword : after.head?.any isWord = true) :
    IsBoundary before after := by
  rw [isBoundary_iff hword, Bool.eq_false_iff]
  intro hlast
  obtain ⟨c, hc, hcword⟩ := (Option.any_eq_true _ _).1 hlast
  have hends : after.head?.any isWord = false := ((h c hc).1 hcword).head?_any
  rw [hword] at hends
  exact absurd hends (by simp)

theorem apart_nil (after : List Char) : Apart [] after :=
  fun _ hc => absurd hc (by simp)

theorem apart_nil_right (before : List Char) : Apart before [] := by
  have hends (kind : Char → Bool) : Ends kind [] := ends_of_head?_any rfl
  exact fun _ _ => ⟨fun _ => hends isWord, fun _ => hends isBlank⟩

theorem Apart.of_append {front : List Char} (h : Apart (front ++ before) after) :
    Apart before after := by
  intro c hc
  have hne : before ≠ [] := by
    rintro rfl
    exact absurd hc (by simp)
  exact h c (by rwa [List.getLast?_append_of_ne_nil front hne])

theorem Apart.of_append_right (h : Apart before (after ++ rest)) : Apart before after :=
  fun c hc => ⟨fun hword => ((h c hc).1 hword).of_append,
    fun hblank => ((h c hc).2 hblank).of_append⟩

theorem Apart.append_right (h : Apart before after) (hne : after ≠ []) (rest : List Char) :
    Apart before (after ++ rest) :=
  fun c hc => ⟨fun hword => ((h c hc).1 hword).append hne rest,
    fun hblank => ((h c hc).2 hblank).append hne rest⟩

theorem Apart.append_left (h : Apart before after) (hne : before ≠ []) (front : List Char) :
    Apart (front ++ before) after := by
  intro c hc
  rw [List.getLast?_append_of_ne_nil front hne] at hc
  exact h c hc

theorem Apart.append {front : List Char} (h : Apart front (before ++ after))
    (h' : Apart before after) : Apart (front ++ before) after := by
  by_cases hne : before = []
  · subst hne
    rwa [List.append_nil]
  · exact h'.append_left hne front

/-- A text starts with the longest run of its kind. -/
theorem exists_run {kind : Char → Bool} {c : Char} (hc : kind c = true) (text : List Char) :
    ∃ run rest, c :: text = run ++ rest ∧ IsRun kind run ∧ Ends kind rest := by
  refine ⟨(c :: text).takeWhile kind, (c :: text).dropWhile kind,
    List.takeWhile_append_dropWhile.symm, ⟨?_, fun _ hd => List.mem_takeWhile_imp hd⟩, ?_⟩
  · rw [List.takeWhile_cons_of_pos hc]
    simp
  · intro d hd
    have hnot := List.head?_dropWhile_not kind (c :: text)
    rw [hd] at hnot
    exact hnot

/-! ## Two cuts of one text -/

/-- Of two ways to cut a text in two, one cuts it earlier. -/
theorem exists_of_append_eq_append {α : Type} {as bs xs ys : List α} (h : as ++ bs = xs ++ ys) :
    (∃ zs, zs ≠ [] ∧ as = xs ++ zs ∧ ys = zs ++ bs) ∨ ∃ zs, xs = as ++ zs ∧ bs = zs ++ ys := by
  rcases List.append_eq_append_iff.1 h with hlate | ⟨zs, rfl, rfl⟩
  · exact .inr hlate
  · by_cases hzs : zs = []
    · subst hzs
      exact .inr ⟨[], by simp, by simp⟩
    · exact .inl ⟨zs, hzs, rfl, rfl⟩

/-- No word starts inside of a word and the white space after it. -/
theorem getLast?_any_of_append {word gap : List Char} (hword : IsWordRun word) (hgap : IsGap gap)
    (h : word ++ gap = before ++ after) (hne : before ≠ [])
    (hafter : after.head?.any isWord = true) : before.getLast?.any isWord = true := by
  rcases exists_of_append_eq_append h with ⟨more, -, rfl, -⟩ | ⟨later, rfl, rfl⟩
  · have hlast := List.getLast?_eq_getLast_of_ne_nil hne
    rw [hlast, Option.any_some]
    exact hword.all _ (List.mem_append_left more (List.getLast_mem hne))
  · obtain ⟨c, hc, hcword⟩ := (Option.any_eq_true _ _).1 hafter
    have hblank := hgap.all c (List.mem_append_right later (List.mem_of_head? hc))
    rw [Text.isWord_eq_false_of_isBlank hblank] at hcword
    exact absurd hcword (by simp)

/-! ## Cuts between tokens -/

theorem textOf_append (ts us : List Token) : textOf (ts ++ us) = textOf ts ++ textOf us :=
  List.flatMap_append

theorem textOf_cons (t : Token) (ts : List Token) : textOf (t :: ts) = t.text ++ textOf ts := rfl

theorem Token.Proper.text_ne_nil {t : Token} (h : t.Proper) : t.text ≠ [] := by
  cases t with
  | word letters => exact IsRun.ne_nil h
  | blank spaces => exact IsRun.ne_nil h
  | mark c => simp [Token.text]

/-- The tokens of a text are cut in two where no run of characters goes on. -/
theorem exists_of_tokens_eq_append (h : tokens text = ts ++ us) :
    ∃ x y, text = x ++ y ∧ tokens x = ts ∧ tokens y = us ∧ Apart x y := by
  have htext : text = textOf ts ++ textOf us := by rw [← textOf_append, ← h, textOf_tokens]
  have hts : tokens (textOf ts) = ts := tokens_textOf_of_isInfix ⟨[], us, h.symm⟩
  have hus : tokens (textOf us) = us :=
    tokens_textOf_of_isInfix ⟨ts, [], by rw [List.append_nil, h]⟩
  refine ⟨_, _, htext, hts, hus, ?_⟩
  -- the tokens next to the cut decide whether a run goes on
  rcases List.eq_nil_or_concat ts with rfl | ⟨front, t, rfl⟩
  · exact apart_nil _
  cases us with
  | nil => exact apart_nil_right _
  | cons u us =>
    have hproper : ∀ v ∈ front.concat t ++ u :: us, v.Proper :=
      fun v hv => Token.proper_of_mem_tokens (h ▸ hv)
    have hchain : (front ++ t :: u :: us).IsChain Token.Separate := by
      have hall := isChain_tokens text
      rw [h] at hall
      simpa using hall
    have ht : t.Proper := hproper t (by simp)
    have happart : Apart t.text (u.text ++ textOf us) :=
      Token.apart_text ht (hproper u (by simp)) (List.isChain_append_cons_cons.1 hchain).2.1 _
    have hlast : textOf (front.concat t) = textOf front ++ t.text := by
      rw [List.concat_eq_append, textOf_append, textOf_cons]
      simp [textOf]
    intro c hc
    rw [hlast, List.getLast?_append_of_ne_nil _ ht.text_ne_nil] at hc
    exact happart c hc

/-- The first token of a text stands in front of the text of the others. -/
theorem exists_of_tokens_eq_cons {t : Token} (h : tokens text = t :: us) :
    ∃ rest, text = t.text ++ rest ∧ us = tokens rest ∧ t.Proper ∧ Apart t.text rest := by
  have hcut : tokens text = [t] ++ us := h
  obtain ⟨x, rest, rfl, hx, rfl, happart⟩ := exists_of_tokens_eq_append hcut
  have hxt : x = t.text := by rw [← textOf_tokens x, hx]; simp [textOf]
  have ht : t.Proper := Token.proper_of_mem_tokens (h ▸ List.mem_cons_self)
  exact ⟨rest, by rw [hxt], rfl, ht, hxt ▸ happart⟩

/-- A run at the front of the tokens is as long as it can be. -/
theorem exists_of_tokens_eq_word {letters : List Char} (h : tokens text = .word letters :: us) :
    ∃ rest, text = letters ++ rest ∧ us = tokens rest ∧ IsWordRun letters ∧ Ends isWord rest := by
  obtain ⟨rest, htext, hus, hrun, happart⟩ := exists_of_tokens_eq_cons h
  have hletters : IsWordRun letters := hrun
  have hlast := List.getLast?_eq_getLast_of_ne_nil hletters.ne_nil
  have hword : isWord (letters.getLast hletters.ne_nil) = true :=
    hletters.all _ (List.getLast_mem _)
  exact ⟨rest, htext, hus, hletters, (happart _ hlast).1 hword⟩

theorem exists_of_tokens_eq_blank {spaces : List Char} (h : tokens text = .blank spaces :: us) :
    ∃ rest, text = spaces ++ rest ∧ us = tokens rest ∧ IsGap spaces ∧ Ends isBlank rest := by
  obtain ⟨rest, htext, hus, hrun, happart⟩ := exists_of_tokens_eq_cons h
  have hspaces : IsGap spaces := hrun
  have hlast := List.getLast?_eq_getLast_of_ne_nil hspaces.ne_nil
  have hblank : isBlank (spaces.getLast hspaces.ne_nil) = true :=
    hspaces.all _ (List.getLast_mem _)
  exact ⟨rest, htext, hus, hspaces, (happart _ hlast).2 hblank⟩

/-! ## Keywords at the front -/

/-- A leading word is read where the word and white space stand in the text. -/
theorem exists_of_lead?_tokens (h : lead? (tokens text) = some (word, us)) :
    ∃ gap rest, text = word.toList ++ (gap ++ rest) ∧ us = tokens rest ∧
      IsWordRun word.toList ∧ IsGap gap ∧ Ends isBlank rest := by
  obtain ⟨letters, spaces, htokens, rfl⟩ := exists_of_lead?_eq_some h
  obtain ⟨behind, rfl, hbehind, hletters, -⟩ := exists_of_tokens_eq_word htokens
  obtain ⟨rest, rfl, hus, hspaces, hends⟩ := exists_of_tokens_eq_blank hbehind.symm
  rw [String.toList_ofList]
  exact ⟨spaces, rest, rfl, hus, hletters, hspaces, hends⟩

/-- Words are passed over as they are written. -/
theorem exists_leadsText (words : List String) (text : List Char) :
    ∃ lead rest, text = lead ++ rest ∧ LeadsText words lead ∧
      skipLeads words (tokens text) = tokens rest := by
  -- by the length of the text, of which every leading word takes some
  induction hn : text.length using Nat.strongRecOn generalizing text with
  | _ n ih =>
    cases hlead : lead? (tokens text) with
    | none =>
      have hunled : Unled words (tokens text) := by
        intro word rest h
        rw [hlead] at h
        exact absurd h (by simp)
      exact ⟨[], text, rfl, .nil, hunled.skipLeads_eq⟩
    | some r =>
      obtain ⟨word, us⟩ := r
      by_cases hword : word ∈ words
      · obtain ⟨gap, behind, rfl, rfl, hrun, hgap, -⟩ := exists_of_lead?_tokens hlead
        have hpos : 0 < word.toList.length := List.length_pos_of_ne_nil hrun.ne_nil
        have hlt : behind.length < n := by
          rw [← hn, List.length_append, List.length_append]
          omega
        obtain ⟨lead, rest, rfl, hleads, hskip⟩ := ih _ hlt behind rfl
        refine ⟨word.toList ++ (gap ++ lead), rest, by simp, .cons hword hgap hleads, ?_⟩
        rw [skipLeads_of_mem hlead hword, hskip]
      · have hunled : Unled words (tokens text) := by
          intro word' rest h
          rw [hlead] at h
          obtain ⟨rfl, -⟩ := Prod.mk.inj (Option.some.inj h)
          exact hword
        exact ⟨[], text, rfl, .nil, hunled.skipLeads_eq⟩

theorem LeadsText.getLast?_any {lead : List Char} (h : LeadsText words lead) (hne : lead ≠ []) :
    lead.getLast?.any isWord = false := by
  induction h with
  | nil => exact absurd rfl hne
  | @cons word gap text _ hgap _ ih =>
    rw [← List.append_assoc]
    by_cases htext : text = []
    · have hlast := List.getLast?_eq_getLast_of_ne_nil hgap.ne_nil
      rw [htext, List.append_nil, List.getLast?_append_of_ne_nil _ hgap.ne_nil, hlast,
        Option.any_some]
      exact Text.isWord_eq_false_of_isBlank (hgap.all _ (List.getLast_mem _))
    · rw [List.getLast?_append_of_ne_nil _ htext]
      exact ih htext

/-- Behind leading words, a word starts. -/
theorem LeadsText.isBoundary {lead : List Char} (h : LeadsText words lead)
    (hboundary : IsBoundary before (lead ++ after)) (hword : after.head?.any isWord = true) :
    IsBoundary (before ++ lead) after := by
  by_cases hne : lead = []
  · subst hne
    rwa [List.append_nil]
  · rw [isBoundary_append_iff hne, isBoundary_iff hword]
    exact h.getLast?_any hne

/-- Leading words that are cut where a word starts are leading words again. -/
theorem LeadsText.of_append {lead : List Char} (hwords : ∀ word ∈ words, IsWordRun word.toList)
    (h : LeadsText words lead) (hlead : lead = before ++ after)
    (hbefore : before.getLast?.any isWord = false) (hafter : after.head?.any isWord = true) :
    LeadsText words after := by
  induction h generalizing before with
  | nil =>
    obtain ⟨-, rfl⟩ := List.nil_eq_append_iff.1 hlead
    exact .nil
  | @cons word gap text hmem hgap htext ih =>
    by_cases hne : before = []
    · subst hne
      rw [List.nil_append] at hlead
      rw [← hlead]
      exact .cons hmem hgap htext
    rw [← List.append_assoc] at hlead
    rcases exists_of_append_eq_append hlead with ⟨more, hmore, hinside, rfl⟩ | ⟨later, rfl, hlater⟩
    · -- the word would start inside of the first one
      rw [List.head?_append_of_ne_nil more hmore] at hafter
      have hlast := getLast?_any_of_append (hwords _ hmem) hgap hinside hne hafter
      rw [hbefore] at hlast
      exact absurd hlast (by simp)
    · refine ih hlater ?_
      by_cases hnil : later = []
      · rw [hnil]
        rfl
      · rwa [List.getLast?_append_of_ne_nil _ hnil] at hbefore

/-! ## Keywords and names -/

/-- A keyword, white space and a name, which cannot be carried on by what follows. -/
inductive NameText (keywords : List String) : String → List Char → List Char → Prop where
  | intro {keyword name : String} {gap rest : List Char} : keyword ∈ keywords → IsGap gap →
      IsWordRun name.toList → Ends isWord rest →
      NameText keywords name (keyword.toList ++ (gap ++ name.toList)) rest

theorem NameText.namedBy?_eq (hwords : ∀ word ∈ keywords, IsWordRun word.toList)
    {source : List Char} (h : NameText keywords name source rest) :
    namedBy? keywords (tokens (source ++ rest)) = some (name, tokens rest) := by
  obtain ⟨hmem, hgap, hname, hrest⟩ := h
  rw [List.append_assoc, List.append_assoc]
  exact namedBy?_tokens hmem (hwords _ hmem) hgap hname hrest

/-- What is read as a name is written as one. -/
theorem exists_of_namedBy?_tokens (h : namedBy? keywords (tokens text) = some (name, us)) :
    ∃ source rest, text = source ++ rest ∧ us = tokens rest ∧
      NameText keywords name source rest := by
  obtain ⟨keyword, letters, hlead, hmem, rfl⟩ := exists_of_namedBy?_eq_some h
  obtain ⟨gap, behind, rfl, hbehind, -, hgap, -⟩ := exists_of_lead?_tokens hlead
  obtain ⟨rest, rfl, hus, hletters, hends⟩ := exists_of_tokens_eq_word hbehind.symm
  refine ⟨keyword.toList ++ (gap ++ letters), rest, by simp, hus, ?_⟩
  have hname : IsWordRun (String.ofList letters).toList := by rwa [String.toList_ofList]
  have hsource := NameText.intro hmem hgap hname hends
  rwa [String.toList_ofList] at hsource

/-- Where white space and a word follow a keyword, there is a name. -/
theorem exists_nameText {c : Char} (hmem : keyword ∈ keywords) (hgap : IsGap gap)
    (hc : isWord c = true) (text : List Char) :
    ∃ name source rest, keyword.toList ++ (gap ++ c :: text) = source ++ rest ∧
      NameText keywords name source rest := by
  obtain ⟨letters, rest, htext, hletters, hends⟩ := exists_run hc text
  have hname : IsWordRun (String.ofList letters).toList := by rwa [String.toList_ofList]
  refine ⟨_, _, rest, ?_, .intro hmem hgap hname hends⟩
  rw [String.toList_ofList, htext]
  simp

/-- A name stands where a word starts. -/
theorem NameText.head?_any (hwords : ∀ word ∈ keywords, IsWordRun word.toList)
    {source : List Char} (h : NameText keywords name source rest) (more : List Char) :
    (source ++ more).head?.any isWord = true := by
  obtain ⟨hmem, -, -, -⟩ := h
  rw [List.append_assoc]
  exact (hwords _ hmem).head?_any _

/-- Behind a name, no word goes on. -/
theorem NameText.apart {source : List Char} (h : NameText keywords name source rest)
    (front : List Char) : Apart (front ++ source) rest := by
  obtain ⟨-, -, hname, hends⟩ := h
  rw [← List.append_assoc, ← List.append_assoc]
  exact (apart_word hname hends).append_left hname.ne_nil _

/-- A keyword that is no leading word does not stand among them. -/
theorem NameText.length_le {lead source more : List Char}
    (hruns : ∀ word ∈ keywords, IsWordRun word.toList) (hnew : ∀ word ∈ keywords, word ∉ words)
    (hwords : ∀ word ∈ words, word ∈ headerWords) (h : NameText keywords name source rest)
    (hlead : LeadsText words lead) (htext : lead ++ more = before ++ (source ++ rest))
    (hmore : Ends isBlank more) (hbefore : before.getLast?.any isWord = false) :
    lead.length ≤ before.length := by
  have hleads : ∀ word ∈ words, IsWordRun word.toList :=
    fun word hword => isWordRun_of_mem_headerWords (hwords word hword)
  have hhead := h.head?_any hruns rest
  rcases exists_of_append_eq_append htext with ⟨inside, hinside, rfl, hsource⟩ | ⟨later, rfl, -⟩
  · exfalso
    rw [hsource, List.head?_append_of_ne_nil inside hinside] at hhead
    have hled := hlead.of_append hleads rfl hbefore hhead
    have hunled : Unled words (tokens (source ++ rest)) := .of_namedBy? (h.namedBy?_eq hruns) hnew
    cases hled with
    | nil => exact hinside rfl
    | @cons word gap later hmem hgap hlater =>
      rw [hsource, List.append_assoc, List.append_assoc] at hunled
      have hread := lead?_tokens (hleads _ hmem) hgap (hlater.ends_isBlank hwords hmore)
      exact hunled _ _ hread hmem
  · rw [List.length_append]
    omega

end DesignMetrics.Source
