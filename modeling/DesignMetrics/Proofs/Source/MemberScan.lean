import DesignMetrics.Proofs.Source.Occurrence
import Mathlib.Order.WellFounded

/-!
# Members from left to right

Members are found by a scan of the characters that goes from keyword to keyword: first it looks for
the next keyword with a name, and only then for the longest lead in front of it. The readers of
members go the other way, since they read the lead first. They find the same members in every text.
-/

namespace DesignMetrics.Source

open Text (isWord isBlank)

variable {α β : Type} {leads keywords words : List String} {Lead : β → List Char → Prop}
  {value : String → β → α} {read? : List Token → Option (α × List Token)}
  {text before after skipped lead source rest : List Char} {name : String} {b : β}

/-! ## The scan -/

/-- In `text`, which comes after `before`, a keyword and a name stand behind `skipped`. -/
def Named (keywords : List String) (before text skipped : List Char) : Prop :=
  ∃ name source rest, text = skipped ++ (source ++ rest) ∧ NameText keywords name source rest ∧
    IsBoundary (before ++ skipped) (source ++ rest)

/-- Of the leads that end where `after` starts, `lead` is the longest. It comes after `before` and
`skipped`. -/
structure IsLongest (Lead : β → List Char → Prop) (before skipped lead after : List Char) (b : β) :
    Prop where
  said : Lead b lead
  boundary : IsBoundary (before ++ skipped) (lead ++ after)
  longest : ∀ b' skipped' lead', skipped ++ lead = skipped' ++ lead' → Lead b' lead' →
    IsBoundary (before ++ skipped') (lead' ++ after) → lead'.length ≤ lead.length

/-- What is found in a text after `before`: at the first keyword with a name, the value for that
name and the longest lead in front of the keyword, and then what is found behind the name. -/
inductive Scans (keywords : List String) (Lead : β → List Char → Prop) (value : String → β → α) :
    (before text : List Char) → List α → Prop where
  | done {before text : List Char} : (∀ skipped, ¬Named keywords before text skipped) →
      Scans keywords Lead value before text []
  | found {before skipped lead source rest : List Char} {name : String} {b : β} {later : List α} :
      NameText keywords name source rest →
      IsBoundary (before ++ (skipped ++ lead)) (source ++ rest) →
      (∀ skipped', Named keywords before (skipped ++ (lead ++ (source ++ rest))) skipped' →
        (skipped ++ lead).length ≤ skipped'.length) →
      IsLongest Lead before skipped lead (source ++ rest) b →
      Scans keywords Lead value (before ++ (skipped ++ (lead ++ source))) rest later →
      Scans keywords Lead value before (skipped ++ (lead ++ (source ++ rest)))
        (value name b :: later)

/-! ## Every text is scanned -/

theorem exists_shortest {P : List Char → Prop} (h : ∃ cs, P cs) :
    ∃ cs, P cs ∧ ∀ ds, P ds → cs.length ≤ ds.length :=
  ⟨Function.argminOn List.length {cs | P cs} h, Function.argminOn_mem List.length {cs | P cs} h,
    fun _ hds => Function.argminOn_le List.length {cs | P cs} hds⟩

/-- Some lead is the longest one, if there is a lead at all. -/
theorem exists_isLongest (h : Lead b []) {passed : List Char}
    (hboundary : IsBoundary (before ++ passed) after) :
    ∃ skipped lead b', passed = skipped ++ lead ∧ IsLongest Lead before skipped lead after b' := by
  have hsome : ∃ skipped b' lead, passed = skipped ++ lead ∧ Lead b' lead ∧
      IsBoundary (before ++ skipped) (lead ++ after) :=
    ⟨passed, b, [], by simp, h, hboundary⟩
  obtain ⟨skipped, ⟨b', lead, rfl, hlead, hstart⟩, hfirst⟩ := exists_shortest hsome
  refine ⟨skipped, lead, b', rfl, hlead, hstart, ?_⟩
  intro b'' skipped' lead' hpassed hlead' hstart'
  have hle := hfirst skipped' ⟨b'', lead', hpassed, hlead', hstart'⟩
  have hlength := congrArg List.length hpassed
  rw [List.length_append, List.length_append] at hlength
  omega

theorem exists_scans (hnone : Lead b []) (hwords : ∀ word ∈ keywords, IsWordRun word.toList)
    (before text : List Char) : ∃ found, Scans keywords Lead value before text found := by
  induction hn : text.length using Nat.strongRecOn generalizing before text with
  | _ n ih =>
    by_cases hnamed : ∃ skipped, Named keywords before text skipped
    · obtain ⟨passed, ⟨name, source, rest, rfl, hname, hboundary⟩, hfirst⟩ := exists_shortest hnamed
      obtain ⟨skipped, lead, b', rfl, hlongest⟩ := exists_isLongest hnone hboundary
      have hpos : 0 < source.length := by
        refine List.length_pos_iff.2 fun hnil => ?_
        have hhead := hname.head?_any hwords []
        rw [hnil] at hhead
        exact absurd hhead (by simp)
      have hlt : rest.length < n := by
        rw [← hn]
        simp only [List.length_append]
        omega
      obtain ⟨later, hlater⟩ := ih _ hlt (before ++ (skipped ++ (lead ++ source))) rest rfl
      rw [List.append_assoc] at hfirst ⊢
      exact ⟨_, .found hname hboundary hfirst hlongest hlater⟩
    · exact ⟨[], .done fun skipped h => hnamed ⟨skipped, h⟩⟩

/-- No lead is looked for. -/
def Bare (_ : Unit) (lead : List Char) : Prop := lead = []

/-- A scan that takes no notice of leads finds the same names. -/
theorem Scans.bare {found : List α} {nameOf : α → String}
    (hname : ∀ name b, nameOf (value name b) = name)
    (h : Scans keywords Lead value before text found) :
    Scans keywords Bare (fun name _ => name) before text (found.map nameOf) := by
  induction h with
  | done hnone => exact .done hnone
  | @found before skipped lead source rest name b later hsource hboundary hfirst _ _ ih =>
    have hlongest : IsLongest Bare before (skipped ++ lead) [] (source ++ rest) () :=
      ⟨rfl, hboundary, fun _ _ _ _ hbare _ => (congrArg List.length hbare).le⟩
    rw [← List.append_assoc skipped] at ih hfirst ⊢
    rw [List.map_cons, hname]
    have hnone : skipped ++ lead ++ [] = skipped ++ lead := List.append_nil _
    exact .found hsource (by rwa [hnone]) (by rwa [hnone]) hlongest ih

/-! ## The readers of members find what is scanned -/

/-- A reader of members: it reads a lead of the grammar, a keyword and a name. -/
structure ReadsMember (leads keywords : List String) (Lead : β → List Char → Prop)
    (value : String → β → α) (read? : List Token → Option (α × List Token)) : Prop
    extends Reads leads keywords read? where
  leads_mem : ∀ word ∈ leads, word ∈ headerWords
  runs : ∀ word ∈ keywords, IsWordRun word.toList
  new : ∀ word ∈ keywords, word ∉ leads
  leadsText : ∀ {b lead}, Lead b lead → LeadsText leads lead
  unsaid : ∃ b, Lead b []
  complete : ∀ {b lead name source rest}, Lead b lead → NameText keywords name source rest →
    read? (tokens (lead ++ (source ++ rest))) = some (value name b, tokens rest)
  sound : ∀ {text}, read? (tokens text) ≠ none → ∃ b lead name source rest,
    text = lead ++ (source ++ rest) ∧ Lead b lead ∧ NameText keywords name source rest

namespace ReadsMember

variable (hr : ReadsMember leads keywords Lead value read?)
include hr

/-- Where something is read, a lead starts that ends at a keyword with a name. -/
theorem exists_named (happart : Apart before (skipped ++ after)) (hcut : Apart skipped after)
    (hread : read? (tokens after) ≠ none) :
    ∃ b lead name source rest, after = lead ++ (source ++ rest) ∧ Lead b lead ∧
      NameText keywords name source rest ∧ IsBoundary (before ++ skipped) after ∧
      IsBoundary (before ++ (skipped ++ lead)) (source ++ rest) := by
  obtain ⟨b, lead, name, source, rest, rfl, hlead, hname⟩ := hr.sound hread
  have hword := hname.head?_any hr.runs rest
  have hleads := hr.leadsText hlead
  have hstart : (lead ++ (source ++ rest)).head?.any isWord = true := by
    cases hleads with
    | nil => exact hword
    | cons hmem _ _ =>
      rw [List.append_assoc]
      exact (isWordRun_of_mem_headerWords (hr.leads_mem _ hmem)).head?_any _
  have hboundary := (happart.append hcut).isBoundary hstart
  refine ⟨b, lead, name, source, rest, rfl, hlead, hname, hboundary, ?_⟩
  rw [← List.append_assoc]
  exact hleads.isBoundary hboundary hword

/-- What is skipped is silent. -/
theorem silent_of_longest {skipped lead source rest : List Char} {name : String} {b : β}
    (hname : NameText keywords name source rest)
    (hboundary : IsBoundary (before ++ (skipped ++ lead)) (source ++ rest))
    (hfirst : ∀ skipped', Named keywords before (skipped ++ (lead ++ (source ++ rest))) skipped' →
      (skipped ++ lead).length ≤ skipped'.length)
    (hlongest : IsLongest Lead before skipped lead (source ++ rest) b)
    (happart : Apart before (skipped ++ (lead ++ (source ++ rest))))
    (hcut : Apart skipped (lead ++ (source ++ rest))) :
    Silent read? (tokens skipped) (tokens (lead ++ (source ++ rest))) := by
  refine silent_tokens hcut fun x y hskipped hne hx => ?_
  by_contra hread
  rw [hskipped, List.append_assoc] at happart
  obtain ⟨b', lead', name', source', rest', hy, hlead', hname', hstart, hkeyword⟩ :=
    hr.exists_named happart hx hread
  -- the keyword that is read is the first one
  have hle := hfirst (x ++ lead') ⟨name', source', rest', by simp [hskipped, hy], hname', hkeyword⟩
  have hge : lead'.length ≤ (y ++ lead).length := by
    have hinside : (y ++ lead).getLast?.any isWord = false := by
      have hhead := hname.head?_any hr.runs rest
      rw [hskipped, List.append_assoc, ← List.append_assoc] at hboundary
      exact (isBoundary_iff hhead).1 ((isBoundary_append_iff (by simp [hne]) _).1 hboundary)
    have hhead' := hname'.head?_any hr.runs rest'
    refine hname.length_le hr.runs hr.new hr.leads_mem (hr.leadsText hlead') ?_
      (ends_isBlank_of_head?_any hhead') hinside
    rw [← hy, List.append_assoc]
  have hlength : (y ++ lead).length = lead'.length := by
    rw [hskipped] at hle
    simp only [List.length_append] at hle hge ⊢
    omega
  -- so it has a longer lead
  obtain ⟨hsame, hafter⟩ : y ++ lead = lead' ∧ source ++ rest = source' ++ rest' := by
    refine List.append_inj ?_ hlength
    rw [← hy, List.append_assoc]
  have hlonger := hlongest.longest b' x lead' (by rw [hskipped, List.append_assoc, hsame]) hlead'
    (by rwa [hafter, ← hy])
  have hpos : 0 < y.length := List.length_pos_iff.2 hne
  rw [List.length_append] at hlength
  omega

theorem readAll_eq_of_scans {found : List α} (h : Scans keywords Lead value before text found)
    (happart : Apart before text) : readAll read? (tokens text) = found := by
  induction h with
  | @done before text hnone =>
    -- what is read would be named, and no name is left
    have hsilent : Silent read? (tokens text) (tokens []) := by
      refine silent_tokens (apart_nil_right text) fun x y htext hne hx => ?_
      by_contra hread
      subst htext
      rw [List.append_nil] at hx hread
      obtain ⟨b, lead, name, source, rest, rfl, -, hname, -, hkeyword⟩ :=
        hr.exists_named happart hx hread
      exact hnone (x ++ lead) ⟨name, source, rest, by simp, hname, hkeyword⟩
    have hnothing : readAll read? (tokens text ++ tokens []) = [] := hsilent.readAll_append
    rwa [← List.append_nil (tokens text)]
  | @found before skipped lead source rest name b later hname hboundary hfirst hlongest _ ih =>
    -- nothing is read in front of the longest lead, and what it leads to is read next
    have hcut : Apart skipped (lead ++ (source ++ rest)) := hlongest.boundary.apart.of_append
    have hsilent := hr.silent_of_longest hname hboundary hfirst hlongest happart hcut
    have hrest : Apart (before ++ (skipped ++ (lead ++ source))) rest := by
      rw [← List.append_assoc, ← List.append_assoc]
      exact hname.apart _
    rw [tokens_append hcut, hsilent.readAll_append,
      hr.toReads.readAll_eq (hr.complete hlongest.said hname), ih hrest]

/-- What is read from a text is what is scanned in it. -/
theorem readAll_eq_iff {found : List α} :
    readAll read? (tokens text) = found ↔ Scans keywords Lead value [] text found := by
  refine ⟨fun hread => ?_, fun h => hr.readAll_eq_of_scans h (apart_nil text)⟩
  obtain ⟨b, hnone⟩ := hr.unsaid
  obtain ⟨scanned, hscan⟩ : ∃ scanned, Scans keywords Lead value [] text scanned :=
    exists_scans hnone hr.runs [] text
  rwa [← hread, hr.readAll_eq_of_scans hscan (apart_nil text)]

end ReadsMember

/-! ## Methods -/

/-- What may stand before `fun`: a visibility, modifiers, `override` and modifiers. -/
inductive MethodLead : Visibility × Bool → List Char → Prop where
  | intro {v : Visibility} {o : Bool} {visibility modifiers overrides modifiers' : List Char} :
      VisibilityText v visibility → LeadsText memberModifiers modifiers →
      OverrideText o overrides → LeadsText memberModifiers modifiers' →
      MethodLead (v, o) (visibility ++ (modifiers ++ (overrides ++ modifiers')))

theorem exists_of_readVisibility (text : List Char) :
    ∃ v source rest, text = source ++ rest ∧ VisibilityText v source ∧
      readVisibility (tokens text) = (v, tokens rest) := by
  unfold readVisibility
  split
  · next word us hlead =>
    obtain ⟨gap, rest, rfl, rfl, -, hgap, -⟩ := exists_of_lead?_tokens hlead
    split
    · next hmem => exact ⟨_, _, rest, by simp, .said hmem hgap, rfl⟩
    · exact ⟨_, [], _, rfl, .unsaid, rfl⟩
  · exact ⟨_, [], text, rfl, .unsaid, rfl⟩

theorem exists_of_readOverride (text : List Char) :
    ∃ o source rest, text = source ++ rest ∧ OverrideText o source ∧
      readOverride (tokens text) = (o, tokens rest) := by
  unfold readOverride
  split
  · next us hlead =>
    obtain ⟨gap, rest, rfl, rfl, -, hgap, -⟩ := exists_of_lead?_tokens hlead
    exact ⟨_, _, rest, by simp, .said hgap, rfl⟩
  · exact ⟨_, [], text, rfl, .unsaid, rfl⟩

theorem MethodLead.leadsText {said : Visibility × Bool} (h : MethodLead said lead) :
    LeadsText memberLeads lead := by
  obtain ⟨hv, hmodifiers, ho, hmodifiers'⟩ := h
  have hsub : ∀ word ∈ memberModifiers, word ∈ memberLeads := by decide
  have hvisibility : LeadsText memberLeads _ := hv.leadsText.mono (by decide)
  have hover : LeadsText memberLeads _ := ho.leadsText.mono (by decide)
  exact hvisibility.append <| (hmodifiers.mono hsub).append <|
    hover.append (hmodifiers'.mono hsub)

/-- A word in a run of leading words lies in one of them. -/
theorem LeadsText.exists_isInfix {letters : List Char} (h : LeadsText words lead)
    (hletters : IsWordRun letters) (hlies : letters <:+: lead) :
    ∃ word ∈ words, letters <:+: word.toList := by
  induction h with
  | nil => exact absurd (List.infix_nil.1 hlies) hletters.ne_nil
  | @cons word gap text hmem hgap _ ih =>
    -- white space is no part of it
    have hnone {cs : List Char} (hword : cs.head?.any isWord = true) (hends : Ends isWord cs) :
        False := by
      rw [hends.head?_any] at hword
      exact absurd hword (by simp)
    obtain ⟨front, behind, htext⟩ := hlies
    rw [List.append_assoc] at htext
    rcases exists_of_append_eq_append htext with ⟨more, -, -, hlater⟩ | ⟨more, hword, hlater⟩
    · rcases exists_of_append_eq_append hlater with ⟨inside, hne, hinside, hcut⟩ | ⟨later, -, rfl⟩
      · have hblank : IsGap inside :=
          ⟨hne, fun c hc => hgap.all c (hinside ▸ List.mem_append_right more hc)⟩
        exact (hnone (hletters.head?_any behind) (hcut ▸ hblank.ends_isWord text)).elim
      · exact ih ⟨later, behind, List.append_assoc ..⟩
    · rcases exists_of_append_eq_append hlater with ⟨inside, hne, hinside, hcut⟩ | ⟨later, rfl, -⟩
      · have hrun : IsWordRun inside :=
          ⟨hne, fun c hc => hletters.all c (hinside ▸ List.mem_append_right more hc)⟩
        exact (hnone (hrun.head?_any behind) (hcut ▸ hgap.ends_isWord text)).elim
      · exact ⟨word, hmem, front, later, by rw [hword, List.append_assoc]⟩

/-- A lead says `override` if and only if it holds that word. -/
theorem MethodLead.overrides_iff {said : Visibility × Bool} (h : MethodLead said lead) :
    said.2 = true ↔ "override".toList <:+: lead := by
  obtain @⟨v, o, visibility, modifiers, overrides, modifiers', hv, hmodifiers, ho, hmodifiers'⟩ := h
  cases ho with
  | @said gap _ =>
    have hlies : "override".toList <:+:
        visibility ++ (modifiers ++ ("override".toList ++ gap ++ modifiers')) :=
      ⟨visibility ++ modifiers, gap ++ modifiers', by simp⟩
    exact ⟨fun _ => hlies, fun _ => rfl⟩
  | unsaid =>
    refine ⟨fun hsaid => absurd hsaid (by simp), fun hlies => ?_⟩
    let words := ["private", "protected", "public"] ++ memberModifiers
    have hsub : ∀ word ∈ memberModifiers, word ∈ words := by decide
    have hvisibility : LeadsText words visibility := hv.leadsText.mono (by decide)
    have hleads : LeadsText words (visibility ++ (modifiers ++ ([] ++ modifiers'))) :=
      hvisibility.append <| (hmodifiers.mono hsub).append (hmodifiers'.mono hsub)
    obtain ⟨word, hmem, hword⟩ := hleads.exists_isInfix (by decide) hlies
    have hnone : ∀ word ∈ words, ¬"override".toList <:+: word.toList := by
      decide +kernel
    exact absurd hword (hnone word hmem)

/-- What the reader of methods passes over is a lead. -/
theorem exists_of_method?_tokens (h : method? (tokens text) ≠ none) :
    ∃ said lead name source rest, text = lead ++ (source ++ rest) ∧ MethodLead said lead ∧
      NameText ["fun"] name source rest := by
  obtain ⟨v, visibility, behind, rfl, hv, hreadVisibility⟩ := exists_of_readVisibility text
  obtain ⟨modifiers, behind, rfl, hmodifiers, hskip⟩ := exists_leadsText memberModifiers behind
  obtain ⟨o, overrides, behind, rfl, ho, hreadOverride⟩ := exists_of_readOverride behind
  obtain ⟨modifiers', behind, rfl, hmodifiers', hskip'⟩ := exists_leadsText memberModifiers behind
  have hnamed : namedBy? ["fun"] (tokens behind) ≠ none := by
    intro hnone
    unfold method? at h
    rw [hreadVisibility] at h
    dsimp only at h
    rw [hskip, hreadOverride] at h
    dsimp only at h
    rw [hskip', hnone] at h
    exact h rfl
  obtain ⟨⟨name, us⟩, hname⟩ := Option.ne_none_iff_exists'.1 hnamed
  obtain ⟨source, rest, rfl, -, hsource⟩ := exists_of_namedBy?_tokens hname
  exact ⟨(v, o), _, name, source, rest, by simp, .intro hv hmodifiers ho hmodifiers', hsource⟩

/-- The method of a name and a lead. -/
def methodOf (name : String) (said : Visibility × Bool) : Method :=
  ⟨name, said.1, said.2⟩

theorem method?_readsMember : ReadsMember memberLeads ["fun"] MethodLead methodOf method? where
  toReads := method?_reads
  leads_mem := mem_headerWords_of_mem_memberLeads
  runs := by decide
  new := by decide
  leadsText := MethodLead.leadsText
  unsaid := ⟨_, .intro .unsaid .nil .unsaid .nil⟩
  complete := by
    intro said lead name source rest hlead hname
    have hread := hname.namedBy?_eq (by decide)
    have hends : Ends isBlank (source ++ rest) :=
      ends_isBlank_of_head?_any (hname.head?_any (by decide) rest)
    have hunled : Unled memberLeads (tokens (source ++ rest)) := .of_namedBy? hread (by decide)
    obtain @⟨v, o, _, _, _, _, hv, hmodifiers, ho, hmodifiers'⟩ := hlead
    have hmethod := method?_tokens (m := methodOf name (v, o)) hv hmodifiers ho hmodifiers'
      hends hunled
    rw [hread] at hmethod
    simp only [List.append_assoc]
    exact hmethod
  sound := exists_of_method?_tokens

/-- The methods of a body are those that are scanned from left to right. A method overrides another
if its lead holds `override`, and leads neither add nor drop, rename or merge any methods. -/
theorem methodsOf_scans (body : String) :
    (∀ methods, methodsOf body = methods ↔
      Scans ["fun"] MethodLead methodOf [] body.toList methods) ∧
    (∀ said lead, MethodLead said lead → (said.2 = true ↔ "override".toList <:+: lead)) ∧
    Scans ["fun"] Bare (fun name _ => name) [] body.toList ((methodsOf body).map Method.name) := by
  have hiff (methods : List Method) : methodsOf body = methods ↔
      Scans ["fun"] MethodLead methodOf [] body.toList methods :=
    method?_readsMember.readAll_eq_iff
  have hscan := (hiff (methodsOf body)).1 rfl
  exact ⟨hiff, fun _ _ hlead => hlead.overrides_iff, hscan.bare fun _ _ => rfl⟩

/-- Of doubled or misplaced words, only those of the longest lead count. -/
example : methodsOf "private override override fun f() open private fun fun g" =
    [⟨"f", .pub, true⟩, ⟨"fun", .priv, false⟩] := by
  decide +kernel

/-! ## Attributes -/

/-- What may stand before `val` or `var`: a visibility, and modifiers with `override` anywhere among
them. -/
inductive AttributeLead : Visibility → List Char → Prop where
  | intro {v : Visibility} {visibility modifiers : List Char} :
      VisibilityText v visibility → LeadsText ("override" :: memberModifiers) modifiers →
      AttributeLead v (visibility ++ modifiers)

theorem AttributeLead.leadsText {v : Visibility} (h : AttributeLead v lead) :
    LeadsText memberLeads lead := by
  obtain ⟨hv, hmodifiers⟩ := h
  have hvisibility : LeadsText memberLeads _ := hv.leadsText.mono (by decide)
  exact hvisibility.append (hmodifiers.mono (by decide))

/-- A lead says what its visibility word says. -/
theorem AttributeLead.eq_ofWord {v : Visibility} {word : String} (h : AttributeLead v lead)
    (hmem : word ∈ ["private", "protected", "public"]) (hlies : word.toList <:+: lead) :
    v = .ofWord word := by
  have hrun : ∀ word ∈ ["private", "protected", "public"], IsWordRun word.toList := by decide
  obtain @⟨visibility, modifiers, hv, hmodifiers⟩ := h
  cases hv with
  | unsaid =>
    obtain ⟨modifier, hmodifier, hword⟩ := hmodifiers.exists_isInfix (hrun word hmem) hlies
    have hnone : ∀ word ∈ ["private", "protected", "public"],
        ∀ modifier ∈ "override" :: memberModifiers, ¬word.toList <:+: modifier.toList := by
      decide +kernel
    exact absurd hword (hnone word hmem modifier hmodifier)
  | @said said gap hsaid hgap =>
    have hleads : LeadsText (said :: "override" :: memberModifiers)
        (said.toList ++ (gap ++ modifiers)) :=
      .cons List.mem_cons_self hgap (hmodifiers.mono fun _ => List.mem_cons_of_mem _)
    rw [List.append_assoc] at hlies
    obtain ⟨found, hfound, hword⟩ := hleads.exists_isInfix (hrun word hmem) hlies
    -- no visibility word lies in another word that may stand there
    have honly : ∀ word ∈ ["private", "protected", "public"],
        ∀ said ∈ ["private", "protected", "public"],
          ∀ found ∈ said :: "override" :: memberModifiers,
            word.toList <:+: found.toList → word = said := by
      decide +kernel
    rw [honly word hmem said hsaid found hfound hword]

/-- A lead without a visibility word says `public`. -/
theorem AttributeLead.eq_pub {v : Visibility} (h : AttributeLead v lead)
    (hnone : ∀ word ∈ ["private", "protected", "public"], ¬word.toList <:+: lead) : v = .pub := by
  obtain @⟨visibility, modifiers, hv, -⟩ := h
  cases hv with
  | unsaid => rfl
  | @said word gap hword _ =>
    exact absurd ⟨[], gap ++ modifiers, by simp⟩ (hnone word hword)

/-- What the reader of attributes passes over is a lead. -/
theorem exists_of_attribute?_tokens (h : attribute? (tokens text) ≠ none) :
    ∃ v lead name source rest, text = lead ++ (source ++ rest) ∧ AttributeLead v lead ∧
      NameText ["val", "var"] name source rest := by
  obtain ⟨v, visibility, behind, rfl, hv, hreadVisibility⟩ := exists_of_readVisibility text
  obtain ⟨modifiers, behind, rfl, hmodifiers, hskip⟩ :=
    exists_leadsText ("override" :: memberModifiers) behind
  have hnamed : namedBy? ["val", "var"] (tokens behind) ≠ none := by
    intro hnone
    unfold attribute? at h
    rw [hreadVisibility] at h
    dsimp only at h
    rw [hskip, hnone] at h
    exact h rfl
  obtain ⟨⟨name, us⟩, hname⟩ := Option.ne_none_iff_exists'.1 hnamed
  obtain ⟨source, rest, rfl, -, hsource⟩ := exists_of_namedBy?_tokens hname
  exact ⟨v, _, name, source, rest, by simp, .intro hv hmodifiers, hsource⟩

theorem attribute?_readsMember :
    ReadsMember memberLeads ["val", "var"] AttributeLead Attribute.mk attribute? where
  toReads := attribute?_reads
  leads_mem := mem_headerWords_of_mem_memberLeads
  runs := by decide
  new := by decide
  leadsText := AttributeLead.leadsText
  unsaid := ⟨_, .intro .unsaid .nil⟩
  complete := by
    intro v lead name source rest hlead hname
    have hread := hname.namedBy?_eq (by decide)
    have hends : Ends isBlank (source ++ rest) :=
      ends_isBlank_of_head?_any (hname.head?_any (by decide) rest)
    have hunled : Unled memberLeads (tokens (source ++ rest)) := .of_namedBy? hread (by decide)
    obtain @⟨visibility, modifiers, hv, hmodifiers⟩ := hlead
    have hattribute := attribute?_tokens (a := ⟨name, v⟩) hv hmodifiers hends hunled
    rw [hread] at hattribute
    rw [List.append_assoc]
    exact hattribute
  sound := exists_of_attribute?_tokens

/-- The attributes of a body are those that are scanned from left to right. The visibility of one is
that of the visibility word in its lead, or else `public`. -/
theorem attributesOf_scans (body : String) :
    (∀ attributes, attributesOf body = attributes ↔
      Scans ["val", "var"] AttributeLead Attribute.mk [] body.toList attributes) ∧
    ∀ v lead, AttributeLead v lead →
      (∀ word ∈ ["private", "protected", "public"], word.toList <:+: lead → v = .ofWord word) ∧
      ((∀ word ∈ ["private", "protected", "public"], ¬word.toList <:+: lead) → v = .pub) := by
  refine ⟨fun attributes => attribute?_readsMember.readAll_eq_iff, fun v lead hlead => ?_⟩
  exact ⟨fun word hmem hlies => hlead.eq_ofWord hmem hlies, hlead.eq_pub⟩

/-- A visibility counts across modifiers and any number of overrides, but not across a word of
another kind. -/
example : attributesOf "private override const override val x protected static open var val" =
    [⟨"x", .priv⟩, ⟨"val", .pub⟩] := by
  decide +kernel

end DesignMetrics.Source
