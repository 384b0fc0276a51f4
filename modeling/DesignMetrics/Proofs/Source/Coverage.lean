import DesignMetrics.Proofs.Source.Declaration

/-!
# Where headers lie

The headers of the declarations of a text are texts of the grammar, cut as long as the grammar
allows, and no place where a class is named lies outside of them.
-/

namespace DesignMetrics.Source

open Text (isWord isBlank)

variable {text before after source rest : List Char} {d e : Declaration} {ds : List Declaration}

namespace Declaration

/-- Where the header ends and the body starts. -/
def headerStop (d : Declaration) : Nat := d.stop - d.body.length

/-- A position lies in the header. -/
def Covers (d : Declaration) (position : Nat) : Prop :=
  d.start ≤ position ∧ position < d.headerStop

instance (d : Declaration) (position : Nat) : Decidable (d.Covers position) :=
  inferInstanceAs (Decidable (_ ∧ _))

theorem headerStop_le (d : Declaration) : d.headerStop ≤ d.stop :=
  Nat.sub_le _ _

theorem Stands.headerStop_eq (h : d.Stands before source rest) :
    d.headerStop = (before ++ source).length := by
  rw [headerStop, h.stop_eq, List.length_append]
  omega

end Declaration

/-- The headers of a text that are accepted: each of them is written as the grammar says and takes
in as much as it can, and each place where a class is named lies in just one of them. -/
structure Accepts (text : List Char) (ds : List Declaration) : Prop where
  sound : ∀ d ∈ ds, ∃ before source rest, text = before ++ (source ++ rest) ∧
    before.length = d.start ∧ (before ++ source).length = d.headerStop ∧
    IsBoundary before (source ++ rest) ∧ HeaderText ⟨d.name, d.parent⟩ source rest
  /-- A modifier in front of a header starts in the header before it. -/
  leftmost : ∀ earlier d later, ds = earlier ++ d :: later → ∀ before modifier gap rest,
    text = before ++ (modifier.toList ++ (gap ++ rest)) → modifier ∈ classModifiers → IsGap gap →
    IsBoundary before (modifier.toList ++ (gap ++ rest)) →
    (before ++ (modifier.toList ++ gap)).length = d.start →
    ∃ e ∈ earlier.getLast?, e.Covers before.length
  complete : ∀ before gap c rest, text = before ++ ("class".toList ++ (gap ++ c :: rest)) →
    IsBoundary before ("class".toList ++ (gap ++ c :: rest)) → IsGap gap → isWord c = true →
    ds.countP (fun d => d.Covers before.length) = 1

/-! ## Places in a text -/

/-- Where a header could be read, one was read or it goes on. -/
theorem Declared.exists_covers (h : Declared before text ds) (htext : text = rest ++ after)
    (hcut : Apart rest after) (hread : header? (tokens after) ≠ none) :
    ∃ d ∈ ds, d.Covers (before ++ rest).length := by
  induction h generalizing rest with
  | nil =>
    obtain ⟨-, rfl⟩ := List.nil_eq_append_iff.1 htext
    exact absurd rfl hread
  | @cons before source behind d ds hd _ ih =>
    rcases exists_of_append_eq_append htext with ⟨more, hmore, hsource, -⟩ | ⟨later, rfl, hlater⟩
    · refine ⟨d, List.mem_cons_self, ?_, ?_⟩
      · rw [hd.start_eq, List.length_append]
        omega
      · have hpos : 0 < more.length := List.length_pos_iff.2 hmore
        rw [hd.headerStop_eq, hsource]
        simp only [List.length_append]
        omega
    rcases exists_of_append_eq_append hlater with ⟨more, hmore, hbody, rfl⟩ | ⟨later', rfl, hrest⟩
    · exact absurd (hd.silent.read?_eq_none hd.apart hbody hmore hcut.of_append) hread
    · rw [← List.append_assoc] at hcut
      obtain ⟨e, he, hcovers⟩ := ih hrest hcut.of_append
      refine ⟨e, List.mem_cons_of_mem d he, ?_⟩
      simpa only [List.append_assoc] using hcovers

theorem exists_covers {text : String} (htext : text.toList = before ++ after)
    (hcut : Apart before after) (hread : header? (tokens after) ≠ none) :
    ∃ d ∈ declarations text, d.Covers before.length := by
  obtain ⟨front, rest, hfront, happart, hsilent, hdeclared⟩ := exists_declared text
  rw [hfront] at htext
  rcases exists_of_append_eq_append htext with ⟨more, hmore, rfl, rfl⟩ | ⟨later, rfl, hlater⟩
  · exact absurd (hsilent.read?_eq_none happart rfl hmore hcut) hread
  · exact hdeclared.exists_covers hlater hcut.of_append hread

/-- Headers do not overlap. -/
theorem countP_covers {position : Nat} (hdisjoint : ds.Pairwise fun d e => d.stop ≤ e.start)
    (hd : d ∈ ds) (hcovers : d.Covers position) :
    ds.countP (fun d => d.Covers position) = 1 := by
  obtain ⟨earlier, later, rfl⟩ := List.append_of_mem hd
  rw [List.pairwise_append, List.pairwise_cons] at hdisjoint
  obtain ⟨-, ⟨hlater, -⟩, hearlier⟩ := hdisjoint
  have hnone {es : List Declaration} (h : ∀ e ∈ es, e.stop ≤ d.start ∨ d.stop ≤ e.start) :
      es.countP (fun d => d.Covers position) = 0 := by
    rw [List.countP_eq_zero]
    intro e he
    rw [decide_eq_true_eq]
    rintro ⟨hestart, hestop⟩
    obtain ⟨hdstart, hdstop⟩ := hcovers
    have hele := e.headerStop_le
    have hdle := d.headerStop_le
    have hapart := h e he
    omega
  rw [List.countP_append, List.countP_cons_of_pos (by simpa using hcovers),
    hnone fun e he => .inl (hearlier e he d List.mem_cons_self),
    hnone fun e he => .inr (hlater e he)]

/-- No header starts inside of a word and the white space after it. -/
theorem Declaration.Stands.start_le {front behind word gap : List Char}
    (h : d.Stands front source behind) (hword : IsWordRun word) (hgap : IsGap gap)
    (htext : front ++ (source ++ (d.body.toList ++ behind)) =
      before ++ (word ++ (gap ++ rest)))
    (hstart : d.start < (before ++ (word ++ gap)).length) : d.start ≤ before.length := by
  have hhead := h.header.head?_any (d.body.toList ++ behind)
  rw [h.start_eq] at hstart ⊢
  rcases exists_of_append_eq_append htext with ⟨more, hmore, hfront, hafter⟩ | ⟨later, rfl, -⟩
  · exfalso
    subst hfront
    rw [← List.append_assoc] at hafter
    rcases exists_of_append_eq_append hafter with ⟨inside, hinside, hcut, hsource⟩ | ⟨later, rfl, -⟩
    · have hstarts : inside.head?.any isWord = true := by
        rw [hsource, List.head?_append_of_ne_nil inside hinside] at hhead
        exact hhead
      have hlast := getLast?_any_of_append hword hgap hcut hmore hstarts
      have hboundary := (isBoundary_iff hhead).1 h.boundary
      rw [List.getLast?_append_of_ne_nil before hmore, hlast] at hboundary
      exact absurd hboundary (by simp)
    · simp only [List.length_append] at hstart
      omega
  · rw [List.length_append]
    omega

/-! ## Headers of a text -/

/-- If a position in front of a declaration lies in some header, and the declaration before starts
no later, then it lies in the header of that one. -/
theorem exists_covers_getLast? {earlier later : List Declaration} {position : Nat}
    (hdisjoint : (earlier ++ d :: later).Pairwise fun d e => d.stop ≤ e.start)
    (hstop : d.start < d.stop) (he : e ∈ earlier ++ d :: later) (hcovers : e.Covers position)
    (hposition : position < d.start) (hbefore : ∀ p ∈ earlier.getLast?, p.start ≤ position) :
    ∃ p ∈ earlier.getLast?, p.Covers position := by
  obtain ⟨hstart, hheader⟩ := hcovers
  rw [List.pairwise_append, List.pairwise_cons] at hdisjoint
  obtain ⟨hearlier, ⟨hlater, -⟩, -⟩ := hdisjoint
  have hin : e ∈ earlier := by
    rcases List.mem_append.1 he with he | he
    · exact he
    -- the others start no earlier than the declaration
    exfalso
    rcases List.mem_cons.1 he with rfl | he
    · omega
    · have hle := hlater e he
      omega
  obtain ⟨init, p, rfl⟩ := (List.eq_nil_or_concat' earlier).resolve_left (List.ne_nil_of_mem hin)
  have hlast : p ∈ (init ++ [p]).getLast? := by simp
  have hp := hbefore p hlast
  rcases List.mem_append.1 hin with hinit | hsame
  · have hle := (List.pairwise_append.1 hearlier).2.2 e hinit p List.mem_cons_self
    have hele := e.headerStop_le
    omega
  · obtain rfl := List.mem_singleton.1 hsame
    exact ⟨e, hlast, hstart, hheader⟩

/-- A modifier in front of a header starts in the header before it. -/
theorem exists_covers_of_modifier {text : String} {earlier later : List Declaration}
    {modifier : String} {gap : List Char} (hds : declarations text = earlier ++ d :: later)
    (htext : text.toList = before ++ (modifier.toList ++ (gap ++ rest)))
    (hmodifier : modifier ∈ classModifiers) (hgap : IsGap gap)
    (hboundary : IsBoundary before (modifier.toList ++ (gap ++ rest)))
    (hstart : (before ++ (modifier.toList ++ gap)).length = d.start) :
    ∃ e ∈ earlier.getLast?, e.Covers before.length := by
  have hmem : d ∈ declarations text := hds ▸ List.mem_append_right earlier List.mem_cons_self
  have hdisjoint := pairwise_declarations text
  obtain ⟨front, source, behind, hsplit, h⟩ := exists_stands hmem
  -- behind the modifier comes the header of the declaration
  obtain ⟨-, rfl⟩ : before ++ (modifier.toList ++ gap) = front ∧
      rest = source ++ (d.body.toList ++ behind) := by
    refine List.append_inj ?_ (hstart.trans h.start_eq)
    rw [← hsplit, htext]
    simp only [List.append_assoc]
  have hread : header? (tokens (source ++ (d.body.toList ++ behind))) ≠ none := by
    rw [h.header.header?_eq]
    simp
  have hmore := header?_modifier_ne_none hmodifier hgap (h.header.head?_any _) hread
  obtain ⟨e, he, hcovers⟩ := exists_covers htext hboundary.apart hmore
  have hpos : 0 < gap.length := List.length_pos_iff.2 hgap.ne_nil
  have hposition : before.length < d.start := by
    rw [← hstart]
    simp only [List.length_append]
    omega
  rw [hds] at he hdisjoint
  refine exists_covers_getLast? hdisjoint h.start_lt_stop he hcovers hposition fun p hp => ?_
  -- no header starts between the modifier and the declaration
  have hlast : p ∈ earlier := List.mem_of_getLast? hp
  have hpmem : p ∈ declarations text := hds ▸ List.mem_append_left (d :: later) hlast
  obtain ⟨front', source', behind', hsplit', h'⟩ := exists_stands hpmem
  have hple := (List.pairwise_append.1 hdisjoint).2.2 p hlast d List.mem_cons_self
  have hplt := h'.start_lt_stop
  have hword : IsWordRun modifier.toList :=
    isWordRun_of_mem_headerWords (mem_headerWords_of_mem_classModifiers _ hmodifier)
  exact h'.start_le hword hgap (hsplit' ▸ htext) (by omega)

/-- The headers that are found in a text are those that are accepted. -/
theorem accepts_declarations (text : String) : Accepts text.toList (declarations text) where
  sound := by
    intro d hd
    obtain ⟨before, source, rest, htext, h⟩ := exists_stands hd
    exact ⟨before, source, _, htext, h.start_eq.symm, h.headerStop_eq.symm, h.boundary, h.header⟩
  leftmost := by
    intro earlier d later hds before modifier gap rest htext hmodifier hgap hboundary hstart
    exact exists_covers_of_modifier hds htext hmodifier hgap hboundary hstart
  complete := by
    intro before gap c rest htext hboundary hgap hc
    have hread := header?_class_ne_none hgap hc rest
    obtain ⟨d, hd, hcovers⟩ := exists_covers htext hboundary.apart hread
    exact countP_covers (pairwise_declarations text) hd hcovers

/-- A name, a parent and arguments may hold the word `class` without a header of its own. -/
example : declarations "class class:class(class C)" =
    [⟨"class", some "class", "", 0, 26⟩] := by
  decide +kernel

end DesignMetrics.Source
