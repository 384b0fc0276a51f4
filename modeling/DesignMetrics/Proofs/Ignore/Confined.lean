import DesignMetrics.Ignore.Relocate
import DesignMetrics.Proofs.Ignore.Fit

/-!
# Rules of nested directories

A line that is written for the root begins with the names of its directory. If these stand for
themselves, its rule fits nothing but what lies in the directory.
-/

namespace DesignMetrics.Ignore

open Text (splitOn)

/-- A line that `relocate` ties to its directory, if it means anything. One that begins with a
backslash is left as it is, and so is one with white space before a `#`, although it is no
comment. -/
def IsLocal (line : List Char) : Prop :=
  line.head? ≠ some '\\' ∧ ((Text.trim line).head? = some '#' → line.head? = some '#')

instance : DecidablePred IsLocal := fun line =>
  inferInstanceAs (Decidable (line.head? ≠ some '\\' ∧
    ((Text.trim line).head? = some '#' → line.head? = some '#')))

/-- A line without the `!` that takes paths back. -/
def patternOf : List Char → List Char
  | '!' :: pattern => pattern
  | line => line

/-- A line that asks for a name, unlike `/` or `**`, or means nothing. -/
def AsksForName (line : List Char) : Prop :=
  isPassive line = true ∨
    ∃ segment ∈ splitOn '/' (significant ((patternOf line).dropWhile (· == '/'))), IsSolid segment

instance : DecidablePred AsksForName := fun _ =>
  @instDecidableOr _ _ inferInstance (List.decidableBEx _ _)

variable {base cs segment : List Char} {segments : List (List Char)} {directory : Bool}

/-! ## Normal form -/

theorem collapse_cons (hne : segment ≠ deep) : collapse (segment :: segments) =
    segment :: collapse segments := by
  cases segments with
  | nil => rfl
  | cons next rest => rw [collapse, if_neg fun h => hne h.1]

theorem collapse_ne_nil (hne : segments ≠ []) : collapse segments ≠ [] := by
  induction segments with
  | nil => exact absurd rfl hne
  | cons segment rest ih =>
    cases rest with
    | nil => exact List.cons_ne_nil _ _
    | cons next rest =>
      rw [collapse]
      split
      · exact ih (List.cons_ne_nil _ _)
      · exact List.cons_ne_nil _ _

/-- Plain segments are not collapsed. -/
theorem collapse_append {plain : List (List Char)} (hplain : ∀ segment ∈ plain, IsPlain segment) :
    collapse (plain ++ segments) = plain ++ collapse segments := by
  induction plain with
  | nil => rfl
  | cons segment plain ih =>
    obtain ⟨hsegment, hrest⟩ := List.forall_mem_cons.1 hplain
    rw [List.cons_append, collapse_cons hsegment.ne_deep, ih hrest, List.cons_append]

theorem mem_collapse (hne : segment ≠ deep) (h : segment ∈ segments) :
    segment ∈ collapse segments := by
  induction segments with
  | nil => cases h
  | cons first rest ih =>
    cases rest with
    | nil => exact h
    | cons next rest =>
      rw [collapse]
      obtain rfl | h := List.mem_cons.1 h
      · rw [if_neg fun hboth => hne hboth.1]
        exact List.mem_cons_self
      · split
        · exact ih h
        · exact List.mem_cons_of_mem _ (ih h)

theorem normalize_nil_cons (segments : List (List Char)) : normalize ([] :: segments) =
    collapse (if segments.getLast? = some [] then segments.dropLast ++ [deep] else segments) :=
  rfl

theorem normalize_nil_ne_nil (hne : segments ≠ []) : normalize ([] :: segments) ≠ [] := by
  rw [normalize_nil_cons]
  refine collapse_ne_nil ?_
  split
  · simp
  · exact hne

/-- The normal form has every name. -/
theorem mem_normalize (h : segment ∈ segments) (hnil : segment ≠ []) (hdeep : segment ≠ deep) :
    segment ∈ normalize segments := by
  have hend : ∀ placed, segment ∈ placed →
      segment ∈ if placed.getLast? = some [] then placed.dropLast ++ [deep] else placed := by
    intro placed hplaced
    split
    · next hlast =>
      rw [← List.dropLast_append_getLast? _ hlast] at hplaced
      obtain hplaced | hplaced := List.mem_append.1 hplaced
      · exact List.mem_append_left _ hplaced
      · exact absurd (List.mem_singleton.1 hplaced) hnil
    · exact hplaced
  refine mem_collapse hdeep (hend _ ?_)
  split
  · exact (List.mem_cons.1 h).resolve_left hnil
  · split
    · exact h
    · exact List.mem_cons_of_mem _ h
  · split
    · exact h
    · exact List.mem_cons_of_mem _ h
  · exact h

/-- A slash in front keeps plain segments in their place. -/
theorem normalize_nil_append {plain : List (List Char)}
    (hplain : ∀ segment ∈ plain, IsPlain segment) (hne : segments ≠ []) :
    normalize ([] :: (plain ++ segments)) = plain ++ normalize ([] :: segments) := by
  rw [normalize_nil_cons, normalize_nil_cons, List.getLast?_append_of_ne_nil _ hne,
    ← collapse_append hplain]
  split
  · rw [List.dropLast_append_of_ne_nil hne, List.append_assoc]
  · rfl

/-- A name in front is part of a path, and none of the special shapes. -/
theorem shapeOf_cons_eq_ok {shape : Shape} (hne : segment ≠ deep) :
    shapeOf directory (segment :: segments) = .ok shape ↔
      ∃ steps ending, assemble directory false (segment :: segments) = .ok (steps, ending) ∧
        shape = .path steps ending := by
  have hhead : ∀ rest, segment :: segments ≠ deep :: rest :=
    fun _ heq => hne (List.cons.inj heq).1
  rw [shapeOf, if_neg (hhead _), if_neg (hhead _), if_neg (hhead _)]
  simp only [if_neg hne]
  rw [bind_eq_ok]
  constructor
  · rintro ⟨⟨steps, ending⟩, hassemble, hshape⟩
    exact ⟨steps, ending, hassemble, (Except.ok.inj hshape).symm⟩
  · rintro ⟨steps, ending, hassemble, rfl⟩
    exact ⟨(steps, ending), hassemble, rfl⟩

/-- What begins with a plain directory fits only what lies in the directory, and not the directory
alone if a name is asked for. -/
theorem exists_below_of_fits {tail : List Char} {shape : Shape} (hbase : IsPlain base)
    (h : shapeOf directory (normalize (splitOn '/' ('/' :: (base ++ '/' :: tail)))) = .ok shape)
    (hfits : (shape.fits? cs).isSome) :
    ∃ below, cs = base ++ '/' :: below ∧
      ((∃ segment ∈ splitOn '/' tail, IsSolid segment) → below ≠ []) := by
  have hplain : ∀ segment ∈ splitOn '/' base, IsPlain segment :=
    fun segment hsegment c hc => hbase c (Text.mem_of_mem_splitOn hsegment hc)
  have hsplit : splitOn '/' ('/' :: (base ++ '/' :: tail)) =
      [] :: (splitOn '/' base ++ splitOn '/' tail) := by
    rw [Text.splitOn_cons, if_pos rfl, Text.splitOn_append_cons]
  rw [hsplit, normalize_nil_append hplain (Text.splitOn_ne_nil tail)] at h
  -- the segments of the directory are fitted one by one up to the slash behind them
  cases hpieces : splitOn '/' base with
  | nil => exact absurd hpieces (Text.splitOn_ne_nil base)
  | cons first others =>
    rw [hpieces] at h hplain
    obtain ⟨hfirst, hothers⟩ := List.forall_mem_cons.1 hplain
    obtain ⟨steps, ending, hsteps, rfl⟩ := (shapeOf_cons_eq_ok hfirst.ne_deep).1 h
    obtain ⟨own, others', hown, hothers', rfl⟩ := assemble_cons hfirst.ne_deep hsteps
    obtain rfl := Except.ok.inj (hfirst.segmentSteps_eq.symm.trans hown)
    obtain ⟨after, rfl, hafter⟩ := fitSteps_literals hfits
    obtain ⟨rest', left, rfl, hrest', hleft⟩ := exists_fits_of_plain hothers hothers' hafter
    obtain ⟨below, rfl⟩ := List.head?_eq_some_iff.1
      (head?_of_fits_assemble (normalize_nil_ne_nil (Text.splitOn_ne_nil tail)) hrest' hleft)
    refine ⟨below, ?_, ?_⟩
    · rw [Text.eq_of_splitOn_eq_cons hpieces, List.append_assoc]
    · -- the slash behind the directory and a solid segment take two characters
      rintro ⟨segment, hmem, hsolid⟩ rfl
      have hnormal := mem_normalize (List.mem_cons_of_mem [] hmem) hsolid.ne_nil hsolid.ne_deep
      have hcount := two_le_countP_assemble hrest' hnormal hsolid
      have hlength := countP_consumes_le hleft
      rw [List.length_singleton] at hlength
      omega

/-! ## Lines -/

/-- A slash keeps what stands before it from being cut off. -/
theorem significant_append (as bs : List Char) :
    significant (as ++ '/' :: bs) = as ++ '/' :: significant bs := by
  have hsuffix : ['\\', ' '] <:+ as ++ '/' :: bs ↔ ['\\', ' '] <:+ bs := by
    have hbs : '/' :: bs <:+ as ++ '/' :: bs := List.suffix_append _ _
    refine ⟨fun h => ?_, fun h => h.trans ((List.suffix_cons _ _).trans hbs)⟩
    -- the slash is neither the backslash nor the space
    obtain h | h := List.suffix_or_suffix_of_suffix h hbs
    · obtain h | h := List.suffix_cons_iff.1 h
      · cases h
      · exact h
    · exact absurd (h.subset List.mem_cons_self) (by decide)
  unfold significant
  simp only [List.isSuffixOf_iff_suffix, hsuffix]
  split
  · rfl
  · exact Text.dropTrailing_append_cons (by decide) as bs

theorem significant_prefix (pattern : List Char) : significant pattern <+: pattern := by
  unfold significant
  split
  · exact List.prefix_rfl
  · rw [Text.trimEnd, Text.dropTrailing_eq_rdropWhile]
    exact List.rdropWhile_prefix _ _

theorem significant_bang (pattern : List Char) :
    significant ('!' :: pattern) = '!' :: significant pattern := by
  have hsuffix : ['\\', ' '] <:+ '!' :: pattern ↔ ['\\', ' '] <:+ pattern := by
    rw [List.suffix_cons_iff]
    exact or_iff_right fun h => by cases h
  unfold significant
  simp only [List.isSuffixOf_iff_suffix, hsuffix]
  split
  · rfl
  · exact Text.dropTrailing_cons (.inl (by decide))

theorem patternOf_of_head?_ne {line : List Char} (h : line.head? ≠ some '!') :
    patternOf line = line := by
  unfold patternOf
  split
  · exact absurd rfl h
  · rfl

/-- What stands in a moved pattern after its directory and a slash. -/
def movedTail (pattern : List Char) : List Char :=
  (if isAnchored pattern then [] else deep ++ ['/']) ++
    significant (pattern.dropWhile (· == '/'))

/-- A moved pattern begins with its directory. -/
theorem significant_moveUnder (before base pattern : List Char) :
    significant (before ++ moveUnder base pattern) =
      before ++ '/' :: (base ++ '/' :: movedTail pattern) := by
  unfold moveUnder movedTail
  split
  · simpa using significant_append (before ++ '/' :: base) (pattern.dropWhile (· == '/'))
  · simpa [deep] using
      significant_append (before ++ '/' :: (base ++ '/' :: deep)) (pattern.dropWhile (· == '/'))

/-- No name of a moved pattern gets lost. -/
theorem mem_splitOn_movedTail {pattern : List Char}
    (h : segment ∈ splitOn '/' (significant (pattern.dropWhile (· == '/')))) :
    segment ∈ splitOn '/' (movedTail pattern) := by
  unfold movedTail
  split
  · exact h
  · rw [List.append_assoc, List.singleton_append, Text.splitOn_append_cons]
    exact List.mem_append_right _ h

/-- How the rule of a line comes about: `body` is what the line says, without the `!` of a rule that
takes paths back. -/
structure Rule.IsMadeOf (r : Rule) (line : String) (body : List Char) : Prop where
  text : significant line.toList = if r.ignores then body else '!' :: body
  unmarked : r.ignores = true → body.head? ≠ some '!' ∧ body.head? ≠ some '#' ∧ body ≠ ['/']
  ne_nil : normalize (splitOn '/' body) ≠ []
  shape_eq : shapeOf (decide ((splitOn '/' body).getLast? = some []))
    (normalize (splitOn '/' body)) = .ok r.shape
  ordered : r.shape.rangesOrdered = true

/-- The rule that is made of what a line says. -/
def ruleOfBody (line : String) (ignores : Bool) (body : List Char) :
    Except RuleError (Option Rule) :=
  match normalize (splitOn '/' body) with
  | [] => .error (.malformed line)
  | normal =>
    match shapeOf (decide ((splitOn '/' body).getLast? = some [])) normal with
    | .error .danglingEscape => .error (.malformed line)
    | .error .unclosedBracket => .ok none
    | .ok shape =>
      if shape.rangesOrdered then .ok (some ⟨ignores, shape⟩) else .error .reversedRange

/-- A line that is no comment and no slash alone says what stands in it, or behind its `!`. -/
theorem ofLine_of_text {line : String} {ignores : Bool} {body : List Char}
    (htext : significant line.toList = if ignores then body else '!' :: body)
    (hunmarked : ignores = true →
      body ≠ [] ∧ body.head? ≠ some '!' ∧ body.head? ≠ some '#' ∧ body ≠ ['/']) :
    Rule.ofLine line = ruleOfBody line ignores body := by
  unfold Rule.ofLine
  simp only [htext]
  cases ignores with
  | false => rfl
  | true =>
    obtain ⟨hnil, hbang, hcomment, hslash⟩ := hunmarked rfl
    have hmeans : ¬(body = [] ∨ body.head? = some '#' ∨ body = ['/']) := by
      simp [hnil, hcomment, hslash]
    -- for all texts, as the match may not depend on what is known of this one
    have hmarks : ∀ cs : List Char, cs.head? ≠ some '!' →
        (match cs with
          | '!' :: rest => (false, rest)
          | _ => (true, cs)) = (true, cs) := by
      intro cs hcs
      split
      · exact absurd rfl hcs
      · rfl
    rw [if_pos rfl, if_neg hmeans]
    exact congrArg (fun marks => ruleOfBody line marks.1 marks.2) (hmarks body hbang)

/-- Every rule is made of the body of its line. -/
theorem exists_isMadeOf {line : String} {r : Rule} (h : Rule.ofLine line = .ok (some r)) :
    ∃ body, r.IsMadeOf line body := by
  by_cases hmeans : significant line.toList = [] ∨ (significant line.toList).head? = some '#' ∨
      significant line.toList = ['/']
  · rw [Rule.ofLine, if_pos hmeans] at h
    cases h
  obtain ⟨hnil, hcomment, hslash⟩ := by simpa only [not_or] using hmeans
  -- the mark is taken off
  obtain ⟨ignores, body, htext, hunmarked⟩ : ∃ ignores body,
      significant line.toList = (if ignores then body else '!' :: body) ∧
        (ignores = true →
          body ≠ [] ∧ body.head? ≠ some '!' ∧ body.head? ≠ some '#' ∧ body ≠ ['/']) := by
    by_cases hbang : (significant line.toList).head? = some '!'
    · obtain ⟨body, hbody⟩ := List.head?_eq_some_iff.1 hbang
      exact ⟨false, body, hbody, fun hfalse => by cases hfalse⟩
    · exact ⟨true, significant line.toList, rfl, fun _ => ⟨hnil, hbang, hcomment, hslash⟩⟩
  rw [ofLine_of_text htext hunmarked, ruleOfBody] at h
  split at h
  · cases h
  next hne =>
  split at h
  · cases h
  · cases h
  next shape hshape =>
  split at h
  · next hordered =>
    cases h
    exact ⟨body, htext, fun hignores => (hunmarked hignores).2, hne, hshape, hordered⟩
  · cases h

theorem Rule.IsMadeOf.ofLine_eq {line : String} {r : Rule} {body : List Char}
    (h : r.IsMadeOf line body) : Rule.ofLine line = .ok (some r) := by
  have hunmarked : r.ignores = true →
      body ≠ [] ∧ body.head? ≠ some '!' ∧ body.head? ≠ some '#' ∧ body ≠ ['/'] := by
    refine fun hignores => ⟨?_, h.unmarked hignores⟩
    rintro rfl
    exact h.ne_nil rfl
  rw [ofLine_of_text h.text hunmarked, ruleOfBody]
  split
  · next hnil => exact absurd hnil h.ne_nil
  · simp only [h.shape_eq, h.ordered, if_true]

/-- The rule of a line is made of the pattern, and takes paths back if the line begins with `!`. -/
theorem Rule.IsMadeOf.body_eq {line : String} {r : Rule} {body : List Char}
    (h : r.IsMadeOf line body) :
    body = significant (patternOf line.toList) ∧
      (r.ignores = true ↔ line.toList.head? ≠ some '!') := by
  have htext := h.text
  by_cases hbang : line.toList.head? = some '!'
  · obtain ⟨pattern, hline⟩ := List.head?_eq_some_iff.1 hbang
    rw [hline, significant_bang] at htext
    split at htext
    · next hignores =>
      exact absurd (by rw [← htext]; rfl) (h.unmarked hignores).1
    · next hignores =>
      rw [hline]
      exact ⟨(List.cons.inj htext).2.symm, iff_of_false hignores (by simp)⟩
  · rw [patternOf_of_head?_ne hbang]
    split at htext
    · next hignores => exact ⟨htext.symm, iff_of_true hignores hbang⟩
    · obtain ⟨cut, hcut⟩ := significant_prefix line.toList
      exact absurd (by rw [← hcut, htext]; rfl) hbang

/-- What the rule of a moved pattern fits lies in the directory, and is not the directory alone if
the pattern asks for a name. -/
theorem exists_below_of_moveUnder {line : String} {pattern : List Char} {r : Rule}
    (hbase : IsPlain base) (hline : patternOf line.toList = moveUnder base pattern)
    (h : Rule.ofLine line = .ok (some r)) (hfits : (r.shape.fits? cs).isSome) :
    ∃ below, cs = base ++ '/' :: below ∧
      ((∃ segment ∈ splitOn '/' (significant (pattern.dropWhile (· == '/'))), IsSolid segment) →
        below ≠ []) := by
  obtain ⟨body, hbody⟩ := exists_isMadeOf h
  obtain ⟨rfl, -⟩ := hbody.body_eq
  have hshape := hbody.shape_eq
  have htext : significant (patternOf line.toList) = '/' :: (base ++ '/' :: movedTail pattern) := by
    rw [hline]
    exact significant_moveUnder [] base pattern
  rw [htext] at hshape
  obtain ⟨below, hcs, hbelow⟩ := exists_below_of_fits hbase hshape hfits
  refine ⟨below, hcs, ?_⟩
  rintro ⟨segment, hmem, hsolid⟩
  exact hbelow ⟨segment, mem_splitOn_movedTail hmem, hsolid⟩

/-- An active line is moved with its mark in front. -/
theorem relocateChars_of_active {base line : List Char} (hne : base ≠ [])
    (hactive : isPassive line = false) :
    relocateChars base line =
      (if line.head? = some '!' then ['!'] else []) ++ moveUnder base (patternOf line) := by
  have hempty : base.isEmpty = false := by simpa using hne
  unfold relocateChars
  rw [hempty, hactive, Bool.false_or, if_neg Bool.false_ne_true]
  by_cases hbang : line.head? = some '!'
  · obtain ⟨pattern, rfl⟩ := List.head?_eq_some_iff.1 hbang
    rfl
  · rw [patternOf_of_head?_ne hbang, if_neg hbang]
    split
    · exact absurd rfl hbang
    · rfl

theorem patternOf_relocate {base line : String} (hne : base ≠ "")
    (hactive : isPassive line.toList = false) :
    patternOf (relocate base line).toList = moveUnder base.toList (patternOf line.toList) := by
  have hbase : base.toList ≠ [] := fun hnil => hne (String.toList_eq_nil_iff.1 hnil)
  rw [relocate, String.toList_ofList, relocateChars_of_active hbase hactive]
  split <;> rfl

theorem trimEnd_eq_nil_of_trim {line : List Char} (h : Text.trim line = []) :
    Text.trimEnd line = [] := by
  unfold Text.trim Text.trimStart at h
  induction line with
  | nil => rfl
  | cons c rest ih =>
    by_cases hc : Text.isBlank c = true
    · rw [List.dropWhile_cons_of_pos hc] at h
      have hrest := ih h
      unfold Text.trimEnd at hrest ⊢
      rw [Text.dropTrailing, hrest]
      exact if_pos hc
    · rwa [List.dropWhile_cons_of_neg hc] at h

/-- A line without anything but white space, or a comment, has no rule. -/
theorem ofLine_eq_none {line : List Char} (h : isPassive line = true) (hlocal : IsLocal line) :
    Rule.ofLine (String.ofList line) = .ok none := by
  have hmeaningless : significant line = [] ∨ (significant line).head? = some '#' := by
    unfold isPassive at h
    simp only [Bool.or_eq_true, List.isEmpty_iff, beq_iff_eq] at h
    obtain (hblank | hcomment) | hbackslash := h
    · have hend := trimEnd_eq_nil_of_trim hblank
      unfold significant
      split
      · next hsuffix =>
        -- a backslash is no white space
        obtain ⟨before, rfl⟩ := List.isSuffixOf_iff_suffix.1 hsuffix
        rw [Text.trimEnd, Text.dropTrailing_append_cons (by decide)] at hend
        exact absurd hend (List.append_ne_nil_of_right_ne_nil _ (List.cons_ne_nil _ _))
      · exact .inl hend
    · have hhead := hlocal.2 hcomment
      obtain ⟨rest, rfl⟩ := List.head?_eq_some_iff.1 hhead
      unfold significant
      split
      · exact .inr rfl
      · right
        unfold Text.trimEnd
        rw [Text.dropTrailing_cons (.inl (by decide))]
        rfl
    · exact absurd hbackslash hlocal.1
  unfold Rule.ofLine
  simp only [String.toList_ofList]
  rw [if_pos]
  obtain hnil | hhead := hmeaningless
  · exact .inl hnil
  · exact .inr (.inl hhead)

/-- A line of a plain directory fits only what lies in the directory, and not the directory alone
if it asks for a name. -/
theorem IsLocal.exists_below {line base : String} {r : Rule} (hne : base ≠ "")
    (hbase : IsPlain base.toList) (hline : IsLocal line.toList)
    (h : Rule.ofLine (relocate base line) = .ok (some r)) (hfits : (r.shape.fits? cs).isSome) :
    ∃ below, cs = base.toList ++ '/' :: below ∧ (AsksForName line.toList → below ≠ []) := by
  cases hpassive : isPassive line.toList with
  | true =>
    have hsame : relocate base line = String.ofList line.toList := by
      unfold relocate relocateChars
      rw [hpassive, Bool.or_true, if_pos rfl]
    rw [hsame, ofLine_eq_none hpassive hline] at h
    cases h
  | false =>
    obtain ⟨below, hcs, hbelow⟩ :=
      exists_below_of_moveUnder hbase (patternOf_relocate hne hpassive) h hfits
    refine ⟨below, hcs, fun hasks => hbelow (hasks.resolve_left ?_)⟩
    rw [hpassive]
    exact Bool.false_ne_true

end DesignMetrics.Ignore
