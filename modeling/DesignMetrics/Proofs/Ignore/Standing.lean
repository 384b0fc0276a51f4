import DesignMetrics.Proofs.Ignore.Stepwise

/-!
# What becomes of a line

A line is a rule, says nothing or is refused, and which of these it is depends on its segments
alone. The names of a plain directory in front of them can all be read, so a line that is written
for the root becomes what it was. Only `/` and `!` have no name that could be missing: behind a
directory they are rules for all that lies in it.
-/

namespace DesignMetrics.Ignore

open Text (splitOn)

/-- What becomes of a line that is read. -/
inductive Standing where
  /-- It says nothing. -/
  | meaningless
  /-- It is refused as no pattern. -/
  | malformed
  /-- It is refused for a range that ends before it begins. -/
  | reversed
  | ruled (ignores : Bool)
deriving DecidableEq, Repr

namespace Standing

def ofReading : Except RuleError (Option Rule) → Standing
  | .ok none => .meaningless
  | .ok (some r) => .ruled r.ignores
  | .error (.malformed _) => .malformed
  | .error .reversedRange => .reversed

/-- What becomes of a line whose segments have all their ranges in order, or have not, or cannot be
read. -/
def ofAppraisal (ignores : Bool) : Except GlobError Bool → Standing
  | .ok true => .ruled ignores
  | .ok false => .reversed
  | .error .unclosedBracket => .meaningless
  | .error .danglingEscape => .malformed

end Standing

def standing (line : String) : Standing :=
  .ofReading (Rule.ofLine line)

/-- A line that only says that its pattern has its place, or that it takes paths back. -/
def IsBare (line : List Char) : Prop :=
  significant line = ['/'] ∨ significant line = ['!']

instance : DecidablePred IsBare := fun line =>
  inferInstanceAs (Decidable (significant line = ['/'] ∨ significant line = ['!']))

/-- Whether the ranges of a step are in order. -/
def Step.isOrdered : Step → Bool
  | .item i => i.rangesOrdered
  | _ => true

/-- Whether the ranges of all segments are in order, or why the first bad segment is not read. -/
def appraise : List (List Char) → Except GlobError Bool
  | [] => .ok true
  | segment :: rest =>
    if segment = deep then appraise rest
    else do
      let own ← segmentSteps segment
      let others ← appraise rest
      return own.all Step.isOrdered && others

variable {segment body : List Char} {segments : List (List Char)} {line : String} {ignores : Bool}

/-! ## Segments without an influence -/

theorem appraise_deep (segments : List (List Char)) :
    appraise (deep :: segments) = appraise segments :=
  if_pos rfl

theorem IsPlain.appraise_cons (h : IsPlain segment) (segments : List (List Char)) :
    appraise (segment :: segments) = appraise segments := by
  have hordered : (segment.map fun c => Step.item (.literal c)).all Step.isOrdered = true := by
    rw [List.all_map, List.all_eq_true]
    intro c _
    rfl
  rw [appraise, if_neg h.ne_deep, h.segmentSteps_eq]
  show (appraise segments >>= fun others => pure (List.all _ _ && others)) = appraise segments
  rw [hordered]
  cases appraise segments <;> rfl

theorem appraise_nil_cons (segments : List (List Char)) :
    appraise ([] :: segments) = appraise segments :=
  IsPlain.appraise_cons (fun _ hc => by cases hc) segments

theorem appraise_plain_append {plain : List (List Char)}
    (hplain : ∀ segment ∈ plain, IsPlain segment) (segments : List (List Char)) :
    appraise (plain ++ segments) = appraise segments := by
  induction plain with
  | nil => rfl
  | cons segment plain ih =>
    rcases List.forall_mem_cons.1 hplain with ⟨hsegment, hmore⟩
    rw [List.cons_append, hsegment.appraise_cons, ih hmore]

/-- What comes last can be replaced by what is read alike. -/
theorem appraise_append_congr {last last' : List (List Char)} (h : appraise last = appraise last')
    (segments : List (List Char)) : appraise (segments ++ last) = appraise (segments ++ last') := by
  induction segments with
  | nil => exact h
  | cons segment segments ih => rw [List.cons_append, List.cons_append, appraise, appraise, ih]

/-- Collapsing leaves out no segment that counts. -/
theorem appraise_collapse (segments : List (List Char)) :
    appraise (collapse segments) = appraise segments := by
  induction segments with
  | nil => rfl
  | cons segment rest ih =>
    cases rest with
    | nil => rfl
    | cons next rest =>
      rw [collapse]
      split
      · next hboth => rw [ih, hboth.1, appraise_deep]
      · rw [appraise, ih]
        rfl

/-- The normal form only adds and removes deep and empty segments. -/
theorem appraise_normalize (segments : List (List Char)) :
    appraise (normalize segments) = appraise segments := by
  have hend : ∀ placed : List (List Char),
      appraise (if placed.getLast? = some [] then placed.dropLast ++ [deep] else placed) =
        appraise placed := by
    intro placed
    split
    · next hlast =>
      -- an empty segment at the end is appraised like the deep one in its place
      have hsame : appraise [deep] = appraise [[]] := by
        rw [appraise_deep, appraise_nil_cons]
      conv_rhs => rw [← List.dropLast_append_getLast? _ hlast]
      exact appraise_append_congr hsame placed.dropLast
    · rfl
  unfold normalize
  rw [appraise_collapse, hend]
  -- nothing that is put in front or taken away there has ranges
  split
  · rw [appraise_nil_cons]
  · split
    · rfl
    · rw [appraise_deep]
  · split
    · rfl
    · rw [appraise_deep]
  · rfl

/-- Only what is empty has nothing left in normal form. -/
theorem normalize_splitOn_ne_nil (h : body ≠ []) : normalize (splitOn '/' body) ≠ [] := by
  have hsplit : splitOn '/' body ≠ [[]] := fun heq => h (Text.eq_of_splitOn_eq_cons heq)
  have hend : ∀ placed : List (List Char), placed ≠ [] →
      (if placed.getLast? = some [] then placed.dropLast ++ [deep] else placed) ≠ [] := by
    intro placed hplaced
    split
    · simp
    · exact hplaced
  unfold normalize
  apply collapse_ne_nil
  apply hend
  -- only a single empty segment is taken away without another one in its place
  split
  · next heq =>
    rintro rfl
    exact hsplit heq
  · split
    · exact Text.splitOn_ne_nil body
    · exact List.cons_ne_nil _ _
  · split
    · exact Text.splitOn_ne_nil body
    · exact List.cons_ne_nil _ _
  · exact Text.splitOn_ne_nil body

/-! ## What the segments decide -/

/-- Steps are assembled unless a segment cannot be read. -/
theorem map_assemble (directory slash : Bool) (segments : List (List Char)) :
    (assemble directory slash segments).map (fun made => made.1.all Step.isOrdered) =
      appraise segments := by
  induction segments generalizing slash with
  | nil => rfl
  | cons segment rest ih =>
    have hrest := ih true
    rw [assemble, appraise]
    split
    · cases rest with
      | nil => rfl
      | cons next rest =>
        show (assemble directory true (next :: rest) >>= _).map _ = _
        rw [← hrest]
        cases assemble directory true (next :: rest) <;> rfl
    · cases segmentSteps segment with
      | error e => rfl
      | ok own =>
        rw [← hrest]
        cases assemble directory true rest with
        | error e => rfl
        | ok made =>
          -- the slash between two names is in order
          cases slash
          · exact congrArg Except.ok List.all_append
          · exact congrArg Except.ok List.all_append

/-- A shape has its ranges in order exactly if all segments have. -/
theorem map_shapeOf (directory : Bool) (segments : List (List Char)) :
    (shapeOf directory segments).map Shape.rangesOrdered = appraise segments := by
  unfold shapeOf
  -- the three shapes of their own have no ranges
  split
  · next h =>
    rw [h]
    cases directory <;> rfl
  split
  · next h =>
    rw [h]
    rfl
  split
  · next h =>
    rw [h]
    rfl
  cases segments with
  | nil => rfl
  | cons first rest =>
    show (if first = deep then _ else _ : Except GlobError Shape).map _ = _
    split
    · next h =>
      rw [h, appraise_deep, ← map_assemble directory false rest]
      cases assemble directory false rest <;> rfl
    · rw [← map_assemble directory false (first :: rest)]
      cases assemble directory false (first :: rest) <;> rfl

theorem ofReading_ruleOfBody (hne : body ≠ []) :
    Standing.ofReading (ruleOfBody line ignores body) =
      .ofAppraisal ignores (appraise (splitOn '/' body)) := by
  unfold ruleOfBody
  rw [← appraise_normalize,
    ← map_shapeOf (decide ((splitOn '/' body).getLast? = some [])) (normalize (splitOn '/' body))]
  split
  · next hnil => exact absurd hnil (normalize_splitOn_ne_nil hne)
  split
  · next hshape => rw [hshape]; rfl
  · next hshape => rw [hshape]; rfl
  · next shape hshape =>
    rw [hshape]
    show _ = Standing.ofAppraisal ignores (.ok shape.rangesOrdered)
    cases shape.rangesOrdered <;> rfl

/-! ## Lines -/

theorem standing_of_text (htext : significant line.toList = if ignores then body else '!' :: body)
    (hunmarked : ignores = true → body.head? ≠ some '!' ∧ body.head? ≠ some '#' ∧ body ≠ ['/'])
    (hne : body ≠ []) :
    standing line = .ofAppraisal ignores (appraise (splitOn '/' body)) := by
  unfold standing
  rw [ofLine_of_text htext fun hignores => ⟨hne, hunmarked hignores⟩, ofReading_ruleOfBody hne]

theorem significant_eq (line : List Char) :
    significant line =
      if line.head? = some '!' then '!' :: significant (patternOf line)
      else significant (patternOf line) := by
  split
  · next hbang =>
    rcases List.head?_eq_some_iff.1 hbang with ⟨pattern, rfl⟩
    exact significant_bang pattern
  · next hbang => rw [patternOf_of_head?_ne hbang]

/-- A line that counts begins with what is neither white space nor a `#`. -/
theorem head?_significant {line : List Char} (hactive : isPassive line = false) :
    (significant line).head? = line.head? ∧ line.head? ≠ some '#' ∧ significant line ≠ [] := by
  have hcomment : line.head? ≠ some '#' := by
    intro hhead
    rcases List.head?_eq_some_iff.1 hhead with ⟨rest, rfl⟩
    unfold isPassive at hactive
    simp [trim_cons (c := '#') (by decide)] at hactive
  -- a line of which nothing counts is white space
  have hne : significant line ≠ [] := by
    intro hnil
    have hblank : Text.trim line = [] := by
      unfold significant at hnil
      split at hnil
      · rw [hnil]
        rfl
      · rw [Text.trimEnd, Text.dropTrailing_eq_rdropWhile, List.rdropWhile_eq_nil_iff] at hnil
        rw [Text.trim, Text.trimStart, List.dropWhile_eq_nil_iff.2 hnil]
        rfl
    unfold isPassive at hactive
    simp [hblank] at hactive
  refine ⟨?_, hcomment, hne⟩
  -- only the end of a line is cut off, so what counts begins as the line does
  rcases significant_prefix line with ⟨cut, hcut⟩
  rcases List.exists_cons_of_ne_nil hne with ⟨c, rest, hcons⟩
  rw [hcons] at hcut ⊢
  rw [← hcut]
  rfl

/-- A line that is no comment and not bare is judged by its pattern. -/
theorem standing_of_active (hactive : isPassive line.toList = false) (hbare : ¬IsBare line.toList) :
    standing line = .ofAppraisal (line.toList.head? ≠ some '!')
      (appraise (splitOn '/' (significant (patternOf line.toList)))) := by
  have htext := significant_eq line.toList
  rcases head?_significant hactive with ⟨hhead, hcomment, hne⟩
  unfold IsBare at hbare
  by_cases hbang : line.toList.head? = some '!'
  · rw [if_pos hbang] at htext
    apply standing_of_text
    · simpa [hbang] using htext
    · simp [hbang]
    · intro hnil
      rw [hnil] at htext
      exact hbare (.inr htext)
  · rw [if_neg hbang] at htext
    rw [htext] at hhead hne hbare
    apply standing_of_text
    · simpa [hbang] using htext
    · intro _
      rw [hhead]
      exact ⟨hbang, hcomment, fun hslash => hbare (.inl hslash)⟩
    · exact hne

/-- The segments of a moved pattern are those of the pattern and others that can be read. -/
theorem appraise_moveUnder {base : List Char} (hbase : IsPlain base) (pattern : List Char) :
    appraise (splitOn '/' ('/' :: (base ++ '/' :: movedTail pattern))) =
      appraise (splitOn '/' (significant pattern)) := by
  have hplain : ∀ segment ∈ splitOn '/' base, IsPlain segment :=
    fun segment hsegment c hc => hbase c (Text.mem_of_mem_splitOn hsegment hc)
  have hslashes : appraise (splitOn '/' (significant (pattern.dropWhile (· == '/')))) =
      appraise (splitOn '/' (significant pattern)) := by
    induction pattern with
    | nil => rfl
    | cons c pattern ih =>
      by_cases hc : c = '/'
      · have hslash : significant ('/' :: pattern) = '/' :: significant pattern :=
          significant_append [] pattern
        rw [hc, List.dropWhile_cons_of_pos (p := (· == '/')) (beq_self_eq_true '/'), ih, hslash,
          Text.splitOn_cons, if_pos rfl, appraise_nil_cons]
      · rw [List.dropWhile_cons_of_neg (by simpa using hc)]
  rw [Text.splitOn_cons, if_pos rfl, Text.splitOn_append_cons, appraise_nil_cons,
    appraise_plain_append hplain, ← hslashes]
  unfold movedTail
  split
  · rfl
  · rw [List.append_assoc, List.singleton_append, Text.splitOn_append_cons]
    exact appraise_deep _

/-- A line that was written for the root is judged by its pattern, bare or not. -/
theorem standing_relocate_of_active {base : String} (hne : base ≠ "") (hbase : IsPlain base.toList)
    (hactive : isPassive line.toList = false) :
    standing (relocate base line) = .ofAppraisal (line.toList.head? ≠ some '!')
      (appraise (splitOn '/' (significant (patternOf line.toList)))) := by
  have hbase' : base.toList ≠ [] := fun hnil => hne (String.toList_eq_nil_iff.1 hnil)
  rw [← appraise_moveUnder hbase]
  apply standing_of_text
  · rw [relocate, String.toList_ofList, relocateChars_of_active hbase' hactive,
      significant_moveUnder]
    by_cases hbang : line.toList.head? = some '!' <;> simp [hbang]
  · intro _
    simp
  · simp

theorem IsBare.isPassive_eq_false {line : List Char} (h : IsBare line) :
    isPassive line = false := by
  rcases significant_prefix line with ⟨cut, hcut⟩
  rcases h with hslash | hbang
  · rw [← hcut, hslash]
    exact isPassive_cons_eq_false (by decide) (by decide) (by decide) cut
  · rw [← hcut, hbang]
    exact isPassive_cons_eq_false (by decide) (by decide) (by decide) cut

/-- Nothing in a bare line is hard to read. -/
theorem IsBare.appraise_eq {line : List Char} (h : IsBare line) :
    appraise (splitOn '/' (significant (patternOf line))) = .ok true := by
  have htext := significant_eq line
  rcases h with hslash | hbang
  · rw [hslash] at htext
    split at htext
    · exact absurd (List.cons.inj htext).1 (by decide)
    · rw [← htext]
      decide
  · rw [hbang] at htext
    split at htext
    · rw [← (List.cons.inj htext).2]
      decide
    · rw [← htext]
      decide

/-- Written for the root, a line is the rule that it was, says as little as it did, or is refused
for the same reason. The exceptions are a slash alone, which said nothing, and a `!` alone, which
was refused: these become rules for all that lies in the directory. -/
theorem standing_relocate {base : String} (hbase : IsPlain base.toList) (line : String) :
    standing (relocate base line) =
      if base = "" ∨ ¬IsBare line.toList then standing line
      else .ruled (line.toList.head? ≠ some '!') := by
  by_cases hne : base = ""
  · rw [if_pos (.inl hne), hne]
    congr 1
    exact String.ofList_toList
  · cases hpassive : isPassive line.toList with
    | true =>
      have hbare : ¬IsBare line.toList := fun hbare => by
        rw [hbare.isPassive_eq_false] at hpassive
        cases hpassive
      rw [if_pos (.inr hbare), relocate, relocateChars_of_passive hpassive, String.ofList_toList]
    | false =>
      rw [standing_relocate_of_active hne hbase hpassive]
      split
      · next hkept =>
        rw [standing_of_active hpassive (hkept.resolve_left hne)]
      · next hbare =>
        have hbare' : IsBare line.toList := Decidable.not_not.1 fun h => hbare (.inr h)
        rw [hbare'.appraise_eq]
        rfl

/-- A bracket that is not closed, and the two lines that become rules. -/
theorem standing_relocate_bare :
    IsPlain "b".toList ∧
      standing "!x[" = .meaningless ∧ standing (relocate "b" "!x[") = .meaningless ∧
      standing "/" = .meaningless ∧ standing (relocate "b" "/") = .ruled true ∧
      standing "!" = .malformed ∧ standing (relocate "b" "!") = .ruled false := by
  have hplain : IsPlain "b".toList := by decide +kernel
  refine ⟨hplain, by decide +kernel, ?_, by decide +kernel, ?_, by decide +kernel, ?_⟩
  · rw [standing_relocate hplain]
    decide +kernel
  · rw [standing_relocate hplain]
    decide +kernel
  · rw [standing_relocate hplain]
    decide +kernel

end DesignMetrics.Ignore
