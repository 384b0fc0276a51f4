import DesignMetrics.Proofs.Ignore.Below
import DesignMetrics.Proofs.Ignore.Nested

/-!
# Rules written for the root

A line of a directory and the line that is written for the root in its place fit the same paths of
the directory: both are cut into the same segments, once these have been brought into normal form.
-/

namespace DesignMetrics.Ignore

open RuleSet (relative)
open Text (splitOn)

variable {cs : List Char} {segments : List (List Char)}

/-! ## The text of a moved pattern -/

/-- A pattern that asks for a name, and has no two slashes side by side. -/
structure IsTidy (pattern : List Char) : Prop where
  single : ¬['/', '/'] <:+: pattern
  named : ∃ segment ∈ splitOn '/' pattern, segment ≠ [] ∧ segment ≠ deep

/-- White space at the end of a pattern counts if it is escaped, and is a part of the last name
then. -/
theorem significant_cases (pattern : List Char) :
    significant pattern = Text.trimEnd pattern ∨
      ∃ before, Text.trimEnd pattern = before ++ ['\\'] ∧
        significant pattern = before ++ ['\\'] ++ [' '] := by
  unfold significant
  split
  · next hsuffix =>
    obtain ⟨before, rfl⟩ := List.isSuffixOf_iff_suffix.1 hsuffix
    refine .inr ⟨before, ?_, by simp⟩
    exact Text.dropTrailing_append_cons (by decide) before [' ']
  · exact .inl rfl

theorem IsTidy.significant {pattern : List Char} (h : IsTidy (Text.trimEnd pattern)) :
    IsTidy (significant pattern) := by
  obtain heq | ⟨before, htrim, hescaped⟩ := significant_cases pattern
  · rw [heq]
    exact h
  · rw [htrim] at h
    rw [hescaped]
    refine ⟨fun hinfix => ?_, ?_⟩
    · obtain ⟨front, hfront⟩ | hinfix := List.infix_concat_iff.1 hinfix
      · simpa using congrArg List.getLast? hfront
      · exact h.single hinfix
    · -- the backslash is part of a name, whatever else there is
      have hmem : '\\' ∈ before ++ ['\\'] ++ [' '] := by simp
      have hne : '\\' ≠ '/' := by decide
      obtain ⟨segment, hmem, hbackslash⟩ := Text.exists_mem_splitOn hmem hne
      refine ⟨segment, hmem, List.ne_nil_of_mem hbackslash, ?_⟩
      rintro rfl
      exact absurd hbackslash (by decide)

/-- Whether a pattern is tied to its place is told by its significant part. -/
theorem isAnchored_eq (pattern : List Char) :
    isAnchored pattern = (Text.dropTrailing (· == '/') (significant pattern)).contains '/' := by
  unfold isAnchored
  obtain heq | ⟨before, htrim, hescaped⟩ := significant_cases pattern
  · rw [heq]
  · rw [htrim, hescaped, Text.dropTrailing_append_cons (by decide) before [],
      Text.dropTrailing_append_cons (by decide) (before ++ ['\\']) []]
    simp [Text.dropTrailing]

theorem not_mem_dropTrailing {p : Char → Bool} {c : Char} (h : c ∉ cs) :
    c ∉ Text.dropTrailing p cs := by
  rw [Text.dropTrailing_eq_rdropWhile]
  exact fun hc => h ((List.rdropWhile_prefix p cs).subset hc)

/-- A tidy pattern has a second name, or is a name with at most a slash after it. -/
theorem IsTidy.splitOn_cases (h : IsTidy cs) :
    (Text.dropTrailing (· == '/') cs).contains '/' = true ∧
        (∃ name second rest, splitOn '/' cs = name :: second :: rest ∧ second ≠ []) ∨
      (Text.dropTrailing (· == '/') cs).contains '/' = false ∧
        ∃ name, (splitOn '/' cs = [name] ∨ splitOn '/' cs = [name, []]) ∧
          name ≠ [] ∧ name ≠ deep := by
  obtain ⟨segment, hsegment, hnil, hdeep⟩ := h.named
  cases hsplit : splitOn '/' cs with
  | nil => exact absurd hsplit (Text.splitOn_ne_nil cs)
  | cons name others =>
    have hcs := Text.eq_of_splitOn_eq_cons hsplit
    have hpieces : ∀ piece ∈ name :: others, '/' ∉ piece := fun piece hpiece =>
      Text.not_mem_of_mem_splitOn (hsplit ▸ hpiece)
    have hname := hpieces name List.mem_cons_self
    rw [hsplit] at hsegment
    cases others with
    | nil =>
      -- a name alone
      refine .inr ⟨?_, name, .inl rfl, ?_⟩
      · rw [List.flatMap_nil, List.append_nil] at hcs
        rw [hcs]
        simpa using not_mem_dropTrailing hname
      · rw [← List.mem_singleton.1 hsegment]
        exact ⟨hnil, hdeep⟩
    | cons second rest =>
      cases second with
      | nil =>
        cases rest with
        | nil =>
          -- the slash at the end is cut off, and there is no other one
          refine .inr ⟨?_, name, .inr rfl, ?_⟩
          · have hslash : cs = name ++ ['/'] := by simpa using hcs
            rw [hslash, Text.dropTrailing_eq_rdropWhile, List.rdropWhile_concat_pos _ _ _ (by simp),
              ← Text.dropTrailing_eq_rdropWhile]
            simpa using not_mem_dropTrailing hname
          · have hmem : segment = name := by simpa [hnil] using hsegment
            rw [← hmem]
            exact ⟨hnil, hdeep⟩
        | cons third rest =>
          -- nothing between two slashes
          refine absurd ?_ h.single
          rw [hcs]
          exact ⟨name, third ++ rest.flatMap ('/' :: ·), by simp⟩
      | cons c more =>
        -- the second name keeps the slash in front of it
        refine .inl ⟨?_, name, c :: more, rest, rfl, List.cons_ne_nil _ _⟩
        have hc : (c == '/') = false := by
          have hmore := hpieces (c :: more) (by simp)
          rw [beq_eq_false_iff_ne]
          rintro rfl
          exact hmore List.mem_cons_self
        have hslash : cs = (name ++ ['/']) ++ c :: (more ++ rest.flatMap ('/' :: ·)) := by
          simpa using hcs
        rw [hslash, Text.dropTrailing_append_cons (p := (· == '/')) hc]
        simp

theorem normalize_of_second {name second : List Char} {rest : List (List Char)} (hname : name ≠ [])
    (hsecond : second ≠ []) :
    normalize ([] :: name :: second :: rest) = normalize (name :: second :: rest) := by
  obtain ⟨c, name, rfl⟩ := List.exists_cons_of_ne_nil hname
  obtain ⟨d, second, rfl⟩ := List.exists_cons_of_ne_nil hsecond
  rfl

theorem normalize_of_alone {name : List Char} (hname : name ≠ []) (hdeep : name ≠ deep)
    (h : segments = [name] ∨ segments = [name, []]) :
    normalize ([] :: deep :: segments) = normalize segments := by
  obtain rfl | rfl := h
  · rw [normalize, normalize]
    · simp only [if_neg hdeep]
    · exact hname
  · rw [normalize, normalize]
    · simp only [if_neg hdeep]
    · exact hname

theorem dropWhile_of_head?_ne (h : cs.head? ≠ some '/') : cs.dropWhile (· == '/') = cs := by
  cases cs with
  | nil => rfl
  | cons c rest =>
    have hc : c ≠ '/' := fun hc => h (congrArg some hc)
    exact List.dropWhile_cons_of_neg (by simpa using hc)

/-- A slash in front of a tidy pattern is the only one there. -/
theorem dropWhile_of_tidy {rest : List Char} (h : IsTidy (significant ('/' :: rest))) :
    ('/' :: rest).dropWhile (· == '/') = rest := by
  rw [List.dropWhile_cons_of_pos (p := (· == '/')) (beq_self_eq_true '/')]
  refine dropWhile_of_head?_ne fun hslash => ?_
  obtain ⟨more, rfl⟩ := List.head?_eq_some_iff.1 hslash
  have htwo : significant ('/' :: '/' :: more) = ['/', '/'] ++ significant more :=
    significant_append ['/'] more
  exact h.single (htwo ▸ (List.prefix_append _ _).isInfix)

/-- The segments of a moved pattern, with a slash in front, have the normal form of those that the
pattern has by itself. -/
theorem splitOn_movedTail {pattern : List Char} (h : IsTidy (significant pattern)) :
    normalize ([] :: splitOn '/' (movedTail pattern)) =
        normalize (splitOn '/' (significant pattern)) ∧
      (splitOn '/' (movedTail pattern)).getLast? =
        (splitOn '/' (significant pattern)).getLast? := by
  have hanchored := isAnchored_eq pattern
  by_cases hslash : pattern.head? = some '/'
  · obtain ⟨rest, rfl⟩ := List.head?_eq_some_iff.1 hslash
    have hbody : significant ('/' :: rest) = '/' :: significant rest := significant_append [] rest
    have hsplit : splitOn '/' (significant ('/' :: rest)) =
        [] :: splitOn '/' (significant rest) := by
      rw [hbody, Text.splitOn_cons, if_pos rfl]
    -- the slash in front is dropped by one and moves behind the directory with the other
    obtain ⟨hcontains, -⟩ | ⟨-, name, hname, hnil, -⟩ := h.splitOn_cases
    · rw [movedTail, if_pos (hanchored.trans hcontains), dropWhile_of_tidy h, List.nil_append,
        hsplit, List.getLast?_cons_of_ne_nil (Text.splitOn_ne_nil _)]
      exact ⟨rfl, rfl⟩
    · rw [hsplit] at hname
      obtain hname | hname := hname <;> exact absurd (List.cons.inj hname).1.symm hnil
  · have hdrop := dropWhile_of_head?_ne hslash
    obtain ⟨hcontains, name, second, rest, hsplit, hsecond⟩ |
      ⟨hcontains, name, hsplit, hnil, hdeep⟩ := h.splitOn_cases
    · -- a second name ties the pattern to its place, with or without a slash in front
      have hname : name ≠ [] := by
        rintro rfl
        have hbody := Text.eq_of_splitOn_eq_cons hsplit
        obtain ⟨cut, hcut⟩ := significant_prefix pattern
        exact hslash (by rw [← hcut, hbody]; rfl)
      rw [movedTail, if_pos (hanchored.trans hcontains), hdrop, List.nil_append, hsplit,
        normalize_of_second hname hsecond]
      exact ⟨rfl, rfl⟩
    · -- a name alone gets any directories in front, from the text here and the normal form there
      have htail : splitOn '/' (movedTail pattern) = deep :: splitOn '/' (significant pattern) := by
        rw [movedTail, if_neg (by rw [hanchored, hcontains]; simp), hdrop, List.append_assoc,
          List.singleton_append, Text.splitOn_append_cons]
        rfl
      rw [htail, normalize_of_alone hnil hdeep hsplit,
        List.getLast?_cons_of_ne_nil (Text.splitOn_ne_nil _)]
      exact ⟨rfl, rfl⟩

/-! ## Moved lines -/

/-- A directory below the root whose names stand for themselves, in patterns and in paths. -/
structure IsPlainDirectory (names : List String) : Prop where
  ne_nil : names ≠ []
  ne_empty : ∀ name ∈ names, name ≠ ""
  ne_dot : ∀ name ∈ names, name ≠ "."
  no_slash : ∀ name ∈ names, '/' ∉ name.toList
  plain : ∀ name ∈ names, IsPlain name.toList

/-- A path as it is written in a directory. -/
structure IsInner (path : List Char) : Prop extends IsNamedPath path where
  no_dot : ¬['.', '/'] <+: path

/-- Whether a rule speaks of a path, by itself or as a part of a directory. -/
def Rule.Fits (r : Rule) (path : List Char) : Prop :=
  (r.shape.fits? (relative path)).isSome

/-- A rule for the root says of a directory what another one says in it, and nothing else. -/
structure Rule.IsMovedTo (names : List String) (r r' : Rule) : Prop where
  ignores_eq : r'.ignores = r.ignores
  liesIn : ∀ path, r'.Fits path → LiesIn names (relative path)
  fits_iff : ∀ path, IsInner path →
    (r'.Fits (("/".intercalate names).toList ++ '/' :: path) ↔ r.Fits path)

theorem relative_of_not (hslash : cs.head? ≠ some '/') (hdot : ¬['.', '/'] <+: cs) :
    relative cs = cs := by
  unfold relative
  split
  · exact absurd rfl hslash
  · exact absurd (List.prefix_append ['.', '/'] _) hdot
  · rfl

theorem relative_append_slash {name : List Char} (hne : name ≠ []) (hdot : name ≠ ['.'])
    (hslash : '/' ∉ name) (rest : List Char) :
    relative (name ++ '/' :: rest) = name ++ '/' :: rest := by
  obtain ⟨c, more, rfl⟩ := List.exists_cons_of_ne_nil hne
  refine relative_of_not ?_ ?_
  · rintro hhead
    obtain rfl : c = '/' := Option.some.inj hhead
    exact hslash List.mem_cons_self
  · rw [List.cons_append, List.cons_prefix_cons]
    rintro ⟨rfl, hsecond⟩
    cases more with
    | nil => exact hdot rfl
    | cons d more =>
      rw [List.cons_append, List.cons_prefix_cons] at hsecond
      exact hslash (by simp [← hsecond.1])

namespace IsPlainDirectory

variable {names : List String}

theorem splitOn_eq (h : IsPlainDirectory names) :
    splitOn '/' ("/".intercalate names).toList = names.map String.toList :=
  Text.splitOn_intercalate_slash h.ne_nil h.no_slash

theorem isNested (h : IsPlainDirectory names) : IsNested names := by
  refine ⟨fun hempty => ?_, fun c hc => ?_⟩
  · -- no text at all would be one name without letters
    have hsplit : names.map String.toList = [[]] := by
      rw [← h.splitOn_eq, hempty]
      rfl
    obtain ⟨name, rfl, hname⟩ := List.map_eq_singleton_iff.1 hsplit
    exact h.ne_empty name List.mem_cons_self (String.toList_eq_nil_iff.1 hname)
  · by_cases hslash : c = '/'
    · rw [hslash]
      decide
    · obtain ⟨piece, hpiece, hmem⟩ := Text.exists_mem_splitOn hc hslash
      rw [h.splitOn_eq] at hpiece
      obtain ⟨name, hname, rfl⟩ := List.mem_map.1 hpiece
      exact h.plain name hname c hmem

/-- A path below the directory is written as it is looked up. -/
theorem relative_append (h : IsPlainDirectory names) (path : List Char) :
    relative (("/".intercalate names).toList ++ '/' :: path) =
      ("/".intercalate names).toList ++ '/' :: path := by
  cases names with
  | nil => exact absurd rfl h.ne_nil
  | cons name others =>
    have hfirst := List.mem_cons_self (a := name) (l := others)
    rw [Text.eq_of_splitOn_eq_cons h.splitOn_eq, List.append_assoc]
    obtain ⟨rest, hrest⟩ : ∃ rest, (others.map String.toList).flatMap ('/' :: ·) ++ '/' :: path =
        '/' :: rest := by
      cases others with
      | nil => exact ⟨path, rfl⟩
      | cons second others => exact ⟨_, rfl⟩
    rw [hrest]
    refine relative_append_slash ?_ ?_ (h.no_slash name hfirst) rest
    · simpa using h.ne_empty name hfirst
    · intro hdot
      exact h.ne_dot name hfirst (String.toList_inj.1 hdot)

end IsPlainDirectory

theorem isLocal_of_active {line : List Char} (h : isPassive line = false) : IsLocal line := by
  unfold isPassive at h
  simp only [Bool.or_eq_false_iff, beq_eq_false_iff_ne] at h
  exact ⟨h.2, fun hcomment => absurd hcomment h.1.2⟩

/-- The line that is written for the root has a rule, which fits below the directory what the rule
of the line fits. -/
theorem exists_isMadeOf_relocate {names : List String} {line : String} {r : Rule}
    (hnames : IsPlainDirectory names) (hactive : isPassive line.toList = false)
    (htidy : IsTidy (significant (patternOf line.toList)))
    (hr : r.IsMadeOf line (significant (patternOf line.toList)))
    (hignores : r.ignores = true ↔ line.toList.head? ≠ some '!') :
    ∃ shape body, Rule.IsMadeOf ⟨r.ignores, shape⟩ (relocate ("/".intercalate names) line) body ∧
      ∀ q, IsNamedPath q →
        ((shape.fits? (("/".intercalate names).toList ++ '/' :: q)).isSome ↔
          (r.shape.fits? q).isSome) := by
  obtain ⟨hnormal, hlast⟩ := splitOn_movedTail htidy
  -- a tidy line names something, so it does not fit every path
  have hdeep : normalize (splitOn '/' (significant (patternOf line.toList))) ≠ [deep] := by
    obtain ⟨segment, hsegment, hnil, hdeep⟩ := htidy.named
    have hmem := mem_normalize hsegment hnil hdeep
    intro heq
    rw [heq] at hmem
    exact hdeep (List.mem_singleton.1 hmem)
  obtain ⟨steps, ending, hbehind⟩ := exists_fitsBehindSlash hr.ne_nil hdeep hr.shape_eq hr.ordered
  -- the segments of the directory are plain
  have hsplit := hnames.splitOn_eq
  have hplain : ∀ segment ∈ names.map String.toList, IsPlain segment := by
    simpa using hnames.plain
  cases hsegments : names.map String.toList with
  | nil => exact absurd (List.map_eq_nil_iff.1 hsegments) hnames.ne_nil
  | cons first others =>
    rw [hsegments] at hsplit hplain
    obtain ⟨shape, hshape, hordered, hfits⟩ := hbehind.exists_shape hplain
    let base := ("/".intercalate names).toList
    let tail := movedTail (patternOf line.toList)
    have hbase : base ≠ [] := fun hnil =>
      hnames.isNested.ne_root (String.toList_eq_nil_iff.1 hnil)
    have htail : splitOn '/' tail ≠ [] := Text.splitOn_ne_nil tail
    have hbody : splitOn '/' ('/' :: (base ++ '/' :: tail)) =
        [] :: (first :: others ++ splitOn '/' tail) := by
      rw [Text.splitOn_cons, if_pos rfl, Text.splitOn_append_cons, hsplit]
    -- what is written for the root has them in front of the segments of the line
    have hwhole : normalize (splitOn '/' ('/' :: (base ++ '/' :: tail))) = first :: others ++
        normalize (splitOn '/' (significant (patternOf line.toList))) := by
      rw [hbody, normalize_nil_append hplain htail, hnormal]
    refine ⟨shape, '/' :: (base ++ '/' :: tail), ⟨?_, ?_, ?_, ?_, hordered⟩, fun q hq => ?_⟩
    · -- the mark stays in front of the directory
      rw [relocate, String.toList_ofList, relocateChars_of_active hbase hactive,
        significant_moveUnder]
      by_cases hbang : line.toList.head? = some '!'
      · rw [if_pos hbang, if_neg fun htrue => hignores.1 htrue hbang]
        rfl
      · rw [if_neg hbang, if_pos (hignores.2 hbang)]
        rfl
    · exact fun _ => ⟨by simp, by simp, by simp⟩
    · rw [hwhole]
      exact List.cons_ne_nil _ _
    · -- a slash at the end stays there
      have hend : (splitOn '/' ('/' :: (base ++ '/' :: tail))).getLast? =
          (splitOn '/' (significant (patternOf line.toList))).getLast? := by
        rw [hbody, List.getLast?_cons_of_ne_nil (by simp), List.getLast?_append_of_ne_nil _ htail,
          hlast]
      rw [hend, hwhole]
      exact hshape
    · rw [Text.eq_of_splitOn_eq_cons hsplit]
      exact hfits q hq

/-- The line that is written for the root has a rule that says of the directory what the line itself
says in it. -/
theorem exists_isMovedTo_of_relocate {names : List String} {line : String} {r : Rule}
    (hnames : IsPlainDirectory names) (hactive : isPassive line.toList = false)
    (htidy : IsTidy (Text.trimEnd (patternOf line.toList)))
    (h : Rule.ofLine line = .ok (some r)) :
    ∃ r', Rule.ofLine (relocate ("/".intercalate names) line) = .ok (some r') ∧
      r.IsMovedTo names r' := by
  obtain ⟨body, hbody⟩ := exists_isMadeOf h
  obtain ⟨rfl, hignores⟩ := hbody.body_eq
  obtain ⟨shape, body', hmade, hfits⟩ :=
    exists_isMadeOf_relocate hnames hactive htidy.significant hbody hignores
  refine ⟨_, hmade.ofLine_eq, rfl, fun path hpath => ?_, fun path hpath => ?_⟩
  · obtain ⟨below, hbelow, -⟩ := (isLocal_of_active hactive).exists_below hnames.isNested.ne_root
      hnames.isNested.plain hmade.ofLine_eq hpath
    exact ⟨below, by rw [hbelow, List.append_assoc]; rfl⟩
  · unfold Rule.Fits
    rw [hnames.relative_append, relative_of_not hpath.no_slash hpath.no_dot]
    exact hfits path hpath.toIsNamedPath

/-- Any directory, at whatever depth: in the root it takes a slash, below `a/b` the names. -/
theorem exists_isMovedTo_of_relocate_anyDirectory :
    relocate "a/b" "!*/" = "!/a/b/**/*/" ∧
      ∃ r', Rule.ofLine (relocate "a/b" "!*/") = .ok (some r') ∧
        Rule.IsMovedTo ["a", "b"] ⟨false, .someSlash .directory⟩ r' := by
  have hnames : IsPlainDirectory ["a", "b"] := by
    constructor <;> decide +kernel
  have htidy : IsTidy (Text.trimEnd (patternOf "!*/".toList)) := by
    constructor <;> decide +kernel
  have hactive : isPassive "!*/".toList = false := by decide +kernel
  have hrule : Rule.ofLine "!*/" = .ok (some ⟨false, .someSlash .directory⟩) := by decide +kernel
  have hbase : "/".intercalate ["a", "b"] = "a/b" := by decide +kernel
  refine ⟨by decide +kernel, ?_⟩
  rw [← hbase]
  exact exists_isMovedTo_of_relocate hnames hactive htidy hrule

end DesignMetrics.Ignore
