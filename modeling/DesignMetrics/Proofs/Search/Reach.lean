import DesignMetrics.Proofs.Files.Walk
import DesignMetrics.Search

/-!
# What a search reaches

A search enters real directories only, and it enters every one that lies below the root through
directories that are neither excluded nor those of version control. No directory is met twice, and
no link is followed, so that the search ends whatever the links are.
-/

namespace DesignMetrics

open Files (Path Tree Location FileError ReadError IsEntryName)

namespace Search

/-- Whether the rules exclude what the names lead to. -/
def excludes (s : Search) (names : List String) (isDirectory : Bool) : Bool :=
  s.rules.any (·.excludes ("/".intercalate names) isDirectory)

variable {s : Search} {l : Location} {above : List String} {name : String} {k : Nat}

/-! ## Visits -/

/-- What can become of a name, and when. -/
inductive Outcome (s : Search) (above : List String) (name : String) : Visit → Prop
  | blocked {e : FileError} (h : s.tree.isDirectory (s.root.append (above ++ [name])) = .error e) :
    Outcome s above name (.blocked e)
  | skipped (h : s.tree.isDirectory (s.root.append (above ++ [name])) = .ok true)
    (hx : name = ".git" ∨ s.tree.isLink (s.root.append (above ++ [name])) = true) :
    Outcome s above name (.skipped ("/".intercalate (above ++ [name])))
  | ignored {isDirectory : Bool}
    (h : s.tree.isDirectory (s.root.append (above ++ [name])) = .ok isDirectory)
    (hx : isDirectory = true →
      name ≠ ".git" ∧ s.tree.isLink (s.root.append (above ++ [name])) = false)
    (hexcluded : s.excludes (above ++ [name]) isDirectory = true) :
    Outcome s above name (.ignored ("/".intercalate (above ++ [name])))
  | directory (h : s.tree.isDirectory (s.root.append (above ++ [name])) = .ok true)
    (hgit : name ≠ ".git") (hlink : s.tree.isLink (s.root.append (above ++ [name])) = false)
    (hkept : s.excludes (above ++ [name]) true = false) :
    Outcome s above name (.directory (above ++ [name]))
  | otherFile (h : s.tree.isDirectory (s.root.append (above ++ [name])) = .ok false)
    (hkept : s.excludes (above ++ [name]) false = false) (hwanted : s.wants name = false) :
    Outcome s above name (.otherFile ("/".intercalate (above ++ [name])))
  | source {text : List Char} (h : s.tree.isDirectory (s.root.append (above ++ [name])) = .ok false)
    (hkept : s.excludes (above ++ [name]) false = false) (hwanted : s.wants name = true)
    (hread : s.tree.readText (s.root.append (above ++ [name])) = .ok text) :
    Outcome s above name (.source ⟨"/".intercalate (above ++ [name]), String.ofList text⟩)
  | unreadable {e : ReadError}
    (h : s.tree.isDirectory (s.root.append (above ++ [name])) = .ok false)
    (hkept : s.excludes (above ++ [name]) false = false) (hwanted : s.wants name = true)
    (hread : s.tree.readText (s.root.append (above ++ [name])) = .error e) :
    Outcome s above name (.unreadable ("/".intercalate (above ++ [name])) e)

/-- A visit comes to one of the outcomes, and to no other. -/
theorem visit_eq_iff {v : Visit} : s.visit above name = v ↔ s.Outcome above name v := by
  constructor
  · rintro rfl
    -- the tests of a visit in its own order, each knowing what was answered before
    unfold visit
    simp only
    split
    · next h => exact .blocked h
    · next isDirectory h =>
      split
      · next hx =>
        simp only [Bool.and_eq_true, Bool.or_eq_true, decide_eq_true_eq] at hx
        exact .skipped (hx.1 ▸ h) hx.2
      next hx =>
      simp only [Bool.and_eq_true, Bool.or_eq_true, decide_eq_true_eq, not_and, not_or,
        Bool.not_eq_true] at hx
      split
      · next hexcluded => exact .ignored h hx hexcluded
      next hkept =>
      rw [Bool.not_eq_true] at hkept
      cases isDirectory with
      | true => exact .directory h (hx rfl).1 (hx rfl).2 hkept
      | false =>
        rw [if_neg (by decide)]
        split
        · next hwanted => exact .otherFile h hkept (by simpa using hwanted)
        next hwanted =>
        have hwanted : s.wants name = true := by simpa using hwanted
        split
        · next hread => exact .source h hkept hwanted hread
        · next hread => exact .unreadable h hkept hwanted hread
  · intro h
    -- conversely, an outcome carries the answers of all tests on its way
    cases h <;> simp_all [visit, excludes]

/-- The directory that a visit enters is the one it was asked about. -/
theorem eq_of_directory?_visit {names : List String}
    (h : (s.visit above name).directory? = some names) : above ++ [name] = names := by
  cases hv : s.visit above name with
  | directory names' =>
    rw [hv] at h
    rw [visit_eq_iff] at hv
    cases hv with
    | directory => exact Option.some.inj h
  | _ =>
    rw [hv] at h
    cases h

/-! ## Levels -/

/-- The directories that are entered, level by level. -/
def directoriesAt (s : Search) : (level : Nat) → List (List String)
  | 0 => [[]]
  | k + 1 => ((s.directoriesAt k).flatMap s.visitAll).filterMap Visit.directory?

/-- A search of limited depth visits the directories of its levels, one level after the other. -/
theorem levels_eq (depth k : Nat) :
    s.levels depth (s.directoriesAt k) =
      (List.range' k depth).flatMap fun i => (s.directoriesAt i).flatMap s.visitAll := by
  induction depth generalizing k with
  | zero => rfl
  | succ depth ih =>
    rw [List.range'_succ, List.flatMap_cons, ← ih (k + 1)]
    cases h : s.directoriesAt k with
    | nil =>
      -- the search stops here, and all deeper levels are empty
      have hnext : s.directoriesAt (k + 1) = [] := by rw [directoriesAt, h]; rfl
      rw [hnext]
      cases depth <;> rfl
    | cons directory directories =>
      rw [levels, directoriesAt, h]
      exact List.cons_ne_nil _ _

/-- The names that are visited in the directories of a level, each beside its directory. -/
def placesAt (s : Search) (l : Location) (level : Nat) : List (List String × String) :=
  (s.directoriesAt level).flatMap fun above => (s.tree.namesIn (l ++ above)).map (above, ·)

/-- All names that are visited. -/
def places (s : Search) (l : Location) : List (List String × String) :=
  (List.range (s.tree.entries.length + 1)).flatMap (s.placesAt l)

/-! ## Entering -/

/-- A search enters what is a real directory all the way down, on which nothing is excluded or
belongs to version control. -/
def Enters (s : Search) (l : Location) (above : List String) : Prop :=
  ∀ front, front ≠ [] → front <+: above →
    s.tree.node? (l ++ front) = some .directory ∧ front.getLast? ≠ some ".git" ∧
      s.excludes front true = false

/-- In an entered directory, something stands under the name. -/
structure Meets (s : Search) (l : Location) (above : List String) (name : String) : Prop where
  enters : s.Enters l above
  present : (s.tree.node? (l ++ (above ++ [name]))).isSome

/-- Of each name that is met it can be told whether it leads to a directory. -/
def Unobstructed (s : Search) (l : Location) : Prop :=
  ∀ above name, s.Meets l above name →
    ∃ isDirectory, s.tree.isDirectory (s.root.append (above ++ [name])) = .ok isDirectory

/-- What is entered is a real directory all the way down. -/
theorem Enters.descends (h : s.Enters l above) : s.tree.Descends l above :=
  fun front hne hfront => (h front hne hfront).1

theorem enters_nil : s.Enters l [] :=
  fun _ hne hfront => absurd (List.prefix_nil.1 hfront) hne

/-- A directory is entered from the one above it, unless it is excluded or belongs to version
control. -/
theorem enters_concat :
    s.Enters l (above ++ [name]) ↔
      s.Enters l above ∧ s.tree.node? (l ++ (above ++ [name])) = some .directory ∧
        name ≠ ".git" ∧ s.excludes (above ++ [name]) true = false := by
  constructor
  · intro h
    refine ⟨fun front hne hfront => h front hne (hfront.trans (List.prefix_append _ _)), ?_⟩
    simpa using h (above ++ [name]) (by simp) (List.prefix_refl _)
  · rintro ⟨h, hlast⟩ front hne hfront
    obtain rfl | hfront := List.prefix_concat_iff.1 hfront
    · simpa using hlast
    · exact h front hne hfront

/-! ## What is entered -/

section Reach

variable (hw : s.tree.WellFormed) (hroot : s.tree.walk .seeing s.root = .ok (.taken l .directory))
  (hl : Tree.home <+: l)
include hw hroot hl

/-- Each directory of a level is one that the search should enter, and it is found where it
stands. -/
theorem of_mem_directoriesAt (h : above ∈ s.directoriesAt k) :
    s.Enters l above ∧ above.length = k ∧
      s.tree.walk .seeing (s.root.append above) = .ok (.taken (l ++ above) .directory) := by
  induction k generalizing above with
  | zero =>
    obtain rfl := List.mem_singleton.1 h
    refine ⟨enters_nil, rfl, ?_⟩
    rw [Path.append, List.append_nil, List.append_nil]
    exact hroot
  | succ k ih =>
    obtain ⟨v, hv, hdirectory⟩ := List.mem_filterMap.1 h
    obtain ⟨above', habove', hv⟩ := List.mem_flatMap.1 hv
    obtain ⟨henters, hlength, hwalk⟩ := ih habove'
    rw [visitAll, Tree.list_of_taken hwalk] at hv
    obtain ⟨name, hname, hvisit⟩ := List.mem_map.1 hv
    rw [Tree.mem_namesIn, Option.isSome_iff_exists, List.append_assoc] at hname
    obtain ⟨n, hn⟩ := hname
    rw [visit_eq_iff] at hvisit
    cases hvisit with
    | directory hdir hgit hlink hkept =>
      obtain rfl : above' ++ [name] = above := Option.some.inj hdirectory
      -- it leads to a directory and is no link, so that it is one
      obtain rfl : n = .directory := Tree.eq_directory hw hroot hl henters.descends hn hdir hlink
      refine ⟨enters_concat.2 ⟨henters, hn, hgit, hkept⟩, ?_, ?_⟩
      · rw [List.length_append, hlength, List.length_singleton]
      · exact (Tree.walk_of_directory hw hroot hl henters.descends hn rfl hdir).1
    | _ => cases hdirectory

/-- In a directory that is entered every name is visited, in the order of the names. -/
theorem visitAll_eq (h : above ∈ s.directoriesAt k) :
    s.visitAll above = (s.tree.namesIn (l ++ above)).map (s.visit above) := by
  obtain ⟨-, -, hwalk⟩ := of_mem_directoriesAt hw hroot hl h
  rw [visitAll, Tree.list_of_taken hwalk]

/-- No level is deeper than there are entries. -/
theorem directoriesAt_eq_nil (h : s.tree.entries.length < k) : s.directoriesAt k = [] := by
  rw [List.eq_nil_iff_forall_not_mem]
  intro above habove
  obtain ⟨henters, hlength, -⟩ := of_mem_directoriesAt hw hroot hl habove
  have := henters.descends.length_le
  omega

/-- The search comes to its end by itself: it visits nothing more if it may go deeper. -/
theorem levels_eq_visits {depth : Nat} (h : s.tree.entries.length < depth) :
    s.levels depth [[]] = s.visits := by
  obtain ⟨more, rfl⟩ := Nat.exists_eq_add_of_le h
  show s.levels _ (s.directoriesAt 0) = s.levels _ (s.directoriesAt 0)
  rw [levels_eq, levels_eq, ← List.range'_append_1, List.flatMap_append]
  refine (congrArg _ ?_).trans (List.append_nil _)
  rw [List.flatMap_eq_nil_iff]
  intro i hi
  rw [List.mem_range'_1] at hi
  rw [directoriesAt_eq_nil hw hroot hl (by omega), List.flatMap_nil]

/-! ## What is visited -/

/-- The visits on a level are those of its places. -/
theorem flatMap_visitAll :
    (s.directoriesAt k).flatMap s.visitAll =
      (s.placesAt l k).map fun place => s.visit place.1 place.2 := by
  rw [placesAt, List.map_flatMap]
  refine List.flatMap_congr fun above habove => ?_
  rw [visitAll_eq hw hroot hl habove, List.map_map]
  rfl

/-- All visits are those of the places of the search. -/
theorem visits_eq_map : s.visits = (s.places l).map fun place => s.visit place.1 place.2 := by
  show s.levels _ (s.directoriesAt 0) = _
  rw [levels_eq, places, List.range_eq_range', List.map_flatMap]
  exact List.flatMap_congr fun k _ => flatMap_visitAll hw hroot hl

/-- The places of a level are what is met in its directories. -/
theorem mem_placesAt :
    (above, name) ∈ s.placesAt l k ↔ above ∈ s.directoriesAt k ∧ s.Meets l above name := by
  rw [placesAt, List.mem_flatMap]
  constructor
  · rintro ⟨above', habove, hname⟩
    obtain ⟨name', hname', heq⟩ := List.mem_map.1 hname
    obtain ⟨rfl, rfl⟩ := Prod.mk.inj heq
    rw [Tree.mem_namesIn, List.append_assoc] at hname'
    exact ⟨habove, (of_mem_directoriesAt hw hroot hl habove).1, hname'⟩
  · rintro ⟨habove, -, hname⟩
    refine ⟨above, habove, List.mem_map_of_mem ?_⟩
    rwa [Tree.mem_namesIn, List.append_assoc]

/-- The places of a search are what is met in directories of their level. -/
theorem mem_places :
    (above, name) ∈ s.places l ↔
      above ∈ s.directoriesAt above.length ∧ s.Meets l above name := by
  rw [places, List.mem_flatMap]
  constructor
  · rintro ⟨k, -, h⟩
    rw [mem_placesAt hw hroot hl] at h
    obtain rfl := (of_mem_directoriesAt hw hroot hl h.1).2.1
    exact h
  · intro h
    have hlength := h.2.enters.descends.length_le
    exact ⟨above.length, List.mem_range.2 (Nat.lt_succ_of_le hlength),
      (mem_placesAt hw hroot hl).2 h⟩

omit hroot hl in
/-- A name is visited in one directory only, so that a level has no directory twice. -/
theorem nodup_placesAt_of_nodup (h : (s.directoriesAt k).Nodup) : (s.placesAt l k).Nodup := by
  rw [placesAt, List.nodup_flatMap]
  refine ⟨fun above _ => (Tree.nodup_namesIn hw.nodup _).map (Prod.mk_right_injective above), ?_⟩
  refine h.imp fun hne place hplace hplace' => hne ?_
  obtain ⟨_, -, rfl⟩ := List.mem_map.1 hplace
  obtain ⟨_, -, heq⟩ := List.mem_map.1 hplace'
  exact (congrArg Prod.fst heq).symm

/-- No directory is entered twice. -/
theorem nodup_directoriesAt : (s.directoriesAt k).Nodup := by
  induction k with
  | zero => exact List.nodup_singleton []
  | succ k ih =>
    rw [directoriesAt, flatMap_visitAll hw hroot hl, List.filterMap_map]
    refine (nodup_placesAt_of_nodup hw ih).filterMap ?_
    rintro ⟨above, name⟩ ⟨above', name'⟩ names h h'
    have heq := (eq_of_directory?_visit h).trans (eq_of_directory?_visit h').symm
    exact Prod.ext (List.append_inj_left' heq rfl)
      (List.singleton_inj.1 (List.append_inj_right' heq rfl))

/-- No place is visited twice. -/
theorem nodup_places : (s.places l).Nodup := by
  rw [places, List.nodup_flatMap]
  refine ⟨fun k _ => nodup_placesAt_of_nodup hw (nodup_directoriesAt hw hroot hl), ?_⟩
  -- directories of two levels differ in depth
  refine List.nodup_range.imp fun hne => ?_
  rintro ⟨above, name⟩ h h'
  rw [mem_placesAt hw hroot hl] at h h'
  exact hne ((of_mem_directoriesAt hw hroot hl h.1).2.1.symm.trans
    (of_mem_directoriesAt hw hroot hl h'.1).2.1)

/-! ## Obstacles -/

/-- What is visited at a place has one of its outcomes. -/
theorem mem_visits {v : Visit} :
    v ∈ s.visits ↔ ∃ above name, (above, name) ∈ s.places l ∧ s.Outcome above name v := by
  rw [visits_eq_map hw hroot hl, List.mem_map, Prod.exists]
  simp only [visit_eq_iff]

/-- A directory that should be entered is entered, unless the search is blocked. -/
theorem mem_directoriesAt_or_blocked (h : s.Enters l above) :
    above ∈ s.directoriesAt above.length ∨ ∃ e, .blocked e ∈ s.visits := by
  induction above using List.reverseRecOn with
  | nil => exact .inl (List.mem_singleton_self [])
  | append_singleton above name ih =>
    obtain ⟨habove, hn, hgit, hkept⟩ := enters_concat.1 h
    -- what stands in a directory that is entered is visited
    obtain hmem | hblocked := ih habove
    · have hplace : (above, name) ∈ s.places l :=
        (mem_places hw hroot hl).2 ⟨hmem, habove, by rw [hn]; rfl⟩
      cases hdir : s.tree.isDirectory (s.root.append (above ++ [name])) with
      | error e => exact .inr ⟨e, (mem_visits hw hroot hl).2 ⟨above, name, hplace, .blocked hdir⟩⟩
      | ok isDirectory =>
        obtain ⟨hwalk, hlink⟩ := Tree.walk_of_directory hw hroot hl habove.descends hn rfl hdir
        have hvisit := visit_eq_iff.2
          (.directory (Tree.isDirectory_of_taken hwalk) hgit hlink hkept)
        refine .inl ?_
        rw [List.length_append, List.length_singleton, directoriesAt, flatMap_visitAll hw hroot hl,
          List.filterMap_map]
        exact List.mem_filterMap.2 ⟨(above, name),
          (mem_placesAt hw hroot hl).2 ⟨hmem, habove, by rw [hn]; rfl⟩,
          congrArg Visit.directory? hvisit⟩
    · exact .inr hblocked

/-- Nothing is in the way of a search exactly if no visit is blocked. -/
theorem unobstructed_iff : s.Unobstructed l ↔ ∀ e, .blocked e ∉ s.visits := by
  constructor
  · intro h e hmem
    obtain ⟨above, name, hplace, houtcome⟩ := (mem_visits hw hroot hl).1 hmem
    obtain ⟨-, hmeets⟩ := (mem_places hw hroot hl).1 hplace
    obtain ⟨isDirectory, hdir⟩ := h above name hmeets
    cases houtcome with
    | blocked herror =>
      rw [hdir] at herror
      cases herror
  · intro h above name hmeets
    obtain hmem | ⟨e, he⟩ := mem_directoriesAt_or_blocked hw hroot hl hmeets.enters
    · have hplace := (mem_places hw hroot hl).2 ⟨hmem, hmeets⟩
      cases hdir : s.tree.isDirectory (s.root.append (above ++ [name])) with
      | error e =>
        exact absurd ((mem_visits hw hroot hl).2 ⟨above, name, hplace, .blocked hdir⟩) (h e)
      | ok isDirectory => exact ⟨isDirectory, rfl⟩
    · exact absurd he (h e)

/-- A search that is not blocked visits every name that is to be met. -/
theorem Unobstructed.mem_places (h : s.Unobstructed l) :
    (above, name) ∈ s.places l ↔ s.Meets l above name := by
  rw [Search.mem_places hw hroot hl, and_iff_right_iff_imp]
  intro hmeets
  obtain hmem | ⟨e, he⟩ := mem_directoriesAt_or_blocked hw hroot hl hmeets.enters
  · exact hmem
  · exact absurd he ((unobstructed_iff hw hroot hl).1 h e)

end Reach

/-! ## What can block a search -/

/-- A search that begins in directories meets no other obstacle than a name that is too long. -/
theorem nameTooLong_of_mem_levels {depth : Nat} {directories : List (List String)} {e : FileError}
    (h : ∀ directory ∈ directories, s.tree.isDirectory (s.root.append directory) = .ok true)
    (he : .blocked e ∈ s.levels depth directories) : ∃ path, e = .blocked .nameTooLong path := by
  induction depth generalizing directories with
  | zero => cases he
  | succ depth ih =>
    cases directories with
    | nil => cases he
    | cons first others =>
      -- whatever is visited has been visited under a name in a directory that can be listed
      have houtcome : ∀ v ∈ (first :: others).flatMap s.visitAll,
          ∃ above name, s.Outcome above name v := by
        intro v hv
        obtain ⟨above, habove, hv⟩ := List.mem_flatMap.1 hv
        obtain ⟨m, hwalk⟩ := Tree.exists_taken_of_isDirectory (h above habove)
        rw [visitAll, Tree.list_of_taken hwalk] at hv
        obtain ⟨name, -, hname⟩ := List.mem_map.1 hv
        exact ⟨above, name, visit_eq_iff.1 hname⟩
      obtain he | he := List.mem_append.1 he
      · obtain ⟨above, name, hvisit⟩ := houtcome _ he
        cases hvisit with
        | blocked herror => exact ⟨_, Tree.isDirectory_eq_error herror⟩
      · refine ih (fun directory hdirectory => ?_) he
        obtain ⟨v, hv, hentered⟩ := List.mem_filterMap.1 hdirectory
        obtain ⟨above, name, hvisit⟩ := houtcome v hv
        cases hvisit with
        | directory hleads =>
          obtain rfl : above ++ [name] = directory := Option.some.inj hentered
          exact hleads
        | _ => cases hentered

end Search
end DesignMetrics
