import DesignMetrics.Proofs.Ignore.Nested
import Mathlib.Data.String.Basic

/-!
# Which ignore file has the last word

Ignore files are read in the order of their paths, and of the lines that fit a path equally well the
last one decides. The path of an ignore file ends with the name of ignore files, and there it is
compared with the names of directories: the file of a directory is read before that of a directory
below it if the first name on the way down does not come before the name of ignore files, and after
it otherwise.
-/

namespace DesignMetrics.Ignore

open Files (Path Tree Location)

/-! ## The order of paths -/

/-- The first names decide, and where they are the same the names after them. -/
theorem namesLe_cons {a b : String} {as bs : List String} :
    namesLe (a :: as) (b :: bs) = true ↔ a < b ∨ a = b ∧ namesLe as bs = true := by
  rw [namesLe, Bool.or_eq_true, Bool.and_eq_true, decide_eq_true_eq, decide_eq_true_eq]

/-- Of two paths one comes first. -/
theorem namesLe_total (as bs : List String) : namesLe as bs = true ∨ namesLe bs as = true := by
  induction as generalizing bs with
  | nil => exact .inl rfl
  | cons a as ih =>
    cases bs with
    | nil => exact .inr rfl
    | cons b bs =>
      rw [namesLe_cons, namesLe_cons]
      rcases lt_trichotomy a b with hlt | rfl | hlt
      · exact .inl (.inl hlt)
      · exact (ih bs).imp (fun h => .inr ⟨rfl, h⟩) fun h => .inr ⟨rfl, h⟩
      · exact .inr (.inl hlt)

theorem namesLe_trans (as bs cs : List String) (hab : namesLe as bs = true)
    (hbc : namesLe bs cs = true) : namesLe as cs = true := by
  induction as generalizing bs cs with
  | nil => rfl
  | cons a as ih =>
    cases bs with
    | nil => cases hab
    | cons b bs =>
      cases cs with
      | nil => cases hbc
      | cons c cs =>
        rw [namesLe_cons] at hab hbc ⊢
        rcases hab with hab | ⟨rfl, hab⟩
        · rcases hbc with hbc | ⟨rfl, -⟩
          · exact .inl (hab.trans hbc)
          · exact .inl hab
        · exact hbc.imp_right fun ⟨heq, hbc⟩ => ⟨heq, ih bs cs hab hbc⟩

/-- Different paths have different places in the order. -/
theorem namesLe_antisymm {as bs : List String} (hab : namesLe as bs = true)
    (hba : namesLe bs as = true) : as = bs := by
  induction as generalizing bs with
  | nil =>
    cases bs with
    | nil => rfl
    | cons b bs => cases hba
  | cons a as ih =>
    cases bs with
    | nil => cases hab
    | cons b bs =>
      rw [namesLe_cons] at hab hba
      rcases hab with hab | ⟨rfl, hab⟩
      · rcases hba with hba | ⟨rfl, -⟩
        · exact absurd hba (lt_asymm hab)
        · exact absurd hab (lt_irrefl b)
      · rw [ih hab (hba.resolve_left (lt_irrefl a)).2]

/-- What two paths have in common in front does not matter. -/
theorem namesLe_append_left (as bs cs : List String) :
    namesLe (as ++ bs) (as ++ cs) = namesLe bs cs := by
  induction as with
  | nil => rfl
  | cons a as ih =>
    rw [List.cons_append, List.cons_append, ← ih, Bool.eq_iff_iff, namesLe_cons]
    exact or_iff_right (lt_irrefl a) |>.trans (and_iff_right rfl)

/-- The path of the ignore file of a directory, compared with that of a directory below it. -/
theorem namesLe_below (above further : List String) (name : String) :
    namesLe (above ++ [fileName]) (above ++ name :: further ++ [fileName]) = true ↔
      ¬name < fileName := by
  rw [List.append_assoc, namesLe_append_left, List.cons_append, namesLe_cons, not_lt,
    le_iff_lt_or_eq]
  exact or_congr_right (and_iff_left rfl)

/-- The ignore file of a directory comes before that of one above it exactly if the name on the way
down comes before the name of ignore files. -/
theorem namesLe_above (above further : List String) (name : String) :
    namesLe (above ++ name :: further ++ [fileName]) (above ++ [fileName]) = true ↔
      name < fileName := by
  have hlonger : namesLe (further ++ [fileName]) [] ≠ true := by
    cases further <;> exact Bool.false_ne_true
  rw [List.append_assoc, namesLe_append_left, List.cons_append, namesLe_cons]
  exact or_iff_left fun h => hlonger h.2

/-! ## Directories that hold ignore files -/

variable {t : Tree} {root : Path} {l : Location} {directory above further : List String}
  {name : String} {found : List (List String)} {lines : List String}

/-- A real directory below the root, at `l`, or the root itself, which holds an ignore file. -/
structure HoldsRules (t : Tree) (root : Path) (l : Location) (directory : List String) : Prop where
  isBelow : directory ∈ t.directoriesBelow l
  holds : holdsFile t root directory = .ok true

/-- The directories are those among all real ones that hold an ignore file, sorted. -/
theorem exists_filterM_of_directories (hroot : t.walk .seeing root = .ok (.taken l .directory))
    (h : directories t root = .ok found) :
    ∃ holding, (t.directoriesBelow l).filterM (holdsFile t root) = .ok holding ∧
      found = sortBy (fun a b => namesLe (a ++ [fileName]) (b ++ [fileName])) holding := by
  obtain ⟨isDirectory, hdirectory, h⟩ := bind_eq_ok.1 h
  obtain rfl : true = isDirectory := by
    rw [Tree.isDirectory_of_taken hroot] at hdirectory
    exact Except.ok.inj hdirectory
  rw [Tree.list_of_taken hroot] at h
  obtain ⟨holding, hholding, h⟩ := bind_eq_ok.1 h
  exact ⟨holding, hholding, (Except.ok.inj h).symm⟩

/-- Whether a directory is among those that are read is told by the directory alone. -/
theorem mem_directories_iff (hroot : t.walk .seeing root = .ok (.taken l .directory))
    (h : directories t root = .ok found) : directory ∈ found ↔ HoldsRules t root l directory := by
  obtain ⟨holding, hholding, rfl⟩ := exists_filterM_of_directories hroot h
  rw [(sortBy_perm _ _).mem_iff, (filterM_eq_ok hholding).2]
  exact ⟨fun ⟨h₁, h₂⟩ => ⟨h₁, h₂⟩, fun ⟨h₁, h₂⟩ => ⟨h₁, h₂⟩⟩

/-- No directory is read twice. -/
theorem nodup_of_directories (hnodup : (t.entries.map Prod.fst).Nodup)
    (hroot : t.walk .seeing root = .ok (.taken l .directory))
    (h : directories t root = .ok found) : found.Nodup := by
  obtain ⟨holding, hholding, rfl⟩ := exists_filterM_of_directories hroot h
  rw [(sortBy_perm _ _).nodup_iff]
  exact (Tree.nodup_directoriesBelow hnodup l).sublist (filterM_eq_ok hholding).1

/-- Directories are read in the order of the paths of their ignore files. -/
theorem pairwise_of_directories (hroot : t.walk .seeing root = .ok (.taken l .directory))
    (h : directories t root = .ok found) :
    found.Pairwise fun a b => namesLe (a ++ [fileName]) (b ++ [fileName]) = true := by
  obtain ⟨holding, -, rfl⟩ := exists_filterM_of_directories hroot h
  let le (a b : List String) : Bool := namesLe (a ++ [fileName]) (b ++ [fileName])
  have htotal : ∀ a b, le a b = true ∨ le b a = true := fun _ _ => namesLe_total _ _
  have htrans : ∀ a b c, le a b = true → le b c = true → le a c = true :=
    fun _ _ _ => namesLe_trans _ _ _
  exact pairwise_sortBy htotal htrans holding

/-! ## Files in their order -/

/-- An ignore file that has been read: its directory and its lines, written for the root. -/
structure ReadFile where
  directory : List String
  lines : List String

/-- The ignore files of a project in the order in which their lines are put together, each of them
once. -/
structure AreRead (t : Tree) (root : Path) (files : List ReadFile) : Prop where
  directories_eq : directories t root = .ok (files.map ReadFile.directory)
  nodup : (files.map ReadFile.directory).Nodup
  linesOf_eq : ∀ file ∈ files, linesOf t root file.directory = .ok file.lines
  allLines_eq : allLines t root = .ok (files.flatMap ReadFile.lines)

/-- If all lines can be collected, every ignore file has been read. -/
theorem exists_areRead (hnodup : (t.entries.map Prod.fst).Nodup)
    (hroot : t.walk .seeing root = .ok (.taken l .directory)) (h : allLines t root = .ok lines) :
    ∃ files, AreRead t root files := by
  obtain ⟨found, read, hfound, hread, hlines⟩ := exists_of_allLines h
  obtain ⟨hlength, hof⟩ := List.forall₂_iff_zip.1 hread
  let files := (found.zip read).map fun file => ReadFile.mk file.1 file.2
  have hdirectories : files.map ReadFile.directory = found := by
    rw [List.map_map]
    exact List.map_fst_zip hlength.le
  have hflat : files.flatMap ReadFile.lines = lines := by
    rw [hlines, ← List.map_snd_zip hlength.ge, List.flatMap_map]
    rfl
  refine ⟨files, ?_, ?_, ?_, ?_⟩
  · rw [hdirectories, hfound]
  · rw [hdirectories]
    exact nodup_of_directories hnodup hroot hfound
  · intro file hfile
    obtain ⟨⟨directory, own⟩, hmem, rfl⟩ := List.mem_map.1 hfile
    exact hof hmem
  · rw [hflat, h]

/-! ## Rules and the lines they come from -/

/-- Lines that follow other lines are read on their own, and their rules come last. -/
theorem exists_of_ofLines_append {early late : List String} {rules : RuleSet}
    (h : RuleSet.ofLines (early ++ late) = .ok rules) :
    ∃ before after, RuleSet.ofLines early = .ok before ∧ RuleSet.ofLines late = .ok after ∧
      rules = before ++ after := by
  obtain ⟨found, hfound, h⟩ := bind_eq_ok.1 h
  rw [List.filter_append, List.mapM_append] at hfound
  obtain ⟨before, hbefore, hfound⟩ := bind_eq_ok.1 hfound
  obtain ⟨after, hafter, hfound⟩ := bind_eq_ok.1 hfound
  obtain rfl : before ++ after = found := Except.ok.inj hfound
  obtain rfl : (before ++ after).filterMap id = rules := Except.ok.inj h
  exact ⟨before.filterMap id, after.filterMap id, bind_eq_ok.2 ⟨before, hbefore, rfl⟩,
    bind_eq_ok.2 ⟨after, hafter, rfl⟩, List.filterMap_append⟩

/-- What late rules fit stands in front of what earlier rules fit, since the last rule has the
word. -/
theorem RuleSet.hits_append (before late : RuleSet) (path : List Char) :
    RuleSet.hits (before ++ late) path = late.hits path ++ before.hits path := by
  rw [RuleSet.hits, List.reverse_append, List.filterMap_append]
  rfl

/-- Rules in front of a rule that fits do not decide unless they fit more. -/
theorem RuleSet.decisive?_append {before late : RuleSet} {path : List Char} {hit : Rule × Strength}
    (hhit : hit ∈ late.hits path)
    (hmore : hit.2 = .directory → ∀ hit ∈ before.hits path, hit.2 = .directory) :
    RuleSet.decisive? (before ++ late) path = late.decisive? path := by
  have hne : late.hits path ≠ [] := List.ne_nil_of_mem hhit
  unfold RuleSet.decisive?
  simp only [RuleSet.hits_append, List.find?_append, List.head?_append_of_ne_nil _ hne]
  -- either rule that may decide is looked for among the late ones first
  cases hfind : (late.hits path).find? (·.2 = .whole) with
  | some _ => rfl
  | none =>
    have hdirectory : hit.2 = .directory := by
      have hnot : ¬hit.2 = .whole := by simpa using List.find?_eq_none.1 hfind hit hhit
      cases hstrength : hit.2 with
      | directory => rfl
      | whole => exact absurd hstrength hnot
    have hearly : (before.hits path).find? (·.2 = .whole) = none := by
      rw [List.find?_eq_none]
      intro other hother
      rw [hmore hdirectory other hother]
      decide
    rw [hearly]
    rfl

/-- Once a line of `own` fits a path, none of the lines in front decides on it, unless one of them
fits all of the path and that line only a directory on the way. -/
def HasLastWord (early own late : List String) : Prop :=
  ∀ rules, RuleSet.ofLines (early ++ (own ++ late)) = .ok rules →
    ∃ before after, RuleSet.ofLines early = .ok before ∧ RuleSet.ofLines (own ++ late) = .ok after ∧
      ∀ path, ∀ line ∈ own, ∀ hit, hit? path line = some hit →
        (hit.2 = .directory → ∀ hit ∈ before.hits path, hit.2 = .directory) →
          rules.decisive? path = after.decisive? path

/-- Lines have the last word over those in front of them, whatever they are. -/
theorem hasLastWord (early own late : List String) : HasLastWord early own late := by
  intro rules h
  obtain ⟨before, after, hbefore, hafter, rfl⟩ := exists_of_ofLines_append h
  refine ⟨before, after, hbefore, hafter, fun path line hline hit hhit hmore => ?_⟩
  refine RuleSet.decisive?_append ?_ hmore
  rw [hits_eq_of_ofLines hafter, List.mem_reverse, List.mem_filterMap]
  exact ⟨line, List.mem_append_left late hline, hhit⟩

/-! ## Ignore files one below the other -/

/-- The lines of the ignore file of `first` stand before those of the file of `second`, which have
the last word. -/
def Precedes (files : List ReadFile) (first second : List String) : Prop :=
  ∃ early own late, files = early ++ ⟨second, own⟩ :: late ∧
    first ∈ early.map ReadFile.directory ∧
      HasLastWord (early.flatMap ReadFile.lines) own (late.flatMap ReadFile.lines)

/-- What does not come after another file in the order of paths is read before it. -/
theorem AreRead.precedes {files : List ReadFile} {first second : List String}
    (h : AreRead t root files) (hroot : t.walk .seeing root = .ok (.taken l .directory))
    (hfirst : HoldsRules t root l first) (hsecond : HoldsRules t root l second)
    (hne : first ≠ second)
    (hnot : ¬namesLe (second ++ [fileName]) (first ++ [fileName]) = true) :
    Precedes files first second := by
  have hmem : ∀ directory, HoldsRules t root l directory →
      directory ∈ files.map ReadFile.directory := fun directory hdirectory =>
    (mem_directories_iff hroot h.directories_eq).2 hdirectory
  obtain ⟨early, late, hsplit, hearly⟩ := exists_append_of_pairwise
    (pairwise_of_directories hroot h.directories_eq) (hmem first hfirst) (hmem second hsecond) hne
    hnot
  obtain ⟨before, rest, rfl, rfl, hrest⟩ := List.map_eq_append_iff.1 hsplit
  obtain ⟨⟨directory, own⟩, after, rfl, rfl, rfl⟩ := List.map_eq_cons_iff.1 hrest
  exact ⟨before, own, after, rfl, hearly, hasLastWord _ _ _⟩

/-- Of a directory and another one below it, the first name on the way down says whose ignore file
is read first. -/
theorem precedes_of_allLines (hnodup : (t.entries.map Prod.fst).Nodup)
    (hroot : t.walk .seeing root = .ok (.taken l .directory))
    (habove : HoldsRules t root l above) (hbelow : HoldsRules t root l (above ++ name :: further))
    (h : allLines t root = .ok lines) :
    ∃ files, AreRead t root files ∧
      if name < fileName then Precedes files (above ++ name :: further) above
      else Precedes files above (above ++ name :: further) := by
  obtain ⟨files, hfiles⟩ := exists_areRead hnodup hroot h
  have hne : above ≠ above ++ name :: further := by simp
  refine ⟨files, hfiles, ?_⟩
  split
  · next hlt =>
    refine hfiles.precedes hroot hbelow habove hne.symm ?_
    rw [namesLe_below, not_not]
    exact hlt
  · next hlt =>
    refine hfiles.precedes hroot habove hbelow hne ?_
    rw [namesLe_above]
    exact hlt

/-- A project that ignores `x.kt`, with two directories that take it back. The name of one of them
comes before the name of ignore files, that of the other one after it. -/
def bothSidesTree : Tree where
  entries := Tree.empty.entries ++
    [(Tree.home ++ [fileName], .file "x.kt".toUTF8.toList), (Tree.home ++ [".aaa"], .directory),
      (Tree.home ++ [".aaa", fileName], .file "!x.kt".toUTF8.toList),
      (Tree.home ++ ["b"], .directory),
      (Tree.home ++ ["b", fileName], .file "!x.kt".toUTF8.toList)]

/-- One tree in which an ignore file comes before the one above it, and another file after that. -/
theorem precedes_of_allLines_bothSidesTree :
    (∃ files, AreRead bothSidesTree ⟨"", []⟩ files ∧ Precedes files [".aaa"] []) ∧
      (∃ files, AreRead bothSidesTree ⟨"", []⟩ files ∧ Precedes files [] ["b"]) ∧
        (load bothSidesTree ⟨"", []⟩).map (fun rules =>
          (rules.excludes ".aaa/x.kt" false, rules.excludes "b/x.kt" false)) =
            .ok (true, false) := by
  have hnodup : (bothSidesTree.entries.map Prod.fst).Nodup := by decide +kernel
  have hroot : bothSidesTree.walk .seeing ⟨"", []⟩ = .ok (.taken Tree.home .directory) := rfl
  have hlines :
      allLines bothSidesTree ⟨"", []⟩ = .ok ["!/.aaa/**/x.kt", "x.kt", "!/b/**/x.kt"] := by
    decide +kernel
  have hholds : ∀ directory ∈ [[], [".aaa"], ["b"]],
      HoldsRules bothSidesTree ⟨"", []⟩ Tree.home directory := by
    have hbelow : ∀ directory ∈ [[], [".aaa"], ["b"]],
        directory ∈ bothSidesTree.directoriesBelow Tree.home := by decide +kernel
    have hfile : ∀ directory ∈ [[], [".aaa"], ["b"]],
        holdsFile bothSidesTree ⟨"", []⟩ directory = .ok true := by decide +kernel
    exact fun directory hmem => ⟨hbelow directory hmem, hfile directory hmem⟩
  obtain ⟨files, hfiles, hbefore⟩ :=
    precedes_of_allLines hnodup hroot (hholds [] (by decide)) (hholds [".aaa"] (by decide)) hlines
  rw [if_pos (by decide)] at hbefore
  obtain ⟨files', hfiles', hafter⟩ :=
    precedes_of_allLines hnodup hroot (hholds [] (by decide)) (hholds ["b"] (by decide)) hlines
  rw [if_neg (by decide)] at hafter
  exact ⟨⟨files, hfiles, hbefore⟩, ⟨files', hfiles', hafter⟩, by decide +kernel⟩

end DesignMetrics.Ignore
