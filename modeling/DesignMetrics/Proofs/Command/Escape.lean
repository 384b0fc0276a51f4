import DesignMetrics.Command.Run
import DesignMetrics.Proofs.Analysis
import DesignMetrics.Proofs.Factor.Bounds
import DesignMetrics.Proofs.Files.NullPath
import DesignMetrics.Proofs.Hierarchy.Coherence
import DesignMetrics.Proofs.Ignore.Nested
import DesignMetrics.Proofs.Report.Table

/-!
# How runs end

A run ends with a code, zero or two, or an error escapes from it. `Escapes` lists the ways in which
this happens: a path too long to be looked up, an option that has taken back its value, a line of
an ignore file that is no pattern, a quotient too large, a name or a path that is no text with style
tags, and an output path with a null character.
-/

namespace DesignMetrics

open Files (Path Tree FileError)
open Log

namespace Command

/-- A null character in the path of the output is met unless the directories above cannot be made
for another reason. -/
theorem writeOutput_eq_nullInPath {t : Tree} {output text : String} :
    writeOutput t output text = .error .nullInPath ↔
      '\x00' ∈ output.toList ∧
        ∀ e, t.ensureDirectories (Path.ofString output).parent = .error e → e = .nullInPath := by
  rw [← Path.holdsNull_ofString]
  show (t.ensureDirectories (Path.ofString output).parent >>= fun t =>
    t.writeText (Path.ofString output) text) = .error .nullInPath ↔ _
  cases hmade : t.ensureDirectories (Path.ofString output).parent with
  | error e =>
    show Except.error e = Except.error FileError.nullInPath ↔ _
    constructor
    · intro h
      obtain rfl := Except.error.inj h
      refine ⟨Path.holdsNull_of_parent (Tree.ensureUpTo_eq_nullInPath.1 hmade), ?_⟩
      rintro e ⟨⟩
      rfl
    · rintro ⟨-, h⟩
      rw [h e rfl]
  | ok t' =>
    refine Tree.writeText_eq_nullInPath.trans ?_
    simp

/-! ## Ways to escape -/

/-- A command line that names a path. -/
structure Names (words : List String) (arguments : Arguments) (root : Path) : Prop where
  read : Arguments.read? words = some arguments
  path : arguments.path.map Path.ofString = some root

/-- A command line in order: it names a directory, and there are workers and extensions to look
for. -/
structure Accepts (t : Tree) (words : List String) (arguments : Arguments) (root : Path)
    (extensions : List String) (workers : Int) : Prop where
  names : Names words arguments root
  leads : t.isDirectory root = .ok true
  workers_eq : arguments.workers = some workers
  workers_pos : 0 < workers
  extensions_eq : arguments.extensions.map extensionsOf = some extensions
  extensions_ne : extensions ≠ []

/-- The analysis that a command line in order asks for. -/
def Analyzes (t : Tree) (words : List String) (arguments : Arguments) (a : Analysis) : Prop :=
  ∃ root extensions workers, Accepts t words arguments root extensions workers ∧
    (Analysis.ofPath t root extensions workers arguments.respectRules).run.value = .ok a

/-- The ways in which a run ends without a code. -/
inductive Escapes (t : Tree) (words : List String) : Escape → Prop
  /-- The path is too long, or a name in it, and nobody can tell what it leads to. -/
  | path {arguments : Arguments} {root : Path} (names : Names words arguments root)
    (long : t.walk .seeing root = .error (.blocked .nameTooLong root.toString)) :
    Escapes t words (.files (.blocked .nameTooLong root.toString))
  /-- The number of workers has been taken back. -/
  | workers {arguments : Arguments} {root : Path} (names : Names words arguments root)
    (leads : t.isDirectory root = .ok true) (missing : arguments.workers = none) :
    Escapes t words .workersMissing
  /-- The extensions have been taken back. -/
  | extensions {arguments : Arguments} {root : Path} {workers : Int}
    (names : Names words arguments root) (leads : t.isDirectory root = .ok true)
    (workers_eq : arguments.workers = some workers) (workers_pos : 0 < workers)
    (missing : arguments.extensions = none) : Escapes t words .extensionsMissing
  /-- All ignore files can be read, and a line of them is refused. -/
  | line {arguments : Arguments} {root : Path} {extensions : List String} {workers : Int}
    {before after : List String} {line : String} {e : Ignore.RuleError}
    (accepts : Accepts t words arguments root extensions workers)
    (respects : arguments.respectRules = true)
    (lines : Ignore.allLines t root = .ok (before ++ line :: after))
    (first : ∀ earlier ∈ before, ∃ rule?, Ignore.Rule.ofLine earlier = .ok rule?)
    (refused : Ignore.Rule.ofLine line = .error e) : Escapes t words (.rules e)
  /-- The quotient of polymorphism is too large. -/
  | quotient {arguments : Arguments} {root : Path} {extensions : List String} {workers : Int}
    {found : Found} (accepts : Accepts t words arguments root extensions workers)
    (finds : (Search.find t root extensions arguments.respectRules).run.value = .ok found)
    (large : Factor.quotient? (Analysis.hierarchyOf found.sources).polymorphism.numerator
      (Analysis.hierarchyOf found.sources).polymorphism.denominator = none) :
    Escapes t words (.factors .overflow)
  /-- A table shows the name and the path of each class, and one of them is no text with style
  tags. -/
  | markup {arguments : Arguments} {a : Analysis} {c : ClassInfo} {e : Report.Markup.MarkupError}
    (analyzes : Analyzes t words arguments a) (format : arguments.format = .table)
    (refused : Report.tables a = .error (.markup e)) (mem : c ∈ a.hierarchy.classes.values)
    (unshown : Report.Unshown c.name.toList (.markup e) ∨
      Report.Unshown c.file.toList (.markup e)) : Escapes t words (.markup e)
  /-- One of them cannot be cut to the width of its column. -/
  | width {arguments : Arguments} {a : Analysis} {c : ClassInfo} {e : Report.Cell.CutError}
    (analyzes : Analyzes t words arguments a) (format : arguments.format = .table)
    (refused : Report.tables a = .error (.width e)) (mem : c ∈ a.hierarchy.classes.values)
    (unshown : Report.Unshown c.name.toList (.width e) ∨
      Report.Unshown c.file.toList (.width e)) : Escapes t words (.width e)
  /-- The path of the output has a null character, and nothing else is wrong with the directories
  above it. -/
  | output {arguments : Arguments} {a : Analysis} {output : String}
    (analyzes : Analyzes t words arguments a) (format : arguments.format = .json)
    (output_eq : arguments.output = some output) (null : '\x00' ∈ output.toList)
    (directories : ∀ e, t.ensureDirectories (Path.ofString output).parent = .error e →
      e = .nullInPath) : Escapes t words (.files .nullInPath)

/-- A run has a code, or what escapes from it is known. -/
def Accounted (t : Tree) (words : List String) : Except Escape Outcome → Prop
  | .ok outcome => outcome.code = 0 ∨ outcome.code = 2
  | .error e => Escapes t words e

variable {t : Tree} {words : List String} {arguments : Arguments} {root : Path}
  {extensions : List String} {workers : Int} {a : Analysis}

/-! ## Runs of command lines in order -/

/-- A command line that names a path goes on if the path leads to a directory. -/
theorem run_of_names (h : Names words arguments root) :
    run t words =
      match t.isDirectory root with
      | .error e => throw (.files e)
      | .ok false =>
        refuse t (.notDirectory root.toString)
          ("Path is not a directory: " ++ root.toString ++ "\n")
      | .ok true => checkValues t arguments (analyze t arguments root) := by
  obtain ⟨path, hpath, rfl⟩ := Option.map_eq_some_iff.1 h.path
  rw [run, h.read]
  show runWith t arguments = _
  unfold runWith
  split
  · next hnone =>
    rw [hpath] at hnone
    cases hnone
  · next path' hsome =>
    obtain rfl : path = path' := Option.some.inj (hpath.symm.trans hsome)
    rfl

/-- A command line in order comes to an analysis. -/
theorem Accepts.run_eq (h : Accepts t words arguments root extensions workers) :
    run t words = analyze t arguments root extensions workers := by
  obtain ⟨listed, hlisted, hextensions⟩ := Option.map_eq_some_iff.1 h.extensions_eq
  rw [run_of_names h.names, h.leads]
  show checkValues t arguments (analyze t arguments root) = _
  rw [checkValues, h.workers_eq]
  simp only [if_neg (not_le.2 h.workers_pos), hlisted, hextensions]
  cases hlist : extensions with
  | nil => exact absurd hlist h.extensions_ne
  | cons _ _ => rfl

/-- An analysis is that of the sources that were found. -/
theorem Analyzes.exists_eq (h : Analyzes t words arguments a) :
    ∃ (found : Found) (factors : Factors Factor.Score),
      a = ⟨Analysis.hierarchyOf found.sources, factors, found.failures⟩ := by
  obtain ⟨_, _, _, -, hvalue⟩ := h
  obtain ⟨found, -, -, heq⟩ := Analysis.of_value_ofPath hvalue
  exact ⟨found, a.factors, heq⟩

/-- The document of an analysis is that of its export. -/
theorem document_eq {x : Report.Export} (h : Report.Export.ofAnalysis a = .ok x) :
    document a = .ok x.toJson.toText := by
  rw [document, h]
  rfl

/-- Every class of an analysis has its entry in the full report. -/
theorem Analyzes.exists_export (h : Analyzes t words arguments a) :
    ∃ x, Report.Export.ofAnalysis a = .ok x ∧
      x.classes.map Report.ClassEntry.info = a.hierarchy.classes.values := by
  obtain ⟨found, factors, rfl⟩ := h.exists_eq
  have hcoherent : (Analysis.hierarchyOf found.sources).Coherent :=
    (Classes.keyed_ofInfos _).coherent
  exact hcoherent.exists_export factors found.failures

/-- Where there are no tables, the name or the path of a class cannot be shown. -/
theorem Analyzes.exists_unshown (h : Analyzes t words arguments a) {e : Report.TableError}
    (he : Report.tables a = .error e) :
    ∃ c ∈ a.hierarchy.classes.values,
      Report.Unshown c.name.toList e ∨ Report.Unshown c.file.toList e := by
  obtain ⟨x, hx, hinfo⟩ := h.exists_export
  obtain ⟨entry, hentry, hunshown⟩ := Report.exists_unshown_of_tables hx he
  refine ⟨entry.info, ?_, hunshown⟩
  rw [← hinfo]
  exact List.mem_map_of_mem hentry

/-! ## Nothing else escapes -/

/-- A report is given out, refused, or escapes in one of the ways listed. -/
theorem Analyzes.accounted_report (h : Analyzes t words arguments a) :
    Accounted t words (report t arguments a).run.value := by
  obtain ⟨x, hx, -⟩ := h.exists_export
  have hdocument := document_eq hx
  have htables := Report.positionsSuffice_tables hx
  unfold report
  cases hformat : arguments.format with
  | text => exact .inl rfl
  | table =>
    cases hshown : Report.tables a with
    | ok stdout => exact .inl rfl
    | error e =>
      -- every class has a position, so only a cell can fail
      cases e with
      | factors e => exact absurd hshown (htables e)
      | markup e =>
        obtain ⟨c, hc, hunshown⟩ := h.exists_unshown hshown
        exact .markup h hformat hshown hc hunshown
      | width e =>
        obtain ⟨c, hc, hunshown⟩ := h.exists_unshown hshown
        exact .width h hformat hshown hc hunshown
  | json =>
    simp only [hdocument]
    split
    · exact .inl rfl
    next hgiven =>
    cases hwritten : writeOutput t (arguments.output.getD "") x.toJson.toText with
    | ok tree => exact .inl rfl
    | error e =>
      -- of what keeps a file from being written, only a null character escapes
      cases e with
      | nullInPath =>
        obtain ⟨hnull, hdirectories⟩ := writeOutput_eq_nullInPath.1 hwritten
        cases houtput : arguments.output with
        | none =>
          rw [houtput] at hgiven
          exact absurd rfl hgiven
        | some output =>
          rw [houtput] at hnull hdirectories
          exact .output h hformat houtput hnull hdirectories
      | _ => exact .inr rfl

/-- So is an analysis, which fails for the ignore files, for a name, or for the factors. -/
theorem Accepts.accounted_analyze (h : Accepts t words arguments root extensions workers) :
    Accounted t words (analyze t arguments root extensions workers).run.value := by
  unfold analyze
  rw [value_run_lift_bind]
  cases hvalue : (Analysis.ofPath t root extensions workers arguments.respectRules).run.value with
  | ok a => exact Analyzes.accounted_report ⟨root, extensions, workers, h, hvalue⟩
  | error e =>
    rw [Analysis.value_ofPath h.workers_pos] at hvalue
    -- either the search fails, or the factors of what it finds cannot be computed
    split at hvalue
    · next e' hfind =>
      cases hvalue
      obtain ⟨path, rfl⟩ | ⟨hrespects, refusal, hload, rfl⟩ := Search.find_eq_error h.leads hfind
      · exact .inr rfl
      · cases refusal with
        | unreadable e => exact .inr rfl
        | refused e =>
          obtain ⟨lines, hlines, hrefused⟩ := Ignore.load_eq_refused_iff.1 hload
          -- the first line that does not compile decides
          obtain ⟨before, line, after, rfl, hbefore, hline⟩ :=
            Ignore.ofLines_eq_error_iff.1 hrefused
          exact .line h hrespects hlines hbefore hline
    · next found hfind =>
      split at hvalue
      · next e' hfactors =>
        cases hvalue
        obtain ⟨rfl, hlarge⟩ := (ofHierarchy_eq_error_iff _).1 hfactors
        exact .quotient h hfind hlarge
      · cases hvalue

/-- A command line that names a path is accounted for. -/
theorem Names.accounted_run (h : Names words arguments root) :
    Accounted t words (run t words).run.value := by
  rw [run_of_names h]
  cases hleads : t.isDirectory root with
  | error e =>
    obtain ⟨rfl, hlong⟩ := Tree.isDirectory_eq_error_iff.1 hleads
    exact .path h hlong
  | ok isDirectory =>
    cases isDirectory with
    | false => exact .inr rfl
    | true =>
      show Accounted t words (checkValues t arguments (analyze t arguments root)).run.value
      -- the values are checked one after the other, in the order of the program
      unfold checkValues
      split
      · next hmissing => exact .workers h hleads hmissing
      next workers hworkers =>
      split
      · exact .inr rfl
      next hpos =>
      have hpos : 0 < workers := not_le.1 hpos
      split
      · next hmissing => exact .extensions h hleads hworkers hpos hmissing
      next listed hlisted =>
      split
      · exact .inr rfl
      next hne =>
      refine Accepts.accounted_analyze ⟨h, hleads, hworkers, hpos, ?_, hne⟩
      rw [hlisted]
      rfl

/-- Every run is accounted for. -/
theorem accounted_run (t : Tree) (words : List String) :
    Accounted t words (run t words).run.value := by
  cases hread : Arguments.read? words with
  | none =>
    rw [run, hread]
    exact .inr rfl
  | some arguments =>
    cases hpath : arguments.path with
    | none =>
      rw [run, hread]
      show Accounted t words (runWith t arguments).run.value
      rw [runWith, hpath]
      exact .inr rfl
    | some path => exact Names.accounted_run ⟨hread, by rw [hpath]; rfl⟩

/-! ## What is listed escapes -/

/-- The run of a command line in order comes to its report. -/
theorem Analyzes.value_run (h : Analyzes t words arguments a) :
    (run t words).run.value = (report t arguments a).run.value := by
  obtain ⟨root, extensions, workers, haccepts, hvalue⟩ := h
  rw [haccepts.run_eq]
  unfold analyze
  rw [value_run_lift_bind, hvalue]

/-- Each of the ways listed is one in which a run ends. -/
theorem Escapes.value_run {e : Escape} (h : Escapes t words e) :
    (run t words).run.value = .error e := by
  cases h with
  | path names long =>
    rw [run_of_names names, Tree.isDirectory_eq_error_iff.2 ⟨rfl, long⟩]
    rfl
  | workers names leads missing =>
    rw [run_of_names names, leads]
    show (checkValues t _ _).run.value = _
    rw [checkValues, missing]
    rfl
  | extensions names leads workers_eq workers_pos missing =>
    rw [run_of_names names, leads]
    show (checkValues t _ _).run.value = _
    rw [checkValues, workers_eq]
    show (if _ then _ else _ : ExceptT Escape Logged Outcome).run.value = _
    rw [if_neg (not_le.2 workers_pos), missing]
    rfl
  | @line arguments root extensions workers _ _ _ e accepts respects lines first refused =>
    -- the search fails as its rules do
    have hload : Ignore.load t root = .error (.refused e) := Ignore.load_eq_refused_iff.2
      ⟨_, lines, Ignore.ofLines_eq_error_iff.2 ⟨_, _, _, rfl, first, refused⟩⟩
    have hfind : (Search.find t root extensions arguments.respectRules).run.value =
        .error (.rules (.refused e)) := by
      rw [Search.value_find, Search.below, if_pos respects, hload]
      rfl
    rw [accepts.run_eq]
    unfold analyze
    rw [value_run_lift_bind, Analysis.value_ofPath accepts.workers_pos, hfind]
    rfl
  | quotient accepts finds large =>
    rw [accepts.run_eq]
    unfold analyze
    rw [value_run_lift_bind, Analysis.value_ofPath accepts.workers_pos, finds]
    simp only [Analysis.hierarchyOf, (ofHierarchy_eq_error_iff _).2 ⟨rfl, large⟩]
    rfl
  | markup analyzes format refused _ _ =>
    rw [analyzes.value_run]
    unfold report
    simp only [format, refused]
    rfl
  | width analyzes format refused _ _ =>
    rw [analyzes.value_run]
    unfold report
    simp only [format, refused]
    rfl
  | output analyzes format output_eq null directories =>
    obtain ⟨x, hx, -⟩ := analyzes.exists_export
    have hwritten : writeOutput t _ x.toJson.toText = .error .nullInPath :=
      writeOutput_eq_nullInPath.2 ⟨null, directories⟩
    rw [analyzes.value_run]
    unfold report
    simp only [format, document_eq hx, output_eq, Option.getD_some]
    rw [if_neg, hwritten]
    · rfl
    · -- the empty path holds no null character
      rintro rfl
      cases null

/-- Every run ends with code zero or two, whatever the files and the words are, except in the ways
listed, in which an error escapes. -/
theorem run_ends (t : Tree) (words : List String) :
    (∀ e, (run t words).run.value = .error e ↔ Escapes t words e) ∧
      ∀ outcome, (run t words).run.value = .ok outcome → outcome.code = 0 ∨ outcome.code = 2 := by
  have h := accounted_run t words
  refine ⟨fun e => ⟨fun he => ?_, Escapes.value_run⟩, fun outcome houtcome => ?_⟩
  · rw [he] at h
    exact h
  · rw [houtcome] at h
    exact h

/-- A backslash at the end of a line of an ignore file stands for nothing. The line is refused, and
the run ends with its error in place of a code. -/
theorem run_trailing_backslash :
    let t : Tree := ⟨Tree.empty.entries ++
      [(Tree.home ++ [".gitignore"], .file "a\\".toUTF8.toList)]⟩
    (run t ["."]).run.value = .error (.rules (.malformed "a\\")) := by
  intro t
  have haccepts : Accepts t ["."] { path := some "." } (Path.ofString ".")
      (extensionsOf (",".intercalate Search.standardExtensions)) 1 :=
    { names := ⟨by decide +kernel, rfl⟩
      leads := by decide +kernel
      workers_eq := rfl
      workers_pos := by decide
      extensions_eq := rfl
      extensions_ne := by decide +kernel }
  have hlines : Ignore.allLines t (Path.ofString ".") = .ok ([] ++ "a\\" :: []) := by
    decide +kernel
  have hrefused : Ignore.Rule.ofLine "a\\" = .error (.malformed "a\\") := by decide +kernel
  exact (Escapes.line haccepts rfl hlines (fun _ hnone => by cases hnone) hrefused).value_run

end Command
end DesignMetrics
