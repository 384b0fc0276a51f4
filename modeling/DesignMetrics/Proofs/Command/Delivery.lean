import DesignMetrics.Proofs.Command.Escape
import DesignMetrics.Proofs.Files.Effect
import DesignMetrics.Proofs.Report.Names
import DesignMetrics.Proofs.Text.Lines

/-!
# Where reports go

A run that ends with a code has reported, or refused to. A report goes to one place, the output
stream or the file that was asked for, and the error stream has one line for each problem. Apart
from that file nothing changes but that directories may have been made for it.
-/

namespace DesignMetrics

open Factor (Score)
open Files (Path Tree FileError Location)
open Log
open Text (splitOn)

namespace Command

/-- The file that a report is to be written to. Only documents are written to files. -/
def Arguments.destination? (arguments : Arguments) : Option String :=
  match arguments.format with
  | .json => arguments.output.filter (· ≠ "")
  | _ => none

/-- What the report of an analysis looks like on the output stream. -/
inductive Shows (a : Analysis) : Format → String → Prop
  | text : Shows a .text (Report.text (a.factors.map Score.value) a.hierarchy.positions)
  | table {tables : String} (h : Report.tables a = .ok tables) : Shows a .table tables
  | json {x : Report.Export} (h : Report.Export.ofAnalysis a = .ok x) :
    Shows a .json (x.toJson.toText ++ "\n")

/-- The one place where the report of an analysis has gone. -/
inductive Delivered (t : Tree) (arguments : Arguments) (a : Analysis) (outcome : Outcome) : Prop
  /-- The output stream. -/
  | printed (destination : arguments.destination? = none)
    (shows : Shows a arguments.format outcome.stdout) (unchanged : outcome.tree = t)
  /-- The file that the path of the output leads to. -/
  | written {output : String} {x : Report.Export} {l : Location}
    (destination : arguments.destination? = some output)
    (exported : Report.Export.ofAnalysis a = .ok x) (silent : outcome.stdout = "")
    (leads : outcome.tree.walk .seeing (Path.ofString output) =
      .ok (.taken l (.file x.toJson.toText.toUTF8.toList)))
    (others : ∀ l' ≠ l, t.KeepsAt outcome.tree l')
  /-- A device that takes everything. -/
  | swallowed {output : String} {l : Location}
    (destination : arguments.destination? = some output) (silent : outcome.stdout = "")
    (leads : outcome.tree.walk .seeing (Path.ofString output) = .ok (.taken l (.device .sink)))
    (others : t.AddsDirectories outcome.tree)

/-- What a run has done that ends with a code. -/
inductive Ends (t : Tree) (words : List String) (outcome : Outcome) : Prop
  /-- It has reported nothing. -/
  | refused (code : outcome.code = 2)
    (stdout : outcome.stdout = "" ∨ outcome.stdout = "Usage: oom <project_dir>\n")
    (tree : t.AddsDirectories outcome.tree)
  /-- It has reported an analysis, and a line for each problem. -/
  | reported {arguments : Arguments} {a : Analysis} (code : outcome.code = 0)
    (analyzes : Analyzes t words arguments a)
    (stderr : splitOn '\n' outcome.stderr.toList = (problemLines a).map String.toList ++ [[]])
    (delivered : Delivered t arguments a outcome)

/-- The location and the node that a path leads to, if it leads to something. -/
def target? (t : Tree) (path : String) : Option (Location × Files.Node) :=
  match t.walk .seeing (Path.ofString path) with
  | .ok (.taken l n) => some (l, n)
  | _ => none

variable {t : Tree} {words : List String} {arguments : Arguments} {root : Path}
  {extensions : List String} {workers : Int} {a : Analysis} {outcome : Outcome}

/-- Plain reports and tables are never written to a file. -/
theorem Arguments.destination?_of_ne (h : arguments.format ≠ .json) :
    arguments.destination? = none := by
  unfold destination?
  split
  · next hformat => exact absurd hformat h
  · rfl

/-- A document is written to a file if one is named, and else printed. -/
theorem Arguments.destination?_of_json (h : arguments.format = .json) :
    arguments.destination? =
      if arguments.output.getD "" = "" then none else some (arguments.output.getD "") := by
  unfold destination?
  rw [h]
  cases arguments.output with
  | none => rfl
  | some output => by_cases hempty : output = "" <;> simp [hempty]

/-! ## Lines of problems -/

/-- A failure takes one line, since the line feeds of a quoted text are escaped. -/
theorem not_mem_failureLine (e : ReadFailure) : '\n' ∉ (failureLine e).toList := by
  unfold failureLine
  simp only [String.toList_append, List.mem_append, Text.not_mem_quoted, or_false]
  decide

/-- A cycle takes one line if the names of its members do. -/
theorem not_mem_cycleLine {c : Cycle} (h : ∀ name ∈ c.members, '\n' ∉ name.toList) :
    '\n' ∉ (cycleLine c).toList := by
  have hdescribe : '\n' ∉ c.describe.toList := Text.not_mem_intercalate (by decide) h
  unfold cycleLine Cycle.message
  simp only [String.toList_append, List.mem_append, hdescribe, or_false]
  decide

/-- Every problem has a line of its own. -/
theorem Analyzes.splitOn_problemText (h : Analyzes t words arguments a) :
    splitOn '\n' (problemText a).toList = (problemLines a).map String.toList ++ [[]] := by
  rcases h.exists_eq with ⟨found, factors, rfl⟩
  apply Text.splitOn_join_lines
  intro line hline
  rcases List.mem_append.1 hline with hfailure | hcycle
  · rcases List.mem_map.1 hfailure with ⟨e, -, rfl⟩
    exact not_mem_failureLine e
  · rcases List.mem_map.1 hcycle with ⟨c, hc, rfl⟩
    apply not_mem_cycleLine
    intro name hname
    exact (Analysis.isWordRun_of_mem_cycles hc hname).not_mem_of_isWord (by decide)

/-! ## Written reports -/

/-- An output that could be written was received where its path leads, after directories were
made. -/
theorem writeOutput_eq_ok {output text : String} {t' : Tree}
    (h : writeOutput t output text = .ok t') :
    ∃ between, t.AddsDirectories between ∧
      between.Receives (Path.ofString output) text.toUTF8.toList t' := by
  rcases bind_eq_ok.1 h with ⟨between, hbetween, hwritten⟩
  exact ⟨between, Tree.addsDirectories_of_ensureUpTo hbetween,
    Tree.receives_of_writeBytes hwritten⟩

/-- Such an output is the one place of the report. -/
theorem delivered_of_writeOutput {output : String} {x : Report.Export} {stderr : String} {t' : Tree}
    (hdestination : arguments.destination? = some output)
    (hx : Report.Export.ofAnalysis a = .ok x)
    (h : writeOutput t output x.toJson.toText = .ok t') :
    Delivered t arguments a { code := 0, stderr, tree := t' } := by
  rcases writeOutput_eq_ok h with ⟨between, hadds, hreceives⟩
  cases hreceives with
  | @file l leads others =>
    refine .written hdestination hx rfl leads ?_
    intro l' hl'
    have hkeeps := hadds l'
    unfold Tree.KeepsAt at hkeeps ⊢
    rwa [← others l' hl'] at hkeeps
  | device leads same =>
    refine .swallowed hdestination rfl leads ?_
    rw [same]
    exact hadds

/-! ## Runs -/

/-- A run that ends with a code has done what it tells of. -/
def EndsWell (t : Tree) (words : List String) : Except Escape Outcome → Prop
  | .ok outcome => Ends t words outcome
  | .error _ => True

/-- A run that is refused reports nothing and leaves the files alone. -/
theorem endsWell_refuse (t : Tree) (words : List String) (event : Event) (stderr : String) :
    EndsWell t words (refuse t event stderr).run.value :=
  .refused rfl (.inl rfl) (.refl t)

/-- A report on the output stream. -/
theorem Analyzes.ends_printed {stdout : String} (h : Analyzes t words arguments a)
    (hnone : arguments.destination? = none) (hshows : Shows a arguments.format stdout) :
    Ends t words { code := 0, stdout, stderr := problemText a, tree := t } :=
  .reported rfl h h.splitOn_problemText (.printed hnone hshows rfl)

/-- A report that is given out goes to one place, in every format. -/
theorem Analyzes.endsWell_report (h : Analyzes t words arguments a) :
    EndsWell t words (report t arguments a).run.value := by
  rcases h.exists_export with ⟨x, hx, -⟩
  unfold report
  cases hformat : arguments.format with
  | text =>
    have hnone := Arguments.destination?_of_ne (by rw [hformat]; decide)
    have hshows : Shows a arguments.format
        (Report.text (a.factors.map Score.value) a.hierarchy.positions) := by
      rw [hformat]
      exact .text
    exact h.ends_printed hnone hshows
  | table =>
    have hnone := Arguments.destination?_of_ne (by rw [hformat]; decide)
    cases hshown : Report.tables a with
    | ok stdout =>
      have hshows : Shows a arguments.format stdout := by
        rw [hformat]
        exact .table hshown
      exact h.ends_printed hnone hshows
    | error e => cases e <;> trivial
  | json =>
    have hdestination := Arguments.destination?_of_json hformat
    simp only [document_eq hx]
    -- without a path the document is printed, and otherwise it is written
    split
    · next hempty =>
      rw [if_pos hempty] at hdestination
      have hshows : Shows a arguments.format (x.toJson.toText ++ "\n") := by
        rw [hformat]
        exact .json hx
      exact h.ends_printed hdestination hshows
    next hgiven =>
    rw [if_neg hgiven] at hdestination
    cases hwritten : writeOutput t (arguments.output.getD "") x.toJson.toText with
    | ok tree =>
      exact .reported rfl h h.splitOn_problemText
        (delivered_of_writeOutput hdestination hx hwritten)
    | error e =>
      -- what is refused has at most made directories on the way
      cases e with
      | nullInPath => trivial
      | _ => exact .refused rfl (.inl rfl) (Tree.addsDirectories_attemptDirectories t _)

/-- The analysis of a command line in order is reported, refused, or lets an error escape. -/
theorem Accepts.endsWell_analyze (h : Accepts t words arguments root extensions workers) :
    EndsWell t words (analyze t arguments root extensions workers).run.value := by
  unfold analyze
  rw [value_run_lift_bind]
  cases hvalue : (Analysis.ofPath t root extensions workers arguments.respectRules).run.value with
  | ok a => exact Analyzes.endsWell_report ⟨root, extensions, workers, h, hvalue⟩
  | error e =>
    -- only what the search reports itself ends with a message, the rest escapes
    cases e with
    | noWorkers => trivial
    | factors e => trivial
    | search e =>
      cases e with
      | blocked e => cases e <;> first | trivial | exact endsWell_refuse ..
      | rules e => cases e <;> first | trivial | exact endsWell_refuse ..

/-- A command line that names a path ends well, whatever the path leads to. -/
theorem Names.endsWell_run (h : Names words arguments root) :
    EndsWell t words (run t words).run.value := by
  rw [run_of_names h]
  cases hleads : t.isDirectory root with
  | error e => trivial
  | ok isDirectory =>
    cases isDirectory with
    | false => exact endsWell_refuse ..
    | true =>
      show EndsWell t words (checkValues t arguments (analyze t arguments root)).run.value
      unfold checkValues
      split
      · trivial
      next workers hworkers =>
      split
      · exact endsWell_refuse ..
      next hpos =>
      have hpos : 0 < workers := by omega
      split
      · trivial
      next listed hlisted =>
      split
      · exact endsWell_refuse ..
      next hne =>
      refine Accepts.endsWell_analyze ⟨h, hleads, hworkers, hpos, ?_, hne⟩
      rw [hlisted]
      rfl

/-- Every run ends well. -/
theorem endsWell_run (t : Tree) (words : List String) :
    EndsWell t words (run t words).run.value := by
  cases hread : Arguments.read? words with
  | none =>
    rw [run, hread]
    exact endsWell_refuse ..
  | some arguments =>
    cases hpath : arguments.path with
    | none =>
      rw [run, hread]
      show EndsWell t words (runWith t arguments).run.value
      rw [runWith, hpath]
      exact .refused rfl (.inr rfl) (.refl t)
    | some path => exact Names.endsWell_run ⟨hread, by rw [hpath]; rfl⟩

/-- A run that ends with code two has written nothing to the output stream but how it is to be used,
and no file. One that ends with code zero has written a line for each problem to the error stream,
and its report to one place: to the output stream, or to the file that was asked for, whatever files
were searched, or to a device that takes everything. No other file has changed. -/
theorem ends_of_value_run (h : (run t words).run.value = .ok outcome) : Ends t words outcome := by
  have hends := endsWell_run t words
  rw [h] at hends
  exact hends

/-- A file that cannot be read, a cycle, and a report in a directory that has been made for it. -/
theorem ends_of_value_run_problems :
    let t : Tree := ⟨Tree.empty.entries ++
      [(Tree.home ++ ["a.kt"], .file "class A : A".toUTF8.toList),
        (Tree.home ++ ["b.kt"], .file [0xFF])]⟩
    let words := [".", "--format", "json", "--output", "out/a.kt"]
    let failure := "scan_error: ScanError(file_path='b.kt', " ++
      "message=\"'utf-8' codec can't decode byte 0xff in position 0: invalid start byte\")\n"
    let cycle := "structural_error: Inheritance cycle detected: A -> A\n"
    ∃ outcome, (run t words).run.value = .ok outcome ∧ Ends t words outcome ∧
      outcome.code = 0 ∧ outcome.stderr = failure ++ cycle ∧
      (target? outcome.tree "out/a.kt").map Prod.fst = some (Tree.home ++ ["out", "a.kt"]) := by
  intro t words failure cycle
  have hvalue : (run t words).run.value.toOption.map (fun outcome => (outcome.code, outcome.stderr,
      (target? outcome.tree "out/a.kt").map Prod.fst)) =
      some (0, failure ++ cycle, some (Tree.home ++ ["out", "a.kt"])) := by
    decide +kernel
  rcases exists_eq_ok (x := (run t words).run.value) (by decide +kernel) with ⟨outcome, houtcome⟩
  rw [houtcome] at hvalue
  have hvalue := Option.some.inj hvalue
  exact ⟨outcome, houtcome, ends_of_value_run houtcome, congrArg (·.1) hvalue,
    congrArg (·.2.1) hvalue, congrArg (·.2.2) hvalue⟩

/-- An output that is a link to a device which takes everything holds no document, although nothing
goes to the output stream. -/
theorem exists_run_without_file :
    let t : Tree := ⟨Tree.empty.entries ++
      [(Tree.home ++ ["a.kt"], .file "class A".toUTF8.toList),
        (Tree.home ++ ["out.json"], .link "/dev/null")]⟩
    let words := [".", "--format", "json", "--output", "out.json"]
    ∃ outcome, (run t words).run.value = .ok outcome ∧ outcome.code = 0 ∧ outcome.stdout = "" ∧
      (Arguments.read? words).bind Arguments.destination? = some "out.json" ∧
      ∀ l bytes, outcome.tree.walk .seeing (Path.ofString "out.json") ≠
        .ok (.taken l (.file bytes)) := by
  intro t words
  have hvalue : (run t words).run.value.toOption.map (fun outcome => (outcome.code, outcome.stdout,
      target? outcome.tree "out.json")) =
      some (0, "", some (["dev", "null"], .device .sink)) := by
    decide +kernel
  rcases exists_eq_ok (x := (run t words).run.value) (by decide +kernel) with ⟨outcome, houtcome⟩
  rw [houtcome] at hvalue
  have hvalue := Option.some.inj hvalue
  refine ⟨outcome, houtcome, congrArg (·.1) hvalue, congrArg (·.2.1) hvalue, by decide +kernel, ?_⟩
  intro l bytes hwalk
  have htarget : target? outcome.tree "out.json" = some (["dev", "null"], .device .sink) :=
    congrArg (·.2.2) hvalue
  unfold target? at htarget
  rw [hwalk] at htarget
  cases htarget

end Command
end DesignMetrics
