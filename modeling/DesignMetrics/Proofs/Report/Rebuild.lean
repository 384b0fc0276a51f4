import DesignMetrics.Proofs.Analysis
import DesignMetrics.Proofs.Hierarchy.Coherence
import DesignMetrics.Report.Export

/-!
# Analyses read back

The document of an analysis lists the classes as they were declared, each one once. From that list
alone, with the failures beside it, the analysis can be made again: linking and summing up the
listed classes gives the same hierarchy and the same factors, and so the same document.
-/

namespace DesignMetrics

open Factor (FactorError)
open Files (Path Tree)
open Log
open Source (SourceFile Team)

/-! ## Reading a document -/

namespace Report.Json

variable {α β γ : Type}

/-- The value of a field. -/
def field? (name : String) : Json → Option Json
  | .object fields => fields.lookup name
  | _ => none

def bool? : Json → Option Bool
  | .bool b => some b
  | _ => none

def text? : Json → Option String
  | .text s => some s
  | _ => none

/-- A text that may be missing. -/
def optionalText? : Json → Option (Option String)
  | .null => some none
  | .text s => some (some s)
  | _ => none

def items? : Json → Option (List Json)
  | .array items => some items
  | _ => none

def method? (j : Json) : Option Method := do
  let name ← (← j.field? "name").text?
  let visibility ← (← j.field? "visibility").text?
  let overrides ← (← j.field? "overrides").bool?
  return ⟨name, .ofWord visibility, overrides⟩

def attribute? (j : Json) : Option Attribute := do
  let name ← (← j.field? "name").text?
  let visibility ← (← j.field? "visibility").text?
  return ⟨name, .ofWord visibility⟩

/-- A class as it was declared, whatever else is told of it. -/
def info? (j : Json) : Option ClassInfo := do
  let name ← (← j.field? "name").text?
  let parent ← (← j.field? "parent").optionalText?
  let methods ← (← (← j.field? "methods").items?).mapM method?
  let attributes ← (← (← j.field? "attributes").items?).mapM attribute?
  let file ← (← j.field? "file_path").text?
  return { name, parent, methods, attributes, file }

def failure? (j : Json) : Option ReadFailure := do
  let file ← (← j.field? "file_path").text?
  let message ← (← j.field? "message").text?
  return ⟨file, message⟩

/-- The classes that a document lists. -/
def infos? (document : Json) : Option (List ClassInfo) := do
  (← (← document.field? "classes").items?).mapM info?

/-- The failures that a document lists. -/
def failures? (document : Json) : Option (List ReadFailure) := do
  (← (← document.field? "errors").items?).mapM failure?

/-! ## Reading what was written -/

/-- The fields of a document are found wherever they stand. -/
theorem field?_sorted (fields : List (String × Json)) (h : (fields.map Prod.fst).Nodup)
    (name : String) : (sorted fields).field? name = fields.lookup name :=
  (OrderedMap.lookup_eq_of_perm h (sortBy_perm _ fields).symm name).symm

/-- What is read from each item that was written is read from all of them. -/
theorem mapM_map_eq_some {read : β → Option γ} {write : α → β} {f : α → γ}
    (h : ∀ a, read (write a) = some (f a)) (as : List α) :
    (as.map write).mapM read = some (as.map f) := by
  induction as with
  | nil => rfl
  | cons a as ih =>
    rw [List.map_cons, List.mapM_cons, h, ih]
    rfl

theorem method?_methodJson (m : Method) : (Export.methodJson m).method? = some m := by
  simp (disch := simp) only [method?, Export.methodJson, field?_sorted]
  show some (Method.mk m.name (.ofWord m.visibility.word) m.overrides) = some m
  rw [Visibility.ofWord_word]

theorem attribute?_attributeJson (a : Attribute) :
    (Export.attributeJson a).attribute? = some a := by
  simp (disch := simp) only [attribute?, Export.attributeJson, field?_sorted]
  show some (Attribute.mk a.name (.ofWord a.visibility.word)) = some a
  rw [Visibility.ofWord_word]

theorem optionalText?_elim (s : Option String) :
    (s.elim Json.null Json.text).optionalText? = some s := by
  cases s <;> rfl

theorem info?_entryJson (e : ClassEntry) : (Export.entryJson e).info? = some e.info := by
  simp (disch := simp) only [info?, Export.entryJson, field?_sorted]
  show ((e.info.parent.elim Json.null Json.text).optionalText? >>= fun parent =>
    (e.info.methods.map Export.methodJson).mapM method? >>= fun methods =>
    (e.info.attributes.map Export.attributeJson).mapM attribute? >>= fun attributes =>
    some ({ e.info with parent, methods, attributes } : ClassInfo)) = some e.info
  rw [optionalText?_elim, mapM_map_eq_some (f := id) method?_methodJson,
    mapM_map_eq_some (f := id) attribute?_attributeJson, List.map_id, List.map_id]
  rfl

theorem failure?_failureJson (f : ReadFailure) : (Export.failureJson f).failure? = some f := by
  simp (disch := simp) only [failure?, Export.failureJson, field?_sorted]
  rfl

/-- A document lists the classes of its entries. -/
theorem infos?_toJson (x : Export) :
    x.toJson.infos? = some (x.classes.map ClassEntry.info) := by
  simp (disch := simp) only [infos?, Export.toJson, field?_sorted]
  exact mapM_map_eq_some info?_entryJson x.classes

theorem failures?_toJson (x : Export) : x.toJson.failures? = some x.failures := by
  simp (disch := simp) only [failures?, Export.toJson, field?_sorted]
  refine (mapM_map_eq_some (f := id) failure?_failureJson x.failures).trans ?_
  rw [List.map_id]

end Report.Json

/-! ## Analyses made again -/

namespace Analysis

/-- Links classes and sums them up, as an analysis does with the classes that it finds in
sources. -/
def ofInfos (infos : List ClassInfo) (failures : List ReadFailure) :
    ExceptT FactorError Logged Analysis := do
  let hierarchy ← linkClasses infos
  let factors ← sumUp hierarchy
  return { hierarchy, factors, failures }

/-- The analysis that a document tells of, made again from the classes and the failures that it
lists. -/
def rebuild? (document : Report.Json) : Option (Except FactorError Analysis) := do
  let infos ← document.infos?
  let failures ← document.failures?
  return (ofInfos infos failures).run.value

/-- What the analyses of directories, of sources at hand and of classes that were found in any other
way come to. -/
inductive Produced : Analysis → Prop where
  | path {t : Tree} {root : Path} {extensions : List String} {workers : Int} {respectRules : Bool}
    {a : Analysis} (h : (ofPath t root extensions workers respectRules).run.value = .ok a) :
    Produced a
  | sources {team : Team} {sources : List SourceFile} {a : Analysis}
    (h : (ofSources team sources).run.value = .ok a) : Produced a
  | infos {infos : List ClassInfo} {failures : List ReadFailure} {a : Analysis}
    (h : (ofInfos infos failures).run.value = .ok a) : Produced a

variable {a : Analysis} {infos : List ClassInfo} {failures : List ReadFailure}

theorem value_ofInfos (infos : List ClassInfo) (failures : List ReadFailure) :
    (ofInfos infos failures).run.value =
      (Factor.ofHierarchy (Hierarchy.ofInfos infos)).map fun factors =>
        ⟨Hierarchy.ofInfos infos, factors, failures⟩ := by
  unfold ofInfos
  rw [value_run_lift_bind, value_run_bind]
  show (sumUp (Hierarchy.ofInfos infos)).run.value >>= _ = _
  rw [sumUp]
  cases Factor.ofHierarchy (Hierarchy.ofInfos infos) <;> rfl

/-- An analysis of classes is one of a hierarchy of them that has factors. -/
theorem value_ofInfos_eq_ok :
    (ofInfos infos failures).run.value = .ok a ↔
      a.hierarchy = Hierarchy.ofInfos infos ∧ Factor.ofHierarchy a.hierarchy = .ok a.factors ∧
        a.failures = failures := by
  rw [value_ofInfos]
  constructor
  · intro h
    cases hfactors : Factor.ofHierarchy (Hierarchy.ofInfos infos) with
    | error e =>
      rw [hfactors] at h
      cases h
    | ok factors =>
      rw [hfactors] at h
      obtain rfl := Except.ok.inj h
      exact ⟨rfl, hfactors, rfl⟩
  · obtain ⟨hierarchy, factors, failures'⟩ := a
    rintro ⟨rfl, hfactors, rfl⟩
    rw [show Factor.ofHierarchy (Hierarchy.ofInfos infos) = .ok factors from hfactors]
    rfl

/-- Every analysis is one of classes. -/
theorem Produced.exists_ofInfos (h : Produced a) :
    ∃ infos, (ofInfos infos a.failures).run.value = .ok a := by
  cases h with
  | path h =>
    obtain ⟨found, -, hfactors, heq⟩ := of_value_ofPath h
    refine ⟨found.sources.flatMap SourceFile.classes, value_ofInfos_eq_ok.2 ?_⟩
    rw [heq]
    exact ⟨rfl, hfactors, rfl⟩
  | @sources team sources _ h =>
    have hsame : (ofInfos (sources.flatMap SourceFile.classes) []).run.value = .ok a := by
      rw [value_ofInfos, ← h, value_ofSources]
      rfl
    rw [(value_ofInfos_eq_ok.1 hsame).2.2]
    exact ⟨_, hsame⟩
  | @infos infos _ _ h =>
    rw [(value_ofInfos_eq_ok.1 h).2.2]
    exact ⟨infos, h⟩

/-- The classes that a hierarchy keeps come to the same analysis as all that were found. -/
theorem value_ofInfos_values (h : (ofInfos infos failures).run.value = .ok a) :
    (ofInfos a.hierarchy.classes.values a.failures).run.value = .ok a := by
  obtain ⟨hhierarchy, hfactors, -⟩ := value_ofInfos_eq_ok.1 h
  refine value_ofInfos_eq_ok.2 ⟨?_, hfactors, rfl⟩
  rw [hhierarchy, Hierarchy.ofInfos]
  show _ = Hierarchy.ofClasses (Classes.ofInfos (Classes.ofInfos infos).values)
  rw [(Classes.keyed_ofInfos infos).ofInfos_values]

/-- The document of an analysis can be read back: it lists the classes of the hierarchy and the
failures in their order, and the analysis made again from these lists is the same, down to the last
depth, cycle and quotient, and so has the same document. -/
theorem rebuild_of_produced (h : Produced a) :
    ∃ x, Report.Export.ofAnalysis a = .ok x ∧
      x.toJson.infos? = some a.hierarchy.classes.values ∧
      x.toJson.failures? = some a.failures ∧
      rebuild? x.toJson = some (.ok a) ∧
      (rebuild? x.toJson).map (fun again => do
        return (← Report.Export.ofAnalysis (← again)).toJson) = some (.ok x.toJson) := by
  obtain ⟨infos, hinfos⟩ := h.exists_ofInfos
  obtain ⟨hhierarchy, -, -⟩ := value_ofInfos_eq_ok.1 hinfos
  have hcoherent : a.hierarchy.Coherent := by
    rw [hhierarchy]
    exact (Classes.keyed_ofInfos infos).coherent
  obtain ⟨x, hx, hclasses⟩ := hcoherent.exists_export a.factors a.failures
  have hfailures : x.failures = a.failures := by
    obtain ⟨entries, -, hentries⟩ := bind_eq_ok.1 hx
    rw [← Except.ok.inj hentries]
  have hread := Report.Json.infos?_toJson x
  rw [hclasses] at hread
  have hreadFailures := Report.Json.failures?_toJson x
  rw [hfailures] at hreadFailures
  -- the classes that were kept are linked and scored as all classes were
  have hagain : rebuild? x.toJson = some (.ok a) := by
    rw [rebuild?, hread, hreadFailures]
    exact congrArg some (value_ofInfos_values hinfos)
  refine ⟨x, hx, hread, hreadFailures, hagain, ?_⟩
  rw [hagain, Option.map_some]
  show some (Report.Export.ofAnalysis a >>= fun x => .ok x.toJson) = _
  rw [hx]
  rfl

/-- A cycle, a class that comes twice, and members with and without words in front. -/
theorem rebuild_of_produced_cycle :
    let sources : List SourceFile :=
      [⟨"a.kt", "class A : B()\nclass C : A() { private fun f() }"⟩,
        ⟨"b.kt", "class B : A() { val x }\nclass A : B() { override fun f() }"⟩]
    ∃ a, (ofSources ⟨2, by decide⟩ sources).run.value = .ok a ∧ Produced a ∧
      a.hierarchy.cycles = [⟨["A", "B", "A"]⟩] ∧
      a.hierarchy.classes.values.map (·.file) = ["b.kt", "a.kt", "b.kt"] ∧
      ∃ x, Report.Export.ofAnalysis a = .ok x ∧
        x.toJson.infos? = some a.hierarchy.classes.values ∧
        rebuild? x.toJson = some (.ok a) := by
  intro sources
  have hvalue : (ofSources ⟨2, by decide⟩ sources).run.value.toOption.map (fun a =>
      (a.hierarchy.cycles, a.hierarchy.classes.values.map (·.file))) =
      some ([⟨["A", "B", "A"]⟩], ["b.kt", "a.kt", "b.kt"]) := by
    decide +kernel
  obtain ⟨a, ha⟩ := exists_eq_ok (x := (ofSources ⟨2, by decide⟩ sources).run.value)
    (by decide +kernel)
  rw [ha] at hvalue
  have hvalue := Prod.ext_iff.1 (Option.some.inj hvalue)
  obtain ⟨x, hx, hinfos, -, hagain, -⟩ := rebuild_of_produced (.sources ha)
  exact ⟨a, ha, .sources ha, hvalue.1, hvalue.2, x, hx, hinfos, hagain⟩

end Analysis

end DesignMetrics
