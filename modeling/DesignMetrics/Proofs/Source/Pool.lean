import DesignMetrics.Proofs.Source.Team
import Mathlib.Data.Fintype.EquivFin
import Mathlib.Data.List.Nodup
import Mathlib.Data.List.Perm.Subperm
import Mathlib.Data.List.Range
import Mathlib.Logic.Relation
import Mathlib.Order.WellFounded

/-!
# A team at work

The steps in which a team scans sources side by side. Sources are handed in one after the other,
each for a ticket of its own. A worker that is free takes up the source that has waited longest, and
leaves what it finds beside the ticket. When all sources are handed in, what is found is collected,
in any order, and put into the slot whose position was noted for the ticket.

The order in which workers are done and results are collected is open, and so are the tickets, but
that no ticket is given twice. Whatever they are, the slots hold the classes of the collected
sources and nothing else, the team comes to an end, and what it finds then is what scans one after
the other find.
-/

namespace DesignMetrics.Source

/-- A source that was handed in for a ticket. -/
structure Job where
  ticket : Nat
  source : SourceFile
deriving DecidableEq

/-- What was found in a source that was handed in for a ticket. -/
structure Finding where
  ticket : Nat
  classes : List ClassInfo
deriving DecidableEq

def Job.finding (job : Job) : Finding := ⟨job.ticket, job.source.scan.value⟩

/-- How far a team is: the sources that are still to be handed in with their positions, the position
noted for every ticket, the jobs that no worker has taken up and those that workers are at, what was
found, the slots, and the tickets of what was collected with the positions of its slots. -/
structure Pool where
  unsent : List (SourceFile × Nat)
  positions : List (Nat × Nat) := []
  waiting : List Job := []
  running : List Job := []
  found : List Finding := []
  slots : List (List ClassInfo)
  collected : List (Nat × Nat) := []

namespace Pool

/-- Before the first source is handed in. -/
def start (sources : List SourceFile) : Pool where
  unsent := sources.zipIdx
  slots := sources.map fun _ => []

/-- Nothing is left to do. -/
structure Done (p : Pool) : Prop where
  unsent : p.unsent = []
  waiting : p.waiting = []
  running : p.running = []
  found : p.found = []

/-- The positions of the sources in the order in which what they hold was collected. -/
def order (p : Pool) : List Nat := p.collected.map Prod.snd

/-- The tickets of all jobs, wherever they are. -/
def tickets (p : Pool) : List Nat :=
  p.waiting.map Job.ticket ++ p.running.map Job.ticket ++ p.found.map Finding.ticket ++
    p.collected.map Prod.fst

/-- What is still to be done, a source that is to be handed in being four steps from its slot. -/
def effort (p : Pool) : Nat :=
  4 * p.unsent.length + 3 * p.waiting.length + 2 * p.running.length + p.found.length

end Pool

namespace Team

/-- What can happen next while a team is at work. -/
inductive Step (team : Team) : Pool → Pool → Prop where
  | send {p : Pool} {source : SourceFile} {i ticket : Nat} {rest : List (SourceFile × Nat)}
      (next : p.unsent = (source, i) :: rest) (fresh : ticket ∉ p.positions.map Prod.fst) :
      Step team p { p with
        unsent := rest
        positions := p.positions ++ [(ticket, i)]
        waiting := p.waiting ++ [⟨ticket, source⟩] }
  | take {p : Pool} {job : Job} {rest : List Job} (next : p.waiting = job :: rest)
      (free : p.running.length < team.workers) :
      Step team p { p with waiting := rest, running := job :: p.running }
  | finish {p : Pool} {job : Job} (running : job ∈ p.running) :
      Step team p { p with running := p.running.erase job, found := job.finding :: p.found }
  | collect {p : Pool} {finding : Finding} {i : Nat} (sent : p.unsent = [])
      (found : finding ∈ p.found) (noted : (finding.ticket, i) ∈ p.positions) :
      Step team p { p with
        found := p.found.erase finding
        slots := p.slots.set i finding.classes
        collected := p.collected ++ [(finding.ticket, i)] }

/-- What one step after the other leads to. -/
abbrev Steps (team : Team) : Pool → Pool → Prop := Relation.ReflTransGen team.Step

/-- What a team may find: alone or in a single source, what scans one after the other find, and
otherwise what the slots hold when nothing is left to do. -/
inductive Finds (team : Team) (sources : List SourceFile) : List ClassInfo → Prop where
  | inTurn (few : team.workers = 1 ∨ sources.length ≤ 1) :
      Finds team sources (scanInTurn sources).value.flatten
  | sideBySide {p : Pool} (many : ¬(team.workers = 1 ∨ sources.length ≤ 1))
      (steps : team.Steps (.start sources) p) (done : p.Done) :
      Finds team sources p.slots.flatten

end Team

variable {team : Team} {sources : List SourceFile} {p q : Pool}

/-- One more scan fills one more slot. -/
theorem value_scanIntoSlots_append {i : Nat} {source : SourceFile} (h : sources[i]? = some source)
    (order : List Nat) (slots : List (List ClassInfo)) :
    (scanIntoSlots sources (order ++ [i]) slots).value =
      (scanIntoSlots sources order slots).value.set i source.classes := by
  rw [scanIntoSlots, List.foldlM_append, Log.value_bind, List.foldlM_cons, h]
  rfl

/-! ## What every step preserves -/

namespace Pool

/-- The source was handed in for the ticket, and its position was noted. -/
def Noted (sources : List SourceFile) (p : Pool) (ticket : Nat) (source : SourceFile) : Prop :=
  ∃ i, (ticket, i) ∈ p.positions ∧ sources[i]? = some source

/-- No ticket is given twice or lost, every source is handed in once and in turn, jobs and findings
are those of the sources noted for their tickets, and the slots hold what was collected. -/
structure Sound (sources : List SourceFile) (p : Pool) : Prop where
  nodup : (p.positions.map Prod.fst).Nodup
  tickets : p.tickets.Perm (p.positions.map Prod.fst)
  positions : p.positions.map Prod.snd ++ p.unsent.map Prod.snd = List.range sources.length
  unsent : ∀ e ∈ p.unsent, sources[e.2]? = some e.1
  jobs : ∀ job ∈ p.waiting ++ p.running, p.Noted sources job.ticket job.source
  found : ∀ finding ∈ p.found, ∃ source, p.Noted sources finding.ticket source ∧
    finding.classes = source.classes
  collected : p.collected ⊆ p.positions
  slots : p.slots = (scanSideBySide sources p.order).value

theorem sound_start (sources : List SourceFile) : (start sources).Sound sources where
  nodup := .nil
  tickets := .nil
  positions := by
    rw [start, List.map_nil, List.nil_append, List.zipIdx_map_snd, List.range_eq_range']
  unsent e he := List.mem_zipIdx_iff_getElem?.1 he
  jobs _ h := by cases h
  found _ h := by cases h
  collected := List.nil_subset _
  slots := rfl

theorem Noted.append {ticket : Nat} {source : SourceFile} (h : p.Noted sources ticket source)
    (hq : p.positions ⊆ q.positions) : q.Noted sources ticket source := by
  obtain ⟨i, hi, hsource⟩ := h
  exact ⟨i, hq hi, hsource⟩

namespace Sound

variable (h : p.Sound sources)
include h

theorem send {source : SourceFile} {i ticket : Nat} {rest : List (SourceFile × Nat)}
    (next : p.unsent = (source, i) :: rest) (fresh : ticket ∉ p.positions.map Prod.fst) :
    Sound sources { p with
      unsent := rest
      positions := p.positions ++ [(ticket, i)]
      waiting := p.waiting ++ [⟨ticket, source⟩] } := by
  have hsource : sources[i]? = some source := h.unsent (source, i) (by rw [next]; simp)
  -- what was noted before stays noted
  have hmore : p.positions ⊆ p.positions ++ [(ticket, i)] := List.subset_append_left _ _
  have hpositions := h.positions
  rw [next, List.map_cons] at hpositions
  refine { h with nodup := ?_, tickets := ?_, positions := ?_, unsent := ?_, jobs := ?_,
                  found := ?_, collected := ?_ }
  · rw [List.map_append, List.map_singleton, List.nodup_append]
    refine ⟨h.nodup, by simp, ?_⟩
    intro t ht t' ht' heq
    rw [heq, List.mem_singleton.1 ht'] at ht
    exact fresh ht
  · -- the ticket is counted once more among the jobs and among the positions
    rw [List.perm_iff_count]
    intro t
    have hcount := h.tickets.count_eq t
    simp only [Pool.tickets, List.map_append, List.count_append, List.map_singleton] at hcount ⊢
    omega
  · rw [List.map_append, List.append_assoc]
    exact hpositions
  · intro e he
    exact h.unsent e (by rw [next]; exact List.mem_cons_of_mem _ he)
  · intro job hjob
    rw [List.append_assoc, List.mem_append, List.mem_append, List.mem_singleton] at hjob
    rcases hjob with hjob | rfl | hjob
    · exact (h.jobs job (List.mem_append_left _ hjob)).append hmore
    · exact ⟨i, by simp, hsource⟩
    · exact (h.jobs job (List.mem_append_right _ hjob)).append hmore
  · intro finding hfinding
    obtain ⟨source, hnoted, hclasses⟩ := h.found finding hfinding
    exact ⟨source, hnoted.append hmore, hclasses⟩
  · exact fun e he => hmore (h.collected he)

theorem take {job : Job} {rest : List Job} (next : p.waiting = job :: rest) :
    Sound sources { p with waiting := rest, running := job :: p.running } := by
  refine { h with tickets := ?_, jobs := ?_ }
  · rw [List.perm_iff_count]
    intro t
    have hcount := h.tickets.count_eq t
    simp only [Pool.tickets, next, List.map_cons, List.count_append, List.count_cons] at hcount ⊢
    omega
  · intro job' hjob'
    refine h.jobs job' ?_
    rw [next]
    exact List.perm_middle.mem_iff.1 hjob'

theorem finish {job : Job} (running : job ∈ p.running) :
    Sound sources { p with
      running := p.running.erase job, found := job.finding :: p.found } := by
  refine { h with tickets := ?_, jobs := ?_, found := ?_ }
  · rw [List.perm_iff_count]
    intro t
    have hcount := h.tickets.count_eq t
    have herase := ((List.perm_cons_erase running).map Job.ticket).count_eq t
    simp only [Pool.tickets, List.map_cons, List.count_append, List.count_cons, Job.finding]
      at hcount herase ⊢
    omega
  · intro job' hjob'
    refine h.jobs job' ?_
    rw [List.mem_append] at hjob' ⊢
    exact hjob'.imp_right List.mem_of_mem_erase
  · rw [List.forall_mem_cons]
    obtain hnoted := h.jobs job (List.mem_append_right _ running)
    exact ⟨⟨job.source, hnoted, rfl⟩, h.found⟩

theorem collect {finding : Finding} {i : Nat} (found : finding ∈ p.found)
    (noted : (finding.ticket, i) ∈ p.positions) :
    Sound sources { p with
      found := p.found.erase finding
      slots := p.slots.set i finding.classes
      collected := p.collected ++ [(finding.ticket, i)] } := by
  refine { h with tickets := ?_, found := ?_, collected := ?_, slots := ?_ }
  · rw [List.perm_iff_count]
    intro t
    have hcount := h.tickets.count_eq t
    have herase := ((List.perm_cons_erase found).map Finding.ticket).count_eq t
    simp only [Pool.tickets, List.map_cons, List.map_append, List.map_nil, List.count_append,
      List.count_cons, List.count_nil] at hcount herase ⊢
    omega
  · intro finding' hfinding'
    exact h.found finding' (List.mem_of_mem_erase hfinding')
  · rw [List.append_subset]
    exact ⟨h.collected, by simpa using noted⟩
  · obtain ⟨source, ⟨j, hj, hsource⟩, hclasses⟩ := h.found finding found
    -- the position noted for a ticket is the only one
    obtain rfl : i = j := by
      have hinj := List.inj_on_of_nodup_map h.nodup noted hj rfl
      exact congrArg Prod.snd hinj
    rw [Pool.order, List.map_append, scanSideBySide]
    refine Eq.trans ?_ (value_scanIntoSlots_append hsource _ _).symm
    rw [h.slots, hclasses]
    rfl

theorem step (hstep : team.Step p q) : q.Sound sources := by
  cases hstep with
  | send next fresh => exact h.send next fresh
  | take next _ => exact h.take next
  | finish running => exact h.finish running
  | collect _ found noted => exact h.collect found noted

end Sound

/-- What holds before the first source is handed in and is preserved by every step. -/
theorem sound_of_steps (h : team.Steps (.start sources) p) : p.Sound sources := by
  induction h with
  | refl => exact sound_start sources
  | tail _ hstep ih => exact ih.step hstep

/-! ## Slots -/

namespace Sound

variable (h : p.Sound sources)
include h

/-- The slots of collected sources hold their classes and all others are empty. -/
theorem getElem?_slots (i : Nat) :
    p.slots[i]? = if i ∈ p.order then (sources.map SourceFile.classes)[i]?
      else (sources.map fun _ => [])[i]? := by
  rw [h.slots, scanSideBySide, getElem?_scanIntoSlots p.order (List.length_map _)]

/-- In the end every source was collected once. -/
theorem order_perm (hdone : p.Done) : p.order.Perm (List.range sources.length) := by
  have htickets := h.tickets
  rw [Pool.tickets, hdone.waiting, hdone.running, hdone.found] at htickets
  have hnodup : p.collected.Nodup := .of_map Prod.fst (htickets.nodup_iff.2 h.nodup)
  have hlength : p.positions.length ≤ p.collected.length := by
    simpa using htickets.length_eq.ge
  have hcollected : p.collected.Perm p.positions :=
    (hnodup.subperm h.collected).perm_of_length_le hlength
  have hpositions := h.positions
  rw [hdone.unsent, List.map_nil, List.append_nil] at hpositions
  rw [← hpositions]
  exact hcollected.map Prod.snd

theorem slots_eq (hdone : p.Done) : p.slots = sources.map SourceFile.classes := by
  rw [h.slots]
  apply value_scanSideBySide
  intro i hi
  exact (h.order_perm hdone).mem_iff.2 (List.mem_range.2 hi)

/-! ## Coming to an end -/

/-- As long as something is left to do, something can happen. -/
theorem done_or_exists_step (team : Team) : p.Done ∨ ∃ q, team.Step p q := by
  -- sources are handed in first, then jobs are finished, taken, and collected
  cases hunsent : p.unsent with
  | cons e rest =>
    obtain ⟨ticket, hfresh⟩ := Infinite.exists_notMem_finset (p.positions.map Prod.fst).toFinset
    rw [List.mem_toFinset] at hfresh
    exact .inr ⟨_, .send hunsent hfresh⟩
  | nil =>
    cases hrunning : p.running with
    | cons job _ =>
      have hmem : job ∈ p.running := by rw [hrunning]; simp
      exact .inr ⟨_, .finish hmem⟩
    | nil =>
      cases hwaiting : p.waiting with
      | cons job _ =>
        have hfree : p.running.length < team.workers := by
          rw [hrunning]
          exact team.workers_pos
        exact .inr ⟨_, .take hwaiting hfree⟩
      | nil =>
        cases hfound : p.found with
        | cons finding _ =>
          have hmem : finding ∈ p.found := by rw [hfound]; simp
          obtain ⟨_, ⟨i, hi, -⟩, -⟩ := h.found finding hmem
          exact .inr ⟨_, .collect hunsent hmem hi⟩
        | nil => exact .inl ⟨hunsent, hwaiting, hrunning, hfound⟩

end Sound

end Pool

namespace Team

/-- Every step leaves less to do. -/
theorem Step.effort_lt (h : team.Step p q) : q.effort < p.effort := by
  cases h with
  | send next _ =>
    simp only [Pool.effort, next, List.length_cons, List.length_append, List.length_nil]
    omega
  | take next _ =>
    simp only [Pool.effort, next, List.length_cons]
    omega
  | finish running =>
    have herase := List.length_erase_add_one running
    simp only [Pool.effort, List.length_cons]
    omega
  | collect _ found _ =>
    have herase := List.length_erase_add_one found
    simp only [Pool.effort]
    omega

/-- No team is at work for ever. -/
theorem wellFounded_step (team : Team) : WellFounded fun q p => team.Step p q :=
  Subrelation.wf Step.effort_lt (InvImage.wf Pool.effort Nat.lt_wfRel.wf)

end Team

/-! ## Every order -/

/-- What is found in the source at a position, with the position for its ticket. -/
def Finding.atPosition (sources : List SourceFile) (i : Nat) : Finding :=
  ⟨i, (sources[i]?.map SourceFile.classes).getD []⟩

theorem Job.map_finding_zipIdx (sources : List SourceFile) :
    sources.zipIdx.map (fun e => Job.finding ⟨e.2, e.1⟩) =
      (List.range sources.length).map (Finding.atPosition sources) := by
  have hpositions : List.range sources.length = sources.zipIdx.map Prod.snd := by
    rw [List.zipIdx_map_snd, List.range_eq_range']
  rw [hpositions, List.map_map]
  apply List.map_congr_left
  intro e he
  have hsource : sources[e.2]? = some e.1 := List.mem_zipIdx_iff_getElem?.1 he
  rw [Function.comp, Finding.atPosition, hsource]
  rfl

/-- All sources are scanned and nothing is collected. -/
def Pool.scanned (sources : List SourceFile) : Pool where
  unsent := []
  positions := sources.zipIdx.map fun e => (e.2, e.2)
  found := ((List.range sources.length).map (Finding.atPosition sources)).reverse
  slots := sources.map fun _ => []

namespace Team

/-- All sources can be handed in, each with its position for its ticket. -/
theorem steps_send (team : Team) (p : Pool) (hnodup : (p.unsent.map Prod.snd).Nodup)
    (hfresh : ∀ e ∈ p.unsent, e.2 ∉ p.positions.map Prod.fst) :
    team.Steps p { p with
      unsent := []
      positions := p.positions ++ p.unsent.map fun e => (e.2, e.2)
      waiting := p.waiting ++ p.unsent.map fun e => ⟨e.2, e.1⟩ } := by
  generalize hunsent : p.unsent = unsent at hnodup hfresh ⊢
  induction unsent generalizing p with
  | nil =>
    rw [List.map_nil, List.map_nil, List.append_nil, List.append_nil, ← hunsent]
  | cons e unsent ih =>
    rw [List.map_cons, List.nodup_cons] at hnodup
    rw [List.forall_mem_cons] at hfresh
    refine .head (.send hunsent hfresh.1) ?_
    -- no position comes twice, so that of the first source is no ticket of the others
    have hrest : ∀ d ∈ unsent, d.2 ∉ (p.positions ++ [(e.2, e.2)]).map Prod.fst := by
      intro d hd
      rw [List.map_append, List.mem_append, not_or]
      refine ⟨hfresh.2 d hd, ?_⟩
      intro heq
      rw [List.map_singleton, List.mem_singleton] at heq
      exact hnodup.1 (List.mem_map.2 ⟨d, hd, heq⟩)
    have hsteps := ih { p with
      unsent := unsent
      positions := p.positions ++ [(e.2, e.2)]
      waiting := p.waiting ++ [⟨e.2, e.1⟩] } rfl hnodup.2 hrest
    simpa only [List.append_assoc, List.singleton_append, List.map_cons] using hsteps

/-- A single worker can do all jobs, one after the other. -/
theorem steps_work (team : Team) (p : Pool) (hrunning : p.running = []) :
    team.Steps p { p with
      waiting := []
      running := []
      found := (p.waiting.map Job.finding).reverse ++ p.found } := by
  generalize hwaiting : p.waiting = waiting
  induction waiting generalizing p with
  | nil =>
    cases p
    cases hrunning
    cases hwaiting
    exact .refl
  | cons job waiting ih =>
    -- the job is taken and finished before the others
    have hfree : p.running.length < team.workers := by
      rw [hrunning]
      exact team.workers_pos
    have htake : team.Step p { p with waiting := waiting, running := [job] } := by
      simpa only [hrunning] using Step.take hwaiting hfree
    have hfinish : team.Step { p with waiting := waiting, running := [job] }
        { p with waiting := waiting, running := [], found := job.finding :: p.found } := by
      have hstep : team.Step { p with waiting := waiting, running := [job] } _ :=
        .finish List.mem_cons_self
      simpa only [List.erase_cons_head] using hstep
    refine .head htake (.head hfinish ?_)
    rw [List.map_cons, List.reverse_cons, List.append_assoc]
    exact ih _ rfl rfl

/-- What is found can be collected in any order. -/
theorem steps_collect (team : Team) (p : Pool) (hunsent : p.unsent = []) {findings : List Finding}
    (hperm : findings.Perm p.found)
    (hnoted : ∀ finding ∈ findings, (finding.ticket, finding.ticket) ∈ p.positions) :
    ∃ slots, team.Steps p { p with
      found := []
      slots
      collected :=
        p.collected ++ findings.map fun finding => (finding.ticket, finding.ticket) } := by
  induction findings generalizing p with
  | nil =>
    rw [List.map_nil, List.append_nil, hperm.nil_eq]
    exact ⟨p.slots, .refl⟩
  | cons finding findings ih =>
    rw [List.forall_mem_cons] at hnoted
    have hmem : finding ∈ p.found := hperm.subset List.mem_cons_self
    have hrest : findings.Perm (p.found.erase finding) := by
      simpa using hperm.erase finding
    obtain ⟨slots, hsteps⟩ := ih { p with
      found := p.found.erase finding
      slots := p.slots.set finding.ticket finding.classes
      collected := p.collected ++ [(finding.ticket, finding.ticket)] } hunsent hrest hnoted.2
    refine ⟨slots, .head (.collect hunsent hmem hnoted.1) ?_⟩
    rw [List.map_cons]
    simpa only [List.append_assoc, List.singleton_append] using hsteps

theorem steps_scanned (team : Team) (sources : List SourceFile) :
    team.Steps (.start sources) (.scanned sources) := by
  have hnodup : (sources.zipIdx.map Prod.snd).Nodup := by
    rw [List.zipIdx_map_snd]
    exact List.nodup_range'
  have hsend := team.steps_send (.start sources) hnodup (by simp [Pool.start])
  have hsteps := hsend.trans (team.steps_work _ rfl)
  have hfound : ((sources.zipIdx.map fun e => (⟨e.2, e.1⟩ : Job)).map Job.finding).reverse =
      ((List.range sources.length).map (Finding.atPosition sources)).reverse := by
    rw [List.map_map, ← Job.map_finding_zipIdx]
    rfl
  simpa only [Pool.start, Pool.scanned, List.nil_append, List.append_nil, hfound] using hsteps

/-- The sources can be collected in any order of their positions. -/
theorem exists_steps_of_perm (team : Team) {order : List Nat}
    (horder : order.Perm (List.range sources.length)) :
    ∃ p, team.Steps (.start sources) p ∧ p.Done ∧ p.order = order := by
  have hfound : (order.map (Finding.atPosition sources)).Perm (Pool.scanned sources).found :=
    (horder.map (Finding.atPosition sources)).trans (List.reverse_perm _).symm
  have hnoted : ∀ finding ∈ order.map (Finding.atPosition sources),
      (finding.ticket, finding.ticket) ∈ (Pool.scanned sources).positions := by
    intro finding hfinding
    obtain ⟨i, hi, rfl⟩ := List.mem_map.1 hfinding
    have hlt : i < sources.length := List.mem_range.1 (horder.subset hi)
    exact List.mem_map.2 ⟨(sources[i], i), List.mem_zipIdx_iff_getElem?.2 (by simp [hlt]), rfl⟩
  obtain ⟨slots, hcollect⟩ := team.steps_collect (.scanned sources) rfl hfound hnoted
  refine ⟨_, (team.steps_scanned sources).trans hcollect, ⟨rfl, rfl, rfl, rfl⟩, ?_⟩
  show (List.map _ (order.map (Finding.atPosition sources))).map Prod.snd = order
  rw [List.map_map, List.map_map]
  exact List.map_id order

end Team

/-! ## The order of completion -/

/-- However the scans of a team overlap, and in whatever order they are completed and collected, the
team finds the classes of all sources in the order of the sources, which is what scans one after the
other find. At any time the slots of collected sources hold their classes and all others are empty.
The team always comes to an end, and sources can be collected in every order. -/
theorem Team.finds_in_any_order (team : Team) (sources : List SourceFile) :
    (∀ found, team.Finds sources found ↔ found = sources.flatMap SourceFile.classes) ∧
    (team.scan sources).value = sources.flatMap SourceFile.classes ∧
    (scanInTurn sources).value.flatten = sources.flatMap SourceFile.classes ∧
    (∀ p, team.Steps (.start sources) p →
      (∀ i : Nat, p.slots[i]? = if i ∈ p.order then (sources.map SourceFile.classes)[i]?
        else (sources.map fun _ => [])[i]?) ∧
      p.slots = (scanSideBySide sources p.order).value ∧
      (p.Done ∨ ∃ q, team.Step p q)) ∧
    (WellFounded fun q p => team.Step p q) ∧
    ∀ order : List Nat, order.Perm (List.range sources.length) →
      ∃ p, team.Steps (.start sources) p ∧ p.Done ∧ p.order = order := by
  have hinTurn : (scanInTurn sources).value.flatten = sources.flatMap SourceFile.classes := by
    rw [value_scanInTurn]
    rfl
  -- all runs that come to an end fill the slots in the same way
  have hend : ∀ p, team.Steps (.start sources) p → p.Done →
      p.slots.flatten = sources.flatMap SourceFile.classes := by
    intro p hsteps hdone
    rw [(Pool.sound_of_steps hsteps).slots_eq hdone]
    rfl
  refine ⟨?_, team.value_scan sources, hinTurn, ?_, team.wellFounded_step,
    fun order => team.exists_steps_of_perm⟩
  · intro found
    constructor
    · rintro (_ | ⟨-, hsteps, hdone⟩)
      · exact hinTurn
      · exact hend _ hsteps hdone
    · rintro rfl
      -- such a team scans in turn, and any other can finish in the order of the sources
      by_cases hfew : team.workers = 1 ∨ sources.length ≤ 1
      · rw [← hinTurn]
        exact .inTurn hfew
      · obtain ⟨p, hsteps, hdone, -⟩ :=
          team.exists_steps_of_perm (.refl (List.range sources.length))
        rw [← hend p hsteps hdone]
        exact .sideBySide hfew hsteps hdone
  · intro p hsteps
    have hsound := Pool.sound_of_steps hsteps
    exact ⟨hsound.getElem?_slots, hsound.slots, hsound.done_or_exists_step team⟩

end DesignMetrics.Source
