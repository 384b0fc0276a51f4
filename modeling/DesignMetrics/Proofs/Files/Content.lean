import DesignMetrics.Proofs.Files.Walk

/-!
# The content of a file

What a file holds decides nothing but what is read from it. With other bytes in one file, every walk
ends where it ended before, and the same names stand in the same directories.
-/

namespace DesignMetrics.Files
namespace Tree

/-- What stands at a location when the file at `f` holds other bytes. -/
def refill (f : Location) (bytes : List UInt8) (l : Location) : Node → Node
  | .file old => .file (if l = f then bytes else old)
  | n => n

/-- Where a walk ends when the file at `f` holds other bytes. -/
def Place.refill (f : Location) (bytes : List UInt8) : Place → Place
  | .taken l n => .taken l (Tree.refill f bytes l n)
  | .free l => .free l

variable {t : Tree} {f l here : Location} {old bytes : List UInt8} {n : Node} {p : Path}
  {purpose : Purpose} {links : Nat} {names : List String}

/-- Nothing but the file itself is refilled. -/
theorem refill_of_ne (h : l ≠ f) : refill f bytes l n = n := by
  cases n with
  | file _ => exact congrArg Node.file (if_neg h)
  | _ => rfl

/-- A refilled directory was a directory, and no other node becomes one. -/
theorem refill_eq_directory_iff : refill f bytes l n = .directory ↔ n = .directory := by
  cases n <;> simp [refill]

theorem lookup_map_refill (es : List (Location × Node)) :
    (es.map fun e => (e.1, refill f bytes e.1 e.2)).lookup l =
      (es.lookup l).map (refill f bytes l) := by
  induction es with
  | nil => rfl
  | cons e es ih =>
    rw [List.map_cons, List.lookup_cons, List.lookup_cons, ih]
    by_cases h : l = e.1
    · rw [h]
      simp
    · rw [beq_false_of_ne h]

section Put

variable (hnodup : (t.entries.map Prod.fst).Nodup) (hf : t.node? f = some (.file old))
include hnodup hf

/-! ## What stands where -/

/-- A file that is there keeps its place among the entries. -/
theorem entries_put :
    (t.put f (.file bytes)).entries = t.entries.map fun e => (e.1, refill f bytes e.1 e.2) := by
  have hne : f ≠ [] := by
    rintro rfl
    cases hf
  have hmem := mem_entries_of_node? hne hf
  rw [node?, if_neg hne] at hf
  rw [put, if_pos (by rw [hf]; rfl)]
  refine List.map_congr_left fun e he => ?_
  split
  · next heq =>
    obtain rfl : e = (f, .file old) := List.inj_on_of_nodup_map hnodup he hmem heq
    exact Prod.ext rfl (congrArg Node.file (if_pos rfl).symm)
  · next hne => exact Prod.ext rfl (refill_of_ne hne).symm

/-- At every location stands what stood there, refilled if it is the file. -/
theorem node?_put : (t.put f (.file bytes)).node? l = (t.node? l).map (refill f bytes l) := by
  unfold node?
  split
  · rfl
  · rw [entries_put hnodup hf, lookup_map_refill]

/-- At the location of the file stand the new bytes. -/
theorem node?_put_self : (t.put f (.file bytes)).node? f = some (.file bytes) := by
  rw [node?_put hnodup hf, hf]
  exact congrArg (some ∘ Node.file) (if_pos rfl)

theorem namesIn_put : (t.put f (.file bytes)).namesIn l = t.namesIn l := by
  rw [namesIn, namesIn, entries_put hnodup hf, List.filterMap_map]
  rfl

/-- No link comes or goes. -/
theorem linksIn_put : (t.put f (.file bytes)).linksIn l = t.linksIn l := by
  rw [linksIn, linksIn, namesIn_put hnodup hf]
  congr 1
  funext name
  rw [node?_put hnodup hf]
  rcases t.node? (l ++ [name]) with _ | n
  · rfl
  · cases n <;> rfl

theorem directoriesBelow_put :
    (t.put f (.file bytes)).directoriesBelow l = t.directoriesBelow l := by
  rw [directoriesBelow, directoriesBelow, entries_put hnodup hf, List.filterMap_map]
  simp only [Function.comp_def, refill_eq_directory_iff]

/-! ## Walks -/

/-- A walk that only looks ends at the same place, whatever is in a file on the way. -/
theorem walkWithin_put (hp : purpose ≠ .writing) :
    (t.put f (.file bytes)).walkWithin purpose links here names =
      (t.walkWithin purpose links here names).map (Place.refill f bytes) := by
  -- a walk asks of what it meets only whether it is a directory or a link, and of a link the target
  induction links generalizing here names with
  | zero => rfl
  | succ links ih =>
    rw [walkWithin, walkWithin]
    induction names generalizing here with
    | nil => rfl
    | cons name names ihnames =>
      by_cases hdot : name = "." ∨ name = ""
      · rw [stepAlong_skip hdot, stepAlong_skip hdot, ihnames]
      by_cases hdots : name = ".."
      · rw [hdots, stepAlong_up, stepAlong_up, ihnames]
      rw [stepAlong_name hdot hdots hp, stepAlong_name hdot hdots hp, node?_put hnodup hf]
      by_cases hlong : longestName < name.utf8ByteSize
      · rw [if_pos hlong, if_pos hlong]
        rfl
      rw [if_neg hlong, if_neg hlong]
      rcases t.node? (here ++ [name]) with _ | n
      · show (if names = [] then _ else _) = Except.map _ (if names = [] then _ else _)
        split <;> rfl
      cases n with
      | directory => exact ihnames
      | link target =>
        show (if names = [] ∧ purpose = .naming then _ else _) = Except.map _ (if _ then _ else _)
        split
        · rfl
        · exact ih
      | _ =>
        show (if names = [] then _ else _) = Except.map _ (if names = [] then _ else _)
        split <;> rfl

/-- A path leads where it led. -/
theorem walk_put (hp : purpose ≠ .writing) :
    (t.put f (.file bytes)).walk purpose p = (t.walk purpose p).map (Place.refill f bytes) := by
  unfold walk
  rw [walkWithin_put hnodup hf hp]
  split
  · rfl
  · split
    · rfl
    · rcases t.walkWithin purpose 41 _ p.names with _ | _ <;> rfl

/-! ## What paths lead to -/

/-- What a path leads to has at most other bytes. -/
theorem exists_find?_put :
    ∃ l, (t.put f (.file bytes)).find? p = (t.find? p).map (Option.map (refill f bytes l)) := by
  unfold find? find
  rw [walk_put hnodup hf (by decide)]
  rcases t.walk .seeing p with e | (⟨l, n⟩ | l)
  · refine ⟨[], ?_⟩
    cases e with
    | blocked o path => cases o <;> rfl
    | _ => rfl
  · exact ⟨l, rfl⟩
  · exact ⟨[], rfl⟩

/-- A path leads to a directory or not, as before. -/
theorem isDirectory_put : (t.put f (.file bytes)).isDirectory p = t.isDirectory p := by
  obtain ⟨l, hl⟩ := exists_find?_put (p := p) hnodup hf
  unfold isDirectory
  rw [hl]
  rcases t.find? p with e | (_ | n)
  · rfl
  · rfl
  · refine congrArg Except.ok (decide_eq_decide.2 ?_)
    show some (refill f bytes l n) = some .directory ↔ some n = some .directory
    rw [Option.some.injEq, Option.some.injEq, refill_eq_directory_iff]

theorem contains_put : (t.put f (.file bytes)).contains p = t.contains p := by
  obtain ⟨l, hl⟩ := exists_find?_put (p := p) hnodup hf
  unfold contains
  rw [hl]
  rcases t.find? p with e | (_ | n) <;> rfl

/-- A directory shows the same names. -/
theorem list_put : (t.put f (.file bytes)).list p = t.list p := by
  unfold list
  rw [walk_put hnodup hf (by decide)]
  rcases t.walk .seeing p with e | (⟨l, n⟩ | l)
  · rfl
  · cases n with
    | directory =>
      show Except.ok (l, (t.put f (.file bytes)).namesIn l) = .ok (l, t.namesIn l)
      rw [namesIn_put hnodup hf]
    | _ => rfl
  · rfl

/-- Links can be looked at, or cannot, as before. -/
theorem inspect_put {links : List String} :
    (t.put f (.file bytes)).inspect p links = t.inspect p links := by
  unfold inspect
  congr 1
  funext name
  obtain ⟨l, hl⟩ := exists_find?_put (p := p.append [name]) hnodup hf
  rw [hl]
  rcases t.find? (p.append [name]) with e | _
  · cases e <;> rfl
  · rfl

/-! ## Reading -/

/-- A path that does not lead to the file is read as before. -/
theorem readText_put (h : ∀ n, t.walk .seeing p ≠ .ok (.taken f n)) :
    (t.put f (.file bytes)).readText p = t.readText p := by
  have hfind : (t.put f (.file bytes)).find p = t.find p := by
    unfold find
    rw [walk_put hnodup hf (by decide)]
    rcases hwalk : t.walk .seeing p with e | (⟨l, n⟩ | l)
    · rfl
    · have hl : l ≠ f := by
        rintro rfl
        exact h n hwalk
      exact congrArg Except.ok (refill_of_ne hl)
    · rfl
  unfold readText readBytes
  rw [hfind]

end Put

/-- What is read where a walk ends at a file is the text of its bytes. -/
theorem exists_decode_of_walk (hf : t.node? f = some (.file bytes))
    (hwalk : t.walk .seeing p = .ok (.taken f n)) {cs : List Char} (h : t.readText p = .ok cs) :
    ∃ cs', Text.Utf8.decode bytes = .ok cs' ∧ cs = Text.unifyNewlines cs' := by
  have hfind : t.find p = .ok n := by rw [find, hwalk]
  unfold readText readBytes at h
  rw [hfind] at h
  obtain rfl | hn := node?_of_walkWithin (walkWithin_of_walk hwalk).2
  · cases h
  · obtain rfl : Node.file bytes = n := Option.some.inj (hf.symm.trans hn)
    simp only at h
    split at h
    · cases h
    · next cs' hdecode => exact ⟨cs', hdecode, (Except.ok.inj h).symm⟩

end Tree
end DesignMetrics.Files
