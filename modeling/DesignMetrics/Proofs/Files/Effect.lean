import DesignMetrics.Proofs.Except
import DesignMetrics.Proofs.Files.Walk
import DesignMetrics.Proofs.OrderedMap

/-!
# What file operations change

Making directories adds directories and nothing else, also where it fails halfway. Writing a file
changes what stands at one location, the one that the path leads to, or nothing at all if a device
takes what is written.
-/

namespace DesignMetrics.Files
namespace Tree

variable {t t' : Tree} {p : Path} {l here : Location} {n n' : Node} {bytes : List UInt8}
  {names : List String} {links : Nat} {place : Place}

/-! ## Putting something somewhere -/

theorem lookup_map_put (es : List (Location × Node)) (l' : Location) :
    (es.map fun e => if e.1 = l then (l, n) else e).lookup l' =
      if l' = l then (es.lookup l).map fun _ => n else es.lookup l' := by
  induction es with
  | nil => simp
  | cons e es ih =>
    rw [List.map_cons, OrderedMap.lookup_cons_eq_ite, ih, OrderedMap.lookup_cons_eq_ite,
      OrderedMap.lookup_cons_eq_ite]
    by_cases hplace : e.1 = l
    · by_cases hl' : l' = l <;> simp [hplace, hl']
    · have hplace' : ¬l = e.1 := fun heq => hplace heq.symm
      by_cases hl' : l' = l <;> simp [hplace, hplace', hl']

/-- What is put at a location stands there, and everywhere else stands what stood there. -/
theorem node?_put_eq (hl : l ≠ []) (l' : Location) :
    (t.put l n).node? l' = if l' = l then some n else t.node? l' := by
  unfold node? put
  by_cases htop : l' = []
  · rw [if_pos htop, if_pos htop, if_neg]
    rintro rfl
    exact hl htop
  rw [if_neg htop, if_neg htop]
  split
  · next htaken =>
    rcases Option.isSome_iff_exists.1 htaken with ⟨old, hold⟩
    rw [lookup_map_put, hold]
    rfl
  · next hfree =>
    have hnone : t.entries.lookup l = none := Option.not_isSome_iff_eq_none.1 hfree
    rw [List.lookup_append, OrderedMap.lookup_cons_eq_ite]
    by_cases hl' : l' = l
    · rw [if_pos hl', if_pos hl', hl', hnone]
      rfl
    · rw [if_neg hl', if_neg hl']
      exact Option.or_none

/-! ## Walks that write -/

/-- What is no way to anything else: a file or a device. -/
def IsEnd (n : Node) : Prop :=
  n ≠ .directory ∧ ∀ target, n ≠ .link target

/-- A location where a file can stand: if anything is there, it is no way to anything else. -/
def HoldsNoWay (t : Tree) (l : Location) : Prop :=
  l ≠ [] ∧ ∀ n, t.node? l = some n → IsEnd n

/-- A name that is looked up. -/
structure IsLookedUp (name : String) : Prop where
  no_dot : ¬(name = "." ∨ name = "")
  no_dots : name ≠ ".."
  short : ¬longestName < name.utf8ByteSize

/-- What a walk that writes can do with the next name. -/
inductive WritingStep (t : Tree) (follow : Location → List String → Except Obstacle Place)
    (here : Location) (name : String) (rest : List String) (place : Place) : Prop
  | skip (dot : name = "." ∨ name = "") (next : t.stepAlong .writing follow here rest = .ok place)
  | up (dots : name = "..") (next : t.stepAlong .writing follow here.dropLast rest = .ok place)
  | into (looked : IsLookedUp name) (stands : t.node? (here ++ [name]) = some .directory)
    (next : t.stepAlong .writing follow (here ++ [name]) rest = .ok place)
  | along {target : String} (looked : IsLookedUp name)
    (stands : t.node? (here ++ [name]) = some (.link target))
    (next : follow (if target.toList.head? = some '/' then [] else here)
      (targetNames target ++ rest) = .ok place)
  | free (looked : IsLookedUp name) (stands : t.node? (here ++ [name]) = none) (last : rest = [])
    (place_eq : place = .free (here ++ [name]))
  | taken {n : Node} (looked : IsLookedUp name) (stands : t.node? (here ++ [name]) = some n)
    (ends : IsEnd n) (last : rest = []) (place_eq : place = .taken (here ++ [name]) n)

/-- A walk that writes and does not fail takes one of these steps. -/
theorem writingStep_of_stepAlong {follow : Location → List String → Except Obstacle Place}
    {name : String} {rest : List String}
    (h : t.stepAlong .writing follow here (name :: rest) = .ok place) :
    WritingStep t follow here name rest place := by
  rw [stepAlong] at h
  simp only [Bool.or_eq_true, decide_eq_true_eq] at h
  split at h
  · next hdot => exact .skip hdot h
  next hdot =>
  split at h
  · next hdots => exact .up hdots h
  next hdots =>
  split at h
  · cases h
  split at h
  · cases h
  next hshort =>
  -- from here on the name is looked up
  have hname : IsLookedUp name := ⟨hdot, hdots, hshort⟩
  split at h
  · next hn =>
    split at h
    · next hrest => exact .free hname hn (List.isEmpty_iff.1 hrest) (Except.ok.inj h).symm
    · cases h
  · next hn => exact .into hname hn h
  · next target hn =>
    rw [if_neg (by simp)] at h
    exact .along hname hn h
  · next n hdirectory hlink hn =>
    split at h
    · next hrest =>
      have hend : IsEnd n := ⟨hdirectory, hlink⟩
      exact .taken hname hn hend (List.isEmpty_iff.1 hrest) (Except.ok.inj h).symm
    · cases h

/-- A place at a location is one for a file unless a directory is there. -/
inductive Admits (l : Location) : Place → Prop
  | free : Admits l (.free l)
  | taken {n : Node} (hn : n ≠ .directory) : Admits l (.taken l n)

/-- A walk that writes comes to a directory or to where a file can stand. -/
theorem Admits.holdsNoWay (hplace : Admits l place)
    (h : t.walkWithin .writing links here names = .ok place) : t.HoldsNoWay l := by
  -- by the links that are left, and between two of them by the names
  induction links generalizing here names with
  | zero => cases h
  | succ links ih =>
    rw [walkWithin] at h
    induction names generalizing here with
    | nil =>
      cases h
      cases hplace with
      | taken hn => exact absurd rfl hn
    | cons name names ihnames =>
      cases writingStep_of_stepAlong h with
      | skip _ next => exact ihnames next
      | up _ next => exact ihnames next
      | into _ _ next => exact ihnames next
      | along _ _ next => exact ih next
      | free _ stands _ place_eq =>
        subst place_eq
        cases hplace
        refine ⟨by simp, ?_⟩
        intro n hn
        rw [stands] at hn
        cases hn
      | taken _ stands ends _ place_eq =>
        subst place_eq
        cases hplace
        refine ⟨by simp, ?_⟩
        intro n' hn'
        rw [stands] at hn'
        cases hn'
        exact ends

/-- Where a walk that writes ends, one that sees comes to what stands there afterwards. -/
theorem Admits.walkWithin_seeing (hplace : Admits l place)
    (hsame : ∀ l' ≠ l, t'.node? l' = t.node? l') (hn : t'.node? l = some n') (hend : IsEnd n')
    (h : t.walkWithin .writing links here names = .ok place) :
    t'.walkWithin .seeing links here names = .ok (.taken l n') := by
  have hl := hplace.holdsNoWay h
  -- no way leads through the location, so nothing that was met before has changed
  have hkept : ∀ l' n, t.node? l' = some n → ¬IsEnd n → t'.node? l' = some n := by
    intro l' n hstands hway
    rw [hsame l', hstands]
    rintro rfl
    exact hway (hl.2 n hstands)
  have hlast : ∀ (links : Nat) (here : Location) (name : String), IsLookedUp name →
      l = here ++ [name] →
      t'.stepAlong .seeing (t'.walkWithin .seeing links) here [name] = .ok (.taken l n') := by
    intro links here name hname hlocation
    rw [stepAlong_name hname.no_dot hname.no_dots (by decide), if_neg hname.short, ← hlocation, hn]
    cases n' with
    | directory => exact absurd rfl hend.1
    | link target => exact absurd rfl (hend.2 target)
    | file bytes => rfl
    | device kind => rfl
  induction links generalizing here names with
  | zero => cases h
  | succ links ih =>
    rw [walkWithin] at h ⊢
    induction names generalizing here with
    | nil =>
      cases h
      cases hplace with
      | taken hn => exact absurd rfl hn
    | cons name names ihnames =>
      cases writingStep_of_stepAlong h with
      | skip dot next =>
        rw [stepAlong_skip dot]
        exact ihnames next
      | up dots next =>
        rw [dots, stepAlong_up]
        exact ihnames next
      | into hname stands next =>
        have hdirectory : ¬IsEnd .directory := fun hend => hend.1 rfl
        rw [stepAlong_name hname.no_dot hname.no_dots (by decide), if_neg hname.short,
          hkept _ _ stands hdirectory]
        exact ihnames next
      | @along target hname stands next =>
        have hlink : ¬IsEnd (.link target) := fun hend => hend.2 target rfl
        rw [stepAlong_name hname.no_dot hname.no_dots (by decide), if_neg hname.short,
          hkept _ _ stands hlink]
        show (if names = [] ∧ Purpose.seeing = .naming then _ else _) = _
        rw [if_neg (by simp)]
        exact ih next
      | free hname stands last place_eq =>
        subst place_eq last
        cases hplace
        exact hlast links here name hname rfl
      | taken hname stands ends last place_eq =>
        subst place_eq last
        cases hplace
        exact hlast links here name hname rfl

/-! ## Making directories -/

/-- At a location stands what stood there, or a directory where nothing was. -/
def KeepsAt (t t' : Tree) (l : Location) : Prop :=
  t'.node? l = t.node? l ∨ t.node? l = none ∧ t'.node? l = some .directory

/-- A tree that has more directories than another, and is the same everywhere else. -/
def AddsDirectories (t t' : Tree) : Prop :=
  ∀ l, t.KeepsAt t' l

theorem AddsDirectories.refl (t : Tree) : t.AddsDirectories t :=
  fun _ => .inl rfl

/-- Directories may be added one after the other. -/
theorem AddsDirectories.trans {t₁ t₂ t₃ : Tree} (h : t₁.AddsDirectories t₂)
    (h' : t₂.AddsDirectories t₃) : t₁.AddsDirectories t₃ := by
  intro l
  rcases h' l with hsame | ⟨hfree, hnew⟩
  · unfold KeepsAt
    rw [hsame]
    exact h l
  · -- what is free after directories were made was free before
    rcases h l with hbefore | ⟨_, hmade⟩
    · exact .inr ⟨hbefore ▸ hfree, hnew⟩
    · rw [hfree] at hmade
      cases hmade

/-- Nothing can be made at the top, where a directory stands. -/
theorem ne_nil_of_node?_eq_none (h : t.node? l = none) : l ≠ [] := by
  rintro rfl
  cases h

/-- A directory that was made stands where nothing was. -/
theorem addsDirectories_of_make (h : t.make p .directory = .ok t') : t.AddsDirectories t' := by
  unfold make at h
  split at h
  · next l hwalk =>
    split at h
    · cases h
    cases h
    -- a walk is free only where it has looked and found nothing
    have hfree : t.node? l = none := by
      refine of_walkWithin (fun place => ∀ l, place = .free l → t.node? l = none) (fun _ => True)
        ?_ ?_ ?_ (fun _ _ _ _ _ => trivial) (fun _ _ => trivial) (walkWithin_of_walk hwalk).2 l rfl
      · rintro _ _ ⟨⟩
      · rintro _ _ _ _ ⟨⟩
      · rintro l name - - - - hnone _ ⟨⟩
        exact hnone
    intro l'
    unfold KeepsAt
    rw [node?_put_eq (ne_nil_of_node?_eq_none hfree)]
    by_cases hl' : l' = l
    · rw [if_pos hl', hl']
      exact .inr ⟨hfree, rfl⟩
    · rw [if_neg hl']
      exact .inl rfl
  · cases h
  · cases h

/-- A directory that is ensured was there, or was made. -/
theorem addsDirectories_of_ensureDirectory (h : t.ensureDirectory p = .ok t') :
    t.AddsDirectories t' := by
  unfold ensureDirectory at h
  split at h
  · cases h
  · cases h
  · rcases bind_eq_ok.1 h with ⟨isDirectory, -, h⟩
    split at h
    · cases h
      exact .refl t
    · cases h
  · next hmake =>
    cases h
    exact addsDirectories_of_make hmake

/-- A directory that is made with those above it adds nothing but directories. -/
theorem addsDirectories_of_ensureUpTo {above : Nat} (h : t.ensureUpTo p above = .ok t') :
    t.AddsDirectories t' := by
  induction above generalizing p t' with
  | zero => exact addsDirectories_of_ensureDirectory h
  | succ above ih =>
    rw [ensureUpTo] at h
    split at h
    · rcases bind_eq_ok.1 h with ⟨between, hbetween, h⟩
      exact (ih hbetween).trans (addsDirectories_of_ensureDirectory h)
    · exact addsDirectories_of_ensureDirectory h

/-- An attempt that fails leaves the tree as it was. -/
theorem addsDirectories_attemptDirectory (t : Tree) (p : Path) :
    t.AddsDirectories (t.attemptDirectory p) := by
  unfold attemptDirectory
  cases hmade : t.ensureDirectory p with
  | error e => exact .refl t
  | ok made => exact addsDirectories_of_ensureDirectory hmade

/-- Where one of several directories cannot be made, those that were made are all that is new. -/
theorem addsDirectories_attemptUpTo (t : Tree) (p : Path) (above : Nat) :
    t.AddsDirectories (t.attemptUpTo p above) := by
  induction above generalizing p with
  | zero => exact addsDirectories_attemptDirectory t p
  | succ above ih =>
    rw [attemptUpTo]
    split
    · split
      · next between hbetween =>
        exact (addsDirectories_of_ensureUpTo hbetween).trans
          (addsDirectories_attemptDirectory between p)
      · exact ih p.parent
    · exact addsDirectories_attemptDirectory t p

theorem addsDirectories_attemptDirectories (t : Tree) (p : Path) :
    t.AddsDirectories (t.attemptDirectories p) :=
  addsDirectories_attemptUpTo t p p.names.length

/-! ## Writing files -/

/-- What has become of a tree in which `bytes` were written where a path leads to. -/
inductive Receives (t : Tree) (p : Path) (bytes : List UInt8) (t' : Tree) : Prop
  /-- A file holds them, and everywhere else stands what stood there. -/
  | file {l : Location} (leads : t'.walk .seeing p = .ok (.taken l (.file bytes)))
    (others : ∀ l' ≠ l, t'.node? l' = t.node? l')
  /-- A device has taken them. -/
  | device {l : Location} (leads : t'.walk .seeing p = .ok (.taken l (.device .sink)))
    (same : t' = t)

/-- The length and the characters of a path do not depend on what a walk is for. -/
theorem walk_of_walkWithin {purpose purpose' : Purpose} (hwalk : t.walk purpose p = .ok place)
    {place' : Place} (h : t'.walkWithin purpose' 41 (if p.isAbsolute then [] else home) p.names =
      .ok place') : t'.walk purpose' p = .ok place' := by
  unfold walk at hwalk ⊢
  split at hwalk
  · cases hwalk
  next hnull =>
  rw [if_neg hnull]
  split at hwalk
  · cases hwalk
  next hlong =>
  rw [if_neg hlong, h]
  rfl

/-- What a walk found place for in order to write there is found again by one that looks. -/
theorem Admits.walk_seeing (hplace : Admits l place)
    (hsame : ∀ l' ≠ l, t'.node? l' = t.node? l') (hn : t'.node? l = some n') (hend : IsEnd n')
    (hwalk : t.walk .writing p = .ok place) : t'.walk .seeing p = .ok (.taken l n') :=
  walk_of_walkWithin hwalk
    (hplace.walkWithin_seeing hsame hn hend (walkWithin_of_walk hwalk).2)

/-- A file that is put where a walk leads is received there, and every other location keeps what it
has. -/
theorem Admits.receives_put (hplace : Admits l place) (hwalk : t.walk .writing p = .ok place)
    (bytes : List UInt8) : t.Receives p bytes (t.put l (.file bytes)) := by
  have hne : l ≠ [] := (hplace.holdsNoWay (walkWithin_of_walk hwalk).2).1
  have hothers : ∀ l' ≠ l, (t.put l (.file bytes)).node? l' = t.node? l' := by
    intro l' hl'
    rw [node?_put_eq hne, if_neg hl']
  have hstands : (t.put l (.file bytes)).node? l = some (.file bytes) := by
    rw [node?_put_eq hne, if_pos rfl]
  have hend : IsEnd (.file bytes) := ⟨nofun, nofun⟩
  exact .file (hplace.walk_seeing hothers hstands hend hwalk) hothers

/-- Whatever could be written has gone to one file, or to a device that takes everything. -/
theorem receives_of_writeBytes (h : t.writeBytes p bytes = .ok t') : t.Receives p bytes t' := by
  unfold writeBytes at h
  split at h
  · cases h
  · next l hwalk =>
    cases h
    -- a device stays as it is, and takes the bytes
    have hstands : t.node? l = some (.device .sink) :=
      (node?_of_walkWithin (walkWithin_of_walk hwalk).2).resolve_left nofun
    have hend : IsEnd (.device .sink) := ⟨nofun, nofun⟩
    have hadmits : Admits l (.taken l (.device .sink)) := .taken nofun
    have hleads : t.walk .seeing p = .ok (.taken l (.device .sink)) :=
      hadmits.walk_seeing (fun _ _ => rfl) hstands hend hwalk
    exact .device hleads rfl
  · cases h
  · cases h
  · next l n hdirectory _ _ _ hwalk =>
    cases h
    exact (Admits.taken hdirectory).receives_put hwalk bytes
  · next l hwalk =>
    split at h
    · cases h
    · cases h
      exact Admits.free.receives_put hwalk bytes
  · cases h

end Tree
end DesignMetrics.Files
