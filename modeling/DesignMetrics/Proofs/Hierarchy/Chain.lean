import DesignMetrics.Proofs.Hierarchy.Depth

/-!
# Chains of parents

Above every class stands a chain: its parent, the parent of that, and so on. It comes to an end, or
it goes round for ever. `Classes.depth` says which of the two: it gives the length of a chain that
ends, and of one that goes round the part that comes back again and again. The search for the answer
takes no more steps than there are classes.
-/

namespace DesignMetrics
namespace Classes

/-- A search whose path has `name` at its head takes this many steps until it stops, and gives this
answer. Every step looks at one more parent. Nothing bounds the number of steps in advance. -/
inductive Stops (classes : Classes) : List String → String → Nat → Ancestry → Prop where
  | root {path : List String} {name : String} (h : classes.parent? name = none) :
      Stops classes path name 0 (.rooted path.reverse)
  | cycle {path : List String} {name parent : String} (h : classes.Inherits name parent)
      (hmem : parent ∈ path) :
      Stops classes path name 1
        (.cyclic ⟨path.reverse.dropWhile (· != parent) ++ [parent]⟩)
  | up {path : List String} {name parent : String} {steps : Nat} {found : Ancestry}
      (h : classes.Inherits name parent) (hnew : parent ∉ path)
      (hup : Stops classes (parent :: path) parent steps found) :
      Stops classes path name (steps + 1) found

/-- The class at a place of the chain above `name`, which starts at `name` itself: the parent that
the class below it declares, if that is a key. -/
def ancestor? (classes : Classes) (name : String) : Nat → Option String
  | 0 => some name
  | k + 1 =>
    (ancestor? classes name k).bind fun below =>
      (classes.find? below).bind fun info => info.parent.filter fun p => classes.contains p

/-- The chain above a class comes to an end: it consists of these classes, no two of them the same.
-/
structure ComesToEnd (classes : Classes) (name : String) (chain : List String) : Prop where
  nodup : chain.Nodup
  known : ∀ c ∈ chain, c ∈ classes.keys
  ancestor?_eq : ∀ k, classes.ancestor? name k = chain[k]?

/-- The chain above a class goes round: after the classes of `tail` it runs through those of `ring`,
from the first to the last, again and again. No two of all these classes are the same. -/
structure GoesRound (classes : Classes) (name : String) (tail ring : List String) : Prop where
  ring_ne_nil : ring ≠ []
  nodup : (tail ++ ring).Nodup
  known : ∀ c ∈ tail ++ ring, c ∈ classes.keys
  ancestor?_tail : ∀ k < tail.length, classes.ancestor? name k = tail[k]?
  ancestor?_ring : ∀ k, classes.ancestor? name (tail.length + k) = ring[k % ring.length]?

/-- What `depth` finds out about a class: its depth is the length of the chain above it, if that
ends, and otherwise the error names the part that comes back, closed by its first class. The search
has stopped by itself after at most as many steps as there are classes, so that its answer does not
depend on how many steps it is allowed. -/
structure DecidesChain (classes : Classes) (name : String) : Prop where
  stops : ∃ steps ≤ classes.size, classes.Stops [name] name steps (classes.ancestry name) ∧
    ∀ allowed ≥ steps, classes.climb allowed [name] name = classes.ancestry name
  eq_ok_iff : ∀ n, classes.depth name = .ok n ↔
    ∃ chain, classes.ComesToEnd name chain ∧ chain.length = n
  le_size : ∀ n, classes.depth name = .ok n → n ≤ classes.size
  eq_error_iff : ∀ e, classes.depth name = .error e ↔
    ∃ tail ring, classes.GoesRound name tail ring ∧ e = .cyclic ⟨ring ++ ring.take 1⟩

variable {classes : Classes} {name : String}

/-! ## The search stops -/

/-- A search that may take as many steps as it needs gives its own answer. -/
theorem Stops.climb_eq {path : List String} {n steps : Nat} {found : Ancestry}
    (h : classes.Stops path name n found) (hsteps : n ≤ steps) :
    classes.climb steps path name = found := by
  induction h generalizing steps with
  | root hroot =>
    cases steps with
    | zero => rfl
    | succ steps => rw [climb, hroot]
  | cycle hp hmem =>
    obtain ⟨steps, rfl⟩ : ∃ k, steps = k + 1 := ⟨steps - 1, by omega⟩
    rw [climb, hp]
    simp only [if_pos hmem]
  | up hp hnew _ ih =>
    obtain ⟨steps, rfl⟩ : ∃ k, steps = k + 1 := ⟨steps - 1, by omega⟩
    rw [climb, hp]
    simp only [if_neg hnew]
    exact ih (by omega)

/-- A search stops before it has more names on its path than there are keys. -/
theorem Climbed.exists_stops {start : String} {below : List String}
    (h : classes.Climbed start (name :: below)) :
    ∃ steps found, steps + below.length ≤ classes.size ∧
      classes.Stops (name :: below) name steps found := by
  -- every name on the path but the newest has a parent, so that all of them are keys
  have hbelow : below.length ≤ classes.size :=
    length_le_size_of_nodup (List.nodup_cons.1 h.nodup).2 fun _ hx => h.mem_keys hx
  induction hroom : classes.size - below.length generalizing name below with
  | zero =>
    cases hp : classes.parent? name with
    | none => exact ⟨0, _, by omega, .root hp⟩
    | some parent =>
      have hle : below.length + 1 ≤ classes.size := h.length_le hp
      omega
  | succ room ih =>
    cases hp : classes.parent? name with
    | none => exact ⟨0, _, by omega, .root hp⟩
    | some parent =>
      have hle : below.length + 1 ≤ classes.size := h.length_le hp
      by_cases hmem : parent ∈ name :: below
      · exact ⟨1, _, by omega, .cycle hp hmem⟩
      · have hlen : (name :: below).length = below.length + 1 := rfl
        obtain ⟨steps, found, hsteps, hstops⟩ := ih (h.push hp hmem) (by omega) (by omega)
        exact ⟨steps + 1, found, by omega, .up hp hmem hstops⟩

/-- The search for the ancestry of a class stops after at most one step for each class. -/
theorem exists_stops_ancestry (classes : Classes) (name : String) :
    ∃ steps ≤ classes.size, classes.Stops [name] name steps (classes.ancestry name) ∧
      ∀ allowed ≥ steps, classes.climb allowed [name] name = classes.ancestry name := by
  have hstart : classes.Climbed name [name] := .single name
  obtain ⟨steps, found, hsteps, hstops⟩ := hstart.exists_stops
  have hle : steps ≤ classes.size := by simpa using hsteps
  have hfound : classes.ancestry name = found := hstops.climb_eq hle
  rw [hfound]
  exact ⟨steps, hle, hstops, fun _ hallowed => hstops.climb_eq hallowed⟩

/-! ## Places of a chain -/

theorem ancestor?_succ (classes : Classes) (name : String) (k : Nat) :
    classes.ancestor? name (k + 1) = (classes.ancestor? name k).bind classes.parent? := by
  rw [ancestor?]
  congr 1
  funext below
  unfold parent?
  cases classes.find? below with
  | none => rfl
  | some info =>
    cases hp : info.parent with
    | none => simp [hp]
    | some p => simp [hp, Option.filter]

/-- A chain of parents runs along the places of the chain above its first class. -/
theorem ancestor?_of_isChain {chain : List String} (h : chain.IsChain classes.Inherits)
    (hstart : chain.head? = some name) {k : Nat} (hk : k < chain.length) :
    classes.ancestor? name k = chain[k]? := by
  induction k with
  | zero => rw [ancestor?, ← hstart, List.head?_eq_getElem?]
  | succ k ih =>
    have hstep : classes.Inherits chain[k] chain[k + 1] := List.isChain_iff_getElem.1 h k hk
    rw [ancestor?_succ, ih (by omega), List.getElem?_eq_getElem hk,
      List.getElem?_eq_getElem (by omega), Option.bind_some]
    exact hstep

/-- Classes at the places of a chain, from the first on, are one the parent of the other. -/
theorem isChain_of_ancestor? {chain : List String}
    (h : ∀ k < chain.length, classes.ancestor? name k = chain[k]?) :
    chain.IsChain classes.Inherits := by
  rw [List.isChain_iff_getElem]
  intro k hk
  have hnext := h (k + 1) hk
  rw [ancestor?_succ, h k (by omega), List.getElem?_eq_getElem hk,
    List.getElem?_eq_getElem (by omega), Option.bind_some] at hnext
  exact hnext

theorem head?_of_ancestor? {chain : List String} (hne : chain ≠ [])
    (h : ∀ k < chain.length, classes.ancestor? name k = chain[k]?) :
    chain.head? = some name := by
  rw [List.head?_eq_getElem?, ← h 0 (List.length_pos_of_ne_nil hne), ancestor?]

/-! ## Chains that end -/

theorem ancestor?_eq_none_of_le {m k : Nat} (h : classes.ancestor? name m = none) (hk : m ≤ k) :
    classes.ancestor? name k = none := by
  induction k, hk using Nat.le_induction with
  | base => exact h
  | succ k _ ih => rw [ancestor?_succ, ih, Option.bind_none]

theorem mem_keys_of_isChain {last : String} {way : List String}
    (h : (way ++ [last]).IsChain classes.Inherits) : ∀ c ∈ way, c ∈ classes.keys := by
  intro c hc
  obtain ⟨p, -, hp⟩ := exists_inherits_of_isChain h hc
  exact hp.mem_keys_left

/-- A way up to a class without a known parent is the whole chain. -/
theorem WayUp.comesToEnd {last : String} {way : List String} (h : classes.WayUp name way last)
    (hkey : name ∈ classes.keys) (hlast : last ∉ way) :
    classes.ComesToEnd name (way ++ [last]) where
  nodup := by
    rw [← List.concat_eq_append, List.nodup_concat]
    exact ⟨hlast, h.nodup⟩
  known := by
    intro c hc
    rcases List.eq_nil_or_concat way with rfl | ⟨front, below, rfl⟩
    · have hstart : last = name := by simpa using h.starts
      rw [List.nil_append, List.mem_singleton] at hc
      rw [hc, hstart]
      exact hkey
    · rcases List.mem_append.1 hc with hway | hend
      · exact mem_keys_of_isChain h.ascends c hway
      · -- the last class is the parent of the one before it
        have hstep : (front ++ below :: last :: []).IsChain classes.Inherits := by
          simpa using h.ascends
        have hp : classes.Inherits below last := (List.isChain_append_cons_cons.1 hstep).2.1
        rw [List.mem_singleton.1 hend]
        exact hp.mem_keys_right
  ancestor?_eq := by
    intro k
    by_cases hk : k < (way ++ [last]).length
    · exact ancestor?_of_isChain h.ascends h.starts hk
    · -- the last class has no known parent, so no step leads further
      have hroot : classes.parent? last = none := h.ends.resolve_left hlast
      have htop : classes.ancestor? name way.length = some last := by
        rw [ancestor?_of_isChain h.ascends h.starts (by simp)]
        simp
      have hnone : classes.ancestor? name (way.length + 1) = none := by
        rw [ancestor?_succ, htop, Option.bind_some, hroot]
      rw [List.length_append, List.length_singleton] at hk
      rw [ancestor?_eq_none_of_le hnone (by omega), List.getElem?_eq_none (by simp; omega)]

namespace ComesToEnd

variable {chain : List String}

theorem length_le (h : classes.ComesToEnd name chain) : chain.length ≤ classes.size :=
  length_le_size_of_nodup h.nodup h.known

/-- The ancestry of a class tells the chain above it, if that ends. -/
theorem ancestry_eq (h : classes.ComesToEnd name chain) :
    classes.ancestry name = .rooted chain := by
  have hne : chain ≠ [] := by
    rintro rfl
    exact absurd (h.ancestor?_eq 0) (by simp [ancestor?])
  have hall : ∀ k < chain.length, classes.ancestor? name k = chain[k]? :=
    fun k _ => h.ancestor?_eq k
  obtain ⟨way, last, rfl⟩ : ∃ way last, chain = way ++ [last] :=
    ⟨_, _, (List.dropLast_append_getLast hne).symm⟩
  have hroot : classes.parent? last = none := by
    have hnext := h.ancestor?_eq (way.length + 1)
    rw [ancestor?_succ, h.ancestor?_eq way.length] at hnext
    simpa using hnext
  have hnodup := h.nodup
  rw [← List.concat_eq_append, List.nodup_concat] at hnodup
  have hway : classes.WayUp name way last :=
    ⟨head?_of_ancestor? hne hall, isChain_of_ancestor? hall, hnodup.2, .inr hroot⟩
  rw [hway.ancestry_eq, Ancestry.ofWay, if_neg hnodup.1]

end ComesToEnd

/-! ## Chains that go round -/

/-- The class after a place of a ring is the next one, or the first again. -/
theorem getElem?_succ_mod {ring : List String} {first : String} (hfirst : ring.head? = some first)
    (k : Nat) : ring[(k + 1) % ring.length]? = (ring ++ [first])[k % ring.length + 1]? := by
  have hpos : 0 < ring.length := by
    cases ring with
    | nil => exact absurd hfirst (by simp)
    | cons _ _ => simp
  have hlt : k % ring.length < ring.length := Nat.mod_lt k hpos
  rw [← Nat.mod_add_mod]
  by_cases hnext : k % ring.length + 1 < ring.length
  · rw [Nat.mod_eq_of_lt hnext, List.getElem?_append_left hnext]
  · have hend : k % ring.length + 1 = ring.length := by omega
    rw [hend, Nat.mod_self, ← List.head?_eq_getElem?, hfirst, List.getElem?_concat_length]

/-- A chain that comes back to the first class of a ring runs through the ring from then on. -/
theorem ancestor?_of_ring {ring : List String} {first : String} {start : Nat}
    (hring : (ring ++ [first]).IsChain classes.Inherits) (hfirst : ring.head? = some first)
    (hstart : classes.ancestor? name start = some first) (k : Nat) :
    classes.ancestor? name (start + k) = ring[k % ring.length]? := by
  induction k with
  | zero => rw [Nat.add_zero, Nat.zero_mod, hstart, ← hfirst, List.head?_eq_getElem?]
  | succ k ih =>
    have hpos : 0 < ring.length := by
      cases ring with
      | nil => exact absurd hfirst (by simp)
      | cons _ _ => simp
    have hlt : k % ring.length < ring.length := Nat.mod_lt k hpos
    have hlen : (ring ++ [first]).length = ring.length + 1 := by simp
    have hstep := List.isChain_iff_getElem.1 hring (k % ring.length) (by omega)
    rw [List.getElem_append_left hlt] at hstep
    rw [← Nat.add_assoc, ancestor?_succ, ih, getElem?_succ_mod hfirst,
      List.getElem?_eq_getElem hlt, List.getElem?_eq_getElem (by omega), Option.bind_some]
    exact hstep

/-- A way up to a class that was met before runs into the classes from there on. -/
theorem WayUp.exists_goesRound {last : String} {way : List String}
    (h : classes.WayUp name way last) (hlast : last ∈ way) :
    ∃ tail ring, classes.GoesRound name tail ring ∧
      classes.ancestry name = .cyclic ⟨ring ++ ring.take 1⟩ := by
  -- the ring starts where the last class stood for the first time
  obtain ⟨tail, rest, hway, htail⟩ := List.eq_append_cons_of_mem hlast
  have hchain := h.ascends
  have hstart := h.starts
  have hnodup := h.nodup
  rw [hway] at hchain hstart hnodup
  have hring : (last :: rest ++ [last]).IsChain classes.Inherits := by
    rw [List.append_assoc] at hchain
    exact hchain.right_of_append
  have hplace : ∀ k < (tail ++ last :: rest ++ [last]).length,
      classes.ancestor? name k = (tail ++ last :: rest ++ [last])[k]? :=
    fun k hk => ancestor?_of_isChain hchain hstart hk
  have hfirst : classes.ancestor? name tail.length = some last := by
    rw [hplace tail.length (by simp), List.append_assoc, List.getElem?_append_right le_rfl]
    simp
  refine ⟨tail, last :: rest, ⟨by simp, hnodup, ?_, ?_, ?_⟩, ?_⟩
  · exact mem_keys_of_isChain hchain
  · intro k hk
    rw [hplace k (by simp; omega), List.append_assoc, List.getElem?_append_left hk]
  · exact ancestor?_of_ring hring rfl hfirst
  · rw [h.ancestry_eq, Ancestry.ofWay, if_pos hlast, hway, dropWhile_ne_eq htail]
    rfl

/-- The ancestry of a class tells the part of the chain above it that comes back. -/
theorem GoesRound.ancestry_eq {tail ring : List String} (h : classes.GoesRound name tail ring) :
    classes.ancestry name = .cyclic ⟨ring ++ ring.take 1⟩ := by
  obtain ⟨first, rest, rfl⟩ := List.exists_cons_of_ne_nil h.ring_ne_nil
  -- once round, up to the first class of the ring again
  have hplace : ∀ k < (tail ++ first :: rest ++ [first]).length,
      classes.ancestor? name k = (tail ++ first :: rest ++ [first])[k]? := by
    intro k hk
    rw [List.append_assoc]
    by_cases htail : k < tail.length
    · rw [h.ancestor?_tail k htail, List.getElem?_append_left htail]
    · obtain ⟨j, rfl⟩ : ∃ j, k = tail.length + j := ⟨k - tail.length, by omega⟩
      rw [h.ancestor?_ring j, List.getElem?_append_right (by omega), Nat.add_sub_cancel_left]
      by_cases hj : j < (first :: rest).length
      · rw [Nat.mod_eq_of_lt hj, List.getElem?_append_left hj]
      · have hend : j = (first :: rest).length := by
          simp only [List.length_append, List.length_cons, List.length_nil] at hk hj ⊢
          omega
        rw [hend, Nat.mod_self, List.getElem?_concat_length]
        rfl
  have hfirst : first ∈ tail ++ first :: rest := by simp
  have htail : first ∉ tail := by
    intro hmem
    exact (List.nodup_append.1 h.nodup).2.2 first hmem first List.mem_cons_self rfl
  have hway : classes.WayUp name (tail ++ first :: rest) first :=
    ⟨head?_of_ancestor? (by simp) hplace, isChain_of_ancestor? hplace, h.nodup, .inl hfirst⟩
  rw [hway.ancestry_eq, Ancestry.ofWay, if_pos hfirst, dropWhile_ne_eq htail]
  rfl

/-! ## Depth and the chain -/

theorem depth_of_mem_keys (h : name ∈ classes.keys) :
    classes.depth name = match classes.ancestry name with
      | .rooted chain => .ok chain.length
      | .cyclic cycle => .error (.cyclic cycle) := by
  have hknown : classes.contains name = true := classes.contains_iff_mem_keys.2 h
  unfold depth
  cases classes.ancestry name <;> exact if_pos hknown

/-- The chain above every class ends or goes round, and its ancestry says how. -/
theorem exists_chain (h : name ∈ classes.keys) :
    (∃ chain, classes.ComesToEnd name chain ∧ classes.depth name = .ok chain.length) ∨
      ∃ tail ring, classes.GoesRound name tail ring ∧
        classes.depth name = .error (.cyclic ⟨ring ++ ring.take 1⟩) := by
  obtain ⟨way, last, hway, -⟩ := classes.exists_wayUp name
  by_cases hlast : last ∈ way
  · obtain ⟨tail, ring, hround, heq⟩ := hway.exists_goesRound hlast
    exact .inr ⟨tail, ring, hround, by rw [depth_of_mem_keys h, heq]⟩
  · have hend := hway.comesToEnd h hlast
    exact .inl ⟨way ++ [last], hend, by rw [depth_of_mem_keys h, hend.ancestry_eq]⟩

/-- For every map of classes and each of its keys, the search for the depth stops after at most as
many steps as there are classes. It gives the length of the chain of parents above that key exactly
if the chain ends, and the part that comes back exactly if it goes round. -/
theorem decidesChain_of_mem_keys (h : name ∈ classes.keys) : classes.DecidesChain name where
  stops := classes.exists_stops_ancestry name
  eq_ok_iff := by
    intro n
    constructor
    · intro hdepth
      rcases exists_chain h with ⟨chain, hchain, heq⟩ | ⟨_, _, _, heq⟩
      · exact ⟨chain, hchain, Except.ok.inj (heq.symm.trans hdepth)⟩
      · exact absurd (heq.symm.trans hdepth) (by simp)
    · rintro ⟨chain, hchain, rfl⟩
      rw [depth_of_mem_keys h, hchain.ancestry_eq]
  le_size := by
    intro n hdepth
    rcases exists_chain h with ⟨chain, hchain, heq⟩ | ⟨_, _, _, heq⟩
    · rw [← Except.ok.inj (heq.symm.trans hdepth)]
      exact hchain.length_le
    · exact absurd (heq.symm.trans hdepth) (by simp)
  eq_error_iff := by
    intro e
    constructor
    · intro hdepth
      rcases exists_chain h with ⟨_, _, heq⟩ | ⟨tail, ring, hround, heq⟩
      · exact absurd (heq.symm.trans hdepth) (by simp)
      · exact ⟨tail, ring, hround, Except.error.inj (hdepth.symm.trans heq)⟩
    · rintro ⟨tail, ring, hround, rfl⟩
      rw [depth_of_mem_keys h, hround.ancestry_eq]

/-- A class below a cycle of two, under keys that are not the names of the classes. -/
theorem decidesChain_of_mem_keys_lasso :
    let classes : Classes := ⟨[("A", { name := "x", parent := some "B" }),
      ("B", { name := "y", parent := some "C" }), ("C", { name := "y", parent := some "B" })],
      by decide⟩
    "A" ∈ classes.keys ∧ classes.depth "A" = .error (.cyclic ⟨["B", "C", "B"]⟩) ∧
      (∃ steps ≤ 3, classes.Stops ["A"] "A" steps (classes.ancestry "A") ∧
        ∀ allowed ≥ steps, classes.climb allowed ["A"] "A" = classes.ancestry "A") ∧
      ∃ tail ring, classes.GoesRound "A" tail ring ∧ ["B", "C", "B"] = ring ++ ring.take 1 := by
  intro classes
  have hkey : "A" ∈ classes.keys := by decide
  have hdepth : classes.depth "A" = .error (.cyclic ⟨["B", "C", "B"]⟩) := by decide
  have hdecides : classes.DecidesChain "A" := decidesChain_of_mem_keys hkey
  obtain ⟨tail, ring, hround, heq⟩ := (hdecides.eq_error_iff _).1 hdepth
  have hmembers : ["B", "C", "B"] = ring ++ ring.take 1 :=
    congrArg Cycle.members (DepthError.cyclic.inj heq)
  exact ⟨hkey, hdepth, hdecides.stops, tail, ring, hround, hmembers⟩

end Classes
end DesignMetrics
