/-!
# Maps that keep their order

A finite map is a list of entries with distinct keys. Writing to a key that is there does not
move it, so the keys stand in the order in which they first came up.
-/

namespace DesignMetrics

/-- A finite map from names that keeps the order in which its keys came. -/
structure OrderedMap (α : Type) where
  entries : List (String × α) := []
  nodup_keys : (entries.map Prod.fst).Nodup := by simp

namespace OrderedMap

variable {α β : Type}

def empty : OrderedMap α := {}

def keys (m : OrderedMap α) : List String := m.entries.map Prod.fst

def values (m : OrderedMap α) : List α := m.entries.map Prod.snd

def size (m : OrderedMap α) : Nat := m.entries.length

def find? (m : OrderedMap α) (key : String) : Option α := m.entries.lookup key

def contains (m : OrderedMap α) (key : String) : Bool := (m.find? key).isSome

/-- Writes a value. A key that is there keeps its place, a new one goes to the end. -/
def insertEntry (key : String) (value : α) : List (String × α) → List (String × α)
  | [] => [(key, value)]
  | (k, v) :: rest =>
    if k = key then (key, value) :: rest else (k, v) :: insertEntry key value rest

/-- An insertion keeps the keys and their order, and a new key comes last. -/
theorem keys_insertEntry (key : String) (value : α) (es : List (String × α)) :
    (insertEntry key value es).map Prod.fst =
      if key ∈ es.map Prod.fst then es.map Prod.fst else es.map Prod.fst ++ [key] := by
  induction es with
  | nil => rfl
  | cons e es ih =>
    obtain ⟨k, v⟩ := e
    by_cases h : k = key
    · simp [insertEntry, h]
    · by_cases hm : key ∈ es.map Prod.fst
      · simp [insertEntry, h, ih, List.mem_cons, hm]
      · have hk : key ≠ k := fun e => h e.symm
        simp only [insertEntry, if_neg h, List.map_cons, ih, if_neg hm, List.mem_cons, hk,
          false_or, List.cons_append]

/-- An insertion leaves every key where it stands, once. -/
theorem nodup_insertEntry (key : String) (value : α) {es : List (String × α)}
    (h : (es.map Prod.fst).Nodup) : ((insertEntry key value es).map Prod.fst).Nodup := by
  rw [keys_insertEntry]
  split
  · exact h
  · next hm =>
    rw [List.nodup_append]
    refine ⟨h, by simp, ?_⟩
    intro a ha b hb
    rw [List.mem_singleton.1 hb]
    intro e
    exact hm (e ▸ ha)

/-- Writes a value. A key that is there keeps its place, a new one goes to the end. -/
def insert (m : OrderedMap α) (key : String) (value : α) : OrderedMap α :=
  ⟨insertEntry key value m.entries, nodup_insertEntry key value m.nodup_keys⟩

/-- Writes entries one after the other. -/
def ofList (es : List (String × α)) : OrderedMap α :=
  es.foldl (fun m e => m.insert e.1 e.2) empty

/-- The keys stay and each value is computed from its key and the old one. -/
def mapEntries (m : OrderedMap α) (f : String → α → β) : OrderedMap β :=
  ⟨m.entries.map fun e => (e.1, f e.1 e.2), by
    have h := m.nodup_keys
    simpa [Function.comp_def] using h⟩

end OrderedMap
end DesignMetrics
