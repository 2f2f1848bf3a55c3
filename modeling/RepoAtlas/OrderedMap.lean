/-!
Finite maps that remember insertion order. Writing to a key that is present replaces its value
and keeps its place; a new key goes to the end.
-/
namespace RepoAtlas

section AppendNew

variable {α : Type} [DecidableEq α] {a x : α} {xs : List α}

theorem mem_appendNew : x ∈ (if a ∈ xs then xs else xs ++ [a]) ↔ x ∈ xs ∨ x = a := by
  split
  next h =>
    constructor
    · exact Or.inl
    · rintro (hx | rfl)
      · exact hx
      · exact h
  next => rw [List.mem_append, List.mem_singleton]

/-- An item that goes to the end only if it is new leaves the items distinct. -/
theorem nodup_appendNew (h : xs.Nodup) : (if a ∈ xs then xs else xs ++ [a]).Nodup := by
  split
  next => exact h
  next hnew =>
    refine List.nodup_append.2 ⟨h, by simp, ?_⟩
    intro x hx y hy heq
    rw [List.mem_singleton] at hy
    exact hnew (hy ▸ heq ▸ hx)

end AppendNew

structure OrderedMap (κ ν : Type) where
  entries : List (κ × ν) := []
  deriving Repr, DecidableEq, Inhabited

namespace OrderedMap

variable {κ ν : Type} [DecidableEq κ]

/-- The entries with the value at `k` made from the value that was there, if any. -/
def updateEntries (k : κ) (f : Option ν → ν) : List (κ × ν) → List (κ × ν)
  | [] => [(k, f none)]
  | (j, v) :: rest => if j = k then (j, f (some v)) :: rest else (j, v) :: updateEntries k f rest

def lookup (k : κ) : List (κ × ν) → Option ν
  | [] => none
  | (j, v) :: rest => if j = k then some v else lookup k rest

def get? (m : OrderedMap κ ν) (k : κ) : Option ν := lookup k m.entries

def contains (m : OrderedMap κ ν) (k : κ) : Bool := (m.get? k).isSome

def update (m : OrderedMap κ ν) (k : κ) (f : Option ν → ν) : OrderedMap κ ν :=
  ⟨updateEntries k f m.entries⟩

def insert (m : OrderedMap κ ν) (k : κ) (v : ν) : OrderedMap κ ν :=
  m.update k (fun _ => v)

/-- Writes the value only if the key is new. -/
def insertNew (m : OrderedMap κ ν) (k : κ) (v : ν) : OrderedMap κ ν :=
  m.update k (·.getD v)

def keys (m : OrderedMap κ ν) : List κ := m.entries.map (·.1)

def values (m : OrderedMap κ ν) : List ν := m.entries.map (·.2)

def insertAll (m : OrderedMap κ ν) (pairs : List (κ × ν)) : OrderedMap κ ν :=
  pairs.foldl (fun m p => m.insert p.1 p.2) m

def ofList (pairs : List (κ × ν)) : OrderedMap κ ν := insertAll {} pairs

/-- The items by their keys, in the order in which they come. -/
def groupedBy (key : ν → κ) (items : List ν) : OrderedMap κ (List ν) :=
  items.foldl (fun m x => m.update (key x) (fun found => found.getD [] ++ [x])) {}

theorem lookup_updateEntries (k j : κ) (f : Option ν → ν) (entries : List (κ × ν)) :
    lookup j (updateEntries k f entries) =
      if j = k then some (f (lookup k entries)) else lookup j entries := by
  induction entries with
  | nil =>
    by_cases h : j = k
    · simp [updateEntries, lookup, h]
    · simp [updateEntries, lookup, h, Ne.symm h]
  | cons e rest ih =>
    obtain ⟨i, v⟩ := e
    by_cases hi : i = k
    · by_cases hj : j = k
      · simp [updateEntries, lookup, hi, hj]
      · simp [updateEntries, lookup, hi, hj, Ne.symm hj]
    · by_cases hj : j = k
      · subst hj; simp [updateEntries, lookup, hi, ih]
      · simp [updateEntries, lookup, hi, hj, ih]

@[simp] theorem get?_update (m : OrderedMap κ ν) (k j : κ) (f : Option ν → ν) :
    (m.update k f).get? j = if j = k then some (f (m.get? k)) else m.get? j :=
  lookup_updateEntries k j f m.entries

@[simp] theorem get?_insert (m : OrderedMap κ ν) (k j : κ) (v : ν) :
    (m.insert k v).get? j = if j = k then some v else m.get? j := by
  simp [insert]

theorem lookup_isSome_iff {k : κ} {entries : List (κ × ν)} :
    (lookup k entries).isSome = true ↔ k ∈ entries.map (·.1) := by
  induction entries with
  | nil => simp [lookup]
  | cons e rest ih =>
    obtain ⟨i, v⟩ := e
    by_cases h : i = k
    · simp [lookup, h]
    · simp [lookup, h, ih, Ne.symm h]

theorem contains_iff {m : OrderedMap κ ν} {k : κ} : m.contains k = true ↔ k ∈ m.keys :=
  lookup_isSome_iff

theorem keys_updateEntries (k : κ) (f : Option ν → ν) (entries : List (κ × ν)) :
    (updateEntries k f entries).map (·.1) =
      if k ∈ entries.map (·.1) then entries.map (·.1) else entries.map (·.1) ++ [k] := by
  induction entries with
  | nil => simp [updateEntries]
  | cons e rest ih =>
    obtain ⟨i, v⟩ := e
    by_cases h : i = k
    · simp [updateEntries, h]
    · by_cases hm : k ∈ rest.map (·.1)
      · simp only [updateEntries, h, if_false, List.map_cons, ih, hm, if_true, List.mem_cons,
          or_true]
      · simp only [updateEntries, h, if_false, List.map_cons, ih, hm, List.mem_cons, Ne.symm h,
          or_false, List.cons_append]

/-- An update adds its key at the end if it is new, and never moves a key. -/
theorem keys_update (m : OrderedMap κ ν) (k : κ) (f : Option ν → ν) :
    (m.update k f).keys = if k ∈ m.keys then m.keys else m.keys ++ [k] :=
  keys_updateEntries k f m.entries

theorem nodup_keys_update {m : OrderedMap κ ν} (h : m.keys.Nodup) (k : κ) (f : Option ν → ν) :
    (m.update k f).keys.Nodup := by
  rw [keys_update]
  exact nodup_appendNew h

end OrderedMap

/-- The elements without repetitions, first occurrences in order. -/
def distinct {α : Type} [DecidableEq α] : List α → List α
  | [] => []
  | x :: rest => x :: (distinct rest).filter (· ≠ x)

theorem mem_distinct {α : Type} [DecidableEq α] {x : α} {xs : List α} :
    x ∈ distinct xs ↔ x ∈ xs := by
  induction xs with
  | nil => simp [distinct]
  | cons y rest ih =>
    by_cases h : x = y
    · simp [distinct, h]
    · simp [distinct, h, ih]

theorem nodup_distinct {α : Type} [DecidableEq α] (xs : List α) : (distinct xs).Nodup := by
  induction xs with
  | nil => simp [distinct]
  | cons y rest ih =>
    rw [distinct, List.nodup_cons]
    exact ⟨by simp, ih.filter _⟩

/-- Ascending order of texts by code points. -/
def sortTexts (texts : List String) : List String :=
  texts.mergeSort (fun a b => decide (a ≤ b))

/-- The texts of a set, in ascending order. -/
def sortedSet (texts : List String) : List String :=
  sortTexts (distinct texts)

end RepoAtlas
