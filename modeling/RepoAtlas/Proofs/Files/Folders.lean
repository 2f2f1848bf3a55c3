import Mathlib.Data.List.Induction
import Mathlib.Data.List.Nodup
import RepoAtlas.Files.Tree

/-!
Names that a path text can hold as they are, and where a path text of such names leads. What a
folder holds, and what making, filling and removing folders does to a tree.
-/
namespace RepoAtlas

/-- A name without separators that is no dot name. -/
structure IsName (name : String) : Prop where
  slash : '/' ∉ name.toList
  null : '\x00' ∉ name.toList
  ne_empty : name ≠ ""
  ne_dot : name ≠ "."
  ne_dots : name ≠ ".."

/-- A name that a folder can hold. -/
def Fits (name : String) : Prop := name.utf8ByteSize ≤ FileTree.maxNameBytes

instance (name : String) : Decidable (Fits name) := inferInstanceAs (Decidable (_ ≤ _))

namespace FileTree

/-! ### Path texts -/

theorem splitAt_of_notMem {c : Char} {s : List Char} (h : c ∉ s) : Text.splitAt c s = [s] := by
  induction s with
  | nil => rfl
  | cons x rest ih =>
    rw [List.mem_cons, not_or] at h
    rw [Text.splitAt, if_neg (Ne.symm h.1), ih h.2]

/-- Texts with a separator between them are cut one after the other. -/
theorem splitAt_join (c : Char) (s rest : List Char) :
    Text.splitAt c (s ++ c :: rest) = Text.splitAt c s ++ Text.splitAt c rest := by
  induction s with
  | nil => simp [Text.splitAt]
  | cons x tail ih =>
    rw [List.cons_append, Text.splitAt, Text.splitAt, ih]
    split
    · rfl
    · cases hpieces : Text.splitAt c tail with
      | nil => exact absurd hpieces (Text.splitAt_ne_nil c tail)
      | cons piece pieces => rfl

theorem splitAt_append {c : Char} {s : List Char} (h : c ∉ s) (rest : List Char) :
    Text.splitAt c (s ++ c :: rest) = s :: Text.splitAt c rest := by
  rw [splitAt_join, splitAt_of_notMem h, List.singleton_append]

theorem IsName.kept {name : String} (h : IsName name) :
    (!name.toList.isEmpty && name.toList != ['.']) = true := by
  have hempty : name.toList ≠ [] := fun he => h.ne_empty (String.toList_inj.1 he)
  have hdot : name.toList ≠ ['.'] := fun he => h.ne_dot (String.toList_inj.1 he)
  simp [hempty, hdot]

/-- Names with separators between them. -/
def joined : List String → String
  | [] => ""
  | [name] => name
  | name :: rest => name ++ "/" ++ joined rest

theorem pathParts_joined {names : List String} (h : ∀ name ∈ names, IsName name) :
    pathParts (joined names) = names := by
  induction names with
  | nil => rfl
  | cons name rest ih =>
    have hname := h name List.mem_cons_self
    cases rest with
    | nil =>
      rw [joined, pathParts, splitAt_of_notMem hname.slash]
      simp [IsName.kept hname]
    | cons next rest =>
      have hrest := ih (fun n hn => h n (List.mem_cons_of_mem name hn))
      have htext : (joined (name :: next :: rest)).toList =
          name.toList ++ '/' :: (joined (next :: rest)).toList := by
        simp [joined]
      rw [pathParts, htext, splitAt_append hname.slash, List.filter_cons, if_pos (IsName.kept hname),
        List.map_cons, String.ofList_toList]
      rw [pathParts] at hrest
      rw [hrest]

theorem null_notMem_joined {names : List String} (h : ∀ name ∈ names, IsName name) :
    '\x00' ∉ (joined names).toList := by
  induction names with
  | nil => decide
  | cons name rest ih =>
    have hname := h name List.mem_cons_self
    cases rest with
    | nil => exact hname.null
    | cons next rest =>
      have hrest := ih (fun n hn => h n (List.mem_cons_of_mem name hn))
      have htext : (joined (name :: next :: rest)).toList =
          name.toList ++ '/' :: (joined (next :: rest)).toList := by
        simp [joined]
      rw [htext, List.mem_append, List.mem_cons, not_or, not_or]
      exact ⟨hname.null, by decide, hrest⟩

/-- A path text of plain names leads where its names lead. -/
theorem resolve_joined (t : FileTree) {names : List String} (h : ∀ name ∈ names, IsName name) :
    t.resolve [] (joined names) = match t.follow [] names with
      | .ok path => .ok path
      | .error why => .error (.file why) := by
  have hnull : (joined names).toList.contains '\x00' = false := by
    rw [← Bool.not_eq_true, List.contains_iff_mem]
    exact null_notMem_joined h
  cases hfollow : t.follow [] names with
  | ok path =>
    simp only [resolve, hnull, pathParts_joined h, hfollow, ite_self, Bool.false_eq_true, if_false]
  | error why =>
    simp only [resolve, hnull, pathParts_joined h, hfollow, ite_self, Bool.false_eq_true, if_false]

/-! ### Following names -/

section Follow

variable {t : FileTree} {here : Path} {name next : String} {rest : List String}

theorem follow_long (h : ¬ Fits name) : t.follow here (name :: rest) = .error .nameTooLong := by
  rw [follow, if_pos (Nat.lt_of_not_le h)]

theorem follow_last (hname : IsName name) (h : Fits name) :
    t.follow here [name] = .ok (here ++ [name]) := by
  rw [follow, if_neg (Nat.not_lt.2 h), if_neg hname.ne_dots]
  rfl

theorem follow_folder (hname : IsName name) (h : Fits name)
    (hfolder : t.find? (here ++ [name]) = some .folder) :
    t.follow here (name :: next :: rest) = t.follow (here ++ [name]) (next :: rest) := by
  rw [follow, if_neg (Nat.not_lt.2 h), if_neg hname.ne_dots]
  simp [hfolder]

theorem follow_missing (hname : IsName name) (h : Fits name)
    (hnone : t.find? (here ++ [name]) = none) :
    t.follow here (name :: next :: rest) = .error .missing := by
  rw [follow, if_neg (Nat.not_lt.2 h), if_neg hname.ne_dots]
  simp [hnone]

end Follow

/-! ### Paths that stand once -/

variable {t : FileTree}

/-- Every path stands in the tree at most once. -/
def Distinct (t : FileTree) : Prop := t.items.keys.Nodup

theorem distinct_empty : Distinct {} := List.nodup_nil

theorem Distinct.put (h : t.Distinct) (path : Path) (item : TreeItem) :
    (t.put path item).Distinct :=
  OrderedMap.nodup_keys_update h path _

theorem Distinct.erase (h : t.Distinct) (path : Path) : (t.erase path).Distinct :=
  h.sublist (List.filter_sublist.map _)

/-! ### What a folder holds -/

theorem find?_isSome_iff {path : Path} (h : path ≠ []) :
    (t.find? path).isSome = true ↔ path ∈ t.items.keys := by
  rw [find?, if_neg (by simpa using h)]
  exact OrderedMap.contains_iff

theorem mem_children {path : Path} {name : String} :
    name ∈ t.children path ↔ (t.find? (path ++ [name])).isSome = true := by
  rw [find?_isSome_iff (by simp), children, List.mem_filterMap]
  constructor
  · rintro ⟨p, hp, hname⟩
    split at hname
    next hlast =>
      have hne : p ≠ [] := by
        rintro rfl
        simp at hname
      have hsplit := List.dropLast_append_getLast? name hname
      rw [beq_iff_eq.1 hlast] at hsplit
      rwa [hsplit]
    next => simp at hname
  · intro h
    exact ⟨path ++ [name], h, by simp⟩

theorem nodup_children (h : t.Distinct) (path : Path) : (t.children path).Nodup := by
  unfold children
  refine List.Nodup.filterMap ?_ h
  intro p q name hp hq
  split at hp
  next hlast =>
    split at hq
    next hlast' =>
      rw [← List.dropLast_append_getLast? name hp, ← List.dropLast_append_getLast? name hq,
        beq_iff_eq.1 hlast, beq_iff_eq.1 hlast']
    next => simp at hq
  next => simp at hp

theorem children_put_elsewhere {path other : Path} (item : TreeItem) (h : path.dropLast ≠ other) :
    (t.put path item).children other = t.children other := by
  rw [children, put, OrderedMap.insert, OrderedMap.keys_update]
  split
  · rfl
  · rw [List.filterMap_append, List.filterMap_cons_none, List.filterMap_nil, List.append_nil,
      children]
    rw [if_neg (by simpa using h)]

/-- A new name comes last. -/
theorem children_put_new {path : Path} {name : String} (item : TreeItem)
    (h : t.find? (path ++ [name]) = none) :
    (t.put (path ++ [name]) item).children path = t.children path ++ [name] := by
  have hnew : path ++ [name] ∉ t.items.keys := by
    rw [← find?_isSome_iff (by simp), h]
    simp
  rw [children, put, OrderedMap.insert, OrderedMap.keys_update, if_neg hnew,
    List.filterMap_append, children]
  simp

theorem children_erase (t : FileTree) (path other : Path) :
    (t.erase path).children other =
      (t.children other).filter (fun name => !path.isPrefixOf (other ++ [name])) := by
  rw [children, children, List.filter_filterMap, OrderedMap.keys, OrderedMap.keys, erase,
    List.filterMap_map, List.filterMap_map, List.filterMap_filter]
  refine List.filterMap_congr fun e _ => ?_
  by_cases hlast : (e.1.dropLast == other) = true
  · cases hname : e.1.getLast? with
    | none =>
      rw [Function.comp_apply, Function.comp_apply, if_pos hlast, hname]
      simp
    | some name =>
      have hsplit := List.dropLast_append_getLast? name hname
      rw [beq_iff_eq.1 hlast] at hsplit
      rw [Function.comp_apply, Function.comp_apply, if_pos hlast, hname, Option.filter_some, hsplit]
  · rw [Function.comp_apply, Function.comp_apply, if_neg hlast]
    simp

theorem children_erase_two (t : FileTree) (outer name other : String) :
    (t.erase [outer, name]).children [other] =
      if other = outer then (t.children [other]).filter (· ≠ name) else t.children [other] := by
  rw [children_erase]
  by_cases hother : other = outer
  · rw [if_pos hother, hother]
    refine List.filter_congr fun found _ => ?_
    by_cases hfound : found = name
    · simp [hfound]
    · simp [List.isPrefixOf, hfound, Ne.symm hfound]
  · rw [if_neg hother]
    refine List.filter_eq_self.2 fun found _ => ?_
    simp [List.isPrefixOf, Ne.symm hother]

/-! ### Trees without loose ends -/

/-- Whatever stands in a tree stands in a folder. -/
def Grounded (t : FileTree) : Prop :=
  ∀ path name, (t.find? (path ++ [name])).isSome = true → t.find? path = some .folder

theorem Grounded.find?_below (h : t.Grounded) {path : Path} (hpath : t.find? path ≠ some .folder)
    (name : String) : t.find? (path ++ [name]) = none := by
  rw [← Option.not_isSome_iff_eq_none]
  exact fun hthere => hpath (h path name hthere)

theorem Grounded.find?_above (h : t.Grounded) {path below : Path} (hbelow : below ≠ [])
    (hthere : (t.find? (path ++ below)).isSome = true) : t.find? path = some .folder := by
  induction below using List.reverseRecOn with
  | nil => exact absurd rfl hbelow
  | append_singleton below name ih =>
    rw [← List.append_assoc] at hthere
    have hfolder := h _ _ hthere
    by_cases hlast : below = []
    · rwa [hlast, List.append_nil] at hfolder
    · exact ih hlast (by rw [hfolder]; rfl)

theorem grounded_of_keys (h : ∀ path ∈ t.items.keys, t.find? path.dropLast = some .folder) :
    t.Grounded := by
  intro path name hthere
  have hkey := (find?_isSome_iff (by simp)).1 hthere
  have hfolder := h _ hkey
  rwa [List.dropLast_concat] at hfolder

theorem Grounded.put (h : t.Grounded) {path : Path} {item : TreeItem}
    (hparent : t.find? path.dropLast = some .folder)
    (hplace : item = .folder ∨ t.find? path ≠ some .folder) : (t.put path item).Grounded := by
  intro other name hthere
  rw [find?_put _ _ (by simp)] at hthere
  have hfolder : t.find? other = some .folder := by
    split at hthere
    next hpath =>
      rw [← hpath, List.dropLast_concat] at hparent
      exact hparent
    next => exact h other name hthere
  by_cases hroot : other = []
  · rw [hroot]
    rfl
  · rw [find?_put _ _ hroot]
    split
    next hpath =>
      rcases hplace with rfl | hplain
      · rfl
      · rw [hpath] at hfolder
        exact absurd hfolder hplain
    next => exact hfolder

/-! ### Changing folders -/

theorem makeFolder_one {name : String} (hfit : Fits name) (h : t.find? [name] = none) :
    t.makeFolder [name] = .ok (t.put [name] .folder) := by
  rw [makeFolder, makeFolders, if_neg (Nat.not_lt.2 hfit)]
  simp [h, makeFolders]

theorem makeFolder_there {name : String} (hfit : Fits name)
    (h : t.find? [name] = some .folder) : t.makeFolder [name] = .ok t := by
  rw [makeFolder, makeFolders, if_neg (Nat.not_lt.2 hfit)]
  simp [h, makeFolders]

theorem makeFolder_two {outer name : String} (houter : Fits outer) (hfit : Fits name)
    (hfolder : t.find? [outer] = some .folder) (h : t.find? [outer, name] = none) :
    t.makeFolder [outer, name] = .ok (t.put [outer, name] .folder) := by
  rw [makeFolder, makeFolders, if_neg (Nat.not_lt.2 houter)]
  simp only [List.nil_append, hfolder]
  rw [makeFolders, if_neg (Nat.not_lt.2 hfit)]
  simp [h, makeFolders]

theorem makeFolder_long {outer name : String} (houter : Fits outer) (hfit : ¬ Fits name)
    (hfolder : t.find? [outer] = some .folder) :
    t.makeFolder [outer, name] = .error (.file .nameTooLong) := by
  rw [makeFolder, makeFolders, if_neg (Nat.not_lt.2 houter)]
  simp only [List.nil_append, hfolder]
  rw [makeFolders, if_pos (Nat.lt_of_not_le hfit)]

theorem writeAt_new {path : Path} (content : FileContent) (h : t.find? path ≠ some .folder)
    (hparent : t.find? path.dropLast = some .folder) :
    t.writeAt path content = .ok (t.put path (.file content)) := by
  rw [writeAt, hparent]
  cases hp : t.find? path with
  | none => rfl
  | some item =>
    cases item with
    | folder => exact absurd hp h
    | file _ => rfl

theorem removeFolder_folder {path : Path} (h : t.find? path = some .folder) :
    t.removeFolder path = .ok (t.erase path) := by
  rw [removeFolder, h]

end FileTree

end RepoAtlas
