import RepoAtlas.Proofs.Number.Overflow
import RepoAtlas.Proofs.Outcome
import RepoAtlas.Proofs.Yaml.JsonForm
import RepoAtlas.Yaml.Meaning

/-!
Every number of a document is a double, and so are those of its parts.
-/
namespace RepoAtlas.Yaml

/-! ### Scalars -/

theorem isDouble_nearestDouble (q : Rat) : (nearestDouble q).isDouble = true :=
  Binary64.isDouble_ofQuotient _ _ q.den_pos

theorem isDouble_sexagesimal (groups : List Binary64) : (sexagesimal groups).isDouble = true := by
  rw [sexagesimal]
  refine List.foldlRecOn (motive := fun x : Binary64 => x.isDouble = true) _ _ ?_ ?_
  · exact isDouble_nearestDouble 0
  · exact fun _ _ _ _ => isDouble_nearestDouble _

theorem isDouble_of_floatText {s : List Char} {x : Binary64} (h : floatText s = .ok x) :
    x.isDouble = true := by
  rw [floatText] at h
  split at h
  next found hfound =>
    obtain rfl := Except.ok.inj h
    exact Numeral.isDouble_of_readFloat? hfound
  next => cases h

theorem isDouble_of_floatValue {s : String} {x : Binary64} (h : floatValue s = .ok x) :
    x.isDouble = true := by
  have hsigned : ∀ (negative : Bool) (size : Result Binary64),
      (∀ y, size = .ok y → y.isDouble = true) →
        (do let y ← size; return if negative then y.neg else y) = .ok x → x.isDouble = true := by
    intro negative size hsize hx
    obtain ⟨y, hy, hx⟩ := bind_eq_ok_iff.1 hx
    rw [← pure_eq_ok_iff.1 hx]
    split
    · rw [Binary64.isDouble_neg]
      exact hsize y hy
    · exact hsize y hy
  rw [floatValue] at h
  dsimp only at h
  split at h
  · cases h
  · split at h
    · exact hsigned _ (pure (.infinite false)) (fun y hy => by rw [← pure_eq_ok_iff.1 hy]; rfl) h
    · split at h
      · exact hsigned _ (pure .nan) (fun y hy => by rw [← pure_eq_ok_iff.1 hy]; rfl) h
      · split at h
        · obtain ⟨groups, -, h⟩ := bind_eq_ok_iff.1 h
          refine hsigned _ (pure (sexagesimal groups.reverse)) (fun y hy => ?_) h
          rw [← pure_eq_ok_iff.1 hy]
          exact isDouble_sexagesimal _
        · exact hsigned _ _ (fun y hy => isDouble_of_floatText hy) h

namespace Value

theorem haveDoubles_iff {items : List Value} :
    haveDoubles items = true ↔ ∀ v ∈ items, v.hasDoubles = true := by
  induction items with
  | nil => simp [haveDoubles]
  | cons v rest ih => simp [haveDoubles, ih]

/-- The numbers of entries are doubles, those of keys too. -/
def EntriesDouble (entries : List (Value × Value)) : Prop :=
  ∀ e ∈ entries, e.1.hasDoubles = true ∧ e.2.hasDoubles = true

theorem entriesHaveDoubles_iff {entries : List (Value × Value)} :
    entriesHaveDoubles entries = true ↔ EntriesDouble entries := by
  induction entries with
  | nil => simp [entriesHaveDoubles, EntriesDouble]
  | cons e rest ih =>
    rw [entriesHaveDoubles, Bool.and_eq_true, Bool.and_eq_true, ih, EntriesDouble, EntriesDouble,
      List.forall_mem_cons]

theorem hasDoubles_of_scalarValue {tag : Tag} {s : String} {v : Value}
    (h : scalarValue tag s = .ok v) : v.hasDoubles = true := by
  have hmap : ∀ {α : Type} (f : α → Value) (r : Result α), f <$> r = .ok v → ∃ a, r = .ok a ∧ f a = v := by
    intro α f r hr
    cases r with
    | error fault => cases hr
    | ok a => exact ⟨a, rfl, Except.ok.inj hr⟩
  cases tag with
  | float =>
    obtain ⟨x, hx, rfl⟩ := hmap _ _ h
    exact isDouble_of_floatValue hx
  | null | text =>
    obtain rfl := Except.ok.inj h
    rfl
  | bool | int | binary | moment =>
    obtain ⟨a, -, rfl⟩ := hmap _ _ h
    rfl
  | _ => cases h

theorem EntriesDouble.put {key value : Value} {entries : List (Value × Value)}
    (hentries : EntriesDouble entries) (hkey : key.hasDoubles = true)
    (hvalue : value.hasDoubles = true) : EntriesDouble (Value.put key value entries) := by
  induction entries with
  | nil => exact List.forall_mem_singleton.2 ⟨hkey, hvalue⟩
  | cons e rest ih =>
    obtain ⟨he, hrest⟩ := List.forall_mem_cons.1 hentries
    rw [Value.put]
    split
    · exact List.forall_mem_cons.2 ⟨⟨he.1, hvalue⟩, hrest⟩
    · exact List.forall_mem_cons.2 ⟨he, ih hrest⟩

/-- A map is made of entries with doubles. -/
theorem ofEntries_eq {entries : List (Value × Value)} (h : EntriesDouble entries) :
    ∃ found, ofEntries entries = .map found ∧ EntriesDouble found := by
  refine ⟨_, rfl, ?_⟩
  refine List.foldlRecOn (motive := EntriesDouble) entries _ ?_ ?_
  · exact fun _ he => absurd he List.not_mem_nil
  · exact fun found hfound e he => hfound.put (h e he).1 (h e he).2

end Value

/-! ### Nodes -/

open Value

theorem entriesDouble_append {entries more : List (Value × Value)} (h : EntriesDouble entries)
    (hmore : EntriesDouble more) : EntriesDouble (entries ++ more) :=
  List.forall_mem_append.2 ⟨h, hmore⟩

mutual

/-- What a node stands for has doubles only. -/
theorem hasDoubles_of_value : (n : Node) → ∀ v, n.value = .ok v → v.hasDoubles = true
  | .scalar tag s => fun v h => by
    rw [Node.value] at h
    exact hasDoubles_of_scalarValue h
  | .cycle isMap => fun v h => by
    rw [Node.value] at h
    obtain rfl := Except.ok.inj h
    rfl
  | .sequence tag items => fun v h => by
    have hitems := haveDoubles_of_values items
    have hpairs := haveDoubles_of_pairValues items
    rw [Node.value.eq_def] at h
    dsimp only at h
    split at h
    · obtain ⟨vs, hvs, hv⟩ := bind_eq_ok_iff.1 h
      rw [← pure_eq_ok_iff.1 hv]
      exact haveDoubles_iff.2 (hitems vs hvs)
    · obtain ⟨vs, hvs, hv⟩ := bind_eq_ok_iff.1 h
      rw [← pure_eq_ok_iff.1 hv]
      exact haveDoubles_iff.2 (hpairs vs hvs)
    · obtain ⟨vs, hvs, hv⟩ := bind_eq_ok_iff.1 h
      rw [← pure_eq_ok_iff.1 hv]
      exact haveDoubles_iff.2 (hpairs vs hvs)
    · cases h
  | .mapping tag entries => fun v h => by
    have hentries := entriesDouble_of_entryValues entries
    rw [Node.value.eq_def] at h
    dsimp only at h
    split at h
    · obtain ⟨found, hfound, hv⟩ := bind_eq_ok_iff.1 h
      rw [← pure_eq_ok_iff.1 hv]
      obtain ⟨es, hes, hdoubles⟩ := ofEntries_eq (hentries found hfound)
      rw [hes]
      exact entriesHaveDoubles_iff.2 hdoubles
    · obtain ⟨found, hfound, hv⟩ := bind_eq_ok_iff.1 h
      obtain ⟨es, hes, hdoubles⟩ := ofEntries_eq (hentries found hfound)
      rw [hes] at hv
      rw [← pure_eq_ok_iff.1 hv]
      refine haveDoubles_iff.2 fun key hkey => ?_
      obtain ⟨e, he, rfl⟩ := List.mem_map.1 hkey
      exact (hdoubles e he).1
    all_goals first
      | cases h
      | obtain ⟨s, -, h⟩ := bind_eq_ok_iff.1 h
        exact hasDoubles_of_scalarValue h

theorem haveDoubles_of_values : (ns : List Node) → ∀ vs, Node.values ns = .ok vs →
    ∀ v ∈ vs, v.hasDoubles = true
  | [] => fun vs h => by
    rw [Node.values] at h
    obtain rfl := Except.ok.inj h
    exact fun _ hv => absurd hv List.not_mem_nil
  | n :: rest => fun vs h => by
    rw [Node.values] at h
    obtain ⟨v, hv, h⟩ := bind_eq_ok_iff.1 h
    obtain ⟨others, hothers, h⟩ := bind_eq_ok_iff.1 h
    rw [← pure_eq_ok_iff.1 h]
    exact List.forall_mem_cons.2
      ⟨hasDoubles_of_value n v hv, haveDoubles_of_values rest others hothers⟩

theorem haveDoubles_of_pairValues : (ns : List Node) → ∀ vs, Node.pairValues ns = .ok vs →
    ∀ v ∈ vs, v.hasDoubles = true
  | [] => fun vs h => by
    rw [Node.pairValues] at h
    obtain rfl := Except.ok.inj h
    exact fun _ hv => absurd hv List.not_mem_nil
  | .mapping _ [(k, v)] :: rest => fun vs h => by
    rw [Node.pairValues] at h
    obtain ⟨key, hkey, h⟩ := bind_eq_ok_iff.1 h
    obtain ⟨value, hvalue, h⟩ := bind_eq_ok_iff.1 h
    obtain ⟨others, hothers, h⟩ := bind_eq_ok_iff.1 h
    rw [← pure_eq_ok_iff.1 h]
    refine List.forall_mem_cons.2 ⟨?_, haveDoubles_of_pairValues rest others hothers⟩
    rw [hasDoubles, hasDoubles_of_value k key hkey, hasDoubles_of_value v value hvalue]
    rfl
  | .scalar _ _ :: _ => fun vs h => by cases h
  | .cycle _ :: _ => fun vs h => by cases h
  | .sequence _ _ :: _ => fun vs h => by cases h
  | .mapping _ [] :: _ => fun vs h => by cases h
  | .mapping _ (_ :: _ :: _) :: _ => fun vs h => by cases h

theorem entriesDouble_of_entryValues : (entries : List (Node × Node)) → ∀ found,
    Node.entryValues entries = .ok found → EntriesDouble found.all
  | [] => fun found h => by
    rw [Node.entryValues] at h
    obtain rfl := Except.ok.inj h
    exact fun _ he => absurd he List.not_mem_nil
  | (k, v) :: rest => fun found h => by
    have hmerged := entriesDouble_of_mergedEntries v
    have hkey := hasDoubles_of_value k
    have hvalue := hasDoubles_of_value v
    have hrest := entriesDouble_of_entryValues rest
    rw [Node.entryValues.eq_def] at h
    dsimp only at h
    split at h
    next heq => cases heq
    next s node others heq =>
      cases heq
      obtain ⟨merged, hm, h⟩ := bind_eq_ok_iff.1 h
      obtain ⟨more, hmore, h⟩ := bind_eq_ok_iff.1 h
      rw [← pure_eq_ok_iff.1 h, Entries.all, List.append_assoc]
      exact entriesDouble_append (hmerged merged hm) (hrest more hmore)
    next key node others hmerge heq =>
      cases heq
      have hwritten : ∀ key? : Result Value, (∀ key, key? = .ok key → key.hasDoubles = true) →
          (do
            let key ← key?
            if !key.isKey then Except.error .manifestForm
            let value ← v.value
            let more ← Node.entryValues rest
            return { more with own := (key, value) :: more.own } : Result Entries) = .ok found →
          EntriesDouble found.all := by
        intro key? hdoubles h
        obtain ⟨key, hk, h⟩ := bind_eq_ok_iff.1 h
        split at h
        · obtain ⟨_, hrefused, -⟩ := bind_eq_ok_iff.1 h
          cases hrefused
        · obtain ⟨value, hv, h⟩ := bind_eq_ok_iff.1 h
          obtain ⟨more, hmore, h⟩ := bind_eq_ok_iff.1 h
          obtain ⟨hbefore, hafter⟩ := List.forall_mem_append.1 (hrest more hmore)
          rw [← pure_eq_ok_iff.1 h]
          exact entriesDouble_append hbefore
            (List.forall_mem_cons.2 ⟨⟨hdoubles key hk, hvalue value hv⟩, hafter⟩)
      split at h
      next s => exact hwritten (pure (.text s)) (fun key hk => by rw [← pure_eq_ok_iff.1 hk]; rfl) h
      next => exact hwritten k.value hkey h

theorem entriesDouble_of_mergedEntries : (n : Node) → ∀ found, n.mergedEntries = .ok found →
    EntriesDouble found
  | .mapping _ entries => fun found h => by
    rw [Node.mergedEntries] at h
    obtain ⟨all, hall, h⟩ := bind_eq_ok_iff.1 h
    rw [← pure_eq_ok_iff.1 h]
    exact entriesDouble_of_entryValues entries all hall
  | .sequence _ items => fun found h => by
    rw [Node.mergedEntries] at h
    obtain ⟨parts, hparts, h⟩ := bind_eq_ok_iff.1 h
    rw [← pure_eq_ok_iff.1 h]
    intro e he
    rw [lastFirst, List.mem_flatten] at he
    obtain ⟨part, hpart, he⟩ := he
    exact entriesDouble_of_mergedParts items parts hparts part (List.mem_reverse.1 hpart) e he
  | .scalar _ _ => fun _ h => by cases h
  | .cycle _ => fun _ h => by cases h

theorem entriesDouble_of_mergedParts : (ns : List Node) → ∀ parts,
    Node.mergedParts ns = .ok parts → ∀ part ∈ parts, EntriesDouble part
  | [] => fun parts h => by
    rw [Node.mergedParts] at h
    obtain rfl := Except.ok.inj h
    exact fun _ hpart => absurd hpart List.not_mem_nil
  | .mapping _ entries :: rest => fun parts h => by
    rw [Node.mergedParts] at h
    obtain ⟨head, hhead, h⟩ := bind_eq_ok_iff.1 h
    obtain ⟨others, hothers, h⟩ := bind_eq_ok_iff.1 h
    rw [← pure_eq_ok_iff.1 h]
    exact List.forall_mem_cons.2 ⟨entriesDouble_of_entryValues entries head hhead,
      entriesDouble_of_mergedParts rest others hothers⟩
  | .scalar _ _ :: _ => fun _ h => by cases h
  | .cycle _ :: _ => fun _ h => by cases h
  | .sequence _ _ :: _ => fun _ h => by cases h

end

/-! ### Documents and their parts -/

theorem hasDoubles_of_mem_documents {text : String} {r : Result Value} (h : r ∈ documents text)
    {v : Value} (hv : r = .ok v) : v.hasDoubles = true := by
  obtain ⟨node?, -, rfl⟩ := List.mem_map.1 h
  obtain ⟨node, -, hnode⟩ := bind_eq_ok_iff.1 hv
  exact hasDoubles_of_value node v hnode

theorem hasDoubles_of_singleDocument {text : String} {v : Value}
    (h : singleDocument text = .ok v) : v.hasDoubles = true := by
  rw [singleDocument] at h
  split at h
  · rw [← pure_eq_ok_iff.1 h]
    rfl
  · obtain ⟨node, -, hnode⟩ := bind_eq_ok_iff.1 h
    exact hasDoubles_of_value node v hnode
  · cases h
  · cases h

namespace Value

variable {v found : Value} {key : String}

theorem hasDoubles_of_lookup {key : Value} {entries : List (Value × Value)}
    (hentries : EntriesDouble entries) (h : lookup key entries = some found) :
    found.hasDoubles = true := by
  induction entries with
  | nil => cases h
  | cons e rest ih =>
    obtain ⟨he, hrest⟩ := List.forall_mem_cons.1 hentries
    rw [lookup] at h
    split at h
    · obtain rfl := Option.some.inj h
      exact he.2
    · exact ih hrest h

theorem hasDoubles_of_get (hv : v.hasDoubles = true) (h : v.get key = .ok found) :
    found.hasDoubles = true := by
  cases v with
  | map entries =>
    obtain rfl := Except.ok.inj h
    cases hlookup : lookup (.text key) entries with
    | none => rfl
    | some w => exact hasDoubles_of_lookup (entriesHaveDoubles_iff.1 hv) hlookup
  | _ => cases h

theorem hasDoubles_orEmptyMap (hv : v.hasDoubles = true) : v.orEmptyMap.hasDoubles = true := by
  rw [orEmptyMap]
  split
  · exact hv
  · rfl

theorem hasDoubles_orEmptyList (hv : v.hasDoubles = true) : v.orEmptyList.hasDoubles = true := by
  rw [orEmptyList]
  split
  · exact hv
  · rfl

theorem hasDoubles_of_items (hv : v.hasDoubles = true) {items : List Value}
    (h : v.items = .ok items) : ∀ item ∈ items, item.hasDoubles = true := by
  cases v with
  | list vs | set vs =>
    obtain rfl := Except.ok.inj h
    exact haveDoubles_iff.1 hv
  | pair k w =>
    obtain rfl := Except.ok.inj h
    rw [hasDoubles, Bool.and_eq_true] at hv
    exact List.forall_mem_cons.2 ⟨hv.1, List.forall_mem_singleton.2 hv.2⟩
  | map entries =>
    obtain rfl := Except.ok.inj h
    intro item hitem
    obtain ⟨e, he, rfl⟩ := List.mem_map.1 hitem
    exact (entriesHaveDoubles_iff.1 hv e he).1
  | text s =>
    obtain rfl := Except.ok.inj h
    intro item hitem
    obtain ⟨c, -, rfl⟩ := List.mem_map.1 hitem
    rfl
  | bytes bs =>
    obtain rfl := Except.ok.inj h
    intro item hitem
    obtain ⟨b, -, rfl⟩ := List.mem_map.1 hitem
    rfl
  | cycle isMap =>
    obtain rfl := Except.ok.inj h
    exact List.forall_mem_singleton.2 rfl
  | _ => cases h

end Value

end RepoAtlas.Yaml
