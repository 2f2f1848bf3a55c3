import RepoAtlas.Proofs.Json.RoundTrip
import RepoAtlas.Yaml.Value

/-!
Which values JSON has a form for, and which it has as they are. A value that has a form but is not
itself of a kind that JSON knows is written, and something else is read back.
-/
namespace RepoAtlas

/-! ### Documents without a text -/

namespace Doc

mutual

/-- Whether a scalar in the document has no JSON form. -/
def holdsForeign : Doc → Bool
  | .foreign _ => true
  | .list items => anyHoldsForeign items
  | .object ms => memberHoldsForeign ms
  | _ => false

def anyHoldsForeign : List Doc → Bool
  | [] => false
  | d :: rest => holdsForeign d || anyHoldsForeign rest

def memberHoldsForeign : List (String × Doc) → Bool
  | [] => false
  | (_, d) :: rest => holdsForeign d || memberHoldsForeign rest

end

theorem memberHoldsForeign_eq_any (ms : List (String × Doc)) :
    memberHoldsForeign ms = ms.any (·.2.holdsForeign) := by
  induction ms with
  | nil => rfl
  | cons m rest ih => rw [memberHoldsForeign, ih, List.any_cons]

mutual

/-- A document has a text unless it holds a scalar without JSON form. -/
theorem isSome_encodeAt (depth : Nat) : (d : Doc) →
    (Json.encodeAt (fun _ => none) depth d).isSome = !d.holdsForeign
  | .null | .bool _ | .int _ | .float _ | .text _ => rfl
  | .foreign _ => rfl
  | .list [] => rfl
  | .list (d :: rest) => by
    have hitems := isSome_encodeItems (depth + 1) (d :: rest)
    rw [Json.encodeAt, holdsForeign, ← hitems]
    · cases Json.encodeItems (fun _ => none) (depth + 1) (d :: rest) <;> rfl
    · exact fun h => by cases h
  | .object [] => rfl
  | .object (m :: rest) => by
    have hmembers := isSome_encodeMembers (depth + 1) (m :: rest)
    rw [Json.encodeAt, holdsForeign, ← hmembers]
    · cases Json.encodeMembers (fun _ => none) (depth + 1) (m :: rest) <;> rfl
    · exact fun h => by cases h

theorem isSome_encodeItems (depth : Nat) : (items : List Doc) →
    (Json.encodeItems (fun _ => none) depth items).isSome = !anyHoldsForeign items
  | [] => rfl
  | d :: rest => by
    rw [Json.encodeItems, anyHoldsForeign, Bool.not_or, ← isSome_encodeAt depth d,
      ← isSome_encodeItems depth rest]
    cases Json.encodeAt (fun _ => none) depth d with
    | none => rfl
    | some text => cases Json.encodeItems (fun _ => none) depth rest <;> rfl

theorem isSome_encodeMembers (depth : Nat) : (ms : List (String × Doc)) →
    (Json.encodeMembers (fun _ => none) depth ms).isSome = !memberHoldsForeign ms
  | [] => rfl
  | (name, d) :: rest => by
    rw [Json.encodeMembers, memberHoldsForeign, Bool.not_or, ← isSome_encodeAt depth d,
      ← isSome_encodeMembers depth rest]
    cases Json.encodeAt (fun _ => none) depth d with
    | none => rfl
    | some text => cases Json.encodeMembers (fun _ => none) depth rest <;> rfl

end

theorem encode?_eq_none_iff {d : Doc} : Json.encode? d = none ↔ d.holdsForeign = true := by
  have hsome := isSome_encodeAt 0 d
  rw [Json.encode?, ← Option.not_isSome_iff_eq_none, hsome]
  simp

theorem holdsForeign_of_isSpelt {d : Doc} (h : d.isSpelt = true) : d.holdsForeign = false := by
  obtain ⟨text, htext, -⟩ := Json.decode?_encode? h
  rw [Bool.eq_false_iff]
  intro hforeign
  rw [encode?_eq_none_iff.2 hforeign] at htext
  cases htext

end Doc

namespace Yaml.Value

mutual

/-- The kinds of JSON: null, truth values, numbers, texts, lists, and maps from distinct texts. -/
def isJson : Value → Bool
  | .null | .bool _ | .int _ | .float _ | .text _ => true
  | .list items => areJson items
  | .map entries => decide (entries.map (·.1.memberName)).Nodup && entriesAreJson entries
  | _ => false

def areJson : List Value → Bool
  | [] => true
  | v :: rest => isJson v && areJson rest

def entriesAreJson : List (Value × Value) → Bool
  | [] => true
  | (.text _, v) :: rest => isJson v && entriesAreJson rest
  | _ => false

end

mutual

/-- The value that a JSON document is. -/
def ofDoc : Doc → Value
  | .null | .foreign _ => .null
  | .bool b => .bool b
  | .int i => .int i
  | .float x => .float x
  | .text s => .text s
  | .list items => .list (ofDocs items)
  | .object ms => .map (ofMembers ms)

def ofDocs : List Doc → List Value
  | [] => []
  | d :: rest => ofDoc d :: ofDocs rest

def ofMembers : List (String × Doc) → List (Value × Value)
  | [] => []
  | (name, d) :: rest => (.text name, ofDoc d) :: ofMembers rest

end

mutual

/-- Every number in the value is a double. -/
def hasDoubles : Value → Bool
  | .float x => x.isDouble
  | .list items | .set items => haveDoubles items
  | .pair k v => hasDoubles k && hasDoubles v
  | .map entries => entriesHaveDoubles entries
  | _ => true

def haveDoubles : List Value → Bool
  | [] => true
  | v :: rest => hasDoubles v && haveDoubles rest

def entriesHaveDoubles : List (Value × Value) → Bool
  | [] => true
  | (k, v) :: rest => hasDoubles k && hasDoubles v && entriesHaveDoubles rest

end

theorem toMembers_eq_map (entries : List (Value × Value)) :
    toMembers entries = entries.map (fun e => (e.1.memberName, e.2.toDoc)) := by
  induction entries with
  | nil => rfl
  | cons e rest ih => rw [toMembers, ih, List.map_cons]

theorem ofMembers_eq_map (ms : List (String × Doc)) :
    ofMembers ms = ms.map (fun m => (.text m.1, ofDoc m.2)) := by
  induction ms with
  | nil => rfl
  | cons m rest ih => rw [ofMembers, ih, List.map_cons]

theorem all_namesMember_of_entriesFitJson {entries : List (Value × Value)}
    (h : entriesFitJson entries = true) : entries.all (·.1.namesMember) = true := by
  induction entries with
  | nil => rfl
  | cons e rest ih =>
    rw [entriesFitJson, Bool.and_eq_true, Bool.and_eq_true] at h
    rw [List.all_cons, h.1.1, ih h.2]
    rfl

/-- The document of a map: its members, or a scalar without JSON form. -/
theorem toDoc_map_cases (entries : List (Value × Value)) :
    (entriesFitJson entries = true ∧
        (Value.map entries).toDoc = Doc.ofMembers (toMembers entries)) ∨
      entriesFitJson entries = false ∧
        (((toMembers entries).map (·.1)).Nodup ∧ entries.all (·.1.namesMember) = true ∧
            (Value.map entries).toDoc = .object (toMembers entries) ∨
          ∃ shown, (Value.map entries).toDoc = .foreign shown) := by
  rw [toDoc]
  cases entriesFitJson entries with
  | true => exact Or.inl ⟨rfl, rfl⟩
  | false =>
    refine Or.inr ⟨rfl, ?_⟩
    rw [Bool.false_or]
    by_cases hnames : (entries.all (·.1.namesMember) &&
        decide ((toMembers entries).map (·.1)).Nodup) = true
    · rw [if_pos hnames]
      rw [Bool.and_eq_true, decide_eq_true_iff] at hnames
      exact Or.inl ⟨hnames.2, hnames.1, Doc.ofMembers_eq hnames.2⟩
    · rw [if_neg hnames]
      split
      · exact Or.inr ⟨_, rfl⟩
      · exact Or.inr ⟨_, rfl⟩

mutual

/-- The document of a value has a text exactly if JSON has a form for the value. -/
theorem holdsForeign_toDoc : (v : Value) → v.toDoc.holdsForeign = !v.fitsJson
  | .null | .bool _ | .int _ | .float _ | .text _ => rfl
  | .bytes _ | .moment _ | .set _ | .cycle _ => rfl
  | .list items => anyHoldsForeign_toDocs items
  | .pair k v => by
    rw [toDoc, Doc.holdsForeign, Doc.anyHoldsForeign, Doc.anyHoldsForeign, Doc.anyHoldsForeign,
      holdsForeign_toDoc k, holdsForeign_toDoc v, Bool.or_false, fitsJson, Bool.not_and]
  | .map entries => by
    have hmembers := memberHoldsForeign_toMembers entries
    rw [fitsJson]
    rcases toDoc_map_cases entries with ⟨hfit, hdoc⟩ | ⟨hfit, ⟨-, hnames, hdoc⟩ | ⟨shown, hdoc⟩⟩
    · have hnone := hmembers (all_namesMember_of_entriesFitJson hfit)
      rw [hfit, Bool.not_true, Doc.memberHoldsForeign_eq_any, List.any_eq_false] at hnone
      rw [hdoc, hfit, Doc.ofMembers, Doc.holdsForeign, Doc.memberHoldsForeign_eq_any,
        Bool.not_true, List.any_eq_false]
      exact fun m hm => hnone m (OrderedMap.mem_of_mem_ofList hm)
    · rw [hdoc, Doc.holdsForeign, hmembers hnames]
    · rw [hdoc, hfit]
      rfl

theorem anyHoldsForeign_toDocs : (items : List Value) →
    Doc.anyHoldsForeign (toDocs items) = !allFitJson items
  | [] => rfl
  | v :: rest => by
    rw [toDocs, Doc.anyHoldsForeign, holdsForeign_toDoc v, anyHoldsForeign_toDocs rest, allFitJson,
      Bool.not_and]

theorem memberHoldsForeign_toMembers : (entries : List (Value × Value)) →
    entries.all (·.1.namesMember) = true →
      Doc.memberHoldsForeign (toMembers entries) = !entriesFitJson entries
  | [], _ => rfl
  | (k, v) :: rest, h => by
    rw [List.all_cons, Bool.and_eq_true] at h
    rw [toMembers, Doc.memberHoldsForeign, holdsForeign_toDoc v,
      memberHoldsForeign_toMembers rest h.2, entriesFitJson, h.1, Bool.true_and, Bool.not_and]

end

mutual

/-- If JSON has a form for a value, its document can be spelt. -/
theorem isSpelt_toDoc : (v : Value) → v.hasDoubles = true → v.fitsJson = true →
    v.toDoc.isSpelt = true
  | .null, _, _ | .bool _, _, _ | .int _, _, _ | .text _, _, _ => rfl
  | .float _, hdoubles, _ => hdoubles
  | .list items, hdoubles, hfits =>
    Doc.isSpeltBy_list_iff.2 (areSpelt_toDocs items hdoubles hfits)
  | .pair k v, hdoubles, hfits => by
    rw [hasDoubles, Bool.and_eq_true] at hdoubles
    rw [fitsJson, Bool.and_eq_true] at hfits
    refine Doc.isSpeltBy_list_iff.2 (List.forall_mem_cons.2 ⟨?_, List.forall_mem_singleton.2 ?_⟩)
    · exact isSpelt_toDoc k hdoubles.1 hfits.1
    · exact isSpelt_toDoc v hdoubles.2 hfits.2
  | .map entries, hdoubles, hfits => by
    rcases toDoc_map_cases entries with ⟨-, hdoc⟩ | ⟨hnot, -⟩
    · rw [hdoc, Doc.ofMembers]
      refine Doc.isSpeltBy_object_iff.2 ⟨OrderedMap.nodup_keys_ofList _, fun m hm => ?_⟩
      exact membersAreSpelt_toMembers entries hdoubles hfits m (OrderedMap.mem_of_mem_ofList hm)
    · rw [fitsJson, hnot] at hfits
      cases hfits

theorem areSpelt_toDocs : (items : List Value) → haveDoubles items = true →
    allFitJson items = true → ∀ d ∈ toDocs items, d.isSpelt = true
  | [], _, _ => fun _ hd => by cases hd
  | v :: rest, hdoubles, hfits => by
    rw [haveDoubles, Bool.and_eq_true] at hdoubles
    rw [allFitJson, Bool.and_eq_true] at hfits
    rw [toDocs]
    exact List.forall_mem_cons.2 ⟨isSpelt_toDoc v hdoubles.1 hfits.1,
      areSpelt_toDocs rest hdoubles.2 hfits.2⟩

theorem membersAreSpelt_toMembers : (entries : List (Value × Value)) →
    entriesHaveDoubles entries = true → entriesFitJson entries = true →
      ∀ m ∈ toMembers entries, m.2.isSpelt = true
  | [], _, _ => fun _ hm => by cases hm
  | (k, v) :: rest, hdoubles, hfits => by
    rw [entriesHaveDoubles, Bool.and_eq_true, Bool.and_eq_true] at hdoubles
    rw [entriesFitJson, Bool.and_eq_true, Bool.and_eq_true] at hfits
    rw [toMembers]
    exact List.forall_mem_cons.2 ⟨isSpelt_toDoc v hdoubles.1.2 hfits.1.2,
      membersAreSpelt_toMembers rest hdoubles.2 hfits.2⟩

end

mutual

/-- A value of the kinds of JSON is the value of its document. -/
theorem ofDoc_toDoc : (v : Value) → v.isJson = true → v.fitsJson = true ∧ ofDoc v.toDoc = v
  | .null, _ | .bool _, _ | .int _, _ | .float _, _ | .text _, _ => ⟨rfl, rfl⟩
  | .list items, h => by
    obtain ⟨hfits, hback⟩ := ofDocs_toDocs items h
    exact ⟨hfits, by rw [toDoc, ofDoc, hback]⟩
  | .map entries, h => by
    rw [isJson, Bool.and_eq_true, decide_eq_true_iff] at h
    obtain ⟨hfits, hback⟩ := ofMembers_toMembers entries h.2
    refine ⟨hfits, ?_⟩
    have hnames : ((toMembers entries).map (·.1)).Nodup := by
      rw [toMembers_eq_map, List.map_map]
      exact h.1
    rcases toDoc_map_cases entries with ⟨-, hdoc⟩ | ⟨hnot, -⟩
    · rw [hdoc, Doc.ofMembers_eq hnames, ofDoc, hback]
    · rw [hfits] at hnot
      cases hnot

theorem ofDocs_toDocs : (items : List Value) → areJson items = true →
    allFitJson items = true ∧ ofDocs (toDocs items) = items
  | [], _ => ⟨rfl, rfl⟩
  | v :: rest, h => by
    rw [areJson, Bool.and_eq_true] at h
    obtain ⟨hfits, hback⟩ := ofDoc_toDoc v h.1
    obtain ⟨hrest, hothers⟩ := ofDocs_toDocs rest h.2
    rw [allFitJson, hfits, hrest, toDocs, ofDocs, hback, hothers]
    exact ⟨rfl, rfl⟩

theorem ofMembers_toMembers : (entries : List (Value × Value)) → entriesAreJson entries = true →
    entriesFitJson entries = true ∧ ofMembers (toMembers entries) = entries
  | [], _ => ⟨rfl, rfl⟩
  | (.text s, v) :: rest, h => by
    rw [entriesAreJson, Bool.and_eq_true] at h
    obtain ⟨hfits, hback⟩ := ofDoc_toDoc v h.1
    obtain ⟨hrest, hothers⟩ := ofMembers_toMembers rest h.2
    rw [entriesFitJson, hfits, hrest, toMembers, ofMembers, hback, hothers]
    exact ⟨rfl, rfl⟩
  | (.null, _) :: _, h | (.bool _, _) :: _, h | (.int _, _) :: _, h | (.float _, _) :: _, h => by
    cases h
  | (.bytes _, _) :: _, h | (.moment _, _) :: _, h | (.list _, _) :: _, h => by cases h
  | (.pair _ _, _) :: _, h | (.map _, _) :: _, h | (.set _, _) :: _, h => by cases h
  | (.cycle _, _) :: _, h => by cases h

end

mutual

/-- A document that can be spelt is a value of the kinds of JSON. -/
theorem isJson_ofDoc : (d : Doc) → d.isSpelt = true → (ofDoc d).isJson = true
  | .null, _ | .bool _, _ | .int _, _ | .float _, _ | .text _, _ => rfl
  | .foreign _, h => by cases h
  | .list items, h => areJson_ofDocs items h
  | .object ms, h => by
    rw [Doc.isSpelt, Doc.isSpeltBy, Bool.and_eq_true, decide_eq_true_iff] at h
    rw [ofDoc, isJson, Bool.and_eq_true, decide_eq_true_iff]
    rw [ofMembers_eq_map, List.map_map]
    exact ⟨h.1, ofMembers_eq_map ms ▸ entriesAreJson_ofMembers ms h.2⟩

theorem areJson_ofDocs : (items : List Doc) → Doc.areSpeltBy Binary64.isDouble items = true →
    areJson (ofDocs items) = true
  | [], _ => rfl
  | d :: rest, h => by
    rw [Doc.areSpeltBy, Bool.and_eq_true] at h
    rw [ofDocs, areJson, isJson_ofDoc d h.1, areJson_ofDocs rest h.2]
    rfl

theorem entriesAreJson_ofMembers : (ms : List (String × Doc)) →
    Doc.membersAreSpeltBy Binary64.isDouble ms = true → entriesAreJson (ofMembers ms) = true
  | [], _ => rfl
  | (name, d) :: rest, h => by
    rw [Doc.membersAreSpeltBy, Bool.and_eq_true] at h
    rw [ofMembers, entriesAreJson, isJson_ofDoc d h.1, entriesAreJson_ofMembers rest h.2]
    rfl

end

/-- A value is of the kinds of JSON exactly if it is written and read back as it is. -/
theorem isJson_iff {v : Value} (hdoubles : v.hasDoubles = true) :
    v.isJson = true ↔ v.fitsJson = true ∧ ofDoc v.toDoc = v := by
  constructor
  · exact ofDoc_toDoc v
  · rintro ⟨hfits, hback⟩
    rw [← hback]
    exact isJson_ofDoc _ (isSpelt_toDoc v hdoubles hfits)

end Yaml.Value

end RepoAtlas
