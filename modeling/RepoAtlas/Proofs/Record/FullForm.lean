import Mathlib.Data.List.Forall2
import RepoAtlas.Proofs.OrderedMap
import RepoAtlas.Proofs.Outcome
import RepoAtlas.Record.Schema

/-!
The full form of a record's document. Whatever document a record is read from, its full form has
each member once, and reading that gives the same record again.
-/
namespace RepoAtlas

/-- The value that a member of a document is taken over with. -/
def Member.taken (m : Member) (ms : List (String × Doc)) : Result Doc :=
  match m.given ms with
  | none => m.substitute ms
  | some v => conformValue m.shape v

/-- The choice of the kind, if it has one, holds for a document. -/
def RecordKind.Allows (kind : RecordKind) (d : Doc) : Prop :=
  ∀ choice ∈ kind.choice?, choice.check d = .ok ()

/-- A document is in full form once each member is taken over and the choice is checked. -/
theorem conform_object (kind : RecordKind) (ms : List (String × Doc)) :
    conform kind (.object ms) = (do
      let full ← kind.members.mapM (fun m => do return (m.name, ← m.taken ms))
      if let some choice := kind.choice? then choice.check (.object full)
      return .object full) := by
  rw [conform]
  congr 2
  funext m
  rw [Member.taken]
  split
  next h => simp only [h]
  next h => simp only [h]

theorem conform_object_eq_ok_iff {kind : RecordKind} {ms : List (String × Doc)} {full : Doc} :
    conform kind (.object ms) = .ok full ↔ ∃ entries, full = .object entries ∧
      List.Forall₂ (fun m e => e.1 = m.name ∧ m.taken ms = .ok e.2) kind.members entries ∧
        kind.Allows full := by
  have hentry : ∀ (m : Member) (e : String × Doc),
      (do return (m.name, ← m.taken ms) : Result (String × Doc)) = .ok e ↔
        e.1 = m.name ∧ m.taken ms = .ok e.2 := by
    intro m e
    rw [bind_eq_ok_iff]
    simp only [pure_eq_ok_iff]
    constructor
    · rintro ⟨value, hvalue, rfl⟩
      exact ⟨rfl, hvalue⟩
    · rintro ⟨hname, hvalue⟩
      exact ⟨e.2, hvalue, by rw [← hname]⟩
  have hchecked : ∀ entries, (do
      if let some choice := kind.choice? then choice.check (.object entries)
      return .object entries : Result Doc) = .ok full ↔
        full = .object entries ∧ kind.Allows full := by
    intro entries
    rw [RecordKind.Allows]
    cases kind.choice? with
    | none => simp [pure, Except.pure, eq_comm]
    | some choice =>
      simp only [bind_eq_ok_iff, pure_eq_ok_iff, Option.mem_some_iff, forall_eq']
      constructor
      · rintro ⟨_, hcheck, rfl⟩
        exact ⟨rfl, hcheck⟩
      · rintro ⟨rfl, hcheck⟩
        exact ⟨_, hcheck, rfl⟩
  rw [conform_object, bind_eq_ok_iff]
  simp only [mapM_eq_ok_iff_forall₂, hentry, hchecked]
  exact exists_congr fun entries => and_left_comm

/-- A member that is read as it stands. -/
def Member.Stands (m : Member) (e : String × Doc) : Prop :=
  e.1 = m.name ∧ conformValue m.shape e.2 = .ok e.2 ∧
    ∀ d, m.missing = .orEmpty d → e.2.isTruthy = true

theorem RecordKind.nodup_names (kind : RecordKind) : (kind.members.map (·.name)).Nodup := by
  cases kind <;> decide

/-- Members in the order of their kind are found by their names. -/
theorem lookup_of_forall₂ {kind : RecordKind} {R : Member → String × Doc → Prop}
    {entries : List (String × Doc)} (hnames : ∀ m e, R m e → e.1 = m.name)
    (h : List.Forall₂ R kind.members entries) :
    List.Forall₂ (fun m e => OrderedMap.lookup m.name entries = some e.2 ∧ R m e)
      kind.members entries := by
  have hkeys : kind.members.map (·.name) = entries.map (·.1) := by
    rw [← List.forall₂_eq_eq_eq, List.forall₂_map_left_iff, List.forall₂_map_right_iff]
    exact h.imp fun m e he => (hnames m e he).symm
  refine (forall₂_mem h).imp fun m e he => ⟨?_, he.2⟩
  rw [← hnames m e he.2]
  exact OrderedMap.lookup_of_mem (hkeys ▸ kind.nodup_names) he.1.2

/-- A document whose members stand is its own full form. -/
theorem conform_of_stands {kind : RecordKind} {entries : List (String × Doc)}
    (h : List.Forall₂ Member.Stands kind.members entries)
    (hallows : kind.Allows (.object entries)) :
    conform kind (.object entries) = .ok (.object entries) := by
  refine conform_object_eq_ok_iff.2 ⟨entries, rfl, ?_, hallows⟩
  refine (lookup_of_forall₂ (fun _ _ he => he.1) h).imp fun m e he => ?_
  obtain ⟨hlookup, hname, hvalue, htruthy⟩ := he
  have hgiven : m.given entries = some e.2 := by
    rw [Member.given, hlookup]
    cases hmissing : m.missing with
    | orEmpty d => exact if_pos (htruthy d hmissing)
    | _ => rfl
  rw [Member.taken, hgiven]
  exact ⟨hname, hvalue⟩

theorem RecordKind.allows_of_no_choice {kind : RecordKind} {d : Doc}
    (hchoice : kind.choice? = none) : kind.Allows d := by
  intro choice hmem
  rw [hchoice] at hmem
  cases hmem

theorem RecordKind.allows_of_text {kind : RecordKind} {choice : Choice} {d : Doc} {text : String}
    (hchoice : kind.choice? = some choice) (hget : d.get? choice.member = some (.text text))
    (htext : text ∈ choice.choices) : kind.Allows d := by
  intro other hother
  obtain rfl := Option.some.inj (hchoice.symm.trans hother)
  simp [Choice.check, hget, htext]

/-! ### Values of members -/

@[simp] theorem conformValue_asIs (v : Doc) : conformValue .asIs v = .ok v := by
  rw [conformValue]

theorem conformValue_flag (v : Doc) : conformValue .flag v = .ok (.bool v.isTruthy) := by
  rw [conformValue]

theorem conformValue_whole (v : Doc) : conformValue .whole v = (do return .int (← v.toWhole)) := by
  rw [conformValue]

theorem conformValue_items (v : Doc) : conformValue .items v = (do return .list (← v.toItems)) := by
  rw [conformValue]

@[simp] theorem conformValue_bool (b : Bool) : conformValue .flag (.bool b) = .ok (.bool b) :=
  conformValue_flag _

@[simp] theorem conformValue_int (i : Int) : conformValue .whole (.int i) = .ok (.int i) :=
  conformValue_whole _

@[simp] theorem conformValue_list (items : List Doc) :
    conformValue .items (.list items) = .ok (.list items) :=
  conformValue_items _

@[simp] theorem conformValue_one (kind : RecordKind) (v : Doc) :
    conformValue (.one kind) v = conform kind v := by
  rw [conformValue]

theorem conformValue_many_list (kind : RecordKind) (items : List Doc) :
    conformValue (.many kind) (.list items) = (do return .list (← items.mapM (conform kind))) := by
  rw [conformValue, List.mapM_subtype fun _ _ => rfl, List.unattach_attach]

/-- A value that is no list holds no records. -/
theorem empty_of_conformValue_many {kind : RecordKind} {v value : Doc}
    (hlist : ∀ items, v ≠ .list items) (h : conformValue (.many kind) v = .ok value) :
    v.toItems = .ok [] ∧ value = .list [] := by
  have hwalk : conformValue (.many kind) v = (do
      let items ← v.toItems
      if items.isEmpty then return .list [] else .error kind.refusal) := by
    rw [conformValue]
    exact fun items hitems => hlist items hitems
  rw [hwalk, bind_eq_ok_iff] at h
  obtain ⟨items, hitems, h⟩ := h
  split at h
  next hempty =>
    rw [List.isEmpty_iff.1 hempty] at hitems
    exact ⟨hitems, (pure_eq_ok_iff.1 h).symm⟩
  next => cases h

/-- Records are taken over one by one. -/
theorem items_of_conformValue_many {kind : RecordKind} {v value : Doc}
    (h : conformValue (.many kind) v = .ok value) : ∃ items full, v.toItems = .ok items ∧
      items.mapM (conform kind) = .ok full ∧ value = .list full := by
  by_cases hlist : ∃ items, v = .list items
  · obtain ⟨items, rfl⟩ := hlist
    rw [conformValue_many_list, bind_eq_ok_iff] at h
    obtain ⟨full, hfull, hvalue⟩ := h
    exact ⟨items, full, rfl, hfull, (pure_eq_ok_iff.1 hvalue).symm⟩
  · obtain ⟨hitems, hvalue⟩ := empty_of_conformValue_many (fun items hv => hlist ⟨items, hv⟩) h
    exact ⟨[], [], hitems, rfl, hvalue⟩

/-- Records in full form are taken over as they stand. -/
theorem conformValue_many_full {kind : RecordKind} {items : List Doc}
    (h : ∀ d ∈ items, conform kind d = .ok d) :
    conformValue (.many kind) (.list items) = .ok (.list items) := by
  rw [conformValue_many_list, mapM_eq_ok_map h, List.map_id']
  rfl

/-- What stands for a member has the shape of the member. -/
def Member.isSound (m : Member) : Bool :=
  match m.missing, m.shape with
  | .refused, _ | .value _, .asIs | .copyOf _, .asIs => true
  | .value (.bool _), .flag | .value (.int _), .whole => true
  | .value (.list _), .items | .value (.list []), .many _ => true
  | .orEmpty _, .one .typeRef => true
  | _, _ => false

theorem RecordKind.isSound_members (kind : RecordKind) : ∀ m ∈ kind.members, m.isSound = true := by
  cases kind <;> simp [members, Member.isSound, empty]

/-- A reference with generics in full form is in full form. -/
theorem conform_typeRef (name raw : Doc) (optional isCollection : Bool) {generics : List Doc}
    (h : ∀ d ∈ generics, conform .typeRef d = .ok d) :
    conform .typeRef (.object [("name", name), ("raw", raw), ("optional", .bool optional),
      ("is_collection", .bool isCollection), ("generics", .list generics)]) =
        .ok (.object [("name", name), ("raw", raw), ("optional", .bool optional),
          ("is_collection", .bool isCollection), ("generics", .list generics)]) := by
  refine conform_of_stands ?_ (RecordKind.allows_of_no_choice rfl)
  simp [RecordKind.members, Member.Stands, RecordKind.empty, conformValue_many_full h]

/-- What stands for a member that is not given is taken over as it stands. -/
theorem conformValue_substitute {m : Member} (hsound : m.isSound = true)
    {ms : List (String × Doc)} {value : Doc} (h : m.substitute ms = .ok value) :
    conformValue m.shape value = .ok value := by
  obtain ⟨name, shape, missing⟩ := m
  rw [Member.substitute] at h
  cases missing with
  | refused => cases h
  | value d =>
    obtain rfl := Except.ok.inj h
    match shape, d, hsound with
    | .asIs, d, _ => exact conformValue_asIs d
    | .flag, .bool b, _ => exact conformValue_bool b
    | .whole, .int i, _ => exact conformValue_int i
    | .items, .list items, _ => exact conformValue_list items
    | .many kind, .list [], _ => exact conformValue_many_full fun _ hd => by cases hd
  | copyOf other =>
    match shape, hsound with
    | .asIs, _ => exact conformValue_asIs value
  | orEmpty d =>
    obtain rfl := Except.ok.inj h
    match shape, hsound with
    | .one .typeRef, _ =>
      rw [conformValue_one]
      exact conform_typeRef _ _ _ _ fun _ hd => by cases hd

/-- A record in full form counts as given. -/
theorem isTruthy_of_conform {kind : RecordKind} {d full : Doc} (h : conform kind d = .ok full) :
    full.isTruthy = true := by
  cases d with
  | object ms =>
    obtain ⟨entries, rfl, hentries, -⟩ := conform_object_eq_ok_iff.1 h
    have hsome : entries ≠ [] := by
      rintro rfl
      have hnone := List.forall₂_nil_right_iff.1 hentries
      cases kind <;> cases hnone
    simpa [Doc.isTruthy] using hsome
  | _ => simp [conform] at h

theorem isTruthy_of_orEmpty {m : Member} (hsound : m.isSound = true) {d value : Doc}
    (hmissing : m.missing = .orEmpty d) (h : conformValue m.shape value = .ok value) :
    value.isTruthy = true := by
  obtain ⟨name, shape, missing⟩ := m
  obtain rfl : missing = .orEmpty d := hmissing
  match shape, hsound with
  | .one .typeRef, _ => exact isTruthy_of_conform ((conformValue_one _ _).symm.trans h)

/-! ### The full form of a full form -/

mutual

/-- In the full form of a record's document each member stands. -/
theorem stands_of_conform {kind : RecordKind} {d full : Doc} (h : conform kind d = .ok full) :
    ∃ entries, full = .object entries ∧ List.Forall₂ Member.Stands kind.members entries ∧
      kind.Allows full := by
  match d with
  | .object ms =>
    obtain ⟨entries, rfl, hentries, hallows⟩ := conform_object_eq_ok_iff.1 h
    refine ⟨entries, rfl, (forall₂_mem hentries).imp fun m e he => ?_, hallows⟩
    obtain ⟨⟨hm, -⟩, hname, htaken⟩ := he
    have hsound := kind.isSound_members m hm
    have hvalue : conformValue m.shape e.2 = .ok e.2 := by
      rw [Member.taken] at htaken
      cases hgiven : m.given ms with
      | none =>
        rw [hgiven] at htaken
        exact conformValue_substitute hsound htaken
      | some v =>
        rw [hgiven] at htaken
        have := Doc.sizeOf_lookup_lt (Member.lookup_of_given hgiven)
        exact conformValue_full htaken
    exact ⟨hname, hvalue, fun _ hmissing => isTruthy_of_orEmpty hsound hmissing hvalue⟩
  | .null | .bool _ | .int _ | .float _ | .text _ | .list _ | .foreign _ => simp [conform] at h
termination_by (sizeOf d, 0)
decreasing_by
  exact Prod.Lex.left _ _ this

/-- The value that a member is taken over with is taken over as it stands. -/
theorem conformValue_full {shape : Shape} {v value : Doc} (h : conformValue shape v = .ok value) :
    conformValue shape value = .ok value := by
  match shape with
  | .asIs => exact conformValue_asIs value
  | .flag =>
    rw [conformValue_flag] at h
    obtain rfl := Except.ok.inj h
    exact conformValue_bool _
  | .whole =>
    rw [conformValue_whole, bind_eq_ok_iff] at h
    obtain ⟨i, -, hi⟩ := h
    obtain rfl := pure_eq_ok_iff.1 hi
    exact conformValue_int i
  | .items =>
    rw [conformValue_items, bind_eq_ok_iff] at h
    obtain ⟨items, -, hitems⟩ := h
    obtain rfl := pure_eq_ok_iff.1 hitems
    exact conformValue_list items
  | .one kind =>
    rw [conformValue_one] at h ⊢
    obtain ⟨entries, rfl, hentries, hallows⟩ := stands_of_conform h
    exact conform_of_stands hentries hallows
  | .many kind =>
    by_cases hlist : ∃ items, v = .list items
    · obtain ⟨items, hv⟩ := hlist
      rw [hv, conformValue_many_list, bind_eq_ok_iff] at h
      obtain ⟨full, hfull, hvalue⟩ := h
      obtain rfl := pure_eq_ok_iff.1 hvalue
      refine conformValue_many_full fun d hd => ?_
      obtain ⟨item, hitem, hconform⟩ := mem_of_mapM_eq_ok hfull hd
      have : sizeOf item < sizeOf v := by
        have := List.sizeOf_lt_of_mem hitem
        rw [hv, Doc.list.sizeOf_spec]
        omega
      obtain ⟨entries, rfl, hentries, hallows⟩ := stands_of_conform hconform
      exact conform_of_stands hentries hallows
    · rw [(empty_of_conformValue_many (fun items hv => hlist ⟨items, hv⟩) h).2]
      exact conformValue_many_full fun _ hd => by cases hd
termination_by (sizeOf v, 1)
decreasing_by
  · exact Prod.Lex.right _ (by omega)
  · exact Prod.Lex.left _ _ this

end

/-- The full form of a record's document is its own full form. -/
theorem conform_full {kind : RecordKind} {d full : Doc} (h : conform kind d = .ok full) :
    conform kind full = .ok full := by
  obtain ⟨entries, rfl, hentries, hallows⟩ := stands_of_conform h
  exact conform_of_stands hentries hallows

end RepoAtlas
