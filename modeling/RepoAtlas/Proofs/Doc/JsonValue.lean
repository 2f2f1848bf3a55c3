import RepoAtlas.Proofs.Number.Rounding
import RepoAtlas.Proofs.OrderedMap
import RepoAtlas.Record.Schema

/-!
The documents that have a JSON text, and when two of their numbers are the same: if they are equal
once truth values and whole doubles count as integers.
-/
namespace RepoAtlas.Doc

mutual

/-- Values that a text can spell, given the doubles that it can spell: no scalar is foreign, and
the names of an object are distinct. -/
def isSpeltBy (float : Binary64 → Bool) : Doc → Bool
  | .null | .bool _ | .int _ | .text _ => true
  | .float x => float x
  | .foreign _ => false
  | .list items => areSpeltBy float items
  | .object ms => decide (ms.map (·.1)).Nodup && membersAreSpeltBy float ms

def areSpeltBy (float : Binary64 → Bool) : List Doc → Bool
  | [] => true
  | d :: rest => isSpeltBy float d && areSpeltBy float rest

def membersAreSpeltBy (float : Binary64 → Bool) : List (String × Doc) → Bool
  | [] => true
  | (_, d) :: rest => isSpeltBy float d && membersAreSpeltBy float rest

end

/-- Values whose numbers are numbers. -/
def isJson (d : Doc) : Bool := d.isSpeltBy Binary64.isNumber

/-- Values that are written as texts: a double may also be no number. -/
def isSpelt (d : Doc) : Bool := d.isSpeltBy Binary64.isDouble

section Spelling

variable {float : Binary64 → Bool}

theorem areSpeltBy_iff {items : List Doc} :
    areSpeltBy float items = true ↔ ∀ d ∈ items, d.isSpeltBy float = true := by
  induction items with
  | nil => simp [areSpeltBy]
  | cons d rest ih => simp [areSpeltBy, ih]

theorem membersAreSpeltBy_iff {ms : List (String × Doc)} :
    membersAreSpeltBy float ms = true ↔ ∀ m ∈ ms, m.2.isSpeltBy float = true := by
  induction ms with
  | nil => simp [membersAreSpeltBy]
  | cons m rest ih => simp [membersAreSpeltBy, ih]

theorem isSpeltBy_object_iff {ms : List (String × Doc)} :
    (Doc.object ms).isSpeltBy float = true ↔
      (ms.map (·.1)).Nodup ∧ ∀ m ∈ ms, m.2.isSpeltBy float = true := by
  simp [isSpeltBy, membersAreSpeltBy_iff]

theorem isSpeltBy_list_iff {items : List Doc} :
    (Doc.list items).isSpeltBy float = true ↔ ∀ d ∈ items, d.isSpeltBy float = true := by
  simp [isSpeltBy, areSpeltBy_iff]

end Spelling

mutual

theorem isSpelt_of_isJson (d : Doc) (h : d.isJson = true) : d.isSpelt = true := by
  match d with
  | .null | .bool _ | .int _ | .text _ => rfl
  | .float x =>
    have hx : (x.isDouble && x != .nan) = true := h
    exact (Bool.and_eq_true_iff.1 hx).1
  | .foreign shown => cases h
  | .list items => exact areSpelt_of_areJson items h
  | .object ms =>
    rw [isJson, isSpeltBy, Bool.and_eq_true] at h
    rw [isSpelt, isSpeltBy, Bool.and_eq_true]
    exact ⟨h.1, membersAreSpelt_of_membersAreJson ms h.2⟩

theorem areSpelt_of_areJson (items : List Doc)
    (h : areSpeltBy Binary64.isNumber items = true) :
    areSpeltBy Binary64.isDouble items = true := by
  match items with
  | [] => rfl
  | d :: rest =>
    rw [areSpeltBy, Bool.and_eq_true] at h ⊢
    exact ⟨isSpelt_of_isJson d h.1, areSpelt_of_areJson rest h.2⟩

theorem membersAreSpelt_of_membersAreJson (ms : List (String × Doc))
    (h : membersAreSpeltBy Binary64.isNumber ms = true) :
    membersAreSpeltBy Binary64.isDouble ms = true := by
  match ms with
  | [] => rfl
  | (name, d) :: rest =>
    rw [membersAreSpeltBy, Bool.and_eq_true] at h ⊢
    exact ⟨isSpelt_of_isJson d h.1, membersAreSpelt_of_membersAreJson rest h.2⟩

end

theorem ofMembers_eq {ms : List (String × Doc)} (h : (ms.map (·.1)).Nodup) :
    ofMembers ms = .object ms := by
  rw [ofMembers, OrderedMap.entries_ofList h]

/-- The members of a JSON value are JSON values. -/
theorem isJson_of_lookup {name : String} {ms : List (String × Doc)} {d : Doc}
    (h : (Doc.object ms).isJson = true) (hd : OrderedMap.lookup name ms = some d) :
    d.isJson = true :=
  (isSpeltBy_object_iff.1 h).2 _ (OrderedMap.mem_of_lookup hd)

/-- So are the items that a walk over it meets. -/
theorem isJson_of_toItems {d : Doc} {items : List Doc} (hd : d.isJson = true)
    (h : d.toItems = .ok items) : ∀ item ∈ items, item.isJson = true := by
  cases d with
  | list ds =>
    cases h
    exact isSpeltBy_list_iff.1 hd
  | object ms =>
    cases h
    intro item hi
    obtain ⟨m, _, rfl⟩ := List.mem_map.1 hi
    rfl
  | text s =>
    cases h
    intro item hi
    obtain ⟨c, _, rfl⟩ := List.mem_map.1 hi
    rfl
  | null | bool | int | float | foreign => simp [toItems] at h

/-- A scalar with truth values and whole doubles as integers. -/
def plain (d : Doc) : Doc :=
  match d.whole? with
  | some i => .int i
  | none => d

theorem same_float_iff {x y : Binary64} (hx : x.isNumber = true) (hy : y.isNumber = true) :
    (Doc.float x).same (.float y) = true ↔ (Doc.float x).plain = (Doc.float y).plain := by
  simp only [Binary64.isNumber, Bool.and_eq_true, bne_iff_ne, ne_eq] at hx hy
  have hzero : ∀ z : Binary64, z.isZero = true → z.toInt? = some 0 := by
    intro z hz
    cases z with
    | finite s m e =>
      obtain rfl : m = 0 := by simpa [Binary64.isZero] using hz
      cases e <;> cases s <;> simp [Binary64.toInt?, Binary64.quotient]
    | nan | infinite => simp [Binary64.isZero] at hz
  simp only [same, plain, whole?, Bool.and_eq_true, bne_iff_ne, ne_eq, hx.2, not_false_eq_true,
    true_and, Bool.or_eq_true, beq_iff_eq]
  constructor
  · rintro (rfl | ⟨h1, h2⟩)
    · rfl
    · simp [hzero x h1, hzero y h2]
  · intro h
    cases hxi : x.toInt? with
    | none =>
      cases hyi : y.toInt? with
      | none => exact Or.inl (by simpa [hxi, hyi] using h)
      | some j => simp [hxi, hyi] at h
    | some i =>
      cases hyi : y.toInt? with
      | none => simp [hxi, hyi] at h
      | some j =>
        obtain rfl : i = j := by simpa [hxi, hyi] using h
        exact Binary64.eq_of_toInt?_eq hx.1 hy.1 hxi hyi

end RepoAtlas.Doc
