import RepoAtlas.Proofs.Sorting
import RepoAtlas.Types.Search

/-!
The order in which a search lists what it finds. Visibility and size are ranked as one number, in
which being public counts as much as a hundred fields: among definitions of equal visibility the
larger come first, and a hidden definition comes before a public one exactly if it has at least a
hundred fields more.
-/
namespace RepoAtlas.Types

/-- The definition has the kind and the part of a name that are asked for, if any. -/
structure Query.Matches (q : Query) (t : TypeDefinition) : Prop where
  kind : q.kind = "" ∨ t.kind.text = q.kind
  name : q.name = "" ∨ (normalized q.name).toList <:+: (normalized t.name).toList

theorem Query.accepts_iff {q : Query} {t : TypeDefinition} :
    q.accepts t = true ↔ q.Matches t := by
  simp only [accepts, mentions, Bool.and_eq_true, Bool.or_eq_true, String.isEmpty_iff, beq_iff_eq,
    Text.occursIn_iff]
  exact ⟨fun h => ⟨h.1, h.2⟩, fun h => ⟨h.kind, h.name⟩⟩

instance (q : Query) (t : TypeDefinition) : Decidable (q.Matches t) :=
  decidable_of_iff _ Query.accepts_iff

/-- No hidden definition comes before a public one. -/
def PublicFirst (found : List Instance) : Prop :=
  found.Pairwise (fun a b => b.type.isPublic = true → a.type.isPublic = true)

/-- Of two definitions with the same visibility the first has at least as many fields. -/
def LargerFirst (found : List Instance) : Prop :=
  found.Pairwise (fun a b => a.type.isPublic = b.type.isPublic →
    b.type.fields.length ≤ a.type.fields.length)

/-- The first definition is hidden and the second public, with a hundred fields less. -/
structure Outweighs (a b : Instance) : Prop where
  hidden : a.type.isPublic = false
  visible : b.type.isPublic = true
  fields : b.type.fields.length + 100 ≤ a.type.fields.length

/-! ### The rank of a definition -/

/-- What a search sorts by: weight and importance from high to low, then names. -/
def searchRank (i : Instance) : Int ×ₗ Int ×ₗ String ×ₗ String :=
  toLex (-(weight i.type : Int), toLex (-(importance i.type : Int), toLex (i.repo, i.type.name)))

theorem before_iff {a b : Instance} : a.before b = true ↔ searchRank a ≤ searchRank b := by
  simp only [searchRank, Prod.Lex.toLex_le_toLex, Int.neg_lt_neg_iff, Int.neg_inj, Int.ofNat_lt,
    Int.natCast_inj]
  rw [Instance.before]
  by_cases hweight : weight a.type = weight b.type
  · by_cases himportance : importance a.type = importance b.type
    · by_cases hrepo : a.repo = b.repo
      · simp [hweight, himportance, hrepo]
      · simp [hweight, himportance, hrepo]
    · simp [hweight, himportance]
  · simp [hweight]

theorem fields_le_importance (t : TypeDefinition) : t.fields.length ≤ importance t := by
  rw [importance]
  omega

/-- Whatever else speaks for a definition counts less than eleven fields. -/
theorem importance_le (t : TypeDefinition) : importance t ≤ t.fields.length + 10 := by
  rw [importance]
  split_ifs <;> omega

theorem weight_public {t : TypeDefinition} (h : t.isPublic = true) :
    weight t = 100 + t.fields.length := by
  rw [weight, if_pos h]

theorem weight_hidden {t : TypeDefinition} (h : t.isPublic = false) :
    weight t = t.fields.length := by
  rw [weight, if_neg (by simp [h]), Nat.zero_add]

theorem weight_le_of_before {a b : Instance} (h : a.before b = true) :
    weight b.type ≤ weight a.type := by
  rw [Instance.before] at h
  split at h
  next => exact Nat.le_of_lt (of_decide_eq_true h)
  next heq => exact (not_not.1 heq).ge

theorem importance_le_of_before {a b : Instance} (h : a.before b = true)
    (heq : weight a.type = weight b.type) : importance b.type ≤ importance a.type := by
  rw [Instance.before, if_neg (not_not.2 heq)] at h
  split at h
  next => exact Nat.le_of_lt (of_decide_eq_true h)
  next hsame => exact (not_not.1 hsame).ge

theorem fields_le_of_before {a b : Instance} (h : a.before b = true)
    (hsame : a.type.isPublic = b.type.isPublic) :
    b.type.fields.length ≤ a.type.fields.length := by
  have hle := weight_le_of_before h
  rw [weight, weight, hsame] at hle
  exact Nat.le_of_add_le_add_left hle

theorem outweighs_of_before {a b : Instance} (h : a.before b = true)
    (ha : a.type.isPublic = false) (hb : b.type.isPublic = true) : Outweighs a b := by
  refine ⟨ha, hb, ?_⟩
  have hle := weight_le_of_before h
  rw [weight_public hb, weight_hidden ha] at hle
  omega

/-- Where both weigh the same, the hidden definition is more important for its many fields. -/
theorem Outweighs.not_before {a b : Instance} (h : Outweighs a b) : ¬ b.before a = true := by
  intro hback
  have hle := weight_le_of_before hback
  rw [weight_public h.visible, weight_hidden h.hidden] at hle
  have heq : weight b.type = weight a.type := by
    rw [weight_public h.visible, weight_hidden h.hidden]
    have := h.fields
    omega
  have himportance := importance_le_of_before hback heq
  have hlow := fields_le_importance a.type
  have hhigh := importance_le b.type
  have := h.fields
  omega

/-! ### Ranked lists -/

section Ranked

variable {found : List Instance}

theorem largerFirst_of_ranked (h : found.Pairwise (fun a b => a.before b = true)) :
    LargerFirst found :=
  h.imp fun hbefore => fields_le_of_before hbefore

/-- In a ranked list all public definitions come first exactly if no hidden one outweighs one of
them. -/
theorem publicFirst_iff_of_ranked (h : found.Pairwise (fun a b => a.before b = true)) :
    PublicFirst found ↔ ∀ a ∈ found, ∀ b ∈ found, ¬ Outweighs a b := by
  constructor
  · intro hpublic
    have hself : ∀ a ∈ found, ¬ Outweighs a a := fun a _ hout => absurd hout.fields (by omega)
    have hforth : found.Pairwise (fun a b => ¬ Outweighs a b) := hpublic.imp fun hfirst hout => by
      have hboth := hfirst hout.visible
      rw [hout.hidden] at hboth
      cases hboth
    have hback : found.Pairwise (flip fun a b => ¬ Outweighs a b) :=
      h.imp fun hbefore hout => hout.not_before hbefore
    intro a ha b hb
    exact List.Pairwise.forall_of_forall_of_flip hself hforth hback ha hb
  · intro hnone
    refine h.imp_of_mem fun {a b} ha hb hbefore hb' => ?_
    by_contra hhidden
    exact hnone a ha b hb (outweighs_of_before hbefore (by simpa using hhidden) hb')

end Ranked

/-! ### Searches -/

/-- All that a query matches, in the order of their ranks. -/
def ranked (q : Query) (types : List (String × List TypeDefinition)) : List Instance :=
  ((instancesOf types).filter (fun i => q.Matches i.type)).mergeSort Instance.before

section Search

variable (q : Query) (types : List (String × List TypeDefinition))

theorem search_eq (limit : ℕ) : search q limit types = (ranked q types).take limit := by
  have haccepts : (fun i : Instance => q.accepts i.type) = fun i => decide (q.Matches i.type) := by
    funext i
    rw [Bool.eq_iff_iff, decide_eq_true_iff, Query.accepts_iff]
  rw [search, Diagram.takeInt_natCast, haccepts]
  rfl

theorem ranked_pairwise : (ranked q types).Pairwise (fun a b => a.before b = true) :=
  have hkey : ∀ a b, Instance.before a b = true ↔ searchRank a ≤ searchRank b :=
    fun _ _ => before_iff
  List.pairwise_mergeSort (trans_of_key hkey) (total_of_key hkey) _

theorem search_pairwise (limit : ℕ) :
    (search q limit types).Pairwise (fun a b => a.before b = true) := by
  rw [search_eq]
  exact (ranked_pairwise q types).sublist (List.take_sublist _ _)

end Search

/-- A search lists the first of all definitions that it matches. Of those with the same visibility
the larger come first, and no hidden one comes before a public one exactly if none that is listed
has a hundred fields more than a public one. -/
theorem search_lists_ranked (q : Query) (types : List (String × List TypeDefinition)) :
    ∃ all : List Instance, all.Perm ((instancesOf types).filter (fun i => q.Matches i.type)) ∧
      ∀ limit : ℕ, search q limit types = all.take limit ∧
        LargerFirst (search q limit types) ∧
        (PublicFirst (search q limit types) ↔
          ∀ a ∈ search q limit types, ∀ b ∈ search q limit types, ¬ Outweighs a b) := by
  refine ⟨ranked q types, List.mergeSort_perm _ _, fun limit => ⟨search_eq q types limit, ?_, ?_⟩⟩
  · exact largerFirst_of_ranked (search_pairwise q types limit)
  · exact publicFirst_iff_of_ranked (search_pairwise q types limit)

/-- A hidden definition with a hundred fields. -/
def hiddenRow : TypeDefinition :=
  { name := "Row", kind := .class_, visibility := "private",
    fields := List.replicate 100 { name := "cell", typeRef := { name := "int", raw := "int" } } }

/-- A public definition without fields. -/
def publicPage : TypeDefinition := { name := "Page", kind := .class_ }

/-- A search for everything lists the hidden definition first. -/
theorem search_hidden_first : ¬ PublicFirst (search {} 50 [("web", [hiddenRow, publicPage])]) := by
  have hlisted : ∀ i ∈ instancesOf [("web", [hiddenRow, publicPage])],
      i ∈ search {} 50 [("web", [hiddenRow, publicPage])] := by
    intro i hi
    have hlength : (ranked {} [("web", [hiddenRow, publicPage])]).length ≤ 50 := by
      rw [ranked, List.length_mergeSort]
      exact (List.length_filter_le _ _).trans (by decide)
    have hall := search_eq {} [("web", [hiddenRow, publicPage])] 50
    rw [List.take_of_length_le hlength] at hall
    refine (congrArg (i ∈ ·) hall).mpr (List.mem_mergeSort.2 (List.mem_filter.2 ⟨hi, ?_⟩))
    exact decide_eq_true ⟨Or.inl rfl, Or.inl rfl⟩
  intro hpublic
  have hnone := (publicFirst_iff_of_ranked (search_pairwise {} _ 50)).1 hpublic
  refine hnone ⟨"web", hiddenRow⟩ (hlisted _ ?_) ⟨"web", publicPage⟩ (hlisted _ ?_)
    ⟨rfl, rfl, by decide⟩
  · exact List.mem_cons_self
  · exact List.mem_cons_of_mem _ List.mem_cons_self

end RepoAtlas.Types
