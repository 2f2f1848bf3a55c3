import RepoAtlas.Proofs.OrderedMap
import RepoAtlas.Proofs.Sorting
import RepoAtlas.Topology.Ecosystem

/-!
Dependencies are gathered clue by clue. What has been gathered tells which clues there were: each
between two repositories is a text of the one dependency with its ends and its kind.
-/
namespace RepoAtlas.Topology

/-- A sign that one repository depends on another. -/
structure Clue where
  source : String
  target : String
  kind : DependencyKind
  text : String

/-- Adds the clues one after the other. -/
def Evidence.addAll (found : Evidence) (clues : List Clue) : Evidence :=
  clues.foldl (fun found c => found.add c.source c.target c.kind c.text) found

/-- What the evidence holds after the clues: the texts by their ends and kinds, each once. -/
structure Evidence.Records (found : Evidence) (clues : List Clue) : Prop where
  keys : found.keys.Nodup
  texts : ∀ key texts, found.get? key = some texts → texts ≠ [] ∧ texts.Nodup
  holds : ∀ source target kind text,
    (∃ texts, found.get? (source, target, kind) = some texts ∧ text ∈ texts) ↔
      source ≠ target ∧ ⟨source, target, kind, text⟩ ∈ clues

namespace Evidence

variable {found : Evidence} {clues : List Clue}

theorem records_empty : Records {} [] where
  keys := List.nodup_nil
  texts := fun _ _ h => by cases h
  holds := by
    intro source target kind text
    constructor
    · rintro ⟨texts, h, -⟩
      cases h
    · rintro ⟨-, h⟩
      cases h

/-- The texts of the clue's dependency, with that of the clue. -/
theorem get?_add {source target : String} (hapart : source ≠ target) (kind : DependencyKind)
    (text : String) (key : String × String × DependencyKind) :
    (found.add source target kind text).get? key =
      if key = (source, target, kind) then
        some (if text ∈ (found.get? key).getD [] then (found.get? key).getD []
          else (found.get? key).getD [] ++ [text])
      else found.get? key := by
  rw [add, if_neg hapart, OrderedMap.get?_update]
  by_cases hkey : key = (source, target, kind)
  · subst hkey
    simp only [if_true, List.contains_iff_mem]
  · rw [if_neg hkey, if_neg hkey]

theorem Records.mem_getD (h : Records found clues) {source target : String} {kind : DependencyKind}
    {text : String} : text ∈ (found.get? (source, target, kind)).getD [] ↔
      source ≠ target ∧ ⟨source, target, kind, text⟩ ∈ clues := by
  rw [← h.holds]
  cases found.get? (source, target, kind) with
  | none => simp
  | some texts => simp

theorem Records.nodup_getD (h : Records found clues) (key : String × String × DependencyKind) :
    ((found.get? key).getD []).Nodup := by
  cases hfound : found.get? key with
  | none => exact List.nodup_nil
  | some texts => exact (h.texts key texts hfound).2

/-- A clue about one repository alone is no evidence. -/
theorem Records.add_same (h : Records found clues) {c : Clue} (hsame : c.source = c.target) :
    Records found (clues ++ [c]) where
  keys := h.keys
  texts := h.texts
  holds := by
    intro source target kind text
    rw [h.holds, List.mem_append, List.mem_singleton]
    refine and_congr_right fun hapart => (or_iff_left ?_).symm
    rintro rfl
    exact hapart hsame

theorem Records.add_apart (h : Records found clues) {c : Clue} (hapart : c.source ≠ c.target) :
    Records (found.add c.source c.target c.kind c.text) (clues ++ [c]) where
  keys := by
    rw [Evidence.add, if_neg hapart]
    exact OrderedMap.nodup_keys_update h.keys _ _
  texts := by
    intro key texts hget
    rw [get?_add hapart] at hget
    split at hget
    next =>
      obtain rfl := Option.some.inj hget
      exact ⟨List.ne_nil_of_mem (mem_appendNew.2 (Or.inr rfl)), nodup_appendNew (h.nodup_getD key)⟩
    next => exact h.texts key texts hget
  holds := by
    intro source target kind text
    have hclue : (⟨source, target, kind, text⟩ : Clue) = c ↔
        (source, target, kind) = (c.source, c.target, c.kind) ∧ text = c.text := by
      cases c
      simp [and_assoc]
    rw [get?_add hapart, List.mem_append, List.mem_singleton, hclue]
    by_cases hkey : (source, target, kind) = (c.source, c.target, c.kind)
    · have hends : source ≠ target := by
        obtain ⟨rfl, rfl, -⟩ : source = c.source ∧ target = c.target ∧ kind = c.kind := by
          simpa using hkey
        exact hapart
      simp only [if_pos hkey, Option.some.injEq, exists_eq_left', mem_appendNew, h.mem_getD]
      simp only [hkey, hends, ne_eq, not_false_eq_true, true_and]
    · rw [if_neg hkey, h.holds]
      simp only [hkey, false_and, or_false]

/-- One more clue is recorded. -/
theorem Records.add (h : Records found clues) (c : Clue) :
    Records (found.add c.source c.target c.kind c.text) (clues ++ [c]) := by
  by_cases hsame : c.source = c.target
  · have hkeep : found.add c.source c.target c.kind c.text = found := by
      rw [Evidence.add, if_pos hsame]
    rw [hkeep]
    exact h.add_same hsame
  · exact h.add_apart hsame

/-- A run of clues is recorded. -/
theorem Records.addAll (h : Records found clues) (more : List Clue) :
    Records (found.addAll more) (clues ++ more) := by
  induction more generalizing found clues with
  | nil =>
    rw [List.append_nil]
    exact h
  | cons c rest ih =>
    have hnext := ih (h.add c)
    rw [List.append_assoc, List.singleton_append] at hnext
    exact hnext

end Evidence

/-! ### Dependencies in order -/

theorem DependencyKind.text_inj {a b : DependencyKind} (h : a.text = b.text) : a = b := by
  cases a <;> cases b <;> first | rfl | exact absurd h (by decide)

/-- Dependencies are told apart and sorted by their ends and their kind. -/
def Dependency.rank (e : Dependency) : String ×ₗ String ×ₗ String :=
  toLex (e.source, toLex (e.target, e.kind.text))

theorem Dependency.before_iff (a b : Dependency) : a.before b = true ↔ a.rank ≤ b.rank := by
  rw [rank, rank, Prod.Lex.toLex_le_toLex, Prod.Lex.toLex_le_toLex, before]
  simp only [Bool.or_eq_true, Bool.and_eq_true, decide_eq_true_eq, beq_iff_eq]

section Edges

variable {found : Evidence} {clues : List Clue}

theorem mem_dependenciesOf {e : Dependency} :
    e ∈ dependenciesOf found ↔ ((e.source, e.target, e.kind), e.evidence) ∈ found.entries := by
  rw [dependenciesOf, List.mem_mergeSort, List.mem_map]
  constructor
  · rintro ⟨⟨⟨source, target, kind⟩, texts⟩, hentry, rfl⟩
    exact hentry
  · exact fun hentry => ⟨_, hentry, rfl⟩

/-- There is one dependency for two ends and a kind. -/
theorem dependenciesOf_ordered (h : found.keys.Nodup) :
    (dependenciesOf found).Pairwise (fun a b => a.rank < b.rank) := by
  refine strict_mergeSort_key Dependency.before_iff ?_
  rw [List.map_map]
  refine List.Nodup.map_on ?_ (List.Nodup.of_map _ h)
  rintro ⟨⟨source, target, kind⟩, texts⟩ hx ⟨⟨source', target', kind'⟩, texts'⟩ hy hrank
  obtain ⟨rfl, rfl, hkind⟩ : source = source' ∧ target = target' ∧ kind.text = kind'.text := by
    simpa [Dependency.rank] using hrank
  obtain rfl := DependencyKind.text_inj hkind
  have hsame := (OrderedMap.mem_entries_iff h).1 hx
  rw [(OrderedMap.mem_entries_iff h).1 hy] at hsame
  rw [Option.some.inj hsame]

/-- The texts of the dependencies are those of the clues between two repositories. -/
theorem Evidence.Records.evident_iff (h : Evidence.Records found clues) {source target : String}
    {kind : DependencyKind} {text : String} :
    (∃ e ∈ dependenciesOf found, e.source = source ∧ e.target = target ∧ e.kind = kind ∧
      text ∈ e.evidence) ↔ source ≠ target ∧ ⟨source, target, kind, text⟩ ∈ clues := by
  rw [← h.holds]
  constructor
  · rintro ⟨e, he, rfl, rfl, rfl, htext⟩
    exact ⟨e.evidence, (OrderedMap.mem_entries_iff h.keys).1 (mem_dependenciesOf.1 he), htext⟩
  · rintro ⟨texts, hget, htext⟩
    refine ⟨⟨source, target, kind, texts⟩, ?_, rfl, rfl, rfl, htext⟩
    exact mem_dependenciesOf.2 ((OrderedMap.mem_entries_iff h.keys).2 hget)

theorem Evidence.Records.texts_of_mem (h : Evidence.Records found clues) {e : Dependency}
    (he : e ∈ dependenciesOf found) : e.evidence ≠ [] ∧ e.evidence.Nodup :=
  h.texts _ _ ((OrderedMap.mem_entries_iff h.keys).1 (mem_dependenciesOf.1 he))

/-- No repository depends on itself. -/
theorem Evidence.Records.ends_ne (h : Evidence.Records found clues) {e : Dependency}
    (he : e ∈ dependenciesOf found) : e.source ≠ e.target := by
  obtain ⟨text, htext⟩ := List.exists_mem_of_ne_nil _ (h.texts_of_mem he).1
  exact (h.evident_iff.1 ⟨e, he, rfl, rfl, rfl, htext⟩).1

end Edges

/-! ### Clues of requests and of types -/

def callClues (calls : List ResolvedCall) : List Clue :=
  calls.filterMap (fun c => c.provider.map (fun p => ⟨c.repo, p.repo, .call, c.call.target⟩))

def contractClues (flows : List Types.FlowEdge) : List Clue :=
  flows.map (fun f => ⟨f.sourceRepo, f.targetRepo, .typeContract, f.sourceType⟩)

theorem callEvidence_eq (calls : List ResolvedCall) :
    callEvidence calls = Evidence.addAll {} (callClues calls) := by
  rw [callEvidence, Evidence.addAll, callClues, List.foldl_filterMap]
  congr 1
  funext found c
  cases c.provider <;> rfl

theorem contractEvidence_eq (found : Evidence) (flows : List Types.FlowEdge) :
    contractEvidence found flows = found.addAll (contractClues flows) := by
  rw [contractEvidence, Evidence.addAll, contractClues, List.foldl_map]

theorem records_callsAndContracts (calls : List ResolvedCall) (flows : List Types.FlowEdge) :
    Evidence.Records (contractEvidence (callEvidence calls) flows)
      (callClues calls ++ contractClues flows) := by
  rw [contractEvidence_eq, callEvidence_eq]
  exact (Evidence.records_empty.addAll (callClues calls)).addAll (contractClues flows)

theorem mem_callClues {calls : List ResolvedCall} {source target : String} {kind : DependencyKind}
    {text : String} : ⟨source, target, kind, text⟩ ∈ callClues calls ↔
      kind = .call ∧ ∃ c ∈ calls, c.repo = source ∧ c.call.target = text ∧
        ∃ p, c.provider = some p ∧ p.repo = target := by
  rw [callClues, List.mem_filterMap]
  constructor
  · rintro ⟨c, hc, hclue⟩
    obtain ⟨p, hp, heq⟩ := Option.map_eq_some_iff.1 hclue
    cases heq
    exact ⟨rfl, c, hc, rfl, rfl, p, hp, rfl⟩
  · rintro ⟨rfl, c, hc, rfl, rfl, p, hp, rfl⟩
    exact ⟨c, hc, by rw [hp]; rfl⟩

theorem mem_contractClues {flows : List Types.FlowEdge} {source target : String}
    {kind : DependencyKind} {text : String} : ⟨source, target, kind, text⟩ ∈ contractClues flows ↔
      kind = .typeContract ∧ ∃ f ∈ flows, f.sourceRepo = source ∧ f.targetRepo = target ∧
        f.sourceType = text := by
  rw [contractClues, List.mem_map]
  constructor
  · rintro ⟨f, hf, heq⟩
    cases heq
    exact ⟨rfl, f, hf, rfl, rfl, rfl⟩
  · rintro ⟨rfl, f, hf, rfl, rfl, rfl⟩
    exact ⟨f, hf, rfl⟩

end RepoAtlas.Topology
