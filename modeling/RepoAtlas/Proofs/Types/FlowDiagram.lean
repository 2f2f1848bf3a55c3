import RepoAtlas.Proofs.Diagram.Chart
import RepoAtlas.Proofs.Number.Overflow
import RepoAtlas.Proofs.Outcome
import RepoAtlas.Proofs.Sorting
import RepoAtlas.Types.FlowDiagram

/-!
The flowchart of a type flow shows the repositories and one arrow for each ordered pair of them,
whatever repositories and types are called. It is only drawn if the mean confidence of each pair
has a double.
-/
namespace RepoAtlas.Types

open RepoAtlas.Diagram RepoAtlas.Text

/-- Edges whose mean confidence is too large for a double. -/
def IsOverconfident (edges : List FlowEdge) : Prop :=
  Binary64.overflowSize * edges.length ≤ (totalConfidence edges).natAbs

/-- The arrow of a pair, which is thick if the mean confidence of its edges is high. -/
def arrowOf (edges : List FlowEdge) : String := (pairArrow edges).toOption.getD ""

/-- What the flowchart of some edges says, line by line. -/
def flowStatements (edges : List FlowEdge) (ids : OrderedMap String String) : List Statement :=
  [.other "flowchart LR"] ++
    (endsOf edges).map (fun r => .node (idOf ids r) ("📦 " ++ label r)) ++
    (edgesByPair edges).entries.map (fun pair => .link (idOf ids pair.1.1) (arrowOf pair.2)
      (some (label (pairLabel pair.2))) (idOf ids pair.1.2)) ++
    if edges.isEmpty then [.node "note" "No shared types found above similarity threshold"] else []

/-- The repositories of some edges, and the edges of each ordered pair of them. -/
structure PairsUp (edges : List FlowEdge) : Prop where
  ends : ∀ repo, repo ∈ endsOf edges ↔ ∃ e ∈ edges, e.sourceRepo = repo ∨ e.targetRepo = repo
  once : (edgesByPair edges).keys.Nodup
  groups : ∀ pair group, (pair, group) ∈ (edgesByPair edges).entries ↔
    group = edges.filter (fun e => (e.sourceRepo, e.targetRepo) = pair) ∧ group ≠ []

/-! ### Mean confidence -/

/-- The mean of some edges has a double unless it is too large for one. -/
theorem meanConfidence_cases {edges : List FlowEdge} (hne : edges ≠ []) :
    (IsOverconfident edges ∧ meanConfidence edges = .error .tooLarge) ∨
      ¬ IsOverconfident edges ∧ ∃ mean, meanConfidence edges = .ok mean := by
  have hpos : (0 : ℚ) < edges.length := by
    exact_mod_cast List.length_pos_iff.2 hne
  have hden : ((edges.length : ℤ) : ℚ) ≠ 0 := by
    exact_mod_cast hpos.ne'
  obtain ⟨q, hq⟩ : ∃ q : ℚ, q = (totalConfidence edges : ℚ) / (edges.length : ℤ) := ⟨_, rfl⟩
  have hmean : meanConfidence edges = (do
      let x ← Doc.finite (.ofQuotient (decide (q < 0)) q.num.natAbs q.den)
      return roundHalfUp x) := by
    rw [meanConfidence, Doc.roundedRatio, hq]
    exact if_neg hden
  have hsize : (q.num.natAbs : ℚ) / q.den < Binary64.overflowSize ↔ ¬ IsOverconfident edges := by
    rw [natAbs_num_div_den, hq, abs_div, Int.cast_natCast, Nat.abs_cast, div_lt_iff₀ hpos,
      IsOverconfident, not_le, ← Int.cast_abs, ← Nat.cast_natAbs]
    exact_mod_cast Iff.rfl
  rw [hmean, finite_ofQuotient _ q.den_pos]
  split
  next hlt => exact Or.inr ⟨hsize.1 hlt, _, rfl⟩
  next hge => exact Or.inl ⟨not_not.1 (mt hsize.2 hge), rfl⟩

theorem pairArrow_cases {edges : List FlowEdge} (hne : edges ≠ []) :
    (IsOverconfident edges ∧ pairArrow edges = .error .tooLarge) ∨
      ¬ IsOverconfident edges ∧ pairArrow edges = .ok (arrowOf edges) := by
  rcases meanConfidence_cases hne with ⟨hlarge, hmean⟩ | ⟨hsmall, mean, hmean⟩
  · refine Or.inl ⟨hlarge, ?_⟩
    rw [pairArrow, hmean]
    rfl
  · refine Or.inr ⟨hsmall, ?_⟩
    rw [arrowOf, pairArrow, hmean]
    rfl

/-! ### The flowchart -/

theorem mem_endsOf {edges : List FlowEdge} {repo : String} :
    repo ∈ endsOf edges ↔ ∃ e ∈ edges, e.sourceRepo = repo ∨ e.targetRepo = repo := by
  rw [endsOf, mem_sortedSet, List.mem_append, List.mem_map, List.mem_map, ← exists_or]
  exact exists_congr fun e => by tauto

theorem pairsUp (edges : List FlowEdge) : PairsUp edges where
  ends := fun _ => mem_endsOf
  once := OrderedMap.nodup_keys_groupedBy _ _
  groups := fun _ _ => OrderedMap.mem_entries_groupedBy _

theorem mem_keys_edgesByPair {edges : List FlowEdge} {pair : String × String} :
    pair ∈ (edgesByPair edges).keys ↔ ∃ e ∈ edges, (e.sourceRepo, e.targetRepo) = pair :=
  OrderedMap.mem_keys_groupedBy _

theorem ends_of_mem_keys {edges : List FlowEdge} {pair : String × String}
    (h : pair ∈ (edgesByPair edges).keys) : pair.1 ∈ endsOf edges ∧ pair.2 ∈ endsOf edges := by
  obtain ⟨e, he, rfl⟩ := mem_keys_edgesByPair.1 h
  exact ⟨mem_endsOf.2 ⟨e, he, Or.inl rfl⟩, mem_endsOf.2 ⟨e, he, Or.inr rfl⟩⟩

theorem isArrow_arrowOf {edges : List FlowEdge} (h : pairArrow edges = .ok (arrowOf edges)) :
    IsArrow (arrowOf edges) := by
  obtain ⟨mean, -, harrow⟩ := bind_eq_ok_iff.1 h
  rw [← pure_eq_ok_iff.1 harrow]
  split <;> decide

/-- The line of a pair, if it has an arrow. -/
def pairText (ids : OrderedMap String String) (pair : (String × String) × List FlowEdge) : String :=
  "    " ++ linked (idOf ids pair.1.1) (arrowOf pair.2) (some (label (pairLabel pair.2)))
    (idOf ids pair.1.2)

theorem pairLine_cases (ids : OrderedMap String String) {pair : (String × String) × List FlowEdge}
    (hne : pair.2 ≠ []) :
    IsOverconfident pair.2 ∧ pairLine ids pair = .error .tooLarge ∨
      ¬ IsOverconfident pair.2 ∧ pairLine ids pair = .ok (pairText ids pair) := by
  rw [pairLine, pairText]
  refine (pairArrow_cases hne).imp (And.imp_right fun harrow => ?_)
    (And.imp_right fun harrow => ?_)
  · rw [harrow]
    rfl
  · rw [harrow]
    rfl

/-- The lines of a flowchart show the repositories and the pairs. -/
theorem shows_flow {edges : List FlowEdge} {ids : OrderedMap String String}
    (hids : TellsApart (idOf ids) (endsOf edges) ["note"])
    (harrows : ∀ pair ∈ (edgesByPair edges).entries, pairArrow pair.2 = .ok (arrowOf pair.2)) :
    Shows (joinWith "\n" (["flowchart LR"] ++
        (endsOf edges).map (fun r => "    " ++ titled (idOf ids r) ("📦 " ++ label r)) ++
        (edgesByPair edges).entries.map (pairText ids) ++
        if edges.isEmpty then
          ["    " ++ titled "note" "No shared types found above similarity threshold"] else []))
      (flowStatements edges ids) (idOf ids) (endsOf edges) (edgesByPair edges).keys ["note"] := by
  have hheader : Draws ["flowchart LR"] [.other "flowchart LR"] [] [] [] :=
    draws_other (by decide)
  have hnodes := draws_nodes fun r hr =>
    reads_node blank_indent (hids.valid r hr) (IsSafe.append (by decide : IsSafe "📦 ")
      (isSafe_label r))
  have hlinks := draws_links fun (pair : (String × String) × List FlowEdge)
      (hpair : pair ∈ (edgesByPair edges).entries) =>
    have hends := ends_of_mem_keys (List.mem_map_of_mem hpair)
    reads_link blank_indent (hids.valid _ hends.1) (isArrow_arrowOf (harrows pair hpair))
      (fun l (hl : l ∈ some (label (pairLabel pair.2))) => Option.some.inj hl ▸ isSafe_label _)
      (hids.valid _ hends.2)
  have hnote := @draws_note (edges.isEmpty = true) _
    ("    " ++ titled "note" "No shared types found above similarity threshold") "note"
    "No shared types found above similarity threshold" (by decide)
  have hchart := ((hheader.append hnodes).append hlinks).append hnote
  simp only [List.nil_append, List.append_nil] at hchart
  refine hchart.shows (List.cons_ne_nil _ _) hids (nodup_sortedSet _) (.refl _) ?_ ?_
    (fun pair hpair => ends_of_mem_keys hpair) (List.nil_subset _)
  · split
    · exact fun _ h => h
    · exact List.nil_subset _
  · rw [OrderedMap.keys, List.map_map]
    rfl

/-- Edges without an overconfident pair have a flowchart, which shows their repositories and the
pairs that they join; with such a pair there is none. -/
theorem flowDiagram_shows (edges : List FlowEdge) (focus : String) :
    ((∃ pair ∈ (edgesByPair (focused edges focus)).entries, IsOverconfident pair.2) ∧
      flowDiagram edges focus = .error .tooLarge) ∨
    (∀ pair ∈ (edgesByPair (focused edges focus)).entries, ¬ IsOverconfident pair.2) ∧
      ∃ text ids, flowDiagram edges focus = .ok text ∧
        Shows text (flowStatements (focused edges focus) ids) (idOf ids)
          (endsOf (focused edges focus)) (edgesByPair (focused edges focus)).keys ["note"] := by
  rw [flowDiagram]
  generalize focused edges focus = shown
  have hids := tellsApart_uniqueIds (endsOf shown) ["note"]
  generalize uniqueIds (endsOf shown) ["note"] = ids at hids
  have hne : ∀ pair ∈ (edgesByPair shown).entries, pair.2 ≠ [] :=
    fun pair hpair => (((pairsUp shown).groups _ _).1 hpair).2
  rcases mapM_cases fun pair hpair => @pairLine_cases ids pair (hne pair hpair) with
    ⟨hlarge, hlines⟩ | ⟨hsmall, hlines⟩
  · rw [hlines]
    exact Or.inl ⟨hlarge, rfl⟩
  · have harrows : ∀ pair ∈ (edgesByPair shown).entries,
        pairArrow pair.2 = .ok (arrowOf pair.2) := fun pair hpair =>
      ((pairArrow_cases (hne pair hpair)).resolve_left fun h => hsmall pair hpair h.1).2
    refine Or.inr ⟨hsmall, _, ids, ?_, shows_flow hids harrows⟩
    rw [hlines]
    rfl

end RepoAtlas.Types
