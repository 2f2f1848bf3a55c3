import RepoAtlas.Proofs.Diagram.Chart
import RepoAtlas.Proofs.Topology.Newcomer
import RepoAtlas.Topology.Report

/-!
The flowchart of an ecosystem shows each repository in the box of its layer and each dependency as
an arrow, whatever repositories and types are called. It is only drawn if no score has too many
digits to be written.
-/
namespace RepoAtlas.Topology

open RepoAtlas.Diagram RepoAtlas.Text
open RepoAtlas.Numeral (IsLong)

/-- An ecosystem that was inferred from facts, or a part of one. -/
inductive Ecosystem.IsMade : Ecosystem → Prop where
  | build {facts : List (String × Option TopologyFacts)} {flows : List Types.FlowEdge}
    {rules : OwnershipRules} {floor : Int} {weights : ImpactWeights} {g : Ecosystem}
    (h : Ecosystem.build facts flows rules floor weights = .ok g) : IsMade g
  | focus {g g' : Ecosystem} {repo : String} (h : IsMade g) (hfocus : g.focus repo = .ok g') :
    IsMade g'

/-- What every ecosystem has that was made: distinct repositories, which dependencies join. -/
structure Ecosystem.IsWhole (g : Ecosystem) : Prop where
  once : g.repos.Nodup
  ends : ∀ e ∈ g.edges, e.source ∈ g.repos ∧ e.target ∈ g.repos
  edges : (g.edges.map (fun e => (e.source, e.target, e.kind))).Nodup

/-- What the box of a layer says, line by line. -/
def boxStatements (g : Ecosystem) (ids : OrderedMap String String) (layer : Option Layer) :
    List Statement :=
  if (boxMembers g layer).isEmpty then []
  else [.frame (boxId layer) (boxTitle layer)] ++
    (boxMembers g layer).map (fun r =>
      .node (idOf ids r) (repoTitle g r (toString (g.score r)))) ++ [.other "    end"]

/-- What the flowchart of an ecosystem says, line by line. -/
def layerStatements (g : Ecosystem) (ids : OrderedMap String String) : List Statement :=
  [.other "flowchart TB"] ++ boxes.flatMap (boxStatements g ids) ++
    g.edges.map (fun e => .link (idOf ids e.source) (dependencyArrow e.kind) (dependencyLabel? e)
      (idOf ids e.target)) ++
    if g.repos.isEmpty then [.node "note" "No repositories with snapshots"] else []

/-! ### Ecosystems that were made -/

theorem isWhole_of_build {facts : List (String × Option TopologyFacts)}
    {flows : List Types.FlowEdge} {rules : OwnershipRules} {floor : Int} {weights : ImpactWeights}
    {g : Ecosystem} (h : Ecosystem.build facts flows rules floor weights = .ok g) : g.IsWhole := by
  obtain ⟨owned, calls, -, -, rfl⟩ := build_eq_ok_iff.1 h
  refine ⟨nodup_sortedSet _, fun e he => ⟨?_, ?_⟩, (edgesAccounted_assemble floor flows).once⟩
  · exact mem_repos_assemble.2 (Or.inr (Or.inr ⟨e, he, Or.inl rfl⟩))
  · exact mem_repos_assemble.2 (Or.inr (Or.inr ⟨e, he, Or.inr rfl⟩))

/-- A part has the ends of its dependencies, because these all lead to the one repository. -/
theorem Ecosystem.IsWhole.focus {g g' : Ecosystem} {repo : String} (h : g.IsWhole)
    (hfocus : g.focus repo = .ok g') : g'.IsWhole := by
  rw [Ecosystem.focus] at hfocus
  split at hfocus
  · cases hfocus
  next target =>
    obtain rfl := Except.ok.inj hfocus
    refine ⟨nodup_sortedSet _, fun e he => ?_, ?_⟩
    · obtain ⟨-, hends⟩ := List.mem_filter.1 he
      rw [Bool.and_eq_true, beq_iff_eq, List.contains_iff_mem] at hends
      exact ⟨mem_sortedSet.2 hends.2, mem_sortedSet.2 (hends.1 ▸ List.mem_cons_self)⟩
    · exact (List.filter_sublist.map _).nodup h.edges

theorem Ecosystem.IsMade.isWhole {g : Ecosystem} (h : g.IsMade) : g.IsWhole := by
  induction h with
  | build h => exact isWhole_of_build h
  | focus _ hfocus ih => exact ih.focus hfocus

/-! ### Boxes -/

theorem nodup_boxes : boxes.Nodup := by decide

theorem primaryLayer?_mem_boxes (g : Ecosystem) (repo : String) : g.primaryLayer? repo ∈ boxes := by
  cases g.primaryLayer? repo with
  | none => decide
  | some layer => cases layer <;> decide

/-- Each repository is in one box. -/
theorem boxMembers_perm (g : Ecosystem) : (boxes.flatMap (boxMembers g)).Perm g.repos :=
  OrderedMap.flatMap_filter_perm _ nodup_boxes fun repo _ => primaryLayer?_mem_boxes g repo

theorem isIdentifier_boxId (layer : Option Layer) : IsIdentifier (boxId layer) := by
  rcases layer with _ | _ | _ | _ <;> decide

theorem isSafe_boxTitle (layer : Option Layer) : IsSafe (boxTitle layer) := by
  rcases layer with _ | _ | _ | _ <;> decide

theorem isSafe_repoTitle (g : Ecosystem) (repo : String) :
    IsSafe (repoTitle g repo (toString (g.score repo))) := by
  have hstart : IsSafe ("📦 " ++ label repo ++ " (" ++ toString (g.score repo) ++ ")") := by
    refine IsSafe.append (.append (.append (.append ?_ (isSafe_label repo)) ?_)
      (isSafe_toString_int _)) ?_ <;> decide
  rw [repoTitle]
  refine hstart.append ?_
  split <;> decide

/-- The lines of a box, if its scores are written. -/
def boxText (g : Ecosystem) (ids : OrderedMap String String) (layer : Option Layer) :
    List String :=
  if (boxMembers g layer).isEmpty then []
  else ["    subgraph " ++ titled (boxId layer) (boxTitle layer)] ++
    (boxMembers g layer).map (fun r =>
      "        " ++ titled (idOf ids r) (repoTitle g r (toString (g.score r)))) ++ ["    end"]

section Lines

variable {g : Ecosystem} {ids : OrderedMap String String}

theorem repoLine_cases (g : Ecosystem) (ids : OrderedMap String String) (repo : String) :
    IsLong (g.score repo) ∧ repoLine g ids repo = .error .longNumber ∨
    ¬ IsLong (g.score repo) ∧ repoLine g ids repo =
      .ok ("        " ++ titled (idOf ids repo) (repoTitle g repo (toString (g.score repo)))) := by
  by_cases h : IsLong (g.score repo)
  · refine Or.inl ⟨h, ?_⟩
    rw [repoLine, Numeral.intText_of_isLong h]
    rfl
  · refine Or.inr ⟨h, ?_⟩
    rw [repoLine, Numeral.intText_of_not_isLong h]
    rfl

theorem boxLines_cases (g : Ecosystem) (ids : OrderedMap String String) (layer : Option Layer) :
    (∃ repo ∈ boxMembers g layer, IsLong (g.score repo)) ∧
      boxLines g ids layer = .error .longNumber ∨
    (¬ ∃ repo ∈ boxMembers g layer, IsLong (g.score repo)) ∧
      boxLines g ids layer = .ok (boxText g ids layer) := by
  rw [boxLines, boxText]
  rcases mapM_cases fun repo (_ : repo ∈ boxMembers g layer) => repoLine_cases g ids repo with
    ⟨hlong, hlines⟩ | ⟨hshort, hlines⟩
  · rw [hlines]
    exact Or.inl ⟨hlong, rfl⟩
  · refine Or.inr ⟨fun ⟨repo, hrepo, hlong⟩ => hshort repo hrepo hlong, ?_⟩
    rw [hlines]
    simp only [bind, Except.bind, List.isEmpty_map]
    split <;> rfl

/-- The box of a layer shows the repositories of the layer. -/
theorem draws_box (hids : TellsApart (idOf ids) g.repos reservedIds) (layer : Option Layer) :
    Draws (boxText g ids layer) (boxStatements g ids layer)
      ((boxMembers g layer).map (idOf ids)) []
      (if (boxMembers g layer).isEmpty then [] else [boxId layer]) := by
  rw [boxText, boxStatements]
  split
  next hnone =>
    rw [List.isEmpty_iff] at hnone
    rw [hnone]
    exact draws_nil
  next =>
    have hhead : Draws ["    subgraph " ++ titled (boxId layer) (boxTitle layer)]
        [.frame (boxId layer) (boxTitle layer)] [] [] [boxId layer] := by
      apply draws_frame
      have htext : "    subgraph " ++ titled (boxId layer) (boxTitle layer) =
          "    " ++ ("subgraph" ++ " " ++ titled (boxId layer) (boxTitle layer)) := by
        simp only [← String.append_assoc]
        rfl
      rw [htext]
      exact reads_frame blank_indent (isIdentifier_boxId layer) (isSafe_boxTitle layer)
    have hmembers := draws_nodes fun r (hr : r ∈ boxMembers g layer) =>
      reads_node blank_deepIndent (hids.valid r (List.mem_filter.1 hr).1) (isSafe_repoTitle g r)
    have hend : Draws ["    end"] [.other "    end"] [] [] [] := draws_other (by decide)
    have hbox := (hhead.append hmembers).append hend
    simp only [List.nil_append, List.append_nil] at hbox
    exact hbox

theorem isArrow_dependencyArrow (kind : DependencyKind) : IsArrow (dependencyArrow kind) := by
  cases kind <;> decide

theorem isSafe_dependencyLabel (e : Dependency) : ∀ l ∈ dependencyLabel? e, IsSafe l := by
  intro l hl
  rw [dependencyLabel?] at hl
  split at hl
  · obtain rfl := Option.some.inj hl
    exact isSafe_labelWithin _ _
  · split at hl
    · obtain rfl := Option.some.inj hl
      exact (isSafe_toString _).append (by decide)
    · cases hl

end Lines

/-- The lines of a flowchart show the repositories and their dependencies. -/
theorem shows_layers {g : Ecosystem} (h : g.IsWhole) {ids : OrderedMap String String}
    (hids : TellsApart (idOf ids) g.repos reservedIds) :
    Shows (joinWith "\n" (["flowchart TB"] ++ boxes.flatMap (boxText g ids) ++
        g.edges.map (dependencyLine ids) ++
        if g.repos.isEmpty then ["    " ++ titled "note" "No repositories with snapshots"] else []))
      (layerStatements g ids) (idOf ids) g.repos (g.edges.map (fun e => (e.source, e.target)))
      reservedIds := by
  have hheader : Draws ["flowchart TB"] [.other "flowchart TB"] [] [] [] :=
    draws_other (by decide)
  have hboxes := draws_flatMap fun layer (_ : layer ∈ boxes) => draws_box hids layer
  have hlinks := draws_links fun e he =>
    have hends := h.ends e he
    reads_link blank_indent (hids.valid _ hends.1) (isArrow_dependencyArrow e.kind)
      (isSafe_dependencyLabel e) (hids.valid _ hends.2)
  have hnote := @draws_note (g.repos.isEmpty = true) _
    ("    " ++ titled "note" "No repositories with snapshots") "note"
    "No repositories with snapshots" (by decide)
  have hchart := ((hheader.append hboxes).append hlinks).append hnote
  simp only [List.nil_append, List.append_nil] at hchart
  have hmembers : ((boxes.flatMap (fun layer => (boxMembers g layer).map (idOf ids))) ++
      if g.repos.isEmpty then ["note"] else []).Perm
        (g.repos.map (idOf ids) ++ if g.repos.isEmpty then ["note"] else []) := by
    rw [← List.map_flatMap]
    exact ((boxMembers_perm g).map _).append_right _
  refine hchart.shows (List.cons_ne_nil _ _) hids h.once hmembers ?_ ?_ ?_ ?_
  · split
    · exact fun _ hnote => List.mem_append_right _ hnote
    · exact List.nil_subset _
  · rw [List.map_map]
    rfl
  · intro pair hpair
    obtain ⟨e, he, rfl⟩ := List.mem_map.1 hpair
    exact h.ends e he
  · intro f hf
    obtain ⟨layer, hlayer, hf⟩ := List.mem_flatMap.1 hf
    split at hf
    · cases hf
    · obtain rfl := List.mem_singleton.1 hf
      exact List.mem_append_left _ (List.mem_map_of_mem hlayer)

/-- An ecosystem without long scores has a flowchart, which shows its repositories and their
dependencies; with such a score there is none. -/
theorem layerDiagram_shows {g : Ecosystem} (h : g.IsWhole) :
    ((∃ repo ∈ g.repos, IsLong (g.score repo)) ∧ layerDiagram g = .error .longNumber) ∨
    (∀ repo ∈ g.repos, ¬ IsLong (g.score repo)) ∧
      ∃ text ids, layerDiagram g = .ok text ∧
        Shows text (layerStatements g ids) (idOf ids) g.repos
          (g.edges.map (fun e => (e.source, e.target))) reservedIds := by
  have hids := (tellsApart_uniqueIds (g.repos ++ g.edges.flatMap (fun e => [e.source, e.target]))
    reservedIds).of_subset (List.subset_append_left _ _)
  rw [layerDiagram]
  generalize uniqueIds (g.repos ++ g.edges.flatMap (fun e => [e.source, e.target])) reservedIds =
    ids at hids
  have hall : ∀ repo, (∃ layer ∈ boxes, repo ∈ boxMembers g layer) ↔ repo ∈ g.repos := fun repo =>
    List.mem_flatMap.symm.trans (boxMembers_perm g).mem_iff
  rcases mapM_cases fun layer (_ : layer ∈ boxes) => boxLines_cases g ids layer with
    ⟨⟨layer, hlayer, repo, hrepo, hlong⟩, hlines⟩ | ⟨hshort, hlines⟩
  · rw [hlines]
    exact Or.inl ⟨⟨repo, (hall repo).1 ⟨layer, hlayer, hrepo⟩, hlong⟩, rfl⟩
  · refine Or.inr ⟨fun repo hrepo hlong => ?_, _, ids, ?_, shows_layers h hids⟩
    · obtain ⟨layer, hlayer, hmember⟩ := (hall repo).2 hrepo
      exact hshort layer hlayer ⟨repo, hmember, hlong⟩
    · rw [hlines]
      rfl

/-- A repository that declares one service of its own is alone, and the service is its score. -/
theorem exists_build_score (repo service : String) (weights : ImpactWeights)
    (howner : ownerOf {} [repo] repo { name := service, layer := .backend } = .ok repo) :
    ∃ g, Ecosystem.build [(repo, some (declaring [service]))] [] {} 60 weights = .ok g ∧
      repo ∈ g.repos ∧ ∀ r ∈ g.repos, g.score r = weights.services := by
  let owned : Service := { name := service, layer := .backend, owner := repo }
  have howned : (declaredServices [(repo, some (declaring [service]))]).mapM (own {} [repo]) =
      .ok [owned] := by
    have hdeclared : declaredServices [(repo, some (declaring [service]))] =
        [(repo, { name := service, layer := .backend })] := rfl
    rw [hdeclared, mapM_eq_ok_iff_forall₂]
    exact .cons (own_eq_ok_iff.2 ⟨repo, howner, rfl⟩) .nil
  have hedges : dependenciesOf (contractEvidence (callEvidence []) []) = [] := List.mergeSort_nil
  refine ⟨_, build_eq_ok_iff.2 ⟨_, _, howned, rfl, rfl⟩, mem_repos_assemble.2 (Or.inl ?_), ?_⟩
  · exact List.mem_singleton.2 rfl
  · intro r hr
    obtain rfl : r = repo := by
      rcases mem_repos_assemble.1 hr with hknown | ⟨s, hs, rfl⟩ | ⟨e, he, -⟩
      · exact List.mem_singleton.1 hknown
      · rw [List.mem_singleton.1 hs]
      · rw [show Ecosystem.edges _ = [] from hedges] at he
        cases he
    have hservices : ((servicesByOwner [owned]).get? r).getD [] = [owned] := by
      rw [servicesByOwner, OrderedMap.getD_get?_groupedBy, List.filter_eq_self]
      exact fun s hs => decide_eq_true (by rw [List.mem_singleton.1 hs])
    have himpact : (impactOf weights [] (servicesByOwner [owned]) [] [] r).score =
        weights.services := by
      have hempty : sortedSet [] = [] := by decide +kernel
      simp [impactOf, Impact.scored, hservices, sharedTypesOf, hempty]
    rw [Ecosystem.score, impact?_assemble rfl hr, ← himpact, ← hedges]
    rfl

end RepoAtlas.Topology
