import RepoAtlas.Diff.Report
import RepoAtlas.Proofs.Diagram.Chart
import RepoAtlas.Proofs.Diff.Aggregation

/-!
When the flowchart of changes has the node that says there are none. The chart counts keys, while a
repository has changed as soon as one of its domains has: a domain that only one side has, and a
change that only the detail shows, leave the chart as if nothing had happened.
-/
namespace RepoAtlas.Diff

open RepoAtlas.Diagram RepoAtlas.Text
open EcosystemDiff (snapshotWith clusterOf)

/-! ### Reading the chart -/

/-- The nodes of both directions for all domains. -/
def allNodes (e : EcosystemDiff) : List ChangeNode :=
  (sortTexts e.aggregated.keys).flatMap fun d => changeNodes d ((e.aggregated.get? d).getD {})

def drawnNodes (e : EcosystemDiff) : List ChangeNode := (allNodes e).filter (!·.keys.isEmpty)

def ChangeNode.title (n : ChangeNode) : String :=
  label (n.glyph ++ " " ++ n.domain ++ " " ++ n.sign ++ toString n.keys.length ++ ": " ++
    preview n.keys)

/-- What the lines of the chart say. -/
def changeStatements (e : EcosystemDiff) (ids : OrderedMap String String) : List Statement :=
  [.other "flowchart LR"] ++
    [.frame "Changes" (label ("📊 Changes " ++ e.fromRef ++ " → " ++ e.toRef))] ++
    (drawnNodes e).map (fun n => .node (idOf ids n.name) n.title) ++
    (if (drawnNodes e).isEmpty then [.node "no_changes" "No changes"] else []) ++
    [.other "    end"]

theorem draws_changes {e : EcosystemDiff} {ids : OrderedMap String String}
    (hids : TellsApart (idOf ids) ((allNodes e).map (·.name)) ["Changes", "no_changes"]) :
    Draws (["flowchart LR"] ++ ["    subgraph " ++
        titled "Changes" (label ("📊 Changes " ++ e.fromRef ++ " → " ++ e.toRef))] ++
        (drawnNodes e).map (ChangeNode.line ids) ++
        (if (drawnNodes e).isEmpty then ["        " ++ titled "no_changes" "No changes"] else []) ++
        ["    end"])
      (changeStatements e ids)
      ((drawnNodes e).map (fun n => idOf ids n.name) ++
        if (drawnNodes e).isEmpty then ["no_changes"] else []) [] ["Changes"] := by
  have hheader : Draws ["flowchart LR"] [.other "flowchart LR"] [] [] [] := draws_other (by decide)
  have hbox := draws_frame (reads_frame blank_indent (by decide : IsIdentifier "Changes")
    (isSafe_label ("📊 Changes " ++ e.fromRef ++ " → " ++ e.toRef)))
  have hnodes := draws_nodes fun n (hn : n ∈ drawnNodes e) =>
    @reads_node _ blank_deepIndent _ n.title
      (hids.valid n.name (List.mem_map_of_mem (List.mem_of_mem_filter hn))) (isSafe_label _)
  have hnote := @draws_note ((drawnNodes e).isEmpty = true) _
    ("        " ++ titled "no_changes" "No changes") "no_changes" "No changes" (by decide)
  have hend : Draws ["    end"] [.other "    end"] [] [] [] := draws_other (by decide)
  have hchart := (((hheader.append hbox).append hnodes).append hnote).append hend
  simp only [List.nil_append, List.append_nil, ← String.append_assoc] at hchart
  exact hchart

/-- The chart declares a node under the identifier. -/
def HasNode (chart id : String) : Prop :=
  id ∈ (readChart chart).filterMap Statement.declared?

/-- The note stands where nothing is drawn, and only there. -/
theorem hasNode_note_iff (e : EcosystemDiff) :
    HasNode (changeDiagram e) "no_changes" ↔ drawnNodes e = [] := by
  have hids := tellsApart_uniqueIds ((allNodes e).map (·.name)) ["Changes", "no_changes"]
  have hchart := draws_changes hids
  have hread := readChart_joinWith hchart.reads (by simp)
  have hnodes : (readChart (changeDiagram e)).filterMap Statement.declared? = _ :=
    (congrArg _ hread).trans hchart.nodes
  rw [HasNode, hnodes, List.mem_append]
  constructor
  · rintro (hnode | hnote)
    · obtain ⟨n, hn, hid⟩ := List.mem_map.1 hnode
      refine absurd ?_ (hids.free n.name (List.mem_map_of_mem (List.mem_of_mem_filter hn)))
      rw [hid]
      decide
    · split at hnote
      next hempty => exact List.isEmpty_iff.1 hempty
      next => cases hnote
  · intro hnone
    rw [hnone]
    exact Or.inr List.mem_cons_self

/-! ### What is drawn -/

/-- A bucket is empty if no comparison of its domain has keys. -/
theorem isEmpty_bucket_iff (e : EcosystemDiff) (domain : String) :
    ((e.aggregated.get? domain).getD {}).isEmpty = true ↔
      ∀ p ∈ e.parts, p.2.domain = domain → p.2.keys.isEmpty = true := by
  rw [EcosystemDiff.aggregated_eq_gather, Aggregate.getD_get?_gather]
  simp only [SetChange.isEmpty, Bool.and_eq_true, List.isEmpty_iff, Aggregate.texts_eq_nil_iff,
    Aggregate.ofDomain, List.mem_filter, decide_eq_true_eq, and_imp]
  exact ⟨fun h p hp hdomain => ⟨h.1 p hp hdomain, h.2 p hp hdomain⟩,
    fun h => ⟨fun p hp hdomain => (h p hp hdomain).1, fun p hp hdomain => (h p hp hdomain).2⟩⟩

theorem forall_changeNodes_iff (domain : String) (c : SetChange String) :
    (∀ n ∈ changeNodes domain c, n.keys.isEmpty = true) ↔ c.isEmpty = true := by
  simp [changeNodes, SetChange.isEmpty]

/-- Nothing is drawn exactly if no comparison has keys. -/
theorem drawnNodes_eq_nil_iff (e : EcosystemDiff) :
    drawnNodes e = [] ↔ ∀ r ∈ e.repos, ∀ d ∈ r.domains, d.keys.isEmpty = true := by
  have hbuckets : drawnNodes e = [] ↔
      ∀ domain ∈ e.aggregated.keys, ((e.aggregated.get? domain).getD {}).isEmpty = true := by
    simp only [drawnNodes, allNodes, List.filter_eq_nil_iff, List.forall_mem_flatMap, mem_sortTexts,
      Bool.not_eq_true', Bool.not_eq_false, forall_changeNodes_iff]
  rw [hbuckets]
  simp only [isEmpty_bucket_iff]
  constructor
  · intro h r hr d hd
    exact h d.domain (EcosystemDiff.mem_keys_aggregated.2 ⟨r, hr, List.mem_map_of_mem hd⟩)
      (r.repo, d) (List.mem_flatMap.2 ⟨r, hr, List.mem_map_of_mem hd⟩) rfl
  · intro h domain _ p hp _
    obtain ⟨r, hr, hp⟩ := List.mem_flatMap.1 hp
    obtain ⟨d, hd, rfl⟩ := List.mem_map.1 hp
    exact h r hr d hd

/-! ### What has changed -/

/-- A change that no key shows: of a whole domain, or in the detail only. -/
def DomainDiff.IsHidden (d : DomainDiff) : Prop :=
  d.status = .new ∨ d.status = .removed ∨
    d.status = .changed ∧ d.keys.isEmpty = true ∧ d.detail.hasChanges = true

theorem DomainDiff.IsSound.isHidden_iff {d : DomainDiff} (h : d.IsSound)
    (hchange : d.status ≠ .unchanged) : d.IsHidden ↔ d.keys.isEmpty = true := by
  constructor
  · rintro (hnew | hremoved | ⟨-, hkeys, -⟩)
    · exact h.whole (Or.inl hnew)
    · exact h.whole (Or.inr hremoved)
    · exact hkeys
  · intro hkeys
    cases hstatus : d.status with
    | unchanged => exact absurd hstatus hchange
    | new => exact Or.inl hstatus
    | removed => exact Or.inr (Or.inl hstatus)
    | changed =>
      refine Or.inr (Or.inr ⟨hstatus, hkeys, (h.changed hstatus).resolve_left ?_⟩)
      simp [hkeys]

theorem RepoDiff.mem_changes {r : RepoDiff} {d : DomainDiff} :
    d ∈ r.changes ↔ d ∈ r.domains ∧ d.status ≠ .unchanged := by
  simp [changes]

theorem EcosystemDiff.changedRepos_eq_nil_iff (e : EcosystemDiff) :
    e.changedRepos = [] ↔ ∀ r ∈ e.repos, r.changes = [] := by
  simp [changedRepos, List.filter_eq_nil_iff, RepoDiff.hasChanges]

/-- The note stands where all changes are hidden ones. -/
theorem hasNode_note_iff_hidden {e : EcosystemDiff}
    (hsound : ∀ r ∈ e.repos, ∀ d ∈ r.domains, d.IsSound) :
    HasNode (changeDiagram e) "no_changes" ↔ ∀ r ∈ e.repos, ∀ d ∈ r.changes, d.IsHidden := by
  rw [hasNode_note_iff, drawnNodes_eq_nil_iff]
  refine forall₂_congr fun r hr => ⟨fun hkeys d hd => ?_, fun hhidden d hd => ?_⟩
  · obtain ⟨hd, hchange⟩ := RepoDiff.mem_changes.1 hd
    exact ((hsound r hr d hd).isHidden_iff hchange).2 (hkeys d hd)
  · by_cases hchange : d.status = .unchanged
    · exact ((hsound r hr d hd).unchanged hchange).1
    · exact ((hsound r hr d hd).isHidden_iff hchange).1
        (hhidden d (RepoDiff.mem_changes.2 ⟨hd, hchange⟩))

/-- The note that nothing has changed stands where all changes are hidden ones. So it is right
unless something has changed and no change can be seen from the keys. -/
theorem changeDiagram_note {before after : EcosystemDiff.Snapshots} {fromRef toRef only : String}
    {e : EcosystemDiff} (h : EcosystemDiff.between before after fromRef toRef only = .ok e) :
    (HasNode (changeDiagram e) "no_changes" ↔ ∀ r ∈ e.repos, ∀ d ∈ r.changes, d.IsHidden) ∧
    ((HasNode (changeDiagram e) "no_changes" ↔ e.changedRepos = []) ↔
      e.changedRepos = [] ∨ ∃ r ∈ e.repos, ∃ d ∈ r.changes, ¬ d.IsHidden) := by
  have hnote := hasNode_note_iff_hidden (EcosystemDiff.isOrdered_of_between h).sound
  refine ⟨hnote, ?_⟩
  rw [hnote, EcosystemDiff.changedRepos_eq_nil_iff]
  constructor
  · intro hright
    by_cases hnone : ∀ r ∈ e.repos, r.changes = []
    · exact Or.inl hnone
    · have hseen := mt hright.1 hnone
      simp only [not_forall, exists_prop] at hseen
      exact Or.inr hseen
  · rintro (hnone | ⟨r, hr, d, hd, hseen⟩)
    · refine iff_of_true (fun r hr d hd => ?_) hnone
      rw [hnone r hr] at hd
      cases hd
    · refine iff_of_false (fun hhidden => hseen (hhidden r hr d hd)) fun hnone => ?_
      rw [hnone r hr] at hd
      cases hd

/-- A new resource is drawn. -/
theorem changeDiagram_note_resources :
    let before := snapshotWith [("kubernetes", clusterOf [("Deployment", "web")])]
    let after := snapshotWith [("kubernetes", clusterOf [("Deployment", "web"), ("Service", "web")])]
    ∃ e, EcosystemDiff.between [("shop", some before)] [("shop", some after)] "" "" "kubernetes" =
        .ok e ∧ e.changedRepos = ["shop"] ∧ ¬ HasNode (changeDiagram e) "no_changes" := by
  intro before after
  have hrun := EcosystemDiff.between_single "shop" "" "" "kubernetes" before after
  refine ⟨_, hrun, rfl, ?_⟩
  rw [(changeDiagram_note hrun).1]
  intro hhidden
  rcases hhidden _ List.mem_cons_self _ List.mem_cons_self with hnew | hremoved | ⟨-, hkeys, -⟩
  · cases hnew
  · cases hremoved
  · cases hkeys

/-- A domain that is new is a change, and the chart says that there is none. -/
theorem changeDiagram_hides_newDomain :
    let before := snapshotWith []
    let after := snapshotWith [("kubernetes", clusterOf [("Service", "web")])]
    ∃ e, EcosystemDiff.between [("shop", some before)] [("shop", some after)] "" "" "kubernetes" =
        .ok e ∧ e.changedRepos = ["shop"] ∧ HasNode (changeDiagram e) "no_changes" := by
  intro before after
  refine ⟨_, EcosystemDiff.between_single "shop" "" "" "kubernetes" before after, rfl, ?_⟩
  rw [hasNode_note_iff, drawnNodes_eq_nil_iff]
  simp [SetChange.isEmpty]

end RepoAtlas.Diff
