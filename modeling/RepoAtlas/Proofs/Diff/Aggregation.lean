import Mathlib.Data.List.Induction
import RepoAtlas.Net.Url
import RepoAtlas.Proofs.Diff.Reversal
import RepoAtlas.Proofs.Sorting

/-!
The keys of all repositories in one aggregate. A key may hold slashes but a repository's name does
not, so a text of the aggregate still tells whose key it is: what stands before its first slash is
the repository. Nothing is lost and nothing is mixed, because every repository has one row, and a
row compares a domain once.
-/
namespace RepoAtlas.Diff

/-! ### Changes without repetition -/

/-- Nothing is listed twice, and nothing has both come and gone. -/
structure SetChange.IsClean (c : SetChange String) : Prop where
  added : c.added.Nodup
  removed : c.removed.Nodup
  apart : ∀ k ∈ c.added, k ∉ c.removed

theorem SetChange.isClean_empty : SetChange.IsClean {} :=
  ⟨List.nodup_nil, List.nodup_nil, fun _ hk => absurd hk List.not_mem_nil⟩

theorem SetChange.isClean_between (old new : List String) : (between old new).IsClean where
  added := nodup_missingFrom old new
  removed := nodup_missingFrom new old
  apart := fun _ hadded hremoved =>
    (mem_missingFrom_iff.1 hadded).2 (mem_missingFrom_iff.1 hremoved).1

/-- How the parts of a comparison go together. -/
structure DomainDiff.IsSound (d : DomainDiff) : Prop where
  clean : d.keys.IsClean
  whole : d.status = .new ∨ d.status = .removed → d.keys.isEmpty = true
  changed : d.status = .changed → d.keys.isEmpty = false ∨ d.detail.hasChanges = true
  unchanged : d.status = .unchanged → d.keys.isEmpty = true ∧ d.detail.hasChanges = false

theorem DomainDiff.isSound_between {domain : String} {before after : Doc} {d : DomainDiff}
    (h : DomainDiff.between domain before after = .ok d) : d.domain = domain ∧ d.IsSound := by
  by_cases hbefore : before = .null
  · subst hbefore
    by_cases hafter : after = .null
    · subst hafter
      cases h
      exact ⟨rfl, SetChange.isClean_empty, by simp, by simp, fun _ => ⟨rfl, rfl⟩⟩
    · rw [between_null_left domain hafter] at h
      cases h
      exact ⟨rfl, SetChange.isClean_empty, fun _ => rfl, by simp, by simp⟩
  · by_cases hafter : after = .null
    · subst hafter
      rw [between_null_right domain hbefore] at h
      cases h
      exact ⟨rfl, SetChange.isClean_empty, fun _ => rfl, by simp, by simp⟩
    · obtain ⟨old, new, hold, hnew⟩ := exists_keys hbefore hafter h
      obtain ⟨detail, -, rfl⟩ := between_eq_ok hbefore hafter hold hnew h
      refine ⟨rfl, SetChange.isClean_between old new, ?_, ?_, ?_⟩
      all_goals
        dsimp only
        cases (SetChange.between old new).isEmpty <;> cases detail.hasChanges <;> simp

/-! ### Rows -/

/-- Without a domain to look for, all that either side has are compared. -/
def IsCompared (only : String) (before after : Snapshot) (domain : String) : Prop :=
  if only = "" then domain ∈ before.facts.map (·.1) ∨ domain ∈ after.facts.map (·.1)
  else domain = only

theorem mem_comparedDomains {only domain : String} {before after : Snapshot} :
    domain ∈ comparedDomains only before.facts after.facts ↔
      IsCompared only before after domain := by
  simp only [comparedDomains, IsCompared, String.isEmpty_iff]
  split
  · rw [mem_sortedSet, List.map_append, List.mem_append]
  · rw [List.mem_singleton]

theorem pairwise_comparedDomains (only : String) (before after : List (String × Doc)) :
    (comparedDomains only before after).Pairwise (· < ·) := by
  rw [comparedDomains]
  split
  · exact pairwise_sortedSet _
  · exact List.pairwise_singleton _ _

theorem snapshotDiffs_compares {only : String} {before after : Snapshot} {ds : List DomainDiff}
    (h : snapshotDiffs only before.facts after.facts = .ok ds) :
    ds.map (·.domain) = comparedDomains only before.facts after.facts ∧
      ∀ d ∈ ds, DomainDiff.between d.domain (payloadIn before.facts d.domain)
        (payloadIn after.facts d.domain) = .ok d := by
  constructor
  · have hdomains := map_eq_of_mapM_eq_ok (g := (·.domain)) (k := id)
      (fun _ _ hd => (DomainDiff.isSound_between hd).1) h
    rwa [List.map_id] at hdomains
  · intro d hd
    obtain ⟨domain, -, hbetween⟩ := mem_of_mapM_eq_ok h hd
    obtain ⟨rfl, -⟩ := DomainDiff.isSound_between hbetween
    exact hbetween

/-- The row of a repository: which snapshots there are, and the comparisons of their domains. -/
structure RepoDiff.Tells (r : RepoDiff) (only : String) (before after : Option Snapshot) :
    Prop where
  hasBefore : r.hasBefore = before.isSome
  hasAfter : r.hasAfter = after.isSome
  ascending : (r.domains.map (·.domain)).Pairwise (· < ·)
  mem_iff : ∀ domain, domain ∈ r.domains.map (·.domain) ↔
    ∃ a b, before = some a ∧ after = some b ∧ IsCompared only a b domain
  compares : ∀ d ∈ r.domains, ∃ a b, before = some a ∧ after = some b ∧
    DomainDiff.between d.domain (payloadIn a.facts d.domain) (payloadIn b.facts d.domain) = .ok d

/-- Every domain that is to be compared can be. -/
def CanCompare (only : String) (before after : Option Snapshot) : Prop :=
  ∀ a b, before = some a → after = some b → ∀ domain, IsCompared only a b domain →
    ∃ d, DomainDiff.between domain (payloadIn a.facts domain) (payloadIn b.facts domain) = .ok d

namespace EcosystemDiff

variable {only repo : String} {before after : Snapshots}

/-- Without one of the snapshots there is nothing to compare. -/
theorem tells_missing (repo only : String) {a b : Option Snapshot} (h : a = none ∨ b = none) :
    RepoDiff.Tells ⟨repo, a.isSome, b.isSome, []⟩ only a b where
  hasBefore := rfl
  hasAfter := rfl
  ascending := .nil
  mem_iff := by
    intro domain
    rcases h with rfl | rfl <;> simp
  compares := fun _ hd => absurd hd List.not_mem_nil

theorem tells_repoDiff {r : RepoDiff} (h : repoDiff only before after repo = .ok r) :
    r.repo = repo ∧ r.Tells only (snapshotIn before repo) (snapshotIn after repo) := by
  rw [repoDiff] at h
  cases ha : snapshotIn before repo with
  | none =>
    rw [ha] at h
    cases h
    exact ⟨rfl, tells_missing repo only (Or.inl rfl)⟩
  | some a =>
    cases hb : snapshotIn after repo with
    | none =>
      rw [ha, hb] at h
      cases h
      exact ⟨rfl, tells_missing repo only (Or.inr rfl)⟩
    | some b =>
      rw [ha, hb] at h
      obtain ⟨ds, hds, hr⟩ := bind_eq_ok_iff.1 h
      obtain rfl := pure_eq_ok_iff.1 hr
      obtain ⟨hdomains, hcompares⟩ := snapshotDiffs_compares hds
      refine ⟨rfl, rfl, rfl, ?_, fun domain => ?_, fun d hd => ⟨a, b, rfl, rfl, hcompares d hd⟩⟩
      · rw [hdomains]
        exact pairwise_comparedDomains only a.facts b.facts
      · rw [hdomains, mem_comparedDomains]
        simp

theorem exists_repoDiff_iff : (∃ r, repoDiff only before after repo = .ok r) ↔
    CanCompare only (snapshotIn before repo) (snapshotIn after repo) := by
  rw [repoDiff, CanCompare]
  cases snapshotIn before repo with
  | none => simp [pure, Except.pure]
  | some a =>
    cases snapshotIn after repo with
    | none => simp [pure, Except.pure]
    | some b =>
      have hrow : ∀ ds : List DomainDiff,
          ∃ r, (pure ⟨repo, true, true, ds⟩ : Result RepoDiff) = .ok r := fun _ => ⟨_, rfl⟩
      simp only [exists_bind_iff, hrow, and_true, snapshotDiffs, exists_mapM_iff,
        mem_comparedDomains, Option.some.injEq, forall_eq', forall_apply_eq_imp_iff]

/-! ### The aggregate -/

/-- The comparisons of all repositories, each with the name of its own. -/
def parts (e : EcosystemDiff) : List (String × DomainDiff) :=
  e.repos.flatMap fun r => r.domains.map (r.repo, ·)

end EcosystemDiff

namespace Aggregate

def gather (parts : List (String × DomainDiff)) : Aggregate :=
  parts.foldl (fun found p => found.add p.1 p.2) {}

theorem gather_snoc (parts : List (String × DomainDiff)) (p : String × DomainDiff) :
    gather (parts ++ [p]) = (gather parts).add p.1 p.2 := by
  rw [gather, List.foldl_append]
  rfl

theorem mem_keys_gather {parts : List (String × DomainDiff)} {domain : String} :
    domain ∈ (gather parts).keys ↔ ∃ p ∈ parts, p.2.domain = domain := by
  induction parts using List.reverseRecOn with
  | nil => simp [gather, OrderedMap.keys]
  | append_singleton parts p ih =>
    rw [gather_snoc, add, OrderedMap.keys_update, mem_appendNew, ih]
    simp [or_and_right, exists_or, eq_comm]

theorem nodup_keys_gather (parts : List (String × DomainDiff)) : (gather parts).keys.Nodup := by
  induction parts using List.reverseRecOn with
  | nil => exact List.nodup_nil
  | append_singleton parts p ih =>
    rw [gather_snoc]
    exact OrderedMap.nodup_keys_update ih _ _

/-- The comparisons of one domain. -/
def ofDomain (domain : String) (parts : List (String × DomainDiff)) : List (String × DomainDiff) :=
  parts.filter (·.2.domain = domain)

/-- A list of keys from each comparison, with the repository in front. -/
def texts (side : SetChange String → List String) (parts : List (String × DomainDiff)) :
    List String :=
  parts.flatMap fun p => (side p.2.keys).map (p.1 ++ "/" ++ ·)

theorem texts_snoc (side : SetChange String → List String) (parts : List (String × DomainDiff))
    (p : String × DomainDiff) :
    texts side (parts ++ [p]) = texts side parts ++ (side p.2.keys).map (p.1 ++ "/" ++ ·) := by
  rw [texts, List.flatMap_append, List.flatMap_singleton]
  rfl

theorem texts_eq_nil_iff {side : SetChange String → List String}
    {parts : List (String × DomainDiff)} :
    texts side parts = [] ↔ ∀ p ∈ parts, side p.2.keys = [] := by
  simp [texts]

theorem getD_get?_gather (parts : List (String × DomainDiff)) (domain : String) :
    ((gather parts).get? domain).getD {} =
      ⟨texts (·.added) (ofDomain domain parts), texts (·.removed) (ofDomain domain parts)⟩ := by
  induction parts using List.reverseRecOn with
  | nil => rfl
  | append_singleton parts p ih =>
    rw [gather_snoc, add, OrderedMap.get?_update, ofDomain, List.filter_append]
    split
    next h =>
      have hone : [p].filter (·.2.domain = domain) = [p] := by simp [h]
      rw [← h, ih, hone, texts_snoc, texts_snoc]
      rfl
    next h =>
      have hnone : [p].filter (·.2.domain = domain) = [] := by simp [Ne.symm h]
      rw [hnone, List.append_nil]
      exact ih

/-! ### Reading texts back -/

/-- A text cut at its first slash. -/
def repoAndKey (text : String) : String × String :=
  let (repo, key) := Net.cutAt '/' text.toList
  (String.ofList repo, String.ofList key)

theorem repoAndKey_append {repo : String} (h : '/' ∉ repo.toList) (key : String) :
    repoAndKey (repo ++ "/" ++ key) = (repo, key) := by
  have hrepo : ∀ c ∈ repo.toList, decide (c ≠ '/') = true :=
    fun c hc => decide_eq_true fun heq => h (heq ▸ hc)
  have htext : (repo ++ "/" ++ key).toList = repo.toList ++ '/' :: key.toList := by simp
  have hfront : (repo.toList ++ '/' :: key.toList).takeWhile (· ≠ '/') = repo.toList := by
    rw [List.takeWhile_append_of_pos hrepo]
    simp
  rw [repoAndKey, htext, Net.cutAt, hfront]
  simp

/-- The keys of the comparisons with their repositories. -/
def pairs (side : SetChange String → List String) (parts : List (String × DomainDiff)) :
    List (String × String) :=
  parts.flatMap fun p => (side p.2.keys).map (p.1, ·)

variable {side : SetChange String → List String} {parts : List (String × DomainDiff)}

theorem map_repoAndKey_texts (h : ∀ p ∈ parts, '/' ∉ p.1.toList) :
    (texts side parts).map repoAndKey = pairs side parts := by
  rw [texts, pairs, List.map_flatMap]
  refine List.flatMap_congr fun p hp => ?_
  rw [List.map_map]
  exact List.map_congr_left fun key _ => repoAndKey_append (h p hp) key

theorem append_repoAndKey (h : ∀ p ∈ parts, '/' ∉ p.1.toList) {t : String}
    (ht : t ∈ texts side parts) : (repoAndKey t).1 ++ "/" ++ (repoAndKey t).2 = t := by
  obtain ⟨p, hp, ht⟩ := List.mem_flatMap.1 ht
  obtain ⟨key, -, rfl⟩ := List.mem_map.1 ht
  rw [repoAndKey_append (h p hp)]

theorem mem_pairs {repo key : String} :
    (repo, key) ∈ pairs side parts ↔ ∃ p ∈ parts, p.1 = repo ∧ key ∈ side p.2.keys := by
  simp [pairs]

section Grouped

variable (h : parts.Pairwise (fun p q => p.1 < q.1))

include h

theorem nodup_pairs (hside : ∀ p ∈ parts, (side p.2.keys).Nodup) : (pairs side parts).Nodup := by
  refine List.pairwise_flatMap.2 ⟨fun p hp => ?_, h.imp fun hlt => ?_⟩
  · exact (hside p hp).map fun _ _ heq => (Prod.mk.inj heq).2
  · intro x hx y hy heq
    obtain ⟨k, -, rfl⟩ := List.mem_map.1 hx
    obtain ⟨l, -, rfl⟩ := List.mem_map.1 hy
    exact absurd (Prod.mk.inj heq).1 (ne_of_lt hlt)

theorem pairwise_pairs : (pairs side parts).Pairwise (fun x y => x.1 ≤ y.1) := by
  refine List.pairwise_flatMap.2 ⟨fun p _ => ?_, h.imp fun hlt => ?_⟩
  · exact List.pairwise_map.2 (List.pairwise_of_forall fun _ _ => le_rfl)
  · intro x hx y hy
    obtain ⟨k, -, rfl⟩ := List.mem_map.1 hx
    obtain ⟨l, -, rfl⟩ := List.mem_map.1 hy
    exact le_of_lt hlt

end Grouped

/-- Cut at their first slash, the texts are the keys that the rows show for a domain with their
repositories: each pair once, and the repositories ascending. -/
structure Gathers (texts : List String) (side : SetChange String → List String) (domain : String)
    (rows : List RepoDiff) : Prop where
  joined : ∀ t ∈ texts, (repoAndKey t).1 ++ "/" ++ (repoAndKey t).2 = t
  mem_iff : ∀ repo key, (repo, key) ∈ texts.map repoAndKey ↔
    ∃ r ∈ rows, r.repo = repo ∧ ∃ d ∈ r.domains, d.domain = domain ∧ key ∈ side d.keys
  once : (texts.map repoAndKey).Nodup
  grouped : (texts.map repoAndKey).Pairwise (fun p q => p.1 ≤ q.1)

end Aggregate

namespace EcosystemDiff

theorem aggregated_eq_gather (e : EcosystemDiff) : e.aggregated = .gather e.parts := by
  rw [aggregated, Aggregate.gather, parts, List.foldl_flatMap]
  simp only [List.foldl_map]

theorem mem_keys_aggregated {e : EcosystemDiff} {domain : String} :
    domain ∈ e.aggregated.keys ↔ ∃ r ∈ e.repos, domain ∈ r.domains.map (·.domain) := by
  rw [aggregated_eq_gather, Aggregate.mem_keys_gather]
  simp only [parts, List.mem_flatMap, List.mem_map]
  constructor
  · rintro ⟨_, ⟨r, hr, d, hd, rfl⟩, hdomain⟩
    exact ⟨r, hr, d, hd, hdomain⟩
  · rintro ⟨r, hr, d, hd, hdomain⟩
    exact ⟨(r.repo, d), ⟨r, hr, d, hd, rfl⟩, hdomain⟩

theorem nodup_keys_aggregated (e : EcosystemDiff) : e.aggregated.keys.Nodup := by
  rw [aggregated_eq_gather]
  exact Aggregate.nodup_keys_gather _

/-- Each repository has one row, and each row compares a domain once. -/
structure IsOrdered (e : EcosystemDiff) : Prop where
  repos : (e.repos.map (·.repo)).Pairwise (· < ·)
  domains : ∀ r ∈ e.repos, (r.domains.map (·.domain)).Pairwise (· < ·)
  sound : ∀ r ∈ e.repos, ∀ d ∈ r.domains, d.IsSound

section Ordered

variable {e : EcosystemDiff} {domain : String}

theorem mem_ofDomain_parts {p : String × DomainDiff} : p ∈ Aggregate.ofDomain domain e.parts ↔
    ∃ r ∈ e.repos, r.repo = p.1 ∧ p.2 ∈ r.domains ∧ p.2.domain = domain := by
  obtain ⟨repo, d⟩ := p
  simp only [Aggregate.ofDomain, parts, List.mem_filter, List.mem_flatMap, List.mem_map,
    Prod.mk.injEq, decide_eq_true_eq]
  constructor
  · rintro ⟨⟨r, hr, d, hd, hrepo, rfl⟩, hdomain⟩
    exact ⟨r, hr, hrepo, hd, hdomain⟩
  · rintro ⟨r, hr, hrepo, hd, hdomain⟩
    exact ⟨⟨r, hr, d, hd, hrepo, rfl⟩, hdomain⟩

theorem IsOrdered.pairwise_ofDomain (h : e.IsOrdered) (domain : String) :
    (Aggregate.ofDomain domain e.parts).Pairwise (fun p q => p.1 < q.1) := by
  rw [Aggregate.ofDomain, List.pairwise_filter, parts]
  refine List.pairwise_flatMap.2 ⟨fun r hr => ?_, ?_⟩
  · refine List.pairwise_map.2 ((List.pairwise_map.1 (h.domains r hr)).imp ?_)
    intro c d hlt hc hd
    rw [decide_eq_true_iff] at hc hd
    exact absurd (hc.trans hd.symm) (ne_of_lt hlt)
  · refine (List.pairwise_map.1 h.repos).imp fun hlt x hx y hy _ _ => ?_
    obtain ⟨c, -, rfl⟩ := List.mem_map.1 hx
    obtain ⟨d, -, rfl⟩ := List.mem_map.1 hy
    exact hlt

theorem IsOrdered.gathers (h : e.IsOrdered) (hslash : ∀ r ∈ e.repos, '/' ∉ r.repo.toList)
    (domain : String) {side : SetChange String → List String}
    (hside : ∀ c : SetChange String, c.IsClean → (side c).Nodup) :
    Aggregate.Gathers (Aggregate.texts side (Aggregate.ofDomain domain e.parts)) side domain
      e.repos := by
  have hfree : ∀ p ∈ Aggregate.ofDomain domain e.parts, '/' ∉ p.1.toList := by
    intro p hp
    obtain ⟨r, hr, hrepo, -⟩ := mem_ofDomain_parts.1 hp
    exact hrepo ▸ hslash r hr
  have hclean : ∀ p ∈ Aggregate.ofDomain domain e.parts, (side p.2.keys).Nodup := by
    intro p hp
    obtain ⟨r, hr, -, hd, -⟩ := mem_ofDomain_parts.1 hp
    exact hside _ (h.sound r hr p.2 hd).clean
  have hpairs := @Aggregate.map_repoAndKey_texts side _ hfree
  refine ⟨fun t => Aggregate.append_repoAndKey hfree, fun repo key => ?_, ?_, ?_⟩
  · rw [hpairs, Aggregate.mem_pairs]
    constructor
    · rintro ⟨p, hp, rfl, hkey⟩
      obtain ⟨r, hr, hrepo, hd, hdomain⟩ := mem_ofDomain_parts.1 hp
      exact ⟨r, hr, hrepo, p.2, hd, hdomain, hkey⟩
    · rintro ⟨r, hr, hrepo, d, hd, hdomain, hkey⟩
      exact ⟨(repo, d), mem_ofDomain_parts.2 ⟨r, hr, hrepo, hd, hdomain⟩, rfl, hkey⟩
  · rw [hpairs]
    exact Aggregate.nodup_pairs (h.pairwise_ofDomain domain) hclean
  · rw [hpairs]
    exact Aggregate.pairwise_pairs (h.pairwise_ofDomain domain)

/-- A bucket has the texts of its domain. -/
theorem texts_of_get? {c : SetChange String} (h : e.aggregated.get? domain = some c) :
    c.added = Aggregate.texts (·.added) (Aggregate.ofDomain domain e.parts) ∧
      c.removed = Aggregate.texts (·.removed) (Aggregate.ofDomain domain e.parts) := by
  have hbucket := Aggregate.getD_get?_gather e.parts domain
  rw [← aggregated_eq_gather, h] at hbucket
  obtain rfl : c = _ := hbucket
  exact ⟨rfl, rfl⟩

/-- Rows and comparisons are known by their names. -/
theorem IsOrdered.eq_of_names (h : e.IsOrdered) {r s : RepoDiff} (hr : r ∈ e.repos)
    (hs : s ∈ e.repos) (hrepo : r.repo = s.repo) {c d : DomainDiff} (hc : c ∈ r.domains)
    (hd : d ∈ s.domains) (hdomain : c.domain = d.domain) : c = d := by
  obtain rfl := List.inj_on_of_nodup_map (h.repos.imp ne_of_lt) hr hs hrepo
  exact List.inj_on_of_nodup_map ((h.domains r hr).imp ne_of_lt) hc hd hdomain

/-- No text has both come and gone. -/
theorem IsOrdered.apart (h : e.IsOrdered) {added removed : List String}
    (hadded : Aggregate.Gathers added (·.added) domain e.repos)
    (hremoved : Aggregate.Gathers removed (·.removed) domain e.repos) :
    ∀ t ∈ added, t ∉ removed := by
  intro t ht ht'
  obtain ⟨r, hr, hrepo, d, hd, hdomain, hkey⟩ :=
    (hadded.mem_iff _ _).1 (List.mem_map_of_mem ht)
  obtain ⟨s, hs, hrepo', c, hc, hdomain', hkey'⟩ :=
    (hremoved.mem_iff _ _).1 (List.mem_map_of_mem ht')
  obtain rfl := h.eq_of_names hr hs (hrepo.trans hrepo'.symm) hd hc (hdomain.trans hdomain'.symm)
  exact (h.sound r hr d hd).clean.apart _ hkey hkey'

end Ordered

/-! ### Ecosystems -/

/-- One row for each repository of either side, and one bucket for each domain that is compared
somewhere, with the keys of the rows. -/
structure Aggregates (e : EcosystemDiff) (only : String) (before after : Snapshots) : Prop where
  mem_iff : ∀ repo, repo ∈ e.repos.map (·.repo) ↔
    repo ∈ before.map (·.1) ∨ repo ∈ after.map (·.1)
  ascending : (e.repos.map (·.repo)).Pairwise (· < ·)
  rows : ∀ r ∈ e.repos, r.Tells only (snapshotIn before r.repo) (snapshotIn after r.repo)
  buckets : ∀ domain, domain ∈ e.aggregated.keys ↔ ∃ repo a b,
    snapshotIn before repo = some a ∧ snapshotIn after repo = some b ∧ IsCompared only a b domain
  once : e.aggregated.keys.Nodup
  added : ∀ domain c, e.aggregated.get? domain = some c →
    Aggregate.Gathers c.added (·.added) domain e.repos
  removed : ∀ domain c, e.aggregated.get? domain = some c →
    Aggregate.Gathers c.removed (·.removed) domain e.repos
  apart : ∀ domain c, e.aggregated.get? domain = some c → ∀ t ∈ c.added, t ∉ c.removed

section Between

variable {only fromRef toRef : String} {before after : Snapshots} {e : EcosystemDiff}

theorem rows_of_between (h : between before after fromRef toRef only = .ok e) :
    e.repos.map (·.repo) = sortedSet ((before ++ after).map (·.1)) ∧
      ∀ r ∈ e.repos, r.Tells only (snapshotIn before r.repo) (snapshotIn after r.repo) := by
  obtain ⟨rows, hrows, he⟩ := bind_eq_ok_iff.1 h
  obtain rfl := pure_eq_ok_iff.1 he
  constructor
  · have hrepos := map_eq_of_mapM_eq_ok (g := (·.repo)) (k := id)
      (fun _ _ hr => (tells_repoDiff hr).1) hrows
    rwa [List.map_id] at hrepos
  · intro r hr
    obtain ⟨repo, -, hrow⟩ := mem_of_mapM_eq_ok hrows hr
    obtain ⟨rfl, htells⟩ := tells_repoDiff hrow
    exact htells

theorem isOrdered_of_between (h : between before after fromRef toRef only = .ok e) :
    e.IsOrdered := by
  obtain ⟨hrepos, hrows⟩ := rows_of_between h
  refine ⟨?_, fun r hr => (hrows r hr).ascending, fun r hr d hd => ?_⟩
  · rw [hrepos]
    exact pairwise_sortedSet _
  · obtain ⟨_, _, -, -, hbetween⟩ := (hrows r hr).compares d hd
    exact (DomainDiff.isSound_between hbetween).2

theorem mem_repos_of_between (h : between before after fromRef toRef only = .ok e) (repo : String) :
    repo ∈ e.repos.map (·.repo) ↔ repo ∈ before.map (·.1) ∨ repo ∈ after.map (·.1) := by
  rw [(rows_of_between h).1, mem_sortedSet, List.map_append, List.mem_append]

theorem mem_names_of_snapshotIn {snapshots : Snapshots} {repo : String} {s : Snapshot}
    (h : snapshotIn snapshots repo = some s) : repo ∈ snapshots.map (·.1) := by
  rw [snapshotIn, Option.join_eq_some_iff] at h
  exact List.mem_map.2 ⟨_, OrderedMap.mem_of_lookup h, rfl⟩

/-- A domain has a bucket if it is compared in some repository that both sides have. -/
theorem mem_keys_of_between (h : between before after fromRef toRef only = .ok e)
    (domain : String) : domain ∈ e.aggregated.keys ↔ ∃ repo a b,
      snapshotIn before repo = some a ∧ snapshotIn after repo = some b ∧
        IsCompared only a b domain := by
  have hrows := (rows_of_between h).2
  rw [mem_keys_aggregated]
  constructor
  · rintro ⟨r, hr, hdomain⟩
    exact ⟨r.repo, ((hrows r hr).mem_iff domain).1 hdomain⟩
  · rintro ⟨repo, a, b, ha, hb, hcompared⟩
    obtain ⟨r, hr, rfl⟩ := List.mem_map.1
      ((mem_repos_of_between h repo).2 (Or.inl (mem_names_of_snapshotIn ha)))
    exact ⟨r, hr, ((hrows r hr).mem_iff domain).2 ⟨a, b, ha, hb, hcompared⟩⟩

/-- An ecosystem can be compared if every repository can. -/
theorem exists_between_iff : (∃ e, between before after fromRef toRef only = .ok e) ↔
    ∀ repo, CanCompare only (snapshotIn before repo) (snapshotIn after repo) := by
  have hdone : ∀ rows : List RepoDiff,
      ∃ e, (pure ⟨fromRef, toRef, rows⟩ : Result EcosystemDiff) = .ok e := fun _ => ⟨_, rfl⟩
  simp only [between, exists_bind_iff, hdone, and_true, exists_mapM_iff, exists_repoDiff_iff]
  constructor
  · intro h repo a b ha hb
    refine h repo (mem_sortedSet.2 ?_) a b ha hb
    rw [List.map_append]
    exact List.mem_append_left _ (mem_names_of_snapshotIn ha)
  · exact fun h repo _ => h repo

/-- The comparison of one repository that both sides have. -/
theorem between_single (repo fromRef toRef only : String) (a b : Snapshot) :
    between [(repo, some a)] [(repo, some b)] fromRef toRef only = (do
      return ⟨fromRef, toRef, [⟨repo, true, true, ← snapshotDiffs only a.facts b.facts⟩]⟩) := by
  have hrepos : sortedSet ([(repo, some a)] ++ [(repo, some b)] |>.map (·.1)) = [repo] :=
    sortedSet_eq_iff.2 ⟨List.pairwise_singleton _ _, fun x => by simp⟩
  have hrow : repoDiff only [(repo, some a)] [(repo, some b)] repo = (do
      return ⟨repo, true, true, ← snapshotDiffs only a.facts b.facts⟩) := by
    simp [repoDiff, snapshotIn, OrderedMap.lookup]
  rw [between, hrepos, List.mapM_cons, hrow]
  cases snapshotDiffs only a.facts b.facts <;> rfl

end Between

/-- The comparison of an ecosystem loses no key and mixes none, if no repository has a slash in its
name. There is one unless a domain of some repository cannot be compared. -/
theorem between_aggregates {before after : Snapshots}
    (hslash : ∀ repo ∈ (before ++ after).map (·.1), '/' ∉ repo.toList)
    (fromRef toRef only : String) :
    ((∃ e, between before after fromRef toRef only = .ok e) ↔
      ∀ repo, CanCompare only (snapshotIn before repo) (snapshotIn after repo)) ∧
    ∀ e, between before after fromRef toRef only = .ok e → e.Aggregates only before after := by
  refine ⟨exists_between_iff, fun e h => ?_⟩
  have hordered := isOrdered_of_between h
  have hfree : ∀ r ∈ e.repos, '/' ∉ r.repo.toList := by
    intro r hr
    refine hslash r.repo ?_
    rw [List.map_append, List.mem_append]
    exact (mem_repos_of_between h r.repo).1 (List.mem_map_of_mem hr)
  have hadded : ∀ domain c, e.aggregated.get? domain = some c →
      Aggregate.Gathers c.added (·.added) domain e.repos := by
    intro domain c hc
    rw [(texts_of_get? hc).1]
    exact hordered.gathers hfree domain fun _ hclean => hclean.added
  have hremoved : ∀ domain c, e.aggregated.get? domain = some c →
      Aggregate.Gathers c.removed (·.removed) domain e.repos := by
    intro domain c hc
    rw [(texts_of_get? hc).2]
    exact hordered.gathers hfree domain fun _ hclean => hclean.removed
  exact ⟨mem_repos_of_between h, hordered.repos, (rows_of_between h).2, mem_keys_of_between h,
    nodup_keys_aggregated e, hadded, hremoved,
    fun domain c hc => hordered.apart (hadded domain c hc) (hremoved domain c hc)⟩

def snapshotWith (facts : List (String × Doc)) : Snapshot where
  repo := "shop"
  ref := "main"
  capturedAt := { year := 2024, month := 1, day := 1 }
  facts := facts

def clusterOf (resources : List (String × String)) : Doc :=
  .list (resources.map fun r => .object [("kind", .text r.1), ("name", .text r.2)])

/-- The keys of resources have slashes of their own. -/
theorem between_aggregates_resources :
    let before : Snapshots :=
      [("shop", some (snapshotWith [("kubernetes", clusterOf [("Deployment", "web")])]))]
    let after : Snapshots :=
      [("shop", some (snapshotWith [("kubernetes", clusterOf [("Service", "web")])])),
        ("bank", some (snapshotWith [("kubernetes", clusterOf [("Service", "web")])]))]
    (∀ repo ∈ (before ++ after).map (·.1), '/' ∉ repo.toList) ∧
    ∃ e, between before after "" "" "kubernetes" = .ok e ∧
      e.Aggregates "kubernetes" before after ∧
      e.aggregated.get? "kubernetes" = some ⟨["shop/Service/web"], ["shop/Deployment/web"]⟩ := by
  intro before after
  have hslash : ∀ repo ∈ (before ++ after).map (·.1), '/' ∉ repo.toList := by decide
  have hrepos : sortedSet ((before ++ after).map (·.1)) = ["bank", "shop"] :=
    sortedSet_eq_iff.2 ⟨by decide, fun x => by simpa [before, after] using or_comm⟩
  obtain ⟨e, he⟩ : ∃ e, between before after "" "" "kubernetes" = .ok e := by
    rw [between, hrepos]
    exact ⟨_, rfl⟩
  refine ⟨hslash, e, he, (between_aggregates hslash "" "" "kubernetes").2 e he, ?_⟩
  rw [between, hrepos] at he
  cases he
  rfl

/-- Types are looked for in a record, and no list is one. -/
theorem not_between_list :
    let sides : Snapshots := [("shop", some (snapshotWith [(typeDomain, .list [])]))]
    (∀ repo ∈ (sides ++ sides).map (·.1), '/' ∉ repo.toList) ∧
      ¬ ∃ e, between sides sides = .ok e ∧ e.Aggregates "" sides sides := by
  intro sides
  refine ⟨by decide, ?_⟩
  rintro ⟨e, he, -⟩
  obtain ⟨d, hd⟩ := exists_between_iff.1 ⟨e, he⟩ "shop" _ _ rfl rfl typeDomain
    (Or.inl List.mem_cons_self)
  cases hd

end EcosystemDiff

end RepoAtlas.Diff
