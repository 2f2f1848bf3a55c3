import RepoAtlas.Diff.Detail
import RepoAtlas.Record.Snapshot

/-!
The differences of one domain, of two snapshots, and of many repositories between two refs.
-/
namespace RepoAtlas.Diff

/-! ### Domains and snapshots

A domain that only one side has is reported as a whole.
-/

inductive Status where
  | changed | unchanged | new | removed
  deriving DecidableEq, Repr, Inhabited

def Status.text : Status → String
  | .changed => "changed"
  | .unchanged => "unchanged"
  | .new => "new"
  | .removed => "removed"

structure DomainDiff where
  domain : String
  status : Status
  keys : SetChange String := {}
  detail : Detail := .nothing
  deriving Repr

namespace DomainDiff

def isEmpty (d : DomainDiff) : Bool := d.keys.isEmpty && d.status == .unchanged

def toDoc (d : DomainDiff) : Doc :=
  .object [("domain", .text d.domain), ("status", .text d.status.text),
    ("added", .ofTexts d.keys.added), ("removed", .ofTexts d.keys.removed),
    ("detail", d.detail.toDoc)]

/-- Compares two payloads; null stands for a domain that is not there. -/
def between (domain : String) : Doc → Doc → Result DomainDiff
  | .null, .null => .ok { domain, status := .unchanged }
  | .null, after => .ok { domain, status := .new, detail := .facts after }
  | before, .null => .ok { domain, status := .removed, detail := .facts before }
  | before, after => do
    let old ← domainKeys domain before
    let keys := SetChange.between old (← domainKeys domain after)
    let detail ← detailOf domain before after
    let status := if keys.isEmpty && !detail.hasChanges then Status.unchanged else .changed
    return { domain, status, keys, detail }

end DomainDiff

def payloadIn (facts : List (String × Doc)) (domain : String) : Doc :=
  (OrderedMap.lookup domain facts).getD .null

/-- The domains to compare: the one asked for, or all that either side has. -/
def comparedDomains (only : String) (before after : List (String × Doc)) : List String :=
  if only.isEmpty then sortedSet ((before ++ after).map (·.1)) else [only]

def snapshotDiffs (only : String) (before after : List (String × Doc)) :
    Result (List DomainDiff) :=
  (comparedDomains only before after).mapM (fun d =>
    DomainDiff.between d (payloadIn before d) (payloadIn after d))

/-! ### Repositories

The repositories one by one, and all keys of a domain together as `repository/key`.
-/

structure RepoDiff where
  repo : String
  hasBefore : Bool
  hasAfter : Bool
  domains : List DomainDiff := []
  deriving Repr

namespace RepoDiff

/-- The domains with changes. -/
def changes (r : RepoDiff) : List DomainDiff := r.domains.filter (·.status ≠ .unchanged)

def hasChanges (r : RepoDiff) : Bool := !r.changes.isEmpty

def toDoc (r : RepoDiff) : Doc :=
  .object [("repo", .text r.repo), ("from_found", .bool r.hasBefore),
    ("to_found", .bool r.hasAfter), ("has_changes", .bool r.hasChanges),
    ("domains", .list (r.changes.map DomainDiff.toDoc))]

end RepoDiff

structure EcosystemDiff where
  fromRef : String := ""
  toRef : String := ""
  repos : List RepoDiff := []
  deriving Repr

/-- The keys of all repositories by domain. -/
abbrev Aggregate := OrderedMap String (SetChange String)

/-- Both lists of a change behind those of an earlier one. -/
def SetChange.append (a b : SetChange String) : SetChange String :=
  ⟨a.added ++ b.added, a.removed ++ b.removed⟩

def qualified (repo : String) (c : SetChange String) : SetChange String :=
  ⟨c.added.map (repo ++ "/" ++ ·), c.removed.map (repo ++ "/" ++ ·)⟩

def Aggregate.add (repo : String) (found : Aggregate) (d : DomainDiff) : Aggregate :=
  found.update d.domain (fun c => (c.getD {}).append (qualified repo d.keys))

namespace EcosystemDiff

def aggregated (e : EcosystemDiff) : Aggregate :=
  e.repos.foldl (fun found r => r.domains.foldl (Aggregate.add r.repo) found) {}

def changedRepos (e : EcosystemDiff) : List String :=
  (e.repos.filter (·.hasChanges)).map (·.repo)

def toDoc (e : EcosystemDiff) : Doc :=
  .object [("from_ref", .text e.fromRef), ("to_ref", .text e.toRef),
    ("summary", .object [("repos_compared", .int e.repos.length),
      ("repos_with_changes", .int e.changedRepos.length)]),
    ("repos", .list (e.repos.map RepoDiff.toDoc)),
    ("aggregated", .object (e.aggregated.entries.map (fun (d, c) => (d, c.toDoc .text))))]

/-- Snapshots by repository, where null stands for none. -/
abbrev Snapshots := List (String × Option Snapshot)

def snapshotIn (snapshots : Snapshots) (repo : String) : Option Snapshot :=
  (OrderedMap.lookup repo snapshots).join

/-- The difference of one repository; without a snapshot on each side nothing is compared. -/
def repoDiff (only : String) (before after : Snapshots) (repo : String) : Result RepoDiff := do
  match snapshotIn before repo, snapshotIn after repo with
  | some a, some b =>
    return ⟨repo, true, true, ← snapshotDiffs only a.facts b.facts⟩
  | a, b => return ⟨repo, a.isSome, b.isSome, []⟩

def between (before after : Snapshots) (fromRef : String := "") (toRef : String := "")
    (only : String := "") : Result EcosystemDiff := do
  let repos := sortedSet ((before ++ after).map (·.1))
  return ⟨fromRef, toRef, ← repos.mapM (repoDiff only before after)⟩

end EcosystemDiff

end RepoAtlas.Diff
