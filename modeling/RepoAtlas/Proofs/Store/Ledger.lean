import RepoAtlas.Proofs.Store.Removing

/-!
A store is a map from keys to snapshots in which the last capture wins. The map is read off the
folders: a key has the snapshot that lies in its folder and has the key. As long as no two keys in
use lead to one folder, every change of the store is the one that a map would make.
-/
namespace RepoAtlas

namespace Store

/-! ### Ledgers -/

/-- Snapshots by their keys. -/
abbrev Ledger := Key → Option Snapshot

namespace Ledger

def put (ledger : Ledger) (s : Snapshot) : Ledger :=
  fun k => if k = keyOf s then some s else ledger k

def drop (ledger : Ledger) (gone : Key → Bool) : Ledger :=
  fun k => if gone k then none else ledger k

/-- The list has the snapshots of a repository, each of them once. -/
structure Lists (ledger : Ledger) (repo : String) (ss : List Snapshot) : Prop where
  nodup : ss.Nodup
  mem : ∀ s, s ∈ ss ↔ ∃ k, k.repo = repo ∧ ledger k = some s

end Ledger

/-- A change of a store. -/
inductive Step where
  | save (s : Snapshot)
  | deleteRef (repo ref : String)
  | deleteRepo (repo : String)
  | prune (repo : String) (keep : ℕ)

inductive Answer where
  | flag (b : Bool)
  | refs (refs : List Doc)

def Step.run (store : Store) : Step → Result Answer × Store
  | .save s => (((Store.save s).run store).1.map .flag, ((Store.save s).run store).2)
  | .deleteRef repo ref =>
    (((Store.deleteRef repo ref).run store).1.map .flag, ((Store.deleteRef repo ref).run store).2)
  | .deleteRepo repo =>
    (((Store.deleteRepo repo).run store).1.map .flag, ((Store.deleteRepo repo).run store).2)
  | .prune repo keep =>
    (((Store.prune repo keep).run store).1.map .refs, ((Store.prune repo keep).run store).2)

/-- How a step changes a ledger, and what it answers. -/
inductive Posts (ledger : Ledger) : Step → Result Answer → Ledger → Prop
  | kept (s old : Snapshot) : Fits (keyOf s).folder → ledger (keyOf s) = some old →
      s.capturedAt.instant < old.capturedAt.instant →
      Posts ledger (.save s) (.ok (.flag false)) ledger
  | put (s : Snapshot) : Fits (keyOf s).folder →
      (∀ old, ledger (keyOf s) = some old →
        ¬ s.capturedAt.instant < old.capturedAt.instant) →
      Posts ledger (.save s) (.ok (.flag true)) (ledger.put s)
  | tooLong (s : Snapshot) : ¬ Fits (keyOf s).folder →
      Posts ledger (.save s) (.error (.file .nameTooLong)) ledger
  | deleted (repo ref : String) :
      Posts ledger (.deleteRef repo ref)
        (.ok (.flag ((ledger ⟨repo, .branch, ref⟩).isSome || (ledger ⟨repo, .tag, ref⟩).isSome)))
        (ledger.drop (fun k => k.repo == repo && k.ref == ref))
  | cleared (repo : String) (found : Bool) :
      ((∃ k, k.repo = repo ∧ (ledger k).isSome = true) → found = true) →
      Posts ledger (.deleteRepo repo) (.ok (.flag found)) (ledger.drop (·.repo == repo))
  | pruned (repo : String) (keep : ℕ) (kept removed : List Snapshot) :
      ledger.Lists repo (kept ++ removed) → kept.length = min keep (kept ++ removed).length →
      (∀ a ∈ kept, ∀ b ∈ removed, b.capturedAt.instant ≤ a.capturedAt.instant) →
      Posts ledger (.prune repo keep) (.ok (.refs (removed.map (fun s => .text s.ref))))
        (ledger.drop (fun k => decide (k ∈ removed.map keyOf)))

/-! ### What a store shows -/

/-- Equal but for the order of the domains. -/
def SameFacts (loaded s : Snapshot) : Prop :=
  loaded.facts.Perm s.facts ∧ { loaded with facts := s.facts } = s

/-- The entry that a list has for a snapshot. -/
def listedAs (s : Snapshot) : Entry :=
  { ref := .text s.ref, refType := .text s.refType.text, sha := s.sha, capturedAt := s.capturedAt }

/-- What is read from the store is what stands in the ledger. -/
structure Shows (known : Key → Prop) (store : Store) (ledger : Ledger) : Prop where
  keys : ∀ k s, ledger k = some s → keyOf s = k
  found : ∀ k s, known k → ledger k = some s →
    ∃ loaded, look store k = .ok (some loaded) ∧ SameFacts loaded s
  missing : ∀ k, known k → isRepoName k.repo = true → Fits k.folder → ledger k = none →
    look store k = .ok none
  long : ∀ k, known k → isRepoName k.repo = true → ¬ Fits k.folder →
    ledger k = none ∧ (look store k = .ok none ∨ look store k = .error (.file .nameTooLong))
  listed : ∀ repo, isRepoName repo = true → ∃ ss, ledger.Lists repo ss ∧
    ss.Pairwise (fun a b => b.capturedAt.instant ≤ a.capturedAt.instant) ∧
    store.entries repo = .ok (ss.map listedAs)

/-- A save that answers false leaves the store as it is. -/
def Step.Careful (store : Store) (step : Step) : Prop :=
  ∀ s, step = .save s → (step.run store).1 = .ok (.flag false) → (step.run store).2 = store

/-- The store goes along with the ledger, step by step. -/
inductive Follows (known : Key → Prop) : Store → Ledger → List Step → Prop
  | done {store : Store} {ledger : Ledger} : Shows known store ledger →
      Follows known store ledger []
  | next {store : Store} {ledger after : Ledger} {step : Step} {rest : List Step} :
      Shows known store ledger → Posts ledger step (step.run store).1 after →
      step.Careful store → Follows known (step.run store).2 after rest →
      Follows known store ledger (step :: rest)

/-! ### Steps that are allowed -/

/-- No two of the keys lead to the same folder. -/
def Separate (known : Key → Prop) : Prop :=
  ∀ j k, known j → known k → j.repo = k.repo → j.refType = k.refType →
    safeRef j.ref = safeRef k.ref → j.ref = k.ref

/-- A snapshot that may be saved. -/
structure Admissible (known : Key → Prop) (s : Snapshot) : Prop where
  known : known (keyOf s)
  repo : isRepoName s.repo = true
  names : (s.facts.map (·.1)).Nodup
  files : ∀ f ∈ s.facts, IsName (domainFile f.1) ∧ Fits (domainFile f.1)
  reserved : ∀ f ∈ s.facts, f.1 ≠ "manifest"
  payloads : ∀ f ∈ s.facts, f.2.isJson = true
  sha : s.sha.isJson = true
  time : Timestamp.parse s.capturedAt.isoText = .ok s.capturedAt

def Step.Allowed (known : Key → Prop) : Step → Prop
  | .save s => Admissible known s
  | .deleteRef repo _ => isRepoName repo = true
  | .deleteRepo repo => isRepoName repo = true
  | .prune repo _ => isRepoName repo = true

section Ledger

variable {known : Key → Prop} {s : Snapshot}

theorem Admissible.storable (h : Admissible known s) : Storable s where
  repo := h.repo
  names := h.names
  files := h.files
  payloads := fun f hf => Doc.isSpelt_of_isJson f.2 (h.payloads f hf)
  sha := Doc.isSpelt_of_isJson s.sha h.sha
  time := (Timestamp.readable_of_parse h.time).1

theorem Admissible.reread (h : Admissible known s) : s.capturedAt.reread = s.capturedAt :=
  (Timestamp.readable_of_parse h.time).2

theorem Admissible.listedAs (h : Admissible known s) : entryOf s = listedAs s := by
  rw [entryOf, Store.listedAs, h.reread]

/-- The payloads are read as they were saved, unless a domain has the manifest's file. -/
theorem facts_readBack_perm (hnames : (s.facts.map (·.1)).Nodup)
    (hreserved : ∀ f ∈ s.facts, f.1 ≠ "manifest") : (readBack s).facts.Perm s.facts := by
  have hpayload : ∀ f ∈ s.facts, (f.1, payloadBack s f.1) = f := by
    intro f hf
    have hfile : domainFile f.1 ≠ manifestName := by
      intro heq
      exact hreserved f hf (domainFile_inj (e := "manifest") heq)
    rw [payloadBack, if_neg hfile, OrderedMap.lookup_of_mem hnames hf]
    rfl
  have hsorted : s.domains.Perm (s.facts.map (·.1)) := List.mergeSort_perm _ _
  have hfacts : (s.facts.map (·.1)).map (fun domain => (domain, payloadBack s domain)) =
      s.facts := by
    rw [List.map_map]
    exact (List.map_congr_left hpayload).trans (List.map_id _)
  have hmapped := hsorted.map (fun domain => (domain, payloadBack s domain))
  rwa [hfacts] at hmapped

/-- A snapshot is read as it was saved. -/
theorem Admissible.readBack (h : Admissible known s) : SameFacts (readBack s) s := by
  refine ⟨facts_readBack_perm h.names h.reserved, ?_⟩
  rw [Store.readBack, h.reread]

end Ledger

end Store

end RepoAtlas
