import RepoAtlas.Atlas.Queries
import RepoAtlas.Proofs.Outcome
import RepoAtlas.Proofs.Record.TypedRecords
import RepoAtlas.Proofs.Store.Alike

/-!
Questions step by step, and what a store with one snapshot is asked: its answers come from the type
facts that were saved.
-/
namespace RepoAtlas

/-! ### Steps of a question -/

namespace Query

variable {α β : Type}

theorem run_bind_eq_ok_iff {x : Query α} {f : α → Query β} {b : β} :
    (x >>= f).run = .ok (.ok b) ↔ ∃ a, x.run = .ok (.ok a) ∧ (f a).run = .ok (.ok b) := by
  rw [ExceptT.run_bind, bind_eq_ok_iff]
  constructor
  · rintro ⟨answer, hx, hf⟩
    cases answer with
    | error miss => cases hf
    | ok a => exact ⟨a, hx, hf⟩
  · rintro ⟨a, hx, hf⟩
    exact ⟨_, hx, hf⟩

theorem lift_ok_bind (a : α) (f : α → Query β) :
    ((liftM (.ok a : Result α) : Query α) >>= f) = f a := rfl

theorem run_lift_eq_ok_iff {r : Result α} {a : α} :
    (liftM r : Query α).run = .ok (.ok a) ↔ r = .ok a := by
  cases r with
  | error fault => exact iff_of_false (fun h => by cases h) (fun h => by cases h)
  | ok b =>
    constructor
    · rintro h
      cases h
      rfl
    · rintro h
      cases h
      rfl

end Query

/-! ### A store with one snapshot -/

section OneSnapshot

open Store

variable {s : Snapshot} {facts : TypeFacts}

theorem shelf_single {t : FileTree}
    (h : Shelved t (Contents.set (fun _ _ => none) s.repo (folderOf s) (some s))) :
    shelf t (Contents.set (fun _ _ => none) s.repo (folderOf s) (some s)) s.repo = [s] := by
  refine List.perm_singleton.1 ((List.perm_ext_iff_of_nodup
    (List.Nodup.of_map _ (h.nodup_shelf s.repo)) (List.nodup_singleton s)).2 fun x => ?_)
  rw [h.mem_shelf, List.mem_singleton]
  constructor
  · rintro ⟨folder, hx⟩
    rw [Contents.set] at hx
    split at hx
    · exact (Option.some.inj hx).symm
    · cases hx
  · rintro rfl
    exact ⟨folderOf x, Contents.set_self _ _ _ _⟩

/-- The type facts come back as they were saved. -/
theorem typeFacts_readBack (hfacts : s.facts = [(typeDomain, facts.toDoc)]) :
    (readBack s).typeFacts = .ok facts := by
  have hdomains : s.domains = [typeDomain] := by
    rw [Snapshot.domains, hfacts]
    exact List.mergeSort_singleton _
  have hpayload : payloadBack s typeDomain = facts.toDoc := by
    rw [payloadBack, if_neg (by decide), hfacts]
    rfl
  have hback : (readBack s).payload? typeDomain = some facts.toDoc := by
    rw [Snapshot.payload?, readBack, hdomains, List.map_singleton, hpayload]
    rfl
  rw [Snapshot.typeFacts, hback]
  exact TypeFacts.ofDoc_toDoc facts

/-- A store with one snapshot is asked about the facts of that one. -/
theorem typeFacts_saved (hs : Storable s) (hfits : Fits (folderOf s))
    (hfacts : s.facts = [(typeDomain, facts.toDoc)]) :
    ((((save s).run {}).2).source.typeFacts s.repo "").run =
        .ok (.ok (Types.factsOf facts.types facts.calls)) ∧
      (((save s).run {}).2).source.latestRef s.repo = .ok s.ref := by
  obtain ⟨next, hrun, hnext⟩ := shelved_empty.save_stored hs hfits (fun _ hold => by cases hold)
  have hshelf := shelf_single hnext
  have hentries : entries ⟨next⟩ s.repo = .ok [entryOf s] := by
    rw [hnext.entries_eq hs.repo, hshelf, latestFirst, List.mergeSort_singleton]
    rfl
  have hknown : (repos ⟨next⟩).contains s.repo = true :=
    List.contains_iff_mem.2 (hnext.mem_repos.2 (Or.inl (by simp [hshelf])))
  have hlies : Lies next s := hnext.lies (Contents.set_self _ _ _ _)
  have hlatest : latest ⟨next⟩ s.repo = .ok (some (readBack s)) := by
    rw [latest, hentries]
    exact hlies.load rfl
  have hsnapshot : ((Store.source ⟨next⟩).snapshotOf s.repo "").run =
      .ok (.ok (readBack s)) := by
    rw [SnapshotSource.snapshotOf, source]
    simp only [hknown, SnapshotSource.snapshot?]
    rw [hlatest]
    rfl
  rw [hrun]
  constructor
  · rw [SnapshotSource.typeFacts, Query.run_bind_eq_ok_iff]
    refine ⟨_, hsnapshot, Query.run_bind_eq_ok_iff.2 ⟨facts, ?_, rfl⟩⟩
    exact Query.run_lift_eq_ok_iff.2 (typeFacts_readBack hfacts)
  · rw [SnapshotSource.latestRef, source]
    dsimp only
    rw [hentries]
    rfl

end OneSnapshot

end RepoAtlas
