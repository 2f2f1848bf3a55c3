import RepoAtlas.Proofs.Record.TypedRecords
import RepoAtlas.Proofs.Time.IsoText
import RepoAtlas.Record.Snapshot

/-!
The full form of a snapshot's document. Payloads that come as a list of pairs are gathered under
their keys once, and the text of the time reads back. So snapshots, as all other records, survive
being written to a document.
-/
namespace RepoAtlas

/-- A value that can stand for a name. -/
def Doc.IsKey (d : Doc) : Prop := (∀ items, d ≠ .list items) ∧ ∀ ms, d ≠ .object ms

namespace Snapshot

/-- Entries whose keys are told apart. -/
structure Keyed (entries : List (Doc × Doc)) : Prop where
  keys : ∀ key ∈ entries.map (·.1), key.IsKey
  apart : (entries.map (·.1)).Pairwise (fun a b => a.same b = false)

variable {entries : List (Doc × Doc)} {key value : Doc}

/-! ### Pairs -/

theorem isKey_of_pairOf {index : Nat} {item : Doc} {p : Doc × Doc}
    (h : pairOf index item = .ok p) : p.1.IsKey := by
  rw [pairOf, bind_eq_ok_iff] at h
  obtain ⟨items, -, hpair⟩ := h
  split at hpair
  next => cases hpair
  next => cases hpair
  next hlist hobject =>
    obtain rfl := pure_eq_ok_iff.1 hpair
    exact ⟨hlist, hobject⟩
  next => cases hpair

theorem pairOf_list {index : Nat} (hkey : key.IsKey) :
    pairOf index (.list [key, value]) = .ok (key, value) := by
  cases key with
  | list items => exact absurd rfl (hkey.1 items)
  | object ms => exact absurd rfl (hkey.2 ms)
  | _ => rfl

/-- A list of pairs is read pair by pair. -/
theorem mapM_pairOf (hkeys : ∀ key ∈ entries.map (·.1), key.IsKey) (start : Nat) :
    ((entries.map (fun e => Doc.list [e.1, e.2])).zipIdx start).mapM
      (fun (item, index) => pairOf index item) = .ok entries := by
  induction entries generalizing start with
  | nil => rfl
  | cons e rest ih =>
    obtain ⟨hkey, hrest⟩ := List.forall_mem_cons.1 hkeys
    rw [List.map_cons, List.zipIdx_cons]
    exact mapM_cons_eq_ok_iff.2 ⟨e, pairOf_list hkey, rest, ih hrest _, rfl⟩

/-! ### Entries under their keys -/

/-- A key that is there already keeps its place. -/
theorem keys_writeUnder_known (h : ∃ k ∈ entries.map (·.1), k.same key = true) :
    (writeUnder key value entries).map (·.1) = entries.map (·.1) := by
  induction entries with
  | nil => simp at h
  | cons e rest ih =>
    rw [writeUnder]
    split
    next => rfl
    next hne =>
      obtain ⟨k, hk, hsame⟩ := h
      rcases List.mem_cons.1 hk with rfl | hk
      · exact absurd hsame hne
      · rw [List.map_cons, List.map_cons, ih ⟨k, hk, hsame⟩]

theorem writeUnder_new (h : ∀ k ∈ entries.map (·.1), k.same key = false) :
    writeUnder key value entries = entries ++ [(key, value)] := by
  induction entries with
  | nil => rfl
  | cons e rest ih =>
    obtain ⟨hfirst, hrest⟩ := List.forall_mem_cons.1 h
    rw [writeUnder, if_neg (by simp [hfirst]), ih hrest, List.cons_append]

theorem Keyed.writeUnder (h : Keyed entries) (hkey : key.IsKey) :
    Keyed (writeUnder key value entries) := by
  by_cases hknown : ∃ k ∈ entries.map (·.1), k.same key = true
  · have hkeys := @keys_writeUnder_known entries key value hknown
    exact ⟨hkeys ▸ h.keys, hkeys ▸ h.apart⟩
  · have hnew : ∀ k ∈ entries.map (·.1), k.same key = false := by simpa using hknown
    rw [writeUnder_new hnew]
    constructor
    · intro k hk
      rw [List.map_append, List.mem_append] at hk
      rcases hk with hk | hk
      · exact h.keys k hk
      · rw [List.map_singleton, List.mem_singleton] at hk
        exact hk ▸ hkey
    · rw [List.map_append, List.pairwise_append]
      exact ⟨h.apart, List.pairwise_singleton _ _,
        fun k hk j hj => List.mem_singleton.1 hj ▸ hnew k hk⟩

theorem keyed_foldl {pairs : List (Doc × Doc)} (hpairs : ∀ p ∈ pairs, p.1.IsKey)
    (h : Keyed entries) :
    Keyed (pairs.foldl (fun found p => Snapshot.writeUnder p.1 p.2 found) entries) := by
  induction pairs generalizing entries with
  | nil => exact h
  | cons p rest ih =>
    obtain ⟨hp, hrest⟩ := List.forall_mem_cons.1 hpairs
    exact ih hrest (h.writeUnder hp)

/-- Entries with keys that are told apart stay as they stand. -/
theorem foldl_writeUnder (rest : List (Doc × Doc))
    (h : ((entries ++ rest).map (·.1)).Pairwise (fun a b => a.same b = false)) :
    rest.foldl (fun found p => Snapshot.writeUnder p.1 p.2 found) entries = entries ++ rest := by
  induction rest generalizing entries with
  | nil => simp
  | cons p rest ih =>
    have hnew : ∀ k ∈ entries.map (·.1), k.same p.1 = false := by
      rw [List.map_append, List.pairwise_append] at h
      exact fun k hk => h.2.2 k hk p.1 (by simp)
    rw [List.foldl_cons, writeUnder_new hnew, ih (by simpa using h)]
    simp

theorem toMapping_ofEntries (h : Keyed entries) :
    toMapping (ofEntries entries) = .ok (ofEntries entries) := by
  rw [ofEntries]
  split
  next => rfl
  next hnone =>
    have hfold := @foldl_writeUnder [] entries h.apart
    rw [List.nil_append] at hfold
    have hpairs := mapM_pairOf h.keys 0
    simp only [toMapping, Doc.toItems, bind, Except.bind, hpairs, hfold]
    rw [ofEntries, hnone]
    rfl

/-- A mapping that has been read is read as it stands. -/
theorem toMapping_full {d facts : Doc} (h : toMapping d = .ok facts) :
    toMapping facts = .ok facts := by
  by_cases hobject : ∃ ms, d = .object ms
  · obtain ⟨ms, rfl⟩ := hobject
    obtain rfl := Except.ok.inj h
    rfl
  · rw [toMapping] at h
    · obtain ⟨items, -, h⟩ := bind_eq_ok_iff.1 h
      obtain ⟨pairs, hpairs, hfacts⟩ := bind_eq_ok_iff.1 h
      obtain rfl := pure_eq_ok_iff.1 hfacts
      refine toMapping_ofEntries (keyed_foldl (fun p hp => ?_) ⟨by simp, by simp⟩)
      obtain ⟨⟨item, index⟩, -, hpair⟩ := mem_of_mapM_eq_ok hpairs hp
      exact isKey_of_pairOf hpair
    · exact fun ms hd => hobject ⟨ms, hd⟩

/-! ### Snapshots -/

/-- The full form of a snapshot. -/
def fullDoc (repo ref refType sha : Doc) (time : Timestamp) (facts : Doc) : Doc :=
  .object [("repo", repo), ("ref", ref), ("ref_type", refType), ("sha", sha),
    ("captured_at", .text time.isoText), ("facts_by_domain", facts)]

theorem conform_eq_ok {d full : Doc} (h : conform d = .ok full) :
    ∃ repo ref refType sha time facts, full = fullDoc repo ref refType sha time facts ∧
      time.IsRead ∧ toMapping facts = .ok facts ∧
        Choice.check ⟨"ref_type", "ref type", refTypeTexts⟩ full = .ok () := by
  cases d with
  | object ms =>
    rw [conform] at h
    obtain ⟨repo, -, h⟩ := bind_eq_ok_iff.1 h
    obtain ⟨ref, -, h⟩ := bind_eq_ok_iff.1 h
    obtain ⟨captured, -, h⟩ := bind_eq_ok_iff.1 h
    obtain ⟨text, -, h⟩ := bind_eq_ok_iff.1 h
    obtain ⟨time, htime, h⟩ := bind_eq_ok_iff.1 h
    obtain ⟨facts, hfacts, h⟩ := bind_eq_ok_iff.1 h
    obtain ⟨_, hcheck, h⟩ := bind_eq_ok_iff.1 h
    obtain rfl := pure_eq_ok_iff.1 h
    exact ⟨repo, ref, _, _, time, facts, rfl, ⟨text, htime⟩, toMapping_full hfacts, hcheck⟩
  | _ => cases h

/-- A snapshot's document in full form is read as it stands. -/
theorem conform_fullDoc {repo ref refType sha facts : Doc} {time : Timestamp}
    (htime : time.IsRead) (hfacts : toMapping facts = .ok facts)
    (hcheck : Choice.check ⟨"ref_type", "ref type", refTypeTexts⟩
      (fullDoc repo ref refType sha time facts) = .ok ()) :
    conform (fullDoc repo ref refType sha time facts) =
      .ok (fullDoc repo ref refType sha time facts) := by
  rw [fullDoc] at hcheck ⊢
  simp [conform, required, OrderedMap.lookup, Doc.toText, htime.parse_isoText, hfacts, hcheck, bind,
    Except.bind, pure, Except.pure]

/-- The full form of a snapshot's document is its own full form. -/
theorem conform_full {d full : Doc} (h : conform d = .ok full) : conform full = .ok full := by
  obtain ⟨repo, ref, refType, sha, time, facts, rfl, htime, hfacts, hcheck⟩ := conform_eq_ok h
  exact conform_fullDoc htime hfacts hcheck

/-- What a snapshot in full form reads as is written to it. -/
theorem toDoc_of_ofFull {repo ref refType sha facts : Doc} {time : Timestamp} {s : Snapshot}
    (htime : time.IsRead) (h : ofFull (fullDoc repo ref refType sha time facts) = .ok s) :
    s.toDoc = fullDoc repo ref refType sha time facts ∧ s.capturedAt = time := by
  generalize hd : fullDoc repo ref refType sha time facts = d at h
  rw [ofFull.eq_def] at h
  split at h
  next =>
    simp only [fullDoc, Doc.object.injEq, List.cons.injEq, Prod.mk.injEq, and_true] at hd
    obtain ⟨⟨rfl, rfl⟩, ⟨rfl, rfl⟩, ⟨rfl, rfl⟩, ⟨rfl, rfl⟩, ⟨rfl, htext⟩, rfl, rfl⟩ := hd
    obtain rfl := Doc.text.inj htext
    dsimp only at h
    split at h
    next r hr =>
      obtain ⟨_, hrefType, h⟩ := bind_eq_ok_iff.1 h
      obtain ⟨other, hother, h⟩ := bind_eq_ok_iff.1 h
      obtain rfl := Except.ok.inj hrefType
      obtain rfl := Except.ok.inj (htime.parse_isoText.symm.trans hother)
      obtain rfl := pure_eq_ok_iff.1 h
      exact ⟨by rw [toDoc, text_of_find? hr], rfl⟩
    next => cases h
  next => cases h

/-- A snapshot whose time has been read is read from its document. -/
theorem ofDoc_toDoc {s : Snapshot} (htime : s.capturedAt.IsRead) : ofDoc s.toDoc = .ok s := by
  have hcheck : Choice.check ⟨"ref_type", "ref type", refTypeTexts⟩ s.toDoc = .ok () := by
    rw [toDoc]
    cases s.refType <;> rfl
  have hfull : conform s.toDoc = .ok s.toDoc := conform_fullDoc htime rfl hcheck
  rw [ofDoc, hfull]
  simp [toDoc, ofFull, RefType.ofText?_text, htime.parse_isoText, bind, Except.bind, pure,
    Except.pure]

theorem survives {d : Doc} {s : Snapshot} (h : ofDoc d = .ok s) :
    conform d = .ok s.toDoc ∧ ofDoc s.toDoc = .ok s := by
  rw [ofDoc, bind_eq_ok_iff] at h
  obtain ⟨full, hfull, hs⟩ := h
  obtain ⟨repo, ref, refType, sha, time, facts, rfl, htime, -, -⟩ := conform_eq_ok hfull
  obtain ⟨hdoc, rfl⟩ := toDoc_of_ofFull htime hs
  exact ⟨hdoc ▸ hfull, ofDoc_toDoc htime⟩

end Snapshot

/-! ### All records -/

/-- Whatever document a record is read from, the record's own document is the full form of that one
and reads as the same record. -/
def Survives {α : Type} (kind : RecordKind) (toDoc : α → Doc) (ofFull : Doc → Result α) : Prop :=
  ∀ d r, (conform kind d >>= ofFull) = .ok r →
    conform kind d = .ok (toDoc r) ∧ (conform kind (toDoc r) >>= ofFull) = .ok r

theorem Faithful.survives {α : Type} {kind : RecordKind} {toDoc : α → Doc} {ofFull : Doc → Result α}
    (h : Faithful kind toDoc ofFull) : Survives kind toDoc ofFull := by
  intro d r hr
  obtain ⟨full, hfull, hread⟩ := bind_eq_ok_iff.1 hr
  obtain rfl := h.writes full r (conform_full hfull) hread
  exact ⟨hfull, bind_eq_ok_iff.2 ⟨_, h.full r, h.reads r⟩⟩

/-- Every record survives its document: in full form, whatever values its members have, and as a
typed record. -/
theorem records_survive :
    (∀ kind d full, conform kind d = .ok full → conform kind full = .ok full) ∧
    (∀ d full, Snapshot.conform d = .ok full → Snapshot.conform full = .ok full) ∧
    Survives .typeRef TypeRef.toDoc TypeRef.ofFull ∧
    Survives .field Field.toDoc Field.ofFull ∧
    Survives .variant Variant.toDoc Variant.ofFull ∧
    Survives .typeDefinition TypeDefinition.toDoc TypeDefinition.ofFull ∧
    Survives .relationship Relationship.toDoc Relationship.ofFull ∧
    Survives .module TypeModule.toDoc TypeModule.ofFull ∧
    Survives .call CallEdge.toDoc CallEdge.ofFull ∧
    Survives .service Service.toDoc Service.ofFull ∧
    Survives .outboundCall OutboundCall.toDoc OutboundCall.ofFull ∧
    Survives .typeFacts TypeFacts.toDoc TypeFacts.ofFull ∧
    Survives .topologyFacts TopologyFacts.toDoc TopologyFacts.ofFull ∧
    ∀ d s, Snapshot.ofDoc d = .ok s →
      Snapshot.conform d = .ok s.toDoc ∧ Snapshot.ofDoc s.toDoc = .ok s :=
  ⟨fun _ _ _ => conform_full, fun _ _ => Snapshot.conform_full, TypeRef.faithful.survives,
    Field.faithful.survives, Variant.faithful.survives, TypeDefinition.faithful.survives,
    Relationship.faithful.survives, TypeModule.faithful.survives, CallEdge.faithful.survives,
    Service.faithful.survives, OutboundCall.faithful.survives, TypeFacts.faithful.survives,
    TopologyFacts.faithful.survives, fun _ _ => Snapshot.survives⟩

/-- A list of texts, in short. -/
def shortRef : Doc :=
  .object [("name", .text "List"), ("generics", .list [.object [("name", .text "str")]])]

def listOfTexts : TypeRef :=
  { name := "List", raw := "List", generics := [{ name := "str", raw := "str" }] }

/-- A snapshot with payloads under a number, given twice. -/
def pairedSnapshot : Doc :=
  .object [("repo", .text "shop"), ("ref", .text "main"), ("captured_at", .text "2024-01-01"),
    ("facts_by_domain", .list [.list [.int 1, .text "old"], .list [.bool true, .text "new"]])]

/-- The reference gets its raw texts and keeps them; the snapshot keeps the last payload under the
first spelling of the number. -/
theorem records_survive_short :
    (conform .typeRef listOfTexts.toDoc >>= TypeRef.ofFull) = .ok listOfTexts ∧
    ∃ full, Snapshot.conform pairedSnapshot = .ok full ∧
      full.get? "facts_by_domain" = some (.list [.list [.int 1, .text "new"]]) ∧
      Snapshot.conform full = .ok full := by
  obtain ⟨-, hsnapshot, href, -⟩ := records_survive
  have hshort : (conform .typeRef shortRef >>= TypeRef.ofFull) = .ok listOfTexts := by
    simp [shortRef, listOfTexts, conform_object, RecordKind.members, RecordKind.empty, RecordKind.choice?,
      Member.taken, Member.given, Member.substitute, OrderedMap.lookup, conformValue_many_list,
      TypeRef.ofFull, TypeRef.ofFulls, List.mapM_cons, bind, Except.bind, pure, Except.pure]
  exact ⟨(href shortRef _ hshort).2, _, rfl, rfl, hsnapshot pairedSnapshot _ rfl⟩

end RepoAtlas
