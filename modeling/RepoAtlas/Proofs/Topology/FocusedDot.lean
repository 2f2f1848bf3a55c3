import RepoAtlas.Proofs.Diagram.DotText
import RepoAtlas.Proofs.Topology.LayerDiagram

/-!
The DOT document of an ecosystem, focused on a repository. The focus is looked for in the labels, in
which the score follows the name. So the document shows the repositories whose label contains it,
with their neighbours, and not only those whose name does.
-/
namespace RepoAtlas.Topology

open RepoAtlas.Diagram RepoAtlas.Text
open RepoAtlas.Numeral (IsLong)

/-- A text occurs in another. -/
def OccursIn (part s : String) : Prop := part.toList <:+: s.toList

instance (part s : String) : Decidable (OccursIn part s) :=
  decidable_of_iff _ occursIn_iff

/-- What follows the name and the sign for a new line in a label. -/
def scoreText (g : Ecosystem) (repo : String) : String := "nscore " ++ toString (g.score repo)

/-- The name, and the score on the next line. -/
def dotLabel (g : Ecosystem) (repo : String) : String := repo ++ "\\" ++ scoreText g repo

def dotNodes (g : Ecosystem) : OrderedMap String String :=
  ⟨g.repos.map (fun r => (r, dotLabel g r))⟩

def dotEdge (e : Dependency) : Dot.Edge := ⟨e.source, e.target, e.kind.text⟩

/-- What a document shows that has the given repositories and dependencies. -/
def dotSelection (repos : List String) (edges : List Dependency) : Dot.Selection :=
  ⟨repos, edges.map dotEdge⟩

/-- The chosen repositories with their neighbours, and the dependencies of the chosen ones. -/
structure ShowsAround (g : Ecosystem) (chosen : String → Prop) [DecidablePred chosen]
    (repos : List String) (edges : List Dependency) : Prop where
  shown : ∀ s, s ∈ repos ↔ s ∈ g.repos ∧ (chosen s ∨
    ∃ e ∈ g.edges, e.source = s ∧ chosen e.target ∨ e.target = s ∧ chosen e.source)
  sorted : repos.Pairwise (· < ·)
  drawn : edges = g.edges.filter (fun e => chosen e.source ∨ chosen e.target)

/-- A repository that has dependencies, all of which join it to chosen ones. -/
structure JoinsOnly (g : Ecosystem) (chosen : String → Prop) (repo : String) : Prop where
  some : ∃ e ∈ g.edges, e.source = repo ∨ e.target = repo
  each : ∀ e ∈ g.edges, (e.source = repo → chosen e.target) ∧ (e.target = repo → chosen e.source)

/-! ### Labels -/

theorem eq_nil_of_prefix_cons {α : Type} {c : α} {l t : List α} (h : c ∉ l) (hl : l <+: c :: t) :
    l = [] := by
  rcases List.prefix_cons_iff.1 hl with hnil | ⟨rest, rfl, -⟩
  · exact hnil
  · exact absurd List.mem_cons_self h

/-- A text without a certain character occurs on one side of it or on the other. -/
theorem infix_append_cons_iff {α : Type} {c : α} {part s t : List α} (h : c ∉ part) :
    part <:+: s ++ c :: t ↔ part <:+: s ∨ part <:+: t := by
  rw [List.infix_append_iff, List.infix_cons_iff]
  constructor
  · rintro (hs | (hp | ht) | ⟨l, r, rfl, hl, hr⟩)
    · exact Or.inl hs
    · rw [eq_nil_of_prefix_cons h hp]
      exact Or.inl List.nil_infix
    · exact Or.inr ht
    · rw [eq_nil_of_prefix_cons (fun hc => h (List.mem_append_right l hc)) hr, List.append_nil]
      exact Or.inl hl.isInfix
  · rintro (hs | ht)
    · exact Or.inl hs
    · exact Or.inr (Or.inl (Or.inr ht))

theorem backslash_notMem_toString (i : Int) : '\\' ∉ (toString i).toList := by
  have hdigits : ∀ n : Nat, '\\' ∉ (toString n).toList := by
    intro n hmem
    rw [Numeral.toList_toString] at hmem
    exact absurd (Numeral.allDigits_toDigits n _ hmem) (by decide)
  cases i with
  | ofNat n => exact hdigits n
  | negSucc n =>
    have htext : (toString (Int.negSucc n)).toList = '-' :: (toString (n + 1)).toList :=
      String.toList_append
    rw [htext, List.mem_cons, not_or]
    exact ⟨by decide, hdigits _⟩

section Label

variable (g : Ecosystem) (repo : String)

theorem toList_dotLabel :
    (dotLabel g repo).toList = repo.toList ++ '\\' :: (scoreText g repo).toList := by
  simp [dotLabel]

theorem occursIn_dotLabel {part : String} (h : OccursIn part repo) :
    OccursIn part (dotLabel g repo) := by
  rw [OccursIn, toList_dotLabel]
  exact h.trans (List.prefix_append _ _).isInfix

/-- A text without a backslash that occurs in a label does so in the name or in the score. -/
theorem occursIn_dotLabel_iff {part : String} (h : '\\' ∉ part.toList) :
    OccursIn part (dotLabel g repo) ↔ OccursIn part repo ∨ OccursIn part (scoreText g repo) := by
  rw [OccursIn, toList_dotLabel, infix_append_cons_iff h]
  rfl

/-- A label ends in the score. -/
theorem not_endsInBackslash_dotLabel : ¬ Dot.EndsInBackslash (dotLabel g repo) := by
  have hscore : (scoreText g repo).toList = "nscore ".toList ++ (toString (g.score repo)).toList :=
    String.toList_append
  have hne : (scoreText g repo).toList ≠ [] := by
    rw [hscore]
    exact List.append_ne_nil_of_left_ne_nil (by decide) _
  intro h
  rw [Dot.EndsInBackslash, toList_dotLabel, List.append_cons,
    List.getLast?_append_of_ne_nil _ hne] at h
  have hmem := List.mem_of_getLast? h
  rw [hscore, List.mem_append] at hmem
  rcases hmem with hword | hnumber
  · exact absurd hword (by decide)
  · exact backslash_notMem_toString _ hnumber

end Label

/-! ### Choices -/

/-- If the chosen repositories that are not named join only named ones, their dependencies are
dependencies of named ones. -/
theorem touches_named {g : Ecosystem} {chosen named : String → Prop}
    (hends : ∀ e ∈ g.edges, e.source ∈ g.repos ∧ e.target ∈ g.repos)
    (hjoins : ∀ s ∈ g.repos, chosen s → named s ∨ JoinsOnly g named s) {e : Dependency}
    (he : e ∈ g.edges) (htouch : chosen e.source ∨ chosen e.target) :
    named e.source ∨ named e.target := by
  rcases htouch with hsource | htarget
  · rcases hjoins _ (hends e he).1 hsource with hname | hjoin
    · exact Or.inl hname
    · exact Or.inr ((hjoin.each e he).1 rfl)
  · rcases hjoins _ (hends e he).2 htarget with hname | hjoin
    · exact Or.inr hname
    · exact Or.inl ((hjoin.each e he).2 rfl)

section Choice

variable {g : Ecosystem} {chosen named : String → Prop} [DecidablePred chosen]
variable [DecidablePred named] {repos : List String} {edges : List Dependency}

/-- The ends of what is drawn are shown. -/
theorem ShowsAround.ends (h : ShowsAround g chosen repos edges)
    (hends : ∀ e ∈ g.edges, e.source ∈ g.repos ∧ e.target ∈ g.repos) :
    ∀ e ∈ edges, e.source ∈ repos ∧ e.target ∈ repos := by
  intro e he
  rw [h.drawn, List.mem_filter, decide_eq_true_iff] at he
  obtain ⟨he, htouch⟩ := he
  constructor
  · exact (h.shown _).2 ⟨(hends e he).1,
      htouch.imp_right fun htarget => ⟨e, he, Or.inl ⟨rfl, htarget⟩⟩⟩
  · exact (h.shown _).2 ⟨(hends e he).2,
      htouch.symm.imp_right fun hsource => ⟨e, he, Or.inr ⟨rfl, hsource⟩⟩⟩

/-- Where the choice of more shows the same, a repository that is chosen and not named joins only
named ones. -/
theorem ShowsAround.joinsOnly (h : ShowsAround g chosen repos edges)
    (hnamed : ShowsAround g named repos edges) {s : String} (hs : s ∈ g.repos) (hchosen : chosen s)
    (hnot : ¬ named s) : JoinsOnly g named s := by
  constructor
  · have hshown := (hnamed.shown s).1 ((h.shown s).2 ⟨hs, Or.inl hchosen⟩)
    obtain ⟨-, hname | ⟨e, he, ⟨hsource, -⟩ | ⟨htarget, -⟩⟩⟩ := hshown
    · exact absurd hname hnot
    · exact ⟨e, he, Or.inl hsource⟩
    · exact ⟨e, he, Or.inr htarget⟩
  · intro e he
    have hdrawn : chosen e.source ∨ chosen e.target → named e.source ∨ named e.target := by
      intro htouch
      have hmem : e ∈ edges := by
        rw [h.drawn]
        exact List.mem_filter.2 ⟨he, decide_eq_true htouch⟩
      rw [hnamed.drawn] at hmem
      exact of_decide_eq_true (List.mem_filter.1 hmem).2
    constructor
    · rintro rfl
      exact (hdrawn (Or.inl hchosen)).resolve_left hnot
    · rintro rfl
      exact (hdrawn (Or.inr hchosen)).resolve_right hnot

theorem ShowsAround.of_joinsOnly (h : ShowsAround g chosen repos edges)
    (hends : ∀ e ∈ g.edges, e.source ∈ g.repos ∧ e.target ∈ g.repos)
    (hmore : ∀ s, named s → chosen s)
    (hjoins : ∀ s ∈ g.repos, chosen s → named s ∨ JoinsOnly g named s) :
    ShowsAround g named repos edges := by
  refine ⟨fun s => (h.shown s).trans (and_congr_right fun hs => ?_), h.sorted, ?_⟩
  · constructor
    · rintro (hchosen | ⟨e, he, ⟨rfl, htarget⟩ | ⟨rfl, hsource⟩⟩)
      · rcases hjoins s hs hchosen with hname | hjoin
        · exact Or.inl hname
        · obtain ⟨e, he, hend⟩ := hjoin.some
          refine Or.inr ⟨e, he, hend.imp (fun hsource => ?_) (fun htarget => ?_)⟩
          · exact ⟨hsource, (hjoin.each e he).1 hsource⟩
          · exact ⟨htarget, (hjoin.each e he).2 htarget⟩
      · exact (touches_named hends hjoins he (Or.inr htarget)).imp id
          fun hname => ⟨e, he, Or.inl ⟨rfl, hname⟩⟩
      · exact (touches_named hends hjoins he (Or.inl hsource)).symm.imp id
          fun hname => ⟨e, he, Or.inr ⟨rfl, hname⟩⟩
    · rintro (hname | ⟨e, he, ⟨rfl, htarget⟩ | ⟨rfl, hsource⟩⟩)
      · exact Or.inl (hmore s hname)
      · exact Or.inr ⟨e, he, Or.inl ⟨rfl, hmore _ htarget⟩⟩
      · exact Or.inr ⟨e, he, Or.inr ⟨rfl, hmore _ hsource⟩⟩
  · rw [h.drawn]
    refine List.filter_congr fun e he => decide_eq_decide.2 ⟨?_, ?_⟩
    · exact touches_named hends hjoins he
    · exact fun htouch => htouch.imp (hmore _) (hmore _)

/-- If more are chosen than are named, the same is shown exactly if the others join only named
ones. -/
theorem ShowsAround.iff_joinsOnly (h : ShowsAround g chosen repos edges)
    (hends : ∀ e ∈ g.edges, e.source ∈ g.repos ∧ e.target ∈ g.repos)
    (hmore : ∀ s, named s → chosen s) :
    ShowsAround g named repos edges ↔
      ∀ s ∈ g.repos, chosen s → named s ∨ JoinsOnly g named s := by
  constructor
  · exact fun hnamed s hs hchosen => or_iff_not_imp_left.2 (h.joinsOnly hnamed hs hchosen)
  · exact h.of_joinsOnly hends hmore

end Choice

/-! ### Documents -/

section Document

variable {g : Ecosystem}

theorem keys_dotNodes (g : Ecosystem) : (dotNodes g).keys = g.repos := by
  rw [dotNodes, OrderedMap.keys, List.map_map]
  exact List.map_id _

theorem get?_dotNodes (honce : g.repos.Nodup) {repo : String} (h : repo ∈ g.repos) :
    (dotNodes g).get? repo = some (dotLabel g repo) :=
  (OrderedMap.mem_entries_iff ((keys_dotNodes g).symm ▸ honce)).1
    (List.mem_map.2 ⟨repo, h, rfl⟩)

/-- A document is drawn if every score can be written. -/
theorem dotDocument_cases (honce : g.repos.Nodup) (focus : String) :
    ((∃ s ∈ g.repos, IsLong (g.score s)) ∧ dotDocument g focus = .error .longNumber) ∨
    (∀ s ∈ g.repos, ¬ IsLong (g.score s)) ∧
      dotDocument g focus = .ok (Dot.render (dotNodes g) (g.edges.map dotEdge) focus) := by
  have hentry : ∀ s ∈ g.repos,
      IsLong (g.score s) ∧ (do return (s, s ++ "\\nscore " ++ (← Numeral.intText (g.score s)))) =
        (.error .longNumber : Result (String × String)) ∨
      ¬ IsLong (g.score s) ∧ (do return (s, s ++ "\\nscore " ++ (← Numeral.intText (g.score s)))) =
        (.ok (s, dotLabel g s) : Result (String × String)) := by
    intro s _
    by_cases h : IsLong (g.score s)
    · refine Or.inl ⟨h, ?_⟩
      rw [Numeral.intText_of_isLong h]
      rfl
    · have hlabel : dotLabel g s = s ++ "\\nscore " ++ toString (g.score s) := by
        simp only [dotLabel, scoreText, String.append_assoc]
        rfl
      refine Or.inr ⟨h, ?_⟩
      rw [Numeral.intText_of_not_isLong h, hlabel]
      rfl
  rw [dotDocument]
  rcases mapM_cases hentry with ⟨hlong, hnodes⟩ | ⟨hshort, hnodes⟩
  · rw [hnodes]
    exact Or.inl ⟨hlong, rfl⟩
  · have hkeys : (dotNodes g).keys.Nodup := (keys_dotNodes g).symm ▸ honce
    have hmap : OrderedMap.ofList (g.repos.map (fun r => (r, dotLabel g r))) = dotNodes g :=
      congrArg OrderedMap.mk (OrderedMap.entries_ofList hkeys)
    rw [hnodes, ← hmap]
    exact Or.inr ⟨hshort, rfl⟩

theorem contains_iff {part s : String} : Dot.contains part s = true ↔ OccursIn part s :=
  occursIn_iff

/-- All dependencies join repositories, so none is left out. -/
theorem known_dotEdges (h : g.IsWhole) :
    (g.edges.map dotEdge).filter
      (fun e => (dotNodes g).contains e.source && (dotNodes g).contains e.target) =
        g.edges.map dotEdge := by
  refine List.filter_eq_self.2 fun e he => ?_
  obtain ⟨d, hd, rfl⟩ := List.mem_map.1 he
  have hends := h.ends d hd
  rw [Bool.and_eq_true, OrderedMap.contains_iff, OrderedMap.contains_iff, keys_dotNodes]
  exact hends

/-- The repositories that the focus picks are those whose label contains it, since a label begins
with the name. -/
theorem matching_dotNodes (g : Ecosystem) (focus : String) :
    ((dotNodes g).entries.filter
      (fun n => Dot.contains focus n.1 || Dot.contains focus n.2)).map (·.1) =
        g.repos.filter (fun s => OccursIn focus (dotLabel g s)) := by
  have hlabel : ∀ s, (Dot.contains focus s || Dot.contains focus (dotLabel g s)) =
      decide (OccursIn focus (dotLabel g s)) := by
    intro s
    rw [Bool.eq_iff_iff, Bool.or_eq_true, contains_iff, contains_iff, decide_eq_true_iff]
    exact or_iff_right_of_imp (occursIn_dotLabel g s)
  rw [dotNodes, List.filter_map, List.map_map]
  simp only [Function.comp_def, hlabel, List.map_id']

/-- The edges with an end that the focus picks. -/
theorem touching_dotEdges (h : g.IsWhole) (focus : String) :
    (g.edges.map dotEdge).filter (fun e =>
      (g.repos.filter (fun s => OccursIn focus (dotLabel g s))).contains e.source ||
        (g.repos.filter (fun s => OccursIn focus (dotLabel g s))).contains e.target) =
      (g.edges.filter (fun e => OccursIn focus (dotLabel g e.source) ∨
        OccursIn focus (dotLabel g e.target))).map dotEdge := by
  have hpicked : ∀ s ∈ g.repos,
      (g.repos.filter (fun s => OccursIn focus (dotLabel g s))).contains s = true ↔
        OccursIn focus (dotLabel g s) := by
    intro s hs
    rw [List.contains_iff_mem, List.mem_filter, decide_eq_true_iff]
    exact and_iff_right hs
  rw [List.filter_map]
  refine congrArg _ (List.filter_congr fun e he => ?_)
  obtain ⟨hsource, htarget⟩ := h.ends e he
  rw [Bool.eq_iff_iff, decide_eq_true_iff, Function.comp_apply, Bool.or_eq_true]
  exact or_congr (hpicked _ hsource) (hpicked _ htarget)

/-- The chosen repositories and the ends of their dependencies are the chosen ones and their
neighbours. -/
theorem mem_chosen_or_ends_iff (h : g.IsWhole) (chosen : String → Prop) [DecidablePred chosen]
    (s : String) :
    s ∈ g.repos.filter (fun s => chosen s) ∨
        s ∈ (g.edges.filter (fun e => chosen e.source ∨ chosen e.target)).flatMap
          (fun e => [e.source, e.target]) ↔
      s ∈ g.repos ∧ (chosen s ∨
        ∃ e ∈ g.edges, e.source = s ∧ chosen e.target ∨ e.target = s ∧ chosen e.source) := by
  rw [List.mem_filter, decide_eq_true_iff, List.mem_flatMap]
  constructor
  · rintro (⟨hs, hchosen⟩ | ⟨e, he, hend⟩)
    · exact ⟨hs, Or.inl hchosen⟩
    · obtain ⟨he, htouch⟩ := List.mem_filter.1 he
      rw [decide_eq_true_iff] at htouch
      rcases List.mem_pair.1 hend with rfl | rfl
      · exact ⟨(h.ends e he).1, htouch.imp_right fun htarget => ⟨e, he, Or.inl ⟨rfl, htarget⟩⟩⟩
      · exact ⟨(h.ends e he).2,
          htouch.symm.imp_right fun hsource => ⟨e, he, Or.inr ⟨rfl, hsource⟩⟩⟩
  · rintro ⟨hs, hchosen | ⟨e, he, ⟨rfl, htarget⟩ | ⟨rfl, hsource⟩⟩⟩
    · exact Or.inl ⟨hs, hchosen⟩
    · exact Or.inr ⟨e, List.mem_filter.2 ⟨he, decide_eq_true (Or.inr htarget)⟩,
        List.mem_cons_self⟩
    · exact Or.inr ⟨e, List.mem_filter.2 ⟨he, decide_eq_true (Or.inl hsource)⟩,
        List.mem_pair.2 (Or.inr rfl)⟩

/-- The focus on a repository shows what is around the labels that contain its name. -/
theorem select_dotNodes (h : g.IsWhole) {focus : String} (hfocus : focus ∈ g.repos) :
    ∃ repos edges, Dot.select (dotNodes g) (g.edges.map dotEdge) focus =
        dotSelection repos edges ∧
      ShowsAround g (fun s => OccursIn focus (dotLabel g s)) repos edges := by
  rw [Dot.select, known_dotEdges h, matching_dotNodes, keys_dotNodes]
  have hmatching : (g.repos.filter (fun s => OccursIn focus (dotLabel g s))).isEmpty = false := by
    rw [List.isEmpty_eq_false_iff_exists_mem]
    exact ⟨focus, List.mem_filter.2 ⟨hfocus, decide_eq_true
      (occursIn_dotLabel g focus List.infix_rfl)⟩⟩
  simp only [hmatching, Bool.or_false]
  split
  next hempty =>
    have hall : ∀ s, OccursIn focus (dotLabel g s) := by
      intro s
      rw [OccursIn, String.isEmpty_iff.1 hempty]
      exact List.nil_infix
    refine ⟨_, g.edges, rfl, fun s => ?_, pairwise_sortTexts h.once, ?_⟩
    · rw [mem_sortTexts]
      exact (and_iff_left (Or.inl (hall s))).symm
    · exact (List.filter_eq_self.2 fun e _ => decide_eq_true (Or.inl (hall _))).symm
  next =>
    rw [touching_dotEdges h]
    refine ⟨_, _, rfl, fun s => ?_, pairwise_sortedSet _, rfl⟩
    rw [mem_sortedSet, List.mem_append, List.flatMap_map]
    exact mem_chosen_or_ends_iff h _ s

theorem dotDocument_repo (h : g.IsWhole) {repo : String} (hrepo : repo ∈ g.repos) :
    ((∃ s ∈ g.repos, IsLong (g.score s)) ∧ dotDocument g repo = .error .longNumber) ∨
    (∀ s ∈ g.repos, ¬ IsLong (g.score s)) ∧ ∃ repos edges,
      dotDocument g repo =
        .ok (Dot.documentText (dotNodes g) "Ecosystem" (dotSelection repos edges)) ∧
      ShowsAround g (fun s => OccursIn repo (dotLabel g s)) repos edges := by
  refine (dotDocument_cases h.once repo).imp_right fun ⟨hshort, htext⟩ => ⟨hshort, ?_⟩
  obtain ⟨repos, edges, hselect, haround⟩ := select_dotNodes h hrepo
  refine ⟨repos, edges, ?_, haround⟩
  rw [htext, ← hselect]
  rfl

/-- A document is read back exactly if no repository that it shows has a name that ends in a
backslash. -/
theorem readStatements?_dotSelection (h : g.IsWhole) {repos : List String}
    {edges : List Dependency} (hrepos : ∀ s ∈ repos, s ∈ g.repos)
    (hends : ∀ e ∈ edges, e.source ∈ repos ∧ e.target ∈ repos) :
    Dot.readStatements?
        (Dot.documentText (dotNodes g) "Ecosystem" (dotSelection repos edges)) =
        some (Dot.documentStatements (dotNodes g) "Ecosystem" (dotSelection repos edges)) ↔
      ∀ s ∈ repos, ¬ Dot.EndsInBackslash s := by
  rw [Dot.readStatements?_documentText, Dot.shownTexts, dotSelection, List.flatMap_map]
  constructor
  · intro hall s hs
    exact hall s (List.mem_append_left _ (List.mem_flatMap.2 ⟨s, hs, List.mem_cons_self⟩))
  · intro hall t ht
    rcases List.mem_append.1 ht with ht | ht
    · obtain ⟨s, hs, ht⟩ := List.mem_flatMap.1 ht
      rcases List.mem_pair.1 ht with rfl | rfl
      · exact hall _ hs
      · rw [get?_dotNodes h.once (hrepos s hs), Option.getD_some]
        exact not_endsInBackslash_dotLabel g s
    · obtain ⟨e, he, ht⟩ := List.mem_flatMap.1 ht
      have hkind : ¬ Dot.EndsInBackslash e.kind.text := by
        cases e.kind <;> decide
      simp only [dotEdge, List.mem_cons, List.not_mem_nil, or_false] at ht
      rcases ht with rfl | rfl | rfl
      · exact hall _ (hends e he).1
      · exact hall _ (hends e he).2
      · exact hkind

end Document

/-- The document of an ecosystem that was made, focused on one of its repositories, shows the
repositories whose label contains the name, with their neighbours, and the dependencies of the
former. So it shows what is around the names that contain it exactly if each repository that only
its score text brings in joins none but those. Without backslashes in the name, it is the score text
alone that matters. -/
theorem dotDocument_showsAround {g : Ecosystem} (h : g.IsMade) {repo : String}
    (hrepo : repo ∈ g.repos) :
    ((∃ s ∈ g.repos, IsLong (g.score s)) ∧ dotDocument g repo = .error .longNumber) ∨
    (∀ s ∈ g.repos, ¬ IsLong (g.score s)) ∧ ∃ text repos edges, dotDocument g repo = .ok text ∧
      text = Dot.documentText (dotNodes g) "Ecosystem" (dotSelection repos edges) ∧
      (Dot.readStatements? text =
          some (Dot.documentStatements (dotNodes g) "Ecosystem" (dotSelection repos edges)) ↔
        ∀ s ∈ repos, ¬ Dot.EndsInBackslash s) ∧
      ShowsAround g (fun s => OccursIn repo (dotLabel g s)) repos edges ∧
      (ShowsAround g (OccursIn repo) repos edges ↔ ∀ s ∈ g.repos,
        OccursIn repo (dotLabel g s) → OccursIn repo s ∨ JoinsOnly g (OccursIn repo) s) ∧
      ('\\' ∉ repo.toList → ∀ s,
        OccursIn repo (dotLabel g s) ↔ OccursIn repo s ∨ OccursIn repo (scoreText g s)) := by
  have hwhole := h.isWhole
  refine (dotDocument_repo hwhole hrepo).imp_right ?_
  rintro ⟨hshort, repos, edges, htext, haround⟩
  refine ⟨hshort, _, repos, edges, htext, rfl, ?_, haround, ?_, ?_⟩
  · exact readStatements?_dotSelection hwhole (fun s hs => ((haround.shown s).1 hs).1)
      (haround.ends hwhole.ends)
  · exact haround.iff_joinsOnly hwhole.ends fun s => occursIn_dotLabel g s
  · exact fun hplain s => occursIn_dotLabel_iff g s hplain

/-- Two repositories that have nothing to do with each other. -/
theorem exists_build_coreAndShop : ∃ g,
    Ecosystem.build [("core", some {}), ("shop", some {})] = .ok g ∧
      (∀ s, s ∈ g.repos ↔ s ∈ ["core", "shop"]) ∧ g.edges = [] ∧ ∀ s ∈ g.repos, g.score s = 0 := by
  have hedges : dependenciesOf (contractEvidence (callEvidence []) []) = [] := List.mergeSort_nil
  have hrepos : ∀ s, s ∈ (Ecosystem.assemble ["core", "shop"] [] [] [] [] {}).repos ↔
      s ∈ ["core", "shop"] := by
    intro s
    rw [mem_repos_assemble, show Ecosystem.edges _ = [] from hedges]
    simp
  refine ⟨_, build_eq_ok_iff.2 ⟨[], [], rfl, rfl, rfl⟩, hrepos, hedges, fun s hs => ?_⟩
  have hempty : sortedSet [] = [] := by decide +kernel
  have himpact : (impactOf {} [] (servicesByOwner []) [] [] s).score = 0 := by
    simp [impactOf, Impact.scored, sharedTypesOf, hempty, servicesByOwner, OrderedMap.groupedBy,
      OrderedMap.get?, OrderedMap.lookup]
  rw [Ecosystem.score, impact?_assemble rfl hs, ← himpact, ← hedges]
  rfl

/-- A focus on the shop shows the shop alone. -/
theorem dotDocument_showsAround_shop : ∃ g text edges,
    Ecosystem.build [("core", some {}), ("shop", some {})] = .ok g ∧
      dotDocument g "shop" = .ok text ∧
      text = Dot.documentText (dotNodes g) "Ecosystem" (dotSelection ["shop"] edges) ∧
      ShowsAround g (OccursIn "shop") ["shop"] edges := by
  obtain ⟨g, hbuild, hrepos, hedges, hscores⟩ := exists_build_coreAndShop
  rcases dotDocument_showsAround (.build hbuild) ((hrepos "shop").2 (by decide)) with
    ⟨⟨s, hs, hlong⟩, -⟩ | ⟨-, text, repos, edges, htext, hdocument, -, haround, hiff, hscore⟩
  · rw [hscores s hs] at hlong
    exact absurd hlong (by rw [IsLong]; decide +kernel)
  · have hnone : ∀ s ∈ g.repos, ¬ OccursIn "shop" (scoreText g s) := by
      intro s hs
      rw [scoreText, hscores s hs]
      decide
    have hnamed : ShowsAround g (OccursIn "shop") repos edges := hiff.2 fun s hs hlabel =>
      Or.inl (((hscore (by decide) s).1 hlabel).resolve_right (hnone s hs))
    have hshown : repos = ["shop"] := by
      refine hnamed.sorted.eq_of_mem_iff (by decide) fun s => ?_
      rw [hnamed.shown, hrepos, hedges]
      constructor
      · rintro ⟨hs, hname | ⟨e, he, -⟩⟩
        · rcases List.mem_pair.1 hs with rfl | rfl
          · exact absurd hname (by decide)
          · exact List.mem_singleton_self _
        · cases he
      · intro hs
        obtain rfl := List.mem_singleton.1 hs
        exact ⟨by decide, Or.inl (by decide)⟩
    exact ⟨g, text, edges, hbuild, htext, hshown ▸ hdocument, hshown ▸ hnamed⟩

/-- A focus on the core shows the shop too, because it has a score. -/
theorem dotDocument_core : ∃ g text statements,
    Ecosystem.build [("core", some {}), ("shop", some {})] = .ok g ∧ "core" ∈ g.repos ∧
      g.edges = [] ∧ ¬ OccursIn "core" "shop" ∧ dotDocument g "core" = .ok text ∧
      Dot.readStatements? text = some statements ∧
      Dot.nodeStatement "shop" "shop\\nscore 0" ∈ statements := by
  obtain ⟨g, hbuild, hrepos, hedges, hscores⟩ := exists_build_coreAndShop
  have hwhole := (Ecosystem.IsMade.build hbuild).isWhole
  have hcore : "core" ∈ g.repos := (hrepos _).2 (by decide)
  have hshop : "shop" ∈ g.repos := (hrepos _).2 (by decide)
  have hlabel : dotLabel g "shop" = "shop\\nscore 0" := by
    rw [dotLabel, scoreText, hscores _ hshop]
    decide
  rcases dotDocument_repo hwhole hcore with
    ⟨⟨s, hs, hlong⟩, -⟩ | ⟨-, repos, edges, htext, haround⟩
  · rw [hscores s hs] at hlong
    exact absurd hlong (by rw [IsLong]; decide +kernel)
  have hrepo : ∀ s ∈ repos, s ∈ g.repos := fun s hs => ((haround.shown s).1 hs).1
  have hplain : ∀ s ∈ repos, ¬ Dot.EndsInBackslash s := by
    intro s hs
    rcases List.mem_pair.1 ((hrepos s).1 (hrepo s hs)) with rfl | rfl <;> decide
  have hread := (readStatements?_dotSelection hwhole hrepo (haround.ends hwhole.ends)).2 hplain
  have hshown : "shop" ∈ repos :=
    (haround.shown _).2 ⟨hshop, Or.inl (by rw [hlabel]; decide)⟩
  have hline : Dot.nodeStatement "shop" "shop\\nscore 0" ∈
      Dot.documentStatements (dotNodes g) "Ecosystem" (dotSelection repos edges) := by
    rw [Dot.documentStatements, List.mem_append, List.mem_cons, List.mem_append, List.mem_map]
    refine Or.inl (Or.inr (Or.inl ⟨"shop", hshown, ?_⟩))
    rw [get?_dotNodes hwhole.once hshop, hlabel]
    rfl
  exact ⟨g, _, _, hbuild, hcore, hedges, by decide, htext, hread, hline⟩

end RepoAtlas.Topology
