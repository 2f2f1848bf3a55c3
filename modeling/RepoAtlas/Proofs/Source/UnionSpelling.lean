import RepoAtlas.Proofs.Source.UnionMeaning
import RepoAtlas.Proofs.Source.WrittenUnion
import RepoAtlas.Types.Relations

/-!
What the two spellings of a union annotation are read as, and the relationships of a field that is
annotated with the one or the other. A text is written before its parts are read, so both spellings
fail alike: at the first member that cannot be written, else at the first that cannot be read.
-/
namespace RepoAtlas.Source

/-! ### Members -/

/-- The reference of a member; `None` has none. -/
def memberRef (quoted : String → Result TypeRef) (e : Expr) : Result (Option TypeRef) :=
  if e.isNone then .ok none else some <$> typeRefWith quoted e

theorem bind_memberRef {β : Type} (quoted : String → Result TypeRef) (e : Expr)
    (f : List TypeRef → Result β) :
    (if e.isNone then pure [] >>= f else (List.singleton <$> typeRefWith quoted e) >>= f) =
      memberRef quoted e >>= fun part => f part.toList := by
  rw [memberRef]
  cases e.isNone with
  | true => rfl
  | false => cases typeRefWith quoted e <;> rfl

theorem typeRefs_eq (quoted : String → Result TypeRef) (items : List Expr) :
    typeRefs quoted items = List.reduceOption <$> items.mapM (memberRef quoted) := by
  induction items with
  | nil => rfl
  | cons e rest ih =>
    rw [typeRefs, ih, List.mapM_cons]
    refine (bind_memberRef quoted e _).trans ?_
    cases memberRef quoted e with
    | error fault => rfl
    | ok part =>
      cases rest.mapM (memberRef quoted) with
      | error fault => rfl
      | ok parts => cases part <;> rfl

variable (quoted : String → Result TypeRef)

theorem typeRefWith_bar (left right : Expr) :
    typeRefWith quoted (.binary .bitOr left right) = do
      let raw ← (Expr.binary .bitOr left right).written
      let l ← memberRef quoted left
      let r ← memberRef quoted right
      return unionOfBars raw (l.toList ++ r.toList) := by
  rw [typeRefWith]
  cases (Expr.binary .bitOr left right).written with
  | error fault => rfl
  | ok raw =>
    refine (bind_memberRef quoted left _).trans ?_
    refine bind_congr fun l => ?_
    exact bind_memberRef quoted right _

theorem isNone_of_memberRef {e : Expr} {part : Option TypeRef} (h : memberRef quoted e = .ok part) :
    part.isNone = e.isNone := by
  unfold memberRef at h
  split at h
  next hnone => rw [← Except.ok.inj h, hnone, Option.isNone_none]
  next hnone =>
    cases hread : typeRefWith quoted e with
    | error fault =>
      rw [hread] at h
      cases h
    | ok ref =>
      rw [hread] at h
      rw [← Except.ok.inj h, Bool.eq_false_iff.2 hnone, Option.isNone_some]

theorem any_isNone_of_mapM {items : List Expr} {parts : List (Option TypeRef)}
    (h : items.mapM (memberRef quoted) = .ok parts) :
    parts.any Option.isNone = items.any Expr.isNone := by
  have hmap : parts.map Option.isNone = items.map Expr.isNone :=
    map_eq_of_mapM_eq_ok (fun _ _ => isNone_of_memberRef quoted) h
  have hany := congrArg (List.any · id) hmap
  simpa only [List.any_map, Function.id_comp] using hany

theorem typeRefWith_bracketed (members : List Expr) :
    typeRefWith quoted (bracketed members) = do
      let raw ← (bracketed members).written
      let parts ← members.mapM (memberRef quoted)
      return subscripted "Union" raw (parts.any Option.isNone) parts.reduceOption := by
  rw [bracketed, typeRefWith, typeRefs_eq]
  have hbase : (Expr.name "Union").shortName = "Union" := by decide
  rw [hbase]
  cases (Expr.subscript (.name "Union") (.tuple members)).written with
  | error fault => rfl
  | ok raw =>
    cases h : members.mapM (memberRef quoted) with
    | error fault => rfl
    | ok parts =>
      have hnone := any_isNone_of_mapM quoted h
      show Except.ok (subscripted "Union" raw (members.any Expr.isNone) parts.reduceOption) =
        Except.ok (subscripted "Union" raw (parts.any Option.isNone) parts.reduceOption)
      rw [hnone]

/-! ### Reading a union -/

theorem eq_error_of_map {α β : Type} {f : α → β} {x : Result α} {fault : Fault}
    (h : f <$> x = .error fault) : x = .error fault := by
  cases x with
  | error e =>
    cases h
    rfl
  | ok a => cases h

theorem exists_eq_ok_of_map {α β : Type} {f : α → β} {x : Result α} {b : β}
    (h : f <$> x = .ok b) : ∃ a, x = .ok a ∧ f a = b := by
  cases x with
  | error e => cases h
  | ok a => exact ⟨a, rfl, Except.ok.inj h⟩

theorem exists_barred_eq (first second : Expr) (rest : List Expr) :
    ∃ left right, barred first (second :: rest) = .binary .bitOr left right := by
  cases rest using List.reverseRecOn with
  | nil => exact ⟨first, second, rfl⟩
  | append_singleton rest last =>
    rw [← List.cons_append, barred_append_singleton]
    exact ⟨_, _, rfl⟩

theorem written_of_mentions {e : Expr} {mark : Bool} (h : mentions Rank.test e = .ok mark) :
    ∃ raw, e.written = .ok raw ∧ marksClass raw = mark := by
  cases hwritten : e.written with
  | error fault =>
    rw [mentions, ← Expr.written, hwritten] at h
    cases h
  | ok raw =>
    rw [mentions, ← Expr.written, hwritten] at h
    exact ⟨raw, rfl, Except.ok.inj h⟩

theorem memberRef_barred (first second : Expr) (rest : List Expr) :
    memberRef quoted (barred first (second :: rest)) =
      some <$> typeRefWith quoted (barred first (second :: rest)) := by
  obtain ⟨left, right, hbar⟩ := exists_barred_eq first second rest
  rw [hbar]
  rfl

theorem unwritten_bar (raw : String) (l r : Option TypeRef) :
    (unionOfBars raw (l.toList ++ r.toList)).unwritten =
      unionOfBars "" ((l.map TypeRef.unwritten).toList ++ (r.map TypeRef.unwritten).toList) := by
  rw [unwritten_unionOfBars, List.map_append]
  cases l <;> cases r <;> rfl

theorem exists_written_barred {first : Expr} {rest : List Expr} {marks : List Bool}
    (h : (first :: rest).mapM (mentions Rank.test) = .ok marks) :
    ∃ raw, (barred first rest).written = .ok raw := by
  have hmention := mentions_barred Rank.test first rest
  rw [h] at hmention
  obtain ⟨raw, hraw, -⟩ := written_of_mentions hmention
  exact ⟨raw, hraw⟩

/-- Bars that can be written are read as their members are. -/
theorem unwritten_barred {first second : Expr} {rest : List Expr} {marks : List Bool}
    (h : (first :: second :: rest).mapM (mentions Rank.test) = .ok marks) :
    TypeRef.unwritten <$> typeRefWith quoted (barred first (second :: rest)) = do
      let p ← memberRef quoted first
      let q ← memberRef quoted second
      let parts ← rest.mapM (memberRef quoted)
      return barsMeaning (p.map TypeRef.unwritten) (q.map TypeRef.unwritten)
        (parts.map (Option.map TypeRef.unwritten)) := by
  obtain ⟨raw, hraw⟩ := exists_written_barred h
  induction rest using List.reverseRecOn generalizing marks raw with
  | nil =>
    rw [show barred first [second] = .binary .bitOr first second from rfl] at hraw ⊢
    rw [typeRefWith_bar, hraw]
    cases memberRef quoted first with
    | error fault => rfl
    | ok p =>
      cases memberRef quoted second with
      | error fault => rfl
      | ok q => exact congrArg Except.ok (unwritten_bar raw p q)
  | append_singleton rest last ih =>
    rw [← List.cons_append, ← List.cons_append, List.mapM_append] at h
    obtain ⟨marks, hmarks, -⟩ := bind_eq_ok_iff.1 h
    obtain ⟨text, htext⟩ := exists_written_barred hmarks
    have hbefore := ih hmarks text htext
    rw [← List.cons_append, barred_append_singleton] at hraw ⊢
    rw [typeRefWith_bar, hraw, memberRef_barred, List.mapM_append, List.mapM_cons, List.mapM_nil]
    -- the reading of the members before the last one decides how far both sides come
    generalize typeRefWith quoted (barred first (second :: rest)) = before,
      memberRef quoted first = head, memberRef quoted second = next,
      rest.mapM (memberRef quoted) = middle at hbefore ⊢
    cases head with
    | error fault =>
      rw [eq_error_of_map hbefore]
      rfl
    | ok p =>
      cases next with
      | error fault =>
        rw [eq_error_of_map hbefore]
        rfl
      | ok q =>
        cases middle with
        | error fault =>
          rw [eq_error_of_map hbefore]
          rfl
        | ok parts =>
          obtain ⟨ref, rfl, href⟩ := exists_eq_ok_of_map hbefore
          cases memberRef quoted last with
          | error fault => rfl
          | ok r =>
            refine congrArg Except.ok ((unwritten_bar raw (some ref) r).trans ?_)
            rw [Option.map_some, href, barsMeaning, barsMeaning, List.map_append, List.foldl_append]
            rfl

theorem unwritten_bracketed {first second : Expr} {rest : List Expr} {marks : List Bool}
    (h : (first :: second :: rest).mapM (mentions Rank.test) = .ok marks) :
    TypeRef.unwritten <$> typeRefWith quoted (bracketed (first :: second :: rest)) = do
      let parts ← (first :: second :: rest).mapM (memberRef quoted)
      return bracketsMeaning (parts.map (Option.map TypeRef.unwritten)) := by
  have hmention := mentions_bracketed Rank.test first second rest
  rw [h] at hmention
  obtain ⟨raw, hraw, -⟩ := written_of_mentions hmention
  rw [typeRefWith_bracketed, hraw]
  cases (first :: second :: rest).mapM (memberRef quoted) with
  | error fault => rfl
  | ok parts =>
    refine congrArg Except.ok ((unwritten_subscripted _ _ _).trans ?_)
    rw [bracketsMeaning, List.reduceOption_map, List.any_map]
    congr 2
    funext part
    cases part <;> rfl

/-- The text of a reference is the text that it was read from. -/
theorem mentions_barred_raw {first second : Expr} {rest : List Expr} {ref : TypeRef}
    (h : typeRefWith quoted (barred first (second :: rest)) = .ok ref) :
    mentions Rank.test (barred first (second :: rest)) = .ok (marksClass ref.raw) := by
  obtain ⟨left, right, hbar⟩ := exists_barred_eq first second rest
  rw [hbar, typeRefWith_bar] at h
  obtain ⟨raw, hraw, h⟩ := bind_eq_ok_iff.1 h
  obtain ⟨l, -, h⟩ := bind_eq_ok_iff.1 h
  obtain ⟨r, -, h⟩ := bind_eq_ok_iff.1 h
  rw [hbar, mentions, ← Expr.written, hraw, ← Except.ok.inj h, raw_unionOfBars]
  rfl

theorem mentions_bracketed_raw {members : List Expr} {ref : TypeRef}
    (h : typeRefWith quoted (bracketed members) = .ok ref) :
    mentions Rank.test (bracketed members) = .ok (marksClass ref.raw) := by
  rw [typeRefWith_bracketed] at h
  obtain ⟨raw, hraw, h⟩ := bind_eq_ok_iff.1 h
  obtain ⟨parts, -, h⟩ := bind_eq_ok_iff.1 h
  rw [mentions, ← Expr.written, hraw, ← Except.ok.inj h, raw_subscripted]
  rfl

/-! ### Fields -/

/-- The texts of a reference do not show in the relationships of its field. -/
theorem fieldRelations_sameMeaning {r s : TypeRef} (h : r.SameMeaning s) (known : List String)
    (t : TypeDefinition) (name : String) (optional optional' : Bool) :
    Types.fieldRelations known t { name, typeRef := r, optional } =
      Types.fieldRelations known t { name, typeRef := s, optional := optional' } := by
  have hname : r.name = s.name := by
    rw [← TypeRef.unwritten_name, h, TypeRef.unwritten_name]
  have hcollection : r.isCollection = s.isCollection := by
    rw [← TypeRef.unwritten_isCollection, h, TypeRef.unwritten_isCollection]
  have hgenerics : r.generics.map (·.name) = s.generics.map (·.name) := by
    have hmap := congrArg (fun ref => ref.generics.map (·.name)) h
    simpa only [TypeRef.unwritten_generics, List.map_map, Function.comp_def,
      TypeRef.unwritten_name] using hmap
  simp only [Types.fieldRelations, hname, hcollection, hgenerics]

/-- The relationships of the field that a statement in the body of a class declares. -/
def declaredRelations (known : List String) (t : TypeDefinition) (s : Stmt) :
    Result (List Relationship) := do
  let field? ← declaredField? s
  return field?.toList.flatMap (Types.fieldRelations known t)

theorem declaredRelations_annotated {declared : Expr} {ref : TypeRef}
    (h : typeRef declared = .ok ref) (known : List String) (t : TypeDefinition) (line : Nat)
    (name : String) (value : Option Expr) :
    declaredRelations known t (.annotated line (.name name) declared value) =
      .ok (if marksClass ref.raw then []
        else Types.fieldRelations known t { name, typeRef := ref, optional := ref.optional }) := by
  rw [declaredRelations, declaredField?, h, marksClass]
  simp only [bind, Except.bind]
  generalize Text.occursIn "ClassVar".toList ref.raw.toList = mark
  cases mark with
  | true => rfl
  | false => exact congrArg Except.ok (List.append_nil _)

/-- The answer for texts in annotations. -/
def readQuoted (s : String) : Result TypeRef := quotedTypeRef (s.length + 1) s

/-- Members that are not all `None` have a reference among them. -/
theorem reduceOption_ne_nil {items : List Expr} {parts : List (Option TypeRef)}
    (h : items.mapM (memberRef quoted) = .ok parts) (hsome : ∃ e ∈ items, e.isNone = false) :
    (parts.map (Option.map TypeRef.unwritten)).reduceOption ≠ [] := by
  obtain ⟨e, he, hnone⟩ := hsome
  obtain ⟨part, hpart, hread⟩ := exists_mem_of_mapM_eq_ok h he
  rw [List.reduceOption_map]
  cases part with
  | none => exact absurd (isNone_of_memberRef quoted hread) (by simp [hnone])
  | some ref => exact List.ne_nil_of_mem (List.mem_map_of_mem (List.reduceOption_mem_iff.2 hpart))

/-- Both spellings of a union fail with the same fault, or both are read. Then they are read as
references of the same meaning exactly if the members read flat, and a field with the one or the
other has the same relationships. -/
theorem union_spellings (first second : Expr) (rest : List Expr)
    (hsome : ∃ e ∈ first :: second :: rest, e.isNone = false) :
    (∃ fault, typeRef (barred first (second :: rest)) = .error fault ∧
      typeRef (bracketed (first :: second :: rest)) = .error fault) ∨
    ∃ p q parts r s, memberRef readQuoted first = .ok p ∧ memberRef readQuoted second = .ok q ∧
      rest.mapM (memberRef readQuoted) = .ok parts ∧
      typeRef (barred first (second :: rest)) = .ok r ∧
      typeRef (bracketed (first :: second :: rest)) = .ok s ∧
      (r.SameMeaning s ↔ ReadsFlat p q parts) ∧
      (r.SameMeaning s → ∀ known t line name value,
        declaredRelations known t
            (.annotated line (.name name) (barred first (second :: rest)) value) =
          declaredRelations known t
            (.annotated line (.name name) (bracketed (first :: second :: rest)) value)) := by
  have hbar := mentions_barred Rank.test first (second :: rest)
  have hbracket := mentions_bracketed Rank.test first second rest
  cases hmarks : (first :: second :: rest).mapM (mentions Rank.test) with
  | error fault =>
    rw [hmarks] at hbar hbracket
    left
    refine ⟨fault, ?_, ?_⟩
    · obtain ⟨left, right, heq⟩ := exists_barred_eq first second rest
      rw [heq] at hbar ⊢
      rw [typeRef, typeRefWith_bar, Expr.written, eq_error_of_map hbar]
      rfl
    · rw [typeRef, typeRefWith_bracketed, Expr.written, eq_error_of_map hbracket]
      rfl
  | ok marks =>
    have hbars := unwritten_barred readQuoted hmarks
    have hbrackets := unwritten_bracketed readQuoted hmarks
    rw [List.mapM_cons, List.mapM_cons] at hbrackets
    cases hp : memberRef readQuoted first with
    | error fault =>
      rw [hp] at hbars hbrackets
      exact .inl ⟨fault, eq_error_of_map hbars, eq_error_of_map hbrackets⟩
    | ok p =>
      cases hq : memberRef readQuoted second with
      | error fault =>
        rw [hp, hq] at hbars hbrackets
        exact .inl ⟨fault, eq_error_of_map hbars, eq_error_of_map hbrackets⟩
      | ok q =>
        cases hparts : rest.mapM (memberRef readQuoted) with
        | error fault =>
          rw [hp, hq, hparts] at hbars hbrackets
          exact .inl ⟨fault, eq_error_of_map hbars, eq_error_of_map hbrackets⟩
        | ok parts =>
          rw [hp, hq, hparts] at hbars hbrackets
          obtain ⟨r, hr, hrmeaning⟩ := exists_eq_ok_of_map hbars
          obtain ⟨s, hs, hsmeaning⟩ := exists_eq_ok_of_map hbrackets
          refine .inr ⟨p, q, parts, r, s, rfl, rfl, rfl, hr, hs, ?_, ?_⟩
          · have hmembers : (first :: second :: rest).mapM (memberRef readQuoted) =
                .ok (p :: q :: parts) :=
              mapM_cons_eq_ok_iff.2 ⟨p, hp, _, mapM_cons_eq_ok_iff.2 ⟨q, hq, _, hparts, rfl⟩, rfl⟩
            have hsomeRef := reduceOption_ne_nil readQuoted hmembers hsome
            rw [TypeRef.SameMeaning, hrmeaning, hsmeaning, ← readsFlat_map_unwritten]
            refine barsMeaning_eq_iff hsomeRef ?_
            intro ref href
            have hpair : ref ∈ ([p, q].map (Option.map TypeRef.unwritten)).reduceOption := href
            rw [List.reduceOption_map] at hpair
            obtain ⟨origin, -, rfl⟩ := List.mem_map.1 hpair
            exact origin.unwritten_raw
          · intro hsame known t line name value
            have hmarks : marksClass r.raw = marksClass s.raw := by
              have hrmarks := mentions_barred_raw readQuoted hr
              have hsmarks := mentions_bracketed_raw readQuoted hs
              rw [hbar, ← hbracket, hsmarks] at hrmarks
              exact (Except.ok.inj hrmarks).symm
            rw [declaredRelations_annotated hr, declaredRelations_annotated hs, hmarks,
              fieldRelations_sameMeaning hsame]

/-- `None` stands first, and only `None` follows the second member. -/
theorem union_spellings_optional :
    let members : List Expr := [.constant .none, .name "A", .constant .none, .constant .none]
    (∃ e ∈ members, e.isNone = false) ∧
      ∃ r s, typeRef (barred (.constant .none) members.tail) = .ok r ∧
        typeRef (bracketed members) = .ok s ∧ r.name = "A" ∧ r.SameMeaning s := by
  intro members
  have hsome : ∃ e ∈ members, e.isNone = false :=
    ⟨.name "A", List.mem_cons_of_mem _ List.mem_cons_self, rfl⟩
  refine ⟨hsome, ?_⟩
  rcases union_spellings _ _ _ hsome with ⟨fault, hfault, -⟩ | ⟨p, q, parts, r, s, h⟩
  · cases hfault
  · obtain ⟨-, -, hparts, hr, hs, hsame, -⟩ := h
    obtain rfl : parts = [none, none] := (Except.ok.inj hparts).symm
    exact ⟨r, s, hr, hs, by cases hr; rfl, hsame.2 (.inl (by simp))⟩

/-- A reference to a type by its name. -/
def namedRef (name : String) : TypeRef := { name, raw := name }

/-- Of three types with bars between them, the first two are a union of their own, and a field does
not refer to them. -/
theorem three_members_differ :
    let inner : TypeRef := ⟨"Union", "A | B", false, false, [namedRef "A", namedRef "B"]⟩
    let r : TypeRef := ⟨"Union", "A | B | C", false, false, [inner, namedRef "C"]⟩
    let s : TypeRef := ⟨"Union", "Union[A, B, C]", false, false,
      [namedRef "A", namedRef "B", namedRef "C"]⟩
    typeRefOfText "A | B | C" = .ok r ∧ typeRefOfText "Union[A, B, C]" = .ok s ∧
      typeRef (barred (.name "A") [.name "B", .name "C"]) = .ok r ∧
      typeRef (bracketed [.name "A", .name "B", .name "C"]) = .ok s ∧ ¬ r.SameMeaning s ∧
      ∀ t name,
        (Types.fieldRelations ["A", "B", "C"] t { name, typeRef := r }).map (·.target) = ["C"] ∧
        (Types.fieldRelations ["A", "B", "C"] t { name, typeRef := s }).map (·.target) =
          ["A", "B", "C"] := by
  intro inner r s
  refine ⟨rfl, rfl, rfl, rfl, ?_, fun t name => ⟨rfl, rfl⟩⟩
  intro hsame
  have hgenerics := congrArg (fun ref => ref.generics.length) hsame
  simp only [TypeRef.unwritten_generics, List.length_map] at hgenerics
  exact absurd hgenerics (by decide)

end RepoAtlas.Source
