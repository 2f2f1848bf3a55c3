import Mathlib.Data.List.Induction
import RepoAtlas.Proofs.Outcome
import RepoAtlas.Source.Declaration

/-!
The texts of a union's two spellings: members with bars between them, and members as arguments of
a subscript. Parentheses stand around a member in one text and not in the other, but the members
that cannot be written are the same, and so is whether the text speaks of a class variable.
-/
namespace RepoAtlas.Source

/-- A union with bars between its members. Bars group from the left. -/
def barred (first : Expr) (rest : List Expr) : Expr :=
  rest.foldl (.binary .bitOr) first

/-- A union with its members in brackets. -/
def bracketed (members : List Expr) : Expr :=
  .subscript (.name "Union") (.tuple members)

theorem barred_append_singleton (first last : Expr) (rest : List Expr) :
    barred first (rest ++ [last]) = .binary .bitOr (barred first rest) last := by
  rw [barred, List.foldl_append]
  rfl

/-! ### Mentions of a class variable -/

theorem infix_append_cons_iff {α : Type} {word xs ys : List α} {c : α} (hc : c ∉ word) :
    word <:+: xs ++ c :: ys ↔ word <:+: xs ∨ word <:+: ys := by
  constructor
  · intro h
    rcases List.infix_append_iff.1 h with h | h | ⟨before, after, rfl, hbefore, hafter⟩
    · exact .inl h
    · rcases List.infix_cons_iff.1 h with h | h
      · cases word with
        | nil => exact .inl (List.nil_infix)
        | cons d word =>
          obtain ⟨rfl, -⟩ := List.cons_prefix_cons.1 h
          exact absurd List.mem_cons_self hc
      · exact .inr h
    · cases after with
      | nil => exact .inl (by simpa using hbefore.isInfix)
      | cons d after =>
        obtain ⟨rfl, -⟩ := List.cons_prefix_cons.1 hafter
        exact absurd (List.mem_append_right _ List.mem_cons_self) hc
  · rintro (h | h)
    · exact h.trans (List.prefix_append _ _).isInfix
    · exact h.trans ((List.suffix_cons c ys).trans (List.suffix_append _ _)).isInfix

/-- Whether a text speaks of a class variable, as the front end finds out. -/
def marksClass (text : String) : Bool := Text.occursIn "ClassVar".toList text.toList

/-- A mark that is not in the word parts the places where the word can be. -/
theorem marksClass_parted (mark : Char) (hmark : mark ∉ "ClassVar".toList) (before after : String) :
    marksClass (before ++ String.singleton mark ++ after) =
      (marksClass before || marksClass after) := by
  rw [Bool.eq_iff_iff, Bool.or_eq_true]
  simp only [marksClass, Text.occursIn_iff, String.toList_append, String.toList_singleton,
    List.append_assoc, List.singleton_append]
  exact infix_append_cons_iff hmark

@[simp] theorem marksClass_empty : marksClass "" = false := by decide

theorem marksClass_singleton_append (mark : Char) (hmark : mark ∉ "ClassVar".toList)
    (after : String) : marksClass (String.singleton mark ++ after) = marksClass after := by
  simpa using marksClass_parted mark hmark "" after

theorem marksClass_append_singleton (mark : Char) (hmark : mark ∉ "ClassVar".toList)
    (before : String) : marksClass (before ++ String.singleton mark) = marksClass before := by
  simpa using marksClass_parted mark hmark before ""

theorem marksClass_enclosedIf (condition : Bool) (text : String) :
    marksClass (Written.enclosedIf condition text) = marksClass text := by
  cases condition with
  | false => rfl
  | true =>
    exact (marksClass_append_singleton ')' (by decide) ("(" ++ text)).trans
      (marksClass_singleton_append '(' (by decide) text)

theorem marksClass_barred (left right : String) :
    marksClass (left ++ " " ++ BinaryOp.bitOr.text ++ " " ++ right) =
      (marksClass left || marksClass right) := by
  calc marksClass (left ++ " " ++ "|" ++ " " ++ right)
      = (marksClass (left ++ " " ++ "|") || marksClass right) :=
        marksClass_parted ' ' (by decide) _ right
    _ = (marksClass (left ++ " ") || marksClass right) := by
        rw [← marksClass_append_singleton '|' (by decide) (left ++ " ")]
        rfl
    _ = (marksClass left || marksClass right) := by
        rw [← marksClass_append_singleton ' ' (by decide) left]
        rfl

theorem marksClass_subscript (base items : String) :
    marksClass (base ++ "[" ++ items ++ "]") = (marksClass base || marksClass items) :=
  (marksClass_append_singleton ']' (by decide) (base ++ "[" ++ items)).trans
    (marksClass_parted '[' (by decide) base items)

theorem marksClass_comma (text rest : String) :
    marksClass (text ++ ", " ++ rest) = (marksClass text || marksClass rest) := by
  have hcomma : text ++ ", " ++ rest =
      text ++ String.singleton ',' ++ (String.singleton ' ' ++ rest) := by
    simp [← String.toList_inj]
  rw [hcomma, marksClass_parted ',' (by decide), marksClass_singleton_append ' ' (by decide)]

theorem marksClass_joined (texts : List String) :
    marksClass (Text.joinWith ", " texts) = texts.any marksClass := by
  induction texts with
  | nil => decide
  | cons text rest ih =>
    cases rest with
    | nil => simp [Text.joinWith]
    | cons next rest =>
      rw [List.any_cons, ← ih, ← marksClass_comma]
      rw [Text.joinWith, String.intercalate_cons_cons, Text.joinWith]

theorem marksClass_operand (op : CompareOp) (text : String) :
    marksClass (op.text ++ text) = marksClass text := by
  -- the operator ends with a blank, and what stands before it is no word
  obtain ⟨symbols, hsymbols, hplain⟩ :
      ∃ symbols, op.text = symbols ++ String.singleton ' ' ∧ marksClass symbols = false := by
    cases op with
    | eq => exact ⟨" ==", rfl, by decide⟩
    | notEq => exact ⟨" !=", rfl, by decide⟩
    | lt => exact ⟨" <", rfl, by decide⟩
    | le => exact ⟨" <=", rfl, by decide⟩
    | gt => exact ⟨" >", rfl, by decide⟩
    | ge => exact ⟨" >=", rfl, by decide⟩
    | is => exact ⟨" is", rfl, by decide⟩
    | isNot => exact ⟨" is not", rfl, by decide⟩
    | isIn => exact ⟨" in", rfl, by decide⟩
    | notIn => exact ⟨" not in", rfl, by decide⟩
  rw [hsymbols, marksClass_parted ' ' (by decide), hplain, Bool.false_or]

/-! ### Members in their places -/

/-- Whether an expression can be written at a place of the given rank, and if so whether its text
speaks of a class variable. -/
def mentions (rank : Nat) (e : Expr) : Result Bool :=
  marksClass <$> Written.expr false rank e

/-- A place's rank only asks for parentheses. -/
theorem mentions_rank (rank other : Nat) : (e : Expr) → mentions rank e = mentions other e
  | .operand op value => by
    have ih := mentions_rank rank other value
    simp only [mentions, Written.expr, map_bind, map_pure, marksClass_operand] at ih ⊢
    simpa only [map_eq_pure_bind] using ih
  | .yield none => by
    show Except.ok (marksClass _) = Except.ok (marksClass _)
    rw [marksClass_enclosedIf, marksClass_enclosedIf]
  | .name _ | .constant _ | .template _ | .hole _ _ _ _ | .attribute _ _ | .subscript _ _
  | .call _ _ _ _ | .keyword (some _) _ | .keyword none _ | .starred _ | .boolean _ _
  | .named _ _ | .binary _ _ _ | .unary _ _ | .lambda _ _ | .param _ none | .param _ (some _)
  | .conditional _ _ _ | .dict _ | .entry (some _) _ | .entry none _ | .set _ | .list _
  | .tuple _ | .comprehension _ _ _ | .dictComprehension _ _ _ | .clause _ _ _ _ | .await _
  | .yield (some _) | .yieldFrom _ | .compare _ _ | .slice _ _ _ => by
    simp only [mentions, Written.expr, map_bind, map_pure, marksClass_enclosedIf]
    try rfl

theorem mentions_bar (rank : Nat) (left right : Expr) :
    mentions rank (.binary .bitOr left right) = do
      let l ← mentions Rank.test left
      let r ← mentions Rank.test right
      return l || r := by
  rw [mentions_rank Rank.test Rank.bitOr left, mentions_rank Rank.test (Rank.next Rank.bitOr) right]
  simp only [mentions, Written.expr, map_bind, map_pure, bind_map_left, marksClass_enclosedIf,
    marksClass_barred]
  rfl

theorem mentions_barred (rank : Nat) (first : Expr) (rest : List Expr) :
    mentions rank (barred first rest) =
      (·.any id) <$> (first :: rest).mapM (mentions Rank.test) := by
  induction rest using List.reverseRecOn generalizing rank with
  | nil =>
    rw [mentions_rank rank Rank.test, show barred first [] = first from rfl]
    cases h : mentions Rank.test first <;> simp [h]
  | append_singleton rest last ih =>
    rw [barred_append_singleton, mentions_bar, ih, ← List.cons_append, List.mapM_append]
    cases (first :: rest).mapM (mentions Rank.test) with
    | error fault => rfl
    | ok marks =>
      cases h : mentions Rank.test last with
      | error fault =>
        rw [List.mapM_cons, h]
        rfl
      | ok mark =>
        rw [List.mapM_cons, h]
        show Except.ok (marks.any id || mark) = Except.ok ((marks ++ [mark]).any id)
        rw [List.any_append, List.any_cons, List.any_nil, Bool.or_false, id]

theorem exprs_eq_mapM (plain : Bool) (rank : Nat) (items : List Expr) :
    Written.exprs plain rank items = items.mapM (Written.expr plain rank) := by
  induction items with
  | nil => rfl
  | cons e rest ih =>
    rw [Written.exprs, ih, List.mapM_cons]

/-- A place's rank does not matter to the members of a list either. -/
theorem mapM_mentions (rank : Nat) (items : List Expr) :
    items.mapM (mentions Rank.test) =
      List.map marksClass <$> items.mapM (Written.expr false rank) := by
  have hrank : mentions Rank.test = mentions rank := funext (mentions_rank Rank.test rank)
  rw [hrank, ← mapM_map_result]
  rfl

theorem mentions_bracketed (rank : Nat) (first second : Expr) (rest : List Expr) :
    mentions rank (bracketed (first :: second :: rest)) =
      (·.any id) <$> (first :: second :: rest).mapM (mentions Rank.test) := by
  rw [mapM_mentions Rank.test, mentions, bracketed]
  simp only [Written.expr, Written.isTuple, if_true, exprs_eq_mapM]
  cases h : (first :: second :: rest).mapM (Written.expr false Rank.test) with
  | error fault => rfl
  | ok texts =>
    obtain ⟨a, -, texts, htexts, rfl⟩ := mapM_cons_eq_ok_iff.1 h
    obtain ⟨b, -, texts, -, rfl⟩ := mapM_cons_eq_ok_iff.1 htexts
    show Except.ok (marksClass ("Union" ++ "[" ++ Text.joinWith ", " (a :: b :: texts) ++ "]")) =
      Except.ok (((a :: b :: texts).map marksClass).any id)
    rw [marksClass_subscript, marksClass_joined, List.any_map, Function.id_comp,
      show marksClass "Union" = false by decide, Bool.false_or]

end RepoAtlas.Source
