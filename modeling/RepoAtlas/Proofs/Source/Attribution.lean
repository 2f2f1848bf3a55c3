import RepoAtlas.Proofs.Listing
import RepoAtlas.Proofs.Outcome
import RepoAtlas.Proofs.Source.Places
import RepoAtlas.Source.Facts

/-!
What the facts of a module say of its tree: one type record for each class and for each alias at the
top level, and one edge for each call that a function makes itself.
-/
namespace RepoAtlas.Source

/-! ### Own calls -/

section Calls

theorem Expr.callsAll_eq (es : List Expr) : Expr.callsAll es = es.flatMap Expr.calls := by
  induction es with
  | nil => rfl
  | cons e rest ih => rw [Expr.callsAll, ih, List.flatMap_cons]

theorem Expr.callsOption_eq (o : Option Expr) :
    Expr.callsOption o = o.toList.flatMap Expr.calls := by
  cases o with
  | none => rfl
  | some e => exact (List.append_nil _).symm

theorem Expr.callsOfKeys_eq (es : List Expr) :
    Expr.callsOfKeys es = (es.flatMap Expr.entryKey).flatMap Expr.calls := by
  induction es with
  | nil => rfl
  | cons e rest ih =>
    have hfirst : e.keyCalls = e.entryKey.flatMap Expr.calls := by
      cases e with
      | entry key value => exact Expr.callsOption_eq key
      | _ => rfl
    rw [Expr.callsOfKeys, ih, hfirst, List.flatMap_cons, List.flatMap_append]

theorem Expr.callsOfValues_eq (es : List Expr) :
    Expr.callsOfValues es = (es.flatMap Expr.entryValue).flatMap Expr.calls := by
  induction es with
  | nil => rfl
  | cons e rest ih =>
    have hfirst : e.valueCalls = e.entryValue.flatMap Expr.calls := by
      cases e with
      | entry key value => exact (List.append_nil _).symm
      | _ => rfl
    rw [Expr.callsOfValues, ih, hfirst, List.flatMap_cons, List.flatMap_append]

theorem Stmt.callsAll_eq (ss : List Stmt) : Stmt.callsAll ss = ss.flatMap Stmt.calls := by
  induction ss with
  | nil => rfl
  | cons s rest ih => rw [Stmt.callsAll, ih, List.flatMap_cons]

/-- The calls of a node's own scope. -/
def Node.calls : Node → List CallSite
  | stmt s => s.calls
  | expr e => e.calls

/-- The call itself, and those of the parts in its scope. -/
theorem Node.calls_eq (n : Node) :
    n.calls = n.callSite?.toList ++ n.ownParts.flatMap Node.calls := by
  cases n with
  | stmt s =>
    cases s <;>
      simp [Node.calls, Node.callSite?, Node.ownParts, Node.opensScope, Node.parts, Stmt.calls,
        Stmt.exprs, Stmt.body, Stmt.callsAll_eq, Expr.callsAll_eq, Expr.callsOption_eq,
        List.flatMap_map]
  | expr e =>
    cases e <;>
      simp [Node.calls, Node.callSite?, Node.ownParts, Node.opensScope, Node.parts, Expr.calls,
        Expr.parts, Expr.callsAll_eq, Expr.callsOption_eq, Expr.callsOfKeys_eq,
        Expr.callsOfValues_eq, List.flatMap_map, List.append_assoc]

theorem Node.callAt?_cons_eq_some_iff {n : Node} {i : ℕ} {rest : List ℕ} {call : CallSite} :
    n.callAt? (i :: rest) = some call ↔
      ∃ m, n.ownParts[i]? = some m ∧ m.callAt? rest = some call := by
  rw [Node.callAt?, Node.reach, Option.bind_assoc, Option.bind_eq_some_iff]
  rfl

/-- The calls of a node's own scope, each once. -/
theorem listsEach_calls (n : Node) :
    ListsEach (fun (key : List ℕ × Unit) call => n.callAt? key.1 = some call) n.calls := by
  induction n using Node.induction_parts with
  | step n ih =>
    have hparts : ∀ m ∈ n.ownParts,
        ListsEach (fun (key : List ℕ × Unit) call => m.callAt? key.1 = some call) m.calls :=
      fun m hm => ih m (Node.mem_parts_of_mem_ownParts hm)
    rw [Node.calls_eq, List.flatMap_def]
    refine ((ListsEach.option () n.callSite?).tree (forall₂_map_self hparts)).congr
      fun ⟨address, _⟩ call => ?_
    cases address with
    | nil => exact and_iff_right rfl
    | cons i rest => exact Node.callAt?_cons_eq_some_iff.symm

end Calls

/-! ### Records and edges -/

/-- The record that a node declares among the given definitions: of every class its definition, and
at the top level that of a name that is assigned `Union[..]` or annotated as `TypeAlias`. -/
inductive Declares (path : String) : List String → Node → Result TypeDefinition → Prop
  | class_ {enclosing line name decorators bases keywords body} :
    Declares path enclosing (.stmt (.class_ line name decorators bases keywords body))
      (classDefinition path line name decorators bases keywords body)
  | union {line id value index} : value.shortName = "Union" →
    Declares path [] (.stmt (.assign line [.name id] (.subscript value index)))
      (.ok (bareDefinition path line .union id))
  | typeAlias {line id declared value} : declared.shortName = "TypeAlias" →
    Declares path [] (.stmt (.annotated line (.name id) declared value))
      (.ok (bareDefinition path line .typeAlias id))

/-- The call at an address below one of the statements, in no scope of its own. -/
def bodyCallAt? (body : List Stmt) : List ℕ → Option CallSite
  | [] => none
  | i :: rest => body[i]?.bind fun s => (Node.stmt s).callAt? rest

/-- The edge of a call with a dotted name that a function makes itself. The caller has the names
of the definitions around the function and its own. -/
inductive MakesCall (path : String) : List String → Node → List ℕ → CallEdge → Prop
  | own {enclosing isAsync name body address call callee} : bodyCallAt? body address = some call →
    call.function.dottedName? = some callee →
    MakesCall path enclosing (.stmt (.function isAsync name body)) address
      { caller := dotted (enclosing ++ [name]), callee, file := path, line := call.line }

/-- What holds of the node at an address and of the names around it. -/
def HoldsAt (holds : List String → Node → Prop) (scope : List String) (root : Node)
    (address : List ℕ) : Prop :=
  ∃ around x, root.follow address = some (around, x) ∧ holds (scope ++ scopeNames around) x

section HoldsAt

variable {holds : List String → Node → Prop} {scope : List String} {root : Node}

theorem holdsAt_nil : HoldsAt holds scope root [] ↔ holds scope root := by
  constructor
  · rintro ⟨around, x, hfollow, h⟩
    obtain ⟨rfl, rfl⟩ := Prod.mk.inj (Option.some.inj hfollow)
    rwa [scopeNames, List.filterMap_nil, List.append_nil] at h
  · exact fun h => ⟨[], root, rfl, by rwa [scopeNames, List.filterMap_nil, List.append_nil]⟩

theorem scopeNames_cons (around : List Node) :
    scopeNames (root :: around) = root.scopeName?.toList ++ scopeNames around := by
  rw [scopeNames, List.filterMap_cons]
  cases root.scopeName? <;> rfl

theorem holdsAt_cons {i : ℕ} {rest : List ℕ} :
    HoldsAt holds scope root (i :: rest) ↔
      ∃ m, root.parts[i]? = some m ∧ HoldsAt holds (scope ++ root.scopeName?.toList) m rest := by
  constructor
  · rintro ⟨around, x, hfollow, h⟩
    obtain ⟨m, inner, hm, hrest, rfl⟩ := Node.follow_cons_eq_some_iff.1 hfollow
    rw [scopeNames_cons, ← List.append_assoc] at h
    exact ⟨m, hm, inner, x, hrest, h⟩
  · rintro ⟨m, hm, inner, x, hrest, h⟩
    rw [List.append_assoc, ← scopeNames_cons] at h
    exact ⟨root :: inner, x, Node.follow_cons_eq_some_iff.2 ⟨m, inner, hm, hrest, rfl⟩, h⟩

end HoldsAt

/-- A module as a node: a block of its statements. -/
def moduleNode (body : List Stmt) : Node := .stmt (.block [] body)

/-- The record of the node at the address. A class whose definition fails has an error, which is no
record of any facts. -/
def IsRecord (path : String) (body : List Stmt) (address : List ℕ)
    (record : Result TypeDefinition) : Prop :=
  HoldsAt (Declares path · · record) [] (moduleNode body) address

/-- The edge of a call: of the function at the first address, and at the second below it. -/
def IsEdge (path : String) (body : List Stmt) (key : List ℕ × List ℕ) (edge : CallEdge) : Prop :=
  HoldsAt (MakesCall path · · key.2 edge) [] (moduleNode body) key.1

/-- The types and the calls among the facts of a module. There is one record for each class and for
each alias at the top level, and one edge for each function and each call of its own with a dotted
name. No call belongs to two functions. -/
structure Attributed (path : String) (body : List Stmt) (found : FileFacts) : Prop where
  types : ListsEach (IsRecord path body) (found.types.map .ok)
  calls : ListsEach (IsEdge path body) found.calls
  once : ∀ p q e f, IsEdge path body p e → IsEdge path body q f → p.1 ++ p.2 = q.1 ++ q.2 → p = q

/-! ### What each node adds -/

/-- The facts that a node adds to those of its parts. -/
def Node.ownFacts (path : String) (scope : List String) : Node → Result FileFacts
  | stmt (.function _ name body) =>
    .ok (.join ((Stmt.callsAll body).map (callFacts path (dotted (scope ++ [name])))))
  | stmt (.class_ line name decorators bases keywords body) => do
    return { types := [← classDefinition path line name decorators bases keywords body] }
  | stmt s => .ok { types := if scope.isEmpty then (aliasDefinition? path s).toList else [] }
  | expr _ => .ok {}

def Node.facts (path : String) (scope : List String) : Node → Result FileFacts
  | stmt s => stmtFacts path scope s
  | expr _ => .ok {}

section Facts

variable {path : String} {scope : List String} {n : Node} {found own : FileFacts}

theorem stmtFacts_eq (path : String) (scope : List String) (s : Stmt) :
    stmtFacts path scope s = (do
      let own ← (Node.stmt s).ownFacts path scope
      return own ++ (← stmtsFacts path (scope ++ (Node.stmt s).scopeName?.toList) s.body)) := by
  cases s with
  | class_ line name decorators bases keywords body =>
    rw [stmtFacts, Node.ownFacts, bind_assoc]
    rfl
  | function isAsync name body => rfl
  | block head body =>
    have hnone : (Node.stmt (.block head body)).ownFacts path scope = .ok {} := by
      change Except.ok (⟨if scope.isEmpty then [] else [], [], [], [], []⟩ : FileFacts) = _
      rw [ite_self]
    have hname : (Node.stmt (.block head body)).scopeName?.toList = [] := rfl
    rw [hnone, hname, List.append_nil]
    change stmtsFacts path scope body =
      stmtsFacts path scope body >>= fun later => pure ({} ++ later)
    simp only [FileFacts.empty_append, bind_pure]
  | _ => exact congrArg Except.ok (FileFacts.append_empty _).symm

/-- Expressions have no facts of their own. -/
theorem exists_facts_of_parts {ss : List Stmt} (h : stmtsFacts path scope ss = .ok found)
    (es : List Expr) :
    ∃ lists, List.Forall₂ (fun m r => m.facts path scope = .ok r)
      (es.map Node.expr ++ ss.map Node.stmt) lists ∧ found = .join lists := by
  induction es with
  | nil =>
    induction ss generalizing found with
    | nil => exact ⟨[], .nil, (Except.ok.inj h).symm⟩
    | cons s rest ih =>
      rw [stmtsFacts] at h
      obtain ⟨first, hfirst, h⟩ := bind_eq_ok_iff.1 h
      obtain ⟨later, hlater, h⟩ := bind_eq_ok_iff.1 h
      obtain rfl := pure_eq_ok_iff.1 h
      obtain ⟨lists, hlists, rfl⟩ := ih hlater
      exact ⟨first :: lists, .cons hfirst hlists, rfl⟩
  | cons e rest ih =>
    obtain ⟨lists, hlists, rfl⟩ := ih
    exact ⟨{} :: lists, .cons rfl hlists, (FileFacts.empty_append _).symm⟩

/-- The facts of a node are its own and those of its parts. -/
theorem exists_parts_of_facts (h : n.facts path scope = .ok found) :
    ∃ own lists, n.ownFacts path scope = .ok own ∧
      List.Forall₂ (fun m r => m.facts path (scope ++ n.scopeName?.toList) = .ok r) n.parts lists ∧
      found = own ++ .join lists := by
  cases n with
  | stmt s =>
    rw [Node.facts, stmtFacts_eq] at h
    obtain ⟨own, hown, h⟩ := bind_eq_ok_iff.1 h
    obtain ⟨later, hlater, h⟩ := bind_eq_ok_iff.1 h
    obtain rfl := pure_eq_ok_iff.1 h
    obtain ⟨lists, hlists, rfl⟩ := exists_facts_of_parts hlater s.exprs
    exact ⟨own, lists, hown, hlists, rfl⟩
  | expr e =>
    have hnothing : stmtsFacts path (scope ++ (Node.expr e).scopeName?.toList) [] = .ok {} := rfl
    obtain ⟨lists, hlists, hjoin⟩ := exists_facts_of_parts hnothing e.parts
    rw [List.map_nil, List.append_nil] at hlists
    obtain rfl := Except.ok.inj h
    exact ⟨{}, lists, rfl, hlists, by rw [← hjoin, FileFacts.append_empty]⟩

/-- What the nodes add to a part of the facts, by their addresses. -/
theorem listsEach_holdsAt {κ β : Type} {holds : List String → Node → κ → β → Prop}
    {part : FileFacts → List β} (hempty : part {} = [])
    (happend : ∀ a b : FileFacts, part (a ++ b) = part a ++ part b)
    (hown : ∀ scope n own, Node.ownFacts path scope n = .ok own →
      ListsEach (holds scope n) (part own))
    (n : Node) : ∀ scope found, n.facts path scope = .ok found →
      ListsEach (fun (key : List ℕ × κ) b => HoldsAt (holds · · key.2 b) scope n key.1)
        (part found) := by
  induction n using Node.induction_parts with
  | step n ih =>
    -- the names around a part are those around the node, and the node's own
    intro scope found h
    obtain ⟨own, lists, hfirst, hlists, rfl⟩ := exists_parts_of_facts h
    have hbelow : List.Forall₂ (fun m items => ListsEach (fun (key : List ℕ × κ) b =>
        HoldsAt (holds · · key.2 b) (scope ++ n.scopeName?.toList) m key.1) items) n.parts
        (lists.map part) := by
      rw [List.forall₂_map_right_iff]
      exact (forall₂_mem hlists).imp fun m r hr => ih m hr.1.1 _ r hr.2
    rw [happend, part_join part hempty happend, List.flatMap_def]
    refine ((hown scope n own hfirst).tree hbelow).congr fun ⟨address, k⟩ b => ?_
    cases address with
    | nil => exact (@holdsAt_nil (holds · · k b) scope n).symm
    | cons i rest => exact (@holdsAt_cons (holds · · k b) scope n i rest).symm

/-! ### Facts of calls -/

/-- The edge of a call, if what it calls has a dotted name. -/
def edge? (path caller : String) (call : CallSite) : Option CallEdge :=
  call.function.dottedName?.map fun callee => { caller, callee, file := path, line := call.line }

theorem calls_join_callFacts (path caller : String) (calls : List CallSite) :
    (FileFacts.join (calls.map (callFacts path caller))).calls =
      calls.filterMap (edge? path caller) := by
  induction calls with
  | nil => rfl
  | cons call rest ih =>
    have hfirst : (callFacts path caller call).calls = (edge? path caller call).toList := by
      rw [callFacts, edge?]
      cases call.function.dottedName? <;> rfl
    change (callFacts path caller call).calls ++ (FileFacts.join _).calls = _
    rw [ih, hfirst, List.filterMap_cons]
    cases edge? path caller call <;> rfl

theorem types_join_callFacts (path caller : String) (calls : List CallSite) :
    (FileFacts.join (calls.map (callFacts path caller))).types = [] := by
  induction calls with
  | nil => rfl
  | cons call rest ih =>
    have hfirst : (callFacts path caller call).types = [] := by
      rw [callFacts]
      cases call.function.dottedName? <;> rfl
    change (callFacts path caller call).types ++ (FileFacts.join _).types = _
    rw [ih, hfirst, List.append_nil]

/-! ### Types -/

/-- The record that a node declares. -/
def declared? (path : String) (scope : List String) : Node → Option (Result TypeDefinition)
  | .stmt (.class_ line name decorators bases keywords body) =>
    some (classDefinition path line name decorators bases keywords body)
  | .stmt s => if scope.isEmpty then (aliasDefinition? path s).map .ok else none
  | .expr _ => none

theorem declares_of_aliasDefinition {s : Stmt} {t : TypeDefinition}
    (h : aliasDefinition? path s = some t) : Declares path [] (.stmt s) (.ok t) := by
  rw [aliasDefinition?.eq_def] at h
  split at h
  next =>
    split at h
    next hname => exact Option.some.inj h ▸ .union hname
    next => cases h
  next =>
    split at h
    next hname => exact Option.some.inj h ▸ .typeAlias hname
    next => cases h
  next => cases h

theorem declares_of_declared {record : Result TypeDefinition}
    (h : declared? path scope n = some record) : Declares path scope n record := by
  rw [declared?.eq_def] at h
  split at h
  next => exact Option.some.inj h ▸ .class_
  next =>
    split at h
    next htop =>
      obtain ⟨t, ht, rfl⟩ := Option.map_eq_some_iff.1 h
      rw [List.isEmpty_iff.1 htop]
      exact declares_of_aliasDefinition ht
    next => cases h
  next => cases h

theorem declares_iff {record : Result TypeDefinition} :
    Declares path scope n record ↔ declared? path scope n = some record := by
  refine ⟨fun h => ?_, declares_of_declared⟩
  cases h with
  | class_ => rfl
  | union hname => simp [declared?, aliasDefinition?, hname]
  | typeAlias hname => simp [declared?, aliasDefinition?, hname]

theorem types_of_ownFacts (h : n.ownFacts path scope = .ok own) :
    own.types.map .ok = (declared? path scope n).toList := by
  have haliases : ∀ found : Option TypeDefinition,
      (if scope.isEmpty then found.toList else []).map (Except.ok : _ → Result TypeDefinition) =
        (if scope.isEmpty then found.map Except.ok else none).toList := by
    intro found
    split
    · cases found <;> rfl
    · rfl
  cases n with
  | expr e =>
    obtain rfl := Except.ok.inj h
    rfl
  | stmt s =>
    cases s with
    | class_ line name decorators bases keywords body =>
      obtain ⟨t, ht, h⟩ := bind_eq_ok_iff.1 h
      obtain rfl := pure_eq_ok_iff.1 h
      rw [declared?, ht]
      rfl
    | function isAsync name body =>
      obtain rfl := Except.ok.inj h
      rw [types_join_callFacts]
      have hnone := haliases none
      rwa [Option.toList_none, ite_self] at hnone
    | _ =>
      obtain rfl := Except.ok.inj h
      exact haliases _

theorem listsEach_types (h : n.ownFacts path scope = .ok own) :
    ListsEach (fun (_ : Unit) record => Declares path scope n record) (own.types.map .ok) := by
  rw [types_of_ownFacts h]
  exact (ListsEach.option () _).congr fun _ _ => (and_iff_right rfl).trans declares_iff.symm

/-! ### Calls -/

/-- The calls of a function's body, each once. -/
theorem listsEach_bodyCalls (body : List Stmt) :
    ListsEach (fun address call => bodyCallAt? body address = some call) (Stmt.callsAll body) := by
  have hparts : ∀ s ∈ body, ListsEach
      (fun (key : List ℕ × Unit) call => (Node.stmt s).callAt? key.1 = some call) s.calls :=
    fun s _ => listsEach_calls (.stmt s)
  -- the function itself is no call
  have hnone : ListsEach (fun (_ : Unit) (_ : CallSite) => False) [] := .nil fun _ _ h => h
  rw [Stmt.callsAll_eq, List.flatMap_def]
  refine (hnone.tree (forall₂_map_self hparts)).of_unit.congr fun address call => ?_
  cases address with
  | nil => exact iff_of_false id nofun
  | cons i rest => exact Option.bind_eq_some_iff.symm

theorem makesCall_function_iff {isAsync : Bool} {name : String} {body : List Stmt}
    {address : List ℕ} {edge : CallEdge} :
    MakesCall path scope (.stmt (.function isAsync name body)) address edge ↔
      ∃ call, bodyCallAt? body address = some call ∧
        edge? path (dotted (scope ++ [name])) call = some edge := by
  constructor
  · intro h
    cases h with
    | own hcall hcallee => exact ⟨_, hcall, by rw [edge?, hcallee]; rfl⟩
  · rintro ⟨call, hcall, hedge⟩
    obtain ⟨callee, hcallee, rfl⟩ := Option.map_eq_some_iff.1 hedge
    exact .own hcall hcallee

theorem listsEach_edges (h : n.ownFacts path scope = .ok own) :
    ListsEach (MakesCall path scope n) own.calls := by
  cases n with
  | expr e =>
    obtain rfl := Except.ok.inj h
    exact .nil nofun
  | stmt s =>
    cases s with
    | class_ line name decorators bases keywords body =>
      obtain ⟨t, -, h⟩ := bind_eq_ok_iff.1 h
      obtain rfl := pure_eq_ok_iff.1 h
      exact .nil nofun
    | function isAsync name body =>
      obtain rfl := Except.ok.inj h
      rw [calls_join_callFacts]
      exact ((listsEach_bodyCalls body).filterMap _).congr fun _ _ => makesCall_function_iff.symm
    | _ =>
      obtain rfl := Except.ok.inj h
      exact .nil nofun

end Facts

/-! ### One function for each call -/

section Once

variable {path : String} {body : List Stmt} {p q : List ℕ × List ℕ} {e f : CallEdge}

theorem follow_of_bodyCallAt {isAsync : Bool} {name : String} {address : List ℕ} {call : CallSite}
    (h : bodyCallAt? body address = some call) :
    ∃ inner x, (Node.stmt (.function isAsync name body)).follow address =
      some (.stmt (.function isAsync name body) :: inner, x) ∧
        ∀ m ∈ inner, m.opensScope = false := by
  cases address with
  | nil => cases h
  | cons i rest =>
    obtain ⟨s, hs, hcall⟩ := Option.bind_eq_some_iff.1 h
    obtain ⟨x, hreach, -⟩ := Option.bind_eq_some_iff.1 hcall
    obtain ⟨inner, hfollow, hinner⟩ := Node.follow_of_reach hreach
    have hpart : (Node.stmt (.function isAsync name body)).parts[i]? = some (.stmt s) := by
      rw [Node.parts, Stmt.exprs, Stmt.body, List.map_nil, List.nil_append, List.getElem?_map, hs]
      rfl
    exact ⟨inner, x, Node.follow_cons_eq_some_iff.2 ⟨_, inner, hpart, hfollow, rfl⟩, hinner⟩

/-- The function of an edge is the innermost scope around its call. -/
theorem IsEdge.innermost (h : IsEdge path body p e) :
    ∃ around function inner x,
      (moduleNode body).follow (p.1 ++ p.2) = some (around ++ function :: inner, x) ∧
        function.opensScope = true ∧ (∀ m ∈ inner, m.opensScope = false) ∧
          around.length = p.1.length := by
  obtain ⟨around, function, hfollow, hmakes⟩ := h
  cases hmakes with
  | own hcall _ =>
    obtain ⟨inner, x, hbelow, hinner⟩ := follow_of_bodyCallAt hcall
    exact ⟨around, _, inner, x, Node.follow_append hfollow hbelow, rfl, hinner,
      Node.length_of_follow hfollow⟩

theorem IsEdge.unique (hp : IsEdge path body p e) (hq : IsEdge path body q f)
    (hsame : p.1 ++ p.2 = q.1 ++ q.2) : p = q := by
  obtain ⟨around, g, inner, x, hfollow, hopens, hinner, hlength⟩ := hp.innermost
  obtain ⟨outer, k, later, y, hother, hscope, hlater, hdepth⟩ := hq.innermost
  -- both addresses lead to one call, below the same nodes
  rw [← hsame, hfollow] at hother
  have hnodes := (Prod.mk.inj (Option.some.inj hother)).1
  have haround := Node.innermost_unique hnodes hopens hscope hinner hlater
  have hlevel : p.1.length = q.1.length := by rw [← hlength, ← hdepth, haround]
  obtain ⟨hfirst, hsecond⟩ := List.append_inj hsame hlevel
  exact Prod.ext hfirst hsecond

end Once

/-! ### Modules -/

theorem attributed_of_stmtsFacts {path : String} {body : List Stmt} {found : FileFacts}
    (h : stmtsFacts path [] body = .ok found) : Attributed path body found where
  types := (listsEach_holdsAt rfl (fun _ _ => List.map_append) (fun _ _ _ => listsEach_types)
    (moduleNode body) [] found h).of_unit
  calls := listsEach_holdsAt rfl (fun _ _ => rfl) (fun _ _ _ => listsEach_edges)
    (moduleNode body) [] found h
  once _ _ _ _ := IsEdge.unique

/-- The facts of a module's text attribute each type and each call once. -/
theorem attributed_of_facts {content path : String} {found : FileFacts}
    (h : facts content path = .ok found) :
    ∃ body, module? content.toList = some body ∧ Attributed path body found := by
  rw [facts] at h
  split at h
  · cases h
  · split at h
    · cases h
    next body hbody => exact ⟨body, hbody, attributed_of_stmtsFacts h⟩

/-- A shop that sells: the call in the lambda belongs to no function, those in the inner function
belong to it alone. -/
def shopText : String :=
  "class Shop:\n def sell(self):\n  pay(lambda: never())\n  def later():\n   log.write(now())\n"

theorem attributed_of_facts_shop :
    ∃ found, facts shopText "shop.py" = .ok found ∧
      found.calls.map (fun e => (e.caller, e.callee)) =
        [("Shop.sell", "pay"), ("Shop.sell.later", "log.write"), ("Shop.sell.later", "now")] ∧
      ∃ body, module? shopText.toList = some body ∧ Attributed "shop.py" body found := by
  have hcalls : (facts shopText "shop.py").toOption.map
      (fun found => found.calls.map fun e => (e.caller, e.callee)) =
        some [("Shop.sell", "pay"), ("Shop.sell.later", "log.write"),
          ("Shop.sell.later", "now")] := by
    decide +kernel
  cases hfacts : facts shopText "shop.py" with
  | error fault =>
    rw [hfacts] at hcalls
    cases hcalls
  | ok found =>
    rw [hfacts] at hcalls
    exact ⟨found, rfl, Option.some.inj hcalls, attributed_of_facts hfacts⟩

end RepoAtlas.Source
