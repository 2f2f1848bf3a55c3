import RepoAtlas.Proofs.Topology.ProviderChoice

/-!
A path keeps the query behind it when a provider is looked for. No key is such a text, so only keys
for folders above the path can answer it; without the query the path's own key answers as well.
-/
namespace RepoAtlas.Topology

open RepoAtlas.Text

/-! ### Paths and keys -/

/-- The key is no glob, and no part of it is a query or a fragment. -/
def IsPlainKey (key : String) : Prop :=
  ∀ c ∈ key.toList, c ≠ '*' ∧ c ≠ '?' ∧ c ≠ '[' ∧ c ≠ '#'

/-- A path from the root, behind one slash, without query and fragment. -/
def IsPlainPath (path : String) : Prop :=
  path.toList.head? = some '/' ∧ path.toList[1]? ≠ some '/' ∧
    ∀ c ∈ path.toList, c ≠ '?' ∧ c ≠ '#'

/-- The key names a folder, and the path leads into it. -/
def IsInside (path key : String) : Prop :=
  (basePath key).head? = some '/' ∧ basePath key ++ ['/'] <+: path.toList

/-- The key is the path itself, with any number of slashes behind it. -/
def IsItself (path key : String) : Prop :=
  ∃ n, key.toList = path.toList ++ List.replicate n '/'

/-- Each provider stands under its own key. -/
def IsFiled (providers : OrderedMap String Provider) : Prop :=
  ∀ key p, providers.get? key = some p → p.key = key

theorem isFiled_providerIndex (services : List Service) : IsFiled (providerIndex services) := by
  intro key p h
  rw [providerIndex_eq, OrderedMap.get?_ofFirsts] at h
  exact (isFirstClaim_of_lookup h).1

/-- A text is its beginning and the characters that are taken from its end. -/
theorem exists_replicate (c : Char) (s : List Char) :
    ∃ n, s = dropEndWhile (· == c) s ++ List.replicate n c := by
  refine ⟨(s.reverse.takeWhile (· == c)).length, ?_⟩
  have hrun : s.reverse.takeWhile (· == c) =
      List.replicate (s.reverse.takeWhile (· == c)).length c :=
    List.eq_replicate_of_mem fun x hx => by simpa using List.mem_takeWhile_imp hx
  have hjoin := congrArg List.reverse
    (List.takeWhile_append_dropWhile (p := (· == c)) (l := s.reverse))
  rw [List.reverse_append, List.reverse_reverse, hrun, List.reverse_replicate] at hjoin
  exact hjoin.symm

theorem basePath_of_plain {key : String} (h : IsPlainKey key) :
    basePath key = dropEndWhile (· == '/') key.toList := by
  obtain ⟨n, hn⟩ := exists_replicate '*' key.toList
  have hnone : n = 0 := by
    by_contra hpos
    have hstar : '*' ∈ key.toList := by
      rw [hn]
      exact List.mem_append_right _ (List.mem_replicate.2 ⟨hpos, rfl⟩)
    exact (h '*' hstar).1 rfl
  rw [hnone, List.replicate_zero, List.append_nil] at hn
  rw [basePath, ← hn]

/-- A plain key is its path with slashes behind it. -/
theorem exists_slashes {key : String} (h : IsPlainKey key) :
    ∃ n, key.toList = basePath key ++ List.replicate n '/' := by
  rw [basePath_of_plain h]
  exact exists_replicate '/' key.toList

theorem mem_of_mem_basePath {key : String} (h : IsPlainKey key) {c : Char}
    (hc : c ∈ basePath key) : c ∈ key.toList := by
  obtain ⟨n, hn⟩ := exists_slashes h
  rw [hn]
  exact List.mem_append_left _ hc

/-- What a text without `c` begins ends before the first `c` of a longer one. -/
theorem prefix_append_cons_iff {c : Char} {s front back : List Char} (hc : c ∉ s) :
    s <+: front ++ c :: back ↔ s <+: front := by
  refine ⟨fun h => ?_, fun h => h.trans (List.prefix_append _ _)⟩
  have hfront : front ++ [c] <+: front ++ c :: back := ⟨back, by simp⟩
  rcases Nat.lt_or_ge front.length s.length with hlt | hge
  · have hlong : front ++ [c] <+: s :=
      List.prefix_of_prefix_length_le hfront h (by rwa [List.length_append])
    exact absurd (hlong.subset (by simp)) hc
  · exact List.prefix_of_prefix_length_le h (List.prefix_append _ _) hge

/-! ### The longest key -/

/-- Of two longest keys with a property both are the first such key. -/
theorem IsLongest.unique {keys : List String} {p : String → Prop} {a b : String}
    (ha : IsLongest keys p a) (hb : IsLongest keys p b) : a = b := by
  obtain ⟨hpa, front, back, rfl, hfront, hback⟩ := ha
  obtain ⟨hpb, front', back', hsplit, hfront', hback'⟩ := hb
  rcases List.append_eq_append_iff.1 hsplit with ⟨more, rfl, hrest⟩ | ⟨more, rfl, hrest⟩
  · cases more with
    | nil => exact (List.cons.inj hrest).1
    | cons x more =>
      obtain ⟨rfl, rfl⟩ := List.cons.inj hrest
      have hshort := hfront' a (by simp) hpa
      have hlong := hback b (by simp) hpb
      omega
  · cases more with
    | nil => exact (List.cons.inj hrest).1.symm
    | cons x more =>
      obtain ⟨rfl, rfl⟩ := List.cons.inj hrest
      have hshort := hfront b (by simp) hpb
      have hlong := hback' a (by simp) hpa
      omega

/-! ### Targets that are paths -/

/-- A path as a target, with a query or without. -/
def pathTarget (path : String) : Target := { text := path, path }

theorem parse_path {path : String} (h : path.toList.head? = some '/') :
    Target.parse path = .ok (pathTarget path) := by
  rw [Target.parse]
  dsimp only
  rw [if_pos h]
  rfl

theorem matchProvider_path {providers : OrderedMap String Provider} {path : String}
    (h : path.toList.head? = some '/') : matchProvider providers path =
      .ok ((matchingKey? providers.keys (pathTarget path)).bind providers.get?) := by
  rw [matchProvider, parse_path h]
  rfl

theorem isForm_path_iff {path key : String} (h : path ≠ "") :
    (pathTarget path).IsForm key ↔ key = path := by
  have hempty : "" ++ path = path := String.empty_append
  simp only [Target.IsForm, Target.forms, pathTarget, hempty, List.mem_cons, List.not_mem_nil,
    or_false]
  constructor
  · rintro ⟨hkey, rfl | rfl | rfl | rfl⟩
    · rfl
    · rfl
    · rfl
    · exact absurd rfl hkey
  · rintro rfl
    exact ⟨h, Or.inl rfl⟩

section Plain

variable {keys : List String} {path : String}

theorem ne_empty_of_head? (h : path.toList.head? = some '/') : path ≠ "" := by
  rintro rfl
  cases h

theorem not_isGlobbed (hkeys : ∀ k ∈ keys, IsPlainKey k) (t : Target) :
    ∀ k ∈ keys, ¬ t.IsGlobbed k := by
  rintro k hk ⟨⟨c, hc, hmark⟩, -⟩
  obtain ⟨hstar, hquestion, hbracket, -⟩ := hkeys k hk c hc
  rcases hmark with rfl | rfl | rfl
  · exact hstar rfl
  · exact hquestion rfl
  · exact hbracket rfl

/-- Plain keys answer a path by the path itself, or else by the longest key at or above it. -/
theorem matchingKey?_path (hkeys : ∀ k ∈ keys, IsPlainKey k) (hpath : path.toList.head? = some '/')
    {key : String} (h : matchingKey? keys (pathTarget path) = some key) :
    key = path ∨ path ∉ keys ∧ IsLongest keys (pathTarget path).IsUnder key := by
  have hnonempty := ne_empty_of_head? hpath
  obtain ⟨hmem, hchosen⟩ := isChosen_of_matchingKey? h
  cases hchosen with
  | form hfirst =>
    obtain ⟨earlier, later, hsplit, hkey, -⟩ := hfirst
    have hform : key ∈ (pathTarget path).forms := by
      rw [hsplit]
      exact List.mem_append_right _ List.mem_cons_self
    exact Or.inl ((isForm_path_iff hnonempty).1 ⟨hkey, hform⟩)
  | glob _ hglob => exact absurd hglob.1 (not_isGlobbed hkeys _ key hmem)
  | label _ _ _ hlabel => exact absurd rfl hlabel.1
  | path hforms _ _ hunder =>
    refine Or.inr ⟨fun hown => ?_, hunder⟩
    exact hforms path hown ((isForm_path_iff hnonempty).2 rfl)

theorem matchingKey?_path_eq_none_iff (hkeys : ∀ k ∈ keys, IsPlainKey k)
    (hpath : path.toList.head? = some '/') : matchingKey? keys (pathTarget path) = none ↔
      path ∉ keys ∧ ∀ k ∈ keys, ¬ (pathTarget path).IsUnder k := by
  rw [matchingKey?_eq_none_iff]
  constructor
  · intro h
    refine ⟨fun hown => ?_, fun k hk hunder => h k hk (Or.inr (Or.inr (Or.inr hunder)))⟩
    exact h path hown (Or.inl ((isForm_path_iff (ne_empty_of_head? hpath)).2 rfl))
  · rintro ⟨hown, hunder⟩ k hk (hform | hglob | hlabel | hbelow)
    · rw [isForm_path_iff (ne_empty_of_head? hpath)] at hform
      exact hown (hform ▸ hk)
    · exact not_isGlobbed hkeys _ k hk hglob
    · exact hlabel.1 rfl
    · exact hunder k hk hbelow

end Plain

/-! ### Queries -/

section Query

variable {keys : List String} {path : String} (query : String)

theorem toList_query : (path ++ "?" ++ query).toList = path.toList ++ '?' :: query.toList := by
  rw [String.toList_append, String.toList_append, List.append_assoc]
  rfl

theorem head?_query (h : path.toList.head? = some '/') :
    (path ++ "?" ++ query).toList.head? = some '/' := by
  rw [toList_query, List.head?_append, h]
  rfl

theorem question_notMem {key : String} (h : IsPlainKey key) : '?' ∉ key.toList :=
  fun hc => (h '?' hc).2.1 rfl

/-- Behind a query only the folders above a path are left. -/
theorem isUnder_query_iff (hpath : path.toList.head? = some '/') {key : String}
    (hkey : IsPlainKey key) :
    (pathTarget (path ++ "?" ++ query)).IsUnder key ↔ IsInside path key := by
  have hbase : '?' ∉ basePath key := fun hc => question_notMem hkey (mem_of_mem_basePath hkey hc)
  have hfolder : '?' ∉ basePath key ++ ['/'] := by
    simpa using hbase
  have hother : (path ++ "?" ++ query).toList ≠ basePath key := by
    intro heq
    rw [toList_query] at heq
    exact hbase (heq ▸ List.mem_append_right _ List.mem_cons_self)
  have hnonempty := ne_empty_of_head? (head?_query query hpath)
  rw [Target.IsUnder, pathTarget, IsInside]
  dsimp only
  rw [and_iff_right hnonempty, or_iff_right hother, toList_query, prefix_append_cons_iff hfolder]

theorem query_notMem (hkeys : ∀ k ∈ keys, IsPlainKey k) : path ++ "?" ++ query ∉ keys := by
  intro hmem
  refine question_notMem (hkeys _ hmem) ?_
  rw [toList_query]
  exact List.mem_append_right _ List.mem_cons_self

theorem isLongest_of_query (hkeys : ∀ k ∈ keys, IsPlainKey k)
    (hpath : path.toList.head? = some '/') {key : String}
    (h : matchingKey? keys (pathTarget (path ++ "?" ++ query)) = some key) :
    IsLongest keys (IsInside path) key := by
  rcases matchingKey?_path hkeys (head?_query query hpath) h with rfl | ⟨-, hlongest⟩
  · exact absurd (isChosen_of_matchingKey? h).1 (query_notMem query hkeys)
  · exact hlongest.congr fun k hk => isUnder_query_iff query hpath (hkeys k hk)

theorem matchingKey?_query_eq_none_iff (hkeys : ∀ k ∈ keys, IsPlainKey k)
    (hpath : path.toList.head? = some '/') :
    matchingKey? keys (pathTarget (path ++ "?" ++ query)) = none ↔
      ∀ k ∈ keys, ¬ IsInside path k := by
  rw [matchingKey?_path_eq_none_iff hkeys (head?_query query hpath),
    and_iff_right (query_notMem query hkeys)]
  exact forall₂_congr fun k hk => not_congr (isUnder_query_iff query hpath (hkeys k hk))

/-- The query does not matter to the key exactly if the path's own key leads into a folder. -/
theorem matchingKey?_query_eq_iff (hkeys : ∀ k ∈ keys, IsPlainKey k)
    (hpath : path.toList.head? = some '/') :
    matchingKey? keys (pathTarget (path ++ "?" ++ query)) = matchingKey? keys (pathTarget path) ↔
      ∀ key, matchingKey? keys (pathTarget path) = some key →
        IsLongest keys (IsInside path) key := by
  constructor
  · intro heq key hkey
    exact isLongest_of_query query hkeys hpath (heq.trans hkey)
  · intro h
    cases hplain : matchingKey? keys (pathTarget path) with
    | none =>
      rw [matchingKey?_query_eq_none_iff query hkeys hpath]
      rintro k hk ⟨hhead, hinside⟩
      refine ((matchingKey?_path_eq_none_iff hkeys hpath).1 hplain).2 k hk ?_
      exact ⟨ne_empty_of_head? hpath, hhead, Or.inr hinside⟩
    | some key =>
      have hlongest := h key hplain
      cases hquery : matchingKey? keys (pathTarget (path ++ "?" ++ query)) with
      | none =>
        have hnone := (matchingKey?_query_eq_none_iff query hkeys hpath).1 hquery
        exact absurd hlongest.1 (hnone key (isChosen_of_matchingKey? hplain).1)
      | some other =>
        rw [(isLongest_of_query query hkeys hpath hquery).unique hlongest]

/-- Without a key for the path itself the query does not matter. -/
theorem isLongest_of_not_isItself (hkeys : ∀ k ∈ keys, IsPlainKey k)
    (hpath : path.toList.head? = some '/') (hself : ∀ k ∈ keys, ¬ IsItself path k) {key : String}
    (h : matchingKey? keys (pathTarget path) = some key) :
    IsLongest keys (IsInside path) key := by
  rcases matchingKey?_path hkeys hpath h with rfl | ⟨-, hlongest⟩
  · exact absurd ⟨0, by simp⟩ (hself key (isChosen_of_matchingKey? h).1)
  refine hlongest.congr fun k hk => ?_
  have hother : path.toList ≠ basePath k := by
    intro heq
    obtain ⟨n, hn⟩ := exists_slashes (hkeys k hk)
    exact hself k hk ⟨n, heq ▸ hn⟩
  rw [Target.IsUnder, pathTarget, IsInside]
  dsimp only
  rw [and_iff_right (ne_empty_of_head? hpath), or_iff_right hother]

/-- A path that ends in no slash does not lead into itself. -/
theorem not_isInside_self (hkey : IsPlainKey path) (hend : path.toList.getLast? ≠ some '/') :
    ¬ IsInside path path := by
  rintro ⟨-, hinside⟩
  obtain ⟨n, hn⟩ := exists_slashes hkey
  cases n with
  | zero =>
    rw [List.replicate_zero, List.append_nil] at hn
    rw [← hn] at hinside
    have hlength := hinside.length_le
    rw [List.length_append, List.length_singleton] at hlength
    omega
  | succ n =>
    refine hend ?_
    rw [hn, List.replicate_succ', ← List.append_assoc, List.getLast?_append]
    rfl

end Query

/-- The answer is filed under the key that was chosen. -/
theorem map_key_answer {providers : OrderedMap String Provider} (hfiled : IsFiled providers)
    (t : Target) : ((matchingKey? providers.keys t).bind providers.get?).map Provider.key =
      matchingKey? providers.keys t := by
  cases hkey : matchingKey? providers.keys t with
  | none => rfl
  | some key =>
    have hmem := (isChosen_of_matchingKey? hkey).1
    rw [← OrderedMap.contains_iff, OrderedMap.contains, Option.isSome_iff_exists] at hmem
    obtain ⟨p, hp⟩ := hmem
    rw [Option.bind_some, hp, Option.map_some, hfiled key p hp]

/-- With a query behind it, a path is answered by the longest key for a folder above it. So the
query does not matter exactly if nothing answers the path alone, or this key does: always if no
key is the path itself, and never if one is and ends in no slash. -/
theorem matchProvider_query {providers : OrderedMap String Provider} (hfiled : IsFiled providers)
    (hkeys : ∀ k ∈ providers.keys, IsPlainKey k) {path : String}
    (hpath : path.toList.head? = some '/') (query : String) :
    (∃ answer, matchProvider providers (path ++ "?" ++ query) = .ok answer ∧
      (answer = none ↔ ∀ k ∈ providers.keys, ¬ IsInside path k) ∧
      ∀ p, answer = some p → IsLongest providers.keys (IsInside path) p.key) ∧
    (matchProvider providers (path ++ "?" ++ query) = matchProvider providers path ↔
      ∀ p, matchProvider providers path = .ok (some p) →
        IsLongest providers.keys (IsInside path) p.key) ∧
    ((∀ k ∈ providers.keys, ¬ IsItself path k) →
      matchProvider providers (path ++ "?" ++ query) = matchProvider providers path) ∧
    (path ∈ providers.keys → path.toList.getLast? ≠ some '/' →
      matchProvider providers (path ++ "?" ++ query) ≠ matchProvider providers path) := by
  have hquery := map_key_answer hfiled (pathTarget (path ++ "?" ++ query))
  have hplain := map_key_answer hfiled (pathTarget path)
  have hsame : matchProvider providers (path ++ "?" ++ query) = matchProvider providers path ↔
      matchingKey? providers.keys (pathTarget (path ++ "?" ++ query)) =
        matchingKey? providers.keys (pathTarget path) := by
    rw [matchProvider_path (head?_query query hpath), matchProvider_path hpath, Except.ok.injEq]
    refine ⟨fun h => ?_, fun h => by rw [h]⟩
    rw [← hquery, ← hplain, h]
  rw [hsame, matchingKey?_query_eq_iff query hkeys hpath]
  refine ⟨⟨_, matchProvider_path (head?_query query hpath), ?_, fun p hp => ?_⟩, ?_, ?_, ?_⟩
  · rw [← matchingKey?_query_eq_none_iff query hkeys hpath,
      ← Option.map_eq_none_iff (f := Provider.key), hquery]
  · rw [hp] at hquery
    exact isLongest_of_query query hkeys hpath hquery.symm
  · rw [matchProvider_path hpath]
    constructor
    · intro h p hp
      rw [Except.ok.inj hp] at hplain
      exact h p.key hplain.symm
    · intro h key hkey
      rw [hkey, Option.map_eq_some_iff] at hplain
      obtain ⟨p, hp, rfl⟩ := hplain
      exact h p (congrArg Except.ok (hkey ▸ hp))
  · exact fun hself key hkey => isLongest_of_not_isItself hkeys hpath hself hkey
  · intro hown hend h
    rw [hsame, matchingKey?_query_eq_iff query hkeys hpath] at h
    cases hkey : matchingKey? providers.keys (pathTarget path) with
    | none => exact ((matchingKey?_path_eq_none_iff hkeys hpath).1 hkey).1 hown
    | some key =>
      rcases matchingKey?_path hkeys hpath hkey with rfl | ⟨hnew, -⟩
      · exact not_isInside_self (hkeys key hown) hend (h key hkey).1
      · exact hnew hown

/-- An edge service that answers for users. -/
def usersRoute : List Service :=
  [{ name := "api", layer := .edge, owner := "accounts", routes := ["/users"] }]

theorem isPlainKey_usersRoute : ∀ k ∈ (providerIndex usersRoute).keys, IsPlainKey k := by
  have hplain : (providerIndex usersRoute).keys.all (fun key => key.toList.all fun c =>
      c != '*' && c != '?' && c != '[' && c != '#') = true := by
    decide +kernel
  simpa only [IsPlainKey, List.all_eq_true, Bool.and_eq_true, bne_iff_ne, and_assoc] using hplain

/-- Users are found without a query, but not by their number. -/
theorem matchProvider_users_by_number : IsPlainPath "/users" ∧
    (∀ k ∈ (providerIndex usersRoute).keys, IsPlainKey k) ∧
    matchProvider (providerIndex usersRoute) "/users" =
      .ok (some ⟨"/users", "accounts", "api", .edge⟩) ∧
    matchProvider (providerIndex usersRoute) ("/users" ++ "?" ++ "id=1") = .ok none := by
  have hpath : "/users".toList.head? = some '/' := by decide +kernel
  have hnone : matchingKey? (providerIndex usersRoute).keys
      (pathTarget ("/users" ++ "?" ++ "id=1")) = none := by
    have hkeys : (providerIndex usersRoute).keys = ["/users", "api"] := by decide +kernel
    rw [matchingKey?_query_eq_none_iff "id=1" isPlainKey_usersRoute hpath, hkeys]
    unfold IsInside
    decide +kernel
  refine ⟨?_, isPlainKey_usersRoute, by decide +kernel, ?_⟩
  · have hplain : "/users".toList.all (fun c => c != '?' && c != '#') = true := by decide +kernel
    simp only [List.all_eq_true, Bool.and_eq_true, bne_iff_ne] at hplain
    exact ⟨hpath, by decide +kernel, hplain⟩
  · rw [matchProvider_path (head?_query "id=1" hpath), hnone]
    rfl

/-- Below the route of the users a query does not matter. -/
theorem matchProvider_query_one_user : IsFiled (providerIndex usersRoute) ∧
    (∀ k ∈ (providerIndex usersRoute).keys, IsPlainKey k) ∧
    "/users/7".toList.head? = some '/' ∧
    matchProvider (providerIndex usersRoute) ("/users/7" ++ "?" ++ "full=1") =
      matchProvider (providerIndex usersRoute) "/users/7" := by
  have hpath : "/users/7".toList.head? = some '/' := by decide +kernel
  have hkeys : (providerIndex usersRoute).keys = ["/users", "api"] := by decide +kernel
  refine ⟨isFiled_providerIndex _, isPlainKey_usersRoute, hpath, ?_⟩
  obtain ⟨-, -, halways, -⟩ := matchProvider_query (isFiled_providerIndex usersRoute)
    isPlainKey_usersRoute hpath "full=1"
  refine halways ?_
  rw [hkeys]
  rintro k hk ⟨n, hn⟩
  have hlength := congrArg List.length hn
  rw [List.length_append, List.length_replicate] at hlength
  have hshort : k.toList.length < "/users/7".toList.length := by
    rcases List.mem_pair.1 hk with rfl | rfl <;> decide +kernel
  omega

end RepoAtlas.Topology
