import RepoAtlas.Proofs.Doc.JsonValue
import RepoAtlas.Proofs.Json.NumberText
import RepoAtlas.Proofs.Json.StringText
import RepoAtlas.Proofs.Outcome

/-!
A JSON value reads back from its text as the value it is: same members in the same order, same
numbers, same characters.
-/
namespace RepoAtlas.Json

open RepoAtlas.Text RepoAtlas.Numeral

/-! ### The characters of numbers -/

theorem isPrinted_of_isAsciiDigit {c : Char} (h : isAsciiDigit c = true) : isPrinted c = true := by
  simp only [isAsciiDigit, Bool.and_eq_true, decide_eq_true_eq, Char.le_def] at h
  obtain ⟨hlow, hhigh⟩ := h
  have h48 : 48 ≤ c.toNat := hlow
  have h57 : c.toNat ≤ 57 := hhigh
  simp only [isPrinted, Bool.and_eq_true, decide_eq_true_eq]
  omega

def AllPrinted (s : List Char) : Prop := ∀ c ∈ s, isPrinted c = true

theorem allPrinted_of_all {s : List Char} (h : s.all isPrinted = true) : AllPrinted s :=
  List.all_eq_true.1 h

theorem AllPrinted.append {s t : List Char} (hs : AllPrinted s) (ht : AllPrinted t) :
    AllPrinted (s ++ t) := by
  intro c hc
  rcases List.mem_append.1 hc with h | h
  · exact hs c h
  · exact ht c h

theorem AllPrinted.cons {c : Char} {s : List Char} (hc : isPrinted c = true) (hs : AllPrinted s) :
    AllPrinted (c :: s) := by
  intro d hd
  rcases List.mem_cons.1 hd with rfl | h
  · exact hc
  · exact hs d h

theorem allPrinted_of_digits {s : List Char} (h : AllDigits s) : AllPrinted s :=
  fun c hc => isPrinted_of_isAsciiDigit (h c hc)

theorem allPrinted_signChars (negative : Bool) : AllPrinted (signChars negative) := by
  cases negative with
  | false => exact fun c hc => absurd hc List.not_mem_nil
  | true => exact fun c hc => by rw [List.mem_singleton.1 hc]; rfl

theorem allPrinted_toString_int (i : Int) : AllPrinted (toString i).toList := by
  rw [toList_toString_int]
  exact (allPrinted_signChars _).append (allPrinted_of_digits (allDigits_toDigits _))

theorem allPrinted_exponentText (e : Int) : AllPrinted (numberStyle.exponentText e).toList := by
  obtain ⟨ds, hds, -, -, heq⟩ := exponentText_toList e
  rw [heq]
  refine AllPrinted.cons ?_ (allPrinted_of_digits hds)
  split <;> rfl

theorem allPrinted_layout {ds : List Char} (hds : AllDigits ds) (point : Int) :
    AllPrinted (numberStyle.layout ds point).toList := by
  have hexp := allPrinted_exponentText (point - 1)
  unfold DecimalStyle.layout
  split
  · cases ds with
    | nil =>
      show AllPrinted "0".toList
      exact allPrinted_of_all rfl
    | cons d tail =>
      have hd := isPrinted_of_isAsciiDigit (hds d List.mem_cons_self)
      have htail : AllPrinted tail := fun c hc =>
        isPrinted_of_isAsciiDigit (hds c (List.mem_cons_of_mem d hc))
      have he : AllPrinted ('e' :: (numberStyle.exponentText (point - 1)).toList) :=
        AllPrinted.cons rfl hexp
      cases tail with
      | nil => simpa using AllPrinted.cons hd he
      | cons c more => simpa using AllPrinted.cons hd (AllPrinted.cons rfl (htail.append he))
  split
  · simpa using AllPrinted.cons rfl (AllPrinted.cons rfl
      (allPrinted_of_digits ((allDigits_replicate_zero point.natAbs).append hds)))
  split
  · have hend : AllPrinted ['.', '0'] :=
      AllPrinted.cons rfl (AllPrinted.cons rfl (by simp [AllPrinted]))
    simpa [numberStyle] using
      (allPrinted_of_digits
        (hds.append (allDigits_replicate_zero (point.toNat - ds.length)))).append hend
  · have htake : AllDigits (ds.take point.toNat) := fun c hc => hds c (List.mem_of_mem_take hc)
    have hdrop : AllDigits (ds.drop point.toNat) := fun c hc => hds c (List.mem_of_mem_drop hc)
    simpa using (allPrinted_of_digits htake).append
      (AllPrinted.cons rfl (allPrinted_of_digits hdrop))

theorem allPrinted_render (x : Binary64) : AllPrinted (numberStyle.render x).toList := by
  cases x with
  | nan => exact allPrinted_of_all rfl
  | infinite negative => cases negative <;> exact allPrinted_of_all rfl
  | finite negative m e =>
    have hsign : AllPrinted (if negative then "-" else "").toList := by
      cases negative <;> exact allPrinted_of_all rfl
    unfold DecimalStyle.render
    dsimp only
    split
    · have hend : AllPrinted ("0" ++ ".0").toList := allPrinted_of_all rfl
      simpa [numberStyle] using hsign.append hend
    · have hdigits : AllDigits (DecimalStyle.dropZeros
          (Nat.toDigits 10 (Binary64.shortestDigits m e).1)) := by
        obtain ⟨k, hk⟩ := dropZeros_append (Nat.toDigits 10 (Binary64.shortestDigits m e).1)
        intro c hc
        have hall := allDigits_toDigits (Binary64.shortestDigits m e).1
        rw [hk] at hall
        exact hall c (List.mem_append_left _ hc)
      rw [String.toList_append, toList_toString]
      exact hsign.append (allPrinted_layout hdigits _)

/-! ### Blanks -/

theorem skipBlanks_newline (depth : ℕ) (s : List Char) :
    skipBlanks ((newline depth).toList ++ s) = skipBlanks s := by
  have hblank : ∀ n, skipBlanks (List.replicate n ' ' ++ s) = skipBlanks s := by
    intro n
    induction n with
    | zero => rfl
    | succ n ih =>
      rw [List.replicate_succ, List.cons_append, skipBlanks,
        List.dropWhile_cons_of_pos (by decide)]
      exact ih
  rw [newline, String.toList_ofList, List.cons_append, skipBlanks,
    List.dropWhile_cons_of_pos (by decide)]
  exact hblank _

theorem skipBlanks_cons {c : Char} (h : isJsonBlank c = false) (s : List Char) :
    skipBlanks (c :: s) = c :: s := by
  rw [skipBlanks, List.dropWhile_cons_of_neg (by simp [h])]

theorem endsValue_newline (depth : ℕ) (s : List Char) :
    EndsValue ((newline depth).toList ++ s) := by
  rw [newline, String.toList_ofList, List.cons_append]
  exact EndsValue.line _

theorem printed_newline {depth : ℕ} {c : Char} (h : c ∈ (newline depth).toList) :
    c = '\n' ∨ isPrinted c = true := by
  rw [newline, String.toList_ofList, List.mem_cons] at h
  rcases h with rfl | h
  · exact Or.inl rfl
  · rw [List.eq_of_mem_replicate h]
    exact Or.inr rfl

theorem length_newline (depth : ℕ) : 0 < (newline depth).toList.length := by
  simp [newline]

/-! ### What it means to be read back -/

/-- The text is that of one value, wherever it stands. -/
structure Reads (text : String) (d : Doc) : Prop where
  printed : ∀ c ∈ text.toList, c = '\n' ∨ isPrinted c = true
  head : ∃ c tail, text.toList = c :: tail ∧ isJsonBlank c = false ∧ c ≠ ']' ∧ c ≠ '}'
  read : ∀ fuel rest, text.toList.length < fuel → EndsValue rest →
    value? fuel (text.toList ++ rest) = some (d, rest)

/-- The same for a member of an object. -/
def ReadsMember (text : String) (m : String × Doc) : Prop :=
  ∃ value, text = encodeText m.1 ++ ": " ++ value ∧ Reads value m.2

section Joined

variable {gap : ℕ}

/-- Texts one below the other. -/
def stacked (gap : ℕ) (parts : List String) : List Char :=
  (String.intercalate ("," ++ newline gap) parts).toList

theorem stacked_singleton (part : String) : stacked gap [part] = part.toList := by
  simp [stacked]

theorem stacked_cons_cons (part next : String) (parts : List String) :
    stacked gap (part :: next :: parts) =
      part.toList ++ ',' :: ((newline gap).toList ++ stacked gap (next :: parts)) := by
  simp [stacked, String.intercalate_cons_cons]

theorem stacked_head (gap : ℕ) {part : String} {c : Char} {tail : List Char}
    (h : part.toList = c :: tail) (parts : List String) :
    ∃ more, stacked gap (part :: parts) = c :: more := by
  cases parts with
  | nil => exact ⟨tail, by rw [stacked_singleton, h]⟩
  | cons next parts => exact ⟨_, by rw [stacked_cons_cons, h, List.cons_append]⟩

theorem skipBlanks_stacked (gap : ℕ) {part : String} {c : Char} {tail : List Char}
    (h : part.toList = c :: tail) (hc : isJsonBlank c = false) (parts : List String)
    (s : List Char) :
    skipBlanks (stacked gap (part :: parts) ++ s) = stacked gap (part :: parts) ++ s := by
  obtain ⟨more, hmore⟩ := stacked_head gap h parts
  rw [hmore, List.cons_append, skipBlanks_cons hc]

/-- The items of a list are read one after the other. -/
theorem items?_stacked {parts : List String} {ds : List Doc} (h : List.Forall₂ Reads parts ds) :
    ∀ (fuel depth : ℕ) (s rest : List Char), parts ≠ [] →
      (stacked gap parts).length + 1 < fuel →
      skipBlanks s = stacked gap parts ++ ((newline depth).toList ++ ']' :: rest) →
      items? fuel s = some (ds, rest) := by
  induction h with
  | nil =>
    intro _ _ _ _ hne
    exact absurd rfl hne
  | @cons part d parts ds hpart htail ih =>
    intro fuel depth s rest _ hfuel hs
    obtain ⟨fuel, rfl⟩ : ∃ n, fuel = n + 1 := ⟨fuel - 1, by omega⟩
    cases htail with
    | nil =>
      rw [stacked_singleton] at hfuel hs
      rw [items?, hs, hpart.read fuel _ (by omega) (endsValue_newline depth _)]
      simp [skipBlanks_newline, skipBlanks_cons (show isJsonBlank ']' = false by decide)]
    | @cons next d' parts ds' hnext htail =>
      rw [stacked_cons_cons] at hfuel hs
      simp only [List.length_append, List.length_cons] at hfuel
      obtain ⟨c, tail, hhead, hc, -⟩ := hnext.head
      have hrest := ih fuel depth ((newline gap).toList ++ (stacked gap (next :: parts) ++
          ((newline depth).toList ++ ']' :: rest))) rest (by simp) (by omega) (by
            rw [skipBlanks_newline]
            exact skipBlanks_stacked gap hhead hc parts _)
      rw [items?, hs, List.append_assoc, List.cons_append,
        hpart.read fuel _ (by omega) (EndsValue.comma _)]
      simp [skipBlanks_cons (show isJsonBlank ',' = false by decide), hrest]

theorem ReadsMember.toList {text : String} {m : String × Doc} (h : ReadsMember text m) :
    ∃ value, Reads value m.2 ∧ text.toList =
      '"' :: (m.1.toList.flatMap escapeChar ++ '"' :: ':' :: ' ' :: value.toList) := by
  obtain ⟨value, rfl, hvalue⟩ := h
  exact ⟨value, hvalue, by simp [encodeText]⟩

/-- Reading a member leads to what follows its value. -/
theorem members?_succ {part : String} {m : String × Doc} (h : ReadsMember part m) {fuel : ℕ}
    {s rest : List Char} (hfuel : part.toList.length < fuel) (hrest : EndsValue rest)
    (hs : skipBlanks s = part.toList ++ rest) :
    members? (fuel + 1) s = match skipBlanks rest with
      | ',' :: more => (members? fuel more).map (fun (tail, after) => (m :: tail, after))
      | '}' :: more => some ([m], more)
      | _ => none := by
  obtain ⟨value, hvalue, heq⟩ := h.toList
  obtain ⟨c, tail, hhead, hc, -⟩ := hvalue.head
  have hlen : value.toList.length < fuel := by
    rw [heq] at hfuel
    simp only [List.length_cons, List.length_append] at hfuel
    omega
  have hcolon : skipBlanks (':' :: ' ' :: (value.toList ++ rest)) =
      ':' :: ' ' :: (value.toList ++ rest) := skipBlanks_cons (by decide) _
  have hblank : skipBlanks (' ' :: (value.toList ++ rest)) = value.toList ++ rest := by
    rw [skipBlanks, List.dropWhile_cons_of_pos (by decide), hhead, List.cons_append]
    exact skipBlanks_cons hc _
  rw [heq, List.cons_append, List.append_assoc, List.cons_append, List.cons_append,
    List.cons_append] at hs
  rw [members?, hs]
  simp only [Option.bind_eq_bind, Option.bind_some, string?_escapes, hcolon, hblank,
    hvalue.read fuel rest hlen hrest]
  simp only [Option.map_eq_bind]
  rfl

/-- So are the members of an object. -/
theorem members?_stacked {parts : List String} {ms : List (String × Doc)}
    (h : List.Forall₂ ReadsMember parts ms) :
    ∀ (fuel depth : ℕ) (s rest : List Char), parts ≠ [] →
      (stacked gap parts).length + 1 < fuel →
      skipBlanks s = stacked gap parts ++ ((newline depth).toList ++ '}' :: rest) →
      members? fuel s = some (ms, rest) := by
  induction h with
  | nil =>
    intro _ _ _ _ hne
    exact absurd rfl hne
  | @cons part m parts ms hpart htail ih =>
    intro fuel depth s rest _ hfuel hs
    obtain ⟨fuel, rfl⟩ : ∃ n, fuel = n + 1 := ⟨fuel - 1, by omega⟩
    cases htail with
    | nil =>
      rw [stacked_singleton] at hfuel hs
      rw [members?_succ hpart (by omega) (endsValue_newline depth _) hs, skipBlanks_newline,
        skipBlanks_cons (by decide)]
      simp
    | @cons next m' parts ms' hnext htail =>
      rw [stacked_cons_cons] at hfuel hs
      simp only [List.length_append, List.length_cons] at hfuel
      obtain ⟨value, -, hhead⟩ := hnext.toList
      have hrest := ih fuel depth ((newline gap).toList ++ (stacked gap (next :: parts) ++
          ((newline depth).toList ++ '}' :: rest))) rest (by simp) (by omega) (by
            rw [skipBlanks_newline]
            exact skipBlanks_stacked gap hhead (by decide) parts _)
      rw [List.append_assoc, List.cons_append] at hs
      rw [members?_succ hpart (by omega) (EndsValue.comma _) hs, skipBlanks_cons (by decide),
        List.append_assoc]
      simp [hrest]

/-- The characters of texts one below the other. -/
theorem printed_stacked {parts : List String}
    (h : ∀ part ∈ parts, ∀ c ∈ part.toList, c = '\n' ∨ isPrinted c = true) :
    ∀ c ∈ stacked gap parts, c = '\n' ∨ isPrinted c = true := by
  induction parts with
  | nil => simp [stacked]
  | cons part parts ih =>
    have hpart := h part List.mem_cons_self
    cases parts with
    | nil =>
      rw [stacked_singleton]
      exact hpart
    | cons next parts =>
      have hrest := ih (fun p hp => h p (List.mem_cons_of_mem part hp))
      intro c hc
      rw [stacked_cons_cons, List.mem_append, List.mem_cons, List.mem_append] at hc
      rcases hc with hc | rfl | hc | hc
      · exact hpart c hc
      · exact Or.inr rfl
      · exact printed_newline hc
      · exact hrest c hc

end Joined

/-! ### Values -/

theorem isJsonBlank_of_isAsciiDigit {c : Char} (h : isAsciiDigit c = true) :
    isJsonBlank c = false ∧ c ≠ ']' ∧ c ≠ '}' := by
  refine ⟨?_, ?_, ?_⟩
  · simp only [isJsonBlank, Bool.or_eq_false_iff, beq_eq_false_iff_ne, ne_eq]
    refine ⟨⟨⟨?_, ?_⟩, ?_⟩, ?_⟩ <;>
    · rintro rfl
      exact absurd h (by decide)
  · rintro rfl
    exact absurd h (by decide)
  · rintro rfl
    exact absurd h (by decide)

/-- A text that a number can be read from starts with a digit behind its sign. -/
theorem digit_of_number? {s : List Char} {r : Doc × List Char} (h : number? s = some r) :
    ∃ negative d tail, isAsciiDigit d = true ∧ s = signChars negative ++ d :: tail := by
  rw [number?_eq, Option.map_eq_some_iff] at h
  obtain ⟨w, hw, -⟩ := h
  have hbody : ∃ d tail, isAsciiDigit d = true ∧ (signPart s).2 = d :: tail := by
    unfold wholePart at hw
    split at hw
    next rest heq => exact ⟨'0', rest, rfl, heq⟩
    next =>
      dsimp only at hw
      split at hw
      · simp at hw
      next hne =>
        rw [List.span_eq_takeWhile_dropWhile] at hne
        cases hs : (signPart s).2 with
        | nil => simp [hs] at hne
        | cons d tail =>
          refine ⟨d, tail, ?_, rfl⟩
          by_contra hd
          simp [hs, hd] at hne
  obtain ⟨d, tail, hd, heq⟩ := hbody
  unfold signPart at heq
  split at heq
  next rest => exact ⟨true, d, tail, hd, by rw [show rest = d :: tail from heq]; rfl⟩
  next => exact ⟨false, d, tail, hd, heq⟩

theorem value?_of_number? {s : List Char} {r : Doc × List Char} (h : number? s = some r)
    (fuel : ℕ) : value? (fuel + 1) s = some r := by
  obtain ⟨negative, d, tail, hd, rfl⟩ := digit_of_number? h
  have hne : ∀ c, isAsciiDigit c = false → d ≠ c := by
    rintro c hc rfl
    rw [hd] at hc
    exact absurd hc (by decide)
  rw [← h]
  cases negative with
  | true =>
    have h1 := hne 'I' rfl
    simp [value?, signChars, word?, Ne.symm h1]
  | false =>
    have h1 := hne '"' rfl
    have h2 := hne '[' rfl
    have h3 := hne '{' rfl
    have h4 := hne 'n' rfl
    have h5 := hne 't' rfl
    have h6 := hne 'f' rfl
    have h7 := hne 'N' rfl
    have h8 := hne 'I' rfl
    have h9 := hne '-' rfl
    simp [value?, signChars, word?, h1, h2, h3, Ne.symm h4, Ne.symm h5, Ne.symm h6, Ne.symm h7,
      Ne.symm h8, Ne.symm h9]

theorem reads_of_number? {text : String} {d : Doc} (hprinted : AllPrinted text.toList)
    (h : ∀ rest, EndsValue rest → number? (text.toList ++ rest) = some (d, rest)) :
    Reads text d := by
  refine ⟨fun c hc => Or.inr (hprinted c hc), ?_, ?_⟩
  · have hread := h [] EndsValue.nothing
    rw [List.append_nil] at hread
    obtain ⟨negative, c, tail, hc, heq⟩ := digit_of_number? hread
    cases negative with
    | true => exact ⟨'-', c :: tail, heq, by decide⟩
    | false => exact ⟨c, tail, heq, isJsonBlank_of_isAsciiDigit hc⟩
  · intro fuel rest hfuel hrest
    obtain ⟨fuel, rfl⟩ : ∃ n, fuel = n + 1 := ⟨fuel - 1, by omega⟩
    exact value?_of_number? (h rest hrest) fuel

theorem reads_word {word : String} {d : Doc} (hprinted : AllPrinted word.toList)
    (hhead : ∃ c tail, word.toList = c :: tail ∧ isJsonBlank c = false ∧ c ≠ ']' ∧ c ≠ '}')
    (h : ∀ fuel rest, value? (fuel + 1) (word.toList ++ rest) = some (d, rest)) :
    Reads word d := by
  refine ⟨fun c hc => Or.inr (hprinted c hc), hhead, ?_⟩
  intro fuel rest hfuel _
  obtain ⟨fuel, rfl⟩ : ∃ n, fuel = n + 1 := ⟨fuel - 1, by omega⟩
  exact h fuel rest

theorem reads_null : Reads "null" .null := by
  refine reads_word (allPrinted_of_all rfl) ⟨'n', _, rfl, by decide⟩ ?_
  intro fuel rest
  simp [value?, word?, show "null".length = 4 from rfl]

theorem reads_bool (b : Bool) : Reads (if b then "true" else "false") (.bool b) := by
  cases b with
  | true =>
    refine reads_word (allPrinted_of_all rfl) ⟨'t', _, rfl, by decide⟩ ?_
    intro fuel rest
    simp [value?, word?, show "true".length = 4 from rfl]
  | false =>
    refine reads_word (allPrinted_of_all rfl) ⟨'f', _, rfl, by decide⟩ ?_
    intro fuel rest
    simp [value?, word?, show "false".length = 5 from rfl]

theorem reads_int (i : Int) : Reads (toString i) (.int i) :=
  reads_of_number? (allPrinted_toString_int i) (fun _ hrest => number?_toString i hrest)

theorem reads_float {x : Binary64} (h : x.isDouble = true) :
    Reads (numberStyle.render x) (.float x) := by
  cases x with
  | nan =>
    refine reads_word (allPrinted_of_all rfl) ⟨'N', _, rfl, by decide⟩ ?_
    intro fuel rest
    simp [value?, word?, DecimalStyle.render, numberStyle, show "NaN".length = 3 from rfl]
  | infinite negative =>
    cases negative with
    | true =>
      refine reads_word (allPrinted_of_all rfl) ⟨'-', _, rfl, by decide⟩ ?_
      intro fuel rest
      simp [value?, word?, DecimalStyle.render, numberStyle, show "-Infinity".length = 9 from rfl]
    | false =>
      refine reads_word (allPrinted_of_all rfl) ⟨'I', _, rfl, by decide⟩ ?_
      intro fuel rest
      simp [value?, word?, DecimalStyle.render, numberStyle, show "Infinity".length = 8 from rfl]
  | finite negative m e =>
    exact reads_of_number? (allPrinted_render _) (fun _ hrest => number?_render h hrest)

theorem reads_text (s : String) : Reads (encodeText s) (.text s) := by
  refine ⟨fun c hc => Or.inr (isPrinted_of_mem_encodeText hc),
    ⟨'"', _, encodeText_toList s, by decide⟩, ?_⟩
  intro fuel rest hfuel _
  obtain ⟨fuel, rfl⟩ : ∃ n, fuel = n + 1 := ⟨fuel - 1, by omega⟩
  rw [encodeText_toList, List.cons_append, List.append_assoc, List.singleton_append, value?,
    string?_escapes]
  rfl

/-- Parts one below the other between brackets. -/
def bracketed (opening closing : Char) (depth : ℕ) (parts : List String) : List Char :=
  opening :: ((newline (depth + 1)).toList ++
    (stacked (depth + 1) parts ++ ((newline depth).toList ++ [closing])))

theorem printed_bracketed {opening closing : Char} (ho : isPrinted opening = true)
    (hc : isPrinted closing = true) (depth : ℕ) {parts : List String}
    (h : ∀ part ∈ parts, ∀ c ∈ part.toList, c = '\n' ∨ isPrinted c = true) :
    ∀ c ∈ bracketed opening closing depth parts, c = '\n' ∨ isPrinted c = true := by
  intro c hmem
  rw [bracketed, List.mem_cons, List.mem_append, List.mem_append, List.mem_append,
    List.mem_singleton] at hmem
  rcases hmem with rfl | hmem | hmem | hmem | rfl
  · exact Or.inr ho
  · exact printed_newline hmem
  · exact printed_stacked h c hmem
  · exact printed_newline hmem
  · exact Or.inr hc

theorem bracketed_append (opening closing : Char) (depth : ℕ) (parts : List String)
    (rest : List Char) :
    bracketed opening closing depth parts ++ rest = opening :: ((newline (depth + 1)).toList ++
      (stacked (depth + 1) parts ++ ((newline depth).toList ++ closing :: rest))) := by
  simp [bracketed]

theorem length_bracketed (opening closing : Char) (depth : ℕ) (parts : List String) :
    (stacked (depth + 1) parts).length + 2 < (bracketed opening closing depth parts).length := by
  have h1 := length_newline (depth + 1)
  have h2 := length_newline depth
  simp only [bracketed, List.length_cons, List.length_append, List.length_nil]
  omega

theorem reads_list {parts : List String} {items : List Doc} {text : String} (depth : ℕ)
    (hne : parts ≠ []) (h : List.Forall₂ Reads parts items)
    (htext : text.toList = bracketed '[' ']' depth parts) : Reads text (.list items) := by
  refine ⟨?_, ⟨'[', _, htext, by decide⟩, ?_⟩
  · rw [htext]
    apply printed_bracketed rfl rfl
    intro part hpart
    obtain ⟨d, -, hd⟩ := exists_mem_of_forall₂ h hpart
    exact hd.printed
  · intro fuel rest hfuel _
    rw [htext] at hfuel ⊢
    have hlen := length_bracketed '[' ']' depth parts
    obtain ⟨fuel, rfl⟩ : ∃ n, fuel = n + 1 := ⟨fuel - 1, by omega⟩
    obtain ⟨part, parts, rfl⟩ := List.exists_cons_of_ne_nil hne
    obtain ⟨d, -, hd⟩ := exists_mem_of_forall₂ h List.mem_cons_self
    obtain ⟨c, tail, hhead, hc, hbracket, -⟩ := hd.head
    have hskip := skipBlanks_stacked (depth + 1) hhead hc parts
      ((newline depth).toList ++ ']' :: rest)
    have hitems := items?_stacked h fuel depth _ rest hne (by omega) hskip
    obtain ⟨more, hmore⟩ := stacked_head (depth + 1) hhead parts
    rw [bracketed_append, value?, skipBlanks_newline, hskip]
    rw [hmore, List.cons_append] at hitems ⊢
    simp [hbracket, hitems]

theorem reads_object {parts : List String} {ms : List (String × Doc)} {text : String} (depth : ℕ)
    (hne : parts ≠ []) (h : List.Forall₂ ReadsMember parts ms) (hnames : (ms.map (·.1)).Nodup)
    (htext : text.toList = bracketed '{' '}' depth parts) : Reads text (.object ms) := by
  refine ⟨?_, ⟨'{', _, htext, by decide⟩, ?_⟩
  · rw [htext]
    apply printed_bracketed rfl rfl
    intro part hpart c hc
    obtain ⟨m, -, value, rfl, hvalue⟩ := exists_mem_of_forall₂ h hpart
    rw [String.toList_append, String.toList_append, List.mem_append, List.mem_append] at hc
    rcases hc with (hc | hc) | hc
    · exact Or.inr (isPrinted_of_mem_encodeText hc)
    · have hcolon : AllPrinted ": ".toList := allPrinted_of_all rfl
      exact Or.inr (hcolon c hc)
    · exact hvalue.printed c hc
  · intro fuel rest hfuel _
    rw [htext] at hfuel ⊢
    have hlen := length_bracketed '{' '}' depth parts
    obtain ⟨fuel, rfl⟩ : ∃ n, fuel = n + 1 := ⟨fuel - 1, by omega⟩
    obtain ⟨part, parts, rfl⟩ := List.exists_cons_of_ne_nil hne
    obtain ⟨m, -, hm⟩ := exists_mem_of_forall₂ h List.mem_cons_self
    obtain ⟨value, -, hhead⟩ := hm.toList
    have hskip := skipBlanks_stacked (depth + 1) hhead (by decide) parts
      ((newline depth).toList ++ '}' :: rest)
    have hmembers := members?_stacked h fuel depth _ rest hne (by omega) hskip
    obtain ⟨more, hmore⟩ := stacked_head (depth + 1) hhead parts
    rw [bracketed_append, value?, skipBlanks_newline, hskip]
    rw [hmore, List.cons_append] at hmembers ⊢
    simp [hmembers, Doc.ofMembers_eq hnames]

mutual

theorem encodeAt_reads (spell : String → Option String) (depth : ℕ) (d : Doc)
    (h : d.isSpelt = true) : ∃ text, encodeAt spell depth d = some text ∧ Reads text d := by
  match d with
  | .null => exact ⟨_, rfl, reads_null⟩
  | .bool b => exact ⟨_, rfl, reads_bool b⟩
  | .int i => exact ⟨_, rfl, reads_int i⟩
  | .float x => exact ⟨_, rfl, reads_float h⟩
  | .text s => exact ⟨_, rfl, reads_text s⟩
  | .foreign shown => cases h
  | .list [] =>
    refine ⟨_, rfl, reads_word (allPrinted_of_all rfl) ⟨'[', _, rfl, by decide⟩ ?_⟩
    intro fuel rest
    simp [value?, skipBlanks_cons (show isJsonBlank ']' = false by decide)]
  | .list (item :: items) =>
    obtain ⟨parts, hparts, hreads⟩ := encodeItems_reads spell (depth + 1) (item :: items) h
    have hne : parts ≠ [] := by
      rintro rfl
      cases hreads
    refine ⟨"[" ++ newline (depth + 1) ++ String.intercalate ("," ++ newline (depth + 1)) parts ++
      newline depth ++ "]", by simp [encodeAt, hparts], reads_list depth hne hreads ?_⟩
    simp [bracketed, stacked]
  | .object [] =>
    refine ⟨_, rfl, reads_word (allPrinted_of_all rfl) ⟨'{', _, rfl, by decide⟩ ?_⟩
    intro fuel rest
    simp [value?, skipBlanks_cons (show isJsonBlank '}' = false by decide)]
  | .object (m :: ms) =>
    rw [Doc.isSpelt, Doc.isSpeltBy, Bool.and_eq_true, decide_eq_true_eq] at h
    obtain ⟨parts, hparts, hreads⟩ := encodeMembers_reads spell (depth + 1) (m :: ms) h.2
    have hne : parts ≠ [] := by
      rintro rfl
      cases hreads
    refine ⟨"\x7b" ++ newline (depth + 1) ++ String.intercalate ("," ++ newline (depth + 1)) parts ++
      newline depth ++ "\x7d", by simp [encodeAt, hparts], reads_object depth hne hreads h.1 ?_⟩
    simp [bracketed, stacked]

theorem encodeItems_reads (spell : String → Option String) (depth : ℕ) (ds : List Doc)
    (h : Doc.areSpeltBy Binary64.isDouble ds = true) :
    ∃ parts, encodeItems spell depth ds = some parts ∧ List.Forall₂ Reads parts ds := by
  match ds with
  | [] => exact ⟨[], rfl, List.Forall₂.nil⟩
  | d :: rest =>
    rw [Doc.areSpeltBy, Bool.and_eq_true] at h
    obtain ⟨text, htext, hread⟩ := encodeAt_reads spell depth d h.1
    obtain ⟨parts, hparts, hreads⟩ := encodeItems_reads spell depth rest h.2
    exact ⟨text :: parts, by simp [encodeItems, htext, hparts], List.Forall₂.cons hread hreads⟩

theorem encodeMembers_reads (spell : String → Option String) (depth : ℕ)
    (ms : List (String × Doc)) (h : Doc.membersAreSpeltBy Binary64.isDouble ms = true) :
    ∃ parts, encodeMembers spell depth ms = some parts ∧ List.Forall₂ ReadsMember parts ms := by
  match ms with
  | [] => exact ⟨[], rfl, List.Forall₂.nil⟩
  | (name, d) :: rest =>
    rw [Doc.membersAreSpeltBy, Bool.and_eq_true] at h
    obtain ⟨text, htext, hread⟩ := encodeAt_reads spell depth d h.1
    obtain ⟨parts, hparts, hreads⟩ := encodeMembers_reads spell depth rest h.2
    exact ⟨(encodeText name ++ ": " ++ text) :: parts, by simp [encodeMembers, htext, hparts],
      List.Forall₂.cons ⟨text, rfl, hread⟩ hreads⟩

end

/-- A value that can be spelt has a text, and the text reads back as the value. It is one for
which all line break customs agree. -/
theorem decode?_encode? {d : Doc} (h : d.isSpelt = true) :
    ∃ text, encode? d = some text ∧ decode? text = some d ∧ '\r' ∉ text.toList := by
  obtain ⟨text, htext, hreads⟩ := encodeAt_reads (fun _ => none) 0 d h
  refine ⟨text, htext, ?_, ?_⟩
  · obtain ⟨c, tail, hhead, hc, -⟩ := hreads.head
    have hskip : skipBlanks text.toList = text.toList := by
      rw [hhead, skipBlanks_cons hc]
    have hread := hreads.read (text.toList.length + 1) [] (by omega) EndsValue.nothing
    rw [List.append_nil] at hread
    simp only [decode?, hskip, hread]
    rfl
  · intro hmem
    rcases hreads.printed '\r' hmem with h | h
    · exact absurd h (by decide)
    · exact absurd h (by decide)

end RepoAtlas.Json
