import Mathlib.Tactic.IntervalCases
import RepoAtlas.Doc.Json

/-!
A quoted text reads back as itself. A character beyond the first plane is written as a pair of
code units, so reading one unit has to look at what follows it.
-/
namespace RepoAtlas.Json

open RepoAtlas.Text

theorem hexDigitValue?_hexDigit {n : ℕ} (h : n < 16) : hexDigitValue? (hexDigit n) = some n := by
  interval_cases n <;> rfl

theorem hexDigits_four (n : ℕ) : hexDigits 4 n =
    [hexDigit (n / 16 / 16 / 16 % 16), hexDigit (n / 16 / 16 % 16), hexDigit (n / 16 % 16),
      hexDigit (n % 16)] := rfl

/-- Four digits spell a code unit. -/
theorem unit?_hexDigits {n : ℕ} (h : n < 0x10000) :
    ∃ a b c d, hexDigits 4 n = [a, b, c, d] ∧ unit? a b c d = some n := by
  refine ⟨_, _, _, _, hexDigits_four n, ?_⟩
  have hlt : ∀ k : ℕ, k % 16 < 16 := fun k => Nat.mod_lt k (by norm_num)
  simp only [unit?, hexDigitValue?_hexDigit (hlt _), Option.bind_eq_bind, Option.bind_some,
    Option.some.injEq]
  omega

/-! ### Single steps of the reader -/

section Steps

variable {done rest : List Char}

/-- A text that does not start with a broken code unit. -/
def StartsSound (s : List Char) : Prop :=
  ∀ e f g h r, s = '\\' :: 'u' :: e :: f :: g :: h :: r → (unit? e f g h).isSome = true

theorem stringBody_quote : stringBody done ('"' :: rest) = some (done.reverse, rest) := by
  rw [stringBody]

theorem stringBody_plain {c : Char} (hq : c ≠ '"') (hb : c ≠ '\\') (hc : ¬ c.toNat < 32) :
    stringBody done (c :: rest) = stringBody (c :: done) rest := by
  rw [stringBody] <;> simp [hq, hb, hc]

theorem stringBody_short {c e : Char} (he : unescape? e = some c) (hu : e ≠ 'u') :
    stringBody done ('\\' :: e :: rest) = stringBody (c :: done) rest := by
  rw [stringBody]
  · simp [he]
  · simp [hu]
  · simp [hu]

theorem stringBody_unit {a b c d : Char} {unit : ℕ} (hunit : unit? a b c d = some unit)
    (hpair : ∀ low, charOfPair? unit low = none) (hrest : StartsSound rest) :
    stringBody done ('\\' :: 'u' :: a :: b :: c :: d :: rest) =
      stringBody (charOfUnit unit :: done) rest := by
  by_cases h : ∃ e f g i r, rest = '\\' :: 'u' :: e :: f :: g :: i :: r
  · obtain ⟨e, f, g, i, r, rfl⟩ := h
    obtain ⟨low, hlow⟩ := Option.isSome_iff_exists.1 (hrest e f g i r rfl)
    rw [stringBody]
    simp [hunit, hlow, hpair]
  · rw [stringBody]
    · simp [hunit]
    · intro e f g i r hr
      exact h ⟨e, f, g, i, r, hr⟩

theorem stringBody_pair {a b c d e f g h p : Char} {high low : ℕ}
    (hhigh : unit? a b c d = some high) (hlow : unit? e f g h = some low)
    (hp : charOfPair? high low = some p) :
    stringBody done ('\\' :: 'u' :: a :: b :: c :: d :: '\\' :: 'u' :: e :: f :: g :: h :: rest) =
      stringBody (p :: done) rest := by
  rw [stringBody]
  simp [hhigh, hlow, hp]

end Steps

/-! ### Characters -/

theorem not_surrogate (c : Char) : c.toNat < 0xd800 ∨ 0xdfff < c.toNat := by
  rcases c.valid with h | h
  · exact Or.inl h
  · exact Or.inr h.1

theorem toNat_lt (c : Char) : c.toNat < 0x110000 := by
  rcases c.valid with h | h
  · exact lt_trans h (by norm_num)
  · exact h.2

theorem charOfUnit_toNat (c : Char) : charOfUnit c.toNat = c := by
  have h := not_surrogate c
  rw [charOfUnit, if_neg (by omega), Char.ofNat_toNat]

theorem charOfPair?_toNat (c : Char) (low : ℕ) : charOfPair? c.toNat low = none := by
  have h := not_surrogate c
  rw [charOfPair?, if_neg (by omega)]

/-- A character of a higher plane is the pair of its units. -/
theorem charOfPair?_units {c : Char} (h : 0x10000 ≤ c.toNat) :
    charOfPair? (0xd800 + (c.toNat - 0x10000) / 0x400) (0xdc00 + (c.toNat - 0x10000) % 0x400) =
      some c := by
  have hlt := toNat_lt c
  rw [charOfPair?, if_pos (by omega)]
  have hcode : 0x10000 + (0xd800 + (c.toNat - 0x10000) / 0x400 - 0xd800) * 0x400 +
      (0xdc00 + (c.toNat - 0x10000) % 0x400 - 0xdc00) = c.toNat := by
    omega
  rw [hcode, Char.ofNat_toNat]

theorem unitEscape_eq {n : ℕ} (h : n < 0x10000) :
    ∃ a b c d, unitEscape n = ['\\', 'u', a, b, c, d] ∧ unit? a b c d = some n := by
  obtain ⟨a, b, c, d, hdigits, hunit⟩ := unit?_hexDigits h
  exact ⟨a, b, c, d, by rw [unitEscape, hdigits], hunit⟩

/-- An escape is a plain character, a short escape, a unit or a pair of units. -/
inductive Escape (c : Char) : List Char → Prop
  | plain (hq : c ≠ '"') (hb : c ≠ '\\') (hlow : 32 ≤ c.toNat) (hhigh : c.toNat < 127) :
      Escape c [c]
  | short (e : Char) (he : unescape? e = some c) (hu : e ≠ 'u') (hhigh : e.toNat < 127)
      (hlow : 32 ≤ e.toNat) : Escape c ['\\', e]
  | unit (hc : c.toNat < 0x10000) : Escape c (unitEscape c.toNat)
  | pair (hc : 0x10000 ≤ c.toNat) : Escape c
      (unitEscape (0xd800 + (c.toNat - 0x10000) / 0x400) ++
        unitEscape (0xdc00 + (c.toNat - 0x10000) % 0x400))

theorem escapeChar_escape (c : Char) : Escape c (escapeChar c) := by
  unfold escapeChar
  split
  next h => subst h; exact .short '"' rfl (by decide) (by decide) (by decide)
  next hq =>
  split
  next h => subst h; exact .short '\\' rfl (by decide) (by decide) (by decide)
  next hb =>
  split
  next h => subst h; exact .short 'n' rfl (by decide) (by decide) (by decide)
  split
  next h => subst h; exact .short 'r' rfl (by decide) (by decide) (by decide)
  split
  next h => subst h; exact .short 't' rfl (by decide) (by decide) (by decide)
  split
  next h => subst h; exact .short 'b' rfl (by decide) (by decide) (by decide)
  split
  next h => subst h; exact .short 'f' rfl (by decide) (by decide) (by decide)
  split
  next h => exact .plain hq hb h.1 h.2
  split
  next h => exact .unit h
  next h => exact .pair (not_lt.1 h)

theorem startsSound_unitEscape {n : ℕ} (h : n < 0x10000) (tail : List Char) :
    StartsSound (unitEscape n ++ tail) := by
  obtain ⟨a, b, c, d, heq, hunit⟩ := unitEscape_eq h
  intro e f g i r hr
  rw [heq] at hr
  simp only [List.cons_append, List.nil_append, List.cons.injEq, true_and] at hr
  obtain ⟨rfl, rfl, rfl, rfl, -⟩ := hr
  rw [hunit]
  rfl

theorem Escape.startsSound {c : Char} {escape : List Char} (h : Escape c escape)
    (tail : List Char) : StartsSound (escape ++ tail) := by
  cases h with
  | plain hq hb hlow hhigh =>
    intro e f g i r hr
    exact absurd (List.cons.inj hr).1 hb
  | short e he hu hhigh hlow =>
    intro f g i j r hr
    exact absurd (List.cons.inj (List.cons.inj hr).2).1 hu
  | unit hc => exact startsSound_unitEscape hc tail
  | pair hc =>
    rw [List.append_assoc]
    have := toNat_lt c
    exact startsSound_unitEscape (by omega) _

/-- The reader takes an escape for its character. -/
theorem Escape.stringBody {c : Char} {escape done tail : List Char} (h : Escape c escape)
    (htail : StartsSound tail) :
    stringBody done (escape ++ tail) = Json.stringBody (c :: done) tail := by
  cases h with
  | plain hq hb hlow hhigh => exact stringBody_plain hq hb (not_lt.2 hlow)
  | short e he hu hhigh hlow => exact stringBody_short he hu
  | unit hc =>
    obtain ⟨a, b, d, e, heq, hunit⟩ := unitEscape_eq hc
    rw [heq]
    refine (stringBody_unit hunit (charOfPair?_toNat c) htail).trans ?_
    rw [charOfUnit_toNat]
  | pair hc =>
    have hlt := toNat_lt c
    have hhigh : 0xd800 + (c.toNat - 0x10000) / 0x400 < 0x10000 := by omega
    have hlow : 0xdc00 + (c.toNat - 0x10000) % 0x400 < 0x10000 := by omega
    obtain ⟨a, b, d, e, heq, hunit⟩ := unitEscape_eq hhigh
    obtain ⟨f, g, i, j, heq', hunit'⟩ := unitEscape_eq hlow
    rw [heq, heq']
    exact stringBody_pair hunit hunit' (charOfPair?_units hc)

/-! ### Whole texts -/

theorem startsSound_escapes (s rest : List Char) :
    StartsSound (s.flatMap escapeChar ++ '"' :: rest) := by
  cases s with
  | nil =>
    intro e f g i r hr
    simp at hr
  | cons c tail =>
    rw [List.flatMap_cons, List.append_assoc]
    exact (escapeChar_escape c).startsSound _

theorem stringBody_escapes (s done rest : List Char) :
    stringBody done (s.flatMap escapeChar ++ '"' :: rest) = some (done.reverse ++ s, rest) := by
  induction s generalizing done with
  | nil =>
    rw [List.append_nil]
    exact stringBody_quote
  | cons c tail ih =>
    rw [List.flatMap_cons, List.append_assoc,
      (escapeChar_escape c).stringBody (startsSound_escapes tail rest), ih]
    simp

theorem encodeText_toList (s : String) :
    (encodeText s).toList = '"' :: (s.toList.flatMap escapeChar ++ ['"']) := by
  simp [encodeText]

/-- Behind its opening quote a written text is read to its closing one. -/
theorem string?_escapes (s : String) (rest : List Char) :
    string? (s.toList.flatMap escapeChar ++ '"' :: rest) = some (s, rest) := by
  rw [string?, stringBody_escapes]
  simp

/-! ### What written texts are made of -/

def isPrinted (c : Char) : Bool := 32 ≤ c.toNat && c.toNat < 127

theorem isPrinted_hexDigit (n : ℕ) : isPrinted (hexDigit (n % 16)) = true := by
  have h := Nat.mod_lt n (show 16 > 0 by norm_num)
  interval_cases n % 16 <;> rfl

theorem isPrinted_of_mem_hexDigits {width n : ℕ} {c : Char} (h : c ∈ hexDigits width n) :
    isPrinted c = true := by
  induction width generalizing n with
  | zero => simp [hexDigits] at h
  | succ w ih =>
    rw [hexDigits, List.mem_append, List.mem_singleton] at h
    rcases h with h | rfl
    · exact ih h
    · exact isPrinted_hexDigit n

theorem isPrinted_of_mem_unitEscape {n : ℕ} {c : Char} (h : c ∈ unitEscape n) :
    isPrinted c = true := by
  simp only [unitEscape, List.mem_cons] at h
  rcases h with rfl | rfl | h
  · rfl
  · rfl
  · exact isPrinted_of_mem_hexDigits h

theorem Escape.isPrinted {c d : Char} {escape : List Char} (h : Escape c escape)
    (hd : d ∈ escape) : isPrinted d = true := by
  cases h with
  | plain hq hb hlow hhigh =>
    rw [List.mem_singleton.1 hd]
    simp [Json.isPrinted, hlow, hhigh]
  | short e he hu hhigh hlow =>
    simp only [List.mem_cons, List.not_mem_nil, or_false] at hd
    rcases hd with rfl | rfl
    · rfl
    · simp [Json.isPrinted, hlow, hhigh]
  | unit hc => exact isPrinted_of_mem_unitEscape hd
  | pair hc =>
    rcases List.mem_append.1 hd with hd | hd
    · exact isPrinted_of_mem_unitEscape hd
    · exact isPrinted_of_mem_unitEscape hd

theorem isPrinted_of_mem_encodeText {s : String} {c : Char} (h : c ∈ (encodeText s).toList) :
    isPrinted c = true := by
  rw [encodeText_toList, List.mem_cons, List.mem_append, List.mem_flatMap,
    List.mem_singleton] at h
  rcases h with rfl | ⟨d, -, hd⟩ | rfl
  · rfl
  · exact (escapeChar_escape d).isPrinted hd
  · rfl

end RepoAtlas.Json
