import Mathlib.Data.List.TakeWhile
import RepoAtlas.Doc.Json
import RepoAtlas.Proofs.Number.DigitText
import RepoAtlas.Proofs.Number.ReadsBack

/-!
The text of an integer or a double reads back as that number, whatever value text goes on behind
it. A number is read in four parts: sign, whole digits, fraction and exponent.
-/
namespace RepoAtlas.Json

open RepoAtlas.Text RepoAtlas.Numeral

/-- What stands behind a value in a written text. -/
inductive EndsValue : List Char → Prop
  | nothing : EndsValue []
  | comma (rest : List Char) : EndsValue (',' :: rest)
  | line (rest : List Char) : EndsValue ('\n' :: rest)

theorem EndsValue.endsDigits {rest : List Char} (h : EndsValue rest) : EndsDigits rest := by
  intro c hc
  cases h with
  | nothing => simp at hc
  | comma | line =>
    obtain rfl : _ = c := by simpa using hc
    rfl

/-! ### The parts of a number -/

def signPart (s : List Char) : Bool × List Char :=
  match s with
  | '-' :: rest => (true, rest)
  | _ => (false, s)

def wholePart (body : List Char) : Option (List Char × List Char) :=
  match body with
  | '0' :: rest => some (['0'], rest)
  | _ =>
    let (digits, rest) := body.span isAsciiDigit
    if digits.isEmpty then none else some (digits, rest)

def fractionPart (rest : List Char) : List Char × List Char :=
  match rest with
  | '.' :: tail =>
    let (digits, after) := tail.span isAsciiDigit
    if digits.isEmpty then ([], rest) else (digits, after)
  | _ => ([], rest)

def exponentPart (rest : List Char) : Option Int × List Char :=
  match rest with
  | e :: tail =>
    if e = 'e' ∨ e = 'E' then
      let (minus, digits) := Numeral.sign tail
      let (digits, after) := digits.span isAsciiDigit
      if digits.isEmpty then (none, rest)
      else (some (Numeral.signed minus (Numeral.digitsValue digits)), after)
    else (none, rest)
  | [] => (none, rest)

/-- The number of its parts. -/
def numberOf (negative : Bool) (whole fraction : List Char) (exponent : Option Int) : Doc :=
  if fraction.isEmpty && exponent.isNone then
    .int (Numeral.signed negative (Numeral.digitsValue whole))
  else
    .float (.ofDecimal negative (Numeral.digitsValue (whole ++ fraction))
      (exponent.getD 0 - fraction.length))

theorem wholePart_of_ne {body : List Char} (h : ∀ rest, body = '0' :: rest → False) :
    wholePart body =
      if (body.span isAsciiDigit).1.isEmpty then none else some (body.span isAsciiDigit) := by
  unfold wholePart
  split
  next rest => exact absurd rfl (h rest)
  next => rfl

theorem number?_eq (s : List Char) :
    number? s = (wholePart (signPart s).2).map (fun (whole, rest) =>
      (numberOf (signPart s).1 whole (fractionPart rest).1 (exponentPart (fractionPart rest).2).1,
        (exponentPart (fractionPart rest).2).2)) := by
  have hjoin : ∀ (c : Bool) (a b : Doc) (r : List Char),
      (if c = true then some (a, r) else some (b, r)) = some (if c = true then a else b, r) := by
    intro c a b r
    cases c <;> rfl
  unfold number?
  split
  next negative body heq =>
    rw [show signPart s = (negative, body) from heq]
    dsimp only
    split
    · exact hjoin _ _ _ _
    next hzero =>
      rw [wholePart_of_ne hzero]
      split
      · rfl
      · exact hjoin _ _ _ _

def signChars (negative : Bool) : List Char := if negative then ['-'] else []

theorem signPart_append {negative : Bool} {body : List Char} (h : ∀ c ∈ body.head?, c ≠ '-') :
    signPart (signChars negative ++ body) = (negative, body) := by
  cases negative with
  | true => rfl
  | false =>
    cases body with
    | nil => rfl
    | cons c rest =>
      have hc : c ≠ '-' := h c rfl
      simp [signPart, signChars, hc]

/-- Digits that stand before a point: a zero stands there alone. -/
structure IsWhole (ds : List Char) : Prop where
  digits : AllDigits ds
  nonempty : ds ≠ []
  zero : ds.head? = some '0' → ds = ['0']

theorem IsWhole.head_ne_minus {ds : List Char} (h : IsWhole ds) (rest : List Char) :
    ∀ c ∈ (ds ++ rest).head?, c ≠ '-' := by
  intro c hc
  obtain ⟨d, tail, rfl⟩ := List.exists_cons_of_ne_nil h.nonempty
  obtain rfl : d = c := by simpa using hc
  rintro rfl
  exact absurd (h.digits '-' List.mem_cons_self) (by decide)

theorem wholePart_append {ds rest : List Char} (h : IsWhole ds) (hrest : EndsDigits rest) :
    wholePart (ds ++ rest) = some (ds, rest) := by
  obtain ⟨d, tail, rfl⟩ := List.exists_cons_of_ne_nil h.nonempty
  by_cases hd : d = '0'
  · subst hd
    obtain rfl : tail = [] := by simpa using h.zero rfl
    rfl
  · have hne : ∀ r, d :: tail ++ rest = '0' :: r → False := by
      intro r hr
      exact hd (by simpa using congrArg List.head? hr)
    rw [wholePart_of_ne hne, span_digits h.digits hrest]
    rfl

theorem fractionPart_point {ds rest : List Char} (hds : AllDigits ds) (hne : ds ≠ [])
    (hrest : EndsDigits rest) : fractionPart ('.' :: (ds ++ rest)) = (ds, rest) := by
  simp only [fractionPart, span_digits hds hrest, List.isEmpty_iff, hne, if_false]

theorem fractionPart_none {rest : List Char} (h : rest.head? ≠ some '.') :
    fractionPart rest = ([], rest) := by
  cases rest with
  | nil => rfl
  | cons c tail =>
    have hc : c ≠ '.' := by simpa using h
    simp [fractionPart, hc]

theorem exponentPart_sign {minus : Bool} {ds rest : List Char} (hds : AllDigits ds)
    (hne : ds ≠ []) (hrest : EndsDigits rest) :
    exponentPart ('e' :: (if minus then '-' else '+') :: (ds ++ rest)) =
      (some (signed minus (digitsValue ds)), rest) := by
  have hsign : Numeral.sign ((if minus then '-' else '+') :: (ds ++ rest)) =
      (minus, ds ++ rest) := by
    cases minus <;> rfl
  simp only [exponentPart, true_or, if_true, hsign, span_digits hds hrest, List.isEmpty_iff, hne,
    if_false]

theorem exponentPart_none {rest : List Char} (h : EndsValue rest) :
    exponentPart rest = (none, rest) := by
  cases h <;> rfl

/-! ### Whole texts -/

section Texts

variable {negative : Bool} {whole fraction rest : List Char}

theorem number?_whole (hw : IsWhole whole) (hrest : EndsValue rest) :
    number? (signChars negative ++ (whole ++ rest)) =
      some (.int (signed negative (digitsValue whole)), rest) := by
  have hpoint : fractionPart rest = ([], rest) := by
    apply fractionPart_none
    cases hrest <;> simp
  rw [number?_eq, signPart_append (hw.head_ne_minus rest), wholePart_append hw hrest.endsDigits]
  simp [hpoint, exponentPart_none hrest, numberOf]

theorem number?_fraction (negative : Bool) (hw : IsWhole whole) (hf : AllDigits fraction)
    (hne : fraction ≠ []) (hrest : EndsValue rest) :
    number? (signChars negative ++ (whole ++ '.' :: (fraction ++ rest))) =
      some (.float (.ofDecimal negative (digitsValue (whole ++ fraction)) (-fraction.length)),
        rest) := by
  have hends : EndsDigits ('.' :: (fraction ++ rest)) := by
    intro c hc
    obtain rfl : '.' = c := by simpa using hc
    rfl
  rw [number?_eq, signPart_append (hw.head_ne_minus _), wholePart_append hw hends]
  simp [fractionPart_point hf hne hrest.endsDigits, exponentPart_none hrest, numberOf, hne]

/-- The fraction may be missing before an exponent. -/
def fractionChars (fraction : List Char) : List Char :=
  if fraction.isEmpty then [] else '.' :: fraction

theorem number?_exponent (negative minus : Bool) {ds : List Char} (hw : IsWhole whole)
    (hf : AllDigits fraction) (hds : AllDigits ds) (hne : ds ≠ []) (hrest : EndsValue rest) :
    number? (signChars negative ++ (whole ++ (fractionChars fraction ++
        'e' :: (if minus then '-' else '+') :: (ds ++ rest)))) =
      some (.float (.ofDecimal negative (digitsValue (whole ++ fraction))
        (signed minus (digitsValue ds) - fraction.length)), rest) := by
  generalize htail : 'e' :: (if minus then '-' else '+') :: (ds ++ rest) = tail
  have hexp : exponentPart tail = (some (signed minus (digitsValue ds)), rest) := by
    rw [← htail]
    exact exponentPart_sign hds hne hrest.endsDigits
  have htailEnds : EndsDigits tail := by
    intro c hc
    rw [← htail] at hc
    obtain rfl : 'e' = c := by simpa using hc
    rfl
  have hpoint : fractionPart (fractionChars fraction ++ tail) = (fraction, tail) := by
    unfold fractionChars
    split
    next h =>
      obtain rfl : fraction = [] := by simpa using h
      apply fractionPart_none
      rw [← htail]
      simp
    next h => exact fractionPart_point hf (by simpa using h) htailEnds
  have hends : EndsDigits (fractionChars fraction ++ tail) := by
    unfold fractionChars
    split
    · exact htailEnds
    · intro c hc
      obtain rfl : '.' = c := by simpa using hc
      rfl
  rw [number?_eq, signPart_append (hw.head_ne_minus _), wholePart_append hw hends]
  simp [hpoint, hexp, numberOf]

end Texts

/-! ### Integers -/

theorem isWhole_toDigits (n : ℕ) : IsWhole (Nat.toDigits 10 n) := by
  refine ⟨allDigits_toDigits n, Nat.toDigits_ne_nil, ?_⟩
  rcases Nat.eq_zero_or_pos n with rfl | hn
  · intro _
    rfl
  · obtain ⟨c, rest, heq, hc⟩ := toDigits_head hn
    rw [heq]
    intro h
    exact absurd (by simpa using h) hc

theorem toList_toString_int (i : Int) :
    (toString i).toList = signChars (decide (i < 0)) ++ Nat.toDigits 10 i.natAbs := by
  cases i with
  | ofNat n => simp [signChars, Int.toString_eq_repr, Int.repr]
  | negSucc n => simp [signChars, Int.toString_eq_repr, Int.repr, Int.natAbs]

theorem number?_toString {rest : List Char} (i : Int) (hrest : EndsValue rest) :
    number? ((toString i).toList ++ rest) = some (.int i, rest) := by
  rw [toList_toString_int, List.append_assoc, number?_whole (isWhole_toDigits _) hrest,
    digitsValue_toDigits]
  congr 3
  by_cases hi : i < 0
  · simp only [signed, hi, decide_true, if_true]
    omega
  · simp only [signed, hi, decide_false, Bool.false_eq_true, if_false]
    omega

/-! ### Doubles -/

theorem exponentText_toList (e : Int) : ∃ ds, AllDigits ds ∧ ds ≠ [] ∧ digitsValue ds = e.natAbs ∧
    (numberStyle.exponentText e).toList = (if decide (e < 0) then '-' else '+') :: ds := by
  refine ⟨List.replicate (2 - (Nat.toDigits 10 e.natAbs).length) '0' ++ Nat.toDigits 10 e.natAbs,
    (allDigits_replicate_zero _).append (allDigits_toDigits _), ?_, ?_, ?_⟩
  · simp [Nat.toDigits_ne_nil]
  · rw [digitsValue_zeros_append, digitsValue_toDigits]
  · by_cases he : e < 0 <;>
      simp [DecimalStyle.exponentText, numberStyle, he, ← String.length_toList]

theorem signed_natAbs (e : Int) : signed (decide (e < 0)) e.natAbs = e := by
  by_cases he : e < 0
  · simp only [signed, he, decide_true, if_true]
    omega
  · simp only [signed, he, decide_false, Bool.false_eq_true, if_false]
    omega

/-- Read as a number, the text has the value of the digits with the point after `point` of them;
other digits than these are at most seventeen. -/
def Denotes (negative : Bool) (point : ℤ) (ds text : List Char) : Prop :=
  ∀ rest, EndsValue rest → ∃ n : ℕ, ∃ p : ℤ,
    number? (signChars negative ++ (text ++ rest)) =
      some (.float (.ofDecimal negative n p), rest) ∧
    (n : ℚ) * 10 ^ p = digitsValue ds * 10 ^ (point - ds.length) ∧
    (n = digitsValue ds ∨ n < 10 ^ 17)

section Layout

variable {point : ℤ} {ds : List Char}

theorem denotes_exponent (negative : Bool) (hds : IsWhole ds)
    (hfar : point ≤ -4 ∨ 16 < point) :
    Denotes negative point ds (numberStyle.layout ds point).toList := by
  intro rest hrest
  obtain ⟨d, tail, rfl⟩ := List.exists_cons_of_ne_nil hds.nonempty
  have hd : AllDigits [d] := by
    intro c hc
    exact hds.digits c (List.mem_cons.2 (Or.inl (List.mem_singleton.1 hc)))
  have htail : AllDigits tail := fun c hc => hds.digits c (List.mem_cons_of_mem d hc)
  have hwhole : IsWhole [d] := ⟨hd, by simp, by simp⟩
  obtain ⟨es, hes, hne, hvalue, htext⟩ := exponentText_toList (point - 1)
  have hread := number?_exponent negative (decide (point - 1 < 0)) hwhole htail hes hne hrest
  rw [hvalue, signed_natAbs] at hread
  refine ⟨digitsValue (d :: tail), point - 1 - tail.length, ?_, ?_, Or.inl rfl⟩
  · rw [DecimalStyle.layout.eq_def, if_pos hfar]
    simp only [List.singleton_append] at hread
    rw [← hread]
    cases tail with
    | nil => simp [htext, fractionChars]
    | cons c more => simp [htext, fractionChars]
  · congr 2
    simp only [List.length_cons]
    push_cast
    ring

theorem denotes_below_one (negative : Bool) (hds : IsWhole ds)
    (hnear : ¬ (point ≤ -4 ∨ 16 < point)) (hlow : point ≤ 0) :
    Denotes negative point ds (numberStyle.layout ds point).toList := by
  intro rest hrest
  have hwhole : IsWhole ['0'] := ⟨allDigits_replicate_zero 1, by simp, by simp⟩
  have hfraction := (allDigits_replicate_zero point.natAbs).append hds.digits
  have hread := number?_fraction negative hwhole hfraction (by simp [hds.nonempty]) hrest
  have hlen : ((List.replicate point.natAbs '0' ++ ds).length : ℤ) = ds.length - point := by
    rw [List.length_append, List.length_replicate]
    omega
  have hvalue : digitsValue (['0'] ++ (List.replicate point.natAbs '0' ++ ds)) =
      digitsValue ds :=
    (digitsValue_zeros_append 1 _).trans (digitsValue_zeros_append _ _)
  refine ⟨digitsValue ds, point - ds.length, ?_, rfl, Or.inl rfl⟩
  rw [DecimalStyle.layout.eq_def, if_neg hnear, if_pos hlow]
  rw [hlen, neg_sub, hvalue] at hread
  rw [← hread]
  simp

theorem denotes_whole (negative : Bool) (hds : IsWhole ds) (hhead : ds.head? ≠ some '0')
    (hnear : ¬ (point ≤ -4 ∨ 16 < point)) (hlow : ¬ point ≤ 0)
    (hlen : ds.length ≤ point.toNat) :
    Denotes negative point ds (numberStyle.layout ds point).toList := by
  intro rest hrest
  have hzero : AllDigits ['0'] := allDigits_replicate_zero 1
  have hzeros := allDigits_replicate_zero (point.toNat - ds.length)
  have hwhole : IsWhole (ds ++ List.replicate (point.toNat - ds.length) '0') := by
    refine ⟨hds.digits.append hzeros, by simp [hds.nonempty], ?_⟩
    rw [List.head?_append_of_ne_nil _ hds.nonempty]
    intro h
    exact absurd h hhead
  have hread := number?_fraction negative hwhole hzero (by simp) hrest
  have hvalue : digitsValue (ds ++ List.replicate (point.toNat - ds.length) '0' ++ ['0']) =
      digitsValue ds * 10 ^ (point.toNat - ds.length) * 10 := by
    rw [digitsValue_append, digitsValue_append, digitsValue_replicate_zero]
    simp [digitsValue]
  refine ⟨digitsValue (ds ++ List.replicate (point.toNat - ds.length) '0' ++ ['0']), -1,
    ?_, ?_, Or.inr ?_⟩
  · rw [DecimalStyle.layout.eq_def, if_neg hnear, if_neg hlow, if_pos hlen]
    rw [List.length_singleton, Nat.cast_one] at hread
    rw [← hread]
    simp [numberStyle]
  · have hk : point - (ds.length : ℤ) = ((point.toNat - ds.length : ℕ) : ℤ) := by
      omega
    rw [hvalue, hk, zpow_natCast, zpow_neg_one]
    push_cast
    ring
  · refine lt_of_lt_of_le (digitsValue_lt (hwhole.digits.append hzero)) ?_
    apply Nat.pow_le_pow_right (by norm_num)
    simp only [List.length_append, List.length_replicate, List.length_singleton]
    omega

theorem denotes_within (negative : Bool) (hds : IsWhole ds) (hhead : ds.head? ≠ some '0')
    (hnear : ¬ (point ≤ -4 ∨ 16 < point)) (hlow : ¬ point ≤ 0)
    (hlen : ¬ ds.length ≤ point.toNat) :
    Denotes negative point ds (numberStyle.layout ds point).toList := by
  intro rest hrest
  have hpoint : 0 < point.toNat := by omega
  have hwhole : IsWhole (ds.take point.toNat) := by
    refine ⟨fun c hc => hds.digits c (List.mem_of_mem_take hc), ?_, ?_⟩
    · simp [hpoint.ne', hds.nonempty]
    · intro hzero
      rw [List.head?_take, if_neg hpoint.ne'] at hzero
      exact absurd hzero hhead
  have hfraction : AllDigits (ds.drop point.toNat) :=
    fun c hc => hds.digits c (List.mem_of_mem_drop hc)
  have hread := number?_fraction negative hwhole hfraction (by simpa using hlen) hrest
  have hafter : ((ds.drop point.toNat).length : ℤ) = ds.length - point := by
    rw [List.length_drop]
    omega
  refine ⟨digitsValue ds, point - ds.length, ?_, rfl, Or.inl rfl⟩
  rw [DecimalStyle.layout.eq_def, if_neg hnear, if_neg hlow, if_neg hlen]
  rw [List.take_append_drop, hafter, neg_sub] at hread
  rw [← hread]
  simp

/-- The digits of a decimal, its first one not zero, with the point after `point` of them. -/
theorem denotes_layout (negative : Bool) (point : ℤ) (hds : IsWhole ds)
    (hhead : ds.head? ≠ some '0') :
    Denotes negative point ds (numberStyle.layout ds point).toList := by
  by_cases hfar : point ≤ -4 ∨ 16 < point
  · exact denotes_exponent negative hds hfar
  by_cases hlow : point ≤ 0
  · exact denotes_below_one negative hds hfar hlow
  by_cases hlen : ds.length ≤ point.toNat
  · exact denotes_whole negative hds hhead hfar hlow hlen
  · exact denotes_within negative hds hhead hfar hlow hlen

end Layout

/-- Digits without the zeros at their end, which are counted. -/
theorem dropZeros_append (digits : List Char) : ∃ k, digits =
    DecimalStyle.dropZeros digits ++ List.replicate k '0' := by
  refine ⟨(digits.reverse.takeWhile (· == '0')).length, ?_⟩
  have hzeros : digits.reverse.takeWhile (· == '0') =
      List.replicate (digits.reverse.takeWhile (· == '0')).length '0' := by
    rw [List.eq_replicate_iff]
    refine ⟨rfl, ?_⟩
    intro c hc
    simpa using List.mem_takeWhile_imp hc
  have hsplit := congrArg List.reverse
    (List.takeWhile_append_dropWhile (p := (· == '0')) (l := digits.reverse))
  rw [List.reverse_append, List.reverse_reverse, hzeros, List.reverse_replicate] at hsplit
  exact hsplit.symm

theorem dropZeros_toDigits {n : ℕ} (hn : 0 < n) : ∃ k,
    IsWhole (DecimalStyle.dropZeros (Nat.toDigits 10 n)) ∧
    (DecimalStyle.dropZeros (Nat.toDigits 10 n)).head? ≠ some '0' ∧
    (Nat.toDigits 10 n).length = (DecimalStyle.dropZeros (Nat.toDigits 10 n)).length + k ∧
    digitsValue (DecimalStyle.dropZeros (Nat.toDigits 10 n)) * 10 ^ k = n := by
  obtain ⟨k, hk⟩ := dropZeros_append (Nat.toDigits 10 n)
  obtain ⟨c, more, hcons, hne⟩ := toDigits_head hn
  have hall := allDigits_toDigits n
  have hlength := congrArg List.length hk
  have hvalue := digitsValue_toDigits n
  rw [hk, digitsValue_append, digitsValue_replicate_zero, add_zero, List.length_replicate]
    at hvalue
  rw [List.length_append, List.length_replicate] at hlength
  generalize Nat.toDigits 10 n = text at *
  generalize DecimalStyle.dropZeros text = ds at *
  rw [hk] at hcons hall
  have hhead : ds.head? = some c := by
    cases ds with
    | nil =>
      cases k with
      | zero => cases hcons
      | succ k =>
        rw [List.nil_append, List.replicate_succ] at hcons
        exact absurd (List.cons.inj hcons).1.symm hne
    | cons d tail => exact congrArg some (List.cons.inj hcons).1
  have hnonzero : ds.head? ≠ some '0' := by
    rw [hhead]
    intro hzero
    exact hne (Option.some.inj hzero)
  refine ⟨k, ⟨fun d hd => hall d (List.mem_append_left _ hd), ?_, ?_⟩, hnonzero, hlength, hvalue⟩
  · rintro rfl
    cases hhead
  · intro hzero
    exact absurd hzero hnonzero

theorem number?_render_zero (negative : Bool) {rest : List Char} (hrest : EndsValue rest) :
    number? ((numberStyle.render (.finite negative 0 0)).toList ++ rest) =
      some (.float (.finite negative 0 0), rest) := by
  have hwhole : IsWhole ['0'] := ⟨allDigits_replicate_zero 1, by simp, by simp⟩
  have hread := number?_fraction negative hwhole hwhole.digits (by simp) hrest
  have hzero : Binary64.ofDecimal negative (digitsValue (['0'] ++ ['0'])) (-(['0'].length : ℕ)) =
      .finite negative 0 0 := rfl
  rw [hzero] at hread
  rw [← hread]
  cases negative <;> simp [DecimalStyle.render, signChars, numberStyle]

/-- The text of a double reads back as the double. -/
theorem number?_render {negative : Bool} {m : ℕ} {e : ℤ} {rest : List Char}
    (h : (Binary64.finite negative m e).isDouble = true) (hrest : EndsValue rest) :
    number? ((numberStyle.render (.finite negative m e)).toList ++ rest) =
      some (.float (.finite negative m e), rest) := by
  rcases Binary64.isDouble_finite_iff.1 h with ⟨rfl, rfl⟩ | hc
  · exact number?_render_zero negative hrest
  · have hspells := Binary64.shortestDigits_spells hc
    have hsign : (if negative then "-" else "").toList = signChars negative := by
      cases negative <;> rfl
    simp only [DecimalStyle.render, hc.pos.ne', if_false]
    generalize Binary64.shortestDigits m e = p at *
    obtain ⟨digits, power⟩ := p
    dsimp only at hspells ⊢
    rw [String.toList_append, hsign, toList_toString, List.append_assoc]
    obtain ⟨k, hwhole, hhead, hlength, hvalue⟩ := dropZeros_toDigits hspells.pos
    generalize Nat.toDigits 10 digits = text at *
    generalize DecimalStyle.dropZeros text = ds at *
    obtain ⟨n, p, hread, heq, hbound⟩ :=
      denotes_layout negative (text.length + power) hwhole hhead rest hrest
    rw [hread]
    have hn : n ≤ 10 ^ 17 := by
      rcases hbound with rfl | hlt
      · refine le_trans ?_ hspells.le
        rw [← hvalue]
        exact Nat.le_mul_of_pos_right _ (Nat.pow_pos (by norm_num))
      · exact hlt.le
    have hsame : (n : ℚ) * 10 ^ p = digits * 10 ^ power := by
      have hpower : (text.length : ℤ) + power - ds.length = k + power := by
        rw [hlength]
        push_cast
        ring
      rw [heq, hpower, zpow_add₀ (by norm_num), zpow_natCast, ← hvalue]
      push_cast
      ring
    rw [hspells.ofDecimal_eq hc hn hsame negative]

end RepoAtlas.Json
