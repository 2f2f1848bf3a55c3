import RepoAtlas.Proofs.Number.DigitText
import RepoAtlas.Time.Timestamp

/-!
The text of a point in time reads back as that point in time. Only an offset of less than a second
gets lost on the way, and no point that is read from a text has such an offset.
-/
namespace RepoAtlas.Timestamp

open RepoAtlas.Text RepoAtlas.Numeral

/-! ### Fields of fixed width -/

/-- The text of a field: digits only, as many as its width. -/
structure IsField (width n : ℕ) (ds : List Char) : Prop where
  digits : AllDigits ds
  length : ds.length = width
  value : digitsValue ds = n

theorem pad_isField (width : ℕ) {n : ℕ} (hw : 0 < width) (h : n < 10 ^ width) :
    IsField width n (pad width n).toList := by
  have htext : (pad width n).toList =
      List.replicate (width - (Nat.toDigits 10 n).length) '0' ++ Nat.toDigits 10 n := by
    simp [pad, ← String.length_toList]
  have hlen := (Nat.length_toDigits_le_iff (n := n) (k := width) (by norm_num : 1 < 10) hw).2 h
  rw [htext]
  refine ⟨(allDigits_replicate_zero _).append (allDigits_toDigits n), ?_, ?_⟩
  · rw [List.length_append, List.length_replicate]
    omega
  · rw [digitsValue_zeros_append, digitsValue_toDigits]

theorem digitsAt?_append {width n : ℕ} {ds : List Char} (h : IsField width n ds)
    (rest : List Char) : digitsAt? width (ds ++ rest) = some (n, rest) := by
  have htake : (ds ++ rest).take width = ds := by
    rw [← h.length]
    exact List.take_left
  have hdrop : (ds ++ rest).drop width = rest := by
    rw [← h.length]
    exact List.drop_left
  have hall : ds.all isAsciiDigit = true := by
    rw [List.all_eq_true]
    exact h.digits
  unfold digitsAt?
  rw [htake, hdrop]
  simp only [h.length, hall, decide_true, Bool.and_self, if_true, Option.some.injEq,
    Prod.mk.injEq, and_true]
  exact h.value

theorem IsField.head {width n : ℕ} {ds : List Char} (h : IsField width n ds) (hw : 0 < width) :
    ∃ d tail, ds = d :: tail ∧ isAsciiDigit d = true := by
  obtain ⟨d, tail, rfl⟩ := List.exists_cons_of_length_pos (by rw [h.length]; exact hw)
  exact ⟨d, tail, rfl, h.digits d List.mem_cons_self⟩

theorem room_append (s t : List Char) : room (s ++ t) = room s + room t := by
  simp [room, String.ofList_append]

/-- A text of ASCII characters has as many bytes. -/
theorem room_eq_length {s : List Char} (h : ∀ c ∈ s, c.toNat < 128) : room s = s.length := by
  induction s with
  | nil => rfl
  | cons c rest ih =>
    have hc := h c List.mem_cons_self
    have hone : room [c] = 1 := by
      have hsize : c.utf8Size = 1 := by
        have hle : c.val ≤ 0x7f := UInt32.le_iff_toNat_le.2 (Nat.le_of_lt_succ hc)
        simp [Char.utf8Size, hle]
      rw [room, ← String.singleton_eq_ofList, String.utf8ByteSize_singleton, hsize]
    rw [← List.singleton_append, room_append, hone,
      ih (fun d hd => h d (List.mem_cons_of_mem c hd)), List.length_append, List.length_singleton]

/-! ### Clocks -/

section Clocks

variable {fields : List ℕ} {left space n : ℕ} {ds rest : List Char}

theorem readClock?_colon (h : IsField 2 n ds) (hspace : 3 < space) :
    readClock? true fields (left + 1) space (ds ++ ':' :: rest) =
      readClock? true (fields ++ [n]) left (space - 3) rest := by
  rw [readClock?, digitsAt?_append h]
  simp [not_le.2 hspace]

theorem readClock?_last (h : IsField 2 n ds) (hspace : space ≤ 3) :
    readClock? true fields (left + 1) space (ds ++ rest) =
      some ⟨fields ++ [n], 0, rest.head?.isSome⟩ := by
  rw [readClock?, digitsAt?_append h]
  simp [hspace]

theorem readClock?_point (h : IsField 2 n ds) (hspace : 3 < space) :
    readClock? true fields (left + 1) space (ds ++ '.' :: rest) =
      readFraction? (fields ++ [n]) (space - 3) rest := by
  rw [readClock?, digitsAt?_append h]
  simp [not_le.2 hspace]

theorem readFraction?_six (h : IsField 6 n ds) (hrest : EndsDigits rest) :
    readFraction? fields 6 (ds ++ rest) = some ⟨fields, n, !rest.isEmpty⟩ := by
  have hdrop : rest.dropWhile isAsciiDigit = rest := by
    cases rest with
    | nil => rfl
    | cons c tail => simp [hrest c rfl]
  unfold readFraction?
  simp [digitsAt?_append h, hdrop]

/-- Hours, minutes and seconds, with a fraction if there is one. -/
def clockChars (hour minute second micro : ℕ) : List Char :=
  (pad 2 hour).toList ++ ':' :: ((pad 2 minute).toList ++ ':' :: ((pad 2 second).toList ++
    if micro = 0 then [] else '.' :: (pad 6 micro).toList))

theorem mem_clockChars {hour minute second micro : ℕ} (hh : hour < 100) (hm : minute < 100)
    (hs : second < 100) (hu : micro < 1000000) :
    ∀ c ∈ clockChars hour minute second micro, isAsciiDigit c = true ∨ c = ':' ∨ c = '.' := by
  intro c hc
  rw [clockChars, List.mem_append, List.mem_cons, List.mem_append, List.mem_cons,
    List.mem_append] at hc
  rcases hc with hc | rfl | hc | rfl | hc | hc
  · exact Or.inl ((pad_isField 2 (by norm_num) hh).digits c hc)
  · exact Or.inr (Or.inl rfl)
  · exact Or.inl ((pad_isField 2 (by norm_num) hm).digits c hc)
  · exact Or.inr (Or.inl rfl)
  · exact Or.inl ((pad_isField 2 (by norm_num) hs).digits c hc)
  · split at hc
    · exact absurd hc List.not_mem_nil
    · rcases List.mem_cons.1 hc with rfl | hc
      · exact Or.inr (Or.inr rfl)
      · exact Or.inl ((pad_isField 6 (by norm_num) hu).digits c hc)

theorem ascii_of_clock {c : Char} (h : isAsciiDigit c = true ∨ c = ':' ∨ c = '.') :
    c.toNat < 128 := by
  rcases h with h | rfl | rfl
  · simp only [isAsciiDigit, Bool.and_eq_true, decide_eq_true_eq, Char.le_def] at h
    have hle : c.toNat ≤ 57 := h.2
    omega
  · decide
  · decide

/-- A clock is read up to where its part of the text ends. -/
theorem readClock?_clockChars {hour minute second micro : ℕ} (hh : hour < 100)
    (hm : minute < 100) (hs : second < 100) (hu : micro < 1000000) (hrest : EndsDigits rest) :
    readClock? true [] 3 (room (clockChars hour minute second micro))
      (clockChars hour minute second micro ++ rest) =
        some ⟨[hour, minute, second], micro, !rest.isEmpty⟩ := by
  have h1 := pad_isField 2 (by decide) hh
  have h2 := pad_isField 2 (by decide) hm
  have h3 := pad_isField 2 (by decide) hs
  have h4 := pad_isField 6 (by decide) hu
  have hroom : room (clockChars hour minute second micro) = if micro = 0 then 8 else 15 := by
    rw [room_eq_length (fun c hc => ascii_of_clock (mem_clockChars hh hm hs hu c hc)), clockChars]
    split <;> simp [h1.length, h2.length, h3.length, h4.length]
  rw [hroom, clockChars]
  split
  next hzero =>
    subst hzero
    have hhead : rest.head?.isSome = !rest.isEmpty := by
      cases rest <;> rfl
    simp only [List.append_nil, List.append_assoc, List.cons_append]
    rw [readClock?_colon h1 (by decide), readClock?_colon h2 (by decide),
      readClock?_last h3 (by decide), hhead]
    rfl
  · simp only [List.append_assoc, List.cons_append]
    rw [readClock?_colon h1 (by decide), readClock?_colon h2 (by decide),
      readClock?_point h3 (by decide)]
    exact readFraction?_six h4 hrest

end Clocks

/-! ### Offsets -/

/-- What is left of an offset when it is read: one of less than a second counts as none. -/
def heldOffset (offset : Int) : Int := if offset.natAbs < 1000000 then 0 else offset

/-- The text of an offset's size, which follows the sign. -/
def sizeText (size : ℕ) : String :=
  pad 2 (size / 1000000 / 3600) ++ ":" ++ pad 2 (size / 1000000 / 60 % 60) ++
    (if size % 60000000 = 0 then "" else ":" ++ pad 2 (size / 1000000 % 60)) ++
    (if size % 1000000 = 0 then "" else "." ++ pad 6 (size % 1000000))

theorem offsetText_toList (offset : Int) : (offsetText offset).toList =
    (if offset < 0 then '-' else '+') :: (sizeText offset.natAbs).toList := by
  by_cases hneg : offset < 0
  · simp [offsetText, sizeText, hneg]
  · simp [offsetText, sizeText, hneg]

/-- The text of a size is read as a clock that shows the size. -/
def ReadsZone (size : ℕ) (text : List Char) : Prop :=
  ∃ zone, readClock? true [] 3 (room text) text = some zone ∧ zone.trailing = false ∧
    zone.field 0 * 3600 + zone.field 1 * 60 + zone.field 2 = size / 1000000 ∧
    zone.micro = size % 1000000

theorem readsZone_minutes {size : ℕ} (h : size < 86400000000) (hshort : size % 60000000 = 0) :
    ReadsZone size (sizeText size).toList := by
  have hwhole : size % 1000000 = 0 := by omega
  have h1 := pad_isField 2 (n := size / 1000000 / 3600) (by decide) (by omega)
  have h2 := pad_isField 2 (n := size / 1000000 / 60 % 60) (by decide) (by omega)
  have htext : (sizeText size).toList = (pad 2 (size / 1000000 / 3600)).toList ++
      ':' :: ((pad 2 (size / 1000000 / 60 % 60)).toList ++ []) := by
    simp [sizeText, hshort, hwhole]
  have hroom : room (sizeText size).toList = 5 := by
    rw [htext, room_eq_length]
    · simp [h1.length, h2.length]
    · intro c hc
      apply ascii_of_clock
      rw [List.append_nil, List.mem_append, List.mem_cons] at hc
      rcases hc with hc | rfl | hc
      · exact Or.inl (h1.digits c hc)
      · exact Or.inr (Or.inl rfl)
      · exact Or.inl (h2.digits c hc)
  refine ⟨⟨[size / 1000000 / 3600, size / 1000000 / 60 % 60], 0, false⟩, ?_, rfl, ?_,
    hwhole.symm⟩
  · rw [hroom, htext, readClock?_colon h1 (by decide), readClock?_last h2 (by decide)]
    rfl
  · simp only [Clock.field, List.getElem?_cons_zero, List.getElem?_cons_succ, List.getElem?_nil,
      Option.getD_some, Option.getD_none]
    omega

theorem readsZone_seconds {size : ℕ} (h : size < 86400000000) (hlong : size % 60000000 ≠ 0) :
    ReadsZone size (sizeText size).toList := by
  have hhour : size / 1000000 / 3600 < 100 := by omega
  have hminute : size / 1000000 / 60 % 60 < 100 := by omega
  have hsecond : size / 1000000 % 60 < 100 := by omega
  have hmicro : size % 1000000 < 1000000 := by omega
  have htext : (sizeText size).toList = clockChars (size / 1000000 / 3600)
      (size / 1000000 / 60 % 60) (size / 1000000 % 60) (size % 1000000) := by
    by_cases hwhole : size % 1000000 = 0
    · simp [sizeText, hlong, hwhole, clockChars]
    · simp [sizeText, hlong, hwhole, clockChars]
  have hread := readClock?_clockChars hhour hminute hsecond hmicro
    (show EndsDigits [] by simp [EndsDigits])
  rw [List.append_nil, ← htext] at hread
  refine ⟨_, hread, rfl, ?_, rfl⟩
  simp only [Clock.field, List.getElem?_cons_zero, List.getElem?_cons_succ, Option.getD_some]
  omega

theorem readsZone_sizeText {size : ℕ} (h : size < 86400000000) :
    ReadsZone size (sizeText size).toList := by
  by_cases hshort : size % 60000000 = 0
  · exact readsZone_minutes h hshort
  · exact readsZone_seconds h hshort

/-- The clock's part of a text ends where the offset begins. -/
theorem takeWhile_clockChars {hour minute second micro : ℕ} (hh : hour < 100)
    (hm : minute < 100) (hs : second < 100) (hu : micro < 1000000) {sign : Char}
    (hsign : sign = '-' ∨ sign = '+') (rest : List Char) :
    (clockChars hour minute second micro ++ sign :: rest).takeWhile
      (fun c => c ≠ '+' && c ≠ '-' && c ≠ 'Z') = clockChars hour minute second micro := by
  have hstop : ∀ c ∈ clockChars hour minute second micro,
      (c ≠ '+' && c ≠ '-' && c ≠ 'Z') = true := by
    intro c hc
    rcases mem_clockChars hh hm hs hu c hc with h | rfl | rfl
    · simp only [ne_eq, Bool.and_eq_true, decide_eq_true_eq]
      refine ⟨⟨?_, ?_⟩, ?_⟩ <;>
      · rintro rfl
        exact absurd h (by decide)
    · decide
    · decide
  have hends : (sign ≠ '+' && sign ≠ '-' && sign ≠ 'Z') = false := by
    rcases hsign with rfl | rfl
    · decide
    · decide
  rw [List.takeWhile_append_of_pos hstop, List.takeWhile_cons, hends]
  simp

/-- An offset that is put together from its sign, its seconds and the rest. -/
theorem heldOffset_eq (offset : Int) : (if offset < 0 then
      -(if ((offset.natAbs / 1000000 : ℕ) : Int) = 0 then 0
        else ((offset.natAbs / 1000000 : ℕ) : Int) * 1000000 + (offset.natAbs % 1000000 : ℕ))
      else if ((offset.natAbs / 1000000 : ℕ) : Int) = 0 then 0
        else ((offset.natAbs / 1000000 : ℕ) : Int) * 1000000 + (offset.natAbs % 1000000 : ℕ)) =
    heldOffset offset := by
  rw [heldOffset]
  split <;> split <;> split <;> omega

/-- Of an offset the sign and the size are read. -/
theorem readTime?_clock {hour minute second micro : ℕ} (hh : hour < 100) (hm : minute < 100)
    (hs : second < 100) (hu : micro < 1000000) {offset : Int}
    (hoffset : offset.natAbs < 86400000000) :
    readTime? (clockChars hour minute second micro ++ (offsetText offset).toList) =
      some (⟨[hour, minute, second], micro, true⟩, some (heldOffset offset)) := by
  obtain ⟨zone, hzone, htrail, hseconds, hmicro⟩ := readsZone_sizeText hoffset
  have hwhole : (zone.field 0 : Int) * 3600 + zone.field 1 * 60 + zone.field 2 =
      (offset.natAbs / 1000000 : ℕ) := by
    exact_mod_cast hseconds
  rw [offsetText_toList]
  generalize (sizeText offset.natAbs).toList = zoneText at *
  have hsign : ∀ sign, sign = '-' ∨ sign = '+' → EndsDigits (sign :: zoneText) := by
    intro sign hsign c hc
    obtain rfl : sign = c := Option.some.inj hc
    rcases hsign with rfl | rfl
    · rfl
    · rfl
  have hheld := heldOffset_eq offset
  by_cases hneg : offset < 0
  · rw [if_pos hneg] at hheld ⊢
    rw [readTime?, takeWhile_clockChars hh hm hs hu (Or.inl rfl),
      readClock?_clockChars hh hm hs hu (hsign _ (Or.inl rfl)), List.drop_left, ← hheld]
    simp [hzone, htrail, hwhole, hmicro]
  · rw [if_neg hneg] at hheld ⊢
    rw [readTime?, takeWhile_clockChars hh hm hs hu (Or.inr rfl),
      readClock?_clockChars hh hm hs hu (hsign _ (Or.inr rfl)), List.drop_left, ← hheld]
    simp [hzone, htrail, hwhole, hmicro]

/-! ### Dates -/

theorem readDate?_fields {year month day : ℕ} {ys ms ds : List Char} (hy : IsField 4 year ys)
    (hm : IsField 2 month ms) (hd : IsField 2 day ds) (rest : List Char) :
    readDate? 10 (ys ++ '-' :: (ms ++ '-' :: (ds ++ rest))) = some (year, month, day) := by
  obtain ⟨c, tail, hms, hc⟩ := hm.head (by decide)
  have hweek : ms.head?.getD '-' ≠ 'W' := by
    rw [hms]
    rintro rfl
    exact absurd hc (by decide)
  rw [readDate?, digitsAt?_append hy]
  simp [hweek, digitsAt?_append hm, digitsAt?_append hd]

theorem datePartLength?_dashed (rest : List Char) {ys ms : List Char} {year month : ℕ}
    (hy : IsField 4 year ys) (hm : IsField 2 month ms) (hrest : 1 < rest.length) :
    datePartLength? (ys ++ '-' :: (ms ++ rest)) = some 10 := by
  obtain ⟨c, tail, hms, hc⟩ := hm.head (by decide)
  have hfive : (ys ++ '-' :: (ms ++ rest))[4]? = some '-' := by
    rw [List.getElem?_append_right (by rw [hy.length]), hy.length]
    rfl
  have hsix : (ys ++ '-' :: (ms ++ rest))[5]? = some c := by
    rw [List.getElem?_append_right (by rw [hy.length]; decide), hy.length, hms]
    rfl
  have hlen : (ys ++ '-' :: (ms ++ rest)).length ≠ 7 := by
    simp only [List.length_append, List.length_cons, hy.length, hm.length]
    omega
  have hweek : some c ≠ some 'W' := by
    intro h
    obtain rfl : c = 'W' := Option.some.inj h
    exact absurd hc (by decide)
  unfold datePartLength?
  dsimp only
  rw [if_neg hlen, if_pos hfive, hsix, if_neg hweek]

/-- A point in time with every field within its range. -/
structure IsMoment (t : Timestamp) : Prop where
  year_pos : 0 < t.year
  year_le : t.year ≤ 9999
  month_pos : 0 < t.month
  month_le : t.month ≤ 12
  day_pos : 0 < t.day
  day_le : t.day ≤ daysInMonth t.year t.month
  hour_lt : t.hour < 24
  minute_lt : t.minute < 60
  second_lt : t.second < 60
  micro_lt : t.micro < 1000000
  offset_lt : t.offset.natAbs < 86400000000

theorem daysInMonth_le (year month : ℕ) : daysInMonth year month ≤ 31 := by
  unfold daysInMonth
  split <;> split <;> omega

theorem IsMoment.read? {t : Timestamp} (h : IsMoment t) :
    read? t.isoText.toList = some { t with offset := heldOffset t.offset } := by
  have hdays := daysInMonth_le t.year t.month
  have hy := pad_isField 4 (n := t.year) (by decide) (by have := h.year_le; omega)
  have hm := pad_isField 2 (n := t.month) (by decide) (by have := h.month_le; omega)
  have hd := pad_isField 2 (n := t.day) (by decide) (by have := h.day_le; omega)
  have hhour : t.hour < 100 := by have := h.hour_lt; omega
  have hminute : t.minute < 100 := by have := h.minute_lt; omega
  have hsecond : t.second < 100 := by have := h.second_lt; omega
  have hclock := readTime?_clock hhour hminute hsecond h.micro_lt h.offset_lt
  have htext : t.isoText.toList = (pad 4 t.year).toList ++ '-' :: ((pad 2 t.month).toList ++
      '-' :: ((pad 2 t.day).toList ++ 'T' :: (clockChars t.hour t.minute t.second t.micro ++
        (offsetText t.offset).toList))) := by
    by_cases hmicro : t.micro = 0 <;> simp [isoText, dateText, clockText, clockChars, hmicro]
  rw [htext]
  generalize clockChars t.hour t.minute t.second t.micro ++ (offsetText t.offset).toList = time at *
  have hlength : ((pad 4 t.year).toList ++ '-' :: ((pad 2 t.month).toList ++
      '-' :: ((pad 2 t.day).toList ++ 'T' :: time))).length = 11 + time.length := by
    simp only [List.length_append, List.length_cons, hy.length, hm.length, hd.length]
    omega
  have hdrop : ((pad 4 t.year).toList ++ '-' :: ((pad 2 t.month).toList ++
      '-' :: ((pad 2 t.day).toList ++ 'T' :: time))).drop 11 = time := by
    have hsplit : (pad 4 t.year).toList ++ '-' :: ((pad 2 t.month).toList ++
        '-' :: ((pad 2 t.day).toList ++ 'T' :: time)) = ((pad 4 t.year).toList ++
          '-' :: ((pad 2 t.month).toList ++ '-' :: ((pad 2 t.day).toList ++ ['T']))) ++ time := by
      simp
    rw [hsplit]
    apply List.drop_left'
    simp [hy.length, hm.length, hd.length]
  have hpart := datePartLength?_dashed ('-' :: ((pad 2 t.day).toList ++ 'T' :: time)) hy hm
    (by simp)
  have hlong : ¬ 11 + time.length < 7 := by omega
  have hmore : ¬ 11 + time.length ≤ 10 := by omega
  rw [Timestamp.read?, hlength]
  simp only [hlong, hpart, readDate?_fields hy hm hd, hmore, hdrop, hclock, if_false,
    Option.bind_eq_bind, Option.bind_some]
  rfl

theorem IsMoment.withHeldOffset {t : Timestamp} (h : IsMoment t) :
    IsMoment { t with offset := heldOffset t.offset } := by
  refine ⟨h.year_pos, h.year_le, h.month_pos, h.month_le, h.day_pos, h.day_le, h.hour_lt,
    h.minute_lt, h.second_lt, h.micro_lt, ?_⟩
  have := h.offset_lt
  show (heldOffset t.offset).natAbs < 86400000000
  unfold heldOffset
  split <;> omega

theorem IsMoment.checked {t : Timestamp} (h : IsMoment t) : checked t = .ok t := by
  have h1 := h.year_pos
  have h2 := h.year_le
  have h3 := h.month_pos
  have h4 := h.month_le
  have h5 := h.day_pos
  have h6 := h.day_le
  have h7 := h.hour_lt
  have h8 := h.minute_lt
  have h9 := h.second_lt
  have h10 := h.offset_lt
  unfold Timestamp.checked dayMicros
  rw [if_neg (by omega), if_neg (by omega), if_neg (by omega), if_neg (by omega),
    if_neg (by omega), if_neg (by omega), if_neg (by omega)]

/-- The text of a point in time reads back. -/
theorem IsMoment.parse_isoText {t : Timestamp} (h : IsMoment t) :
    parse t.isoText = .ok { t with offset := heldOffset t.offset } := by
  rw [parse, h.read?]
  exact h.withHeldOffset.checked

/-- The point in time that is read from the text of one. -/
def reread (t : Timestamp) : Timestamp :=
  match parse t.isoText with
  | .ok read => read
  | .error _ => t

/-- A point in time whose text can be read, as often as one likes. -/
structure Readable (t : Timestamp) : Prop where
  once : parse t.isoText = .ok t.reread
  again : parse t.reread.isoText = .ok t.reread

theorem IsMoment.reread_eq {t : Timestamp} (h : t.IsMoment) :
    t.reread = { t with offset := heldOffset t.offset } := by
  rw [reread, h.parse_isoText]

theorem IsMoment.readable {t : Timestamp} (h : t.IsMoment) : t.Readable := by
  have hfix : heldOffset (heldOffset t.offset) = heldOffset t.offset := by
    unfold heldOffset
    split <;> simp_all
  constructor
  · rw [h.reread_eq, h.parse_isoText]
  · rw [h.reread_eq, h.withHeldOffset.parse_isoText]
    simp only [hfix]

theorem readable_of_parse {t : Timestamp} (h : parse t.isoText = .ok t) :
    t.Readable ∧ t.reread = t := by
  have hreread : t.reread = t := by rw [reread, h]
  exact ⟨⟨by rw [hreread, h], by rw [hreread, h]⟩, hreread⟩

/-! ### Times that are read

Which points in time a text can name. Each of their fields is within its range, and an offset is
none or at least one second, so the text that is written for such a point reads back as the same
point.
-/

/-- A point in time that is read from some text. -/
def IsRead (t : Timestamp) : Prop := ∃ text, parse text = .ok t

theorem digitsAt?_lt {count value : ℕ} {s rest : List Char}
    (h : digitsAt? count s = some (value, rest)) : value < 10 ^ count := by
  unfold digitsAt? at h
  dsimp only at h
  split at h
  next hdigits =>
    rw [Bool.and_eq_true, decide_eq_true_eq, List.all_eq_true] at hdigits
    obtain ⟨hlength, hall⟩ := hdigits
    simp only [Option.some.injEq, Prod.mk.injEq] at h
    have hlt : digitsValue (s.take count) < 10 ^ (s.take count).length := digitsValue_lt hall
    rw [hlength] at hlt
    rw [← h.1]
    exact hlt
  next => cases h

theorem readFraction?_micro {fields : List ℕ} {room : ℕ} {s : List Char} {clock : Clock}
    (h : readFraction? fields room s = some clock) : clock.micro < 1000000 := by
  simp only [readFraction?, Option.bind_eq_bind, Option.bind_eq_some_iff, Option.some.injEq] at h
  obtain ⟨⟨value, rest⟩, hdigits, rfl⟩ := h
  have hvalue := digitsAt?_lt hdigits
  dsimp only
  split
  next hfew =>
    -- the digits that are missing stand for zeros
    have hpow : 10 ^ min room 6 * 10 ^ (6 - min room 6) = 1000000 := by
      rw [← pow_add, Nat.add_sub_cancel' hfew.le]
      norm_num
    rw [← hpow]
    exact Nat.mul_lt_mul_of_pos_right hvalue (pow_pos (by decide) _)
  next hmany =>
    have hsix : min room 6 = 6 := Nat.le_antisymm (Nat.min_le_right _ _) (Nat.le_of_not_lt hmany)
    rw [hsix] at hvalue
    exact hvalue

theorem readClock?_micro {colons : Bool} {fields : List ℕ} {left space : ℕ} {s : List Char}
    {clock : Clock} (h : readClock? colons fields left space s = some clock) :
    clock.micro < 1000000 := by
  induction left generalizing colons fields space s with
  | zero => exact readFraction?_micro h
  | succ left ih =>
    simp only [readClock?, Option.bind_eq_bind, Option.bind_eq_some_iff] at h
    obtain ⟨⟨value, rest⟩, -, h⟩ := h
    dsimp only at h
    generalize decide (if (fields ++ [value]).length = 1 then rest.head? = some ':'
      else colons = true) = marked at h
    split at h
    · cases h
      exact Nat.zero_lt_succ _
    · split at h
      · exact ih h
      · split at h
        · exact readFraction?_micro h
        · split at h
          · exact ih h
          · cases h

theorem heldOffset_signed {size : ℤ} (h : size = 0 ∨ 1000000 ≤ size) (back : Prop)
    [Decidable back] :
    heldOffset (if back then -size else size) = if back then -size else size := by
  rw [heldOffset, ite_eq_right_iff]
  intro hsmall
  by_cases hback : back
  · rw [if_pos hback] at hsmall ⊢
    omega
  · rw [if_neg hback] at hsmall ⊢
    omega

/-- An offset that is read is none or at least one second. -/
theorem readTime?_bounds {s : List Char} {clock : Clock} {offset : Option ℤ}
    (h : readTime? s = some (clock, offset)) :
    clock.micro < 1000000 ∧ heldOffset (offset.getD 0) = offset.getD 0 := by
  simp only [readTime?, Option.bind_eq_bind, Option.bind_eq_some_iff] at h
  obtain ⟨read, hread, h⟩ := h
  have hmicro := readClock?_micro hread
  split at h
  · split at h
    · cases h
    · cases h
      exact ⟨hmicro, rfl⟩
  · split at h
    · cases h
      exact ⟨hmicro, rfl⟩
    · cases h
  · -- a sign stands before the offset
    simp only [Option.bind_eq_some_iff] at h
    obtain ⟨zone, -, h⟩ := h
    split at h
    · cases h
    · simp only [Option.some.injEq, Prod.mk.injEq] at h
      obtain ⟨rfl, rfl⟩ := h
      refine ⟨hmicro, heldOffset_signed ?_ _⟩
      split
      · exact Or.inl rfl
      · exact Or.inr (by omega)

theorem checked_eq_ok {t u : Timestamp} (h : checked t = .ok u) (hmicro : t.micro < 1000000) :
    t = u ∧ t.IsMoment := by
  unfold checked dayMicros at h
  repeat' split at h
  all_goals cases h
  refine ⟨rfl, ?_, ?_, ?_, ?_, ?_, ?_, ?_, ?_, ?_, hmicro, ?_⟩
  all_goals omega

theorem read?_bounds {s : List Char} {t : Timestamp} (h : read? s = some t) :
    t.micro < 1000000 ∧ heldOffset t.offset = t.offset := by
  simp only [read?, Option.bind_eq_bind] at h
  split at h
  · cases h
  · simp only [Option.bind_eq_some_iff] at h
    obtain ⟨length, -, ⟨year, month, day⟩, -, h⟩ := h
    dsimp only at h
    split at h
    · cases h
      exact ⟨Nat.zero_lt_succ _, rfl⟩
    · simp only [Option.bind_eq_some_iff, Option.some.injEq] at h
      obtain ⟨⟨clock, offset⟩, htime, rfl⟩ := h
      exact readTime?_bounds htime

/-- What is read from a text is written as a text that reads back. -/
theorem IsRead.parse_isoText {t : Timestamp} (h : t.IsRead) : parse t.isoText = .ok t := by
  obtain ⟨text, htext⟩ := h
  unfold parse at htext
  split at htext
  next read hread =>
    obtain ⟨hmicro, hoffset⟩ := read?_bounds hread
    obtain ⟨rfl, hmoment⟩ := checked_eq_ok htext hmicro
    rw [hmoment.parse_isoText, hoffset]
  next => cases htext

theorem IsRead.readable {t : Timestamp} (h : t.IsRead) : t.Readable :=
  (readable_of_parse h.parse_isoText).1

theorem IsRead.reread_eq {t : Timestamp} (h : t.IsRead) : t.reread = t :=
  (readable_of_parse h.parse_isoText).2

end RepoAtlas.Timestamp
