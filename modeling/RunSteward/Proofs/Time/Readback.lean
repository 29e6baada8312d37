import Mathlib.Algebra.Group.Nat.Defs
import RunSteward.Proofs.Text.Span
import RunSteward.Time.Reader

/-!
# Stamps read back

The text of a stamp is read as the stamp that it was written for, with one exception: an offset of less than a second is
taken for none (`Stamp.read?_text`). Date, clock and offset are read by themselves, for each number is written with as
many digits as are read (`takeDigits?_padded`), and no character of a clock may begin an offset (`clockText_char`).
-/

namespace RunSteward

/-- An offset as it is read back from its text: where it has no whole second, nothing of it is left. -/
def Offset.asRead (o : Offset) : Offset :=
  if o.micros.natAbs < 1000000 then .utc else o

theorem Date.of?_self (d : Date) : Date.of? d.year d.month d.day = some d := by
  rw [Date.of?, dif_pos d.year_mem, dif_pos d.month_mem, dif_pos d.day_mem]

theorem TimeOfDay.of?_self (t : TimeOfDay) : TimeOfDay.of? t.hour t.minute t.second t.micro = some t := by
  rw [TimeOfDay.of?, dif_pos t.hour_lt, dif_pos t.minute_lt, dif_pos t.second_lt, dif_pos t.micro_lt]

namespace Stamp

open Json (isAsciiDigit digitsValue)

variable {width n : Nat} {rest after : List Char}

/-! ## Padded numbers -/

theorem padded_digit {c : Char} (h : c ∈ padded width n) : isAsciiDigit c = true := by
  rcases List.mem_append.mp h with hzero | hdigit
  · obtain rfl := List.eq_of_mem_replicate hzero
    decide
  · have hdigit := Nat.isDigit_of_mem_toDigits (by decide) (by decide) hdigit
    simpa [Char.isDigit, isAsciiDigit, Char.le_def] using hdigit

theorem padded_ne_nil (width n : Nat) : padded width n ≠ [] := by
  simp [padded, Nat.toDigits_ne_nil]

theorem length_padded (hwidth : 0 < width) (h : n < 10 ^ width) : (padded width n).length = width := by
  have hdigits := (Nat.length_toDigits_le_iff (by decide) hwidth).mpr h
  rw [padded, List.length_append, List.length_replicate]
  omega

theorem digitsValue_padded (width n : Nat) : digitsValue (padded width n) = n := by
  change Nat.ofDigitChars 10 (padded width n) 0 = n
  rw [padded, Nat.ofDigitChars_append, Nat.ofDigitChars_replicate_zero, Nat.mul_zero,
    Nat.ofDigitChars_toDigits (by decide) (by decide)]

theorem takeDigits?_padded (hwidth : 0 < width) (h : n < 10 ^ width) (rest : List Char) :
    takeDigits? width (padded width n ++ rest) = some (n, rest) := by
  have hlength := length_padded hwidth h
  have hdigits : (padded width n).all isAsciiDigit = true := List.all_eq_true.mpr fun _ => padded_digit
  unfold takeDigits?
  rw [List.take_left' hlength, List.drop_left' hlength]
  simp [hlength, hdigits, digitsValue_padded]

@[simp] theorem peek_cons (c : Char) (s : List Char) : peek (c :: s) = c :=
  rfl

/-- A padded number begins with a digit, so with none of the marks that are asked for. -/
theorem peek_padded (width n : Nat) (rest : List Char) : isAsciiDigit (peek (padded width n ++ rest)) = true := by
  obtain ⟨c, row, hrow⟩ := List.exists_cons_of_ne_nil (padded_ne_nil width n)
  have hmem : c ∈ padded width n := by simp [hrow]
  have hdigit := padded_digit hmem
  simpa [hrow] using hdigit

/-! ## Dates -/

theorem dateText_eq (d : Date) :
    dateText d = padded 4 d.year ++ '-' :: (padded 2 d.month ++ '-' :: (padded 2 d.day ++ [])) := by
  simp [dateText]

theorem date_bounds (d : Date) : d.year < 10 ^ 4 ∧ d.month < 10 ^ 2 ∧ d.day < 10 ^ 2 := by
  have hyear := d.year_mem
  have hmonth := d.month_mem
  have hday := d.day_mem
  have hdays : daysInMonth d.year d.month ≤ 31 := by
    unfold daysInMonth
    split_ifs <;> omega
  omega

theorem length_dateText (d : Date) : (dateText d).length = 10 := by
  obtain ⟨hyear, hmonth, hday⟩ := date_bounds d
  simp [dateText_eq, length_padded (by decide) hyear, length_padded (by decide) hmonth, length_padded (by decide) hday]

theorem month_not_week (d : Date) (rest : List Char) : peek (padded 2 d.month ++ rest) ≠ 'W' := by
  intro heq
  have hdigit := peek_padded 2 d.month rest
  rw [heq] at hdigit
  exact absurd hdigit (by decide)

theorem readDate?_dateText (d : Date) : readDate? (dateText d) = some d := by
  obtain ⟨hyear, hmonth, hday⟩ := date_bounds d
  rw [dateText_eq, readDate?, takeDigits?_padded (by decide) hyear]
  simp only [peek_cons, if_true, List.drop_one, List.tail_cons, Option.bind_eq_bind, Option.bind_some]
  rw [if_neg (month_not_week d _), takeDigits?_padded (by decide) hmonth]
  simp only [peek_cons, if_true, List.tail_cons, Option.bind_some]
  rw [takeDigits?_padded (by decide) hday]
  exact d.of?_self

/-- A date of this form is known by the hyphen behind its year, whatever follows it. -/
theorem dateLength?_dateText (d : Date) (rest : List Char) : dateLength? (dateText d ++ rest) = some 10 := by
  have hlong : (dateText d ++ rest).length ≠ 7 := by
    rw [List.length_append, length_dateText]
    omega
  have hyear : (dateText d ++ rest).drop 4 = '-' :: (padded 2 d.month ++ '-' :: (padded 2 d.day ++ rest)) := by
    simpa [dateText_eq] using List.drop_left' (length_padded (by decide) (date_bounds d).1)
  have hhyphen : (dateText d ++ rest).drop 5 = padded 2 d.month ++ '-' :: (padded 2 d.day ++ rest) := by
    rw [show 5 = 4 + 1 from rfl, ← List.drop_drop, hyear]
    rfl
  unfold dateLength?
  simp only [if_neg hlong, hyear, hhyphen, peek_cons, if_true, if_neg (month_not_week d _)]

/-! ## Clocks -/

/-- Where a clock ends: what follows it is an ASCII character, if anything, and no digit. -/
structure ClockEnd (after : List Char) : Prop where
  ascii : (peek after).toNat < 0x80
  ends : Text.EndsAt isAsciiDigit after

variable {parts micro : Nat} {done : List Nat} {colons : Bool}

theorem readClock?_colon (hn : n < 100) (hfirst : done = [] ∨ colons = true) (hrest : rest ≠ []) :
    readClock? colons after (parts + 2) done (padded 2 n ++ ':' :: rest) =
      readClock? true after (parts + 1) (n :: done) rest := by
  have hcolons : if (n :: done).length = 1 then True else colons = true := by
    rcases hfirst with rfl | rfl <;> simp
  have hlong : ¬((':' :: rest).length ≤ 1 ∧ ':'.toNat < 0x80) := by
    have hlength := List.length_pos_iff.mpr hrest
    rw [List.length_cons]
    omega
  have hpoint : ¬(':' = '.' ∨ ':' = ',') := by decide
  have hmissing : ¬((if (n :: done).length = 1 then True else colons = true) ∧ ':' ≠ ':') := fun h => h.2 rfl
  rw [readClock?, takeDigits?_padded (by decide) hn]
  simp only [Option.bind_eq_bind, Option.bind_some, List.cons_append, peek_cons]
  rw [if_neg hlong, if_neg hpoint, if_neg hmissing, if_neg (Nat.succ_ne_zero parts), if_pos hcolons,
    decide_eq_true hcolons, List.drop_one, List.tail_cons]

theorem readClock?_last (hn : n < 100) (hend : ClockEnd after) :
    readClock? colons after (parts + 1) done (padded 2 n) =
      some ⟨(n :: done).reverse.getD 0 0, (n :: done).reverse.getD 1 0, (n :: done).reverse.getD 2 0, 0,
        peek after != '\x00'⟩ := by
  have htake : takeDigits? 2 (padded 2 n) = some (n, []) := by simpa using takeDigits?_padded (by decide) hn []
  have hshort : ([] : List Char).length ≤ 1 ∧ (peek after).toNat < 0x80 := ⟨by simp, hend.ascii⟩
  rw [readClock?, htake]
  simp only [Option.bind_eq_bind, Option.bind_some, List.nil_append]
  rw [if_pos hshort]
  rfl

theorem readFraction?_padded (hmicro : micro < 1000000) (hend : ClockEnd after) :
    readFraction? (padded 6 micro) after = some (micro, peek after != '\x00') := by
  have hcount : min (padded 6 micro).length 6 = 6 := by rw [length_padded (by decide) hmicro, Nat.min_self]
  have hbehind : ([] ++ after).dropWhile isAsciiDigit = after := Text.dropWhile_append_endsAt (by simp) hend.ends
  rw [List.nil_append] at hbehind
  have htake : takeDigits? 6 (padded 6 micro ++ after) = some (micro, after) :=
    takeDigits?_padded (by decide) hmicro after
  rw [readFraction?, hcount]
  simp [htake, hbehind]

theorem readClock?_fraction (hn : n < 100) (hmicro : micro < 1000000) (hend : ClockEnd after) :
    readClock? colons after (parts + 1) done (padded 2 n ++ '.' :: padded 6 micro) =
      some ⟨(n :: done).reverse.getD 0 0, (n :: done).reverse.getD 1 0, (n :: done).reverse.getD 2 0, micro,
        peek after != '\x00'⟩ := by
  have hlong : ¬(('.' :: padded 6 micro).length ≤ 1 ∧ '.'.toNat < 0x80) := by
    rw [List.length_cons, length_padded (by decide) hmicro]
    omega
  rw [readClock?, takeDigits?_padded (by decide) hn]
  simp only [Option.bind_eq_bind, Option.bind_some, List.cons_append, peek_cons]
  rw [if_neg hlong, if_pos (.inl trivial), List.drop_one, List.tail_cons, readFraction?_padded hmicro hend]
  rfl

theorem clockText_eq (hour minute second micro : Nat) :
    clockText hour minute second micro = padded 2 hour ++ ':' :: (padded 2 minute ++ ':' ::
      (padded 2 second ++ if micro = 0 then [] else '.' :: padded 6 micro)) := by
  simp [clockText]

theorem readClock?_clockText {hour minute second : Nat} (hhour : hour < 100) (hminute : minute < 100)
    (hsecond : second < 100) (hmicro : micro < 1000000) (hend : ClockEnd after) :
    readClock? colons after 3 [] (clockText hour minute second micro) =
      some ⟨hour, minute, second, micro, peek after != '\x00'⟩ := by
  have hne : ∀ (width n : Nat) (rest : List Char), padded width n ++ rest ≠ [] := fun width n rest h =>
    padded_ne_nil width n (List.append_eq_nil_iff.mp h).1
  rw [clockText_eq, readClock?_colon hhour (.inl rfl) (hne _ _ _), readClock?_colon hminute (.inr rfl) (hne _ _ _)]
  by_cases hzero : micro = 0
  · rw [if_pos hzero, List.append_nil, readClock?_last hsecond hend, hzero]
    rfl
  · rw [if_neg hzero, readClock?_fraction hsecond hmicro hend]
    rfl

theorem clockEnd_nil : ClockEnd [] :=
  ⟨by decide, Text.endsAt_nil _⟩

/-! ## Offsets -/

theorem readOffset?_of_clock {o : Offset} {text : List Char} {hour minute second : Nat}
    (hclock : readClock? true [] 3 [] text = some ⟨hour, minute, second, micro, false⟩) (hmicro : micro < 1000000)
    (hsize : o.micros.natAbs = ((hour * 60 + minute) * 60 + second) * 1000000 + micro) :
    readOffset? (decide (o.micros < 0)) text = some o.asRead := by
  rw [readOffset?, hclock]
  simp only [Option.bind_eq_bind, Option.bind_some, Bool.false_eq_true, if_false]
  generalize (hour * 60 + minute) * 60 + second = seconds at hsize ⊢
  by_cases hzero : seconds = 0
  · rw [if_pos hzero, Offset.asRead, if_pos (by omega)]
    rfl
  · have hvalue : (if decide (o.micros < 0) = true then -((seconds : Int) * 1000000 + micro)
        else (seconds : Int) * 1000000 + micro) = o.micros := by
      by_cases hnegative : o.micros < 0
      · rw [if_pos (decide_eq_true hnegative)]
        omega
      · rw [if_neg (by simpa using hnegative)]
        omega
    rw [if_neg hzero, hvalue, Offset.of?, dif_pos o.micros_lt, Offset.asRead, if_neg (by omega)]

theorem readOffset?_offsetText (o : Offset) : ∃ sign text, offsetText o = sign :: text ∧ (sign = '+' ∨ sign = '-') ∧
    readOffset? (decide (sign = '-')) text = some o.asRead := by
  have hbound : o.micros.natAbs < 86400000000 := o.micros_lt
  obtain ⟨n, hn⟩ : ∃ n, o.micros.natAbs = n := ⟨_, rfl⟩
  have hhour : n / 3600000000 < 100 := by omega
  have hminute : n / 60000000 % 60 < 100 := by omega
  have hsecond : n / 1000000 % 60 < 100 := by omega
  have hmicro : n % 1000000 < 1000000 := Nat.mod_lt _ (by decide)
  have hsize : o.micros.natAbs =
      ((n / 3600000000 * 60 + n / 60000000 % 60) * 60 + n / 1000000 % 60) * 1000000 + n % 1000000 := by
    omega
  have hsign : (if o.micros < 0 then '-' else '+') = '+' ∨ (if o.micros < 0 then '-' else '+') = '-' := by
    split <;> simp
  have hnegative : decide ((if o.micros < 0 then '-' else '+') = '-') = decide (o.micros < 0) := by
    split <;> simp [*]
  unfold offsetText
  rw [hn]
  by_cases hshort : n % 1000000 = 0 ∧ n / 1000000 % 60 = 0
  · rw [hshort.1, hshort.2] at hsize
    refine ⟨_, _, by rw [if_pos hshort], hsign, ?_⟩
    rw [hnegative]
    refine readOffset?_of_clock ?_ (by decide) hsize
    rw [readClock?_colon hhour (.inl rfl) (padded_ne_nil _ _), readClock?_last hminute clockEnd_nil]
    rfl
  · refine ⟨_, _, by rw [if_neg hshort], hsign, ?_⟩
    rw [hnegative]
    exact readOffset?_of_clock (readClock?_clockText hhour hminute hsecond hmicro clockEnd_nil) hmicro hsize

/-! ## Times -/

theorem clockText_char {hour minute second : Nat} {c : Char} (h : c ∈ clockText hour minute second micro) :
    isAsciiDigit c = true ∨ c = ':' ∨ c = '.' := by
  rw [clockText_eq] at h
  simp only [List.mem_append, List.mem_cons] at h
  rcases h with h | rfl | h | rfl | h | h
  · exact .inl (padded_digit h)
  · exact .inr (.inl rfl)
  · exact .inl (padded_digit h)
  · exact .inr (.inl rfl)
  · exact .inl (padded_digit h)
  · split at h
    · cases h
    · rcases List.mem_cons.mp h with rfl | h
      · exact .inr (.inr rfl)
      · exact .inl (padded_digit h)

/-- What stands behind the clock of a stamp. -/
def zoneText (o : Option Offset) : List Char :=
  match o with
  | none => []
  | some o => offsetText o

theorem clockEnd_offset {sign : Char} (h : sign = '+' ∨ sign = '-') (rest : List Char) : ClockEnd (sign :: rest) := by
  rcases h with rfl | rfl
  · exact ⟨by rw [peek_cons]; decide, .cons (by decide) _⟩
  · exact ⟨by rw [peek_cons]; decide, .cons (by decide) _⟩

/-- No character of a clock is one that begins an offset, so the clock ends where the offset begins. -/
theorem readTime?_text (t : TimeOfDay) (o : Option Offset) :
    readTime? (clockText t.hour t.minute t.second t.micro ++ zoneText o) = some (t, o.map Offset.asRead) := by
  have hclock : ∀ c ∈ clockText t.hour t.minute t.second t.micro,
      (!(decide (c = '+') || decide (c = '-') || decide (c = 'Z'))) = true := by
    intro c hc
    have hplain : ∀ d, isAsciiDigit d = true ∨ d = ':' ∨ d = '.' → d ≠ '+' ∧ d ≠ '-' ∧ d ≠ 'Z' := by
      rintro d hd
      refine ⟨?_, ?_, ?_⟩ <;> rintro rfl <;> exact absurd hd (by decide)
    simp [hplain c (clockText_char hc)]
  have hread : ∀ {after}, ClockEnd after → readClock? true after 3 [] (clockText t.hour t.minute t.second t.micro) =
      some ⟨t.hour, t.minute, t.second, t.micro, peek after != '\x00'⟩ :=
    readClock?_clockText (Nat.lt_trans t.hour_lt (by decide)) (Nat.lt_trans t.minute_lt (by decide))
      (Nat.lt_trans t.second_lt (by decide)) t.micro_lt
  unfold readTime?
  simp only [Option.bind_eq_bind]
  cases o with
  | none =>
    rw [zoneText, Text.takeWhile_append_endsAt hclock (Text.endsAt_nil _),
      Text.dropWhile_append_endsAt hclock (Text.endsAt_nil _), hread clockEnd_nil, Option.bind_some,
      t.of?_self]
    rfl
  | some o =>
    obtain ⟨sign, text, htext, hsign, hoffset⟩ := readOffset?_offsetText o
    rw [zoneText, htext]
    have hends : Text.EndsAt (fun c => !(decide (c = '+') || decide (c = '-') || decide (c = 'Z'))) (sign :: text) := by
      rcases hsign with rfl | rfl <;> exact .cons (by decide) _
    have hletter : sign ≠ 'Z' := by
      rcases hsign with rfl | rfl <;> decide
    rw [Text.takeWhile_append_endsAt hclock hends, Text.dropWhile_append_endsAt hclock hends,
      hread (clockEnd_offset hsign text), Option.bind_some, t.of?_self, Option.bind_some]
    split
    · contradiction
    · rename_i heq
      exact absurd (List.cons.inj heq).1 hletter
    · rename_i heq
      obtain ⟨rfl, rfl⟩ := List.cons.inj heq
      rw [hoffset]
      rfl

/-! ## Stamps -/

theorem text_eq (s : Stamp) : s.text.toList = dateText s.date ++ 'T' ::
    (clockText s.time.hour s.time.minute s.time.second s.time.micro ++ zoneText s.offset) := by
  rcases s with ⟨date, time, _ | o⟩ <;> simp [text, zoneText]

/-- The characters that stamps are written with. -/
def isStampChar (c : Char) : Bool :=
  isAsciiDigit c || ['-', 'T', ':', '.', '+'].contains c

theorem isStampChar_of_mem_clockText {hour minute second : Nat} {c : Char} (h : c ∈ clockText hour minute second micro) :
    isStampChar c = true := by
  rcases clockText_char h with hdigit | rfl | rfl
  · simp [isStampChar, hdigit]
  · decide
  · decide

theorem isStampChar_of_mem_zoneText {o : Option Offset} {c : Char} (h : c ∈ zoneText o) : isStampChar c = true := by
  cases o with
  | none => cases h
  | some o =>
    have hsign : isStampChar (if o.micros < 0 then '-' else '+') = true := by
      split <;> decide
    rw [zoneText, offsetText] at h
    split at h
    · rcases List.mem_cons.mp h with rfl | h
      · exact hsign
      · rcases List.mem_append.mp h with h | h
        · simp [isStampChar, padded_digit h]
        · rcases List.mem_cons.mp h with rfl | h
          · decide
          · simp [isStampChar, padded_digit h]
    · rcases List.mem_cons.mp h with rfl | h
      · exact hsign
      · exact isStampChar_of_mem_clockText h

theorem isStampChar_of_mem_text {s : Stamp} {c : Char} (h : c ∈ s.text.toList) : isStampChar c = true := by
  rw [text_eq, dateText_eq] at h
  simp only [List.mem_append, List.mem_cons, List.not_mem_nil, or_false] at h
  rcases h with (h | rfl | h | rfl | h) | rfl | h | h
  · simp [isStampChar, padded_digit h]
  · decide
  · simp [isStampChar, padded_digit h]
  · decide
  · simp [isStampChar, padded_digit h]
  · decide
  · exact isStampChar_of_mem_clockText h
  · exact isStampChar_of_mem_zoneText h

/-- **Stamps are read back**, but for an offset of less than a second. -/
theorem read?_text (s : Stamp) : read? s.text = some { s with offset := s.offset.map Offset.asRead } := by
  have hdate := length_dateText s.date
  have htime := readTime?_text s.time s.offset
  unfold read?
  simp only [Option.bind_eq_bind, text_eq]
  generalize clockText s.time.hour s.time.minute s.time.second s.time.micro ++ zoneText s.offset = time at htime ⊢
  have hlength : (dateText s.date ++ 'T' :: time).length = 11 + time.length := by
    rw [List.length_append, hdate, List.length_cons]
    omega
  have hbehind : (dateText s.date ++ 'T' :: time).drop (10 + 1) = time := by
    rw [← List.drop_drop, List.drop_left' hdate]
    rfl
  rw [if_neg (by omega), dateLength?_dateText, Option.bind_some, List.take_left' hdate, readDate?_dateText,
    Option.bind_some, if_neg (by omega), hbehind, htime]
  rfl

end Stamp

end RunSteward
