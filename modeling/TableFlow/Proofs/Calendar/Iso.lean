import TableFlow.Calendar.Iso
import TableFlow.Calendar.Iso.Reader
import TableFlow.Proofs.Cell.Empty

/-!
# Dates and times come back from their ISO 8601 form

The reader accepts more than what is written, so it has to be followed through its decisions: where
the date part ends, whether the fields are separated, and whether a fraction or an offset follows.
What is written decides them all by its first characters, since numerals of a fixed width hold
digits only and none of the marks. A time that is written ends where an offset begins or the text
ends, and there the reader of its fields stops. All that is lost is an offset of less than a second,
which is read as that of UTC.

## Main results

* `readDigits?_append`: a numeral of a fixed width is read as its number.
* `readClock?_append`: the fields of a clock time, whatever follows.
* `readOffset?_isoChars`, `readTimeOfDay?_isoChars` and `readDate?_isoChars`: the parts.
* `DateTime.ofIso?_date` and `DateTime.ofIso?_isoChars`: dates, and dates with a time.
-/

namespace TableFlow.Calendar

open Decimal (paddedNumeral)

/-! ## Numerals of a fixed width -/

theorem isAsciiDigit_digitChar {d : Nat} (h : d < 10) :
    isAsciiDigit (Decimal.digitChar d) = true ∧
      (Decimal.digitChar d).toNat - '0'.toNat = d := by
  have hAll : ∀ d < 10, isAsciiDigit (Decimal.digitChar d) = true ∧
      (Decimal.digitChar d).toNat - '0'.toNat = d := by
    decide
  exact hAll d h

theorem exists_digitChar_of_mem_paddedNumeral {width n : Nat} {c : Char}
    (h : c ∈ paddedNumeral width n) : ∃ d < 10, Decimal.digitChar d = c := by
  rcases List.mem_append.1 h with hZero | hDigit
  · exact ⟨0, by decide, (List.eq_of_mem_replicate hZero).symm⟩
  · obtain ⟨d, hd, rfl⟩ := List.mem_map.1 hDigit
    exact ⟨d, Decimal.lt_ten_of_mem_digits hd, rfl⟩

theorem isAsciiDigit_of_mem_paddedNumeral {width n : Nat} {c : Char}
    (h : c ∈ paddedNumeral width n) : isAsciiDigit c = true := by
  obtain ⟨d, hd, rfl⟩ := exists_digitChar_of_mem_paddedNumeral h
  exact (isAsciiDigit_digitChar hd).1

theorem length_paddedNumeral {width n : Nat} (hWidth : 0 < width) (h : n < 10 ^ width) :
    (paddedNumeral width n).length = width := by
  have hDigits := Decimal.length_digits_le hWidth h
  simp only [paddedNumeral, Decimal.numeral, List.length_append, List.length_replicate,
    List.length_map]
  omega

/-- The number that the digits of a padded numeral denote. -/
theorem foldl_paddedNumeral (width n : Nat) :
    (paddedNumeral width n).foldl (fun n c => 10 * n + (c.toNat - '0'.toNat)) 0 = n := by
  have hZeros : ∀ count, (List.replicate count '0').foldl
      (fun n c => 10 * n + (c.toNat - '0'.toNat)) 0 = 0 := by
    intro count
    induction count with
    | zero => rfl
    | succ count ih => exact ih
  have hDigits : ∀ (ds : List Nat) start, (∀ d ∈ ds, d < 10) →
      (ds.map Decimal.digitChar).foldl (fun n c => 10 * n + (c.toNat - '0'.toNat)) start =
        ds.foldl (fun n d => 10 * n + d) start := by
    intro ds
    induction ds with
    | nil => exact fun _ _ => rfl
    | cons d ds ih =>
        intro start h
        obtain ⟨hFirst, hRest⟩ := List.forall_mem_cons.1 h
        rw [List.map_cons, List.foldl_cons, List.foldl_cons, (isAsciiDigit_digitChar hFirst).2,
          ih _ hRest]
  rw [paddedNumeral, List.foldl_append, hZeros, Decimal.numeral,
    hDigits _ _ fun _ => Decimal.lt_ten_of_mem_digits]
  exact Decimal.ofDigits_digits n

/-- A numeral of a fixed width is read as its number. -/
theorem readDigits?_append {width n : Nat} (hWidth : 0 < width) (h : n < 10 ^ width)
    (rest : List Char) : readDigits? width (paddedNumeral width n ++ rest) = some (n, rest) := by
  have hLength := length_paddedNumeral hWidth h
  have hAll : (paddedNumeral width n).all isAsciiDigit :=
    List.all_eq_true.2 fun _ => isAsciiDigit_of_mem_paddedNumeral
  rw [readDigits?, List.take_left' hLength, List.drop_left' hLength, if_pos ⟨hLength, hAll⟩,
    foldl_paddedNumeral]

/-- A numeral is not taken for a mark. -/
theorem isAsciiDigit_headChar (width n : Nat) (rest : List Char) :
    isAsciiDigit (headChar (paddedNumeral width n ++ rest)) = true := by
  obtain ⟨c, cs, hNumeral⟩ := List.exists_cons_of_ne_nil (Decimal.paddedNumeral_ne_nil width n)
  rw [hNumeral]
  refine @isAsciiDigit_of_mem_paddedNumeral width n c ?_
  rw [hNumeral]
  exact List.mem_cons_self

/-! ## Dates -/

theorem Date.year_lt (d : Date) : d.year < 10 ^ 4 := by
  have hYear := d.isDate.1.2
  omega

theorem daysInMonth_le (year month : Nat) : daysInMonth year month ≤ 31 := by
  fun_cases daysInMonth year month <;> omega

theorem month_le_of_daysInMonth_pos {year month : Nat} (h : 0 < daysInMonth year month) :
    month ≤ 12 := by
  revert h
  fun_cases daysInMonth year month <;> omega

theorem Date.month_lt (d : Date) : d.month < 10 ^ 2 := by
  have hMonth := month_le_of_daysInMonth_pos (Nat.lt_of_lt_of_le d.isDate.2.1 d.isDate.2.2)
  omega

theorem Date.day_lt (d : Date) : d.day < 10 ^ 2 := by
  have hDay := d.isDate.2.2
  have hMonth := daysInMonth_le d.year d.month
  omega

theorem Date.isoChars_append (d : Date) (rest : List Char) :
    d.isoChars ++ rest = paddedNumeral 4 d.year ++ '-' :: (paddedNumeral 2 d.month ++
      '-' :: (paddedNumeral 2 d.day ++ rest)) := by
  simp [Date.isoChars]

theorem Date.length_isoChars (d : Date) : d.isoChars.length = 10 := by
  rw [Date.isoChars, List.length_append, List.length_cons, List.length_append, List.length_cons,
    length_paddedNumeral (by decide) d.year_lt, length_paddedNumeral (by decide) d.month_lt,
    length_paddedNumeral (by decide) d.day_lt]

/-- The date part of a text that starts with a date is the date. -/
theorem datePartLength_append (d : Date) (rest : List Char) :
    datePartLength (d.isoChars ++ rest) = 10 := by
  have hLength : (d.isoChars ++ rest).length ≠ 7 := by
    rw [List.length_append, d.length_isoChars]
    omega
  have hFourth : (d.isoChars ++ rest).drop 4 = '-' :: (paddedNumeral 2 d.month ++
      '-' :: (paddedNumeral 2 d.day ++ rest)) := by
    rw [d.isoChars_append, List.drop_left' (length_paddedNumeral (by decide) d.year_lt)]
  have hFifth : (d.isoChars ++ rest).drop 5 = paddedNumeral 2 d.month ++
      '-' :: (paddedNumeral 2 d.day ++ rest) := by
    rw [← List.drop_drop (i := 1) (j := 4), hFourth, List.drop_one, List.tail_cons]
  have hDigit : headChar ((d.isoChars ++ rest).drop 5) ≠ 'W' := by
    intro hMark
    have hDigit := isAsciiDigit_headChar 2 d.month ('-' :: (paddedNumeral 2 d.day ++ rest))
    rw [← hFifth, hMark] at hDigit
    exact absurd hDigit (by decide)
  rw [datePartLength, if_neg hLength, hFourth, if_pos (by rfl), if_neg hDigit]

theorem readDate?_isoChars (d : Date) : readDate? d.isoChars = some d := by
  have hMark : headChar (paddedNumeral 2 d.month ++ '-' :: paddedNumeral 2 d.day) ≠ 'W' := by
    intro hMark
    have hDigit := isAsciiDigit_headChar 2 d.month ('-' :: paddedNumeral 2 d.day)
    rw [hMark] at hDigit
    exact absurd hDigit (by decide)
  have hDay : readDigits? 2 (paddedNumeral 2 d.day) = some (d.day, []) := by
    have hDay := readDigits?_append (by decide) d.day_lt []
    rwa [List.append_nil] at hDay
  have hHyphen : headChar ('-' :: (paddedNumeral 2 d.month ++ '-' :: paddedNumeral 2 d.day)) =
      '-' := rfl
  rw [readDate?, Date.isoChars, readDigits?_append (by decide) d.year_lt]
  simp only [Option.bind_eq_bind, Option.bind_some, hHyphen, if_true, decide_true,
    List.drop_one, List.tail_cons, hMark, if_false, readDigits?_append (by decide) d.month_lt,
    readChar?, hDay, List.isEmpty_nil]
  exact dif_pos d.isDate

/-! ## Clock times -/

/-- A text at which the fields of a time end: it is empty or starts with the sign of an offset. -/
def EndsFields (cs : List Char) : Prop :=
  headChar cs = '\x00' ∨ headChar cs = '+' ∨ headChar cs = '-'

theorem endsFields_nil : EndsFields [] := .inl rfl

theorem EndsFields.toNat_lt {cs : List Char} (h : EndsFields cs) : (headChar cs).toNat < 128 := by
  rcases h with h | h | h <;> rw [h] <;> decide

theorem EndsFields.isAsciiDigit_eq {cs : List Char} (h : EndsFields cs) :
    isAsciiDigit (headChar cs) = false := by
  rcases h with h | h | h <;> rw [h] <;> decide

/-- No digit of a fraction stands there. -/
theorem EndsFields.dropWhile_eq {cs : List Char} (h : EndsFields cs) :
    cs.dropWhile isAsciiDigit = cs := by
  cases cs with
  | nil => rfl
  | cons c cs =>
      have hDigit : isAsciiDigit c = false := h.isAsciiDigit_eq
      exact List.dropWhile_cons_of_neg (by rw [hDigit]; decide)

section

variable {fields : List Nat} {length count n : Nat} (hn : n < 10 ^ 2) (rest : List Char)

include hn

/-- A field before a colon; the colon decides that the fields are separated, if that is open. -/
theorem readFields?_colon {separated : Option Bool} (hSeparated : separated.getD true = true)
    (hLength : 3 < length) :
    readFields? separated fields length (paddedNumeral 2 n ++ ':' :: rest) (count + 1) =
      readFields? (some true) (fields ++ [n]) (length - 3) rest count := by
  have hColon : separated.getD (decide (headChar (':' :: rest) = ':')) = true := hSeparated
  rw [readFields?, readDigits?_append (by decide) hn]
  simp only [Option.bind_eq_bind, Option.bind_some, hColon]
  rw [if_neg (Nat.not_le.2 hLength)]
  rfl

/-- The last field, if there is no fraction. -/
theorem readFields?_last {separated : Option Bool} (hLength : length ≤ 3)
    (hRest : EndsFields rest) :
    readFields? separated fields length (paddedNumeral 2 n ++ rest) (count + 1) =
      some ⟨fields ++ [n], 0, headChar rest == '\x00'⟩ := by
  rw [readFields?, readDigits?_append (by decide) hn]
  simp only [Option.bind_eq_bind, Option.bind_some]
  rw [if_pos hLength, if_pos hRest.toNat_lt]

/-- The last field before a fraction of six digits. -/
theorem readFields?_fraction {separated : Option Bool} {microsecond : Nat}
    (hMicrosecond : microsecond < 10 ^ 6) (hRest : EndsFields rest) :
    readFields? separated fields 9
        (paddedNumeral 2 n ++ '.' :: (paddedNumeral 6 microsecond ++ rest)) (count + 1) =
      some ⟨fields ++ [n], microsecond, headChar rest == '\x00'⟩ := by
  have hFraction : readFraction? 6 (paddedNumeral 6 microsecond ++ rest) =
      some (microsecond, headChar rest == '\x00') := by
    rw [readFraction?, Nat.min_self, readDigits?_append (by decide) hMicrosecond]
    simp only [Option.bind_eq_bind, Option.bind_some, hRest.dropWhile_eq, Nat.sub_self,
      Nat.pow_zero, Nat.mul_one]
  have hPoint : headChar ('.' :: (paddedNumeral 6 microsecond ++ rest)) = '.' := rfl
  rw [readFields?, readDigits?_append (by decide) hn]
  simp only [Option.bind_eq_bind, Option.bind_some, hPoint]
  simp [hFraction]

end

theorem hmsChars_append (hour minute second : Nat) (rest : List Char) :
    hmsChars hour minute second ++ rest = paddedNumeral 2 hour ++ ':' :: (paddedNumeral 2 minute ++
      ':' :: (paddedNumeral 2 second ++ rest)) := by
  simp [hmsChars]

/-- The fields of a clock time are read, whatever ends them. Without a fraction the last two digits
end the text of the time, and with one they stand nine characters before its end. -/
theorem readClock?_append {hour minute second microsecond : Nat} (hHour : hour < 10 ^ 2)
    (hMinute : minute < 10 ^ 2) (hSecond : second < 10 ^ 2) (hMicrosecond : microsecond < 10 ^ 6)
    {rest : List Char} (hRest : EndsFields rest) :
    readClock? (hmsChars hour minute second ++ fractionChars microsecond).length
        (hmsChars hour minute second ++ (fractionChars microsecond ++ rest)) =
      some ⟨[hour, minute, second], microsecond, headChar rest == '\x00'⟩ := by
  have hLength : (hmsChars hour minute second).length = 8 := by
    rw [hmsChars, List.length_append, List.length_cons, List.length_append, List.length_cons,
      length_paddedNumeral (by decide) hHour, length_paddedNumeral (by decide) hMinute,
      length_paddedNumeral (by decide) hSecond]
  by_cases hWhole : microsecond = 0
  · rw [hWhole, fractionChars, if_pos rfl, List.append_nil, hLength, List.nil_append, readClock?,
      hmsChars_append, readFields?_colon hHour _ rfl (by decide),
      readFields?_colon hMinute _ rfl (by decide), readFields?_last hSecond rest (by decide) hRest]
    rfl
  · rw [fractionChars, if_neg hWhole, List.length_append, List.length_cons, hLength,
      length_paddedNumeral (by decide) hMicrosecond, readClock?, hmsChars_append,
      readFields?_colon hHour _ rfl (by decide), readFields?_colon hMinute _ rfl (by decide)]
    exact readFields?_fraction hSecond rest hMicrosecond hRest

theorem isAsciiDigit_or_of_mem_hmsChars {hour minute second : Nat} {c : Char}
    (h : c ∈ hmsChars hour minute second) : isAsciiDigit c = true ∨ c = ':' := by
  simp only [hmsChars, List.mem_append, List.mem_cons] at h
  rcases h with h | rfl | h | rfl | h
  · exact .inl (isAsciiDigit_of_mem_paddedNumeral h)
  · exact .inr rfl
  · exact .inl (isAsciiDigit_of_mem_paddedNumeral h)
  · exact .inr rfl
  · exact .inl (isAsciiDigit_of_mem_paddedNumeral h)

theorem isAsciiDigit_or_of_mem_fractionChars {microsecond : Nat} {c : Char}
    (h : c ∈ fractionChars microsecond) : isAsciiDigit c = true ∨ c = '.' := by
  unfold fractionChars at h
  split at h
  · cases h
  · rcases List.mem_cons.1 h with rfl | h
    · exact .inr rfl
    · exact .inl (isAsciiDigit_of_mem_paddedNumeral h)

/-! ## Offsets -/

/-- The offset that the text of an offset gives: without a whole second it is that of UTC. -/
def Offset.readBack (o : Offset) : Offset :=
  if o.microseconds.natAbs < microsecondsPerSecond then .utc else o

theorem Offset.readBack_eq_utc {o : Offset} (h : o.microseconds.natAbs < microsecondsPerSecond) :
    o.readBack = .utc :=
  if_pos h

theorem Offset.readBack_eq_self {o : Offset}
    (h : o = .utc ∨ microsecondsPerSecond ≤ o.microseconds.natAbs) : o.readBack = o := by
  rcases h with rfl | h
  · rfl
  · exact if_neg (Nat.not_lt.2 h)

/-- What an offset is written with behind its sign is read as the size of the offset. -/
theorem exists_isoChars_eq (o : Offset) :
    ∃ body reading, o.isoChars = (if o.microseconds < 0 then '-' else '+') :: body ∧
      readClock? body.length body = some reading ∧ reading.complete = true ∧
      reading.microsecond < microsecondsPerSecond ∧
      reading.microseconds = o.microseconds.natAbs := by
  have hDay := o.lt_day
  simp only [microsecondsPerDay, microsecondsPerSecond] at hDay
  have hIso : o.isoChars =
      if o.microseconds.natAbs / 1000000 % 60 = 0 ∧ o.microseconds.natAbs % 1000000 = 0 then
        (if o.microseconds < 0 then '-' else '+') ::
          (paddedNumeral 2 (o.microseconds.natAbs / 1000000 / 3600) ++
            ':' :: paddedNumeral 2 (o.microseconds.natAbs / 1000000 / 60 % 60))
      else
        (if o.microseconds < 0 then '-' else '+') ::
          (hmsChars (o.microseconds.natAbs / 1000000 / 3600)
              (o.microseconds.natAbs / 1000000 / 60 % 60) (o.microseconds.natAbs / 1000000 % 60) ++
            fractionChars (o.microseconds.natAbs % 1000000)) := rfl
  have hSize : ((o.microseconds.natAbs / 1000000 / 3600 * 60 +
      o.microseconds.natAbs / 1000000 / 60 % 60) * 60 + o.microseconds.natAbs / 1000000 % 60) *
        1000000 + o.microseconds.natAbs % 1000000 = o.microseconds.natAbs := by omega
  have hHour : o.microseconds.natAbs / 1000000 / 3600 < 10 ^ 2 := by omega
  have hMinute : o.microseconds.natAbs / 1000000 / 60 % 60 < 10 ^ 2 := by omega
  have hSecond : o.microseconds.natAbs / 1000000 % 60 < 10 ^ 2 := by omega
  have hFraction : o.microseconds.natAbs % 1000000 < 10 ^ 6 := by omega
  generalize o.microseconds.natAbs / 1000000 / 3600 = hour at *
  generalize o.microseconds.natAbs / 1000000 / 60 % 60 = minute at *
  generalize o.microseconds.natAbs / 1000000 % 60 = second at *
  generalize o.microseconds.natAbs % 1000000 = fraction at *
  by_cases hWhole : second = 0 ∧ fraction = 0
  · rw [if_pos hWhole] at hIso
    have hNone : 0 < microsecondsPerSecond := by decide
    refine ⟨_, ⟨[hour, minute], 0, true⟩, hIso, ?_, rfl, hNone, ?_⟩
    · have hLast : readFields? (some true) [hour] 2 (paddedNumeral 2 minute ++ []) 2 =
          some ⟨[hour, minute], 0, true⟩ :=
        readFields?_last hMinute [] (by decide) endsFields_nil
      rw [List.append_nil] at hLast
      rw [List.length_append, List.length_cons, length_paddedNumeral (by decide) hHour,
        length_paddedNumeral (by decide) hMinute, readClock?,
        readFields?_colon hHour _ rfl (by decide)]
      exact hLast
    · rw [hWhole.1, hWhole.2] at hSize
      exact hSize
  · rw [if_neg hWhole] at hIso
    refine ⟨_, ⟨[hour, minute, second], fraction, true⟩, hIso, ?_, rfl, hFraction, hSize⟩
    have hRead := readClock?_append hHour hMinute hSecond hFraction endsFields_nil
    rw [List.append_nil] at hRead
    exact hRead

/-- The sign and the size of an offset give what is read back of it. -/
theorem ClockReading.toOffset?_eq {o : Offset} {reading : ClockReading}
    (hFraction : reading.microsecond < microsecondsPerSecond)
    (hSize : reading.microseconds = o.microseconds.natAbs) :
    reading.toOffset? (decide (o.microseconds < 0)) = some o.readBack := by
  have hSeconds : reading.seconds = 0 ↔ o.microseconds.natAbs < microsecondsPerSecond := by
    rw [← hSize, ClockReading.microseconds]
    simp only [microsecondsPerSecond] at *
    omega
  have hSigned : (if decide (o.microseconds < 0) = true then -(reading.microseconds : Int)
      else reading.microseconds) = o.microseconds := by
    rw [hSize]
    simp only [decide_eq_true_eq]
    omega
  unfold ClockReading.toOffset? Offset.readBack
  rw [hSigned]
  simp only [hSeconds]
  split
  · rfl
  · exact dif_pos o.lt_day

theorem readOffset?_isoChars (o : Offset) : readOffset? o.isoChars = some o.readBack := by
  obtain ⟨body, reading, hIso, hRead, hComplete, hFraction, hSize⟩ := exists_isoChars_eq o
  have hOffset := ClockReading.toOffset?_eq hFraction hSize
  rw [hIso]
  by_cases hNegative : o.microseconds < 0
  · rw [decide_eq_true hNegative] at hOffset
    rw [if_pos hNegative, readOffset?]
    · simp only [Option.bind_eq_bind, hRead, Option.bind_some, hComplete, if_true, decide_true,
        hOffset]
    · decide
  · rw [decide_eq_false hNegative] at hOffset
    have hPlus : decide ('+' = '-') = false := by decide
    rw [if_neg hNegative, readOffset?]
    · simp only [Option.bind_eq_bind, hRead, Option.bind_some, hComplete, if_true, hPlus, hOffset]
    · decide

/-- A time ends where an offset begins, or with the text. -/
theorem endsFields_offsetChars (offset : Option Offset) : EndsFields (offsetChars offset) := by
  cases offset with
  | none => exact endsFields_nil
  | some o =>
      obtain ⟨body, -, hIso, -⟩ := exists_isoChars_eq o
      rw [offsetChars, hIso, EndsFields, headChar, List.headD_cons]
      split <;> decide

/-! ## Times of day -/

theorem startsOffset_of_mem_isoChars {clock : Clock} {c : Char} (h : c ∈ clock.isoChars) :
    startsOffset c = false := by
  have hDigit : isAsciiDigit c = true → startsOffset c = false := by
    intro hDigit
    by_contra hSign
    simp only [startsOffset, Bool.not_eq_false, Bool.or_eq_true, decide_eq_true_eq] at hSign
    rcases hSign with (rfl | rfl) | rfl <;> exact absurd hDigit (by decide)
  rcases List.mem_append.1 h with h | h
  · rcases isAsciiDigit_or_of_mem_hmsChars h with h | rfl
    · exact hDigit h
    · decide
  · rcases isAsciiDigit_or_of_mem_fractionChars h with h | rfl
    · exact hDigit h
    · decide

theorem Clock.readClock?_isoChars (clock : Clock) {rest : List Char} (hRest : EndsFields rest) :
    readClock? clock.isoChars.length (clock.isoChars ++ rest) =
      some ⟨[clock.hour, clock.minute, clock.second], clock.microsecond,
        headChar rest == '\x00'⟩ := by
  obtain ⟨hHour, hMinute, hSecond, hMicrosecond⟩ := clock.isClock
  rw [Clock.isoChars, List.append_assoc]
  exact readClock?_append (by omega) (by omega) (by omega) hMicrosecond hRest

theorem readTimeOfDay?_isoChars (t : TimeOfDay) :
    readTimeOfDay? t.isoChars = some ⟨t.clock, t.offset.map Offset.readBack⟩ := by
  obtain ⟨clock, offset⟩ := t
  have hRead := clock.readClock?_isoChars (endsFields_offsetChars offset)
  have hClock : ∀ complete, ClockReading.toClock? ⟨[clock.hour, clock.minute, clock.second],
      clock.microsecond, complete⟩ = some clock := fun _ => dif_pos clock.isClock
  have hFront : ∀ c ∈ clock.isoChars, (!startsOffset c) = true := by
    intro c hc
    rw [startsOffset_of_mem_isoChars hc]
    rfl
  have hLength : (clock.isoChars ++ offsetChars offset).takeWhile (!startsOffset ·) =
      clock.isoChars := by
    rw [List.takeWhile_append_of_pos hFront]
    cases offset with
    | none => exact List.append_nil _
    | some o =>
        obtain ⟨body, -, hIso, -⟩ := exists_isoChars_eq o
        have hSign : startsOffset (if o.microseconds < 0 then '-' else '+') = true := by
          split <;> decide
        rw [offsetChars, hIso, List.takeWhile_cons_of_neg (by rw [hSign]; decide),
          List.append_nil]
  rw [TimeOfDay.isoChars, readTimeOfDay?]
  simp only [hLength, hRead, Option.bind_eq_bind, Option.bind_some, List.drop_left]
  cases offset with
  | none =>
      simp only [offsetChars, hClock, Option.bind_some, Option.map_none]
      rfl
  | some o =>
      obtain ⟨body, -, hIso, -⟩ := exists_isoChars_eq o
      have hOffset := readOffset?_isoChars o
      rw [hIso] at hOffset
      rw [offsetChars, hIso]
      simp only [hOffset, hClock, Option.bind_some, Option.map_some]

/-! ## Dates with a time -/

/-- The date with a time that its text gives. -/
def DateTime.readBack (t : DateTime) : DateTime := ⟨t.date, t.clock, t.offset.map Offset.readBack⟩

theorem DateTime.readBack_eq_self {t : DateTime}
    (h : ∀ o ∈ t.offset, o = .utc ∨ microsecondsPerSecond ≤ o.microseconds.natAbs) :
    t.readBack = t := by
  obtain ⟨date, clock, offset⟩ := t
  cases offset with
  | none => rfl
  | some o => rw [DateTime.readBack, Option.map_some, Offset.readBack_eq_self (h o rfl)]

theorem DateTime.ofIso?_append (d : Date) (rest : List Char) :
    DateTime.ofIso? (d.isoChars ++ rest) =
      match rest with
      | [] => some d.midnight
      | _ :: rest =>
          (readTimeOfDay? rest).bind fun time => some ⟨d, time.clock, time.offset⟩ := by
  rw [DateTime.ofIso?, datePartLength_append, List.take_left' d.length_isoChars,
    List.drop_left' d.length_isoChars, readDate?_isoChars]
  cases rest <;> rfl

/-- A date is read as the midnight that it begins with. -/
theorem DateTime.ofIso?_date (d : Date) : DateTime.ofIso? d.isoChars = some d.midnight := by
  have hRead := DateTime.ofIso?_append d []
  rwa [List.append_nil] at hRead

theorem DateTime.ofIso?_isoChars (t : DateTime) :
    DateTime.ofIso? t.isoChars = some t.readBack := by
  have hTime := readTimeOfDay?_isoChars ⟨t.clock, t.offset⟩
  rw [TimeOfDay.isoChars] at hTime
  rw [DateTime.isoChars, DateTime.ofIso?_append]
  simp only [hTime, Option.bind_some, DateTime.readBack]

end TableFlow.Calendar
