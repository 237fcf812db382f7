import TableFlow.Profile
import TableFlow.Proofs.Calendar.Iso

/-!
# Dates and their texts

The text of a date or of a date with a time gives it back, the time of a date being midnight and an
offset of less than a second being lost. It is not taken for anything else: behind the four digits
of the year stands a hyphen, so it is no number, and no text that stands for a boolean starts with
two digits. A column of dates, of their texts, or of both has the type of dates.

## Main results

* `dateOfText?_isoText` and `dateOfText?_isoText_date`: what the texts give.
* `inferType_of_isCalendar`: the type of a column of dates and their texts.
* `Cell.dates_survive_text`: both together.
-/

namespace TableFlow

open Calendar (Date DateTime Clock Offset microsecondsPerSecond)
open Decimal (paddedNumeral)

/-- The text is that of a date or of a date with a time. -/
def IsDateText (cs : List Char) : Prop :=
  (∃ d : Date, cs = d.isoChars) ∨ ∃ t : DateTime, cs = t.isoChars

/-- A text of this kind starts with a date. -/
theorem IsDateText.exists_eq {cs : List Char} (h : IsDateText cs) :
    ∃ (d : Date) (rest : List Char), cs = d.isoChars ++ rest := by
  rcases h with ⟨d, rfl⟩ | ⟨t, rfl⟩
  · exact ⟨d, [], (List.append_nil _).symm⟩
  · exact ⟨t.date, _, rfl⟩

/-! ## Characters -/

namespace Calendar

theorem isBlank_of_isAsciiDigit {c : Char} (h : isAsciiDigit c = true) :
    Text.isBlank c = false := by
  have hCode : 48 ≤ c.toNat ∧ c.toNat ≤ 57 := by
    simp only [isAsciiDigit, Bool.and_eq_true, decide_eq_true_eq] at h
    exact h
  simp only [Text.isBlank, Text.blankRanges, List.any_cons, List.any_nil, Bool.or_false,
    Bool.or_eq_false_iff, Bool.and_eq_false_iff, decide_eq_false_iff_not]
  omega

theorem isBlank_of_mem_paddedNumeral {width n : Nat} {c : Char} (h : c ∈ paddedNumeral width n) :
    Text.isBlank c = false :=
  isBlank_of_isAsciiDigit (isAsciiDigit_of_mem_paddedNumeral h)

theorem Date.isBlank_of_mem_isoChars {d : Date} {c : Char} (h : c ∈ d.isoChars) :
    Text.isBlank c = false := by
  simp only [Date.isoChars, List.mem_append, List.mem_cons] at h
  rcases h with h | rfl | h | rfl | h
  · exact isBlank_of_mem_paddedNumeral h
  · decide
  · exact isBlank_of_mem_paddedNumeral h
  · decide
  · exact isBlank_of_mem_paddedNumeral h

theorem isBlank_of_mem_hmsChars {hour minute second : Nat} {c : Char}
    (h : c ∈ hmsChars hour minute second) : Text.isBlank c = false := by
  rcases isAsciiDigit_or_of_mem_hmsChars h with h | rfl
  · exact isBlank_of_isAsciiDigit h
  · decide

theorem isBlank_of_mem_fractionChars {microsecond : Nat} {c : Char}
    (h : c ∈ fractionChars microsecond) : Text.isBlank c = false := by
  rcases isAsciiDigit_or_of_mem_fractionChars h with h | rfl
  · exact isBlank_of_isAsciiDigit h
  · decide

theorem Offset.isBlank_of_mem_isoChars {o : Offset} {c : Char} (h : c ∈ o.isoChars) :
    Text.isBlank c = false := by
  have hSign : Text.isBlank (if o.microseconds < 0 then '-' else '+') = false := by
    split <;> decide
  unfold Offset.isoChars at h
  dsimp only at h
  split at h
  · simp only [List.mem_cons, List.mem_append] at h
    rcases h with rfl | h | rfl | h
    · exact hSign
    · exact isBlank_of_mem_paddedNumeral h
    · decide
    · exact isBlank_of_mem_paddedNumeral h
  · simp only [List.mem_cons, List.mem_append] at h
    rcases h with rfl | h | h
    · exact hSign
    · exact isBlank_of_mem_hmsChars h
    · exact isBlank_of_mem_fractionChars h

theorem DateTime.isBlank_of_mem_isoChars {t : DateTime} {c : Char} (h : c ∈ t.isoChars) :
    Text.isBlank c = false := by
  obtain ⟨date, clock, offset⟩ := t
  simp only [DateTime.isoChars, Clock.isoChars, List.mem_append, List.mem_cons] at h
  rcases h with h | rfl | (h | h) | h
  · exact Date.isBlank_of_mem_isoChars h
  · decide
  · exact isBlank_of_mem_hmsChars h
  · exact isBlank_of_mem_fractionChars h
  · cases offset with
    | none => cases h
    | some o => exact Offset.isBlank_of_mem_isoChars h

end Calendar

theorem IsDateText.strip_eq {cs : List Char} (h : IsDateText cs) : Text.strip cs = cs := by
  have hMarks : ∀ c ∈ cs, Text.isBlank c = false := by
    intro c hc
    rcases h with ⟨d, rfl⟩ | ⟨t, rfl⟩
    · exact d.isBlank_of_mem_isoChars hc
    · exact t.isBlank_of_mem_isoChars hc
  exact Text.strip_eq_self (fun c hc => hMarks c (List.mem_of_mem_head? hc))
    fun c hc => hMarks c (List.mem_of_mem_getLast? hc)

/-! ## What the texts give -/

namespace Cell

/-- The text of a date with a time gives it back, but for an offset of less than a second. -/
theorem dateOfText?_isoText (t : DateTime) : dateOfText? t.isoText = some t.readBack := by
  rw [dateOfText?, DateTime.isoText, String.toList_ofList, IsDateText.strip_eq (.inr ⟨t, rfl⟩)]
  rw [DateTime.ofIso?_isoChars]
  rfl

/-- The text of a date gives the midnight that it begins with. -/
theorem dateOfText?_isoText_date (d : Date) : dateOfText? d.isoText = some d.midnight := by
  rw [dateOfText?, Date.isoText, String.toList_ofList, IsDateText.strip_eq (.inl ⟨d, rfl⟩)]
  rw [DateTime.ofIso?_date]
  rfl

/-- The hyphen behind the digits of the year is in no number. -/
theorem readBinary64?_eq_none {cs : List Char} (h : IsDateText cs) :
    Decimal.readBinary64? cs = none := by
  obtain ⟨d, rest, rfl⟩ := h.exists_eq
  have hDigits : Decimal.AllDigits (paddedNumeral 4 d.year) := by
    intro c hc
    obtain ⟨n, hn, rfl⟩ := Calendar.exists_digitChar_of_mem_paddedNumeral hc
    rw [Text.isDecimalDigit, Decimal.decimalDigit?_digitChar hn]
    rfl
  obtain ⟨first, others, hYear⟩ :=
    List.exists_cons_of_ne_nil (Decimal.paddedNumeral_ne_nil 4 d.year)
  have hSign : ∀ more, Decimal.spanSign (paddedNumeral 4 d.year ++ more) =
      (false, paddedNumeral 4 d.year ++ more) := by
    intro more
    rw [hYear]
    exact Decimal.spanSign_cons_of_isDecimalDigit _ (hDigits first (hYear ▸ List.mem_cons_self))
  have hScan := Decimal.scanSignificand?_whole hDigits (Decimal.paddedNumeral_ne_nil 4 d.year)
    (Decimal.noDigitFirst_cons (c := '-') (paddedNumeral 2 d.month ++ '-' ::
      (paddedNumeral 2 d.day ++ rest)) (by decide)) (by simp)
  rw [Decimal.readBinary64?, Decimal.Literal.read?, d.isoChars_append, hSign]
  simp only [Decimal.scanUnsigned?, hScan, Option.map_some]
  rfl

theorem numberOfText_eq_nan {s : String} (h : IsDateText s.toList) : numberOfText s = .nan := by
  rw [numberOfText, h.strip_eq, readBinary64?_eq_none h]
  rfl

/-- No text that stands for a boolean starts with two digits. -/
theorem lower_notMem_booleanTexts {cs : List Char} (h : IsDateText cs) :
    String.ofList (Text.lower cs) ∉ booleanTexts := by
  obtain ⟨d, rest, rfl⟩ := h.exists_eq
  have hLength := Calendar.length_paddedNumeral (by decide) d.year_lt
  obtain ⟨first, others, hYear⟩ := List.exists_of_length_succ _ hLength
  rw [hYear, List.length_cons] at hLength
  obtain ⟨second, others, rfl⟩ := List.exists_of_length_succ others (Nat.succ.inj hLength)
  obtain ⟨m, hm, rfl⟩ := @Calendar.exists_digitChar_of_mem_paddedNumeral 4 d.year first
    (hYear ▸ List.mem_cons_self)
  obtain ⟨n, hn, rfl⟩ := @Calendar.exists_digitChar_of_mem_paddedNumeral 4 d.year second
    (hYear ▸ List.mem_cons_of_mem _ List.mem_cons_self)
  have hLower : ∀ k < 10, Decimal.digitChar k ≠ Text.capitalSigma ∧
      Text.lowerMapping.image (Decimal.digitChar k) = [Decimal.digitChar k] := by
    decide +kernel
  have hTexts : ∀ text ∈ booleanTexts, ∀ k < 10, text.toList.head? = some (Decimal.digitChar k) →
      text.toList.length = 1 := by
    decide +kernel
  rw [d.isoChars_append, hYear, List.cons_append, List.cons_append, Text.lower, Text.lowerAfter,
    Text.lowerAfter, if_neg (hLower m hm).1, if_neg (hLower n hn).1, (hLower m hm).2,
    (hLower n hn).2, List.singleton_append, List.singleton_append]
  intro hMember
  have hShort := hTexts _ hMember m hm (by rw [String.toList_ofList, List.head?_cons])
  rw [String.toList_ofList, List.length_cons, List.length_cons] at hShort
  omega

/-! ## Types of columns -/

/-- A date, a date with a time, or the text of such a cell. -/
inductive IsCalendar : Cell → Prop
  | date (d : Date) : IsCalendar (.date d)
  | dateTime (t : DateTime) : IsCalendar (.dateTime t)
  | text {cell : Cell} {s : String} (h : IsCalendar cell) (hText : cell.toText = .ok s) :
      IsCalendar (.text s)

variable {cell : Cell}

theorem IsCalendar.exists_text (h : cell.IsCalendar) :
    ∃ s, cell.toText = .ok s ∧ IsDateText s.toList := by
  induction h with
  | date d => exact ⟨_, rfl, .inl ⟨d, String.toList_ofList⟩⟩
  | dateTime t => exact ⟨_, rfl, .inr ⟨t, String.toList_ofList⟩⟩
  | text _ hText ih =>
      obtain ⟨s, hs, hDate⟩ := ih
      cases hText.symm.trans hs
      exact ⟨_, rfl, hDate⟩

theorem IsCalendar.givesFiniteNumber_eq (h : cell.IsCalendar) :
    cell.givesFiniteNumber = .ok false := by
  obtain ⟨s, hText, hDate⟩ := h.exists_text
  cases h with
  | date d => rfl
  | dateTime t => rfl
  | text =>
      cases hText
      rw [givesFiniteNumber, toNumber, numberOfText_eq_nan hDate]
      rfl

theorem IsCalendar.givesBoolean_eq (h : cell.IsCalendar) : cell.givesBoolean = .ok false := by
  obtain ⟨s, hText, hDate⟩ := h.exists_text
  have hGives : cell.givesBoolean = (do
      let text ← cell.toText
      .ok (decide (String.ofList (Text.lower text.toList) ∈ booleanTexts))) := by
    cases h <;> rfl
  rw [hGives, hText]
  exact congrArg Except.ok (decide_eq_false (lower_notMem_booleanTexts hDate))

theorem IsCalendar.isSome_toDate? (h : cell.IsCalendar) : cell.toDate?.isSome = true := by
  obtain ⟨s, hText, hDate⟩ := h.exists_text
  cases h with
  | date d => rfl
  | dateTime t => rfl
  | text =>
      cases hText
      rcases hDate with ⟨d, hd⟩ | ⟨t, ht⟩
      · have hs : s = d.isoText := by rw [Date.isoText, ← hd, String.ofList_toList]
        rw [toDate?, hs, dateOfText?_isoText_date]
        rfl
      · have hs : s = t.isoText := by rw [DateTime.isoText, ← ht, String.ofList_toList]
        rw [toDate?, hs, dateOfText?_isoText]
        rfl

/-- A column of dates and their texts has the type of dates. -/
theorem inferType_of_isCalendar {values : List Cell} (hSome : values ≠ [])
    (h : ∀ cell ∈ values, cell.IsCalendar) : inferType values = .ok .date := by
  have hSample : ∀ cell ∈ values.take sampleSize, cell.IsCalendar :=
    fun cell hCell => h cell (List.mem_of_mem_take hCell)
  have hSampleSome : values.take sampleSize ≠ [] := by
    rw [Ne, List.take_eq_nil_iff, not_or]
    exact ⟨by decide, hSome⟩
  have hNumbers : (values.take sampleSize).allM givesFiniteNumber = .ok false :=
    allM_eq_ok_false hSampleSome fun cell hCell => (hSample cell hCell).givesFiniteNumber_eq
  have hBooleans : (values.take sampleSize).allM givesBoolean = .ok false :=
    allM_eq_ok_false hSampleSome fun cell hCell => (hSample cell hCell).givesBoolean_eq
  have hDates : ((values.take sampleSize).all fun cell => cell.toDate?.isSome) = true :=
    List.all_eq_true.2 fun cell hCell => (hSample cell hCell).isSome_toDate?
  have hNotEmpty : values.isEmpty = false := List.isEmpty_eq_false_iff.2 hSome
  unfold inferType
  simp only [hNotEmpty, hNumbers, hBooleans, hDates]
  rfl

/-- **Dates survive their texts.** The text of a date gives the midnight that the date begins with.
The text of a date with a time gives it back, whatever its fraction of a second is, if its offset is
that of UTC or at least a second; a smaller one comes back as that of UTC. A column of dates and
dates with a time has the type of dates, whatever their offsets are, and keeps it if any of its
cells are replaced by their texts. -/
theorem dates_survive_text :
    (∀ d : Date, ∃ s, (Cell.date d).toText = .ok s ∧
      (Cell.text s).toDate? = some (.dateTime d.midnight)) ∧
    (∀ t : DateTime,
      (∀ o ∈ t.offset, o = .utc ∨ microsecondsPerSecond ≤ o.microseconds.natAbs) →
      ∃ s, (Cell.dateTime t).toText = .ok s ∧ (Cell.text s).toDate? = some (.dateTime t)) ∧
    (∀ (date : Date) (clock : Clock) (o : Offset),
      o.microseconds.natAbs < microsecondsPerSecond →
      ∃ s, (Cell.dateTime ⟨date, clock, some o⟩).toText = .ok s ∧
        (Cell.text s).toDate? = some (.dateTime ⟨date, clock, some .utc⟩)) ∧
    ∀ values : List Cell, values ≠ [] → (∀ cell ∈ values, cell.IsCalendar) →
      inferType values = .ok .date := by
  have hText : ∀ t : DateTime, ∃ s, (Cell.dateTime t).toText = .ok s ∧
      (Cell.text s).toDate? = some (.dateTime t.readBack) := by
    intro t
    exact ⟨_, rfl, by rw [toDate?, dateOfText?_isoText, Option.map_some]⟩
  refine ⟨fun d => ⟨_, rfl, ?_⟩, fun t hOffset => ?_, fun date clock o hSmall => ?_,
    fun _ => inferType_of_isCalendar⟩
  · rw [toDate?, dateOfText?_isoText_date, Option.map_some]
  · have hSame := hText t
    rwa [DateTime.readBack_eq_self hOffset] at hSame
  · have hUtc := hText ⟨date, clock, some o⟩
    rwa [DateTime.readBack, Option.map_some, Offset.readBack_eq_utc hSmall] at hUtc

def leapDay : Date := ⟨2000, 2, 29, by decide⟩

/-- Noon on a leap day, with an offset. -/
def leapNoon (offset : Offset) : DateTime := ⟨leapDay, ⟨12, 0, 0, 0, by decide⟩, some offset⟩

/-- The offsets are a second and a microsecond west of UTC, and a microsecond east of it. -/
theorem dates_survive_text_mixedColumn :
    (∃ s, (Cell.dateTime (leapNoon ⟨-1000001, by decide⟩)).toText = .ok s ∧
      (Cell.text s).toDate? = some (.dateTime (leapNoon ⟨-1000001, by decide⟩))) ∧
    (∃ s, (Cell.dateTime (leapNoon ⟨1, by decide⟩)).toText = .ok s ∧
      (Cell.text s).toDate? = some (.dateTime (leapNoon .utc))) ∧
    inferType [.text "2000-02-29", .dateTime (leapNoon ⟨1, by decide⟩), .date leapDay] =
      .ok .date := by
  obtain ⟨-, hKept, hLost, hType⟩ := dates_survive_text
  refine ⟨hKept _ ?_, hLost _ _ _ (by decide), hType _ (List.cons_ne_nil _ _) ?_⟩
  · intro o ho
    cases ho
    exact .inr (by decide)
  · intro cell hCell
    simp only [List.mem_cons, List.not_mem_nil, or_false] at hCell
    rcases hCell with rfl | rfl | rfl
    · exact .text (.date leapDay) rfl
    · exact .dateTime _
    · exact .date _

/-- An offset of a microsecond is in the text of the date, but is not read. -/
theorem exists_lost_offset :
    (Cell.dateTime (leapNoon ⟨1, by decide⟩)).toText =
      .ok "2000-02-29T12:00:00+00:00:00.000001" ∧
    (Cell.text "2000-02-29T12:00:00+00:00:00.000001").toDate? =
      some (.dateTime (leapNoon .utc)) ∧
    (Cell.text "2000-02-29T12:00:00+00:00:00.000001").toDate? ≠
      some (.dateTime (leapNoon ⟨1, by decide⟩)) := by
  have hText : (leapNoon ⟨1, by decide⟩).isoText = "2000-02-29T12:00:00+00:00:00.000001" := rfl
  have hRead : (Cell.text "2000-02-29T12:00:00+00:00:00.000001").toDate? =
      some (.dateTime (leapNoon .utc)) := by
    rw [← hText, toDate?, dateOfText?_isoText]
    rfl
  have hDiffer : leapNoon .utc ≠ leapNoon ⟨1, by decide⟩ := by decide
  refine ⟨congrArg Except.ok hText, hRead, fun hSame => hDiffer ?_⟩
  exact Cell.dateTime.inj (Option.some.inj (hRead.symm.trans hSame))

end Cell

end TableFlow
