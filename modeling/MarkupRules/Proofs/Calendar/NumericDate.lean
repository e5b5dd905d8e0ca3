import MarkupRules.Proofs.Calendar.Remainder
import MarkupRules.Proofs.Text.Blank
import Mathlib.Tactic.IntervalCases

/-!
Days that are written in digits.

A year of four digits and a month and a day of two are a date just if the calendar has the day, in
the order year, month, day with hyphens or slashes between them or as month, day, year with slashes.
A text without letters and colons has none but these three formats.
-/
namespace MarkupRules.Calendar

/-- The years that have a day more. -/
def IsLeap (year : Nat) : Prop := 4 ∣ year ∧ ¬100 ∣ year ∨ 400 ∣ year

instance (year : Nat) : Decidable (IsLeap year) :=
  inferInstanceAs (Decidable (4 ∣ year ∧ ¬100 ∣ year ∨ 400 ∣ year))

/-- The number of days that a month from 1 to 12 has. -/
def monthLength (year month : Nat) : Nat :=
  if month = 2 then (if IsLeap year then 29 else 28)
  else if month ∈ [4, 6, 9, 11] then 30 else 31

/-- The calendar has this day. -/
structure IsDay (year month day : Nat) : Prop where
  inYear : 1 ≤ month ∧ month ≤ 12
  inMonth : 1 ≤ day ∧ day ≤ monthLength year month

instance (year month day : Nat) : Decidable (IsDay year month day) :=
  decidable_of_iff ((1 ≤ month ∧ month ≤ 12) ∧ 1 ≤ day ∧ day ≤ monthLength year month)
    ⟨fun h => ⟨h.1, h.2⟩, fun h => ⟨h.inYear, h.inMonth⟩⟩

/-- The test for leap years is the rule of the calendar: every fourth year, but of the hundreds only
every fourth. -/
theorem isLeapYear_iff (year : Nat) : isLeapYear year = true ↔ IsLeap year := by
  simp only [isLeapYear, IsLeap, Bool.and_eq_true, Bool.or_eq_true, beq_iff_eq, bne_iff_ne]
  omega

/-- The table of the months has the lengths that the calendar gives them, February by the year. -/
theorem daysInMonth_eq {year month : Nat} (h : 1 ≤ month ∧ month ≤ 12) :
    daysInMonth year month = monthLength year month := by
  obtain ⟨hFirst, hLast⟩ := h
  have hFebruary : (if isLeapYear year = true then 29 else 28) =
      if IsLeap year then 29 else 28 := by
    simp only [isLeapYear_iff]
  interval_cases month
  case «2» => exact hFebruary
  all_goals rfl

/-- A month that is no number from 1 to 12 has no days, so no day in it exists. -/
theorem daysInMonth_eq_zero {year : Int} {month : Nat} (h : ¬(1 ≤ month ∧ month ≤ 12)) :
    daysInMonth year month = 0 := by
  unfold daysInMonth
  split <;> first | rfl | omega

/-- The days that can be represented are those of the calendar. -/
theorem dayExists_iff {year month day : Nat} (hYear : year ≤ 262142) :
    dayExists year month day = true ↔ IsDay year month day := by
  have hRange : inYearRange year = true := by
    simp only [inYearRange, Bool.and_eq_true, decide_eq_true_eq]
    omega
  simp only [dayExists, hRange, Bool.true_and, Bool.and_eq_true, decide_eq_true_eq]
  by_cases hMonth : 1 ≤ month ∧ month ≤ 12
  · rw [daysInMonth_eq hMonth]
    exact ⟨fun h => ⟨hMonth, h⟩, IsDay.inMonth⟩
  · rw [daysInMonth_eq_zero hMonth]
    constructor
    · omega
    · exact fun h => absurd h.inYear hMonth

/-- A number written with so many digits. -/
structure IsNumeral (width : Nat) (cs : List Char) : Prop where
  length : cs.length = width
  digits : ∀ c ∈ cs, c.isDigit = true

instance (width : Nat) (cs : List Char) : Decidable (IsNumeral width cs) :=
  decidable_of_iff (cs.length = width ∧ cs.all Char.isDigit = true)
    ⟨fun h => ⟨h.1, List.all_eq_true.mp h.2⟩, fun h => ⟨h.length, List.all_eq_true.mpr h.digits⟩⟩

theorem toNat_of_isDigit {c : Char} (h : c.isDigit = true) : 48 ≤ c.toNat ∧ c.toNat ≤ 57 := by
  simp only [Char.isDigit, Bool.and_eq_true, decide_eq_true_eq, UInt32.le_iff_toNat_le] at h
  exact h

theorem isBlank_of_isDigit {c : Char} (h : c.isDigit = true) : Text.isBlank c = false := by
  obtain ⟨hLow, hHigh⟩ := toNat_of_isDigit h
  simp only [Text.isBlank, Bool.or_eq_false_iff, Bool.and_eq_false_iff, decide_eq_false_iff_not,
    beq_eq_false_iff_ne]
  omega

theorem isAlpha_of_isDigit {c : Char} (h : c.isDigit = true) : c.isAlpha = false := by
  obtain ⟨hLow, hHigh⟩ := toNat_of_isDigit h
  have hVal : c.toNat = c.val.toNat := rfl
  change (decide (c.val ≥ 65 ∧ c.val ≤ 90) || (decide (c.val ≥ 97) && decide (c.val ≤ 122))) = false
  simp [UInt32.le_iff_toNat_le]
  omega

/-- So many digits write a number below that power of ten. A year of four digits is thus within the
range of years. -/
theorem digitsValue_lt {digits : List Char} (h : ∀ c ∈ digits, c.isDigit = true) :
    Number.digitsValue digits < 10 ^ digits.length := by
  induction digits using List.reverseRecOn with
  | nil => decide
  | append_singleton front c ih =>
    obtain ⟨hFront, hLast⟩ := List.forall_mem_append.mp h
    have hValue : Number.digitsValue (front ++ [c]) =
        Number.digitsValue front * 10 + (c.toNat - '0'.toNat) := List.foldl_concat ..
    have hDigit := toNat_of_isDigit (hLast c (.head _))
    have hBelow := ih hFront
    have hZero : '0'.toNat = 48 := rfl
    rw [hValue, List.length_append, List.length_singleton, Nat.pow_succ]
    omega

namespace IsNumeral

variable {width : Nat} {digits : List Char}

theorem not_blank (h : IsNumeral width digits) : ∀ c ∈ digits, Text.isBlank c = false :=
  fun c hMem => isBlank_of_isDigit (h.digits c hMem)

theorem trimStart_append (h : IsNumeral (width + 1) digits) (rest : List Char) :
    Text.trimStart (digits ++ rest) = digits ++ rest := by
  obtain ⟨c, more, rfl⟩ := List.exists_cons_of_length_eq_add_one h.length
  rw [List.cons_append, Text.trimStart, List.dropWhile_cons_of_neg]
  simp [h.not_blank c (.head _)]

/-- As many digits are read as there are, but not more than `most`. A further digit is left to the
next item of the format. -/
theorem number?_append (h : IsNumeral width digits) {least most : Nat} (hLeast : least ≤ width)
    (hMost : width ≤ most) {rest : List Char}
    (hStop : width = most ∨ ∀ c, rest.head? = some c → c.isDigit = false) :
    number? least most (digits ++ rest) = some (Number.digitsValue digits, rest) := by
  have hBehind : (rest.take (most - width)).takeWhile Char.isDigit = [] := by
    rcases hStop with rfl | hHead
    · simp
    · cases rest with
      | nil => simp
      | cons c more =>
        cases most - width with
        | zero => rfl
        | succ k => simp [hHead c rfl]
  have hTaken : ((digits ++ rest).take most).takeWhile Char.isDigit = digits := by
    rw [List.take_append, List.take_of_length_le (h.length.trans_le hMost), h.length,
      List.takeWhile_append_of_pos h.digits, hBehind, List.append_nil]
  rw [number?, hTaken]
  simp [h.length, hLeast]

/-- The digits of a number can be cut anywhere, and both parts are numbers of their lengths. -/
theorem exists_append {more : Nat} (h : IsNumeral (width + more) digits) :
    ∃ front back, digits = front ++ back ∧ IsNumeral width front ∧ IsNumeral more back := by
  refine ⟨digits.take width, digits.drop width, (List.take_append_drop width digits).symm, ?_, ?_⟩
  · exact ⟨by simp [h.length], fun c hMem => h.digits c (List.mem_of_mem_take hMem)⟩
  · exact ⟨by simp [h.length], fun c hMem => h.digits c (List.mem_of_mem_drop hMem)⟩

end IsNumeral

section Items

variable {digits : List Char} (items : List Item) (m : Moment)

/-- A year is read from its digits, up to four of them. With fewer than four, no digit may follow.
-/
theorem readItems?_year {width : Nat} (h : IsNumeral (width + 1) digits) (hMost : width + 1 ≤ 4)
    {rest : List Char} (hStop : width + 1 = 4 ∨ ∀ c, rest.head? = some c → c.isDigit = false) :
    readItems? (.year :: items) m (digits ++ rest) =
      readItems? items { m with year := Number.digitsValue digits } rest := by
  have hSign : sign? (digits ++ rest) = none := by
    obtain ⟨c, more, rfl⟩ := List.exists_cons_of_length_eq_add_one h.length
    have hDigit := h.digits c (.head _)
    unfold sign?
    split <;> simp_all
  rw [readItems?, Item.read?, h.trimStart_append, year?, hSign]
  dsimp only
  rw [h.number?_append (Nat.le_add_left 1 width) hMost hStop]
  rfl

/-- A month is read from its two digits, whatever follows. Whether there is such a month is not
asked yet. -/
theorem readItems?_month (h : IsNumeral 2 digits) (rest : List Char) :
    readItems? (.month :: items) m (digits ++ rest) =
      readItems? items { m with month := Number.digitsValue digits } rest := by
  rw [readItems?, Item.read?, h.trimStart_append]
  dsimp only
  rw [h.number?_append (by decide) (by decide) (.inl rfl)]
  rfl

/-- A day is read from its two digits, in the same way as a month. -/
theorem readItems?_day (h : IsNumeral 2 digits) (rest : List Char) :
    readItems? (.day :: items) m (digits ++ rest) =
      readItems? items { m with day := Number.digitsValue digits } rest := by
  rw [readItems?, Item.read?, h.trimStart_append]
  dsimp only
  rw [h.number?_append (by decide) (by decide) (.inl rfl)]
  rfl

theorem readItems?_literal (c : Char) (rest : List Char) :
    readItems? (.literal c :: items) m (c :: rest) = readItems? items m rest := by
  simp [readItems?, Item.read?, after?]

/-- A separator is not found where digits stand, so the format is not that of the text. -/
theorem readItems?_literal_digits {width : Nat} (h : IsNumeral (width + 1) digits) {c : Char}
    (hOther : c.isDigit = false) (rest : List Char) :
    readItems? (.literal c :: items) m (digits ++ rest) = none := by
  obtain ⟨d, more, rfl⟩ := List.exists_cons_of_length_eq_add_one h.length
  have hNe : c ≠ d := by
    rintro rfl
    rw [h.digits c (.head _)] at hOther
    cases hOther
  simp [readItems?, Item.read?, after?, hNe]

end Items

/-- A day, at the beginning of which it is. -/
def Moment.ofDay (year month day : Nat) : Moment := { year, month, day }

/-- A day at midnight exists just if the calendar has the day. -/
theorem Moment.exists_ofDay (year month day : Nat) :
    (Moment.ofDay year month day).exists = dayExists year month day := by
  simp [Moment.exists, ofDay]

section Formats

variable {year month day : List Char} {sep : Char}

/-- With the year in front a text has the format just if the calendar has the day that its numbers
give. -/
theorem hasFormat_yearFirst (hYear : IsNumeral 4 year) (hMonth : IsNumeral 2 month)
    (hDay : IsNumeral 2 day) (sep : Char) :
    hasFormat (separated [.literal sep] .year .month .day)
        (year ++ sep :: (month ++ sep :: day)) =
      dayExists (Number.digitsValue year) (Number.digitsValue month) (Number.digitsValue day) := by
  have hRead : readItems? (separated [.literal sep] .year .month .day) {}
      (year ++ sep :: (month ++ sep :: day)) =
        some (.ofDay (Number.digitsValue year) (Number.digitsValue month)
          (Number.digitsValue day), []) := by
    show readItems? [.year, .literal sep, .month, .literal sep, .day] _ _ = _
    rw [readItems?_year _ _ hYear (by decide) (.inl rfl), readItems?_literal,
      readItems?_month _ _ hMonth, readItems?_literal, ← List.append_nil day,
      readItems?_day _ _ hDay, readItems?, List.append_nil]
    rfl
  rw [hasFormat, hRead]
  exact Moment.exists_ofDay _ _ _

/-- With the month in front a text has the format just if the calendar has the day that its numbers
give. -/
theorem hasFormat_monthFirst (hYear : IsNumeral 4 year) (hMonth : IsNumeral 2 month)
    (hDay : IsNumeral 2 day) (sep : Char) :
    hasFormat (separated [.literal sep] .month .day .year)
        (month ++ sep :: (day ++ sep :: year)) =
      dayExists (Number.digitsValue year) (Number.digitsValue month) (Number.digitsValue day) := by
  have hRead : readItems? (separated [.literal sep] .month .day .year) {}
      (month ++ sep :: (day ++ sep :: year)) =
        some (.ofDay (Number.digitsValue year) (Number.digitsValue month)
          (Number.digitsValue day), []) := by
    show readItems? [.month, .literal sep, .day, .literal sep, .year] _ _ = _
    rw [readItems?_month _ _ hMonth, readItems?_literal, readItems?_day _ _ hDay,
      readItems?_literal, ← List.append_nil year,
      readItems?_year _ _ hYear (by decide) (.inl rfl), readItems?, List.append_nil]
    rfl
  rw [hasFormat, hRead]
  exact Moment.exists_ofDay _ _ _

/-- Where a year stands first, a month of two digits takes half of it, and the separator is missing
behind. -/
theorem hasFormat_monthFirst_of_year (hYear : IsNumeral 4 year) (hSep : sep.isDigit = false)
    (rest : List Char) :
    hasFormat (separated [.literal sep] .month .day .year) (year ++ rest) = false := by
  obtain ⟨century, decade, rfl, hCentury, hDecade⟩ :=
    IsNumeral.exists_append (show IsNumeral (2 + 2) _ from hYear)
  have hRead : readItems? (separated [.literal sep] .month .day .year) {}
      (century ++ decade ++ rest) = none := by
    show readItems? [.month, .literal sep, .day, .literal sep, .year] _ _ = _
    rw [List.append_assoc, readItems?_month _ _ hCentury,
      readItems?_literal_digits _ _ hDecade hSep]
  rw [hasFormat, hRead]

/-- Where a year stands last, a day of two digits takes half of it, and two digits are left over. -/
theorem hasFormat_yearFirst_of_month (hYear : IsNumeral 4 year) (hMonth : IsNumeral 2 month)
    (hDay : IsNumeral 2 day) (hSep : sep.isDigit = false) :
    hasFormat (separated [.literal sep] .year .month .day)
      (month ++ sep :: (day ++ sep :: year)) = false := by
  obtain ⟨century, decade, rfl, hCentury, hDecade⟩ :=
    IsNumeral.exists_append (show IsNumeral (2 + 2) _ from hYear)
  obtain ⟨c, more, rfl⟩ := List.exists_cons_of_length_eq_add_one hDecade.length
  have hStop : ∀ d, (sep :: (day ++ sep :: (century ++ c :: more))).head? = some d →
      d.isDigit = false := by
    rintro d ⟨⟩
    exact hSep
  have hRead : readItems? (separated [.literal sep] .year .month .day) {}
      (month ++ sep :: (day ++ sep :: (century ++ c :: more))) =
        some (.ofDay (Number.digitsValue month) (Number.digitsValue day)
          (Number.digitsValue century), c :: more) := by
    show readItems? [.year, .literal sep, .month, .literal sep, .day] _ _ = _
    rw [readItems?_year _ _ hMonth (by decide) (.inr hStop), readItems?_literal,
      readItems?_month _ _ hDay, readItems?_literal, readItems?_day _ _ hCentury, readItems?]
    rfl
  rw [hasFormat, hRead]

end Formats

/-- A text that lacks what one item of a format demands does not have the format. -/
theorem hasFormat_eq_false {format : List Item} {item : Item} {cs : List Char}
    (hItem : item ∈ format) (hLacks : ¬item.Demands cs) : hasFormat format cs = false := by
  rw [← Bool.not_eq_true]
  exact fun h => hLacks (demands_of_hasFormat h item hItem)

/-- Numbers with separators between them have no characters but digits and the separator. -/
theorem mem_separated {first second third : List Char} {width width' width'' : Nat}
    (hFirst : IsNumeral width first) (hSecond : IsNumeral width' second)
    (hThird : IsNumeral width'' third) (sep : Char) :
    ∀ c ∈ first ++ sep :: (second ++ sep :: third), c.isDigit = true ∨ c = sep := by
  intro c hMem
  simp only [List.mem_append, List.mem_cons] at hMem
  rcases hMem with hMem | rfl | hMem | rfl | hMem
  · exact .inl (hFirst.digits c hMem)
  · exact .inr rfl
  · exact .inl (hSecond.digits c hMem)
  · exact .inr rfl
  · exact .inl (hThird.digits c hMem)

/-- A text of digits, hyphens and slashes. -/
def IsNumeric (cs : List Char) : Prop := ∀ c ∈ cs, c.isDigit = true ∨ c = '-' ∨ c = '/'

namespace IsNumeric

variable {cs : List Char}

theorem not_isAlpha (h : IsNumeric cs) : ¬∃ c ∈ cs, c.isAlpha = true := by
  rintro ⟨c, hMem, hLetter⟩
  rcases h c hMem with hDigit | rfl | rfl
  · rw [isAlpha_of_isDigit hDigit] at hLetter
    cases hLetter
  · exact absurd hLetter (by decide)
  · exact absurd hLetter (by decide)

theorem colon_not_mem (h : IsNumeric cs) : ':' ∉ cs := by
  intro hMem
  rcases h _ hMem with hDigit | hHyphen | hSlash
  · exact absurd hDigit (by decide)
  · exact absurd hHyphen (by decide)
  · exact absurd hSlash (by decide)

theorem trim_eq (h : IsNumeric cs) : Text.trim cs = cs := by
  refine Text.trim_eq_self fun c hMem => ?_
  rcases h c hMem with hDigit | rfl | rfl
  · exact isBlank_of_isDigit hDigit
  · decide
  · decide

end IsNumeric

/-- A text of digits, hyphens and slashes can have three formats only. All the others demand a
letter or a colon. -/
theorem isDate_eq {cs lead trail : List Char} (h : IsNumeric cs) (hSome : cs ≠ [])
    (hLead : ∀ c ∈ lead, Text.isBlank c = true) (hTrail : ∀ c ∈ trail, Text.isBlank c = true) :
    isDate (String.ofList (lead ++ cs ++ trail)) =
      (hasFormat (separated [.literal '-'] .year .month .day) cs ||
        (hasFormat (separated [.literal '/'] .year .month .day) cs ||
          hasFormat (separated [.literal '/'] .month .day .year) cs)) := by
  have hTrim : Text.trim (String.ofList (lead ++ cs ++ trail)).toList = cs := by
    rw [String.toList_ofList, Text.trim_append hLead hTrail, h.trim_eq]
  have hTimestamp : Timestamp.isTimestamp cs = false := by
    rw [← Bool.not_eq_true]
    exact fun hHas => h.colon_not_mem (mem_of_isTimestamp hHas).2
  have hMail : MailDate.isMailDate cs = false := by
    rw [← Bool.not_eq_true]
    exact fun hHas => h.not_isAlpha (isAlpha_of_isMailDate hHas)
  have hMoments : momentFormats.any (hasFormat · cs) = false := by
    have hColon : ∀ format ∈ momentFormats, Item.literal ':' ∈ format := by decide
    refine List.any_eq_false.mpr fun format hMem => ?_
    rw [hasFormat_eq_false (hColon format hMem) h.colon_not_mem]
    exact Bool.false_ne_true
  have hNamed : (dayFormats.drop 3).any (hasFormat · cs) = false := by
    have hName : ∀ format ∈ dayFormats.drop 3,
        Item.shortMonthName ∈ format ∨ Item.monthName ∈ format := by decide
    refine List.any_eq_false.mpr fun format hMem => ?_
    rcases hName format hMem with hItem | hItem
    all_goals
      rw [hasFormat_eq_false hItem h.not_isAlpha]
      exact Bool.false_ne_true
  have hDays : dayFormats.any (hasFormat · cs) = (dayFormats.take 3).any (hasFormat · cs) := by
    rw [← List.take_append_drop 3 dayFormats, List.any_append, hNamed, Bool.or_false]
    rfl
  rw [isDate, hTrim, hTimestamp, hMail, hMoments, hDays]
  simp [hSome, dayFormats]

/-- A format is not that of a text that does not have its separator. -/
theorem hasFormat_eq_false_of_separator {cs : List Char} {sep : Char}
    (hChars : ∀ c ∈ cs, c.isDigit = true ∨ c = sep) (other : Char) (hDigit : other.isDigit = false)
    (hOther : other ≠ sep) (a b c : Item) :
    hasFormat (separated [.literal other] a b c) cs = false := by
  have hItem : Item.literal other ∈ separated [.literal other] a b c := by
    simp [separated]
  refine hasFormat_eq_false hItem fun hMem => ?_
  rcases hChars other hMem with hIs | hIs
  · rw [hIs] at hDigit
    cases hDigit
  · exact hOther hIs

/-- A day in digits, blanks around it aside, is a date just if the calendar has it. -/
theorem isDate_in_digits {year month day lead trail : List Char} (hYear : IsNumeral 4 year)
    (hMonth : IsNumeral 2 month) (hDay : IsNumeral 2 day)
    (hLead : ∀ c ∈ lead, Text.isBlank c = true) (hTrail : ∀ c ∈ trail, Text.isBlank c = true) :
    (isDate (String.ofList (lead ++ (year ++ '-' :: (month ++ '-' :: day)) ++ trail)) = true ↔
      IsDay (Number.digitsValue year) (Number.digitsValue month) (Number.digitsValue day)) ∧
    (isDate (String.ofList (lead ++ (year ++ '/' :: (month ++ '/' :: day)) ++ trail)) = true ↔
      IsDay (Number.digitsValue year) (Number.digitsValue month) (Number.digitsValue day)) ∧
    (isDate (String.ofList (lead ++ (month ++ '/' :: (day ++ '/' :: year)) ++ trail)) = true ↔
      IsDay (Number.digitsValue year) (Number.digitsValue month) (Number.digitsValue day)) := by
  have hExists : dayExists (Number.digitsValue year) (Number.digitsValue month)
      (Number.digitsValue day) = true ↔
        IsDay (Number.digitsValue year) (Number.digitsValue month) (Number.digitsValue day) := by
    have hBelow := digitsValue_lt hYear.digits
    rw [hYear.length] at hBelow
    exact dayExists_iff (by omega)
  have hHyphens := mem_separated hYear hMonth hDay '-'
  have hSlashes := mem_separated hYear hMonth hDay '/'
  have hTurned := mem_separated hMonth hDay hYear '/'
  refine ⟨?_, ?_, ?_⟩
  · have hNumeric : IsNumeric _ := fun c hMem => (hHyphens c hMem).imp_right .inl
    have hNoSlash := hasFormat_eq_false_of_separator hHyphens '/' (by decide) (by decide)
    rw [isDate_eq hNumeric (by simp) hLead hTrail, hNoSlash, hNoSlash, Bool.or_false,
      Bool.or_false, hasFormat_yearFirst hYear hMonth hDay, hExists]
  · have hNumeric : IsNumeric _ := fun c hMem => (hSlashes c hMem).imp_right .inr
    have hNoHyphen := hasFormat_eq_false_of_separator hSlashes '-' (by decide) (by decide)
    rw [isDate_eq hNumeric (by simp) hLead hTrail, hNoHyphen,
      hasFormat_yearFirst hYear hMonth hDay, hasFormat_monthFirst_of_year hYear (by decide),
      Bool.or_false, Bool.false_or, hExists]
  · have hNumeric : IsNumeric _ := fun c hMem => (hTurned c hMem).imp_right .inr
    have hNoHyphen := hasFormat_eq_false_of_separator hTurned '-' (by decide) (by decide)
    rw [isDate_eq hNumeric (by simp) hLead hTrail, hNoHyphen,
      hasFormat_yearFirst_of_month hYear hMonth hDay (by decide),
      hasFormat_monthFirst hYear hMonth hDay, Bool.false_or, Bool.false_or, hExists]

/-- The last day of February is there in 2000 and not in 1900, written with hyphens and with
slashes. -/
theorem isDate_leapDay :
    IsNumeral 4 "2000".toList ∧ IsNumeral 4 "1900".toList ∧ IsNumeral 2 "02".toList ∧
      IsNumeral 2 "29".toList ∧ (∀ c ∈ " \u3000".toList, Text.isBlank c = true) ∧
      isDate " \u30002000-02-29" = true ∧ isDate " \u30001900-02-29" = false ∧
      isDate " \u300002/29/2000" = true ∧ isDate " \u30001900/02/29" = false := by
  have hLead : ∀ c ∈ " \u3000".toList, Text.isBlank c = true := by simp [Text.isBlank]
  have hDays {year : List Char} (hYear : IsNumeral 4 year) :=
    isDate_in_digits hYear (show IsNumeral 2 "02".toList by decide)
      (show IsNumeral 2 "29".toList by decide) hLead (List.forall_mem_nil _)
  have hLeap := hDays (show IsNumeral 4 "2000".toList by decide)
  have hCommon := hDays (show IsNumeral 4 "1900".toList by decide)
  refine ⟨by decide, by decide, by decide, by decide, hLead, ?_, ?_, ?_, ?_⟩
  · exact hLeap.1.mpr (by decide)
  · exact Bool.eq_false_iff.mpr fun h => absurd (hCommon.1.mp h) (by decide)
  · exact hLeap.2.2.mpr (by decide)
  · exact Bool.eq_false_iff.mpr fun h => absurd (hCommon.2.1.mp h) (by decide)

end MarkupRules.Calendar
