import MarkupRules.Proofs.Calendar.NumericDate
import MarkupRules.Proofs.Number.Numeral

/-!
Texts without a day.

A day is written with the letters of a month, or with hyphens or slashes between its numbers. Times
of the day and plain numbers have neither, and no format takes them.
-/
namespace MarkupRules.Calendar

/-- A text without letters, hyphens and slashes. -/
def IsBare (cs : List Char) : Prop := ∀ c ∈ cs, c.isAlpha = false ∧ c ≠ '-' ∧ c ≠ '/'

/-- A text that, blanks around it aside, has none of the formats of dates. -/
structure IsRejected (s : String) : Prop where
  timestamp : Timestamp.isTimestamp (Text.trim s.toList) = false
  mailDate : MailDate.isMailDate (Text.trim s.toList) = false
  formats : ∀ format ∈ dayFormats ++ momentFormats, hasFormat format (Text.trim s.toList) = false
  date : isDate s = false

section Bare

variable {cs : List Char}

/-- A part of a bare text is bare. So trimming and cutting never bring a letter or a separator in.
-/
theorem IsBare.of_subset {more : List Char} (h : IsBare more) (hSubset : cs ⊆ more) : IsBare cs :=
  fun c hMem => h c (hSubset hMem)

theorem IsBare.not_isAlpha (h : IsBare cs) : ¬∃ c ∈ cs, c.isAlpha = true := by
  rintro ⟨c, hMem, hLetter⟩
  rw [(h c hMem).1] at hLetter
  cases hLetter

/-- Every format of days and moments names a month or separates the numbers of a day by a hyphen or
a slash. -/
theorem exists_item_of_mem_formats : ∀ format ∈ dayFormats ++ momentFormats,
    .shortMonthName ∈ format ∨ .monthName ∈ format ∨ .literal '-' ∈ format ∨
      .literal '/' ∈ format := by
  decide

/-- A bare text has none of the formats, because it lacks what one item of each demands. -/
theorem IsBare.hasFormat_eq_false (h : IsBare cs) {format : List Item}
    (hFormat : format ∈ dayFormats ++ momentFormats) : hasFormat format cs = false := by
  rcases exists_item_of_mem_formats format hFormat with hShort | hName | hHyphen | hSlash
  · exact Calendar.hasFormat_eq_false hShort h.not_isAlpha
  · exact Calendar.hasFormat_eq_false hName h.not_isAlpha
  · exact Calendar.hasFormat_eq_false hHyphen fun hMem => (h _ hMem).2.1 rfl
  · exact Calendar.hasFormat_eq_false hSlash fun hMem => (h _ hMem).2.2 rfl

/-- A bare text is refused by every way to read a date, one after the other, and so it is no date.
-/
theorem isRejected_of_isBare {s : String} (h : IsBare s.toList) : IsRejected s := by
  have hTrim : IsBare (Text.trim s.toList) := h.of_subset (Text.trim_subset _)
  have hTimestamp : Timestamp.isTimestamp (Text.trim s.toList) = false := by
    rw [← Bool.not_eq_true]
    exact fun hHas => (hTrim _ (mem_of_isTimestamp hHas).1).2.1 rfl
  have hMail : MailDate.isMailDate (Text.trim s.toList) = false := by
    rw [← Bool.not_eq_true]
    exact fun hHas => hTrim.not_isAlpha (isAlpha_of_isMailDate hHas)
  refine ⟨hTimestamp, hMail, fun format => hTrim.hasFormat_eq_false, ?_⟩
  have hNone {formats : List (List Item)} (hMem : formats ⊆ dayFormats ++ momentFormats) :
      formats.any (hasFormat · (Text.trim s.toList)) = false := by
    refine List.any_eq_false.mpr fun format hFormat => ?_
    rw [hTrim.hasFormat_eq_false (hMem hFormat)]
    exact Bool.false_ne_true
  rw [isDate, hTimestamp, hMail, hNone (List.subset_append_left _ _),
    hNone (List.subset_append_right _ _)]
  exact Bool.and_false _

end Bare

/-- A time of the day: hours and minutes, with seconds and a fraction of them or without. -/
inductive IsClockTime : List Char → Prop where
  | toMinute {hour minute : List Char} (hHour : IsNumeral 1 hour ∨ IsNumeral 2 hour)
      (hMinute : IsNumeral 2 minute) : IsClockTime (hour ++ ':' :: minute)
  | toSecond {hour minute second : List Char} (hHour : IsNumeral 1 hour ∨ IsNumeral 2 hour)
      (hMinute : IsNumeral 2 minute) (hSecond : IsNumeral 2 second) :
      IsClockTime (hour ++ ':' :: (minute ++ ':' :: second))
  | toFraction {hour minute second fraction : List Char}
      (hHour : IsNumeral 1 hour ∨ IsNumeral 2 hour) (hMinute : IsNumeral 2 minute)
      (hSecond : IsNumeral 2 second) (hFraction : ∀ c ∈ fraction, c.isDigit = true) :
      IsClockTime (hour ++ ':' :: (minute ++ ':' :: (second ++ '.' :: fraction)))

/-- A number in digits without a sign, with a point among them or without. -/
inductive IsPlainNumber : List Char → Prop where
  | whole {digits : List Char} (h : ∀ c ∈ digits, c.isDigit = true) : IsPlainNumber digits
  | decimal {whole fraction : List Char} (hWhole : ∀ c ∈ whole, c.isDigit = true)
      (hFraction : ∀ c ∈ fraction, c.isDigit = true) : IsPlainNumber (whole ++ '.' :: fraction)

section Digits

variable {front back : List Char}

/-- Characters of a kind that has no letters, no hyphen and no slash make up a bare text. -/
theorem isBare_of_forall {p : Char → Bool} (hLetter : ∀ {c}, p c = true → c.isAlpha = false)
    (hHyphen : p '-' = false) (hSlash : p '/' = false) (h : ∀ c ∈ front, p c = true) :
    IsBare front := by
  intro c hMem
  have hChar := h c hMem
  refine ⟨hLetter hChar, ?_, ?_⟩
  · rintro rfl
    exact absurd hChar (Bool.eq_false_iff.mp hHyphen)
  · rintro rfl
    exact absurd hChar (Bool.eq_false_iff.mp hSlash)

theorem isBare_of_digits (h : ∀ c ∈ front, c.isDigit = true) : IsBare front :=
  isBare_of_forall isAlpha_of_isDigit (by decide) (by decide) h

theorem isAlpha_of_isBlank {c : Char} (h : Text.isBlank c = true) : c.isAlpha = false := by
  simp only [Text.isBlank, Bool.or_eq_true, Bool.and_eq_true, decide_eq_true_eq, beq_iff_eq] at h
  have hVal : c.toNat = c.val.toNat := rfl
  change (decide (c.val ≥ 65 ∧ c.val ≤ 90) || (decide (c.val ≥ 97) && decide (c.val ≤ 122))) = false
  simp [UInt32.le_iff_toNat_le]
  omega

theorem isBare_of_blanks (h : ∀ c ∈ front, Text.isBlank c = true) : IsBare front :=
  isBare_of_forall isAlpha_of_isBlank (by decide) (by decide) h

theorem IsBare.append (hFront : IsBare front) (hBack : IsBare back) : IsBare (front ++ back) :=
  List.forall_mem_append.mpr ⟨hFront, hBack⟩

theorem IsBare.separated (hFront : ∀ c ∈ front, c.isDigit = true) {sep : Char}
    (hSep : sep = ':' ∨ sep = '.') (hBack : IsBare back) : IsBare (front ++ sep :: back) := by
  have hPlain : sep.isAlpha = false ∧ sep ≠ '-' ∧ sep ≠ '/' := by
    rcases hSep with rfl | rfl <;> decide
  exact (isBare_of_digits hFront).append (List.forall_mem_cons.mpr ⟨hPlain, hBack⟩)

end Digits

/-- A time of the day is written with digits, colons and a point, so it is bare. -/
theorem IsClockTime.isBare {cs : List Char} (h : IsClockTime cs) : IsBare cs := by
  have hDigits {hour : List Char} (hHour : IsNumeral 1 hour ∨ IsNumeral 2 hour) :
      ∀ c ∈ hour, c.isDigit = true := by
    rcases hHour with hShort | hLong
    · exact hShort.digits
    · exact hLong.digits
  cases h with
  | toMinute hHour hMinute =>
    exact .separated (hDigits hHour) (.inl rfl) (isBare_of_digits hMinute.digits)
  | toSecond hHour hMinute hSecond =>
    exact .separated (hDigits hHour) (.inl rfl)
      (.separated hMinute.digits (.inl rfl) (isBare_of_digits hSecond.digits))
  | toFraction hHour hMinute hSecond hFraction =>
    exact .separated (hDigits hHour) (.inl rfl) (.separated hMinute.digits (.inl rfl)
      (.separated hSecond.digits (.inr rfl) (isBare_of_digits hFraction)))

/-- A plain number is written with digits and perhaps a point among them, so it is bare. It has no
sign. -/
theorem IsPlainNumber.isBare {cs : List Char} (h : IsPlainNumber cs) : IsBare cs := by
  cases h with
  | whole hDigits => exact isBare_of_digits hDigits
  | decimal hWhole hFraction =>
    exact .separated hWhole (.inr rfl) (isBare_of_digits hFraction)

/-- A text without letters, hyphens and slashes is no date, and so no time of the day and no plain
number is one. -/
theorem isRejected_of_bare_or_clock {s : String} (h : IsBare s.toList ∨
    ∃ cs, Number.Encloses cs s ∧ (IsClockTime cs ∨ IsPlainNumber cs)) : IsRejected s := by
  rcases h with hBare | ⟨cs, ⟨lead, trail, hText, hLead, hTrail⟩, hKind⟩
  · exact isRejected_of_isBare hBare
  · have hBare : IsBare cs := hKind.elim IsClockTime.isBare IsPlainNumber.isBare
    refine isRejected_of_isBare ?_
    rw [hText]
    exact ((isBare_of_blanks hLead).append hBare).append (isBare_of_blanks hTrail)

/-- A time with a wide blank behind it is bare, and one with a fraction of a second is a time of the
day. Neither is a date. -/
theorem isRejected_noon : IsBare "12:30\u3000".toList ∧ IsRejected "12:30\u3000" ∧
    IsClockTime "12:30:59.5".toList ∧ IsRejected " 12:30:59.5" := by
  have hNoon : IsClockTime ("12".toList ++ ':' :: "30".toList) :=
    .toMinute (.inr (by decide)) (by decide)
  have hBlank : IsBare ['\u3000'] := isBare_of_blanks (List.all_eq_true.mp rfl)
  have hBare : IsBare "12:30\u3000".toList := hNoon.isBare.append hBlank
  have hClock : IsClockTime ("12".toList ++ ':' :: ("30".toList ++ ':' :: ("59".toList ++
      '.' :: "5".toList))) :=
    .toFraction (.inr (by decide)) (by decide) (by decide) (List.all_eq_true.mp rfl)
  have hText : Number.Encloses "12:30:59.5".toList " 12:30:59.5" :=
    ⟨[' '], [], by decide, List.all_eq_true.mp rfl, List.forall_mem_nil _⟩
  exact ⟨hBare, isRejected_of_bare_or_clock (.inl hBare), hClock,
    isRejected_of_bare_or_clock (.inr ⟨_, hText, .inl hClock⟩)⟩

end MarkupRules.Calendar
