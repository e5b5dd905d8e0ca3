import MarkupRules.Calendar.Timestamp
import Mathlib.Data.List.Infix

/-!
What a date needs to have in its text.

Every reader of a part of a date leaves an end of the text that it was given. What a reader far back
in a format finds there is therefore in the whole text, and a text without it does not have the
format.
-/
namespace MarkupRules.Calendar

variable {cs rest : List Char}

/-- What is left behind a number is the end of the text it was read from. -/
theorem number?_suffix {least most n : Nat} (h : number? least most cs = some (n, rest)) :
    rest <:+ cs := by
  unfold number? at h
  dsimp only at h
  split at h
  · cases h
  · obtain ⟨-, rfl⟩ := Prod.mk.inj (Option.some.inj h)
    exact List.drop_suffix _ _

theorem trimStart_suffix (cs : List Char) : Text.trimStart cs <:+ cs :=
  List.dropWhile_suffix _

/-- What is left behind a character is all that follows it, and the character was there. -/
theorem after?_eq_some {c : Char} (h : after? c cs = some rest) : cs = c :: rest := by
  cases cs with
  | nil => cases h
  | cons d more =>
    rw [after?] at h
    split at h
    · next hSame =>
      obtain rfl := Option.some.inj h
      rw [hSame]
    · cases h

theorem after?_suffix {c : Char} (h : after? c cs = some rest) : rest <:+ cs := by
  rw [after?_eq_some h]
  exact List.suffix_cons c rest

/-- A character that was read is one of the characters of the text. That shows that a text without
it was not read. -/
theorem mem_of_after? {c : Char} (h : after? c cs = some rest) : c ∈ cs := by
  rw [after?_eq_some h]
  exact .head _

theorem afterBlanks?_suffix (h : afterBlanks? cs = some rest) : rest <:+ cs := by
  cases cs with
  | nil => cases h
  | cons c more =>
    rw [afterBlanks?] at h
    split at h
    · obtain rfl := Option.some.inj h
      exact (trimStart_suffix more).trans (List.suffix_cons c more)
    · cases h

theorem sign?_suffix {negative : Bool} (h : sign? cs = some (negative, rest)) : rest <:+ cs := by
  unfold sign? at h
  split at h
  · obtain ⟨-, rfl⟩ := Prod.mk.inj (Option.some.inj h)
    exact List.suffix_cons _ _
  · obtain ⟨-, rfl⟩ := Prod.mk.inj (Option.some.inj h)
    exact List.suffix_cons _ _
  · cases h

theorem year?_suffix {year : Int} (h : year? cs = some (year, rest)) : rest <:+ cs := by
  unfold year? at h
  split at h
  · next negative unsigned hSign =>
    obtain ⟨⟨n, rest⟩, hNumber, hPair⟩ := Option.map_eq_some_iff.mp h
    obtain ⟨-, rfl⟩ := Prod.mk.inj hPair
    exact (number?_suffix hNumber).trans (sign?_suffix hSign)
  · obtain ⟨⟨n, rest⟩, hNumber, hPair⟩ := Option.map_eq_some_iff.mp h
    obtain ⟨-, rfl⟩ := Prod.mk.inj hPair
    exact number?_suffix hNumber

theorem fraction?_suffix (h : fraction? cs = some rest) : rest <:+ cs := by
  unfold fraction? at h
  split at h
  · split at h
    · cases h
    · obtain rfl := Option.some.inj h
      exact (List.dropWhile_suffix _).trans (List.suffix_cons _ _)
  · obtain rfl := Option.some.inj h
    exact List.suffix_refl _

/-- What is left behind a name by three letters is the end of the text, with the rest of the name
still in it. -/
theorem byThreeLetters?_suffix {names : List String} {i : Nat}
    (h : byThreeLetters? names cs = some (i, rest)) : rest <:+ cs := by
  obtain ⟨j, -, hPair⟩ := Option.map_eq_some_iff.mp h
  obtain ⟨-, rfl⟩ := Prod.mk.inj hPair
  exact List.drop_suffix 3 cs

theorem shortMonth?_suffix {month : Nat} (h : shortMonth? cs = some (month, rest)) :
    rest <:+ cs := by
  obtain ⟨⟨i, rest⟩, hName, hPair⟩ := Option.map_eq_some_iff.mp h
  obtain ⟨-, rfl⟩ := Prod.mk.inj hPair
  exact byThreeLetters?_suffix hName

/-- A month is read by its first three letters, and then the rest of its name may be taken too. -/
theorem month?_eq_some {month : Nat} (h : month? cs = some (month, rest)) :
    ∃ behind, shortMonth? cs = some (month, behind) ∧ rest <:+ behind := by
  obtain ⟨⟨n, behind⟩, hShort, hPair⟩ := Option.map_eq_some_iff.mp h
  obtain ⟨rfl, rfl⟩ := Prod.mk.inj hPair
  refine ⟨behind, hShort, ?_⟩
  split
  · exact List.drop_suffix _ _
  · exact List.suffix_refl _

/-- Only letters have letters as their small forms. -/
theorem isAlpha_of_isAlpha_toLower {c : Char} (h : c.toLower.isAlpha = true) :
    c.isAlpha = true := by
  unfold Char.toLower at h
  split at h
  · next hUpper =>
    have hCapital : c.isUpper = true := decide_eq_true hUpper
    change (c.isUpper || c.isLower) = true
    rw [hCapital, Bool.true_or]
  · exact h

/-- A text that starts with a word has the first letter of the word at its front, in either case. -/
theorem exists_cons_of_startsWithWord {word : String} {c : Char} {more : List Char}
    (hWord : word.toList = c :: more) (h : startsWithWord word cs = true) :
    ∃ d tail, cs = d :: tail ∧ d.toLower = c := by
  have hLength : word.length = more.length + 1 := by
    rw [← String.length_toList, hWord, List.length_cons]
  rw [startsWithWord, hLength, hWord, beq_iff_eq] at h
  cases cs with
  | nil => cases h
  | cons d tail => exact ⟨d, tail, rfl, (List.cons.inj h).1⟩

/-- A text that starts with one of several names starts with a letter, if these do. -/
theorem isAlpha_of_byThreeLetters? {names : List String} {i : Nat}
    (hNames : ∀ name ∈ names, name.toList.head?.any Char.isAlpha = true)
    (h : byThreeLetters? names cs = some (i, rest)) : ∃ c ∈ cs, c.isAlpha = true := by
  obtain ⟨j, hFound, -⟩ := Option.map_eq_some_iff.mp h
  obtain ⟨hLt, hStart, -⟩ := List.findIdx?_eq_some_iff_getElem.mp hFound
  have hFirst := hNames _ (List.getElem_mem hLt)
  generalize names[j] = name at hStart hFirst
  obtain ⟨c, hHead, hLetter⟩ := (Option.any_eq_true _ _).mp hFirst
  obtain ⟨more, hName⟩ := List.head?_eq_some_iff.mp hHead
  have hWord : (String.ofList (name.toList.take 3)).toList = c :: more.take 2 := by simp [hName]
  obtain ⟨d, tail, rfl, rfl⟩ := exists_cons_of_startsWithWord hWord hStart
  exact ⟨d, .head _, isAlpha_of_isAlpha_toLower hLetter⟩

theorem isAlpha_of_shortMonth? {month : Nat} (h : shortMonth? cs = some (month, rest)) :
    ∃ c ∈ cs, c.isAlpha = true := by
  obtain ⟨⟨i, behind⟩, hName, -⟩ := Option.map_eq_some_iff.mp h
  exact isAlpha_of_byThreeLetters? (by decide) hName

/-- What a text has in it from which an item can be read. -/
def Item.Demands : Item → List Char → Prop
  | .literal c, cs => c ∈ cs
  | .shortMonthName, cs | .monthName, cs => ∃ c ∈ cs, c.isAlpha = true
  | _, _ => True

/-- What the end of a text meets the demands of an item with, the whole text has as well. -/
theorem Item.Demands.of_suffix {item : Item} (h : item.Demands rest) (hSuffix : rest <:+ cs) :
    item.Demands cs := by
  cases item with
  | literal c => exact hSuffix.mem h
  | shortMonthName | monthName =>
    obtain ⟨c, hMem, hLetter⟩ := h
    exact ⟨c, hSuffix.mem hMem, hLetter⟩
  | _ => trivial

/-- An item is read from the front of a text that has what the item demands, and leaves the end of
it. -/
theorem Item.read?_eq_some {item : Item} {m m' : Moment} (h : item.read? m cs = some (m', rest)) :
    rest <:+ cs ∧ item.Demands cs := by
  unfold read? at h
  dsimp only at h
  cases item with
  | literal c =>
    obtain ⟨behind, hAfter, hPair⟩ := Option.map_eq_some_iff.mp h
    obtain ⟨-, rfl⟩ := Prod.mk.inj hPair
    exact ⟨after?_suffix hAfter, mem_of_after? hAfter⟩
  | blank =>
    obtain ⟨-, rfl⟩ := Prod.mk.inj (Option.some.inj h)
    exact ⟨trimStart_suffix cs, trivial⟩
  | year =>
    obtain ⟨⟨y, behind⟩, hYear, hPair⟩ := Option.map_eq_some_iff.mp h
    obtain ⟨-, rfl⟩ := Prod.mk.inj hPair
    exact ⟨(year?_suffix hYear).trans (trimStart_suffix cs), trivial⟩
  | shortMonthName =>
    obtain ⟨⟨n, behind⟩, hMonth, hPair⟩ := Option.map_eq_some_iff.mp h
    obtain ⟨-, rfl⟩ := Prod.mk.inj hPair
    exact ⟨shortMonth?_suffix hMonth, isAlpha_of_shortMonth? hMonth⟩
  | monthName =>
    obtain ⟨⟨n, behind⟩, hMonth, hPair⟩ := Option.map_eq_some_iff.mp h
    obtain ⟨-, rfl⟩ := Prod.mk.inj hPair
    obtain ⟨middle, hShort, hSuffix⟩ := month?_eq_some hMonth
    exact ⟨hSuffix.trans (shortMonth?_suffix hShort), isAlpha_of_shortMonth? hShort⟩
  | fraction =>
    obtain ⟨behind, hFraction, hPair⟩ := Option.map_eq_some_iff.mp h
    obtain ⟨-, rfl⟩ := Prod.mk.inj hPair
    exact ⟨fraction?_suffix hFraction, trivial⟩
  | shortYear | month | day | hour | minute | second =>
    obtain ⟨⟨n, behind⟩, hDigits, hPair⟩ := Option.map_eq_some_iff.mp h
    obtain ⟨-, rfl⟩ := Prod.mk.inj hPair
    exact ⟨(number?_suffix hDigits).trans (trimStart_suffix cs), trivial⟩

/-- A text that a list of items was read from has what each of these items demands, wherever in the
text it was found. -/
theorem demands_of_readItems? {items : List Item} {m m' : Moment}
    (h : readItems? items m cs = some (m', rest)) : ∀ item ∈ items, item.Demands cs := by
  induction items generalizing m cs with
  | nil => simp
  | cons item items ih =>
    rw [readItems?] at h
    obtain ⟨⟨next, behind⟩, hItem, hItems⟩ := Option.bind_eq_some_iff.mp h
    obtain ⟨hSuffix, hDemands⟩ := Item.read?_eq_some hItem
    exact List.forall_mem_cons.mpr
      ⟨hDemands, fun other hMem => (ih hItems other hMem).of_suffix hSuffix⟩

/-- A text that has a format has what the items of the format demand. -/
theorem demands_of_hasFormat {format : List Item} (h : hasFormat format cs = true) :
    ∀ item ∈ format, item.Demands cs := by
  unfold hasFormat at h
  split at h
  · next hRead => exact demands_of_readItems? hRead
  · cases h

theorem afterSeparator?_suffix (h : Timestamp.afterSeparator? cs = some rest) : rest <:+ cs := by
  cases cs with
  | nil => cases h
  | cons c more =>
    rw [Timestamp.afterSeparator?] at h
    split at h
    · obtain rfl := Option.some.inj h
      exact List.suffix_cons c more
    · cases h

/-- The day of a timestamp has hyphens and the time colons, so that a text without either is none.
-/
theorem mem_of_isTimestamp (h : Timestamp.isTimestamp cs = true) : '-' ∈ cs ∧ ':' ∈ cs := by
  unfold Timestamp.isTimestamp Timestamp.moment? at h
  split at h
  · next hRead =>
    simp only [bind, Option.bind_eq_some_iff, Prod.exists] at hRead
    obtain ⟨year, behindYear, hYear, monthOn, hHyphen, month, behindMonth, hMonth, dayOn, hHyphen',
      day, behindDay, hDay, hourOn, hSeparator, hour, behindHour, hHour, minuteOn, hColon, -⟩ :=
      hRead
    have hYearOn := number?_suffix hYear
    have hDayOn := (after?_suffix hHyphen').trans
      ((number?_suffix hMonth).trans ((after?_suffix hHyphen).trans hYearOn))
    have hHourOn := (afterSeparator?_suffix hSeparator).trans ((number?_suffix hDay).trans hDayOn)
    exact ⟨hYearOn.mem (mem_of_after? hHyphen),
      ((number?_suffix hHour).trans hHourOn).mem (mem_of_after? hColon)⟩
  · cases h

theorem weekday?_suffix {day : Option Nat} (h : MailDate.weekday? cs = some (day, rest)) :
    rest <:+ cs := by
  unfold MailDate.weekday? at h
  split at h
  · next hName =>
    obtain ⟨behind, hComma, hPair⟩ := Option.map_eq_some_iff.mp h
    obtain ⟨-, rfl⟩ := Prod.mk.inj hPair
    exact (after?_suffix hComma).trans (byThreeLetters?_suffix hName)
  · obtain ⟨-, rfl⟩ := Prod.mk.inj (Option.some.inj h)
    exact List.suffix_refl _

/-- The month in the date of a mail is written in letters, and there is no other way to write it. -/
theorem isAlpha_of_isMailDate (h : MailDate.isMailDate cs = true) :
    ∃ c ∈ cs, c.isAlpha = true := by
  unfold MailDate.isMailDate MailDate.moment? at h
  split at h
  · next hRead =>
    simp only [bind, Option.bind_eq_some_iff, Prod.exists] at hRead
    obtain ⟨weekday, dayOn, hWeekday, day, behindDay, hDay, monthOn, hBlanks, month, behindMonth,
      hMonth, -⟩ := hRead
    have hDayOn := (weekday?_suffix hWeekday).trans (trimStart_suffix cs)
    have hMonthOn := (afterBlanks?_suffix hBlanks).trans
      ((number?_suffix hDay).trans ((trimStart_suffix dayOn).trans hDayOn))
    obtain ⟨c, hMem, hLetter⟩ := isAlpha_of_shortMonth? hMonth
    exact ⟨c, hMonthOn.mem hMem, hLetter⟩
  · cases h

end MarkupRules.Calendar
