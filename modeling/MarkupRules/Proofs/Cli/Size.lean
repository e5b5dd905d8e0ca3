import MarkupRules.Cli.Program
import MarkupRules.Proofs.Number.Numeral

/-!
Sizes of files and what they do to reading.

A size is digits and a unit, and neither the digits nor their product with the unit may leave 64
bits. Under a limit a file is read up to the first byte that is too many, so what is read is either
the whole content or known to be too large. At the greatest limit there is no number for that byte,
but no content that has it either.
-/
namespace MarkupRules.Cli

/-- The units and what they stand for. -/
def sizeUnits : List (String × Nat) :=
  [("", 1), ("B", 1), ("K", 1024), ("KB", 1024), ("KiB", 1024), ("M", 1024 ^ 2), ("MB", 1024 ^ 2),
    ("MiB", 1024 ^ 2), ("G", 1024 ^ 3), ("GB", 1024 ^ 3), ("GiB", 1024 ^ 3)]

/-- A unit is one of the table, in just the case in which it stands there. -/
theorem unitBytes?_eq_some_iff {unit : String} {scale : Nat} :
    unitBytes? unit = some scale ↔ (unit, scale) ∈ sizeUnits := by
  constructor
  · intro h
    unfold unitBytes? at h
    split at h <;> cases h <;> decide
  · intro h
    have hUnits : ∀ u ∈ sizeUnits, unitBytes? u.1 = some u.2 := by decide
    exact hUnits _ h

/-- `s` spells a size of `b` bytes: digits, a unit behind them and blanks before it, both the digits
and the size numbers of 64 bits. -/
inductive SpellsSize (s : String) : Nat → Prop where
  | mk {digits blanks : List Char} {unit : String} {n scale : Nat}
      (hText : Text.trim s.toList = digits ++ blanks ++ unit.toList)
      (hDigits : Number.IsNumeral 10 digits n) (hBlanks : ∀ c ∈ blanks, Text.isBlank c = true)
      (hUnit : (unit, scale) ∈ sizeUnits) (hNumber : n < 2 ^ 64)
      (hSize : 0 < n * scale ∧ n * scale < 2 ^ 64) : SpellsSize s (n * scale)

/-- What a size depends on: the digits in front and the unit behind them, with the blanks around
both left out. -/
theorem size?_eq_some_iff_of_spanDigits {s : String} {digits rest : List Char} {b : Nat}
    (h : Number.spanDigits (Text.trim s.toList) = (digits, rest)) :
    size? s = some b ↔ ∃ scale, (String.ofList (Text.trim rest), scale) ∈ sizeUnits ∧
      digits ≠ [] ∧ Number.digitsValue digits < 2 ^ 64 ∧
      (0 < Number.digitsValue digits * scale ∧ Number.digitsValue digits * scale < 2 ^ 64) ∧
      Number.digitsValue digits * scale = b := by
  have hPower : Nat.pow 2 64 = 2 ^ 64 := rfl
  rw [size?, h]
  dsimp only
  rw [Option.bind_eq_bind, Option.bind_eq_some_iff]
  refine exists_congr fun scale => and_congr unitBytes?_eq_some_iff ?_
  rw [hPower]
  generalize Number.digitsValue digits = n
  simp only [Bool.or_eq_true, List.isEmpty_iff, decide_eq_true_eq, Option.ite_none_left_eq_some,
    Option.some.injEq]
  generalize n * scale = size
  constructor
  · rintro ⟨hGood, rfl⟩
    exact ⟨fun hNone => hGood (.inl (.inl (.inl hNone))), by omega, ⟨by omega, by omega⟩, rfl⟩
  · rintro ⟨hSome, hNumber, hSize, rfl⟩
    refine ⟨?_, rfl⟩
    rintro (((hNone | hLarge) | hZero) | hLarge)
    · exact hSome hNone
    all_goals omega

/-- A text is read as a size just if it spells one, and as the number of bytes that it spells. A
number that 64 bits do not hold is no size. -/
theorem size?_eq_some_iff {s : String} {b : Nat} : size? s = some b ↔ SpellsSize s b := by
  constructor
  · intro h
    obtain ⟨scale, hUnit, hSome, hNumber, hSize, rfl⟩ :=
      (size?_eq_some_iff_of_spanDigits rfl).mp h
    have hSplit : (Text.trim s.toList).takeWhile Char.isDigit ++
        (Text.trim s.toList).dropWhile Char.isDigit = Text.trim s.toList :=
      List.takeWhile_append_dropWhile
    have hTrimmed := Text.trim_trim s.toList
    rw [← hSplit] at hTrimmed
    obtain ⟨blanks, hRest, hBlanks⟩ := Text.exists_eq_append_trim hTrimmed
    have hDigits := Number.IsNumeral.of_isDigit hSome fun c hMem => List.mem_takeWhile_imp hMem
    refine .mk ?_ hDigits hBlanks hUnit hNumber hSize
    rw [String.toList_ofList, List.append_assoc, ← hRest, hSplit]
  · intro h
    cases h with
    | @mk digits blanks unit n scale hText hDigits hBlanks hUnit hNumber hSize =>
      have hLetters : ∀ u ∈ sizeUnits,
          u.1.toList.all (fun c => !c.isDigit && !Text.isBlank c) = true := by decide
      have hPlain : ∀ c ∈ unit.toList, c.isDigit = false ∧ Text.isBlank c = false := by
        simpa using hLetters _ hUnit
      have hBehind : ∀ c ∈ blanks ++ unit.toList, c.isDigit = false := by
        intro c hMem
        rcases List.mem_append.mp hMem with hBlank | hLetter
        · refine Bool.eq_false_iff.mpr fun hDigit => ?_
          have hOther := Number.isBlank_of_digitValue? (Number.digitValue?_of_isDigit hDigit)
          rw [hBlanks c hBlank] at hOther
          cases hOther
        · exact (hPlain c hLetter).1
      rw [List.append_assoc] at hText
      have hSpan := Number.spanDigits_append hDigits.isDigit hBehind
      rw [← hText] at hSpan
      have hTrim : Text.trim (blanks ++ unit.toList) = unit.toList := by
        have hAround := Text.trim_append hBlanks (List.forall_mem_nil _) unit.toList
        rw [List.append_nil] at hAround
        rw [hAround, Text.trim_eq_self fun c hMem => (hPlain c hMem).2]
      refine (size?_eq_some_iff_of_spanDigits hSpan).mpr ⟨scale, ?_, hDigits.ne_nil, ?_⟩
      · rwa [hTrim, String.ofList_toList]
      · rw [hDigits.digitsValue_eq]
        exact ⟨hNumber, hSize, rfl⟩

/-- A content within the limit is read as a whole. It has a length of 64 bits, so the sum that is
asked for is beyond it even where it was cut to the greatest number of 64 bits. -/
theorem readUnder_of_le {limit : Nat} {content : Content} (h : content.bytes.length ≤ limit) :
    readUnder limit content = content.bytes := by
  have hLength := content.length_lt
  apply List.take_of_length_le
  rw [askedFor]
  omega

/-- A content that is too large shows it as far as it is read. So the rest of it never has to be
read. -/
theorem lt_length_readUnder_iff {limit : Nat} {content : Content} :
    limit < (readUnder limit content).length ↔ limit < content.bytes.length := by
  have hLength := content.length_lt
  rw [readUnder, List.length_take, askedFor]
  omega

/-- A file is passed on as a whole, or turned down. A part of it is never taken for all of it. -/
theorem readBounded_eq (path : String) (limit : Nat) (tooLarge : String → Program)
    (next : List UInt8 → Program) :
    readBounded path limit tooLarge next = .read path fun
      | .error e => .stop e.exitCode s!"{path}: {e.message}"
      | .ok content =>
        if limit < content.bytes.length then tooLarge s!"{path}: larger than {limit} bytes"
        else next content.bytes := by
  rw [readBounded]
  congr 1
  funext content
  cases content with
  | error e => rfl
  | ok content =>
    dsimp only
    by_cases hLarge : limit < content.bytes.length
    · rw [if_pos (lt_length_readUnder_iff.mpr hLarge), if_pos hLarge]
    · rw [readUnder_of_le (Nat.not_lt.mp hLarge)]

/-- A size is read just from the texts that spell it, and as it is. Under a limit of that many bytes
a file is passed on as a whole if it has no more of them, and else turned down. What is read of it
is one byte more than the limit at most, or as many as 64 bits can count, and the whole of it if it
is within the limit. -/
theorem size?_and_readBounded :
    (∀ s b, size? s = some b ↔ SpellsSize s b) ∧
    (∀ path limit tooLarge next files, (readBounded path limit tooLarge next).run files =
      match files path with
      | .error e => { exit := e.exitCode, error := some s!"{path}: {e.message}" }
      | .ok content =>
        if content.bytes.length ≤ limit then (next content.bytes).run files
        else (tooLarge s!"{path}: larger than {limit} bytes").run files) ∧
    ∀ limit (content : Content),
      readUnder limit content = content.bytes.take (min (limit + 1) (2 ^ 64 - 1)) ∧
        (content.bytes.length ≤ limit → readUnder limit content = content.bytes) := by
  refine ⟨fun s b => size?_eq_some_iff, fun path limit tooLarge next files => ?_,
    fun limit content => ⟨rfl, readUnder_of_le⟩⟩
  rw [readBounded_eq, Program.run]
  cases files path with
  | error e => rfl
  | ok content =>
    dsimp only
    by_cases hFits : content.bytes.length ≤ limit
    · rw [if_neg (Nat.not_lt.mpr hFits), if_pos hFits]
    · rw [if_pos (Nat.lt_of_not_le hFits), if_neg hFits]

end MarkupRules.Cli
