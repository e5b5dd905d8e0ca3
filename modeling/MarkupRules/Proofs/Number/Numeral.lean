import MarkupRules.Number.Literal
import MarkupRules.Proofs.Number.Rounding
import MarkupRules.Proofs.Text.Blank
import Mathlib.Data.Nat.Digits.Defs

/-!
Literals of whole numbers.

A whole number is written in decimal with an optional sign, or without one behind the mark of a
radix. A decimal literal is read as its number, rounded once.
-/
namespace MarkupRules.Number

/-- `digits` write `n` in base `radix`; zeros may stand in front. -/
inductive IsNumeral (radix : Nat) : List Char → Nat → Prop where
  | digit {c : Char} {d : Nat} (h : digitValue? radix c = some d) : IsNumeral radix [c] d
  | snoc {digits : List Char} {n : Nat} {c : Char} {d : Nat} (front : IsNumeral radix digits n)
      (h : digitValue? radix c = some d) : IsNumeral radix (digits ++ [c]) (n * radix + d)

variable {radix n d : Nat} {c : Char} {digits : List Char}

/-- The value of a digit is below the radix, so digits behind one another write numbers without
gaps. -/
theorem digitValue?_lt (h : digitValue? radix c = some d) : d < radix := by
  simpa using (Option.filter_eq_some_iff.mp h).2

/-- No digit of any radix is a blank. A numeral with blanks around it is therefore found again by
trimming. -/
theorem isBlank_of_digitValue? (h : digitValue? radix c = some d) : Text.isBlank c = false := by
  have hValue := (Option.filter_eq_some_iff.mp h).1
  simp only [Text.isBlank, Bool.or_eq_false_iff, Bool.and_eq_false_iff, decide_eq_false_iff_not,
    beq_eq_false_iff_ne]
  split at hValue
  · next hDigit =>
    simp only [Bool.and_eq_true, decide_eq_true_eq, Char.le_def, UInt32.le_iff_toNat_le] at hDigit
    change 48 ≤ c.toNat ∧ c.toNat ≤ 57 at hDigit
    omega
  · split at hValue
    · next hLower =>
      simp only [Bool.and_eq_true, decide_eq_true_eq, Char.le_def, UInt32.le_iff_toNat_le] at hLower
      change 97 ≤ c.toNat ∧ c.toNat ≤ 102 at hLower
      omega
    · split at hValue
      · next hUpper =>
        simp only [Bool.and_eq_true, decide_eq_true_eq, Char.le_def,
          UInt32.le_iff_toNat_le] at hUpper
        change 65 ≤ c.toNat ∧ c.toNat ≤ 70 at hUpper
        omega
      · cases hValue

/-- In base ten the digits are the decimal ones. -/
theorem isDigit_of_digitValue? (h : digitValue? 10 c = some d) :
    c.isDigit = true ∧ c.toNat - '0'.toNat = d := by
  obtain ⟨hValue, hLess⟩ := Option.filter_eq_some_iff.mp h
  rw [decide_eq_true_eq] at hLess
  split at hValue
  · next hDigit => exact ⟨hDigit, Option.some.inj hValue⟩
  · split at hValue
    · have hLarge := Option.some.inj hValue
      omega
    · split at hValue
      · have hLarge := Option.some.inj hValue
        omega
      · cases hValue

theorem digitValue?_of_isDigit (h : c.isDigit = true) :
    digitValue? 10 c = some (c.toNat - '0'.toNat) := by
  have hRange : 48 ≤ c.toNat ∧ c.toNat ≤ 57 := by
    simpa [Char.isDigit, UInt32.le_iff_toNat_le] using h
  have hDigit : ('0' ≤ c && c ≤ '9') = true := by
    simp only [Bool.and_eq_true, decide_eq_true_eq, Char.le_def, UInt32.le_iff_toNat_le]
    exact hRange
  have hZero : '0'.toNat = 48 := rfl
  rw [digitValue?, if_pos hDigit]
  exact if_pos (decide_eq_true (by omega))

namespace IsNumeral

theorem ne_nil (h : IsNumeral radix digits n) : digits ≠ [] := by
  cases h <;> simp

theorem exists_of_mem (h : IsNumeral radix digits n) (hMem : c ∈ digits) :
    ∃ d, digitValue? radix c = some d := by
  induction h with
  | digit hLast => exact ⟨_, List.mem_singleton.mp hMem ▸ hLast⟩
  | snoc _ hLast ih =>
    rcases List.mem_append.mp hMem with hFront | hEnd
    · exact ih hFront
    · exact ⟨_, List.mem_singleton.mp hEnd ▸ hLast⟩

/-- The digits of a decimal numeral are decimal digits, and no letters as there may be in other
radices. -/
theorem isDigit (h : IsNumeral 10 digits n) : ∀ c ∈ digits, c.isDigit = true := by
  intro c hMem
  obtain ⟨d, hValue⟩ := h.exists_of_mem hMem
  exact (isDigit_of_digitValue? hValue).1

/-- The number that a decimal numeral writes is the one that its digits are computed to. -/
theorem digitsValue_eq (h : IsNumeral 10 digits n) : digitsValue digits = n := by
  induction h with
  | digit hLast =>
    rw [← (isDigit_of_digitValue? hLast).2]
    exact Nat.zero_add _
  | snoc _ hLast ih =>
    rw [← ih, ← (isDigit_of_digitValue? hLast).2]
    exact List.foldl_append

/-- Decimal digits are a numeral if there is one at all, whether or not zeros stand in front. -/
theorem of_isDigit (hSome : digits ≠ []) (h : ∀ c ∈ digits, c.isDigit = true) :
    IsNumeral 10 digits (digitsValue digits) := by
  induction digits using List.reverseRecOn with
  | nil => exact absurd rfl hSome
  | append_singleton front c ih =>
    obtain ⟨hFront, hLast⟩ := List.forall_mem_append.mp h
    have hDigit := digitValue?_of_isDigit (hLast c (.head _))
    by_cases hNil : front = []
    · subst hNil
      have hValue : digitsValue [c] = c.toNat - '0'.toNat := Nat.zero_add _
      rw [List.nil_append, hValue]
      exact .digit hDigit
    · have hValue : digitsValue (front ++ [c]) =
          digitsValue front * 10 + (c.toNat - '0'.toNat) := List.foldl_concat ..
      rw [hValue]
      exact .snoc (ih hNil hFront) hDigit

/-- A numeral writes the number that a fold over its digits computes. That makes it decidable
whether a given text is one. -/
theorem iff_foldlM : IsNumeral radix digits n ↔ digits ≠ [] ∧
    digits.foldlM (fun n c => (digitValue? radix c).map (n * radix + ·)) 0 = some n := by
  constructor
  · intro h
    refine ⟨h.ne_nil, ?_⟩
    induction h with
    | digit hLast => simp [hLast]
    | snoc _ hLast ih => simp [List.foldlM_append, ih, hLast]
  · rintro ⟨hSome, hFold⟩
    induction digits using List.reverseRecOn generalizing n with
    | nil => exact absurd rfl hSome
    | append_singleton front c ih =>
      rw [List.foldlM_append] at hFold
      obtain ⟨m, hFront, hLast⟩ := Option.bind_eq_some_iff.mp hFold
      obtain ⟨d, hValue, rfl⟩ : ∃ d, digitValue? radix c = some d ∧ m * radix + d = n := by
        simpa using hLast
      by_cases hNil : front = []
      · subst hNil
        obtain rfl : 0 = m := Option.some.inj hFront
        rw [Nat.zero_mul, Nat.zero_add]
        exact .digit hValue
      · exact .snoc (ih hNil hFront) hValue

instance (radix : Nat) (digits : List Char) (n : Nat) : Decidable (IsNumeral radix digits n) :=
  decidable_of_iff _ iff_foldlM.symm

end IsNumeral

/-- A number of more than 400 digits is beyond the range of the doubles, so it can be turned down by
the count of its digits alone. -/
theorem reach_le_ten_pow : reach ≤ 10 ^ 400 := by
  unfold reach
  decide +kernel

/-- Without an exponent of ten a number is rounded once, from all of its digits. -/
theorem ofScientific?_zero (negative : Bool) (n : Nat) :
    ofScientific? negative n 0 = doubleOf? negative (rounded n) := by
  by_cases hZero : n = 0
  · rw [hZero, rounded_of_lt (by decide), doubleOf?_of_lt negative (by decide), Nat.zero_mul]
    rfl
  · unfold ofScientific?
    dsimp only
    rw [Int.add_zero, if_neg (by simp only [Bool.or_eq_true, decide_eq_true_eq]; omega)]
    split
    · next hLong =>
      have hLarge : 10 ^ 400 ≤ n := by
        by_contra hSmall
        have hLength := Nat.toDigits_length 10 n 400 (by decide) (Nat.not_le.mp hSmall)
        omega
      have hBeyond : ¬ rounded n < reach := by
        rw [rounded_lt_reach_iff, Nat.not_lt]
        exact overflowThreshold_le_reach.trans (reach_le_ten_pow.trans hLarge)
      exact (if_neg hBeyond).symm
    · have hOne := ofRatio?_mul negative n Nat.one_pos
      rw [Nat.mul_one] at hOne
      simpa using hOne

/-- Digits are taken up to the first character that is none, if all that follows has none. -/
theorem spanDigits_append {behind : List Char} (hDigits : ∀ c ∈ digits, c.isDigit = true)
    (hBehind : ∀ c ∈ behind, c.isDigit = false) :
    spanDigits (digits ++ behind) = (digits, behind) := by
  have hTake : behind.takeWhile Char.isDigit = [] := by
    cases behind with
    | nil => rfl
    | cons c rest => exact List.takeWhile_cons_of_neg (by simp [hBehind c (.head _)])
  have hSplit := List.takeWhile_append_dropWhile (p := Char.isDigit) (l := behind)
  rw [hTake, List.nil_append] at hSplit
  rw [spanDigits, List.takeWhile_append_of_pos hDigits, List.dropWhile_append_of_pos hDigits,
    hTake, hSplit, List.append_nil]

/-- A decimal literal without point and exponent is read as its number with the sign, rounded once.
It does not matter how many digits it has. -/
theorem decimal?_of_takeSign {cs : List Char} {negative : Bool}
    (hSign : takeSign cs = (negative, digits)) (h : IsNumeral 10 digits n) :
    decimal? cs = doubleOf? negative (rounded n) := by
  have hSpan := spanDigits_append h.isDigit (List.forall_mem_nil _)
  rw [List.append_nil] at hSpan
  have hSome : digits.isEmpty = false := List.isEmpty_eq_false_iff.mpr h.ne_nil
  unfold decimal?
  rw [hSign]
  dsimp only
  rw [hSpan]
  simp [hSome, exponent?, h.digitsValue_eq, ofScientific?_zero]

/-- The letters that announce a radix behind a zero. -/
def radixMarks : List (Char × Nat) :=
  [('x', 16), ('X', 16), ('o', 8), ('O', 8), ('b', 2), ('B', 2)]

/-- Behind a zero and the mark of a radix stand the digits, in small letters or in capitals. -/
theorem radixDigits?_mark {mark : Char} (hMark : (mark, radix) ∈ radixMarks)
    (digits : List Char) : radixDigits? ('0' :: mark :: digits) = some (radix, digits) := by
  simp only [radixMarks, List.mem_cons, Prod.mk.injEq, List.not_mem_nil, or_false] at hMark
  rcases hMark with ⟨rfl, rfl⟩ | ⟨rfl, rfl⟩ | ⟨rfl, rfl⟩ | ⟨rfl, rfl⟩ | ⟨rfl, rfl⟩ | ⟨rfl, rfl⟩ <;>
    rfl

/-- A decimal numeral has no mark of a radix, since its second character is a digit as well. So the
two readings do not meet. -/
theorem radixDigits?_of_takeSign {cs : List Char} {negative : Bool}
    (hSign : takeSign cs = (negative, digits)) (h : IsNumeral 10 digits n) :
    radixDigits? cs = none := by
  unfold radixDigits?
  split
  · next c behind =>
    have hDigits : '0' :: c :: behind = digits := (Prod.mk.inj hSign).2
    have hDigit : c.isDigit = true := h.isDigit c (by simp [← hDigits])
    have hOther (mark : Char) (hMark : mark.isDigit = false) : (c == mark) = false := by
      rw [beq_eq_false_iff_ne]
      rintro rfl
      rw [hMark] at hDigit
      cases hDigit
    simp [hOther 'x', hOther 'X', hOther 'o', hOther 'O', hOther 'b', hOther 'B']
  · rfl

/-- A text that is `literal` with blanks around it. -/
def Encloses (literal : List Char) (s : String) : Prop :=
  ∃ lead trail, s.toList = lead ++ literal ++ trail ∧ (∀ c ∈ lead, Text.isBlank c = true) ∧
    ∀ c ∈ trail, Text.isBlank c = true

theorem Encloses.trim_eq {literal : List Char} {s : String} (h : Encloses literal s)
    (hPlain : ∀ c ∈ literal, Text.isBlank c = false) : Text.trim s.toList = literal := by
  obtain ⟨lead, trail, hText, hLead, hTrail⟩ := h
  rw [hText, Text.trim_append hLead hTrail, Text.trim_eq_self hPlain]

theorem IsNumeral.not_isBlank (h : IsNumeral radix digits n) :
    ∀ c ∈ digits, Text.isBlank c = false := by
  intro c hMem
  obtain ⟨d, hValue⟩ := h.exists_of_mem hMem
  exact isBlank_of_digitValue? hValue

variable {s : String}

/-- A decimal literal, with blanks around it or without, is read as its number with its sign,
rounded once. -/
theorem read?_of_takeSign {cs : List Char} {negative : Bool} (hText : Encloses cs s)
    (hPlain : ∀ c ∈ cs, Text.isBlank c = false) (hSign : takeSign cs = (negative, digits))
    (h : IsNumeral 10 digits n) : read? s = doubleOf? negative (rounded n) := by
  rw [read?, hText.trim_eq hPlain, radixDigits?_of_takeSign hSign h]
  exact decimal?_of_takeSign hSign h

theorem takeSign_of_isNumeral (h : IsNumeral 10 digits n) : takeSign digits = (false, digits) := by
  unfold takeSign
  split
  · exact absurd (h.isDigit '-' (.head _)) (by decide)
  · exact absurd (h.isDigit '+' (.head _)) (by decide)
  · rfl

/-- A decimal numeral without a sign is read as its number, rounded once and not digit by digit. -/
theorem read?_decimal (hText : Encloses digits s) (h : IsNumeral 10 digits n) :
    read? s = doubleOf? false (rounded n) :=
  read?_of_takeSign hText h.not_isBlank (takeSign_of_isNumeral h) h

/-- A numeral behind the mark of a radix is read digit by digit, each step rounded on its own. -/
theorem read?_radix {mark : Char} (hText : Encloses ('0' :: mark :: digits) s)
    (hMark : (mark, radix) ∈ radixMarks) (h : IsNumeral radix digits n) :
    read? s = inRadix? radix digits := by
  have hPlain : ∀ c ∈ '0' :: mark :: digits, Text.isBlank c = false := by
    have hMarks : ∀ m ∈ radixMarks, Text.isBlank m.1 = false := by decide
    have hPlainMark := hMarks _ hMark
    intro c hMem
    rcases List.mem_cons.mp hMem with rfl | hBehind
    · decide
    · rcases List.mem_cons.mp hBehind with rfl | hDigits
      · exact hPlainMark
      · exact h.not_isBlank c hDigits
  rw [read?, hText.trim_eq hPlain, radixDigits?_mark hMark]

end MarkupRules.Number
