import MarkupRules.Proofs.Number.Numeral
import Mathlib.Algebra.Order.Ring.Nat

/-!
Numerals behind the mark of a radix.

They are read digit by digit with a rounding after each. The digits up to the first that takes the
number to 2^53 are rounded once; those behind it are below half the distance to the next double and
are lost, whatever they are. That is the nearest double unless the first digits stand halfway
between two doubles: then the even one is taken, also where the digits behind lead above the half.
-/
namespace MarkupRules.Number

variable {radix n d : Nat} {digits : List Char}

/-- What is added is lost in the rounding if it is less than half the distance to the next double.
-/
theorem rounded_add {q k : Nat} (hLow : 2 ^ 52 ≤ q) (hHigh : q ≤ 2 ^ 53) (h : 2 * d < 2 ^ k) :
    rounded (q * 2 ^ k + d) = q * 2 ^ k := by
  have hFits {q k : Nat} (hLow : 2 ^ 52 ≤ q) (hBits : q < 2 ^ 53) (h : 2 * d < 2 ^ k) :
      rounded (q * 2 ^ k + d) = q * 2 ^ k := by
    have hLeast : 2 ^ 52 * 2 ^ k ≤ q * 2 ^ k := Nat.mul_le_mul_right _ hLow
    have hMost : (q + 1) * 2 ^ k ≤ 2 ^ 53 * 2 ^ k := Nat.mul_le_mul_right _ hBits
    rw [Nat.succ_mul] at hMost
    exact rounded_eq ⟨by omega, by omega⟩ ⟨by omega, by omega, by omega⟩
  rcases Nat.lt_or_eq_of_le hHigh with hBits | rfl
  · exact hFits hLow hBits h
  · have hCarry : 2 ^ 53 * 2 ^ k = 2 ^ 52 * 2 ^ (k + 1) := by ring
    have hNext : 2 * d < 2 ^ (k + 1) := by
      rw [Nat.pow_succ]
      omega
    rw [hCarry]
    exact hFits (Nat.le_refl _) (by decide) hNext

/-- What is left of a number that is read digit by digit. -/
inductive Kept (radix : Nat) : Nat → Nat → Prop where
  | short {n : Nat} (h : n < 2 ^ 53) : Kept radix n n
  | long {first places rest : Nat} (hFirst : 2 ^ 53 ≤ first ∧ first < 2 ^ 53 * radix)
      (hRest : rest < radix ^ places) :
      Kept radix (first * radix ^ places + rest) (rounded first * radix ^ places)

namespace Kept

/-- One more digit behind a number that was read so far leaves what the rounding leaves of both. -/
theorem push {bits w : Nat} (h : Kept (2 ^ bits) n w) (hDigit : d < 2 ^ bits) :
    Kept (2 ^ bits) (n * 2 ^ bits + d) (rounded (w * 2 ^ bits + d)) := by
  cases h with
  | short hShort =>
    by_cases hStill : n * 2 ^ bits + d < 2 ^ 53
    · rw [rounded_of_lt hStill]
      exact .short hStill
    · have hMost : (n + 1) * 2 ^ bits ≤ 2 ^ 53 * 2 ^ bits := Nat.mul_le_mul_right _ hShort
      rw [Nat.succ_mul] at hMost
      have hLong : Kept (2 ^ bits) ((n * 2 ^ bits + d) * (2 ^ bits) ^ 0 + 0) _ :=
        .long ⟨Nat.not_lt.mp hStill, by omega⟩ Nat.one_pos
      simpa using hLong
  | @long first places rest hFirst hRest =>
    have hSame : (first * (2 ^ bits) ^ places + rest) * 2 ^ bits + d =
        first * (2 ^ bits) ^ (places + 1) + (rest * 2 ^ bits + d) := by ring
    have hBehind : rest * 2 ^ bits + d < (2 ^ bits) ^ (places + 1) := by
      have hMost : (rest + 1) * 2 ^ bits ≤ (2 ^ bits) ^ places * 2 ^ bits :=
        Nat.mul_le_mul_right _ hRest
      rw [Nat.succ_mul] at hMost
      rw [Nat.pow_succ]
      omega
    have hLost : rounded (rounded first * (2 ^ bits) ^ places * 2 ^ bits + d) =
        rounded first * (2 ^ bits) ^ (places + 1) := by
      obtain ⟨q, k, hRounded, -, ⟨-, hFits⟩, hLow, hHigh⟩ :=
        exists_rounded_eq (n := first) (by omega)
      have hUnit : 0 < k := by
        by_contra hZero
        obtain rfl : k = 0 := by omega
        omega
      have hShift : rounded first * (2 ^ bits) ^ places * 2 ^ bits =
          q * 2 ^ (k + bits * (places + 1)) := by
        rw [hRounded, Nat.pow_add, Nat.pow_mul]
        ring
      rw [hShift, rounded_add hLow hHigh, ← hShift]
      · ring
      · have hPower : 2 ^ (bits + 1) ≤ 2 ^ (k + bits * (places + 1)) := by
          have hPlaces : bits ≤ bits * (places + 1) := Nat.le_mul_of_pos_right bits (by omega)
          exact Nat.pow_le_pow_right (by decide) (by omega)
        rw [Nat.pow_succ] at hPower
        omega
    rw [hSame, hLost]
    exact .long hFirst hBehind

end Kept

/-- One more digit makes the double of the old number times the radix plus the digit, if that is in
range. -/
theorem pushDigit?_whole (negative : Bool) (w : Nat) :
    (Double.mk negative (w * stepsInOne)).pushDigit? radix d =
      doubleOf? false (rounded (w * radix + d)) := by
  have hSum : w * stepsInOne * radix + d * stepsInOne = (w * radix + d) * stepsInOne := by ring
  rw [Double.pushDigit?]
  dsimp only
  rw [hSum, ofRatio?_mul false _ stepsInOne_pos]

/-- A number beyond the range of the doubles stays beyond it, whatever digits follow. -/
theorem doubleOf?_bind_pushDigit? (hRadix : 0 < radix) (w d : Nat) :
    ((doubleOf? false w).bind fun x => x.pushDigit? radix d) =
      doubleOf? false (rounded (w * radix + d)) := by
  by_cases hRange : w < reach
  · rw [doubleOf?, if_pos hRange, Option.bind_some, pushDigit?_whole]
  · have hBeyond : ¬ rounded (w * radix + d) < reach := by
      obtain ⟨k, hReach, -⟩ := exists_reach_eq
      have hMore : w ≤ w * radix := Nat.le_mul_of_pos_right w hRadix
      rw [hReach, ← Nat.pow_add] at hRange ⊢
      exact Nat.not_lt.mpr (two_pow_le_rounded (by omega))
    rw [doubleOf?, if_neg hRange, doubleOf?, if_neg hBeyond, Option.bind_none]

theorem doubleOf?_zero : doubleOf? false 0 = some (.zero false) := by
  rw [doubleOf?_of_lt false (by decide), Nat.zero_mul, Double.zero]

/-- What one more digit makes of the double that was read so far, in terms of the whole numbers. -/
theorem bind_digitValue? {bits w : Nat} {c : Char} {x? : Option Double}
    (hRead : x? = doubleOf? false w) (hDigit : digitValue? (2 ^ bits) c = some d) :
    (x?.bind fun x => (digitValue? (2 ^ bits) c).bind (x.pushDigit? (2 ^ bits))) =
      doubleOf? false (rounded (w * 2 ^ bits + d)) := by
  rw [← doubleOf?_bind_pushDigit? (Nat.two_pow_pos bits), hRead]
  refine Option.bind_congr fun x _ => ?_
  rw [hDigit, Option.bind_some]

/-- A numeral of a radix that is a power of two is read as the double of what is left of its number.
-/
theorem exists_inRadix?_eq {bits : Nat} (h : IsNumeral (2 ^ bits) digits n) :
    ∃ w, Kept (2 ^ bits) n w ∧ inRadix? (2 ^ bits) digits = doubleOf? false w := by
  have hSome : digits.isEmpty = false := List.isEmpty_eq_false_iff.mpr h.ne_nil
  rw [inRadix?, hSome, if_neg Bool.false_ne_true]
  clear hSome
  induction h with
  | @digit c d hLast =>
    have hKept : Kept (2 ^ bits) (0 * 2 ^ bits + d) _ :=
      .push (.short (by decide)) (digitValue?_lt hLast)
    have hRead := bind_digitValue? doubleOf?_zero.symm hLast
    rw [Option.bind_some] at hRead
    rw [Nat.zero_mul, Nat.zero_add] at hKept hRead
    refine ⟨_, hKept, ?_⟩
    rw [List.foldlM_cons, hRead]
    exact bind_pure _
  | @snoc front m c d _ hLast ih =>
    obtain ⟨w, hKept, hRead⟩ := ih
    refine ⟨_, hKept.push (digitValue?_lt hLast), ?_⟩
    rw [List.foldlM_append, ← bind_digitValue? hRead hLast]
    refine Option.bind_congr fun x _ => ?_
    rw [List.foldlM_cons]
    exact bind_pure _

/-- The digits of `n` up to the first that takes it to 2^53 stand halfway between two doubles, the
lower of which is even, and of the digits behind not all are zero. `w` is the lower double. -/
inductive LosesTie (radix : Nat) : Nat → Nat → Prop where
  | mk {q i places rest : Nat} (hBits : 2 ^ 52 ≤ q ∧ q < 2 ^ 53) (hEven : q % 2 = 0)
      (hFirst : 2 ^ (i + 1) ≤ radix) (hRest : 0 < rest ∧ rest < radix ^ places) :
      LosesTie radix ((q * 2 ^ (i + 1) + 2 ^ i) * radix ^ places + rest)
        (q * 2 ^ (i + 1) * radix ^ places)

section Append

variable {first rest places q i : Nat}

/-- Digits behind a number that has a bit too many change nothing, but at a tie. -/
theorem IsNearestQuotient.append (h : IsNearestQuotient first (2 ^ (i + 1)) q)
    (hRest : rest < 2 ^ places) (hTie : first = q * 2 ^ (i + 1) + 2 ^ i → rest = 0) :
    IsNearestQuotient (first * 2 ^ places + rest) (2 ^ (i + 1 + places)) q := by
  obtain ⟨hAbove, hBelow, hEven⟩ := h
  have hUnit : 2 ^ (i + 1) = 2 * 2 ^ i := by rw [Nat.pow_succ, Nat.mul_comm]
  have hShift : 2 ^ (i + 1 + places) = 2 * (2 ^ i * 2 ^ places) := by
    rw [Nat.pow_add, hUnit, Nat.mul_assoc]
  have hProduct : q * 2 ^ (i + 1 + places) = q * 2 ^ (i + 1) * 2 ^ places := by
    rw [Nat.pow_add, Nat.mul_assoc]
  rw [hUnit] at hAbove hBelow hEven hTie hProduct
  generalize q * (2 * 2 ^ i) = whole at *
  have hLow : whole * 2 ^ places ≤ (first + 2 ^ i) * 2 ^ places :=
    Nat.mul_le_mul_right _ (by omega)
  rw [Nat.add_mul] at hLow
  by_cases hHalf : first = whole + 2 ^ i
  · obtain rfl := hTie hHalf
    have hShifted : first * 2 ^ places = whole * 2 ^ places + 2 ^ i * 2 ^ places := by
      rw [hHalf, Nat.add_mul]
    exact ⟨by omega, by omega, fun _ => hEven (by omega)⟩
  · have hMost : (first + 1) * 2 ^ places ≤ (whole + 2 ^ i) * 2 ^ places :=
      Nat.mul_le_mul_right _ (by omega)
    rw [Nat.succ_mul, Nat.add_mul] at hMost
    refine ⟨by omega, by omega, fun hOther => hEven (.inr ?_)⟩
    have hSame : whole * 2 ^ places = (first + 2 ^ i) * 2 ^ places := by
      rw [Nat.add_mul]
      omega
    have hWhole := Nat.eq_of_mul_eq_mul_right (Nat.two_pow_pos places) hSame
    omega

/-- Digits behind a number move the range it lies in by their own bits and nothing else. -/
theorem append_range {k : Nat} (hRange : 2 ^ 52 * 2 ^ k ≤ first ∧ first < 2 ^ 53 * 2 ^ k)
    (hRest : rest < 2 ^ places) : 2 ^ 52 * 2 ^ (k + places) ≤ first * 2 ^ places + rest ∧
      first * 2 ^ places + rest < 2 ^ 53 * 2 ^ (k + places) := by
  have hLeast : 2 ^ 52 * 2 ^ k * 2 ^ places ≤ first * 2 ^ places :=
    Nat.mul_le_mul_right _ hRange.1
  have hMost : (first + 1) * 2 ^ places ≤ 2 ^ 53 * 2 ^ k * 2 ^ places :=
    Nat.mul_le_mul_right _ hRange.2
  rw [Nat.mul_assoc, ← Nat.pow_add] at hLeast hMost
  rw [Nat.succ_mul] at hMost
  exact ⟨by omega, by omega⟩

/-- Halfway between two neighbours of 53 bits there are 54 bits. -/
theorem tie_range (hBits : 2 ^ 52 ≤ q ∧ q < 2 ^ 53) :
    2 ^ 52 * 2 ^ (i + 1) ≤ q * 2 ^ (i + 1) + 2 ^ i ∧
      q * 2 ^ (i + 1) + 2 ^ i < 2 ^ 53 * 2 ^ (i + 1) := by
  have hUnit : 2 ^ (i + 1) = 2 * 2 ^ i := by rw [Nat.pow_succ, Nat.mul_comm]
  have hLow : 2 ^ 52 * 2 ^ (i + 1) ≤ q * 2 ^ (i + 1) := Nat.mul_le_mul_right _ hBits.1
  have hHigh : (q + 1) * 2 ^ (i + 1) ≤ 2 ^ 53 * 2 ^ (i + 1) := Nat.mul_le_mul_right _ hBits.2
  have hPos := Nat.two_pow_pos i
  rw [Nat.succ_mul] at hHigh
  exact ⟨by omega, by omega⟩

end Append

namespace Kept

variable {w w' : Nat}

/-- The shorter of two beginnings of the same digits has no fewer places behind it. That is what
makes the split at 2^53 the only one. -/
theorem places_le {first places rest first' places' rest' : Nat}
    (hFirst : first < 2 ^ 53 * radix) (hRest : rest < radix ^ places) (hFirst' : 2 ^ 53 ≤ first')
    (h : first * radix ^ places + rest = first' * radix ^ places' + rest') : places' ≤ places := by
  by_contra hLess
  have hRadix : 0 < radix := Nat.pos_of_ne_zero (by rintro rfl; omega)
  have hMost : (first + 1) * radix ^ places ≤ 2 ^ 53 * radix * radix ^ places :=
    Nat.mul_le_mul_right _ hFirst
  have hPower : radix * radix ^ places ≤ radix ^ places' := by
    rw [Nat.mul_comm, ← Nat.pow_succ]
    exact Nat.pow_le_pow_right hRadix (by omega)
  have hLeast : 2 ^ 53 * radix ^ places' ≤ first' * radix ^ places' :=
    Nat.mul_le_mul_right _ hFirst'
  rw [Nat.succ_mul, Nat.mul_assoc] at hMost
  omega

/-- A number that has reached 2^53 at some digit is not below it with the other digits. -/
theorem long_le {first places rest : Nat} (hFirst : 2 ^ 53 ≤ first)
    (hRest : rest < radix ^ places) : 2 ^ 53 ≤ first * radix ^ places + rest := by
  have hFirstLe : first ≤ first * radix ^ places := Nat.le_mul_of_pos_right _ (by omega)
  omega

/-- The digits tell what is left of a number. -/
theorem unique (h : Kept radix n w) (h' : Kept radix n w') : w = w' := by
  cases h with
  | short hShort =>
    generalize hNumber : n = n' at h'
    cases h' with
    | short => rfl
    | @long first places rest hFirst hRest =>
      have hLong := long_le hFirst.1 hRest
      omega
  | @long first places rest hFirst hRest =>
    generalize hNumber : first * radix ^ places + rest = n' at h'
    cases h' with
    | short hShort =>
      have hLong := long_le hFirst.1 hRest
      omega
    | @long first' places' rest' hFirst' hRest' =>
      obtain rfl : places = places' := Nat.le_antisymm
        (places_le hFirst'.2 hRest' hFirst.1 hNumber.symm)
        (places_le hFirst.2 hRest hFirst'.1 hNumber)
      have hDiv {a b : Nat} (hb : b < radix ^ places) :
          (a * radix ^ places + b) / radix ^ places = a := by
        rw [Nat.mul_comm, Nat.mul_add_div (by omega), Nat.div_eq_of_lt hb, Nat.add_zero]
      have hSame := congrArg (· / radix ^ places) hNumber
      rw [hDiv hRest, hDiv hRest'] at hSame
      rw [hSame]

/-- What is left is the nearest number of 53 bits, or a tie was lost. -/
theorem rounded_or_losesTie {bits : Nat} (h : Kept (2 ^ bits) n w) :
    w = rounded n ∨ LosesTie (2 ^ bits) n w := by
  cases h with
  | short hShort => exact .inl (rounded_of_lt hShort).symm
  | @long first places rest hFirst hRest =>
    obtain ⟨q, k, hRounded, hNearest, hRange, hLow, hHigh⟩ :=
      exists_rounded_eq (n := first) (by omega)
    obtain ⟨i, rfl⟩ : ∃ i, k = i + 1 := by
      rcases k with _ | i
      · omega
      · exact ⟨i, rfl⟩
    rw [hRounded]
    by_cases hTie : first = q * 2 ^ (i + 1) + 2 ^ i → rest = 0
    · left
      rw [← Nat.pow_mul] at hRest ⊢
      rw [rounded_eq (append_range hRange hRest) (hNearest.append hRest hTie), Nat.mul_assoc,
        ← Nat.pow_add]
    · right
      obtain ⟨rfl, hSome⟩ := Classical.not_imp.mp hTie
      have hPos := Nat.two_pow_pos i
      have hBits : q < 2 ^ 53 := Nat.lt_of_mul_lt_mul_right (by omega : q * 2 ^ (i + 1) < _)
      have hEven : q % 2 = 0 := by
        refine hNearest.even (.inl ?_)
        rw [Nat.pow_succ]
        omega
      have hRadix : 2 ^ (i + 1) < 2 ^ (bits + 1) := by
        rw [Nat.pow_succ 2 bits]
        omega
      have hFits : i + 1 < bits + 1 := (Nat.pow_lt_pow_iff_right (by decide)).mp hRadix
      exact .mk ⟨hLow, hBits⟩ hEven (Nat.pow_le_pow_right (by decide) (by omega)) ⟨by omega, hRest⟩

end Kept

namespace LosesTie

variable {w : Nat}

/-- A number that loses a tie is read as the lower of the two doubles, which is what is left of its
digits. -/
theorem kept (h : LosesTie radix n w) : Kept radix n w := by
  cases h with
  | @mk q i places rest hBits hEven hFirst hRest =>
    have hRange := tie_range (i := i) hBits
    have hUnit : 2 ^ (i + 1) = 2 * 2 ^ i := by rw [Nat.pow_succ, Nat.mul_comm]
    have hPos := Nat.two_pow_pos i
    have hRounded : rounded (q * 2 ^ (i + 1) + 2 ^ i) = q * 2 ^ (i + 1) :=
      rounded_eq hRange ⟨by omega, by omega, fun _ => hEven⟩
    have hLong : Kept radix ((q * 2 ^ (i + 1) + 2 ^ i) * radix ^ places + rest) _ :=
      .long ⟨by omega, by omega⟩ hRest.2
    rwa [hRounded] at hLong

/-- No tie is lost below 2^53. -/
theorem two_pow_le (h : LosesTie radix n w) : 2 ^ 53 ≤ n := by
  cases h with
  | @mk q i places rest hBits hEven hFirst hRest =>
    have hRange := tie_range (i := i) hBits
    have hPos := Nat.two_pow_pos i
    rw [Nat.pow_succ] at hRange ⊢
    exact Kept.long_le (by omega) hRest.2

/-- The nearest number of 53 bits is the one above, whose significand is odd. -/
theorem exists_rounded_eq {bits : Nat} (h : LosesTie (2 ^ bits) n w) :
    ∃ q k, rounded n = (q + 1) * 2 ^ k ∧ w = q * 2 ^ k ∧ q % 2 = 0 ∧ 0 < q := by
  cases h with
  | @mk q i places rest hBits hEven hFirst hRest =>
    obtain ⟨hSome, hRest⟩ := hRest
    rw [← Nat.pow_mul] at hRest ⊢
    refine ⟨q, i + 1 + bits * places, ?_, by rw [Nat.mul_assoc, ← Nat.pow_add], hEven, by omega⟩
    refine rounded_eq (append_range (tie_range hBits) hRest) ?_
    have hUnit : 2 ^ (i + 1) = 2 * 2 ^ i := by rw [Nat.pow_succ, Nat.mul_comm]
    have hHalf : 2 ^ (i + 1 + bits * places) = 2 * (2 ^ i * 2 ^ (bits * places)) := by
      rw [Nat.pow_add, hUnit, Nat.mul_assoc]
    have hBehind : 1 * 2 ^ (bits * places) ≤ 2 ^ i * 2 ^ (bits * places) :=
      Nat.mul_le_mul_right _ (Nat.two_pow_pos i)
    have hWhole : (q * 2 ^ (i + 1) + 2 ^ i) * 2 ^ (bits * places) =
        q * (2 * (2 ^ i * 2 ^ (bits * places))) + 2 ^ i * 2 ^ (bits * places) := by
      rw [hUnit]
      ring
    have hAbove : (q + 1) * (2 * (2 ^ i * 2 ^ (bits * places))) =
        q * (2 * (2 ^ i * 2 ^ (bits * places))) + 2 * (2 ^ i * 2 ^ (bits * places)) :=
      Nat.succ_mul _ _
    rw [hWhole, hHalf]
    exact ⟨by omega, by omega, by omega⟩

/-- Where a tie is lost the number that is read is really below the nearest one. -/
theorem lt_rounded {bits : Nat} (h : LosesTie (2 ^ bits) n w) : w < rounded n := by
  obtain ⟨q, k, hRounded, rfl, -, -⟩ := h.exists_rounded_eq
  rw [hRounded]
  exact Nat.mul_lt_mul_of_pos_right (Nat.lt_succ_self q) (Nat.two_pow_pos k)

/-- The doubles do not end between the two, since their end is even in units of the lower. -/
theorem rounded_lt_reach {bits : Nat} (h : LosesTie (2 ^ bits) n w) (hLess : w < reach) :
    rounded n < reach := by
  obtain ⟨q, k, hRounded, rfl, hEven, hSome⟩ := h.exists_rounded_eq
  obtain ⟨j, hReach, -⟩ := exists_reach_eq
  rw [hReach, ← Nat.pow_add] at hLess ⊢
  rw [hRounded]
  have hTwo : 2 * 2 ^ k ≤ q * 2 ^ k := Nat.mul_le_mul_right _ (by omega)
  obtain ⟨c, hEnd⟩ : 2 ^ (k + 1) ∣ 2 ^ (54 + j) := by
    rw [← Nat.pow_succ'] at hTwo
    exact Nat.pow_dvd_pow 2 (Nat.le_of_lt
      ((Nat.pow_lt_pow_iff_right (by decide)).mp (Nat.lt_of_le_of_lt hTwo hLess)))
  rw [Nat.pow_succ, Nat.mul_assoc, Nat.mul_comm] at hEnd
  rw [hEnd] at hLess ⊢
  have hUnits := Nat.lt_of_mul_lt_mul_right hLess
  exact Nat.mul_lt_mul_of_pos_right (by omega) (Nat.two_pow_pos k)

end LosesTie

variable {mark : Char} {decimal : List Char} {s t : String}

/-- Every radix that has a mark is a power of two, so that its digits are groups of bits. -/
theorem exists_bits_of_radixMarks (h : (mark, radix) ∈ radixMarks) : ∃ bits, radix = 2 ^ bits := by
  have hMarks : ∀ m ∈ radixMarks, ∃ bits < 5, m.2 = 2 ^ bits := by decide
  obtain ⟨bits, -, hRadix⟩ := hMarks _ h
  exact ⟨bits, hRadix⟩

/-- A whole number of any size is read in decimal as the nearest double, and as none beyond the
range. Behind the mark of a radix it is read as the same, unless a tie is lost: then it is read as
the double below. -/
theorem read?_in_radix (hDecimal : IsNumeral 10 decimal n) (hText : Encloses decimal s)
    (hMark : (mark, radix) ∈ radixMarks) (hDigits : IsNumeral radix digits n)
    (hMarkedText : Encloses ('0' :: mark :: digits) t) :
    IsDoubleOf n (read? s) ∧ (overflowThreshold ≤ n → read? t = none) ∧
      ((∀ w, ¬ LosesTie radix n w) → read? t = read? s) ∧
        ∀ w, LosesTie radix n w → n < overflowThreshold →
          read? t = some ⟨false, w * stepsInOne⟩ ∧ read? t ≠ read? s := by
  obtain ⟨bits, rfl⟩ := exists_bits_of_radixMarks hMark
  obtain ⟨w, hKept, hMarked⟩ := exists_inRadix?_eq hDigits
  rw [read?_decimal hText hDecimal, read?_radix hMarkedText hMark hDigits, hMarked]
  refine ⟨isDoubleOf_rounded n, fun hBeyond => ?_, fun hNone => ?_, fun w' hLost hRange => ?_⟩
  · refine if_neg fun hLess => ?_
    have hRounded : rounded n < reach := by
      rcases hKept.rounded_or_losesTie with rfl | hLost
      · exact hLess
      · exact hLost.rounded_lt_reach hLess
    have hRange := rounded_lt_reach_iff.mp hRounded
    omega
  · rcases hKept.rounded_or_losesTie with rfl | hLost
    · rfl
    · exact absurd hLost (hNone w)
  · obtain rfl := hKept.unique hLost.kept
    have hBelow := hLost.lt_rounded
    have hRounded := rounded_lt_reach_iff.mpr hRange
    rw [doubleOf?, doubleOf?, if_pos hRounded, if_pos (hBelow.trans hRounded)]
    refine ⟨rfl, fun hSame => ?_⟩
    have hSteps := congrArg Double.steps (Option.some.inj hSame)
    have hEq := Nat.eq_of_mul_eq_mul_right stepsInOne_pos hSteps
    omega

/-- A literal in decimal and the same one behind the mark of base sixteen, with blanks around both.
No tie is lost, since 255 is small. -/
theorem read?_in_radix_byte : IsDoubleOf 255 (read? " 255") ∧ read? "0XfF " = read? " 255" := by
  have hByte : IsNumeral 10 "255".toList 255 := by decide +kernel
  have hMarked : IsNumeral 16 "fF".toList 255 := by decide +kernel
  have hText : Encloses "255".toList " 255" :=
    ⟨[' '], [], by decide, List.all_eq_true.mp rfl, List.forall_mem_nil _⟩
  have hMarkedText : Encloses ('0' :: 'X' :: "fF".toList) "0XfF " :=
    ⟨[], [' '], by decide, List.forall_mem_nil _, List.all_eq_true.mp rfl⟩
  obtain ⟨hDouble, -, hSame, -⟩ := read?_in_radix hByte hText (by decide) hMarked hMarkedText
  exact ⟨hDouble, hSame fun w hLost => absurd hLost.two_pow_le (by decide)⟩

/-- Behind 2^53 + 1, which is halfway between two doubles, a last digit 1 is lost: the literal is
read as the lower double, though the upper one is nearer. -/
theorem tie_lost_in_radix :
    IsNumeral 10 "144115188075855889".toList 144115188075855889 ∧
      IsNumeral 16 "200000000000011".toList 144115188075855889 ∧
      IsDoubleOf 144115188075855889 (read? "144115188075855889") ∧
      read? "144115188075855889" = some ⟨false, 144115188075855904 * stepsInOne⟩ ∧
      read? "0x200000000000011" = some ⟨false, 144115188075855872 * stepsInOne⟩ ∧
      read? "0x200000000000011" ≠ read? "144115188075855889" := by
  have hDecimal : IsNumeral 10 "144115188075855889".toList 144115188075855889 := by decide +kernel
  have hText : Encloses "144115188075855889".toList "144115188075855889" :=
    ⟨[], [], by simp, by simp, by simp⟩
  refine ⟨hDecimal, by decide +kernel, ?_, by decide +kernel, by decide +kernel, by decide +kernel⟩
  rw [read?_decimal hText hDecimal]
  exact isDoubleOf_rounded _

end MarkupRules.Number
