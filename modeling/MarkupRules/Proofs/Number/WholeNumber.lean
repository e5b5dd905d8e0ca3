import MarkupRules.Json.Basic
import MarkupRules.Proofs.Number.RadixNumeral

/-!
Whole numbers below 2^53.

All their spellings are read as the number itself, but for the sign of zero, and the comparisons and
the report of such doubles are those of the numbers.
-/
namespace MarkupRules.Number

/-- `s` spells the whole number `n`: in decimal with an optional sign, or without one behind the
mark of a radix. -/
inductive Spells (s : String) : Int → Prop where
  | plain {digits : List Char} {n : Nat} (hText : Encloses digits s)
      (h : IsNumeral 10 digits n) : Spells s n
  | plus {digits : List Char} {n : Nat} (hText : Encloses ('+' :: digits) s)
      (h : IsNumeral 10 digits n) : Spells s n
  | minus {digits : List Char} {n : Nat} (hText : Encloses ('-' :: digits) s)
      (h : IsNumeral 10 digits n) : Spells s (-n)
  | marked {mark : Char} {radix : Nat} {digits : List Char} {n : Nat}
      (hMark : (mark, radix) ∈ radixMarks) (hText : Encloses ('0' :: mark :: digits) s)
      (h : IsNumeral radix digits n) : Spells s n

/-- `x` is the whole number `n`; zero may have either sign. -/
def Double.IsWhole (x : Double) (n : Int) : Prop := x.signedSteps = n * stepsInOne

/-- The double of so many times the steps in one is that whole number, with the sign that it was
given. -/
theorem isWhole_mk (negative : Bool) (n : Nat) :
    (Double.mk negative (n * stepsInOne)).IsWhole (if negative then -n else n) := by
  unfold Double.IsWhole Double.signedSteps
  dsimp only
  split
  · rw [Int.neg_mul, Int.natCast_mul]
  · rw [Int.natCast_mul]

namespace Spells

variable {s : String} {n : Int}

/-- Every spelling of a whole number below 2^53 in absolute value is read, and as exactly this
number. Above that a digit could be lost. -/
theorem exists_isWhole (h : Spells s n) (hSmall : n.natAbs < 2 ^ 53) :
    ∃ x, read? s = some x ∧ x.IsWhole n := by
  have hSigned {cs digits : List Char} {negative : Bool} {n : Nat} (hText : Encloses cs s)
      (hPlain : ∀ c ∈ cs, Text.isBlank c = false) (hSign : takeSign cs = (negative, digits))
      (hDigits : IsNumeral 10 digits n) (hSmall : n < 2 ^ 53) :
      ∃ x, read? s = some x ∧ x.IsWhole (if negative then -n else n) := by
    refine ⟨_, ?_, isWhole_mk negative n⟩
    rw [read?_of_takeSign hText hPlain hSign hDigits, rounded_of_lt hSmall,
      doubleOf?_of_lt negative hSmall]
  cases h with
  | plain hText hDigits =>
    exact hSigned hText hDigits.not_isBlank (takeSign_of_isNumeral hDigits) hDigits (by omega)
  | plus hText hDigits =>
    exact hSigned hText (List.forall_mem_cons.mpr ⟨by decide, hDigits.not_isBlank⟩) rfl hDigits
      (by omega)
  | minus hText hDigits =>
    exact hSigned hText (List.forall_mem_cons.mpr ⟨by decide, hDigits.not_isBlank⟩) rfl hDigits
      (by omega)
  | marked hMark hText hDigits =>
    obtain ⟨bits, rfl⟩ := exists_bits_of_radixMarks hMark
    obtain ⟨w, hKept, hRead⟩ := exists_inRadix?_eq hDigits
    obtain rfl := hKept.unique (.short (by omega))
    refine ⟨_, ?_, isWhole_mk false w⟩
    rw [read?_radix hText hMark hDigits, hRead, doubleOf?_of_lt false (by omega)]

end Spells

namespace Double.IsWhole

variable {x y : Double} {m n : Int}

/-- The magnitude of a whole number is that many times the finest steps in one. -/
theorem steps_eq (h : x.IsWhole n) : x.steps = n.natAbs * stepsInOne := by
  have hSteps : x.signedSteps.natAbs = x.steps := by
    unfold signedSteps
    split
    · rw [Int.natAbs_neg, Int.natAbs_natCast]
    · exact Int.natAbs_natCast _
  rw [← hSteps, h, Int.natAbs_mul, Int.natAbs_natCast]

theorem isIntegral (h : x.IsWhole n) : x.isIntegral = true := by
  rw [Double.isIntegral, h.steps_eq, Nat.mul_mod_left]
  rfl

/-- Doubles that are whole numbers are in the same order as the numbers, for both are counted in the
same steps. -/
theorem signedSteps_le_iff (hx : x.IsWhole m) (hy : y.IsWhole n) :
    x.signedSteps ≤ y.signedSteps ↔ m ≤ n := by
  rw [hx, hy]
  exact Int.mul_le_mul_right (Int.natCast_pos.mpr stepsInOne_pos)

theorem le_eq (hx : x.IsWhole m) (hy : y.IsWhole n) : x.le y = decide (m ≤ n) :=
  decide_eq_decide.mpr (hx.signedSteps_le_iff hy)

/-- A double that is a whole number is not negative just if the number is not. Zero is not negative
under either sign. -/
theorem isNonnegative_eq (h : x.IsWhole n) : x.isNonnegative = decide (0 ≤ n) := by
  refine decide_eq_decide.mpr ?_
  rw [h]
  exact Int.mul_nonneg_iff_of_pos_right (Int.natCast_pos.mpr stepsInOne_pos)

/-- Nothing is cut off a whole number. -/
theorem truncate_eq (h : x.IsWhole n) : x.truncate = n := by
  have hOne : (0 : Int) < stepsInOne := Int.natCast_pos.mpr stepsInOne_pos
  have hMagnitude : x.steps / stepsInOne = n.natAbs := by
    rw [h.steps_eq, Nat.mul_div_cancel _ stepsInOne_pos]
  rw [truncate, hMagnitude]
  unfold IsWhole signedSteps at h
  split
  · next hSign =>
    have hNonpositive : n * stepsInOne ≤ 0 := by
      rw [← h, if_pos hSign]
      omega
    have hLeast := nonpos_of_mul_nonpos_left hNonpositive hOne
    omega
  · next hSign =>
    have hNonnegative : 0 ≤ n * stepsInOne := by
      rw [← h, if_neg hSign]
      omega
    have hLeast := nonneg_of_mul_nonneg_left hNonnegative hOne
    omega

/-- A whole number below 2^53 is reported as itself, and zero without a sign. -/
theorem ofDouble_eq (h : x.IsWhole n) (hSmall : n.natAbs < 2 ^ 53) :
    Json.ofDouble x = .integer n := by
  have hLess : x.steps < Nat.pow 2 53 * stepsInOne := by
    rw [h.steps_eq]
    exact Nat.mul_lt_mul_of_pos_right hSmall stepsInOne_pos
  rw [Json.ofDouble, smallInt?, h.isIntegral, decide_eq_true hLess, Bool.and_true, if_pos rfl,
    h.truncate_eq]

end Double.IsWhole

end MarkupRules.Number
