import MarkupRules.Number.Double
import Mathlib.Data.Nat.Log
import Mathlib.Tactic.Linarith
import Mathlib.Tactic.Ring

/-!
Whole numbers as doubles.

A whole number is kept exactly below 2^53 and rounded to 53 significant bits from there on, to the
nearest double and of two to the one with the even significand. From halfway between the greatest
double and 2^1024 on there is none.
-/
namespace MarkupRules.Number

theorem stepsInOne_pos : 0 < stepsInOne := by
  unfold stepsInOne
  generalize 1074 = k
  exact Nat.two_pow_pos k

/-- There are a power of two of finest steps in one, with more of them than a significand has bits.
The exponent itself stays folded up, as it is large. -/
theorem exists_stepsInOne_eq : ∃ k, 52 ≤ k ∧ stepsInOne = 2 ^ k := by
  have hLarge : 52 ≤ 1074 := by decide
  unfold stepsInOne
  generalize 1074 = k at hLarge ⊢
  exact ⟨k, hLarge, rfl⟩

/-- 2^1024, the first power of two that is beyond the doubles. -/
@[irreducible]
def reach : Nat := Nat.pow 2 1024

/-- Halfway between the greatest double and 2^1024. -/
def overflowThreshold : Nat := Nat.pow 2 1024 - Nat.pow 2 970

/-- The range and its threshold in the units of half the last distance. Everything about overflow is
shown in these units, so that no large number is ever computed. -/
theorem exists_reach_eq :
    ∃ k, reach = 2 ^ 54 * 2 ^ k ∧ overflowThreshold = 2 ^ 54 * 2 ^ k - 2 ^ k := by
  have hSplit : 1024 = 54 + 970 := by decide
  unfold reach overflowThreshold
  rw [hSplit]
  generalize 970 = k
  have hPower : Nat.pow 2 (54 + k) = 2 ^ 54 * 2 ^ k := Nat.pow_add 2 54 k
  rw [hPower]
  exact ⟨k, rfl, rfl⟩

theorem overflowThreshold_le_reach : overflowThreshold ≤ reach := by
  obtain ⟨k, hReach, hThreshold⟩ := exists_reach_eq
  rw [hReach, hThreshold]
  exact Nat.sub_le _ _

/-- `q` is the whole number nearest to `num / den`, and of two the even one. -/
structure IsNearestQuotient (num den q : Nat) : Prop where
  above : 2 * num ≤ 2 * (q * den) + den
  below : 2 * (q * den) ≤ 2 * num + den
  even : 2 * num = 2 * (q * den) + den ∨ 2 * (q * den) = 2 * num + den → q % 2 = 0

variable {num den q : Nat}

/-- The division rounds to the nearest whole number, and at a tie to the even one, for any
denominator but zero. -/
theorem isNearestQuotient_divRoundEven (num : Nat) (h : 0 < den) :
    IsNearestQuotient num den (divRoundEven num den) := by
  have hNum := Nat.div_add_mod' num den
  have hRest := Nat.mod_lt num h
  unfold divRoundEven
  dsimp only
  generalize num / den = q at hNum ⊢
  generalize num % den = r at hNum hRest ⊢
  split
  · exact ⟨by omega, by omega, by omega⟩
  · have hNext : (q + 1) * den = q * den + den := Nat.succ_mul q den
    split
    · exact ⟨by omega, by omega, by omega⟩
    · rcases Nat.mod_two_eq_zero_or_one q with hEven | hOdd
      · rw [hEven, Nat.add_zero]
        exact ⟨by omega, by omega, fun _ => hEven⟩
      · rw [hOdd]
        exact ⟨by omega, by omega, by omega⟩

namespace IsNearestQuotient

/-- A quotient has one nearest whole number, since of the two at a tie only one is even. -/
theorem unique {q' : Nat} (h : IsNearestQuotient num den q) (h' : IsNearestQuotient num den q')
    (hDen : 0 < den) : q = q' := by
  have hOrder {a b : Nat} (ha : IsNearestQuotient num den a) (hb : IsNearestQuotient num den b) :
      b ≤ a := by
    by_contra hLess
    have hNext : (a + 1) * den ≤ b * den := Nat.mul_le_mul_right den (by omega)
    have hSucc : (a + 1) * den = a * den + den := Nat.succ_mul a den
    have hAbove := ha.above
    have hBelow := hb.below
    -- Both are at the distance of a half, so both are even, and yet they are neighbours.
    have hNeighbour : b * den = (a + 1) * den := by omega
    obtain rfl := Nat.eq_of_mul_eq_mul_right hDen hNeighbour
    have hEven := ha.even (by omega)
    have hEven' := hb.even (by omega)
    omega
  exact Nat.le_antisymm (hOrder h' h) (hOrder h h')

/-- What is the nearest whole number to a quotient is what the division gives, so the division need
not be opened. -/
theorem eq (h : IsNearestQuotient num den q) (hDen : 0 < den) : divRoundEven num den = q :=
  (isNearestQuotient_divRoundEven num hDen).unique h hDen

/-- The nearest whole number stays the same if the quotient is expanded. -/
theorem mul_right (h : IsNearestQuotient num den q) (k : Nat) (hk : 0 < k) :
    IsNearestQuotient (num * k) (den * k) q := by
  have hProduct : q * (den * k) = q * den * k := (Nat.mul_assoc q den k).symm
  have hSum (a b : Nat) : 2 * (a * k) + b * k = (2 * a + b) * k := by ring
  have hTwice (a : Nat) : 2 * (a * k) = 2 * a * k := (Nat.mul_assoc 2 a k).symm
  constructor
  · rw [hProduct, hSum, hTwice]
    exact Nat.mul_le_mul_right k h.above
  · rw [hProduct, hSum, hTwice]
    exact Nat.mul_le_mul_right k h.below
  · rw [hProduct, hSum, hSum, hTwice, hTwice]
    rintro (hTie | hTie)
    · exact h.even (.inl (Nat.eq_of_mul_eq_mul_right hk hTie))
    · exact h.even (.inr (Nat.eq_of_mul_eq_mul_right hk hTie))

end IsNearestQuotient

/-- Expanding a quotient does not change what it is rounded to. So the units that a magnitude is
counted in make no difference. -/
theorem divRoundEven_mul_right {k : Nat} (hDen : 0 < den) (hk : 0 < k) :
    divRoundEven (num * k) (den * k) = divRoundEven num den :=
  ((isNearestQuotient_divRoundEven num hDen).mul_right k hk).eq (Nat.mul_pos hDen hk)

theorem divRoundEven_mul_self (q : Nat) (hDen : 0 < den) : divRoundEven (q * den) den = q :=
  IsNearestQuotient.eq ⟨by omega, by omega, by omega⟩ hDen

/-- Rounding does not pass a whole number on the way down: what is not less than one before is not
less afterwards. -/
theorem le_divRoundEven {k : Nat} (hDen : 0 < den) (h : k * den ≤ num) :
    k ≤ divRoundEven num den := by
  have hAbove := (isNearestQuotient_divRoundEven num hDen).above
  generalize divRoundEven num den = q at hAbove
  by_contra hLess
  have hNext : (q + 1) * den ≤ k * den := Nat.mul_le_mul_right den (by omega)
  have hSucc : (q + 1) * den = q * den + den := Nat.succ_mul q den
  omega

/-- Rounding does not pass a whole number on the way up either, which bounds what a rounded quotient
can be. -/
theorem divRoundEven_le {k : Nat} (hDen : 0 < den) (h : num ≤ k * den) :
    divRoundEven num den ≤ k := by
  have hBelow := (isNearestQuotient_divRoundEven num hDen).below
  generalize divRoundEven num den = q at hBelow
  by_contra hLess
  have hNext : (k + 1) * den ≤ q * den := Nat.mul_le_mul_right den (by omega)
  have hSucc : (k + 1) * den = k * den + den := Nat.succ_mul k den
  omega

/-- The distance between the doubles at a whole number, where it is not below one. -/
def spacing (n : Nat) : Nat := 2 ^ (n.log2 - 52)

/-- A whole number rounded to 53 significant bits, a tie to the even one. -/
def rounded (n : Nat) : Nat := divRoundEven n (spacing n) * spacing n

theorem spacing_pos (n : Nat) : 0 < spacing n := Nat.two_pow_pos _

/-- Below 2^53 the doubles lie at most one apart at whole numbers, so that all whole numbers are
among them. -/
theorem spacing_of_lt {n : Nat} (h : n < 2 ^ 53) : spacing n = 1 := by
  have hLog : n.log2 < 53 := by
    by_cases hZero : n = 0
    · simp [hZero]
    · exact (Nat.log2_lt hZero).mpr h
  rw [spacing, Nat.sub_eq_zero_of_le (by omega), Nat.pow_zero]

/-- From 53 bits on the distance between the doubles is the power of two that the bits are to be
shifted by. -/
theorem spacing_eq {n k : Nat} (hLow : 2 ^ 52 * 2 ^ k ≤ n) (hHigh : n < 2 ^ 53 * 2 ^ k) :
    spacing n = 2 ^ k := by
  rw [← Nat.pow_add] at hLow hHigh
  have hSome : n ≠ 0 := Nat.ne_of_gt (Nat.lt_of_lt_of_le (Nat.two_pow_pos _) hLow)
  have hLog : n.log2 = 52 + k := by
    rw [Nat.log2_eq_iff hSome]
    exact ⟨hLow, by rwa [show 52 + k + 1 = 53 + k by omega]⟩
  rw [spacing, hLog, Nat.add_sub_cancel_left]

/-- Every number of at least 53 bits lies in one of the ranges in which the doubles have the same
distance. -/
theorem exists_spacing {n : Nat} (h : 2 ^ 52 ≤ n) :
    ∃ k, spacing n = 2 ^ k ∧ 2 ^ 52 * 2 ^ k ≤ n ∧ n < 2 ^ 53 * 2 ^ k := by
  have hSome : n ≠ 0 := by omega
  have hLog : 52 ≤ n.log2 := (Nat.le_log2 hSome).mpr h
  refine ⟨n.log2 - 52, rfl, ?_, ?_⟩
  · rw [← Nat.pow_add, Nat.add_sub_cancel' hLog]
    exact Nat.log2_self_le hSome
  · rw [← Nat.pow_add, show 53 + (n.log2 - 52) = n.log2 + 1 by omega]
    exact Nat.lt_log2_self

/-- A whole number below 2^53 is a double already, so rounding leaves it alone. -/
theorem rounded_of_lt {n : Nat} (h : n < 2 ^ 53) : rounded n = n := by
  have hOne := divRoundEven_mul_self n Nat.one_pos
  rw [Nat.mul_one] at hOne
  rw [rounded, spacing_of_lt h, hOne, Nat.mul_one]

/-- A power of two below a number stays below it when the number is rounded, because powers of two
are doubles. -/
theorem two_pow_le_rounded {n k : Nat} (h : 2 ^ k ≤ n) : 2 ^ k ≤ rounded n := by
  have hSome : n ≠ 0 := Nat.ne_of_gt (Nat.lt_of_lt_of_le (Nat.two_pow_pos k) h)
  obtain ⟨c, hMultiple⟩ : spacing n ∣ 2 ^ n.log2 := Nat.pow_dvd_pow 2 (Nat.sub_le _ 52)
  rw [Nat.mul_comm] at hMultiple
  have hBelow : c * spacing n ≤ n := hMultiple ▸ Nat.log2_self_le hSome
  calc 2 ^ k
    _ ≤ 2 ^ n.log2 := Nat.pow_le_pow_right (by decide) ((Nat.le_log2 hSome).mpr h)
    _ = c * spacing n := hMultiple
    _ ≤ rounded n := Nat.mul_le_mul_right _ (le_divRoundEven (spacing_pos n) hBelow)

/-- A power of two above a number stays above it, or is just reached, when the number is rounded. -/
theorem rounded_le_two_pow {n k : Nat} (h : n < 2 ^ k) : rounded n ≤ 2 ^ k := by
  by_cases hZero : n = 0
  · rw [hZero, rounded_of_lt (by decide)]
    exact Nat.zero_le _
  · obtain ⟨c, hMultiple⟩ : spacing n ∣ 2 ^ (n.log2 + 1) := Nat.pow_dvd_pow 2 (by omega)
    rw [Nat.mul_comm] at hMultiple
    have hAbove : n ≤ c * spacing n := hMultiple ▸ Nat.le_of_lt Nat.lt_log2_self
    calc rounded n
      _ ≤ c * spacing n := Nat.mul_le_mul_right _ (divRoundEven_le (spacing_pos n) hAbove)
      _ = 2 ^ (n.log2 + 1) := hMultiple.symm
      _ ≤ 2 ^ k := Nat.pow_le_pow_right (by decide) ((Nat.log2_lt hZero).mpr h)

/-- Where the distance between the doubles is known, a number is rounded to its nearest multiple of
that distance. -/
theorem rounded_eq {n q k : Nat} (hRange : 2 ^ 52 * 2 ^ k ≤ n ∧ n < 2 ^ 53 * 2 ^ k)
    (h : IsNearestQuotient n (2 ^ k) q) : rounded n = q * 2 ^ k := by
  rw [rounded, spacing_eq hRange.1 hRange.2, h.eq (Nat.two_pow_pos k)]

/-- A number of more than 53 bits has 53 bits left when it is rounded, or it is rounded up to the
next power of two. -/
theorem exists_rounded_eq {n : Nat} (h : 2 ^ 52 ≤ n) :
    ∃ q k, rounded n = q * 2 ^ k ∧ IsNearestQuotient n (2 ^ k) q ∧
      (2 ^ 52 * 2 ^ k ≤ n ∧ n < 2 ^ 53 * 2 ^ k) ∧ 2 ^ 52 ≤ q ∧ q ≤ 2 ^ 53 := by
  obtain ⟨k, hSpacing, hLow, hHigh⟩ := exists_spacing h
  have hPos := Nat.two_pow_pos k
  refine ⟨divRoundEven n (2 ^ k), k, ?_, isNearestQuotient_divRoundEven n hPos, ⟨hLow, hHigh⟩,
    ?_, ?_⟩
  · rw [rounded, hSpacing]
  · exact le_divRoundEven hPos hLow
  · exact divRoundEven_le hPos (Nat.le_of_lt hHigh)

/-- A number is rounded to one within the range of the doubles just below the threshold, which lies
halfway to an even significand and is rounded up. -/
theorem rounded_lt_reach_iff {n : Nat} : rounded n < reach ↔ n < overflowThreshold := by
  obtain ⟨k, hReach, hThreshold⟩ := exists_reach_eq
  have hDouble : 2 ^ (53 + k) * 2 = 2 ^ 54 * 2 ^ k := by ring
  have hPos := Nat.two_pow_pos k
  rw [hReach, hThreshold]
  by_cases hSmall : n < 2 ^ (53 + k)
  · have hRounded := rounded_le_two_pow hSmall
    omega
  · by_cases hLarge : 2 ^ (54 + k) ≤ n
    · have hRounded := two_pow_le_rounded hLarge
      rw [Nat.pow_add] at hRounded hLarge
      omega
    · -- Between the two powers every other multiple of the unit `2 ^ k` is a double.
      have hSpacing : spacing n = 2 ^ (k + 1) := by
        refine spacing_eq ?_ ?_
        · rw [← Nat.pow_add, show 52 + (k + 1) = 53 + k by omega]
          omega
        · rw [← Nat.pow_add, show 53 + (k + 1) = 54 + k by omega]
          omega
      have hNearest := isNearestQuotient_divRoundEven n (spacing_pos n)
      rw [rounded]
      generalize divRoundEven n (spacing n) = q at hNearest ⊢
      obtain ⟨hAbove, hBelow, hEven⟩ := hNearest
      have hUnits : q * spacing n = 2 * (q * 2 ^ k) := by rw [hSpacing, Nat.pow_succ]; ring
      have hTwice : spacing n = 2 * 2 ^ k := by rw [hSpacing, Nat.pow_succ, Nat.mul_comm]
      rw [hUnits, hTwice] at hAbove hBelow hEven
      rw [hUnits]
      by_cases hFits : q < 2 ^ 53
      · have hMost : q * 2 ^ k ≤ (2 ^ 53 - 1) * 2 ^ k := Nat.mul_le_mul_right _ (by omega)
        refine iff_of_true (by omega) ?_
        by_contra hNot
        have hSame : q * 2 ^ k = (2 ^ 53 - 1) * 2 ^ k := by omega
        obtain rfl := Nat.eq_of_mul_eq_mul_right hPos hSame
        exact absurd (hEven (by omega)) (by decide)
      · have hLeast : 2 ^ 53 * 2 ^ k ≤ q * 2 ^ k := Nat.mul_le_mul_right _ (by omega)
        exact iff_of_false (by omega) (by omega)

/-- The double of a whole number that has no more than 53 significant bits, if it is in range. -/
def doubleOf? (negative : Bool) (n : Nat) : Option Double :=
  if n < reach then some ⟨negative, n * stepsInOne⟩ else none

/-- A whole number below 2^53 is a double, and it is that double that comes of it. Its steps are
counted exactly. -/
theorem doubleOf?_of_lt (negative : Bool) {n : Nat} (h : n < 2 ^ 53) :
    doubleOf? negative n = some ⟨negative, n * stepsInOne⟩ := by
  obtain ⟨k, hReach, -⟩ := exists_reach_eq
  have hRange : 2 ^ 54 ≤ reach := hReach ▸ Nat.le_mul_of_pos_right _ (Nat.two_pow_pos k)
  exact if_pos (by omega)

/-- The double of a fraction that is a whole number is that of the number, whatever it was expanded
by. -/
theorem ofRatio?_mul (negative : Bool) (n : Nat) (hDen : 0 < den) :
    Double.ofRatio? negative (n * den) den = doubleOf? negative (rounded n) := by
  obtain ⟨k, -, hSteps⟩ := exists_stepsInOne_eq
  have hOne := stepsInOne_pos
  have hWhole : n * den * stepsInOne / den = n * stepsInOne := by
    rw [Nat.mul_right_comm, Nat.mul_div_cancel _ hDen]
  have hRounded : divRoundEven (n * den * stepsInOne) (den * spacing (n * stepsInOne)) *
      spacing (n * stepsInOne) = rounded n * stepsInOne := by
    by_cases hSmall : n < 2 ^ 53
    · -- The steps are finer than the number needs, so nothing is lost.
      obtain ⟨c, hFiner⟩ : spacing (n * stepsInOne) ∣ stepsInOne := by
        have hLog : (n * stepsInOne).log2 < 53 + k := by
          by_cases hZero : n * stepsInOne = 0
          · rw [hZero, Nat.log2_zero]
            omega
          · rw [Nat.log2_lt hZero, hSteps, Nat.pow_add]
            exact Nat.mul_lt_mul_of_pos_right hSmall (Nat.two_pow_pos k)
        rw [spacing]
        nth_rewrite 2 [hSteps]
        exact Nat.pow_dvd_pow 2 (by omega)
      have hExact : n * den * stepsInOne = n * c * (den * spacing (n * stepsInOne)) := by
        nth_rewrite 1 [hFiner]
        ring
      rw [hExact, divRoundEven_mul_self _ (Nat.mul_pos hDen (spacing_pos _)), rounded_of_lt hSmall]
      nth_rewrite 2 [hFiner]
      ring
    · obtain ⟨j, hSpacing, hLow, hHigh⟩ := exists_spacing (n := n) (by omega)
      have hScaled : spacing (n * stepsInOne) = spacing n * stepsInOne := by
        rw [hSpacing, hSteps, ← Nat.pow_add]
        refine spacing_eq ?_ ?_
        · rw [Nat.pow_add, ← Nat.mul_assoc]
          exact Nat.mul_le_mul_right _ hLow
        · rw [Nat.pow_add, ← Nat.mul_assoc]
          exact Nat.mul_lt_mul_of_pos_right hHigh (Nat.two_pow_pos k)
      have hNum : n * den * stepsInOne = n * (den * stepsInOne) := by ring
      have hDenominator : den * (spacing n * stepsInOne) = spacing n * (den * stepsInOne) := by ring
      rw [hScaled, hNum, hDenominator,
        divRoundEven_mul_right (spacing_pos n) (Nat.mul_pos hDen hOne), rounded]
      ring
  have hLess : rounded n * stepsInOne < reach * stepsInOne ↔ rounded n < reach :=
    Nat.mul_lt_mul_right hOne
  unfold Double.ofRatio? doubleOf? reach
  unfold reach at hLess
  dsimp only
  rw [hWhole]
  change (if divRoundEven _ (den * spacing (n * stepsInOne)) * spacing (n * stepsInOne) < _
    then some (⟨negative, divRoundEven _ (den * spacing (n * stepsInOne)) *
      spacing (n * stepsInOne)⟩ : Double) else none) = _
  rw [hRounded]
  simp only [hLess]

/-- The distance that a whole multiple of the denominator has from the numerator. -/
def gap (num den c : Nat) : Nat := ((c * den : Nat) - (num : Int)).natAbs

namespace IsNearestQuotient

/-- No whole multiple of the denominator is nearer to the numerator than the one that the nearest
quotient gives. -/
theorem gap_le (h : IsNearestQuotient num den q) (c : Nat) : gap num den q ≤ gap num den c := by
  obtain ⟨hAbove, hBelow, -⟩ := h
  unfold gap
  rcases Nat.lt_trichotomy c q with hLess | rfl | hMore
  · have hNext : (c + 1) * den ≤ q * den := Nat.mul_le_mul_right den hLess
    rw [Nat.succ_mul] at hNext
    omega
  · exact Nat.le_refl _
  · have hNext : (q + 1) * den ≤ c * den := Nat.mul_le_mul_right den hMore
    rw [Nat.succ_mul] at hNext
    omega

/-- Another multiple at the same distance leaves a tie, which goes to the even one. -/
theorem even_of_gap_eq (h : IsNearestQuotient num den q) {c : Nat} (hOther : c ≠ q)
    (hGap : gap num den c = gap num den q) : q % 2 = 0 := by
  obtain ⟨hAbove, hBelow, hEven⟩ := h
  unfold gap at hGap
  refine hEven ?_
  rcases Nat.lt_or_gt_of_ne hOther with hLess | hMore
  · have hNext : (c + 1) * den ≤ q * den := Nat.mul_le_mul_right den hLess
    rw [Nat.succ_mul] at hNext
    omega
  · have hNext : (q + 1) * den ≤ c * den := Nat.mul_le_mul_right den hMore
    rw [Nat.succ_mul] at hNext
    omega

end IsNearestQuotient

namespace Double

/-- A finite double: a significand of 53 bits times a power of two of finest steps, below 2^1024. -/
structure IsFinite (x : Double) : Prop where
  significand : ∃ m e, m < 2 ^ 53 ∧ x.steps = m * 2 ^ e
  inRange : x.steps < reach * stepsInOne

/-- The significand: the magnitude in units of the distance between the doubles around it. -/
def significand (x : Double) : Nat := x.steps / 2 ^ shiftOf x.steps

/-- The distance from a whole number, in finest steps. -/
def distance (x : Double) (n : Nat) : Nat := (x.signedSteps - (n * stepsInOne : Nat)).natAbs

/-- `x` is the finite double nearest to `n`, and of two the one with the even significand. -/
structure IsNearest (x : Double) (n : Nat) : Prop where
  positive : x.negative = false
  finite : x.IsFinite
  nearest : ∀ y : Double, y.IsFinite → x.distance n ≤ y.distance n
  even : ∀ y : Double, y.IsFinite → y.distance n = x.distance n → y.signedSteps ≠ x.signedSteps →
    x.significand % 2 = 0

theorem signedSteps_positive (steps : Nat) : (Double.mk false steps).signedSteps = steps := rfl

/-- The doubles from a power of two on are multiples of what 53 bits leave of it. This is why no
double lies between two neighbours. -/
theorem IsFinite.dvd_steps {y : Double} (h : y.IsFinite) {k : Nat}
    (hLarge : 2 ^ 52 * 2 ^ k ≤ y.steps) : 2 ^ k ∣ y.steps := by
  obtain ⟨m, e, hBits, hSteps⟩ := h.significand
  have hExponent : k ≤ e := by
    by_contra hLess
    have hPower : 2 ^ (e + 1) ≤ 2 ^ k := Nat.pow_le_pow_right (by decide) (by omega)
    have hMost : m * 2 ^ e < 2 ^ 53 * 2 ^ e := Nat.mul_lt_mul_of_pos_right hBits (Nat.two_pow_pos e)
    rw [Nat.pow_succ] at hPower
    omega
  rw [hSteps]
  exact Nat.dvd_mul_left_of_dvd (Nat.pow_dvd_pow 2 hExponent) m

/-- A magnitude of at most 53 bits has the significand that its bits give, and that is even if they
are. At the next power of two it is even anyway. -/
theorem significand_even {negative : Bool} {q k : Nat} (hLow : 2 ^ 52 ≤ q) (hHigh : q ≤ 2 ^ 53)
    (hEven : q % 2 = 0) : (Double.mk negative (q * 2 ^ k)).significand % 2 = 0 := by
  have hPos := Nat.two_pow_pos k
  change q * 2 ^ k / spacing (q * 2 ^ k) % 2 = 0
  rcases Nat.lt_or_eq_of_le hHigh with hFits | rfl
  · have hSpacing : spacing (q * 2 ^ k) = 2 ^ k :=
      spacing_eq (Nat.mul_le_mul_right _ hLow) (Nat.mul_lt_mul_of_pos_right hFits hPos)
    rw [hSpacing, Nat.mul_div_cancel _ hPos, hEven]
  · have hCarry : 2 ^ 53 * 2 ^ k = 2 ^ 52 * 2 ^ (k + 1) := by ring
    have hNext := Nat.two_pow_pos (k + 1)
    have hSpacing : spacing (2 ^ 52 * 2 ^ (k + 1)) = 2 ^ (k + 1) :=
      spacing_eq (Nat.le_refl _) (Nat.mul_lt_mul_of_pos_right (by decide) hNext)
    rw [hCarry, hSpacing, Nat.mul_div_cancel _ hNext]
    decide

/-- A number that is rounded below the end of the range is a finite double, for 53 bits of it are
left. -/
theorem isFinite_rounded {n : Nat} (negative : Bool) (h : rounded n < reach) :
    (Double.mk negative (rounded n * stepsInOne)).IsFinite where
  inRange := Nat.mul_lt_mul_of_pos_right h stepsInOne_pos
  significand := by
    obtain ⟨j, -, hSteps⟩ := exists_stepsInOne_eq
    dsimp only
    by_cases hSmall : n < 2 ^ 53
    · exact ⟨n, j, hSmall, by rw [rounded_of_lt hSmall, hSteps]⟩
    · obtain ⟨q, k, hRounded, -, -, -, hHigh⟩ := exists_rounded_eq (n := n) (by omega)
      rw [hRounded, hSteps]
      rcases Nat.lt_or_eq_of_le hHigh with hFits | rfl
      · exact ⟨q, k + j, hFits, by rw [Nat.pow_add, Nat.mul_assoc]⟩
      · exact ⟨2 ^ 52, k + j + 1, by decide, by ring⟩

/-- A finite double that is just the number is the nearest one, and no other is as near. -/
theorem IsNearest.of_exact {x : Double} {n : Nat} (hPositive : x.negative = false)
    (hFinite : x.IsFinite) (hExact : x.distance n = 0) : x.IsNearest n where
  positive := hPositive
  finite := hFinite
  nearest y _ := by
    rw [hExact]
    exact Nat.zero_le _
  even y _ hTie hOther := by
    rw [hExact] at hTie
    refine absurd ?_ hOther
    unfold distance at hTie hExact
    omega

/-- The distance of a multiple of a power of two, in finest steps, is its gap. -/
theorem distance_of_multiple {y : Double} {n k c : Nat}
    (h : y.signedSteps = (c * 2 ^ k * stepsInOne : Nat)) :
    y.distance n = gap n (2 ^ k) c * stepsInOne := by
  rw [distance, h, Nat.cast_mul, Nat.cast_mul n, ← sub_mul, Int.natAbs_mul, Int.natAbs_natCast, gap]

/-- A finite double that is not below `2 ^ 52 * 2 ^ k` is positive, and a multiple of `2 ^ k`. -/
theorem IsFinite.exists_multiple {y : Double} (hFinite : y.IsFinite) {k : Nat}
    (hLarge : (2 ^ 52 * 2 ^ k * stepsInOne : Nat) ≤ y.signedSteps) :
    ∃ c, y.signedSteps = (c * 2 ^ k * stepsInOne : Nat) := by
  obtain ⟨j, -, hSteps⟩ := exists_stepsInOne_eq
  have hPositive : y.signedSteps = y.steps := by
    generalize 2 ^ 52 * 2 ^ k * stepsInOne = bound at hLarge
    unfold signedSteps at hLarge ⊢
    split
    · next hSign =>
      rw [if_pos hSign] at hLarge
      omega
    · rfl
  rw [hPositive, Int.ofNat_le, hSteps, Nat.mul_assoc, ← Nat.pow_add] at hLarge
  obtain ⟨c, hMultiple⟩ := hFinite.dvd_steps hLarge
  have hProduct : 2 ^ (k + j) * c = c * 2 ^ k * stepsInOne := by
    rw [hSteps]
    ring
  exact ⟨c, by rw [hPositive, hMultiple, hProduct]⟩

/-- Below a power of two that a number has reached, a double is farther from it than the power. -/
theorem gap_lt_distance_of_lt {y : Double} {n k : Nat} (hPower : 2 ^ 52 * 2 ^ k ≤ n)
    (hBelow : y.signedSteps < (2 ^ 52 * 2 ^ k * stepsInOne : Nat)) :
    gap n (2 ^ k) (2 ^ 52) * stepsInOne < y.distance n := by
  have hLess : 2 ^ 52 * 2 ^ k * stepsInOne ≤ n * stepsInOne := Nat.mul_le_mul_right _ hPower
  have hPowerSteps : (Double.mk false (2 ^ 52 * 2 ^ k * stepsInOne)).signedSteps =
      (2 ^ 52 * 2 ^ k * stepsInOne : Nat) := rfl
  rw [← distance_of_multiple hPowerSteps]
  unfold distance
  rw [hPowerSteps]
  generalize 2 ^ 52 * 2 ^ k * stepsInOne = bound at hBelow hLess ⊢
  generalize n * stepsInOne = target at hLess ⊢
  omega

/-- Rounding to 53 bits gives the nearest of all finite doubles, not only of those in the same
range, and at a tie the one whose significand is even. -/
theorem isNearest_rounded {n : Nat} (h : rounded n < reach) :
    (Double.mk false (rounded n * stepsInOne)).IsNearest n := by
  by_cases hSmall : n < 2 ^ 53
  · refine .of_exact rfl (isFinite_rounded false h) ?_
    rw [rounded_of_lt hSmall, distance, signedSteps_positive, Int.sub_self]
    exact Int.natAbs_zero
  · obtain ⟨q, k, hRounded, hNearest, ⟨hPower, -⟩, hLow, hHigh⟩ :=
      exists_rounded_eq (n := n) (by omega)
    have hSteps : (Double.mk false (rounded n * stepsInOne)).signedSteps =
        (q * 2 ^ k * stepsInOne : Nat) := by rw [hRounded, signedSteps_positive]
    have hDistance := distance_of_multiple (n := n) hSteps
    -- A double is either below the last power of two and out of question, or such a multiple.
    have hCases (y : Double) (hFinite : y.IsFinite) :
        gap n (2 ^ k) q * stepsInOne < y.distance n ∨
          ∃ c, y.signedSteps = (c * 2 ^ k * stepsInOne : Nat) := by
      by_cases hBelow : y.signedSteps < (2 ^ 52 * 2 ^ k * stepsInOne : Nat)
      · exact .inl (Nat.lt_of_le_of_lt (Nat.mul_le_mul_right _ (hNearest.gap_le (2 ^ 52)))
          (gap_lt_distance_of_lt hPower hBelow))
      · exact .inr (hFinite.exists_multiple (Int.not_lt.mp hBelow))
    refine ⟨rfl, isFinite_rounded false h, fun y hFinite => ?_, fun y hFinite hTie hOther => ?_⟩
    · rw [hDistance]
      rcases hCases y hFinite with hFar | ⟨c, hMultiple⟩
      · exact Nat.le_of_lt hFar
      · rw [distance_of_multiple hMultiple]
        exact Nat.mul_le_mul_right _ (hNearest.gap_le c)
    · rw [hDistance] at hTie
      rcases hCases y hFinite with hFar | ⟨c, hMultiple⟩
      · omega
      · rw [distance_of_multiple hMultiple] at hTie
        have hDiffers : c ≠ q := by
          rintro rfl
          exact hOther (hMultiple.trans hSteps.symm)
        have hEven := hNearest.even_of_gap_eq hDiffers
          (Nat.eq_of_mul_eq_mul_right stepsInOne_pos hTie)
        obtain ⟨j, -, hUnit⟩ := exists_stepsInOne_eq
        rw [hRounded, hUnit, Nat.mul_assoc, ← Nat.pow_add]
        exact significand_even hLow hHigh hEven

end Double

/-- What a whole number is as a double: the nearest one, and none from halfway between the greatest
double and 2^1024 on. -/
inductive IsDoubleOf (n : Nat) : Option Double → Prop where
  | nearest {x : Double} (hRange : n < overflowThreshold) (h : x.IsNearest n) :
      IsDoubleOf n (some x)
  | beyond (h : overflowThreshold ≤ n) : IsDoubleOf n none

/-- The double of a rounded number is the one that the number should have: the nearest, and none
beyond the threshold. -/
theorem isDoubleOf_rounded (n : Nat) : IsDoubleOf n (doubleOf? false (rounded n)) := by
  unfold doubleOf?
  by_cases hRange : rounded n < reach
  · rw [if_pos hRange]
    exact .nearest (rounded_lt_reach_iff.mp hRange) (Double.isNearest_rounded hRange)
  · rw [if_neg hRange]
    exact .beyond (Nat.not_lt.mp fun hLess => hRange (rounded_lt_reach_iff.mpr hLess))

end MarkupRules.Number
