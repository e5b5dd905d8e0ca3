/-!
Finite double-precision numbers, exactly.

Every finite double is a whole number of the finest step 2^-1074. A `Double` keeps that
number and the sign, so sums, products and comparisons are those of natural numbers and
each rounding is one explicit division. A result beyond the finite range is no `Double`.
-/
namespace MarkupRules.Number

/-- The number of finest steps in one. -/
def stepsInOne : Nat := Nat.pow 2 1074

/-- `num / den` to the nearest natural number, a tie to the even one. -/
def divRoundEven (num den : Nat) : Nat :=
  let q := num / den
  let r := num % den
  if 2 * r < den then q
  else if den < 2 * r then q + 1
  else q + q % 2

/-- A finite double. -/
structure Double where
  /-- The sign, which zero has too. -/
  negative : Bool
  /-- The magnitude as a number of steps of 2^-1074. -/
  steps : Nat
  deriving Repr, DecidableEq

namespace Double

/-- Zero with a sign. -/
def zero (negative : Bool) : Double := ⟨negative, 0⟩

/-- The step, as a power of two finest steps, between the doubles of this magnitude. -/
def shiftOf (steps : Nat) : Nat := Nat.log2 steps - 52

/-- The double nearest to `num / den`, a tie to the even one; none if that is beyond the finite
range. Of the magnitude, 53 significant bits are kept, or fewer where the finest step ends. -/
def ofRatio? (negative : Bool) (num den : Nat) : Option Double :=
  let whole := num * stepsInOne / den
  let unit := Nat.pow 2 (shiftOf whole)
  let steps := divRoundEven (num * stepsInOne) (den * unit) * unit
  if steps < Nat.pow 2 1024 * stepsInOne then some ⟨negative, steps⟩ else none

/-- The double nearest to a natural number. -/
def ofNat? (n : Nat) : Option Double := ofRatio? false n 1

/-- The value as a signed number of finest steps; both zeros have the value 0. -/
def signedSteps (x : Double) : Int := if x.negative then -(x.steps : Int) else x.steps

/-- The order of the values. -/
def le (x y : Double) : Bool := decide (x.signedSteps ≤ y.signedSteps)

/-- Whether the value is at least zero; both zeros are. -/
def isNonnegative (x : Double) : Bool := decide (0 ≤ x.signedSteps)

/-- Whether the value is a whole number. -/
def isIntegral (x : Double) : Bool := x.steps % stepsInOne == 0

/-- The whole part, with the sign. -/
def truncate (x : Double) : Int :=
  let n : Int := (x.steps / stepsInOne : Nat)
  if x.negative then -n else n

/-- The product, rounded. -/
def mul? (x y : Double) : Option Double :=
  ofRatio? (x.negative != y.negative) (x.steps * y.steps) (stepsInOne * stepsInOne)

/-- The quotient, rounded; the divisor is taken to be positive. -/
def div? (x y : Double) : Option Double :=
  ofRatio? (x.negative != y.negative) x.steps y.steps

/-- Writes one more digit behind a numeral: `radix · x + digit`, rounded. The product alone is
exact where the radix is a power of two. -/
def pushDigit? (radix : Nat) (x : Double) (digit : Nat) : Option Double :=
  ofRatio? false (x.steps * radix + digit * stepsInOne) stepsInOne

/-- The whole number that the value is, if it is one of magnitude below 2^53. -/
def smallInt? (x : Double) : Option Int :=
  if x.isIntegral && decide (x.steps < Nat.pow 2 53 * stepsInOne) then some x.truncate else none

end Double

end MarkupRules.Number
