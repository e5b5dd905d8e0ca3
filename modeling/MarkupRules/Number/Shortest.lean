import MarkupRules.Number.Double

/-!
The shortest decimal of a double.

A decimal reads back as a double when it lies in the interval of the reals that round to
it. `shortest` looks for one with one digit, then with two, and so on. On the grid of the
decimals with `n` digits only the two neighbours of the value need a look: if any point
of the grid lies in the interval, so does one of them. Seventeen digits always do.
-/
namespace MarkupRules.Number

/-- The decimal `digits · 10^scale`. -/
structure Decimal where
  digits : Nat
  scale : Int
  deriving Repr, DecidableEq

/-- What to do when two decimals are equally near. -/
inductive Tie where
  | up
  | toEven
  deriving Repr, DecidableEq

/-- The digits of a number in base ten, highest first. -/
def decimalDigits (n : Nat) : List Char := Nat.toDigits 10 n

/-- How many digits a number has. -/
def digitCount (n : Nat) : Nat := (decimalDigits n).length

/-- Moves up to `fuel` trailing zeros from the digits to the scale. -/
def Decimal.strip : Nat → Decimal → Decimal
  | 0, d => d
  | fuel + 1, d =>
    if d.digits % 10 = 0 then Decimal.strip fuel ⟨d.digits / 10, d.scale + 1⟩ else d

/-- The exponent of the leading digit of a positive double: the `e` with
`10^e ≤ value < 10^(e+1)`. -/
def leadingExponent (steps : Nat) : Int :=
  if stepsInOne ≤ steps then (digitCount (steps / stepsInOne) : Int) - 1
  else -(digitCount ((stepsInOne + steps - 1) / steps - 1) : Int)

/-- The interval that rounds to a double, in quarters of the finest step: its ends, and whether
they belong to it. -/
structure RoundingInterval where
  low : Nat
  high : Nat
  closed : Bool

/-- The interval of the double with this magnitude. Its lower half is narrower at a power of two,
where the doubles below lie closer, unless the step is the finest already. -/
def roundingInterval (steps : Nat) : RoundingInterval :=
  let unit := Nat.pow 2 (Double.shiftOf steps)
  let mantissa := steps / unit
  let below := if mantissa = Nat.pow 2 52 && decide (1 < unit) then unit else 2 * unit
  ⟨4 * steps - below, 4 * steps + 2 * unit, mantissa % 2 == 0⟩

/-- The power of ten that a nonnegative exponent asks for, else one. -/
def tenTo (e : Int) : Nat := Nat.pow 10 e.toNat

/-- Whether `digits · 10^scale` lies in the interval. -/
def RoundingInterval.holds (i : RoundingInterval) (d : Decimal) : Bool :=
  let point := d.digits * tenTo d.scale * (4 * stepsInOne)
  let low := i.low * tenTo (-d.scale)
  let high := i.high * tenTo (-d.scale)
  if i.closed then decide (low ≤ point) && decide (point ≤ high)
  else decide (low < point) && decide (point < high)

/-- The better of the two neighbours with this scale, if one rounds to the double. -/
def neighbour? (tie : Tie) (steps : Nat) (scale : Int) : Option Decimal :=
  let interval := roundingInterval steps
  let value := steps * tenTo (-scale)
  let grid := tenTo scale * stepsInOne
  let below : Decimal := ⟨value / grid, scale⟩
  let above : Decimal := ⟨value / grid + 1, scale⟩
  match interval.holds below, interval.holds above with
  | false, false => none
  | true, false => some below
  | false, true => some above
  | true, true =>
    let middle := (2 * below.digits + 1) * grid
    if 2 * value < middle then some below
    else if middle < 2 * value then some above
    else match tie with
      | .up => some above
      | .toEven => some (if below.digits % 2 = 0 then below else above)

/-- Tries decimals with `n` digits, then with more, for `fuel` lengths. -/
def shortestFrom (tie : Tie) (steps : Nat) (lead : Int) : Nat → Nat → Decimal
  | 0, _ => ⟨steps / stepsInOne, 0⟩
  | fuel + 1, n =>
    match neighbour? tie steps (lead + 1 - n) with
    | some d => d
    | none => shortestFrom tie steps lead fuel (n + 1)

/-- The decimal with the fewest digits that reads back as the double of this magnitude, and the
nearest of those. -/
def shortest (tie : Tie) (steps : Nat) : Decimal :=
  if steps = 0 then ⟨0, 0⟩
  else (shortestFrom tie steps (leadingExponent steps) 17 1).strip 17

end MarkupRules.Number
