import MarkupRules.Number.Shortest

/-!
Laying out the digits of a number.

A `Layout` collects the decisions of one format: which magnitudes are written
positionally, whether a whole number keeps a point, and how a tie goes.
-/
namespace MarkupRules.Number

/-- The decisions of a number format. -/
structure Layout where
  /-- The least and the greatest exponent of the leading digit that are written positionally;
  `none` if all are. -/
  positional : Option (Int × Int)
  /-- Whether a whole number written positionally ends in `.0`. -/
  keepsPoint : Bool
  /-- Which of two equally near decimals is taken. -/
  tie : Tie

namespace Layout

/-- Plain positional text: no exponent, no point behind a whole number. -/
def plain : Layout := ⟨none, false, .up⟩

/-- The digits with the point at its place. -/
def positionalText (keepsPoint : Bool) (d : Decimal) : List Char :=
  let digits := decimalDigits d.digits
  if 0 ≤ d.scale then
    digits ++ List.replicate d.scale.toNat '0' ++ (if keepsPoint then ['.', '0'] else [])
  else
    let places := (-d.scale).toNat
    if places < digits.length then
      digits.take (digits.length - places) ++ '.' :: digits.drop (digits.length - places)
    else
      ['0', '.'] ++ List.replicate (places - digits.length) '0' ++ digits

/-- One digit before the point and an exponent with its sign. -/
def exponentText (d : Decimal) (lead : Int) : List Char :=
  let mantissa := match decimalDigits d.digits with
    | [] => []
    | [digit] => [digit]
    | digit :: digits => digit :: '.' :: digits
  mantissa ++ ['e', if lead < 0 then '-' else '+'] ++ decimalDigits lead.natAbs

/-- The magnitude with this many finest steps. -/
def magnitude (layout : Layout) (steps : Nat) : List Char :=
  let d := shortest layout.tie steps
  let lead := (digitCount d.digits : Int) - 1 + d.scale
  match layout.positional with
  | none => positionalText layout.keepsPoint d
  | some (least, greatest) =>
    if least ≤ lead && lead ≤ greatest then positionalText layout.keepsPoint d
    else exponentText d lead

/-- The text of a double. -/
def text (layout : Layout) (x : Double) : String :=
  String.ofList ((if x.negative then ['-'] else []) ++ layout.magnitude x.steps)

end Layout

end MarkupRules.Number
