import MarkupRules.Number.Double
import MarkupRules.Text.Blank

/-!
Number literals.

A literal is a decimal numeral with an optional sign, fraction and exponent, or an
unsigned whole number after `0x`, `0o` or `0b`. It denotes the nearest double; a literal
beyond the finite range denotes none.
-/
namespace MarkupRules.Number

/-- The value of a digit in the given radix, at most sixteen. -/
def digitValue? (radix : Nat) (c : Char) : Option Nat :=
  let value :=
    if '0' ≤ c && c ≤ '9' then some (c.toNat - '0'.toNat)
    else if 'a' ≤ c && c ≤ 'f' then some (c.toNat - 'a'.toNat + 10)
    else if 'A' ≤ c && c ≤ 'F' then some (c.toNat - 'A'.toNat + 10)
    else none
  value.filter (decide <| · < radix)

/-- The number that decimal digits denote. -/
def digitsValue (digits : List Char) : Nat :=
  digits.foldl (fun n c => n * 10 + (c.toNat - '0'.toNat)) 0

/-- An optional sign; `true` for minus. -/
def takeSign : List Char → Bool × List Char
  | '-' :: rest => (true, rest)
  | '+' :: rest => (false, rest)
  | rest => (false, rest)

/-- Cuts off the decimal digits at the start. -/
def spanDigits (cs : List Char) : List Char × List Char :=
  (cs.takeWhile Char.isDigit, cs.dropWhile Char.isDigit)

/-- An exponent that fills the rest of a literal; an empty rest is the exponent 0. -/
def exponent? : List Char → Option Int
  | [] => some 0
  | c :: rest =>
    if c == 'e' || c == 'E' then
      let (negative, rest) := takeSign rest
      let (digits, rest) := spanDigits rest
      if digits.isEmpty || !rest.isEmpty then none
      else
        let n : Int := digitsValue digits
        some (if negative then -n else n)
    else none

/-- The double nearest to `±digits · 10^scale`. Beyond 400 powers of ten either way the answer is
known without the powers. -/
def ofScientific? (negative : Bool) (digits : Nat) (scale : Int) : Option Double :=
  let lead := (Nat.toDigits 10 digits).length + scale
  if digits = 0 || lead < -400 then some (.zero negative)
  else if 400 < lead then none
  else Double.ofRatio? negative (digits * Nat.pow 10 scale.toNat) (Nat.pow 10 (-scale).toNat)

/-- A decimal literal. Digits may be missing before the point or behind it, but not both. -/
def decimal? (cs : List Char) : Option Double :=
  let (negative, rest) := takeSign cs
  let (whole, rest) := spanDigits rest
  let (fraction, rest) := match rest with
    | '.' :: rest => spanDigits rest
    | rest => ([], rest)
  if whole.isEmpty && fraction.isEmpty then none
  else (exponent? rest).bind fun e =>
    ofScientific? negative (digitsValue (whole ++ fraction)) (e - fraction.length)

/-- The radix that a literal announces, and the digits behind the announcement. -/
def radixDigits? : List Char → Option (Nat × List Char)
  | '0' :: c :: digits =>
    if c == 'x' || c == 'X' then some (16, digits)
    else if c == 'o' || c == 'O' then some (8, digits)
    else if c == 'b' || c == 'B' then some (2, digits)
    else none
  | _ => none

/-- A whole number read digit by digit, rounded after each. -/
def inRadix? (radix : Nat) (digits : List Char) : Option Double :=
  if digits.isEmpty then none
  else digits.foldlM (fun x c => (digitValue? radix c).bind (x.pushDigit? radix)) (.zero false)

/-- The double that a text denotes, blanks around it aside. -/
def read? (s : String) : Option Double :=
  let cs := Text.trim s.toList
  match radixDigits? cs with
  | some (radix, digits) => inRadix? radix digits
  | none => decimal? cs

end MarkupRules.Number
