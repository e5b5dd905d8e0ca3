import MarkupRules.Json.Basic
import MarkupRules.Number.Literal

/-!
Reading JSON values.

`value?` reads one value from the front of a text and returns what follows it. A value
that nobody asked for is read with `Care.skipped`: its shape has to be right, but its
numbers may be out of range, its escapes may be half of a pair, and it may nest at will.
-/
namespace MarkupRules.Json

/-- How closely a value is looked at. -/
inductive Care where
  /-- The value is wanted: it has to be representable. -/
  | checked
  /-- The value is passed over: only its grammar counts. -/
  | skipped
  deriving DecidableEq

/-- The blanks between tokens. -/
def isSpace (c : Char) : Bool := c == ' ' || c == '\n' || c == '\t' || c == '\r'

/-- Drops the blanks at the front. -/
def dropSpace (cs : List Char) : List Char := cs.dropWhile isSpace

/-- A numeral by its parts. -/
structure Numeral where
  negative : Bool
  whole : List Char
  fraction : List Char
  /-- The exponent, and whether there is one. -/
  exponent : Option Int

/-- The digits behind a point; without a point there are none. -/
def fraction? : List Char → Option (List Char × List Char)
  | '.' :: rest =>
    let (digits, rest) := Number.spanDigits rest
    if digits.isEmpty then none else some (digits, rest)
  | rest => some ([], rest)

/-- An exponent, if one follows. -/
def exponent? : List Char → Option (Option Int × List Char)
  | [] => some (none, [])
  | c :: rest =>
    if c == 'e' || c == 'E' then
      let (negative, rest) := Number.takeSign rest
      let (digits, rest) := Number.spanDigits rest
      let n : Int := Number.digitsValue digits
      if digits.isEmpty then none else some (some (if negative then -n else n), rest)
    else some (none, c :: rest)

/-- A numeral at the front of a text. Its whole part has no needless zero in front. -/
def numeral? (cs : List Char) : Option (Numeral × List Char) := do
  let (negative, rest) := match cs with
    | '-' :: rest => (true, rest)
    | rest => (false, rest)
  let (whole, rest) := Number.spanDigits rest
  if whole.isEmpty || (whole.head? == some '0' && whole.length != 1) then none
  else
    let (fraction, rest) ← fraction? rest
    let (exponent, rest) ← exponent? rest
    some (⟨negative, whole, fraction, exponent⟩, rest)

/-- Appends digits to a significand as long as it stays below 2^64; also returns how many digits
were taken. -/
def absorb (significand : Nat) : List Char → Nat × Nat
  | [] => (significand, 0)
  | c :: rest =>
    let next := significand * 10 + (c.toNat - '0'.toNat)
    if next < Nat.pow 2 64 then
      let (all, taken) := absorb next rest
      (all, taken + 1)
    else (significand, 0)

/-- The double nearest to a power of ten, if there is one. -/
def powerOfTen? (n : Nat) : Option Number.Double := Number.Double.ofNat? (Nat.pow 10 n)

/-- `x · 10^e` by one multiplication or division with a rounded power of ten. The table of powers
ends at 308; below it a first division by 10^308 brings the exponent nearer, and nothing is
left of a significand that needs two of them. -/
def scale? (x : Number.Double) (e : Int) : Option Number.Double :=
  if x.steps = 0 then some x
  else if 0 ≤ e then
    if e ≤ 308 then (powerOfTen? e.toNat).bind x.mul? else none
  else if -308 ≤ e then (powerOfTen? (-e).toNat).bind x.div?
  else do
    let y ← (powerOfTen? 308).bind x.div?
    if -616 ≤ e then (powerOfTen? (-e - 308).toNat).bind y.div? else some (.zero false)

/-- The value of a numeral. A whole number of 64 bits stays one, apart from a zero with a sign;
all else becomes a double by one step of scaling. -/
def Numeral.value? (n : Numeral) : Option Json :=
  let (significand, taken) := absorb 0 n.whole
  let dropped := n.whole.length - taken
  let negate (x : Number.Double) : Json := .double ⟨n.negative, x.steps⟩
  if n.fraction.isEmpty && n.exponent.isNone && dropped == 0 then
    if !n.negative then some (.integer significand)
    else if 0 < significand && significand ≤ Nat.pow 2 63 then
      some (.integer (-(significand : Int)))
    else (Number.Double.ofNat? significand).map negate
  else
    let (significand, taken) := absorb significand n.fraction
    ((Number.Double.ofNat? significand).bind
      (scale? · ((dropped : Int) - taken + n.exponent.getD 0))).map negate

/-- A number at the front of a text. -/
def number? (care : Care) (cs : List Char) : Option (Json × List Char) := do
  let (numeral, rest) ← numeral? cs
  match care with
  | .checked => (numeral.value?).map (·, rest)
  | .skipped => some (.null, rest)

/-- The number that four hexadecimal digits denote. -/
def unit? (digits : List Char) : Option Nat :=
  digits.foldlM (fun n c => (Number.digitValue? 16 c).map (n * 16 + ·)) 0

/-- The character of an escape with one letter. -/
def escaped? : Char → Option Char
  | '"' => some '"'
  | '\\' => some '\\'
  | '/' => some '/'
  | 'b' => some '\x08'
  | 'f' => some '\x0c'
  | 'n' => some '\n'
  | 'r' => some '\r'
  | 't' => some '\t'
  | _ => none

/-- Holds of the first halves of the pairs that stand for characters above U+FFFF. -/
def isHighHalf (n : Nat) : Bool := 0xD800 ≤ n && n < 0xDC00

/-- Holds of the second halves. -/
def isLowHalf (n : Nat) : Bool := 0xDC00 ≤ n && n < 0xE000

/-- The character of a pair of halves. -/
def pairChar (high low : Nat) : Char :=
  Char.ofNat (0x10000 + (high - 0xD800) * 0x400 + (low - 0xDC00))

/-- The rest of a string behind its opening quote; `done` holds its characters so far, last
first. -/
def stringTail? (care : Care) (done : List Char) : List Char → Option (List Char × List Char)
  | [] => none
  | '"' :: rest => some (done.reverse, rest)
  | '\\' :: 'u' :: a :: b :: c :: d :: rest =>
    match unit? [a, b, c, d] with
    | none => none
    | some n =>
      if care = .skipped then stringTail? care done rest
      else if isHighHalf n then
        match rest with
        | '\\' :: 'u' :: e :: f :: g :: h :: rest =>
          match unit? [e, f, g, h] with
          | none => none
          | some m =>
            if isLowHalf m then stringTail? care (pairChar n m :: done) rest else none
        | _ => none
      else if isLowHalf n then none
      else stringTail? care (Char.ofNat n :: done) rest
  | '\\' :: c :: rest =>
    match escaped? c with
    | none => none
    | some c => stringTail? care (c :: done) rest
  | c :: rest => if c == '\\' || c < ' ' then none else stringTail? care (c :: done) rest

/-- A string at the front of a text. -/
def string? (care : Care) : List Char → Option (String × List Char)
  | '"' :: rest => (stringTail? care [] rest).map fun (s, rest) => (String.ofList s, rest)
  | _ => none

/-- Drops `word` from the front of a text. -/
def afterWord? (word : String) (cs : List Char) : Option (List Char) :=
  if word.toList.isPrefixOf cs then some (cs.drop word.length) else none

/-- The key of a member and the colon behind it. -/
def key? (care : Care) (cs : List Char) : Option (String × List Char) := do
  let (key, rest) ← string? care (dropSpace cs)
  match dropSpace rest with
  | ':' :: rest => some (key, rest)
  | _ => none

mutual
/-- A value at the front of a text. Containers may nest `depth` deep. -/
def value? (care : Care) (fuel depth : Nat) (cs : List Char) : Option (Json × List Char) :=
  match fuel with
  | 0 => none
  | fuel + 1 =>
    match dropSpace cs with
    | [] => none
    | '"' :: rest => (string? care ('"' :: rest)).map fun (s, rest) => (.string s, rest)
    | '[' :: rest =>
      match depth, dropSpace rest with
      | 0, _ => none
      | _ + 1, ']' :: rest => some (.array [], rest)
      | depth + 1, rest =>
        (items? care fuel depth rest).map fun (items, rest) => (.array items, rest)
    | '\x7b' :: rest =>
      match depth, dropSpace rest with
      | 0, _ => none
      | _ + 1, '\x7d' :: rest => some (.object [], rest)
      | depth + 1, rest =>
        (members? care fuel depth rest).map fun (members, rest) => (ofMembers members, rest)
    | 'n' :: rest => (afterWord? "ull" rest).map (Json.null, ·)
    | 't' :: rest => (afterWord? "rue" rest).map (Json.bool true, ·)
    | 'f' :: rest => (afterWord? "alse" rest).map (Json.bool false, ·)
    | rest => number? care rest

/-- The items of an array up to its closing bracket; there is at least one. -/
def items? (care : Care) (fuel depth : Nat) (cs : List Char) : Option (List Json × List Char) :=
  match fuel with
  | 0 => none
  | fuel + 1 => do
    let (item, rest) ← value? care fuel depth cs
    match dropSpace rest with
    | ']' :: rest => some ([item], rest)
    | ',' :: rest => (items? care fuel depth rest).map fun (items, rest) => (item :: items, rest)
    | _ => none

/-- The members of an object up to its closing brace; there is at least one. -/
def members? (care : Care) (fuel depth : Nat) (cs : List Char) :
    Option (List (String × Json) × List Char) :=
  match fuel with
  | 0 => none
  | fuel + 1 => do
    let (key, rest) ← key? care cs
    let (value, rest) ← value? care fuel depth rest
    match dropSpace rest with
    | '\x7d' :: rest => some ([(key, value)], rest)
    | ',' :: rest =>
      (members? care fuel depth rest).map fun (members, rest) => ((key, value) :: members, rest)
    | _ => none
end

/-- Steps that suffice for a text: every second one consumes a character. -/
def enoughFuel (cs : List Char) : Nat := 2 * cs.length + 2

/-- How deep the containers of a text may nest. -/
def maxNesting : Nat := 127

end MarkupRules.Json
