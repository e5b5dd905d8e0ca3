import MarkupRules.Calendar.Date
import MarkupRules.Number.Literal
import MarkupRules.Text.Blank

/-!
The parts that dates are written with.

Each function here reads one part from the front of a text and returns what it denotes
together with the rest of the text.
-/
namespace MarkupRules.Calendar

/-- A number of `least` to `most` digits. -/
def number? (least most : Nat) (cs : List Char) : Option (Nat × List Char) :=
  let digits := (cs.take most).takeWhile Char.isDigit
  if digits.length < least then none
  else some (Number.digitsValue digits, cs.drop digits.length)

/-- One given character. -/
def after? (c : Char) : List Char → Option (List Char)
  | [] => none
  | d :: rest => if c = d then some rest else none

/-- At least one blank, and all that follow it. -/
def afterBlanks? (cs : List Char) : Option (List Char) :=
  match cs with
  | [] => none
  | c :: rest => if Text.isBlank c then some (Text.trimStart rest) else none

/-- Whether `cs` starts with the lower-case `word` in letters of either case. -/
def startsWithWord (word : String) (cs : List Char) : Bool :=
  (cs.take word.length).map Char.toLower == word.toList

/-- The names of the months. -/
def monthNames : List String :=
  ["january", "february", "march", "april", "may", "june", "july", "august", "september",
    "october", "november", "december"]

/-- The names of the days of the week, by their first three letters. -/
def weekdayNames : List String := ["mon", "tue", "wed", "thu", "fri", "sat", "sun"]

/-- The position of the first name whose first three letters start the text, and what follows
these letters. -/
def byThreeLetters? (names : List String) (cs : List Char) : Option (Nat × List Char) :=
  (names.findIdx? fun name => startsWithWord (String.ofList (name.toList.take 3)) cs).map
    (·, cs.drop 3)

/-- A month by its first three letters. -/
def shortMonth? (cs : List Char) : Option (Nat × List Char) :=
  (byThreeLetters? monthNames cs).map fun (i, rest) => (i + 1, rest)

/-- A month by its first three letters or its whole name. -/
def month? (cs : List Char) : Option (Nat × List Char) :=
  (shortMonth? cs).map fun (month, rest) =>
    let tail := String.ofList ((monthNames.getD (month - 1) "").toList.drop 3)
    (month, if startsWithWord tail rest then rest.drop tail.length else rest)

/-- A point and at least one digit behind it, if there is a point. -/
def fraction? : List Char → Option (List Char)
  | '.' :: rest =>
    if (rest.takeWhile Char.isDigit).isEmpty then none else some (rest.dropWhile Char.isDigit)
  | rest => some rest

/-- A sign; `true` for minus. -/
def sign? : List Char → Option (Bool × List Char)
  | '+' :: rest => some (false, rest)
  | '-' :: rest => some (true, rest)
  | _ => none

/-- A number of seconds with the given sign. -/
def signedSeconds (negative : Bool) (hours minutes : Nat) : Int :=
  let n : Int := hours * 3600 + minutes * 60
  if negative then -n else n

/-- Whether an offset from universal time is less than a day. -/
def isOffset (seconds : Int) : Bool := decide (seconds.natAbs < 86400)

end MarkupRules.Calendar
