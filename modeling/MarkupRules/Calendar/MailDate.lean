import MarkupRules.Calendar.Scan

/-!
Dates of mail headers, such as `Tue, 21 Sep 2021 10:15:00 EDT (a comment)`.
-/
namespace MarkupRules.Calendar.MailDate

/-- A day of the week with a comma behind it, if a day of the week comes first. -/
def weekday? (cs : List Char) : Option (Option Nat × List Char) :=
  match byThreeLetters? weekdayNames cs with
  | some (day, rest) => (after? ',' rest).map (some day, ·)
  | none => some (none, cs)

/-- A year of at least two digits. Two digits are a year from 1950 to 2049, three a year counted
from 1900. -/
def year? (cs : List Char) : Option (Int × List Char) :=
  (number? 2 cs.length cs).map fun (n, rest) =>
    let width := cs.length - rest.length
    let base := if width = 2 then (if n < 50 then 2000 else 1900) else if width = 3 then 1900 else 0
    (((base + n : Nat) : Int), rest)

/-- The seconds, if a colon announces them. -/
def second? (cs : List Char) : Option (Nat × List Char) :=
  match after? ':' (Text.trimStart cs) with
  | some rest => number? 2 2 rest
  | none => some (0, cs)

/-- The hours of the zones with a name. -/
def zoneHours : List (String × Int) :=
  [("gmt", 0), ("ut", 0), ("z", 0), ("edt", -4), ("est", -5), ("cdt", -5), ("cst", -6),
    ("mdt", -6), ("mst", -7), ("pdt", -7), ("pst", -8)]

/-- The offset of a zone with a name; a single letter but J says nothing about the offset. -/
def zone? (name : List Char) : Option Int :=
  let lower := name.map Char.toLower
  match zoneHours.lookup (String.ofList lower) with
  | some hours => some (hours * 3600)
  | none => if lower.length = 1 && lower != ['j'] then some 0 else none

/-- An offset: the name of a zone, or a sign with two digits for the hours and two for the
minutes. -/
def offset? (cs : List Char) : Option (Int × List Char) :=
  let name := cs.takeWhile Char.isAlpha
  if !name.isEmpty then (zone? name).map (·, cs.drop name.length)
  else do
    let (negative, rest) ← sign? cs
    let (hours, rest) ← number? 2 2 rest
    let (minutes, rest) ← number? 2 2 rest
    if minutes < 60 then some (signedSeconds negative hours minutes, rest) else none

/-- What follows a comment that is open `depth + 1` times; a backslash takes the next character
out of the count. -/
def commentTail? : Nat → List Char → Option (List Char)
  | _, [] => none
  | _, ['\\'] => none
  | depth, '\\' :: _ :: rest => commentTail? depth rest
  | 0, ')' :: rest => some rest
  | depth + 1, ')' :: rest => commentTail? depth rest
  | depth, '(' :: rest => commentTail? (depth + 1) rest
  | depth, _ :: rest => commentTail? depth rest

/-- Whether the rest of a text is comments with blanks in front; `fuel` bounds their number. -/
def isComments : Nat → List Char → Bool
  | _, [] => true
  | 0, _ => false
  | fuel + 1, cs =>
    match Text.trimStart cs with
    | '(' :: rest => (commentTail? 0 rest).elim false (isComments fuel)
    | _ => false

/-- A date without its comments: the moment, its offset and its day of the week. -/
def moment? (cs : List Char) : Option ((Moment × Int × Option Nat) × List Char) := do
  let (weekday, rest) ← weekday? (Text.trimStart cs)
  let (day, rest) ← number? 1 2 (Text.trimStart rest)
  let rest ← afterBlanks? rest
  let (month, rest) ← shortMonth? rest
  let rest ← afterBlanks? rest
  let (year, rest) ← year? rest
  let rest ← afterBlanks? rest
  let (hour, rest) ← number? 2 2 rest
  let rest ← after? ':' (Text.trimStart rest)
  let (minute, rest) ← number? 2 2 (Text.trimStart rest)
  let (second, rest) ← second? rest
  let rest ← afterBlanks? rest
  let (offset, rest) ← offset? rest
  some (({ year, month, day, hour, minute, second }, offset, weekday), rest)

/-- Whether a text is the date of an instant that exists; a day of the week has to be the right
one. -/
def isMailDate (cs : List Char) : Bool :=
  match moment? cs with
  | some ((m, offset, weekday), rest) =>
    isComments cs.length rest && isOffset offset && m.existsAt offset &&
      weekday.all (· == Calendar.weekday m.year m.month m.day)
  | none => false

end MarkupRules.Calendar.MailDate
