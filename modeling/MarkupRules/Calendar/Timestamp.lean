import MarkupRules.Calendar.Format
import MarkupRules.Calendar.MailDate

/-!
Timestamps, and which texts are dates at all.

A timestamp is a moment of fixed width with an offset from universal time, such as
`2021-09-21T10:15:00.5+02:00`. Besides it the dates of mail and those in one of the known formats
count as dates.
-/
namespace MarkupRules.Calendar

namespace Timestamp

/-- What stands between the day and the time. -/
def afterSeparator? : List Char → Option (List Char)
  | [] => none
  | c :: rest => if c == 'T' || c == 't' || c == ' ' then some rest else none

/-- The sign of an offset, for which the typographic minus counts too. -/
def offsetSign? : List Char → Option (Bool × List Char)
  | '\u2212' :: rest => some (true, rest)
  | cs => sign? cs

/-- An offset in hours and minutes, or `Z`. -/
def offset? (cs : List Char) : Option (Int × List Char) :=
  match cs with
  | 'Z' :: rest | 'z' :: rest => some (0, rest)
  | cs => do
    let (negative, rest) ← offsetSign? cs
    let (hours, rest) ← number? 2 2 rest
    let rest ← after? ':' rest
    let (minutes, rest) ← number? 2 2 rest
    if minutes < 60 then some (signedSeconds negative hours minutes, rest) else none

/-- A timestamp at the front of a text. -/
def moment? (cs : List Char) : Option ((Moment × Int) × List Char) := do
  let (year, rest) ← number? 4 4 cs
  let rest ← after? '-' rest
  let (month, rest) ← number? 2 2 rest
  let rest ← after? '-' rest
  let (day, rest) ← number? 2 2 rest
  let rest ← afterSeparator? rest
  let (hour, rest) ← number? 2 2 rest
  let rest ← after? ':' rest
  let (minute, rest) ← number? 2 2 rest
  let rest ← after? ':' rest
  let (second, rest) ← number? 2 2 rest
  let rest ← fraction? rest
  let (offset, rest) ← offset? rest
  some (({ year, month, day, hour, minute, second }, offset), rest)

/-- Whether a text is a timestamp of an instant that exists. -/
def isTimestamp (cs : List Char) : Bool :=
  match moment? cs with
  | some ((m, offset), []) => isOffset offset && m.existsAt offset
  | _ => false

end Timestamp

/-- Whether a text, blanks around it aside, is a date in one of the known formats. -/
def isDate (s : String) : Bool :=
  let cs := Text.trim s.toList
  !cs.isEmpty &&
    (Timestamp.isTimestamp cs || MailDate.isMailDate cs || dayFormats.any (hasFormat · cs) ||
      momentFormats.any (hasFormat · cs))

end MarkupRules.Calendar
