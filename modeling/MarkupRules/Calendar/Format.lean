import MarkupRules.Calendar.Scan

/-!
Formats of dates.

A format is a list of items that are read one after the other and have to consume the
whole text. Blanks are taken lightly: a blank in a format stands for any number of them,
also for none, and a number may have blanks in front.
-/
namespace MarkupRules.Calendar

/-- One part of a format. -/
inductive Item where
  | literal (c : Char)
  | blank
  /-- A year with a sign, or one of at most four digits without. -/
  | year
  /-- A year by its last two digits; those below 70 are in this century. -/
  | shortYear
  | month
  | day
  /-- A month by its first three letters. -/
  | shortMonthName
  /-- A month by its first three letters or its whole name. -/
  | monthName
  | hour
  | minute
  | second
  /-- A fraction of a second, which may be missing. -/
  | fraction
  deriving Repr, DecidableEq

/-- A year with or without a sign. -/
def year? (cs : List Char) : Option (Int × List Char) :=
  match sign? cs with
  | some (negative, rest) =>
    (number? 1 rest.length rest).map fun (n, rest) =>
      (if negative then -(n : Int) else n, rest)
  | none => (number? 1 4 cs).map fun (n, rest) => ((n : Int), rest)

/-- Reads one item and notes what it says. -/
def Item.read? (item : Item) (m : Moment) (cs : List Char) : Option (Moment × List Char) :=
  let number (note : Nat → Moment) : Option (Moment × List Char) :=
    (number? 1 2 (Text.trimStart cs)).map fun (n, rest) => (note n, rest)
  match item with
  | .literal c => (after? c cs).map (m, ·)
  | .blank => some (m, Text.trimStart cs)
  | .year => (year? (Text.trimStart cs)).map fun (y, rest) => ({ m with year := y }, rest)
  | .shortYear => number fun n => { m with year := if n < 70 then 2000 + n else 1900 + n }
  | .month => number fun n => { m with month := n }
  | .day => number fun n => { m with day := n }
  | .shortMonthName => (shortMonth? cs).map fun (n, rest) => ({ m with month := n }, rest)
  | .monthName => (month? cs).map fun (n, rest) => ({ m with month := n }, rest)
  | .hour => number fun n => { m with hour := n }
  | .minute => number fun n => { m with minute := n }
  | .second => number fun n => { m with second := n }
  | .fraction => (fraction? cs).map (m, ·)

/-- Reads items in order. -/
def readItems? : List Item → Moment → List Char → Option (Moment × List Char)
  | [], m, cs => some (m, cs)
  | item :: items, m, cs => (item.read? m cs).bind fun (m, rest) => readItems? items m rest

/-- Whether a text has the format and names a moment that exists. -/
def hasFormat (format : List Item) (cs : List Char) : Bool :=
  match readItems? format {} cs with
  | some (m, []) => m.exists
  | _ => false

/-- Three items with a separator between them. -/
def separated (sep : List Item) (a b c : Item) : List Item := [a] ++ sep ++ [b] ++ sep ++ [c]

/-- The formats of days. -/
def dayFormats : List (List Item) :=
  [separated [.literal '-'] .year .month .day,
    separated [.literal '/'] .year .month .day,
    separated [.literal '/'] .month .day .year,
    separated [.blank] .day .shortMonthName .year,
    separated [.blank] .day .shortMonthName .shortYear,
    separated [.blank] .shortMonthName .day .year,
    [.shortMonthName, .blank, .day, .literal ',', .blank, .year],
    separated [.blank] .day .monthName .year,
    separated [.blank] .monthName .day .year,
    [.monthName, .blank, .day, .literal ',', .blank, .year]]

/-- The formats of days with a time. -/
def momentFormats : List (List Item) :=
  let day := separated [.literal '-'] .year .month .day
  let toMinute : List Item := [.hour, .literal ':', .minute]
  let toSecond : List Item := toMinute ++ [.literal ':', .second, .fraction]
  [day ++ [.literal 'T'] ++ toSecond, day ++ [.blank] ++ toSecond,
    day ++ [.literal 'T'] ++ toMinute, day ++ [.blank] ++ toMinute]

end MarkupRules.Calendar
