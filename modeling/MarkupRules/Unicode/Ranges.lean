/-!
Tables of code points.

A table is written as text, because a table of the standard has hundreds of rows:
`CodeRanges` lists the ranges of a property (`41-5A 61-7A AA`), `CodeLabels` cuts the
code space into runs of one label (`0=Cc 20=Zs 21=Po`). Both are kept in ascending
order and looked up by bisection.
-/
namespace MarkupRules.Unicode

/-- The value of one hexadecimal digit. -/
def hexDigit? (c : Char) : Option Nat :=
  if '0' ≤ c && c ≤ '9' then some (c.toNat - '0'.toNat)
  else if 'A' ≤ c && c ≤ 'F' then some (c.toNat - 'A'.toNat + 10)
  else if 'a' ≤ c && c ≤ 'f' then some (c.toNat - 'a'.toNat + 10)
  else none

/-- The number that hexadecimal digits denote; other characters are passed over. -/
def hexNumber (cs : List Char) : Nat :=
  cs.foldl (fun n c => (hexDigit? c).elim n (n * 16 + ·)) 0

/-- Cuts `cs` before the first `sep`, which is dropped. -/
def cutAt (sep : Char) (cs : List Char) : List Char × List Char :=
  (cs.takeWhile (· != sep), (cs.dropWhile (· != sep)).drop 1)

/-- The words of a table's text, which may run over several lines. -/
def tableWords (text : String) : List (List Char) :=
  (((text.splitOn "\n").flatMap (·.splitOn " ")).map String.toList).filter (!·.isEmpty)

/-- The number of entries among the `hi` first ones that are at most `n`, if the entries
before `lo` are known to be and those from `hi` on are known not to be. -/
def countAtMost (starts : Array Nat) (n lo hi : Nat) : Nat :=
  if _h : lo < hi then
    let mid := (lo + hi) / 2
    if starts.getD mid 0 ≤ n then countAtMost starts n (mid + 1) hi
    else countAtMost starts n lo mid
  else lo
termination_by hi - lo

/-- Disjoint ranges of code points in ascending order. -/
structure CodeRanges where
  /-- The first code point of each range. -/
  starts : Array Nat
  /-- The last code point of each range. -/
  stops : Array Nat

/-- Reads a table such as `41-5A AA`. -/
def CodeRanges.ofText (text : String) : CodeRanges :=
  let bounds := (tableWords text).map fun word =>
    match cutAt '-' word with
    | (lo, []) => (hexNumber lo, hexNumber lo)
    | (lo, hi) => (hexNumber lo, hexNumber hi)
  ⟨(bounds.map Prod.fst).toArray, (bounds.map Prod.snd).toArray⟩

/-- Whether a range holds the code point. -/
def CodeRanges.contains (r : CodeRanges) (c : Char) : Bool :=
  match countAtMost r.starts c.toNat 0 r.starts.size with
  | 0 => false
  | k + 1 => c.toNat ≤ r.stops.getD k 0

/-- A cut of the code space into runs that carry one label each. -/
structure CodeLabels where
  /-- The first code point of each run. -/
  starts : Array Nat
  /-- The label of each run. -/
  labels : Array String

/-- Reads a table such as `0=Cc 20=Zs`. -/
def CodeLabels.ofText (text : String) : CodeLabels :=
  let rows := (tableWords text).map fun word =>
    let (start, label) := cutAt '=' word
    (hexNumber start, String.ofList label)
  ⟨(rows.map Prod.fst).toArray, (rows.map Prod.snd).toArray⟩

/-- The label of the run that holds the code point. -/
def CodeLabels.label (t : CodeLabels) (c : Char) : String :=
  match countAtMost t.starts c.toNat 0 t.starts.size with
  | 0 => ""
  | k + 1 => t.labels.getD k ""

end MarkupRules.Unicode
