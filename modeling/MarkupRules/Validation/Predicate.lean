import MarkupRules.Number.Double

/-!
The questions that constraints ask about one value, and the comparison of the keys of data with
those that rules declare.
-/
namespace MarkupRules.Validation

namespace Predicate

/-- The length of a text in characters. -/
def charCount (s : String) : Nat := s.toList.length

/-- Whether a text has at least `expected` characters. -/
def minLength (expected : Nat) (actual : String) : Bool := decide (expected ≤ charCount actual)

/-- Whether a text has at most `expected` characters. -/
def maxLength (expected : Nat) (actual : String) : Bool := decide (charCount actual ≤ expected)

/-- Whether a text has exactly `expected` characters. -/
def length (expected : Nat) (actual : String) : Bool := charCount actual == expected

/-- Whether a text is the expected one. -/
def fixed (expected actual : String) : Bool := actual == expected

/-- The texts between commas. -/
def commaSeparated : List Char → List (List Char)
  | [] => [[]]
  | ',' :: rest => [] :: commaSeparated rest
  | c :: rest =>
    match commaSeparated rest with
    | [] => [[c]]
    | entry :: entries => (c :: entry) :: entries

/-- Whether a text is one of those between the commas of a list. -/
def oneOf (list actual : String) : Bool := (commaSeparated list.toList).contains actual.toList

/-- Whether a number is at least `expected`. -/
def min (expected actual : Number.Double) : Bool := expected.le actual

/-- Whether a number is at most `expected`. -/
def max (expected actual : Number.Double) : Bool := actual.le expected

/-- Whether a tag comes at least `expected` times. -/
def minOccurs (expected count : Nat) : Bool := decide (expected ≤ count)

/-- Whether a tag comes at most `expected` times. -/
def maxOccurs (expected count : Nat) : Bool := decide (count ≤ expected)

end Predicate

/-- Keys by the side that has them. -/
structure KeyPartition where
  /-- The keys that only the data has, in the order of the data. -/
  data : List String
  /-- The keys that only the rules have, in the order of the rules. -/
  rules : List String
  /-- The keys of both, in the order of the data. -/
  common : List String
  deriving Repr, DecidableEq

/-- Divides keys. -/
def KeyPartition.ofKeys (data rules : List String) : KeyPartition where
  data := data.filter fun key => !rules.contains key
  rules := rules.filter fun key => !data.contains key
  common := data.filter rules.contains

end MarkupRules.Validation
