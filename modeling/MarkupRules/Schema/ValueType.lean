import MarkupRules.Number.Double

/-!
Types of values.
-/
namespace MarkupRules.Schema

/-- What the text of a tag has to be. -/
inductive ValueType where
  | string
  /-- No text of its own, but tags. -/
  | map
  | date
  | boolean
  | positiveInteger
  | integer
  | positiveDecimal
  | decimal
  | number
  deriving Repr, DecidableEq

namespace ValueType

/-- All types, in the order in which they are listed. -/
def all : List ValueType :=
  [string, map, date, boolean, positiveInteger, integer, positiveDecimal, decimal, number]

/-- The name of a type in a schema. -/
def name : ValueType → String
  | string => "string"
  | map => "map"
  | date => "date"
  | boolean => "boolean"
  | positiveInteger => "positiveInteger"
  | integer => "integer"
  | positiveDecimal => "positiveDecimal"
  | decimal => "decimal"
  | number => "number"

/-- The type with a name. -/
def ofName? (name : String) : Option ValueType := all.find? (·.name == name)

/-- Whether the texts of a type are numbers. -/
def isNumeric : ValueType → Bool
  | positiveInteger | integer | positiveDecimal | decimal | number => true
  | string | map | date | boolean => false

/-- Whether a type asks for whole numbers. -/
def wantsWhole : ValueType → Bool
  | positiveInteger | integer => true
  | _ => false

/-- Whether a type excludes negative numbers. -/
def wantsNonnegative : ValueType → Bool
  | positiveInteger | positiveDecimal => true
  | _ => false

/-- Whether a number is of a numeric type. -/
def acceptsNumber (t : ValueType) (x : Number.Double) : Bool :=
  (!t.wantsWhole || x.isIntegral) && (!t.wantsNonnegative || x.isNonnegative)

end ValueType

end MarkupRules.Schema
