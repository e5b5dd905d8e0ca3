import MarkupRules.Json.Printer
import MarkupRules.Text.Quoted

/-!
Failures: the violations that a validation reports.
-/
namespace MarkupRules

/-- One violation of a rule. Which of the optional fields it has depends on its code. -/
structure Failure where
  /-- What is wrong. -/
  code : String
  /-- Where: the tags from the root, with an index behind a repeated one. -/
  path : String
  /-- What a bound was compared with. -/
  actual : Option Json := none
  /-- The bound. -/
  expected : Option Json := none
  /-- The text that does not fit its type. -/
  value : Option String := none
  deriving Repr, BEq

namespace Failure

/-- A required tag is absent. -/
def missing (path : String) : Failure := { code := "missing", path }

/-- A tag is present that the rules do not declare. -/
def unknown (path : String) : Failure := { code := "unknown", path }

/-- A tag repeats that may not. -/
def unexpectedSequence (path : String) : Failure := { code := "unexpected sequence", path }

/-- A text stands where tags are expected. -/
def unexpectedValueInMap (path value : String) : Failure :=
  { code := "unexpected value in a map", path, value := some value }

/-- A text is not of the type that its rule names. -/
def notA (typeName path value : String) : Failure :=
  { code := s!"not a {typeName}", path, value := some value }

/-- A constraint turned a value down. -/
def constraint (code path : String) (actual expected : Json) : Failure :=
  { code, path, actual := some actual, expected := some expected }

/-- A failure in one line. -/
def text (f : Failure) : String :=
  let detail := match f.actual, f.expected, f.value with
    | some actual, some expected, _ => s!" (actual {actual.text}, expected {expected.text})"
    | _, _, some value => s!" (value {Text.quote value})"
    | _, _, none => ""
  s!"{f.code} at {f.path}" ++ detail

/-- A failure as a record; fields that it does not have are left out. -/
def toJson (f : Failure) : Json :=
  let optional (name : String) (field : Option Json) : List (String × Json) :=
    (field.map (name, ·)).toList
  .object ([("code", .string f.code), ("path", .string f.path)] ++
    optional "actual" f.actual ++ optional "expected" f.expected ++
    optional "value" (f.value.map .string))

end Failure

end MarkupRules
