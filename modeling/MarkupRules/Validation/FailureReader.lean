import MarkupRules.Json.Reader
import MarkupRules.Validation.Failure

/-!
Reading failures from JSON.

A failure is an object with its fields by name or an array with its fields in order. In
an object, members with other names are passed over and a name of a field stands at most
once; in an array, fields at the end may be left out. `null` is an absent field.
-/
namespace MarkupRules.Failure

open Json (Care)

/-- The names of the fields, in order. -/
def fieldNames : List String := ["code", "path", "actual", "expected", "value"]

/-- A field that has to be a string. -/
def stringField? : Option Json → Option String
  | some (.string s) => some s
  | _ => none

/-- A field that may be absent. -/
def presentField (field : Option Json) : Option Json :=
  match field with
  | some .null => none
  | field => field

/-- The failure with these fields. -/
def ofFields? (field : String → Option Json) : Option Failure := do
  let code ← stringField? (field "code")
  let path ← stringField? (field "path")
  let actual := presentField (field "actual")
  let expected := presentField (field "expected")
  match presentField (field "value") with
  | none => some { code, path, actual, expected }
  | some (.string value) => some { code, path, actual, expected, value := some value }
  | some _ => none

/-- The members of a record up to its closing brace, of which there is at least one. Members that
are no fields are read without care and left out. -/
def recordMembers? (fuel : Nat) (cs : List Char) : Option (List (String × Json) × List Char) :=
  match fuel with
  | 0 => none
  | fuel + 1 => do
    let (key, rest) ← Json.key? .checked cs
    let known := fieldNames.contains key
    let (value, rest) ←
      if known then Json.value? .checked (Json.enoughFuel cs) (Json.maxNesting - 1) rest
      else Json.value? .skipped (Json.enoughFuel cs) cs.length rest
    let keep := if known then [(key, value)] else []
    match Json.dropSpace rest with
    | '\x7d' :: rest => some (keep, rest)
    | ',' :: rest => (recordMembers? fuel rest).map fun (members, rest) => (keep ++ members, rest)
    | _ => none

/-- A record as an object. -/
def ofObject? (members : List (String × Json)) : Option Failure :=
  if (members.map Prod.fst).Nodup then ofFields? (members.lookup ·) else none

/-- A record as an array. -/
def ofArray? (items : List Json) : Option Failure :=
  if items.length ≤ fieldNames.length then ofFields? ((fieldNames.zip items).lookup ·) else none

/-- A record at the front of a text. -/
def record? (cs : List Char) : Option (Failure × List Char) :=
  match Json.dropSpace cs with
  | '[' :: rest => do
    let (items, rest) ← match Json.dropSpace rest with
      | ']' :: rest => some ([], rest)
      | rest => Json.items? .checked (Json.enoughFuel rest) (Json.maxNesting - 1) rest
    (ofArray? items).map (·, rest)
  | '\x7b' :: rest => do
    let (members, rest) ← match Json.dropSpace rest with
      | '\x7d' :: rest => some ([], rest)
      | rest => recordMembers? (Json.enoughFuel rest) rest
    (ofObject? members).map (·, rest)
  | _ => none

/-- The failure that a text holds, with nothing but blanks around it. -/
def read? (s : String) : Option Failure :=
  match record? s.toList with
  | some (f, rest) => if (Json.dropSpace rest).isEmpty then some f else none
  | none => none

end MarkupRules.Failure
