import MarkupRules.Json.Basic
import MarkupRules.Number.Layout

/-!
Writing JSON values without blanks.
-/
namespace MarkupRules.Json

/-- Exponents stand below 1e-5 and from 1e16 up; a whole double ends in `.0`. -/
def numberLayout : Number.Layout := ⟨some (-5, 15), true, .toEven⟩

/-- A character that JSON cannot show as it is. -/
def controlEscape (c : Char) : List Char :=
  ['\\', 'u', '0', '0', Nat.digitChar (c.toNat / 16), Nat.digitChar (c.toNat % 16)]

/-- One character of a string. Only quotes, backslashes and control characters are escaped. -/
def stringChar (c : Char) : List Char :=
  match c with
  | '"' => ['\\', '"']
  | '\\' => ['\\', '\\']
  | '\x08' => ['\\', 'b']
  | '\x0c' => ['\\', 'f']
  | '\n' => ['\\', 'n']
  | '\r' => ['\\', 'r']
  | '\t' => ['\\', 't']
  | c => if c < ' ' then controlEscape c else [c]

/-- A string between quotes. -/
def stringChars (s : String) : List Char := '"' :: s.toList.flatMap stringChar ++ ['"']

mutual
/-- Puts the text of a value in front of `rest`. -/
def prepend (rest : List Char) : Json → List Char
  | .null => "null".toList ++ rest
  | .bool true => "true".toList ++ rest
  | .bool false => "false".toList ++ rest
  | .integer n => (toString n).toList ++ rest
  | .double x => (numberLayout.text x).toList ++ rest
  | .string s => stringChars s ++ rest
  | .array items => '[' :: prependItems (']' :: rest) items
  | .object members => '\x7b' :: prependMembers ('\x7d' :: rest) members

/-- The same for the items of an array, with commas between them. -/
def prependItems (rest : List Char) : List Json → List Char
  | [] => rest
  | [item] => prepend rest item
  | item :: items => prepend (',' :: prependItems rest items) item

/-- The same for the members of an object, with commas between them. -/
def prependMembers (rest : List Char) : List (String × Json) → List Char
  | [] => rest
  | [(key, value)] => stringChars key ++ ':' :: prepend rest value
  | (key, value) :: members =>
    stringChars key ++ ':' :: prepend (',' :: prependMembers rest members) value
end

/-- The text of a value, character by character. -/
def chars (value : Json) : List Char := value.prepend []

/-- The text of a value, as a string. -/
def text (value : Json) : String := String.ofList value.chars

end MarkupRules.Json
