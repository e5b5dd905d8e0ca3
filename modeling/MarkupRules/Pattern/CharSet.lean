import MarkupRules.Unicode.CaseFolding
import MarkupRules.Unicode.Category
import MarkupRules.Unicode.Property
import MarkupRules.Unicode.Script

/-!
Sets of characters, and the names under which patterns refer to them.
-/
namespace MarkupRules.Pattern

/-- A set of characters by its membership test. -/
abbrev CharSet := Char → Bool

namespace CharSet

/-- One character. -/
def single (c : Char) : CharSet := (· == c)

/-- The characters from `lo` to `hi`. -/
def range (lo hi : Char) : CharSet := fun c => lo ≤ c && c ≤ hi

/-- All characters that are not in a set. -/
def compl (s : CharSet) : CharSet := fun c => !s c

/-- The characters of either set. -/
def union (s t : CharSet) : CharSet := fun c => s c || t c

/-- The characters of both sets. -/
def inter (s t : CharSet) : CharSet := fun c => s c && t c

/-- The characters of the first set that are not in the second. -/
def diff (s t : CharSet) : CharSet := fun c => s c && !t c

/-- The characters of exactly one of the sets. -/
def symmDiff (s t : CharSet) : CharSet := fun c => s c != t c

/-- The characters that equal one of the set up to case. -/
def folded (s : CharSet) : CharSet := fun c => (Unicode.caseOrbit c).any s

/-- The characters that equal one of the set up to the case of ASCII letters. -/
def asciiFolded (s : CharSet) : CharSet := fun c => s c || s c.toLower || s c.toUpper

/-- Whether a character is of ASCII. -/
def isAscii (c : Char) : Bool := c.toNat < 0x80

/-- Decimal digits. -/
def digit : CharSet := Unicode.inCategory "Nd"

/-- Blanks. -/
def space : CharSet := Unicode.whiteSpace.contains

/-- The characters that words are made of. -/
def word : CharSet := fun c =>
  Unicode.alphabetic.contains c || Unicode.inCategory "M" c || Unicode.inCategory "Nd" c ||
    Unicode.inCategory "Pc" c || Unicode.joinControl.contains c

/-- Decimal digits of ASCII. -/
def asciiDigit : CharSet := range '0' '9'

/-- Blanks of ASCII. -/
def asciiSpace : CharSet := fun c => c == ' ' || range '\t' '\r' c

/-- The word characters of ASCII. -/
def asciiWord : CharSet := fun c =>
  range 'a' 'z' c || range 'A' 'Z' c || range '0' '9' c || c == '_'

/-- The classes of ASCII characters that have a name between colons. -/
def asciiClass? (name : String) : Option CharSet :=
  let lower := range 'a' 'z'
  let upper := range 'A' 'Z'
  let alpha := lower.union upper
  match name with
  | "alnum" => some (alpha.union asciiDigit)
  | "alpha" => some alpha
  | "ascii" => some isAscii
  | "blank" => some fun c => c == ' ' || c == '\t'
  | "cntrl" => some fun c => range '\x00' '\x1f' c || c == '\x7f'
  | "digit" => some asciiDigit
  | "graph" => some (range '!' '~')
  | "lower" => some lower
  | "print" => some (range ' ' '~')
  | "punct" => some fun c =>
    range '!' '/' c || range ':' '@' c || range '[' '\x60' c || range '\x7b' '~' c
  | "space" => some asciiSpace
  | "upper" => some upper
  | "word" => some asciiWord
  | "xdigit" => some fun c => asciiDigit c || range 'a' 'f' c || range 'A' 'F' c
  | _ => none

/-- A name without its `is` in front and without case, blanks, `_`, `-` and characters beyond
ASCII. The one name that is nothing but `isc` stays whole. -/
def looseName (name : List Char) : String :=
  let fold (cs : List Char) : List Char :=
    (cs.filter fun c => !(c == ' ' || c == '_' || c == '-') && isAscii c).map Char.toLower
  if (name.take 2).map Char.toLower == ['i', 's'] then
    let rest := fold (name.drop 2)
    if rest == ['c'] then "isc" else String.ofList rest
  else String.ofList (fold name)

/-- The general category with a name, or a set that is named like one. -/
def category? (name : String) : Option CharSet :=
  match name with
  | "any" => some fun _ => true
  | "assigned" => some (compl (Unicode.inCategory "Cn"))
  | "ascii" => some isAscii
  | name => (Unicode.categoryNames.lookup name).map Unicode.inCategory

/-- The set with a name that does not say of which kind it is. Three abbreviations stand for a
category although a property has them too. -/
def named? (name : List Char) : Option CharSet :=
  let name := looseName name
  let property :=
    if ["cf", "sc", "lc"].contains name then none
    else (Unicode.propertyNames.lookup name).map Unicode.CodeRanges.contains
  property.or ((category? name).or ((Unicode.scriptNames.lookup name).map Unicode.inScript))

/-- The set of the characters for which a property has a value. -/
def valued? (property value : List Char) : Option CharSet :=
  let value := looseName value
  match looseName property with
  | "gc" | "generalcategory" => category? value
  | "sc" | "script" => (Unicode.scriptNames.lookup value).map Unicode.inScript
  | "scx" | "scriptextensions" =>
    (Unicode.scriptNames.lookup value).map Unicode.inScriptExtensions
  | _ => none

/-- Cuts a text at the first place where `sep` stands, which is dropped. -/
def cutAt? (sep : List Char) : List Char → Option (List Char × List Char)
  | [] => none
  | c :: rest =>
    if sep.isPrefixOf (c :: rest) then some ([], (c :: rest).drop sep.length)
    else (cutAt? sep rest).map fun (before, after) => (c :: before, after)

/-- The set that a text between braces refers to: a name, or a property and its value. -/
def ofText? (text : List Char) : Option CharSet :=
  match (cutAt? ['!', '='] text).or ((cutAt? [':'] text).or (cutAt? ['='] text)) with
  | some (property, value) => valued? property value
  | none => named? text

end CharSet

end MarkupRules.Pattern
