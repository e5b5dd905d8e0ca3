import MarkupRules.Markup.Reference
import MarkupRules.Markup.Token

/-!
Attributes of start tags.

A tag's content is its name up to the first blank and then its attributes. In strict
mode each has a value between quotes; in boolean mode a key may stand alone and a value
may stand without quotes.
-/
namespace MarkupRules.Markup

/-- How the attributes of a tag are read. -/
inductive AttributeMode where
  | strict
  | boolean
  deriving Repr, DecidableEq

/-- One attribute; a key that stands alone has an empty value. -/
structure Attribute where
  name : String
  value : String
  deriving Repr, DecidableEq

namespace Attribute

/-- Text with the number of bytes that came before it. -/
structure Located where
  offset : Nat
  chars : List Char
  deriving Repr, DecidableEq

namespace Located

/-- The part from the front for which `p` holds. -/
def takeWhile (p : Char → Bool) (s : Located) : List Char := s.chars.takeWhile p

/-- What follows the part from the front for which `p` holds. -/
def dropWhile (p : Char → Bool) (s : Located) : Located :=
  ⟨s.offset + Text.byteLength (s.chars.takeWhile p), s.chars.dropWhile p⟩

end Located

/-- A key and where it starts. -/
structure Key where
  start : Nat
  chars : List Char
  deriving Repr, DecidableEq

/-- The keys that came before. -/
abbrev Seen := List Key

/-- Refuses a key that came before. -/
def noteKey (seen : Seen) (key : Key) : Except AttributeDefect Seen :=
  match seen.find? (·.chars == key.chars) with
  | some previous => .error (.duplicated key.start previous.start)
  | none => .ok (seen ++ [key])

/-- A key at the front of a text that is not empty. Its first character may be anything; it ends
before `=` or a blank. -/
def cutKey (first : Char) (offset : Nat) (rest : List Char) : Key × Located :=
  let tail : Located := ⟨offset + first.utf8Size, rest⟩
  let inKey (c : Char) : Bool := c != '=' && !isTagBlank c
  (⟨offset, first :: tail.takeWhile inKey⟩, tail.dropWhile inKey)

/-- A value at the front of a text, behind `=`. -/
def cutValue (mode : AttributeMode) (s : Located) :
    Except AttributeDefect (List Char × Located) :=
  let s := s.dropWhile isTagBlank
  match s.chars with
  | [] => .error (.expectedValue s.offset)
  | c :: rest =>
    if c = '"' || c = '\'' then
      let tail : Located := ⟨s.offset + 1, rest⟩
      let value := tail.takeWhile (· != c)
      let tail := tail.dropWhile (· != c)
      match tail.chars with
      | [] => .error (.expectedQuote tail.offset c)
      | _ :: rest => .ok (value, ⟨tail.offset + 1, rest⟩)
    else match mode with
      | .strict => .error (.unquotedValue s.offset)
      | .boolean => .ok (s.takeWhile (!isTagBlank ·), s.dropWhile (!isTagBlank ·))

/-- The first attribute of a text, its value as written; none if nothing is left but blanks. -/
def cutAttribute (mode : AttributeMode) (seen : Seen) (s : Located) :
    Except AttributeDefect (Option ((Key × List Char) × Seen × Located)) :=
  let s := s.dropWhile isTagBlank
  match s.chars with
  | [] => .ok none
  | first :: rest => do
    let (key, behind) := cutKey first s.offset rest
    let next := behind.dropWhile isTagBlank
    match next.chars, mode with
    | '=' :: rest, _ =>
      let seen ← noteKey seen key
      let (value, rest) ← cutValue mode ⟨next.offset + 1, rest⟩
      return some ((key, value), seen, rest)
    | _, .strict => .error (.expectedEquals next.offset)
    | _, .boolean =>
      let seen ← noteKey seen key
      return some ((key, []), seen, next)

/-- The attributes of a text; each takes at least one character, so `fuel` is their number at
most. -/
def readFrom (mode : AttributeMode) : Nat → Seen → Located → Except Defect (List Attribute)
  | 0, _, _ => .ok []
  | fuel + 1, seen, s => do
    match ← (cutAttribute mode seen s).mapError Defect.badAttribute with
    | none => return []
    | some ((key, raw), seen, rest) =>
      let value ← (Reference.resolve raw).mapError Defect.badReference
      let others ← readFrom mode fuel seen rest
      return ⟨String.ofList key.chars, String.ofList value⟩ :: others

/-- The name of a tag with this content. -/
def tagName (content : List Char) : List Char := content.takeWhile (!isTagBlank ·)

/-- The attributes of a tag with this content. -/
def ofTag (mode : AttributeMode) (content : List Char) : Except Defect (List Attribute) :=
  let name := tagName content
  readFrom mode content.length [] ⟨Text.byteLength name, content.drop name.length⟩

end Attribute

end MarkupRules.Markup
