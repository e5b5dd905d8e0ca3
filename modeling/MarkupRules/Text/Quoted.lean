import MarkupRules.Unicode.Category
import MarkupRules.Unicode.Property

/-!
Quoted text for messages.

A quoted text stands between double quotes. Characters that a reader could not see,
or that would join with their neighbour, are written as escapes, so that the text can
be read off a message.
-/
namespace MarkupRules.Text

/-- Holds of a character that a message may show as it is: no control, format, private or
unassigned character, and no separator but the space. -/
def isPrintable (c : Char) : Bool :=
  c == ' ' || !(["Cc", "Cf", "Cs", "Co", "Cn", "Zl", "Zp", "Zs"].contains (Unicode.category c))

/-- Lowercase hexadecimal digits of a number, without leading zeros. -/
def hexText (n : Nat) : List Char := Nat.toDigits 16 n

/-- The escape by code point. -/
def codePointEscape (c : Char) : List Char :=
  ['\\', 'u', '\x7b'] ++ hexText c.toNat ++ ['\x7d']

/-- One character of a quoted text. -/
def quoteChar (c : Char) : List Char :=
  match c with
  | '\x00' => ['\\', '0']
  | '\t' => ['\\', 't']
  | '\r' => ['\\', 'r']
  | '\n' => ['\\', 'n']
  | '\\' => ['\\', '\\']
  | '"' => ['\\', '"']
  | c =>
    if Unicode.graphemeExtend.contains c then codePointEscape c
    else if isPrintable c then [c]
    else codePointEscape c

/-- A text between quotes. -/
def quote (s : String) : String :=
  String.ofList (['"'] ++ s.toList.flatMap quoteChar ++ ['"'])

end MarkupRules.Text
