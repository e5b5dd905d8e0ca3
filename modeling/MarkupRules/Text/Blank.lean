/-!
Blank characters and trimming.

The blanks are the characters with the Unicode property White_Space. Trimming
removes them from both ends of a text and nothing else, so a trimmed text either
is empty or starts and ends with a character that is not blank.
-/
namespace MarkupRules.Text

/-- Holds of the characters with the Unicode property White_Space. -/
def isBlank (c : Char) : Bool :=
  let n := c.toNat
  (0x9 ≤ n && n ≤ 0xD) || n == 0x20 || n == 0x85 || n == 0xA0 || n == 0x1680 ||
    (0x2000 ≤ n && n ≤ 0x200A) || n == 0x2028 || n == 0x2029 || n == 0x202F ||
    n == 0x205F || n == 0x3000

/-- Removes the blanks at the start. -/
def trimStart (cs : List Char) : List Char := cs.dropWhile isBlank

/-- Removes the blanks at the end. -/
def trimEnd (cs : List Char) : List Char := (cs.reverse.dropWhile isBlank).reverse

/-- Removes the blanks at both ends. -/
def trim (cs : List Char) : List Char := trimEnd (trimStart cs)

/-- `trim` on strings. -/
def trimmed (s : String) : String := String.ofList (trim s.toList)

/-- Holds of a text that consists of blanks only. -/
def isAllBlank (cs : List Char) : Bool := cs.all isBlank

end MarkupRules.Text
