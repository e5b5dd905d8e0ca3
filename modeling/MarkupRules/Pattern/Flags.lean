import MarkupRules.Pattern.Expr

/-!
Flags: the settings that change what the parts of a pattern mean.
-/
namespace MarkupRules.Pattern

/-- The settings under which a part of a pattern is read. -/
structure Flags where
  /-- Case makes no difference. -/
  ignoreCase : Bool := false
  /-- `^` and `$` stand for the ends of lines. -/
  multiLine : Bool := false
  /-- A dot stands for line feeds too. -/
  dotAll : Bool := false
  /-- A carriage return ends a line like a line feed. -/
  anyLineEnd : Bool := false
  /-- Blanks and comments in the pattern mean nothing. -/
  verbose : Bool := false
  /-- Classes hold all characters; otherwise they hold those of ASCII. -/
  unicode : Bool := true
  deriving Repr, DecidableEq

namespace Flags

/-- Sets the flag of a letter. Whether repetitions are greedy makes no difference to whether a
text matches, so `U` is known but sets nothing. -/
def set? (f : Flags) (letter : Char) (on : Bool) : Option Flags :=
  match letter with
  | 'i' => some { f with ignoreCase := on }
  | 'm' => some { f with multiLine := on }
  | 's' => some { f with dotAll := on }
  | 'R' => some { f with anyLineEnd := on }
  | 'x' => some { f with verbose := on }
  | 'u' => some { f with unicode := on }
  | 'U' => some f
  | _ => none

/-- Closes a set under case, if case makes no difference. -/
def fold (f : Flags) (s : CharSet) : CharSet :=
  if f.ignoreCase then (if f.unicode then s.folded else s.asciiFolded) else s

/-- The characters that a single one stands for: itself or, if case makes no difference, all that
equal it up to case. -/
def variants (f : Flags) (c : Char) : List Char :=
  if !f.ignoreCase then [c]
  else if f.unicode then Unicode.caseOrbit c
  else if c.toLower = c.toUpper then [c] else [c.toUpper, c.toLower]

/-- The complement of a set, if `negated`. Without Unicode there is no complement, because it
would hold bytes that are no characters. -/
def negate? (f : Flags) (negated : Bool) (s : CharSet) : Option CharSet :=
  if negated then (if f.unicode then some s.compl else none) else some s

/-- The set of a dot. -/
def dot? (f : Flags) : Option CharSet :=
  if !f.unicode then none
  else if f.dotAll then some fun _ => true
  else if f.anyLineEnd then some fun c => c != '\n' && c != '\r'
  else some fun c => c != '\n'

/-- The test of `^`. -/
def caret (f : Flags) : PlaceTest :=
  if !f.multiLine then .atStart else if f.anyLineEnd then .atAnyLineStart else .atLineStart

/-- The test of `$`. -/
def dollar (f : Flags) : PlaceTest :=
  if !f.multiLine then .atEnd else if f.anyLineEnd then .atAnyLineEnd else .atLineEnd

/-- The word characters. -/
def word (f : Flags) : CharSet := if f.unicode then .word else .asciiWord

/-- The class of a letter behind a backslash; a capital stands for the complement. -/
def letterClass? (f : Flags) (letter : Char) : Option CharSet :=
  match letter with
  | 'd' => some (if f.unicode then .digit else .asciiDigit)
  | 's' => some (if f.unicode then .space else .asciiSpace)
  | 'w' => some f.word
  | 'D' => f.negate? true .digit
  | 'S' => f.negate? true .space
  | 'W' => f.negate? true .word
  | _ => none

end Flags

end MarkupRules.Pattern
