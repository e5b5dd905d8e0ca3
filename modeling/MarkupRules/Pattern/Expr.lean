import MarkupRules.Pattern.CharSet

/-!
Expressions: what a pattern asks of a text.
-/
namespace MarkupRules.Pattern

/-- A test of a place in a text by the characters before and behind it. -/
abbrev PlaceTest := Option Char → Option Char → Bool

namespace PlaceTest

/-- The start of the text. -/
def atStart : PlaceTest := fun before _ => before.isNone

/-- The end of the text. -/
def atEnd : PlaceTest := fun _ behind => behind.isNone

/-- The start of a line. -/
def atLineStart : PlaceTest := fun before _ => before.all (· == '\n')

/-- The end of a line. -/
def atLineEnd : PlaceTest := fun _ behind => behind.all (· == '\n')

/-- The start of a line where a carriage return ends lines too, but not between it and a line
feed. -/
def atAnyLineStart : PlaceTest := fun before behind =>
  before.all fun c => c == '\n' || (c == '\r' && behind != some '\n')

/-- The end of a line under the same rule. -/
def atAnyLineEnd : PlaceTest := fun before behind =>
  behind.all fun c => c == '\r' || (c == '\n' && before != some '\r')

/-- Between a word character and another, or an end of the text. -/
def atWordBoundary (word : CharSet) : PlaceTest := fun before behind =>
  before.any word != behind.any word

/-- Not at a word boundary. -/
def offWordBoundary (word : CharSet) : PlaceTest := fun before behind =>
  before.any word == behind.any word

/-- Where a word starts. -/
def atWordStart (word : CharSet) : PlaceTest := fun before behind =>
  !before.any word && behind.any word

/-- Where a word ends. -/
def atWordEnd (word : CharSet) : PlaceTest := fun before behind =>
  before.any word && !behind.any word

/-- Where no word character comes before. -/
def atWordStartHalf (word : CharSet) : PlaceTest := fun before _ => !before.any word

/-- Where no word character follows. -/
def atWordEndHalf (word : CharSet) : PlaceTest := fun _ behind => !behind.any word

end PlaceTest

/-- An expression. -/
inductive Expr where
  /-- The empty text. -/
  | empty
  /-- One of the given characters. -/
  | anyOf (cs : List Char)
  /-- One character of a set. -/
  | oneOf (s : CharSet)
  /-- The empty text where a test holds. -/
  | place (test : PlaceTest)
  | seq (first second : Expr)
  | either (first second : Expr)
  /-- `min` to `max` copies one after the other, or any number from `min` on. -/
  | copies (e : Expr) (min : Nat) (max : Option Nat)

namespace Expr

/-- Expressions one after the other. -/
def ofSequence : List Expr → Expr
  | [] => empty
  | [e] => e
  | e :: rest => seq e (ofSequence rest)

/-- One of several expressions. -/
def ofBranches : List Expr → Expr
  | [] => empty
  | [e] => e
  | e :: rest => either e (ofBranches rest)

end Expr

end MarkupRules.Pattern
