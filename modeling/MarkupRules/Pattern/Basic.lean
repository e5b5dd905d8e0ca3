import MarkupRules.Pattern.Automaton
import MarkupRules.Pattern.Matching
import MarkupRules.Pattern.Parser

/-!
Patterns: expressions that a text has to match somewhere.
-/
namespace MarkupRules

/-- A pattern that was read, together with how it was written. -/
structure Pattern where
  source : String
  /-- The letters of its flags as written. -/
  flags : String
  expr : Pattern.Expr

namespace Pattern

/-- Why the source of a pattern cannot be used. -/
inductive SourceDefect where
  /-- It describes no expression. -/
  | malformed
  /-- Its expression asks for too large an automaton. -/
  | tooLarge
  deriving Repr, DecidableEq

/-- The wording of a defect. For a source that describes no expression it is the first line of
several. -/
def SourceDefect.message : SourceDefect → String
  | .malformed => "regex parse error:"
  | .tooLarge => s!"Compiled regex exceeds size limit of {Expr.maxSize} bytes."

/-- Why a pattern cannot be used. -/
inductive Error where
  | unknownFlag (letter : Char)
  | badSource (defect : SourceDefect)
  deriving Repr, DecidableEq

/-- The wording of an unknown flag. -/
def unknownFlagMessage (letter : Char) : String :=
  s!"unsupported pattern flag '{letter}'"

/-- The flags that letters set. Two letters are known that set nothing. -/
def readLetters (f : Flags) : List Char → Except Error Flags
  | [] => .ok f
  | 'i' :: rest => readLetters { f with ignoreCase := true } rest
  | 'm' :: rest => readLetters { f with multiLine := true } rest
  | 's' :: rest => readLetters { f with dotAll := true } rest
  | 'x' :: rest => readLetters { f with verbose := true } rest
  | 'u' :: rest => readLetters f rest
  | 'g' :: rest => readLetters f rest
  | c :: _ => .error (.unknownFlag c)

/-- Reads a pattern. Its flags are looked at before its source. -/
def compile (source flags : String) : Except Error Pattern :=
  match readLetters {} flags.toList with
  | .error e => .error e
  | .ok f =>
    match parse? f source.toList with
    | none => .error (.badSource .malformed)
    | some expr =>
      if expr.fits then .ok ⟨source, flags, expr⟩ else .error (.badSource .tooLarge)

/-- Whether a part of a text matches. -/
def isMatch (p : Pattern) (text : String) : Bool := p.expr.isMatch text.toList

end Pattern

end MarkupRules
