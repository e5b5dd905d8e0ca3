import MarkupRules.Markup.Error
import MarkupRules.Pattern.Basic

/-!
Why a schema cannot be used.
-/
namespace MarkupRules.Schema

/-- Why the value of an attribute cannot be used. -/
inductive AttributeReason where
  | expectedPresence
  | expectedTruthValue
  | expectedCheckName
  | expectedCount
  | expectedNumber
  | unknownPatternFlag (letter : Char)
  deriving Repr, DecidableEq

/-- The wording of a reason. -/
def AttributeReason.message : AttributeReason → String
  | .expectedPresence => "expected no value, true or false"
  | .expectedTruthValue => "expected \"true\" or \"false\""
  | .expectedCheckName => "expected a validator name"
  | .expectedCount => "expected a non-negative integer"
  | .expectedNumber => "expected a number"
  | .unknownPatternFlag letter => Pattern.unknownFlagMessage letter

/-- Why it is not clear which pattern a tag means. -/
inductive PatternConflict where
  /-- Two attributes declare one. -/
  | declaredTwice (first second : String)
  /-- Flags stand beside an attribute that has them in its name. -/
  | flagsTwice (key : String)
  | flagsAlone
  deriving Repr, DecidableEq

/-- The wording of a conflict. -/
def PatternConflict.message : PatternConflict → String
  | .declaredTwice first second => s!"both '{first}' and '{second}' declared"
  | .flagsTwice key => s!"'flags' cannot be combined with '{key}'"
  | .flagsAlone => "'flags' given without 'pattern'"

/-- A mistake in a schema, in a document that should be read, or in the checks at hand. The path
names the tag where it is. -/
inductive Error where
  | markup (e : Markup.Error)
  | unsupportedType (path name : String)
  | invalidAttribute (path key : String) (reason : AttributeReason)
  | unknownAttribute (path key : String)
  | ambiguousPattern (path : String) (conflict : PatternConflict)
  | invalidPattern (path : String) (defect : Pattern.SourceDefect)
  /-- A tag with tags inside has a type other than a map. -/
  | conflictingShape (path name : String)
  | duplicateRule (path : String)
  | unregisteredCheck (name path : String)
  deriving Repr, DecidableEq

/-- The wording of an error. -/
def Error.message : Error → String
  | .markup e => e.message
  | .unsupportedType path name => s!"unsupported data type in rules at {path}: {name}"
  | .invalidAttribute path key reason =>
    s!"invalid value for '{key}' at {path}: {reason.message}"
  | .unknownAttribute path key => s!"unsupported attribute '{key}' at {path}"
  | .ambiguousPattern path conflict =>
    s!"ambiguous pattern declaration at {path}: {conflict.message}"
  | .invalidPattern path defect => s!"invalid pattern at {path}: {defect.message}"
  | .conflictingShape path name => s!"rule at {path} has children but declares type '{name}'"
  | .duplicateRule path => s!"duplicate rule for {path}"
  | .unregisteredCheck name path =>
    s!"no custom validator registered as '{name}' (used at {path})"

end MarkupRules.Schema
