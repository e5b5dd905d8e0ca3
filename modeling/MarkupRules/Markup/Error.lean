import MarkupRules.Text.Utf8

/-!
What can be wrong with markup, and how it is said.

A `Defect` is a fault of one token or of its match with the others; an `Error` is the
reason why a text is refused, with the line where that showed.
-/
namespace MarkupRules.Markup

/-- A construct that the text ends inside of, or that does not start as it must. -/
inductive Unfinished where
  | tag
  | comment
  | characterData
  | doctype
  | instruction
  deriving Repr, DecidableEq

/-- The wording of an unfinished construct. -/
def Unfinished.message : Unfinished → String
  | .tag => "tag not closed: `>` not found before end of input"
  | .comment => "comment not closed: `-->` not found before end of input"
  | .characterData => "CDATA not closed: `]]>` not found before end of input"
  | .doctype => "DOCTYPE not closed: `>` not found before end of input"
  | .instruction =>
    "processing instruction or xml declaration not closed: `?>` not found before end of input"

/-- A fault in the attributes of a tag. Positions are counted in bytes from the first byte of the
tag's name. -/
inductive AttributeDefect where
  /-- Neither `=` nor another blank follows a key. -/
  | expectedEquals (position : Nat)
  | expectedValue (position : Nat)
  | unquotedValue (position : Nat)
  | expectedQuote (position : Nat) (quote : Char)
  | duplicated (position previous : Nat)
  deriving Repr, DecidableEq

/-- The wording of a fault in attributes. -/
def AttributeDefect.message : AttributeDefect → String
  | .expectedEquals p => s!"position {p}: attribute key must be directly followed by `=` or space"
  | .expectedValue p => s!"position {p}: `=` must be followed by an attribute value"
  | .unquotedValue p =>
    s!"position {p}: attribute value must be enclosed in `" ++ "\"` or `'`"
  | .expectedQuote p quote => s!"position {p}: missing closing quote `{quote}` in attribute value"
  | .duplicated p previous =>
    s!"position {p}: duplicated attribute, previous declaration at position {previous}"

/-- Why a number does not name a character. -/
inductive CodePointDefect where
  | sign
  | empty
  | invalidDigit
  | tooLarge
  | zero
  | notScalar (code : Nat)
  deriving Repr, DecidableEq

/-- The wording of a number that names no character. -/
def CodePointDefect.message : CodePointDefect → String
  | .sign => "unexpected number sign"
  | .empty => "cannot parse integer from empty string"
  | .invalidDigit => "invalid digit found in string"
  | .tooLarge => "number too large to fit in target type"
  | .zero => "0x0 character is not permitted in XML"
  | .notScalar code => s!"`{code}` is not a valid codepoint"

/-- A fault in a reference. Positions are counted in bytes from the first byte of the text that
holds it. -/
inductive ReferenceDefect where
  /-- No semicolon follows before the next ampersand. -/
  | unterminated (start stop : Nat)
  | unknownEntity (start stop : Nat) (name : String)
  | codePoint (defect : CodePointDefect)
  deriving Repr, DecidableEq

/-- The wording of a fault in a reference. -/
def ReferenceDefect.message : ReferenceDefect → String
  | .unterminated start stop =>
    s!"Error while escaping character at range {start}..{stop}: Cannot find ';' after '&'"
  | .unknownEntity start stop name => s!"at {start}..{stop}: unrecognized entity `{name}`"
  | .codePoint defect => s!"invalid character reference: {defect.message}"

/-- A fault of one token or of its match with the others. -/
inductive Defect where
  | unfinished (construct : Unfinished)
  /-- What follows `<!` starts no construct. -/
  | unknownMarkup
  | missingDoctypeName
  | unmatchedEnd (found : String)
  | mismatchedEnd (expected found : String)
  | badAttribute (defect : AttributeDefect)
  | badReference (defect : ReferenceDefect)
  deriving Repr, DecidableEq

/-- The wording of a fault. -/
def Defect.message : Defect → String
  | .unfinished construct => s!"syntax error: {construct.message}"
  | .unknownMarkup => "syntax error: unknown or missed symbol in markup"
  | .missingDoctypeName =>
    "ill-formed document: `<!DOCTYPE>` declaration does not contain a name of a document type"
  | .unmatchedEnd found =>
    s!"ill-formed document: close tag `</{found}>` does not match any open tag"
  | .mismatchedEnd expected found =>
    s!"ill-formed document: expected `</{expected}>`, but `</{found}>` was found"
  | .badAttribute defect => defect.message
  | .badReference defect => defect.message

/-- Why a text is refused. Lines are counted from one. -/
inductive Error where
  /-- The text has nothing but blanks. -/
  | empty
  /-- The bytes are no text. -/
  | notText (defect : Text.Utf8Defect)
  | malformed (line : Nat) (defect : Defect)
  | multipleRoots (line : Nat)
  | noRoot
  /-- The text ends inside an element. -/
  | unclosed (name : String) (line : Nat)
  | textOutsideRoot (line : Nat)
  | tooDeep (line limit : Nat)
  deriving Repr, DecidableEq

namespace Error

/-- The wording of an error. -/
def message : Error → String
  | .empty => "empty data"
  | .notText defect => s!"not a valid string: {defect.message}"
  | .malformed line defect => s!"{defect.message}:{line}"
  | .multipleRoots line => s!"multiple root elements:{line}"
  | .noRoot => "no root element"
  | .unclosed name line => s!"unclosed tag '{name}':{line}"
  | .textOutsideRoot line => s!"text outside the root element:{line}"
  | .tooDeep line limit => s!"nesting deeper than {limit} elements:{line}"

/-- The line of an error that has one. -/
def line? : Error → Option Nat
  | .empty | .notText _ | .noRoot => none
  | .malformed line _ | .multipleRoots line | .unclosed _ line | .textOutsideRoot line
  | .tooDeep line _ => some line

end Error

end MarkupRules.Markup
