import MarkupRules.Markup.Attribute
import MarkupRules.Markup.Line
import MarkupRules.Text.Blank

/-!
Events of markup: what a text delivers to those who read it.

`scan` turns the tokens of a text into elements that open and close and texts inside
them. It delivers events up to the first error, and ends well only if they are one whole
element.
-/
namespace MarkupRules.Markup

/-- How a text is read. -/
structure Options where
  /-- How many elements may be open at once. -/
  maxDepth : Option Nat := none
  /-- The key of an element's attributes in a data tree; without one they are dropped. -/
  attributeKey : Option String := some ":a"
  /-- The key of a text that stands beside elements. -/
  textKey : String := "#text"
  deriving Repr, DecidableEq

/-- A start tag. -/
structure OpenTag where
  name : String
  attributes : List Attribute
  line : Nat
  deriving Repr, DecidableEq

/-- What a text delivers. -/
inductive Event where
  | opening (tag : OpenTag)
  /-- A text that is not empty, without blanks at its ends. -/
  | text (s : String)
  | closing
  deriving Repr, DecidableEq

/-- The events of a text and the error, if any, that ended them. -/
structure Scan where
  events : List Event
  error : Option Error
  deriving Repr, DecidableEq

/-- Hands the events to a reader in order. The reader's first error counts before the scan's. -/
def Scan.feed {σ ε : Type} (scan : Scan) (ofError : Error → ε) (read : σ → Event → Except ε σ)
    (initial : σ) : Except ε σ :=
  match scan.events.foldlM read initial, scan.error with
  | .error e, _ => .error e
  | .ok _, some e => .error (ofError e)
  | .ok s, none => .ok s

/-- The state of a scan. The names of the open elements stand in it twice: end tags are held
against one list, and all else goes by the other. -/
structure Scanner where
  cursor : LineCursor
  /-- The names that end tags have to give, innermost first. -/
  endNames : List String := []
  /-- The elements that are open, innermost first, with the lines of their tags. -/
  openElements : List (String × Nat) := []
  seenRoot : Bool := false
  /-- The events so far, last first. -/
  events : List Event := []
  error : Option Error := none
  /-- Both lists are of the same elements. -/
  inStep : endNames = openElements.map Prod.fst := by rfl
  deriving Repr, DecidableEq

namespace Scanner

/-- Ends the scan with an error. -/
def fail (s : Scanner) (e : Error) : Scanner := { s with error := some e }

/-- Delivers an event. -/
def deliver (s : Scanner) (e : Event) : Scanner := { s with events := e :: s.events }

/-- Opens an element on both lists. -/
def push (s : Scanner) (name : String) (line : Nat) : Scanner :=
  { s with
    endNames := name :: s.endNames
    openElements := (name, line) :: s.openElements
    inStep := by rw [s.inStep, List.map_cons] }

/-- Closes the innermost element on both lists. -/
def pop (s : Scanner) : Scanner :=
  { s with
    endNames := s.endNames.tail
    openElements := s.openElements.tail
    inStep := by rw [s.inStep, List.map_tail] }

@[simp] theorem openElements_push (s : Scanner) (name : String) (line : Nat) :
    (s.push name line).openElements = (name, line) :: s.openElements := rfl

@[simp] theorem events_push (s : Scanner) (name : String) (line : Nat) :
    (s.push name line).events = s.events := rfl

@[simp] theorem error_push (s : Scanner) (name : String) (line : Nat) :
    (s.push name line).error = s.error := rfl

@[simp] theorem openElements_pop (s : Scanner) : s.pop.openElements = s.openElements.tail := rfl

@[simp] theorem events_pop (s : Scanner) : s.pop.events = s.events := rfl

@[simp] theorem error_pop (s : Scanner) : s.pop.error = s.error := rfl

/-- Whether one more element may open. -/
def mayOpen (s : Scanner) (options : Options) : Bool :=
  options.maxDepth.all fun limit => decide (s.openElements.length < limit)

/-- A start tag on the line of the cursor. An empty element closes at once. -/
def stepOpening (mode : AttributeMode) (options : Options) (s : Scanner) (content : List Char)
    (isEmpty : Bool) : Scanner :=
  let line := s.cursor.line
  if s.openElements.isEmpty && s.seenRoot then s.fail (.multipleRoots line)
  else match Attribute.ofTag mode content with
    | .error defect => s.fail (.malformed line defect)
    | .ok attributes =>
      if !s.mayOpen options then s.fail (.tooDeep line (options.maxDepth.getD 0))
      else
        let name := String.ofList (Attribute.tagName content)
        let s := { s with seenRoot := true }.deliver (.opening ⟨name, attributes, line⟩)
        if isEmpty then s.deliver .closing else s.push name line

/-- An end tag, which has to give the innermost name. -/
def stepClosing (s : Scanner) (found : String) : Scanner :=
  match s.endNames with
  | [] => s.fail (.malformed s.cursor.line (.unmatchedEnd found))
  | name :: _ =>
    if found = name then s.pop.deliver .closing
    else s.fail (.malformed s.cursor.line (.mismatchedEnd name found))

/-- Since both lists are of the same elements, an end tag may as well be held against the innermost
open element. What follows looks at the one list of open elements only. -/
theorem stepClosing_eq (s : Scanner) (found : String) :
    s.stepClosing found =
      match s.openElements with
      | [] => s.fail (.malformed s.cursor.line (.unmatchedEnd found))
      | (name, _) :: _ =>
        if found = name then s.pop.deliver .closing
        else s.fail (.malformed s.cursor.line (.mismatchedEnd name found)) := by
  rw [stepClosing, s.inStep]
  cases s.openElements with
  | nil => rfl
  | cons e outer => rfl

/-- A text whose references are resolved. Outside the root only blanks may stand. -/
def stepText (s : Scanner) (text : List Char) : Scanner :=
  let content := Text.trim text
  if content.isEmpty then s
  else if s.openElements.isEmpty then s.fail (.textOutsideRoot s.cursor.line)
  else s.deliver (.text (String.ofList content))

/-- Reads one token. -/
def step (mode : AttributeMode) (options : Options) (s : Scanner) (token : Token) : Scanner :=
  if s.error.isSome then s
  else
    let s := { s with cursor := s.cursor.seek token.start }
    match token.kind with
    | .opening content isEmpty => s.stepOpening mode options content isEmpty
    | .closing name => s.stepClosing (String.ofList name)
    | .text raw =>
      match Reference.resolve raw with
      | .ok text => s.stepText text
      | .error defect => s.fail (.malformed s.cursor.line (.badReference defect))
    | .characterData content => s.stepText content
    | .skipped => s

/-- The end of the tokens, perhaps at a fault. -/
def finish (fault : Option Fault) (s : Scanner) : Scanner :=
  if s.error.isSome then s
  else match fault, s.openElements with
    | some fault, _ => s.fail (.malformed (s.cursor.seek fault.position).line fault.defect)
    | none, (name, line) :: _ => s.fail (.unclosed name line)
    | none, [] => if s.seenRoot then s else s.fail .noRoot

end Scanner

/-- The events of a text. -/
def scan (text : String) (mode : AttributeMode) (options : Options) : Scan :=
  let cs := text.toList
  if Text.isAllBlank cs then ⟨[], some .empty⟩
  else
    let stream := tokenize cs
    let s := (stream.tokens.foldl (Scanner.step mode options) { cursor := .start cs }).finish
      stream.fault
    ⟨s.events.reverse, s.error⟩

/-- Whether a text is well-formed. -/
def checkWellFormed (text : String) (mode : AttributeMode) (options : Options) :
    Except Error Unit :=
  match (scan text mode options).error with
  | some e => .error e
  | none => .ok ()

end MarkupRules.Markup
