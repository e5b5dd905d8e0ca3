import MarkupRules.Markup.Error

/-!
Tokens of markup.

`tokenize` cuts a text into tags, character data and constructs that carry no data. It
is a fold of `Lexer.step` over the characters, so what a text contributes depends only on
the state in which the lexer reaches it. The first fault ends the token stream.
-/
namespace MarkupRules.Markup

/-- The blanks that separate the parts of a tag. -/
def isTagBlank (c : Char) : Bool := c == ' ' || c == '\t' || c == '\n' || c == '\r'

/-- What a token is. -/
inductive Token.Kind where
  /-- Text between tags, with its references as written. -/
  | text (raw : List Char)
  /-- The content of a section in which nothing is markup. -/
  | characterData (content : List Char)
  /-- A start tag: its content without the angle brackets and, if it stands for a whole empty
  element, without the slash at its end. -/
  | opening (content : List Char) (isEmpty : Bool)
  /-- The name in an end tag. -/
  | closing (name : List Char)
  /-- A comment, an instruction or a declaration. -/
  | skipped
  deriving Repr, DecidableEq

/-- A token and the number of bytes before it. -/
structure Token where
  start : Nat
  kind : Token.Kind
  deriving Repr, DecidableEq

/-- A fault and the number of bytes before the place that it is blamed on. -/
structure Fault where
  position : Nat
  defect : Defect
  deriving Repr, DecidableEq

/-- What the lexer is in the middle of. -/
inductive Lexer.Mode where
  | text
  /-- Behind `<`. -/
  | opened
  /-- Behind `<!`. -/
  | bang
  | comment
  | characterData
  /-- Inside a document type, with so many angle brackets open. -/
  | doctype (depth : Nat)
  | instruction
  /-- Inside a start or end tag, perhaps between quotes. -/
  | tag (quote : Option Char)
  deriving Repr, DecidableEq

/-- The state of the lexer. -/
structure Lexer where
  /-- The tokens that are complete, last first. -/
  tokens : List Token := []
  /-- The fault that ended the stream. -/
  fault : Option Fault := none
  /-- The number of bytes before the token at hand. -/
  start : Nat := 0
  /-- The number of bytes read. -/
  offset : Nat := 0
  mode : Lexer.Mode := .text
  /-- What the token at hand holds behind its `<`, if it has one, last first. -/
  held : List Char := []
  deriving Repr, DecidableEq

namespace Lexer

/-- The end of markup that is skipped starts behind these characters. -/
def startsWith (opening : String) (held : List Char) : Bool :=
  opening.toList.isPrefixOf held.reverse

/-- Whether a comment may end here: it ends in `--` and these are not the ones it started with. -/
def commentMayEnd : List Char → Bool
  | '-' :: '-' :: _ :: _ :: _ :: _ => true
  | _ => false

/-- Whether a section of character data may end here. -/
def characterDataMayEnd : List Char → Bool
  | ']' :: ']' :: _ => true
  | _ => false

/-- The content of a section whose held characters are `![CDATA[` … `]]`. -/
def characterDataContent (held : List Char) : List Char := (held.drop 2).reverse.drop 8

/-- Whether the held characters are `!DOCTYPE` in letters of either case and more. -/
def isDoctype (held : List Char) : Bool :=
  (held.reverse.take 8).map Char.toUpper == "!DOCTYPE".toList

/-- Whether a document type has a name. -/
def hasDoctypeName (held : List Char) : Bool := (held.reverse.drop 8).any (!isTagBlank ·)

/-- The name in an end tag, without the blanks behind it. A name of blanks alone is kept. -/
def closingName (content : List Char) : List Char :=
  if content.all isTagBlank then content else (content.reverse.dropWhile isTagBlank).reverse

/-- The token of a tag that holds these characters, last first. -/
def tagKind (held : List Char) : Token.Kind :=
  match held.reverse, held with
  | '/' :: name, _ => .closing (closingName name)
  | _, '/' :: content => .opening content.reverse true
  | content, _ => .opening content false

/-- Ends the token at hand. -/
def complete (s : Lexer) (kind : Token.Kind) : Lexer :=
  { s with tokens := ⟨s.start, kind⟩ :: s.tokens, start := s.offset, mode := .text, held := [] }

/-- Ends the stream with a fault at the start of the token at hand. -/
def fail (s : Lexer) (defect : Defect) : Lexer := { s with fault := some ⟨s.start, defect⟩ }

/-- Takes a character into the token at hand. -/
def hold (s : Lexer) (c : Char) : Lexer := { s with held := c :: s.held }

/-- Ends the text at hand, if there is any. -/
def completeText (s : Lexer) : Lexer :=
  if s.held.isEmpty then s else s.complete (.text s.held.reverse)

/-- Counts a character as read. -/
def advance (s : Lexer) (c : Char) : Lexer := { s with offset := s.offset + c.utf8Size }

/-- A character inside a tag. Angle brackets between quotes do not end it. -/
def stepTag (s : Lexer) (quote : Option Char) (c : Char) : Lexer :=
  match quote with
  | some q => { (s.advance c).hold c with mode := .tag (if c = q then none else some q) }
  | none =>
    if c = '>' then (s.advance c).complete (tagKind s.held)
    else if c = '"' || c = '\'' then { (s.advance c).hold c with mode := .tag (some c) }
    else { (s.advance c).hold c with mode := .tag none }

/-- The first character behind `<!`, which says what the construct is. -/
def stepBang (s : Lexer) (c : Char) : Lexer :=
  let next := (s.advance c).hold c
  if c = '[' then { next with mode := .characterData }
  else if c = '-' then { next with mode := .comment }
  else if c = 'D' || c = 'd' then { next with mode := .doctype 0 }
  else s.fail .unknownMarkup

/-- A character inside a comment. -/
def stepComment (s : Lexer) (c : Char) : Lexer :=
  if c = '>' && commentMayEnd s.held then
    if startsWith "!--" s.held then (s.advance c).complete .skipped
    else s.fail (.unfinished .comment)
  else (s.advance c).hold c

/-- A character inside a section of character data. -/
def stepCharacterData (s : Lexer) (c : Char) : Lexer :=
  if c = '>' && characterDataMayEnd s.held then
    if startsWith "![CDATA[" s.held then
      (s.advance c).complete (.characterData (characterDataContent s.held))
    else s.fail (.unfinished .characterData)
  else (s.advance c).hold c

/-- A character inside a document type. A missing name is blamed on the closing bracket. -/
def stepDoctype (s : Lexer) (depth : Nat) (c : Char) : Lexer :=
  if c = '<' then { (s.advance c).hold c with mode := .doctype (depth + 1) }
  else if c = '>' then
    match depth with
    | outer + 1 => { (s.advance c).hold c with mode := .doctype outer }
    | 0 =>
      if !isDoctype s.held then s.fail (.unfinished .doctype)
      else if hasDoctypeName s.held then (s.advance c).complete .skipped
      else { s with fault := some ⟨s.offset, .missingDoctypeName⟩ }
  else (s.advance c).hold c

/-- A character inside an instruction. The question mark at its start does not end it. -/
def stepInstruction (s : Lexer) (c : Char) : Lexer :=
  match s.held with
  | '?' :: more =>
    if c = '>' then
      if more.isEmpty then s.fail (.unfinished .instruction)
      else (s.advance c).complete .skipped
    else (s.advance c).hold c
  | _ => (s.advance c).hold c

/-- Reads one character. -/
def step (s : Lexer) (c : Char) : Lexer :=
  if s.fault.isSome then s
  else match s.mode with
    | .text =>
      if c = '<' then { s.completeText.advance c with mode := .opened }
      else (s.advance c).hold c
    | .opened =>
      if c = '!' then { (s.advance c).hold c with mode := .bang }
      else if c = '?' then { (s.advance c).hold c with mode := .instruction }
      else s.stepTag none c
    | .bang => s.stepBang c
    | .comment => s.stepComment c
    | .characterData => s.stepCharacterData c
    | .doctype depth => s.stepDoctype depth c
    | .instruction => s.stepInstruction c
    | .tag quote => s.stepTag quote c

/-- The end of the text. -/
def finish (s : Lexer) : Lexer :=
  if s.fault.isSome then s
  else match s.mode with
    | .text => s.completeText
    | .opened | .tag _ => s.fail (.unfinished .tag)
    | .bang => s.fail .unknownMarkup
    | .comment => s.fail (.unfinished .comment)
    | .characterData => s.fail (.unfinished .characterData)
    | .doctype _ => s.fail (.unfinished .doctype)
    | .instruction => s.fail (.unfinished .instruction)

end Lexer

/-- The tokens of a text, and the fault that ended them early. -/
structure TokenStream where
  tokens : List Token
  fault : Option Fault
  deriving Repr, DecidableEq

/-- Drops the mark that may stand in front of a text to show its byte order. -/
def dropByteOrderMark : List Char → List Char
  | '\ufeff' :: rest => rest
  | cs => cs

/-- Cuts a text into tokens. Bytes are counted behind a byte order mark. -/
def tokenize (cs : List Char) : TokenStream :=
  let s := ((dropByteOrderMark cs).foldl Lexer.step {}).finish
  ⟨s.tokens.reverse, s.fault⟩

end MarkupRules.Markup
