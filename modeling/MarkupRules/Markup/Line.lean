/-!
Lines of a text.

`lineAt` says on which line a position lies. A `LineCursor` answers the same question
for one position after the other without counting from the start each time.
-/
namespace MarkupRules.Markup

/-- The number of line ends among the first `position` bytes of a text. -/
def newlinesBefore (position : Nat) : List Char → Nat
  | [] => 0
  | c :: rest =>
    if position = 0 then 0
    else (if c = '\n' then 1 else 0) + newlinesBefore (position - c.utf8Size) rest

/-- The line, counted from one, on which a position lies. -/
def lineAt (cs : List Char) (position : Nat) : Nat := 1 + newlinesBefore position cs

/-- A place in a text together with its line. -/
structure LineCursor where
  text : List Char
  /-- What follows the place. -/
  rest : List Char
  /-- The number of bytes before the place. -/
  offset : Nat
  line : Nat
  deriving Repr, DecidableEq

namespace LineCursor

/-- The start of a text. -/
def start (text : List Char) : LineCursor := ⟨text, text, 0, 1⟩

/-- Moves on over `rest` until `position` bytes are behind. -/
def forward (text : List Char) (position offset line : Nat) : List Char → LineCursor
  | [] => ⟨text, [], offset, line⟩
  | c :: rest =>
    if offset < position then
      forward text position (offset + c.utf8Size) (if c = '\n' then line + 1 else line) rest
    else ⟨text, c :: rest, offset, line⟩

/-- Moves to a position; one that lies behind is reached from the start. -/
def seek (c : LineCursor) (position : Nat) : LineCursor :=
  if position < c.offset then forward c.text position 0 1 c.text
  else forward c.text position c.offset c.line c.rest

end LineCursor

end MarkupRules.Markup
