import MarkupRules.Number.Literal
import MarkupRules.Pattern.Flags
import MarkupRules.Text.Blank

/-!
The small parts of patterns: blanks, numbers and what follows a backslash.
-/
namespace MarkupRules.Pattern

/-- Drops blanks and comments, which run from `#` to the end of the line. -/
def dropRemarks (inComment : Bool) : List Char → List Char
  | [] => []
  | c :: rest =>
    if inComment then dropRemarks (c != '\n') rest
    else if Text.isBlank c then dropRemarks false rest
    else if c = '#' then dropRemarks true rest
    else c :: rest

/-- Drops what means nothing under the flags. -/
def Flags.skip (f : Flags) (cs : List Char) : List Char :=
  if f.verbose then dropRemarks false cs else cs

/-- Takes up to `most` characters for which `p` holds, passing over what means nothing behind
each. -/
def Flags.takeApart (f : Flags) (p : Char → Bool) : Nat → List Char → List Char × List Char
  | 0, cs => ([], cs)
  | _, [] => ([], [])
  | most + 1, c :: rest =>
    if p c then
      let (taken, rest) := f.takeApart p most (f.skip rest)
      (c :: taken, rest)
    else ([], c :: rest)

/-- A number of 32 bits in decimal, perhaps between blanks. -/
def Flags.decimal? (f : Flags) (cs : List Char) : Option (Nat × List Char) :=
  let cs := Text.trimStart cs
  let (digits, rest) := f.takeApart Char.isDigit cs.length cs
  let n := Number.digitsValue digits
  if digits.isEmpty || Nat.pow 2 32 ≤ n then none else some (n, Text.trimStart rest)

/-- Whether a character is a hexadecimal digit. -/
def isHexDigit (c : Char) : Bool := (Number.digitValue? 16 c).isSome

/-- The character with a code point in hexadecimal. -/
def ofHex? (digits : List Char) : Option Char :=
  let n := digits.foldl (fun n c => n * 16 + (Number.digitValue? 16 c).getD 0) 0
  if h : n.isValidChar then some (Char.ofNatAux n h) else none

/-- What a single character or an escape stands for. -/
inductive Part where
  /-- A character. One that was written as a byte may have to be of ASCII. -/
  | char (c : Char) (asByte : Bool)
  | class (s : CharSet)
  | place (test : PlaceTest)

/-- Hexadecimal digits: so many in a row, or any number between braces. -/
def Flags.hexEscape? (f : Flags) (width : Nat) (cs : List Char) : Option (Part × List Char) :=
  match f.skip cs with
  | '\x7b' :: rest =>
    let rest := f.skip rest
    let (digits, rest) := f.takeApart isHexDigit rest.length rest
    match rest with
    | '\x7d' :: rest =>
      if digits.isEmpty then none else (ofHex? digits).map (.char · false, f.skip rest)
    | _ => none
  | rest =>
    let (digits, rest) := f.takeApart isHexDigit width rest
    if digits.length < width then none
    else (ofHex? digits).map fun c => (.char c (width = 2), rest)

/-- The class with a name of one letter or between braces. -/
def Flags.namedClass? (f : Flags) (negated : Bool) (cs : List Char) :
    Option (Part × List Char) := do
  let (s, rest) ← match f.skip cs with
    | [] => none
    | '\\' :: _ => none
    | '\x7b' :: rest =>
      let rest := f.skip rest
      let (name, rest) := f.takeApart (· != '\x7d') rest.length rest
      match rest with
      | '\x7d' :: rest => (CharSet.ofText? name).map (·, rest)
      | _ => none
    | c :: rest => (CharSet.named? [c]).map (·, f.skip rest)
  if !f.unicode then none else (f.negate? negated (f.fold s)).map (.class ·, rest)

/-- The word boundary with a name between braces. -/
def Flags.namedBoundary? (f : Flags) (name : List Char) : Option PlaceTest :=
  match String.ofList name with
  | "start" => some (.atWordStart f.word)
  | "end" => some (.atWordEnd f.word)
  | "start-half" => some (.atWordStartHalf f.word)
  | "end-half" => some (.atWordEndHalf f.word)
  | _ => none

/-- A word boundary. Braces behind it hold the name of a kind of boundary if they start with a
letter or a hyphen; otherwise they count copies and are left alone. -/
def Flags.boundary? (f : Flags) (cs : List Char) : Option (Part × List Char) :=
  let isName (c : Char) : Bool := c.isAlpha || c == '-'
  let plain : Part := .place (.atWordBoundary f.word)
  match cs with
  | '\x7b' :: rest =>
    let rest := f.skip rest
    match rest with
    | [] => none
    | c :: _ =>
      if !isName c then some (plain, cs)
      else
        match f.takeApart isName rest.length rest with
        | (name, '\x7d' :: rest) => (f.namedBoundary? name).map (.place ·, rest)
        | _ => none
  | _ => some (plain, cs)

/-- The control characters with a letter. -/
def control? (c : Char) : Option Char :=
  match c with
  | 'a' => some '\x07'
  | 'f' => some '\x0c'
  | 't' => some '\t'
  | 'n' => some '\n'
  | 'r' => some '\r'
  | 'v' => some '\x0b'
  | _ => none

/-- Whether a backslash takes a character's meaning away: any of ASCII may have one but letters,
digits and angle brackets. -/
def isEscapable (c : Char) : Bool :=
  CharSet.isAscii c && !(c.isAlphanum || c == '<' || c == '>')

/-- What follows a backslash. -/
def Flags.escape? (f : Flags) : List Char → Option (Part × List Char)
  | [] => none
  | c :: rest =>
    match c with
    | 'x' => f.hexEscape? 2 rest
    | 'u' => f.hexEscape? 4 rest
    | 'U' => f.hexEscape? 8 rest
    | 'p' => f.namedClass? false rest
    | 'P' => f.namedClass? true rest
    | 'd' | 's' | 'w' | 'D' | 'S' | 'W' => (f.letterClass? c).map (.class ·, rest)
    | 'A' => some (.place .atStart, rest)
    | 'z' => some (.place .atEnd, rest)
    | 'b' => f.boundary? rest
    | 'B' => some (.place (.offWordBoundary f.word), rest)
    | '<' => some (.place (.atWordStart f.word), rest)
    | '>' => some (.place (.atWordEnd f.word), rest)
    | c =>
      if isEscapable c then some (.char c false, rest)
      else (control? c).map (.char · false, rest)

end MarkupRules.Pattern
