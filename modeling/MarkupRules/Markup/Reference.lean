import MarkupRules.Markup.Error
import MarkupRules.Number.Literal

/-!
References: characters of a text that are written by name or by number.

`resolve` replaces the five named references and those by code point.
-/
namespace MarkupRules.Markup.Reference

/-- The characters with a name. -/
def named? (name : String) : Option Char :=
  match name with
  | "lt" => some '<'
  | "gt" => some '>'
  | "amp" => some '&'
  | "apos" => some '\''
  | "quot" => some '"'
  | _ => none

/-- Appends digits to a number that fits in 32 bits. -/
def pushDigits (radix : Nat) (n : Nat) : List Char → Except CodePointDefect Nat
  | [] => .ok n
  | c :: rest =>
    match Number.digitValue? radix c with
    | none => .error .invalidDigit
    | some digit =>
      let next := n * radix + digit
      if next < Nat.pow 2 32 then pushDigits radix next rest else .error .tooLarge

/-- The number that unsigned digits denote. -/
def number (radix : Nat) (digits : List Char) : Except CodePointDefect Nat :=
  match digits with
  | [] => .error .empty
  | '+' :: _ | '-' :: _ => .error .sign
  | digits => pushDigits radix 0 digits

/-- The character with a code point. -/
def ofCode (code : Nat) : Except CodePointDefect Char :=
  if code = 0 then .error .zero
  else if h : code.isValidChar then .ok (Char.ofNatAux code h)
  else .error (.notScalar code)

/-- The character that a number names, in decimal or behind `x` in hexadecimal. -/
def numbered : List Char → Except CodePointDefect Char
  | 'x' :: digits => (number 16 digits).bind ofCode
  | digits => (number 10 digits).bind ofCode

/-- The character that a reference between `&` and `;` stands for; it starts at byte `start`. -/
def target (start : Nat) (name : List Char) : Except ReferenceDefect Char :=
  match name with
  | '#' :: digits => (numbered digits).mapError .codePoint
  | name =>
    match named? (String.ofList name) with
    | some c => .ok c
    | none =>
      .error (.unknownEntity start (start + Text.byteLength name) (String.ofList name))

/-- Resolves references. `offset` bytes came before; `pending` is the reference at hand, with the
place of its ampersand and its characters so far, last first; `done` is what was resolved, last
first. A semicolon outside a reference is an ordinary character. -/
def resolveFrom (length offset : Nat) (pending : Option (Nat × List Char)) (done : List Char) :
    List Char → Except ReferenceDefect (List Char)
  | [] =>
    match pending with
    | some (start, _) => .error (.unterminated start length)
    | none => .ok done.reverse
  | c :: rest =>
    let next := offset + c.utf8Size
    match pending with
    | none =>
      if c = '&' then resolveFrom length next (some (offset, [])) done rest
      else resolveFrom length next none (c :: done) rest
    | some (start, name) =>
      if c = '&' then .error (.unterminated start length)
      else if c = ';' then
        match target (start + 1) name.reverse with
        | .ok d => resolveFrom length next none (d :: done) rest
        | .error defect => .error defect
      else resolveFrom length next (some (start, c :: name)) done rest

/-- The text that `raw` stands for. -/
def resolve (raw : List Char) : Except ReferenceDefect (List Char) :=
  resolveFrom (Text.byteLength raw) 0 none [] raw

end MarkupRules.Markup.Reference
