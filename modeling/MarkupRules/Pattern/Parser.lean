import MarkupRules.Pattern.Class

/-!
Reading patterns.

A pattern is read in one pass, under flags that groups and the pattern itself may change
on the way. What is read keeps the depth of its nesting, which is limited.
-/
namespace MarkupRules.Pattern

/-- An expression together with how deep its description nests. -/
structure Piece where
  expr : Expr
  depth : Nat := 0

namespace Piece

/-- Pieces one after the other. A setting of flags, which is no piece, counts as a part of the
sequence. Two or more parts are one level of their own. -/
def ofSequence (parts : List (Option Piece)) : Piece :=
  let pieces := parts.filterMap id
  let depth := pieces.foldl (fun n p => max n p.depth) 0
  ⟨.ofSequence (pieces.map (·.expr)), if parts.length ≤ 1 then depth else depth + 1⟩

/-- One of several pieces. -/
def ofBranches : List Piece → Piece
  | [branch] => branch
  | branches =>
    ⟨.ofBranches (branches.map (·.expr)), branches.foldl (fun n p => max n p.depth) 0 + 1⟩

end Piece

/-- The state of the reader. -/
structure Reading where
  flags : Flags
  /-- The names that groups have so far. -/
  names : List (List Char)
  rest : List Char

/-- How deep a pattern may nest. -/
def maxNesting : Nat := 250

/-- Whether a character may start the name of a group. -/
def startsName (c : Char) : Bool := c == '_' || Unicode.alphabetic.contains c

/-- Whether a character may stand in the name of a group. -/
def inName (c : Char) : Bool :=
  startsName c || c == '.' || c == '[' || c == ']' || Unicode.inCategory "N" c

/-- The name of a group up to its closing bracket. -/
def groupName? (names : List (List Char)) (cs : List Char) : Option (List Char × List Char) :=
  let name := cs.takeWhile (· != '>')
  match name, cs.drop name.length with
  | first :: more, '>' :: rest =>
    if startsName first && more.all inName && !names.contains name then some (name, rest)
    else none
  | _, _ => none

/-- What comes after the question mark that opens a group. -/
inductive Opening where
  /-- The flags hold for the rest of the group around. -/
  | setting (flags : Flags)
  /-- A group starts, with these flags inside. -/
  | group (flags : Flags)

/-- Letters of flags up to `:` or `)`. Each stands at most once, and those behind a hyphen, of which
there is at most one, are taken away. `seen` are the letters so far; `fresh` says that a hyphen
came last. -/
def readFlags? (f : Flags) (seen : List Char) (negated fresh : Bool) :
    List Char → Option (Opening × List Char)
  | [] => none
  | ':' :: rest => if fresh then none else some (.group f, rest)
  | ')' :: rest => if fresh || seen.isEmpty then none else some (.setting f, rest)
  | '-' :: rest => if negated then none else readFlags? f seen true true rest
  | c :: rest =>
    if seen.contains c then none
    else match f.set? c (!negated) with
      | some f => readFlags? f (c :: seen) negated false rest
      | none => none

/-- Drops one of several texts from the front. -/
def afterAny? (openings : List String) (cs : List Char) : Option (List Char) :=
  openings.findSome? fun opening =>
    if opening.toList.isPrefixOf cs then some (cs.drop opening.length) else none

/-- The start of a group behind its parenthesis. Groups that look around are not known. -/
def Reading.opening? (s : Reading) : Option (Opening × Reading) :=
  let cs := s.flags.skip s.rest
  if (afterAny? ["?=", "?!", "?<=", "?<!"] cs).isSome then none
  else match afterAny? ["?P<", "?<"] cs with
    | some rest =>
      (groupName? s.names rest).map fun (name, rest) =>
        (.group s.flags, { s with names := name :: s.names, rest })
    | none =>
      match cs with
      | '?' :: rest =>
        (readFlags? s.flags [] false false rest).map fun (opening, rest) =>
          (opening, { s with rest })
      | cs => some (.group s.flags, { s with rest := cs })

/-- The bounds of a counted repetition, behind its brace. -/
def Flags.bounds? (f : Flags) (cs : List Char) : Option ((Nat × Option Nat) × List Char) := do
  let (least, rest) ← f.decimal? (f.skip cs)
  match rest with
  | '\x7d' :: rest => some ((least, some least), f.skip rest)
  | ',' :: rest =>
    match f.skip rest with
    | '\x7d' :: rest => some ((least, none), f.skip rest)
    | rest =>
      let (most, rest) ← f.decimal? rest
      match rest with
      | '\x7d' :: rest => if least ≤ most then some ((least, some most), f.skip rest) else none
      | _ => none
  | _ => none

/-- Drops the question mark that makes a repetition a lazy one. -/
def dropLazy : List Char → List Char
  | '?' :: rest => rest
  | cs => cs

/-- The repetition that stands at the front of a text. -/
def Flags.repetition? (f : Flags) : List Char → Option ((Nat × Option Nat) × List Char)
  | '?' :: rest => some ((0, some 1), dropLazy rest)
  | '*' :: rest => some ((0, none), dropLazy rest)
  | '+' :: rest => some ((1, none), dropLazy rest)
  | '\x7b' :: rest => (f.bounds? rest).map fun (bounds, rest) => (bounds, dropLazy rest)
  | _ => none

/-- Whether a character announces a repetition. -/
def isRepetition (c : Char) : Bool := c == '?' || c == '*' || c == '+' || c == '\x7b'

/-- Repeats the last part of a sequence, which has to be a piece. -/
def repeatLast? (bounds : Nat × Option Nat) : List (Option Piece) → Option (List (Option Piece))
  | some p :: parts => some (some ⟨.copies p.expr bounds.1 bounds.2, p.depth + 1⟩ :: parts)
  | _ => none

/-- What a single character or escape matches. -/
def Flags.partExpr? (f : Flags) : Part → Option Expr
  | .char c asByte =>
    if asByte && !f.unicode && !CharSet.isAscii c then none else some (.anyOf (f.variants c))
  | .class s => some (.oneOf s)
  | .place test => some (.place test)

/-- A character or an escape at the front of a text. -/
def Flags.atom? (f : Flags) : List Char → Option (Expr × List Char)
  | [] => none
  | '\\' :: rest => do
    let (part, rest) ← f.escape? rest
    (f.partExpr? part).map (·, rest)
  | '.' :: rest => f.dot?.map fun s => (.oneOf s, rest)
  | '^' :: rest => some (.place f.caret, rest)
  | '$' :: rest => some (.place f.dollar, rest)
  | c :: rest => (f.partExpr? (.char c false)).map (·, rest)

/-- Reads up to the end of the text or a parenthesis that closes. `branches` are the alternatives
that are complete and `parts` what the current one has so far, both last first. Each step
consumes a character, so `fuel` is their number. -/
def Reading.alternatives? : Nat → Reading → List Piece → List (Option Piece) →
    Option (Piece × Reading)
  | 0, _, _, _ => none
  | fuel + 1, s, branches, parts =>
    let s := { s with rest := s.flags.skip s.rest }
    let branch := Piece.ofSequence parts.reverse
    match s.rest with
    | [] => some (.ofBranches (branch :: branches).reverse, s)
    | ')' :: _ => some (.ofBranches (branch :: branches).reverse, s)
    | '|' :: rest => alternatives? fuel { s with rest } (branch :: branches) []
    | '(' :: rest => do
      let (opening, inside) ← { s with rest }.opening?
      match opening with
      | .setting flags => alternatives? fuel { inside with flags } branches (none :: parts)
      | .group flags =>
        let (inner, behind) ← alternatives? fuel { inside with flags } [] []
        match behind.rest with
        | ')' :: rest =>
          alternatives? fuel { behind with flags := s.flags, rest } branches
            (some { inner with depth := inner.depth + 1 } :: parts)
        | _ => none
    | '[' :: rest => do
      let (part, rest) ← s.flags.class? rest
      alternatives? fuel { s with rest } branches (some ⟨.oneOf part.set, part.depth⟩ :: parts)
    | c :: rest =>
      if isRepetition c then do
        let (bounds, rest) ← s.flags.repetition? (c :: rest)
        let parts ← repeatLast? bounds parts
        alternatives? fuel { s with rest } branches parts
      else do
        let (expr, rest) ← s.flags.atom? (c :: rest)
        alternatives? fuel { s with rest } branches (some ⟨expr, 0⟩ :: parts)

/-- The expression that a pattern describes. -/
def parse? (flags : Flags) (source : List Char) : Option Expr :=
  match Reading.alternatives? (source.length + 1) ⟨flags, [], source⟩ [] [] with
  | some (piece, ⟨_, _, []⟩) => if piece.depth ≤ maxNesting then some piece.expr else none
  | _ => none

end MarkupRules.Pattern
