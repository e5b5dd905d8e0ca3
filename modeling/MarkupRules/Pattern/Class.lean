import MarkupRules.Pattern.Escape

/-!
Classes of characters between brackets.

The items of a class add up. `&&`, `--` and `~~` take all that stands on their left up to
the start of the class as one operand and the items up to the next of them as the other.
-/
namespace MarkupRules.Pattern

/-- A set together with how deep its description nests. -/
structure ClassPart where
  set : CharSet
  depth : Nat := 0

/-- The operations on classes. -/
inductive ClassOp where
  | inter
  | diff
  | symmDiff
  deriving Repr, DecidableEq

/-- The result of an operation. -/
def ClassOp.apply : ClassOp → CharSet → CharSet → CharSet
  | .inter => .inter
  | .diff => .diff
  | .symmDiff => .symmDiff

/-- Items that add up. Two or more are one level of their own. -/
def ClassPart.ofItems : List ClassPart → ClassPart
  | [] => ⟨fun _ => false, 0⟩
  | [item] => item
  | items =>
    ⟨fun c => items.any (·.set c), (items.foldl (fun n item => max n item.depth) 0) + 1⟩

namespace Flags

/-- What stands on the left of an operation together with what stands on its right. -/
def combine (f : Flags) (left : Option (ClassOp × ClassPart)) (right : ClassPart) : ClassPart :=
  match left with
  | none => right
  | some (op, left) =>
    ⟨op.apply (f.fold left.set) (f.fold right.set), max left.depth right.depth + 1⟩

/-- A character that may stand in a class: without Unicode only one of ASCII. -/
def classChar? (f : Flags) (c : Char) : Option Char :=
  if f.unicode || CharSet.isAscii c then some c else none

/-- One character or escape inside a class. -/
def classItem? (f : Flags) : List Char → Option (Part × List Char)
  | [] => none
  | '\\' :: rest => f.escape? rest
  | c :: rest => some (.char c false, rest)

/-- The next character that means something, found by a glance: at most one `#` and the blanks
around it are passed over. -/
def glance (f : Flags) (cs : List Char) : Option Char :=
  if !f.verbose then cs.head?
  else match Text.trimStart cs with
    | '#' :: rest => (Text.trimStart rest).head?
    | rest => rest.head?

/-- The set of a single item. -/
def itemSet? (f : Flags) : Part → Option CharSet
  | .char c _ => (f.classChar? c).map .single
  | .class s => some s
  | .place _ => none

/-- The character of an item that bounds a range. -/
def bound? (f : Flags) : Part → Option Char
  | .char c _ => f.classChar? c
  | _ => none

/-- An item or a range. A hyphen in front of the closing bracket or of another hyphen makes no
range. -/
def classRange? (f : Flags) (cs : List Char) : Option (CharSet × List Char) := do
  let (first, rest) ← f.classItem? cs
  match f.skip rest with
  | [] => none
  | '-' :: behind =>
    let next := f.glance behind
    if next == some ']' || next == some '-' then (f.itemSet? first).map (·, '-' :: behind)
    else
      let (last, rest) ← f.classItem? (f.skip behind)
      let lo ← f.bound? first
      let hi ← f.bound? last
      if lo ≤ hi then some (.range lo hi, rest) else none
  | rest => (f.itemSet? first).map (·, rest)

/-- A class with a name between colons, behind its bracket: the set, whether its complement is
meant, and what follows. -/
def colonClass? : List Char → Option (CharSet × Bool × List Char)
  | ':' :: rest =>
    let (negated, rest) := match rest with
      | '^' :: rest => (true, rest)
      | rest => (false, rest)
    match rest.dropWhile (· != ':') with
    | ':' :: ']' :: behind =>
      (CharSet.asciiClass? (String.ofList (rest.takeWhile (· != ':')))).map (·, negated, behind)
    | _ => none
  | _ => none

/-- The start of a class behind its bracket: whether its complement is meant, and the characters
that stand for themselves because they come first. These are hyphens or one closing bracket. -/
def classStart? (f : Flags) (cs : List Char) : Option (Bool × List ClassPart × List Char) :=
  let cs := f.skip cs
  let (negated, cs) := match cs with
    | '^' :: rest => (true, f.skip rest)
    | cs => (false, cs)
  let (hyphens, rest) := f.takeApart (· == '-') cs.length cs
  match hyphens, rest with
  | _, [] => none
  | [], ']' :: rest => some (negated, [⟨.single ']', 0⟩], f.skip rest)
  | hyphens, rest => some (negated, hyphens.map fun c => ⟨.single c, 0⟩, rest)

/-- A class whose body is complete. -/
def closeClass? (f : Flags) (negated : Bool) (body : ClassPart) : Option ClassPart :=
  (f.negate? negated (f.fold body.set)).map fun s => ⟨s, body.depth + 1⟩

/-- The body of a class up to its closing bracket. `items` are those since the last operation,
last first. Each step consumes a character, so `fuel` is their number. -/
def classBody? (f : Flags) : Nat → Option (ClassOp × ClassPart) → List ClassPart → List Char →
    Option (ClassPart × List Char)
  | 0, _, _, _ => none
  | fuel + 1, left, items, cs =>
    let whole := f.combine left (.ofItems items.reverse)
    match f.skip cs with
    | [] => none
    | ']' :: rest => some (whole, rest)
    | '&' :: '&' :: rest => f.classBody? fuel (some (.inter, whole)) [] rest
    | '-' :: '-' :: rest => f.classBody? fuel (some (.diff, whole)) [] rest
    | '~' :: '~' :: rest => f.classBody? fuel (some (.symmDiff, whole)) [] rest
    | '[' :: rest =>
      match colonClass? rest with
      | some (s, negated, rest) => do
        let s ← f.negate? negated (f.fold s)
        f.classBody? fuel left (⟨s, 0⟩ :: items) rest
      | none => do
        let (negated, first, rest) ← f.classStart? rest
        let (body, rest) ← f.classBody? fuel none first rest
        let inner ← f.closeClass? negated body
        f.classBody? fuel left (inner :: items) rest
    | cs => do
      let (s, rest) ← f.classRange? cs
      f.classBody? fuel left (⟨s, 0⟩ :: items) rest

/-- A class behind its opening bracket. -/
def class? (f : Flags) (cs : List Char) : Option (ClassPart × List Char) := do
  let (negated, first, rest) ← f.classStart? cs
  let (body, rest) ← f.classBody? (cs.length + 1) none first rest
  (f.closeClass? negated body).map (·, rest)

end Flags

end MarkupRules.Pattern
