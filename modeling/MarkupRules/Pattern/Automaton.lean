import MarkupRules.Pattern.Expr

/-!
The size of automata.

An automaton over the bytes of UTF-8 finds an expression in one pass over a text, but it
holds every copy of a part that repeats. Its size is counted in bytes: a state takes 32,
and one with several ways out takes more for each. `Expr.fits` says whether that stays
within bounds.
-/
namespace MarkupRules.Pattern

/-- Code points that follow one another, by the first and the last. -/
structure Run where
  first : Nat
  last : Nat
  deriving Repr, DecidableEq

namespace Run

/-- Puts a code point in front of runs that start behind it. -/
def cons (n : Nat) : List Run → List Run
  | [] => [⟨n, n⟩]
  | r :: runs => if r.first = n + 1 then ⟨n, r.last⟩ :: runs else ⟨n, n⟩ :: r :: runs

/-- The runs of characters. -/
def ofChars (cs : List Char) : List Run :=
  ((cs.map Char.toNat).mergeSort (· ≤ ·)).foldr cons []

/-- The runs of a set below a code point, in front of those that start there or behind. -/
def ofSetBelow (s : CharSet) : Nat → List Run → List Run
  | 0, runs => runs
  | n + 1, runs =>
    ofSetBelow s n <|
      if h : n.isValidChar then (if s (Char.ofNatAux n h) then cons n runs else runs) else runs

/-- The runs of a set. -/
def ofSet (s : CharSet) : List Run := ofSetBelow s 0x110000 []

/-- A range for each byte of a character, without the bits that mark its place. -/
abbrev Digits := List (Nat × Nat)

/-- The numbers from `lo` to `hi`, written with `count` digits of base 64 behind the first, as
products of ranges in ascending order. -/
def digits : Nat → Nat → Nat → List Digits
  | 0, lo, hi => [[(lo, hi)]]
  | count + 1, lo, hi =>
    let base := Nat.pow 64 (count + 1)
    let a := lo / base
    let b := hi / base
    if a = b then (digits count (lo % base) (hi % base)).map ((a, a) :: ·)
    else
      let startsWhole := lo % base == 0
      let endsWhole := hi % base == base - 1
      let first := if startsWhole then a else a + 1
      let last := if endsWhole then b else b - 1
      (if startsWhole then [] else (digits count (lo % base) (base - 1)).map ((a, a) :: ·)) ++
        (if first ≤ last then [(first, last) :: List.replicate (count + 1) (0, 63)] else []) ++
        (if endsWhole then [] else (digits count 0 (hi % base)).map ((b, b) :: ·))

/-- The ranges of code points that take one, two, three and four bytes. -/
def byLength : List Run := [⟨0, 0x7F⟩, ⟨0x80, 0x7FF⟩, ⟨0x800, 0xFFFF⟩, ⟨0x10000, 0x10FFFF⟩]

/-- A run as products of ranges of bytes. -/
def bytes (r : Run) : List Digits :=
  byLength.zipIdx.flatMap fun (range, count) =>
    let first := max r.first range.first
    let last := min r.last range.last
    if first ≤ last then digits count first last else []

/-- How many ranges two products start with in common. -/
def shared : Digits → Digits → Nat
  | r :: rest, t :: others => if r = t then shared rest others + 1 else 0
  | _, _ => 0

/-- The states for products of ranges behind `previous`. A product shares the states of what it
starts with in common with the one before, if both take as many bytes. -/
def stateCount (previous : Digits) : List Digits → Nat
  | [] => 0
  | product :: rest =>
    let common := if product.length = previous.length then shared previous product else 0
    product.length - common + stateCount product rest

/-- The size for one character out of runs. If it can be but one, each of its bytes takes a state;
if it is of ASCII, a single state leads on. -/
def size (runs : List Run) : Nat :=
  let products := runs.flatMap bytes
  if runs.all fun r => decide (runs.length = 1 ∧ r.first = r.last) then
    32 * products.flatten.length
  else if runs.all fun r => decide (r.last < 0x80) then 64 + 8 * runs.length
  else 64 + 4 * products.length + 32 * stateCount [] products

end Run

namespace Expr

/-- Whether an expression matches the empty text only. -/
def isZeroWidth : Expr → Bool
  | empty | place _ => true
  | anyOf _ | oneOf _ => false
  | seq first second | either first second => first.isZeroWidth && second.isZeroWidth
  | copies e _ max => e.isZeroWidth || max == some 0

/-- The size of so many copies of a part of size `n`. What may be left out takes a state that
leads past it. -/
def copiesSize (n min : Nat) (max : Option Nat) : Nat :=
  match max with
  | none => Nat.max 1 min * n + 40
  | some max => min * n + if min < max then 32 + (max - min) * (n + 40) else 0

/-- The size of an expression, where `setSize` is that of a set. Copies of what takes no
character count once. -/
def size (setSize : CharSet → Nat) : Expr → Nat
  | empty | place _ => 32
  | anyOf [c] => 32 * c.utf8Size
  | anyOf cs => Run.size (Run.ofChars cs)
  | oneOf s => setSize s
  | seq first second => first.size setSize + second.size setSize
  | either first second => first.size setSize + second.size setSize + 72
  | copies e least most =>
    if e.isZeroWidth then copiesSize (e.size setSize) (min 1 least) (some (min 1 (most.getD 1)))
    else copiesSize (e.size setSize) least most

/-- The greatest size of an automaton. -/
def maxSize : Nat := 10 * 1024 * 1024

/-- The size of what an automaton has besides its expression. -/
def frameSize : Nat := 208

/-- A size that no set exceeds that a pattern is likely to name. -/
def largeSetSize : Nat := 64 * 1024

/-- Whether the automaton of an expression stays within bounds. The sets are looked at only if
their number makes a difference. -/
def fits (e : Expr) : Bool :=
  decide (e.size (fun _ => largeSetSize) + frameSize ≤ maxSize) ||
    decide (e.size (Run.size ∘ Run.ofSet) + frameSize ≤ maxSize)

end Expr

end MarkupRules.Pattern
