import MarkupRules.Pattern.Expr

/-!
Matching expressions.

A set of places in a text is a natural number whose bit `i` says whether the place behind
`i` characters is in it. An expression turns the places where it may start into those
where it may end, all at once, so the time does not grow with the number of ways to
match.
-/
namespace MarkupRules.Pattern

/-- A set of places. -/
abbrev Places := Nat

namespace Places

/-- The places whose number passes a test, among the first `n`. -/
def ofTests : List Bool → Places
  | [] => 0
  | b :: rest => (if b then 1 else 0) + 2 * ofTests rest

/-- The characters before and behind each place of a text. -/
def neighbours (before : Option Char) : List Char → List (Option Char × Option Char)
  | [] => [(before, none)]
  | c :: rest => (before, some c) :: neighbours (some c) rest

/-- All places that `step` leads to from `places` in any number of rounds, at most `fuel`; rounds
that add nothing end it early. -/
def closure (step : Places → Places) : Nat → Places → Places
  | 0, places => places
  | fuel + 1, places =>
    let next := places ||| step places
    if next = places then places else closure step fuel next

/-- The places after exactly `n` rounds; nothing follows from no place. -/
def rounds (step : Places → Places) : Nat → Places → Places
  | 0, places => places
  | n + 1, places => if places = 0 then 0 else rounds step n (step places)

/-- The places after at most `n` rounds. -/
def roundsUpTo (step : Places → Places) : Nat → Places → Places
  | 0, places => places
  | n + 1, places =>
    let next := places ||| step places
    if next = places then places else roundsUpTo step n next

end Places

/-- An expression prepared for one text. -/
inductive Motion where
  | stay
  /-- One character further from each of these places. -/
  | advance (places : Places)
  /-- On from these places only. -/
  | filter (places : Places)
  | seq (first second : Motion)
  | either (first second : Motion)
  | copies (m : Motion) (min : Nat) (max : Option Nat)

/-- Prepares an expression for a text of `length` characters. More copies than there are places
lead nowhere that fewer do not, so counts are cut there. -/
def Expr.motion (chars : List Char) (length : Nat) : Expr → Motion
  | .empty => .stay
  | .anyOf cs => .advance (.ofTests (chars.map cs.contains))
  | .oneOf s => .advance (.ofTests (chars.map s))
  | .place test =>
    .filter (.ofTests ((Places.neighbours none chars).map fun (before, behind) =>
      test before behind))
  | .seq first second => .seq (first.motion chars length) (second.motion chars length)
  | .either first second => .either (first.motion chars length) (second.motion chars length)
  | .copies e least most =>
    .copies (e.motion chars length) (min least (length + 2))
      (most.map fun n => min n (length + 2))

/-- Where a motion ends that starts at one of `places`. -/
def Motion.run (length : Nat) : Motion → Places → Places
  | .stay, places => places
  | .advance starts, places => (places &&& starts) <<< 1
  | .filter allowed, places => places &&& allowed
  | .seq first second, places => second.run length (first.run length places)
  | .either first second, places => first.run length places ||| second.run length places
  | .copies m min max, places =>
    let least := Places.rounds (m.run length) min places
    match max with
    | none => Places.closure (m.run length) (length + 1) least
    | some max => Places.roundsUpTo (m.run length) (max - min) least

/-- Whether an expression matches a part of a text. -/
def Expr.isMatch (e : Expr) (text : List Char) : Bool :=
  let length := text.length
  (e.motion text length).run length (Nat.pow 2 (length + 1) - 1) != 0

end MarkupRules.Pattern
