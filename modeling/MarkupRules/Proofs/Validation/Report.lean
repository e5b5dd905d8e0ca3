import MarkupRules.Proofs.Number.Rounding
import MarkupRules.Proofs.Validation.Follow
import MarkupRules.Proofs.Validation.Raised

/-!
What the failures of a visit report.

Each failure of a constraint names a bound and what it was held against, and the bound is violated.
Numbers are compared as they are reported.
-/
namespace MarkupRules

/-- The value of a number, as a number of finest steps. -/
def Json.steps? : Json → Option Int
  | .integer n => some (n * Number.stepsInOne)
  | .double x => some x.signedSteps
  | _ => none

/-- Both values are numbers and the first is the smaller one. -/
def Json.Below (a b : Json) : Prop := ∃ x y, a.steps? = some x ∧ b.steps? = some y ∧ x < y

/-- A number is reported without a loss, since its steps can be read off the report. -/
theorem Json.steps?_ofDouble (x : Number.Double) :
    (Json.ofDouble x).steps? = some x.signedSteps := by
  unfold ofDouble Number.Double.smallInt?
  split
  · next n hWhole =>
    split at hWhole
    · next hBoth =>
      obtain rfl := Option.some.inj hWhole
      have hIntegral : x.steps % Number.stepsInOne = 0 := by
        have hFirst := (Bool.and_eq_true_iff.mp hBoth).1
        simpa [Number.Double.isIntegral] using hFirst
      have hExact : x.steps / Number.stepsInOne * Number.stepsInOne = x.steps :=
        Nat.div_mul_cancel (Nat.dvd_of_mod_eq_zero hIntegral)
      have hCast : ((x.steps / Number.stepsInOne : Nat) : Int) * Number.stepsInOne = x.steps := by
        rw [← Int.natCast_mul, hExact]
      rw [steps?, Number.Double.truncate, Number.Double.signedSteps]
      split
      · rw [Int.neg_mul, hCast]
      · rw [hCast]
    · cases hWhole
  · rfl

theorem Json.below_ofDouble {x y : Number.Double} :
    Below (.ofDouble x) (.ofDouble y) ↔ x.signedSteps < y.signedSteps := by
  simp [Below, steps?_ofDouble]

theorem Json.below_ofNat {m n : Nat} : Below (.ofNat m) (.ofNat n) ↔ m < n := by
  have hSteps : 0 < (Number.stepsInOne : Int) := Int.natCast_pos.mpr Number.stepsInOne_pos
  simp only [Below, ofNat, steps?, Option.some.injEq, exists_and_left, exists_eq_left']
  rw [Int.mul_lt_mul_right hSteps, Int.ofNat_lt]

namespace Validation

open Markup (Node)
open Schema (Rule Constraints)

/-- How often the tag of a node comes. -/
def occurrences : Node → Nat
  | .sequence items => items.length
  | _ => 1

/-- A text is turned down by a constraint: the code of the failure and the bound that it names. -/
inductive TurnedDown (text : String) : String → Json → Prop where
  | minLength {n : Nat} (h : Predicate.charCount text < n) : TurnedDown text "minLength" (.ofNat n)
  | maxLength {n : Nat} (h : n < Predicate.charCount text) : TurnedDown text "maxLength" (.ofNat n)
  | length {n : Nat} (h : Predicate.charCount text ≠ n) : TurnedDown text "length" (.ofNat n)
  | pattern {p : Pattern} (h : p.isMatch text = false) :
      TurnedDown text "pattern" (.string p.source)
  | fixed {expected : String} (h : text ≠ expected) : TurnedDown text "fixed" (.string expected)
  | oneOf {list : String} (h : Predicate.oneOf list text = false) :
      TurnedDown text "in" (.string list)

/-- Whatever is reported of a text, the text is really turned down by the bound that the failure
names. -/
theorem turnedDown_of_mem_stringFailures {c : Constraints} {text path : String} {f : Failure}
    (h : f ∈ stringFailures c text path) :
    ∃ code bound, TurnedDown text code bound ∧ f = .constraint code path (.string text) bound := by
  simp only [stringFailures, List.mem_append, mem_violation] at h
  rcases h with ((((⟨n, -, hHolds, rfl⟩ | ⟨n, -, hHolds, rfl⟩) | ⟨n, -, hHolds, rfl⟩) |
    ⟨p, -, hHolds, rfl⟩) | ⟨expected, -, hHolds, rfl⟩) | ⟨list, -, hHolds, rfl⟩
  · have hShort : Predicate.charCount text < n := by simpa [Predicate.minLength] using hHolds
    exact ⟨_, _, .minLength hShort, rfl⟩
  · have hLong : n < Predicate.charCount text := by simpa [Predicate.maxLength] using hHolds
    exact ⟨_, _, .maxLength hLong, rfl⟩
  · have hOther : Predicate.charCount text ≠ n := by simpa [Predicate.length] using hHolds
    exact ⟨_, _, .length hOther, rfl⟩
  · exact ⟨_, _, .pattern hHolds, rfl⟩
  · have hOther : text ≠ expected := by simpa [Predicate.fixed] using hHolds
    exact ⟨_, _, .fixed hOther, rfl⟩
  · exact ⟨_, _, .oneOf hHolds, rfl⟩

/-- A failure of the number of occurrences names that number and a bound which it is below or above.
-/
theorem exists_of_mem_occurrenceFailures {c : Constraints} {count : Nat} {path : String}
    {f : Failure} (h : f ∈ occurrenceFailures c count path) :
    (∃ n : Nat, count < n ∧ f = .constraint "minOccurs" path (.ofNat count) (.ofNat n)) ∨
      ∃ n : Nat, n < count ∧ f = .constraint "maxOccurs" path (.ofNat count) (.ofNat n) := by
  simp only [occurrenceFailures, List.mem_append, mem_violation] at h
  rcases h with ⟨n, -, hHolds, rfl⟩ | ⟨n, -, hHolds, rfl⟩
  · exact .inl ⟨n, by simpa [Predicate.minOccurs] using hHolds, rfl⟩
  · exact .inr ⟨n, by simpa [Predicate.maxOccurs] using hHolds, rfl⟩

/-- The number that a visit is counted with is that of the occurrences in its data. Only what may
repeat is counted. -/
theorem Visit.eq_of_count? {w : Visit} {n : Nat} (h : w.count? = some n) :
    n = occurrences w.node ∧ w.rule.isRepeatable = true := by
  obtain ⟨node, rule, path, lone⟩ := w
  have hOne (hLone : (if lone && rule.isRepeatable then some 1 else none) = some n) :
      n = 1 ∧ rule.isRepeatable = true := by
    split at hLone
    · next hBoth => exact ⟨(Option.some.inj hLone).symm, (Bool.and_eq_true_iff.mp hBoth).2⟩
    · cases hLone
  cases node with
  | scalar text => exact hOne h
  | mapping entries => exact hOne h
  | sequence items =>
    unfold count? at h
    dsimp only at h
    split at h
    · next hRepeatable => exact ⟨(Option.some.inj h).symm, hRepeatable⟩
    · cases h

/-- A key without a rule inside is not among the names of the rules. Its rule is looked up by the
name alone. -/
theorem child?_eq_none_iff {rule : Rule} {key : String} :
    rule.child? key = none ↔ key ∉ rule.children.map Prod.fst := Markup.Node.lookup_eq_none_iff

/-- A visited node has no value for a tag that it lacks, whether it is a mapping or a text. -/
theorem Visit.stepNode?_of_mem_absentTags {w : Visit} {key : String} (h : key ∈ w.absentTags) :
    stepNode? w.node (.tag key) = none := by
  unfold absentTags at h
  split at h
  · cases h
  · next entries hNode =>
    have hAbsent := (List.mem_filter.mp h).2
    rw [hNode]
    refine Markup.Node.lookup_eq_none_iff.mpr ?_
    simpa using hAbsent
  · next text hNode =>
    rw [hNode]
    rfl

end Validation

end MarkupRules
