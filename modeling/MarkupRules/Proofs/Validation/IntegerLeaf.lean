import MarkupRules.Proofs.Markup.DataTree
import MarkupRules.Proofs.Number.WholeNumber
import MarkupRules.Proofs.Schema.Draft
import MarkupRules.Validation.Traversal

/-!
Whole numbers held against whole bounds.

Below 2^53 what a rule for whole numbers reports of a text is decided by the numbers that are
spelled, in the text and in the schema, and not by how they are spelled.
-/
namespace MarkupRules.Validation

open Markup (Attribute Element Describes)
open Schema (Rule Constraints Values ValueType Mirrors)

/-- The bound that attributes declare under a name, if they do, spelled as a whole number below
2^53. -/
inductive WholeBound (attributes : List Attribute) (name : String) : Option Int → Prop where
  | absent (h : name ∉ attributes.map Attribute.name) : WholeBound attributes name none
  | spelled {text : String} {n : Int} (hMem : ⟨name, text⟩ ∈ attributes)
      (h : Number.Spells text n) (hSmall : n.natAbs < 2 ^ 53) :
      WholeBound attributes name (some n)

/-- The failures of a bound on whole numbers that `n` is beyond. -/
def wholeFailures (code path : String) (n : Int) (bound : Option Int) (beyond : Int → Bool) :
    List Failure :=
  match bound with
  | none => []
  | some b => if beyond b then [.constraint code path (.integer n) (.integer b)] else []

section Bounds

variable {attributes : List Attribute} (hNames : (attributes.map Attribute.name).Nodup)
include hNames

/-- A bound on whole numbers turns down what it says as a number. Below 2^53 no whole number is lost
on the way to a double. -/
theorem WholeBound.violation_eq {name : String} {bound : Option Int}
    (h : WholeBound attributes name bound) {holds : Number.Double → Bool} {beyond : Int → Bool}
    (hHolds : ∀ x m, x.IsWhole m → holds x = !beyond m) (code path : String) (n : Int) :
    violation code path (.integer n) ((Values.ofAttributes attributes name).bind Number.read?)
      holds .ofDouble = wholeFailures code path n bound beyond := by
  cases h with
  | absent hAbsent =>
    rw [Values.ofAttributes_eq_none hNames hAbsent]
    rfl
  | @spelled text m hMem hSpells hSmall =>
    obtain ⟨x, hRead, hWhole⟩ := hSpells.exists_isWhole hSmall
    rw [(Values.ofAttributes_eq_some_iff hNames).mpr hMem, Option.bind_some, hRead, violation,
      hHolds x m hWhole, hWhole.ofDouble_eq hSmall, wholeFailures]
    cases beyond m <;> rfl

/-- Whole bounds turn a whole number down as numbers do: the comparison of doubles is that of the
numbers they stand for. -/
theorem numberFailures_of_wholeBounds {c : Constraints} {low high : Option Int}
    (hMin : c.min = (Values.ofAttributes attributes "min").bind Number.read?)
    (hMax : c.max = (Values.ofAttributes attributes "max").bind Number.read?)
    (hLow : WholeBound attributes "min" low) (hHigh : WholeBound attributes "max" high)
    {x : Number.Double} {n : Int} (hWhole : x.IsWhole n) (hSmall : n.natAbs < 2 ^ 53)
    (path : String) :
    numberFailures c x path = wholeFailures "min" path n low (decide <| n < ·) ++
      wholeFailures "max" path n high (decide <| · < n) := by
  have hBelow (y : Number.Double) (m : Int) (hBound : y.IsWhole m) :
      Predicate.min y x = !decide (n < m) := by
    rw [Predicate.min, hBound.le_eq hWhole, ← decide_not, decide_eq_decide, Int.not_lt]
  have hAbove (y : Number.Double) (m : Int) (hBound : y.IsWhole m) :
      Predicate.max y x = !decide (m < n) := by
    rw [Predicate.max, hWhole.le_eq hBound, ← decide_not, decide_eq_decide, Int.not_lt]
  rw [numberFailures, hMin, hMax, hWhole.ofDouble_eq hSmall, hLow.violation_eq hNames hBelow,
    hHigh.violation_eq hNames hAbove]

end Bounds

/-- What a rule for whole numbers reports of a whole number below 2^53, if its bounds are such
numbers too. It does not matter in which way the text or the bounds are spelled. -/
theorem textFailures_of_spells {schema : String} {options : Markup.Options} {root x : Element}
    {place : String} {rule : Rule} {t : ValueType} {low high : Option Int} {text : String} {n : Int}
    (hSchema : Describes (Markup.scan schema .boolean options).events root)
    (hInside : root.Contains x) (hRule : Mirrors place x rule)
    (hType : ⟨"type", t.name⟩ ∈ x.tag.attributes) (hWhole : t = .integer ∨ t = .positiveInteger)
    (hLow : WholeBound x.tag.attributes "min" low) (hHigh : WholeBound x.tag.attributes "max" high)
    (hText : Number.Spells text n) (hSmall : n.natAbs < 2 ^ 53) (s : Setting) (path : String) :
    textFailures s rule text path =
      if t = .positiveInteger ∧ n < 0 then [.notA t.name path text]
      else wholeFailures "min" path n low (decide <| n < ·) ++
        wholeFailures "max" path n high (decide <| · < n) := by
  have hNames := Markup.nodup_names_of_scan hSchema hInside
  obtain ⟨y, hRead, hValue⟩ := hText.exists_isWhole hSmall
  obtain ⟨pattern, hConstraints⟩ := hRule.exists_constraints_eq
  have hBounds := numberFailures_of_wholeBounds hNames (congrArg Constraints.min hConstraints)
    (congrArg Constraints.max hConstraints) hLow hHigh hValue hSmall path
  have hDeclared := hRule.type_eq ((Values.ofAttributes_eq_some_iff hNames).mpr hType)
  have hAccepts : t.acceptsNumber y = true ↔ ¬ (t = .positiveInteger ∧ n < 0) := by
    rw [ValueType.acceptsNumber, hValue.isIntegral, hValue.isNonnegative_eq]
    rcases hWhole with rfl | rfl <;> simp [ValueType.wantsNonnegative]
  have hLeaf {kept : Option Number.Double}
      (hKept : (Number.read? text).filter t.acceptsNumber = kept) :
      textFailures s rule text path =
        kept.elim [.notA t.name path text] (numberFailures rule.constraints · path) := by
    rw [textFailures, hDeclared]
    rcases hWhole with rfl | rfl <;> simp only [hKept] <;> cases kept <;> rfl
  rw [hRead, Option.filter_some] at hLeaf
  by_cases hNegative : t = .positiveInteger ∧ n < 0
  · have hRefused : ¬ t.acceptsNumber y = true := fun hYes => hAccepts.mp hYes hNegative
    rw [hLeaf (if_neg hRefused), if_pos hNegative]
    rfl
  · rw [hLeaf (if_pos (hAccepts.mpr hNegative)), if_neg hNegative]
    exact hBounds

/-- A number from 16 to 20, the bounds spelled in their own ways. -/
def sixteenSchema : String := "<r><n type=\"positiveInteger\" min=\"0x10\" max=\" +020\"/></r>"

def sixteenLeaf : Element :=
  .mk ⟨"n", [⟨"type", "positiveInteger"⟩, ⟨"min", "0x10"⟩, ⟨"max", " +020"⟩], 1⟩ [] []

/-- A number in base two is held against bounds in base sixteen and ten. Only the lower one turns it
down. -/
theorem textFailures_of_five :
    ∃ root place rule, Describes (Markup.scan sixteenSchema .boolean {}).events root ∧
      root.Contains sixteenLeaf ∧ Mirrors place sixteenLeaf rule ∧
      textFailures ⟨{}, {}⟩ rule " 0b101" "r.n" =
        [.constraint "min" "r.n" (.integer 5) (.integer 16)] := by
  have hScan : Markup.scan sixteenSchema .boolean {} = ⟨[.opening ⟨"r", [], 1⟩,
      .opening sixteenLeaf.tag, .closing, .closing], none⟩ := by decide +kernel
  have hSchema := Markup.describes_of_scan hScan
    (rfl : _ = some (Element.mk ⟨"r", [], 1⟩ [] [sixteenLeaf]))
  have hDeclares : (Constraints.ofAttributes "r.n" sixteenLeaf.tag.attributes).isOk = true := by
    decide +kernel
  cases hConstraints : Constraints.ofAttributes "r.n" sixteenLeaf.tag.attributes with
  | error e =>
    rw [hConstraints] at hDeclares
    cases hDeclares
  | ok c =>
    have hRule : Mirrors "r.n" sixteenLeaf (.mk _ c []) :=
      .mk hConstraints rfl (fun hSome => absurd rfl hSome) rfl List.nodup_nil (by simp)
    have hSixteen : Number.Spells "0x10" 16 :=
      have hText : Number.Encloses ['0', 'x', '1', '0'] "0x10" :=
        ⟨[], [], by decide, List.forall_mem_nil _, List.forall_mem_nil _⟩
      have hDigits : Number.IsNumeral 16 ['1', '0'] 16 := by decide
      .marked (by decide) hText hDigits
    have hTwenty : Number.Spells " +020" 20 :=
      have hText : Number.Encloses ['+', '0', '2', '0'] " +020" :=
        ⟨[' '], [], by decide, List.all_eq_true.mp rfl, List.forall_mem_nil _⟩
      have hDigits : Number.IsNumeral 10 ['0', '2', '0'] 20 := by decide
      .plus hText hDigits
    have hFive : Number.Spells " 0b101" 5 :=
      have hText : Number.Encloses ['0', 'b', '1', '0', '1'] " 0b101" :=
        ⟨[' '], [], by decide, List.all_eq_true.mp rfl, List.forall_mem_nil _⟩
      have hDigits : Number.IsNumeral 2 ['1', '0', '1'] 5 := by decide
      .marked (by decide) hText hDigits
    have hLow : WholeBound sixteenLeaf.tag.attributes "min" (some 16) :=
      .spelled (by decide) hSixteen (by decide)
    have hHigh : WholeBound sixteenLeaf.tag.attributes "max" (some 20) :=
      .spelled (by decide) hTwenty (by decide)
    have hInside : (Element.mk ⟨"r", [], 1⟩ [] [sixteenLeaf]).Contains sixteenLeaf :=
      .child (.head _) (.self _)
    have hFailures := textFailures_of_spells hSchema hInside hRule (by decide) (.inr rfl) hLow hHigh
      hFive (by decide) ⟨{}, {}⟩ "r.n"
    exact ⟨_, _, _, hSchema, hInside, hRule, hFailures⟩

end MarkupRules.Validation
