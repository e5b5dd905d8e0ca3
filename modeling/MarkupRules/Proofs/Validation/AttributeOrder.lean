import MarkupRules.Proofs.Markup.Spelling
import MarkupRules.Proofs.Schema.Draft
import MarkupRules.Proofs.Validation.ReplacedTags

/-!
The order of attributes.

In whatever order the attributes of a tag are written, the tag declares the same constraints. So
tags whose attributes are put in another order leave the model that a schema compiles to as it was.
-/
namespace MarkupRules

open Markup (Attribute TagReplaced)
open Markup.Attribute (SpellsTag)
open Schema (Constraints Covers Model)

/-- Two tags spell the same attributes, in whatever order. -/
def AttributesReordered (content content' : List Char) : Prop :=
  ∃ raws raws', SpellsTag .boolean content raws ∧ SpellsTag .boolean content' raws' ∧
    raws.Perm raws'

namespace AttributesReordered

variable {content content' : List Char}

theorem symm (h : AttributesReordered content content') : AttributesReordered content' content := by
  obtain ⟨raws, raws', hSpells, hSpells', hPerm⟩ := h
  exact ⟨raws', raws, hSpells', hSpells, hPerm.symm⟩

/-- Reading keeps the order in which attributes are written. -/
theorem exists_ofTag (h : AttributesReordered content content') {attributes : List Attribute}
    (hRead : Attribute.ofTag .boolean content = .ok attributes) :
    ∃ attributes', Attribute.ofTag .boolean content' = .ok attributes' ∧
      (attributes.map Attribute.name).Nodup ∧ attributes.Perm attributes' := by
  obtain ⟨raws, raws', hSpells, hSpells', hPerm⟩ := h
  obtain ⟨hNames, hStands⟩ := hSpells.ofTag_eq_ok_iff.mp hRead
  obtain ⟨attributes', hStands', hPerm'⟩ := Attribute.exists_forall₂_of_perm hStands hPerm
  have hNames' := (hPerm'.map Attribute.name).nodup_iff.mp hNames
  exact ⟨attributes', hSpells'.ofTag_eq_ok_iff.mpr ⟨hNames', hStands'⟩, hNames, hPerm'⟩

/-- A tag with its attributes in another order declares just the same constraints. -/
theorem covers (h : AttributesReordered content content') : Covers id content content' := by
  rintro c ⟨attributes, hRead, hDeclares⟩
  obtain ⟨attributes', hRead', hNames, hPerm⟩ := h.exists_ofTag hRead
  exact ⟨c, ⟨attributes', hRead', fun path =>
    Constraints.ofAttributes_of_perm hNames hPerm (hDeclares path)⟩, rfl⟩

end AttributesReordered

/-- The view that shows everything shows in particular what visits read. -/
theorem Validation.showsFailures_id : ShowsFailures id where
  declared _ := rfl
  checkBy _ := rfl
  repeatable _ := rfl
  isRequired _ := rfl
  occurrenceFailures _ := rfl
  stringFailures _ := rfl
  numberFailures _ := rfl

theorem Schema.Model.seen_id (m : Model) : m.seen id = m := by
  rw [seen, Rule.seen_id]

/-- What a list of attributes declares, if anything, does not depend on their order, and neither
does what a schema compiles to on that of the attributes in its tags. -/
theorem attribute_order :
    (∀ path attributes attributes', (attributes.map Attribute.name).Nodup →
      attributes.Perm attributes' → ∀ c, Constraints.ofAttributes path attributes = .ok c ↔
        Constraints.ofAttributes path attributes' = .ok c) ∧
    ∀ text text', Relation.ReflTransGen (TagReplaced AttributesReordered) text text' →
      (∀ options m, Model.compile text options = .ok m ↔ Model.compile text' options = .ok m) ∧
        ValidatesAlike text text' := by
  refine ⟨fun path _ _ hNames hPerm c =>
    Constraints.ofAttributes_eq_ok_iff_of_perm hNames hPerm path c, fun text text' h => ?_⟩
  have hCovers (content content' : List Char) (hReordered : AttributesReordered content content') :
      Covers id content content' ∧ Covers id content' content :=
    ⟨hReordered.covers, hReordered.symm.covers⟩
  refine ⟨fun options m => ⟨fun hCompile => ?_, fun hCompile => ?_⟩,
    Validation.showsFailures_id.validatesAlike hCovers h⟩
  · obtain ⟨m', hCompile', hSame⟩ := Validation.showsFailures_id.exists_compile_replaced
      (fun _ _ hRelated => (hCovers _ _ hRelated).1) h hCompile
    rw [m'.seen_id, m.seen_id] at hSame
    rwa [hSame] at hCompile'
  · obtain ⟨m', hCompile', hSame⟩ :=
      Validation.showsFailures_id.exists_compile_replaced_back hCovers h hCompile
    rw [m'.seen_id, m.seen_id] at hSame
    rwa [hSame] at hCompile'

def patternTag : String := "<a pattern=\"^x$\" flags=\"m\" maxLength=\"1\"/>"

def turnedPatternTag : String := "<a maxLength='1' flags='m'  pattern='^x$' />"

def patternRaws : List Attribute.Raw :=
  [("pattern".toList, "^x$".toList), ("flags".toList, "m".toList), ("maxLength".toList, "1".toList)]

def patternAttributes : List Attribute := [⟨"pattern", "^x$"⟩, ⟨"flags", "m"⟩, ⟨"maxLength", "1"⟩]

/-- In the two schemas of the example one tag has its attributes in another order. It is written
with other quotes and blanks, too. -/
theorem tagReplaced_patternTag :
    TagReplaced AttributesReordered (enclosed patternTag) (enclosed turnedPatternTag) := by
  have hTag : Markup.IsMarkup patternTag
      [.opening "a pattern=\"^x$\" flags=\"m\" maxLength=\"1\"".toList true] := by
    decide +kernel
  have hTurned : Markup.IsMarkup turnedPatternTag
      [.opening "a maxLength='1' flags='m'  pattern='^x$' ".toList true] := by
    decide +kernel
  refine tagReplaced_enclosed hTag hTurned (by decide +kernel)
    ⟨patternRaws, patternRaws.reverse, ?_, ?_, (List.reverse_perm _).symm⟩
  · exact Attribute.spells_of_spelled? 4 (by decide +kernel)
  · exact Attribute.spells_of_spelled? 4 (by decide +kernel)

/-- Three attributes in two orders, one of them the flags of another. The schemas compile to one
model and turn the document down for the same two constraints. -/
theorem attribute_order_patternTag :
    (∃ c, Constraints.ofAttributes "r.a" patternAttributes = .ok c ∧
      Constraints.ofAttributes "r.a" patternAttributes.reverse = .ok c) ∧
    TagReplaced AttributesReordered (enclosed patternTag) (enclosed turnedPatternTag) ∧
    (∃ m, Model.compile (enclosed patternTag) {} = .ok m ∧
      Model.compile (enclosed turnedPatternTag) {} = .ok m) ∧
    ∃ v v' failures, Validator.ofSchema (enclosed patternTag) {} = .ok v ∧
      Validator.ofSchema (enclosed turnedPatternTag) {} = .ok v' ∧
      v.validate twoLetters = .ok failures ∧ v'.validate twoLetters = .ok failures ∧
      failures.map Failure.code = ["maxLength", "pattern"] := by
  obtain ⟨hAttributes, hSchemas⟩ := attribute_order
  obtain ⟨hCompiles, hAlike⟩ := hSchemas _ _ (.single tagReplaced_patternTag)
  have hDeclares : (Constraints.ofAttributes "r.a" patternAttributes).toOption.isSome = true := by
    decide +kernel
  obtain ⟨c, hDeclares⟩ := Option.isSome_iff_exists.mp hDeclares
  rw [toOption_eq_some_iff] at hDeclares
  have hCodes : reportedCodes? (enclosed patternTag) twoLetters =
      some ["maxLength", "pattern"] := by decide +kernel
  obtain ⟨v, v', failures, hValidator, hRest⟩ := hAlike.exists_failures hCodes
  obtain ⟨m, hCompile, -⟩ := Validator.ofSchema_eq_ok_iff.mp hValidator
  refine ⟨⟨c, hDeclares, ?_⟩, tagReplaced_patternTag, ⟨m, hCompile, (hCompiles _ _).mp hCompile⟩,
    v, v', failures, hValidator, hRest⟩
  exact (hAttributes _ _ _ (by decide) (List.reverse_perm _).symm c).mp hDeclares

end MarkupRules
