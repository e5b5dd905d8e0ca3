import MarkupRules.Proofs.Markup.Spelling
import MarkupRules.Proofs.Schema.PatternSpelling
import MarkupRules.Proofs.Validation.ReplacedTags

/-!
Schemas whose patterns are spelled otherwise.

The letters of a pattern's flags may stand in the attribute's name or beside it. As long as they set
the same options, nothing that is reported tells which of the two it was.
-/
namespace MarkupRules

open Markup (Attribute TagReplaced)
open Markup.Attribute (Raw SpellsTag StandsFor)
open Schema (Constraints Covers Model Spelled)

/-- A tag spells a pattern with flags, in the one way or the other, among other attributes. -/
inductive SpellsPattern (source flags : String) (others : List Raw) (content : List Char) :
    Prop where
  | mk {raws spelling : List Raw} {key : String} {extra : List Attribute}
      (hSpells : SpellsTag .boolean content raws) (hPerm : raws.Perm (spelling ++ others))
      (hStands : List.Forall₂ StandsFor spelling extra)
      (hSpelled : Spelled source flags key extra) : SpellsPattern source flags others content

namespace SpellsPattern

variable {source flags : String} {others : List Raw} {content : List Char}

/-- The attributes of a tag that spells a pattern fall apart into those that spell it and the
others. They may come in any order. -/
theorem exists_of_ofTag (h : SpellsPattern source flags others content)
    {attributes : List Attribute} (hRead : Attribute.ofTag .boolean content = .ok attributes) :
    ∃ key extra rest, Spelled source flags key extra ∧ List.Forall₂ StandsFor others rest ∧
      (attributes.map Attribute.name).Nodup ∧ attributes.Perm (extra ++ rest) := by
  cases h with
  | @mk raws spelling key extra hSpells hPerm hStands hSpelled =>
    obtain ⟨hNames, hAll⟩ := hSpells.ofTag_eq_ok_iff.mp hRead
    obtain ⟨ordered, hOrdered, hAttributes⟩ := Attribute.exists_forall₂_of_perm hAll hPerm
    have hFirst := (List.forall₂_take_append _ _ _ hOrdered.flip).flip
    have hRest := (List.forall₂_drop_append _ _ _ hOrdered.flip).flip
    have hExtra : extra = ordered.take spelling.length :=
      Attribute.rightUnique_standsFor.forall₂ hStands hFirst
    refine ⟨key, extra, ordered.drop spelling.length, hSpelled, hRest, hNames, ?_⟩
    rwa [hExtra, List.take_append_drop]

/-- Beside the same other attributes a pattern may be spelled in a tag. Then the tag can be read if
no name comes twice. -/
theorem exists_ofTag (h : SpellsPattern source flags others content) {rest : List Attribute}
    (hRest : List.Forall₂ StandsFor others rest) :
    ∃ key extra attributes, Spelled source flags key extra ∧ attributes.Perm (extra ++ rest) ∧
      ((attributes.map Attribute.name).Nodup →
        Attribute.ofTag .boolean content = .ok attributes) := by
  cases h with
  | @mk raws spelling key extra hSpells hPerm hStands hSpelled =>
    obtain ⟨attributes, hAll, hAttributes⟩ :=
      Attribute.exists_forall₂_of_perm (List.rel_append hStands hRest) hPerm.symm
    exact ⟨key, extra, attributes, hSpelled, hAttributes.symm, fun hNames =>
      hSpells.ofTag_eq_ok_iff.mpr ⟨hNames, hAll⟩⟩

end SpellsPattern

/-- Two tags have the same attributes but for the spelling of a pattern, whose flags set the same
options. -/
def PatternRespelled (content content' : List Char) : Prop :=
  ∃ source flags flags' others, Pattern.SameOptions (String.toList flags) (String.toList flags') ∧
    SpellsPattern source flags others content ∧ SpellsPattern source flags' others content'

namespace PatternRespelled

variable {content content' : List Char}

theorem symm (h : PatternRespelled content content') : PatternRespelled content' content := by
  obtain ⟨source, flags, flags', others, hSame, hSpells, hSpells'⟩ := h
  exact ⟨source, flags', flags, others, hSame.symm, hSpells', hSpells⟩

/-- A tag with the pattern spelled otherwise declares the same but for the letters of the flags. -/
theorem covers (h : PatternRespelled content content') :
    Covers Constraints.unflagged content content' := by
  rintro c ⟨attributes, hRead, hDeclares⟩
  obtain ⟨source, flags, flags', others, hSame, hSpells, hSpells'⟩ := h
  obtain ⟨key, extra, rest, hSpelled, hRest, hNames, hPerm⟩ := hSpells.exists_of_ofTag hRead
  obtain ⟨key', extra', attributes', hSpelled', hPerm', hRead'⟩ := hSpells'.exists_ofTag hRest
  obtain ⟨hNames', c', hOk', hUnflagged⟩ :=
    hSpelled.exists_ofAttributes hSpelled' hSame hNames hPerm hPerm' (hDeclares "")
  exact ⟨c', Schema.declares_of_ofAttributes (hRead' hNames') hOk', hUnflagged⟩

end PatternRespelled

/-- No visit reads the letters of the flags. A pattern was compiled with them before. -/
theorem Validation.showsFailures_unflagged : ShowsFailures Constraints.unflagged where
  declared _ := rfl
  checkBy _ := rfl
  repeatable _ := rfl
  isRequired _ := rfl
  occurrenceFailures _ := rfl
  stringFailures c := by
    have hPattern (actual path : String) : violation "pattern" path (.string actual)
        c.unflagged.pattern (Pattern.isMatch · actual) (.string ·.source) =
          violation "pattern" path (.string actual) c.pattern (Pattern.isMatch · actual)
            (.string ·.source) := by
      rw [Constraints.unflagged]
      cases c.pattern <;> rfl
    funext actual path
    simp only [Validation.stringFailures, hPattern]
    rfl
  numberFailures _ := rfl

/-- The spelling of patterns decides nothing that is reported. In either spelling the first letter
that is no flag is refused, whatever the expression is, if the other attributes are valid and leave
the pattern to it. If they are valid and declare a pattern themselves, the tag has two of them, and
that is the error whatever the flags are. -/
theorem pattern_spellings :
    (∀ text text', Relation.ReflTransGen (TagReplaced PatternRespelled) text text' →
      ValidatesAlike text text') ∧
    (∀ path source flags key extra others attributes c known letter rest,
      Spelled source flags key extra → (attributes.map Attribute.name).Nodup →
      attributes.Perm (extra ++ others) → Constraints.ofAttributes path others = .ok c →
      c.pattern = none → flags.toList = known ++ letter :: rest →
      (∀ l ∈ known, l ∈ Pattern.flagLetters) → letter ∉ Pattern.flagLetters →
      Constraints.ofAttributes path attributes =
        .error (.invalidAttribute path key (.unknownPatternFlag letter))) ∧
    ∀ path source flags key extra others attributes c, Spelled source flags key extra →
      attributes.Perm (extra ++ others) → Constraints.ofAttributes path others = .ok c →
      c.pattern ≠ none → ∃ first second, (key = first ∨ key = second) ∧
        Constraints.ofAttributes path attributes =
          .error (.ambiguousPattern path (.declaredTwice first second)) := by
  refine ⟨fun text text' h => ?_, ?_, ?_⟩
  · exact Validation.showsFailures_unflagged.validatesAlike
      (fun _ _ hRespelled => ⟨hRespelled.covers, hRespelled.symm.covers⟩) h
  · intro path source flags key extra others attributes c known letter rest hSpelled hNames hPerm
      hValid hNone hFlags hKnown hLetter
    exact hSpelled.ofAttributes_unknown_letter hNames hPerm hValid hNone hFlags hKnown hLetter
  · intro path source flags key extra others attributes c hSpelled hPerm hValid hSome
    exact hSpelled.ofAttributes_second_pattern hPerm hValid hSome

/-- A tag with the flags in the name of the attribute. -/
def flagsInNameTag : String := "<a pattern_sm=\"^x$\" maxLength=\"1\"/>"

/-- The same tag with the flags beside the pattern, one of them twice. -/
def flagsBesideTag : String := "<a flags=\"mgsm\" maxLength=\"1\" pattern=\"^x$\"/>"

/-- In the two schemas of the example one tag has its pattern spelled in the two ways. The
attributes around it come in another order. -/
theorem tagReplaced_flagsInNameTag :
    TagReplaced PatternRespelled (enclosed flagsInNameTag) (enclosed flagsBesideTag) := by
  have hInName : Markup.IsMarkup flagsInNameTag
      [.opening "a pattern_sm=\"^x$\" maxLength=\"1\"".toList true] := by
    decide +kernel
  have hBeside : Markup.IsMarkup flagsBesideTag
      [.opening "a flags=\"mgsm\" maxLength=\"1\" pattern=\"^x$\"".toList true] := by
    decide +kernel
  have hRaws : SpellsTag .boolean "a pattern_sm=\"^x$\" maxLength=\"1\"".toList
      [("pattern_sm".toList, "^x$".toList), ("maxLength".toList, "1".toList)] :=
    Attribute.spells_of_spelled? 4 (by decide +kernel)
  have hRaws' : SpellsTag .boolean "a flags=\"mgsm\" maxLength=\"1\" pattern=\"^x$\"".toList
      [("flags".toList, "mgsm".toList), ("maxLength".toList, "1".toList),
        ("pattern".toList, "^x$".toList)] :=
    Attribute.spells_of_spelled? 4 (by decide +kernel)
  have hPerm : List.Perm [("flags".toList, "mgsm".toList), ("maxLength".toList, "1".toList),
        ("pattern".toList, "^x$".toList)]
      ([("pattern".toList, "^x$".toList), ("flags".toList, "mgsm".toList)] ++
        [("maxLength".toList, "1".toList)]) := by decide
  refine tagReplaced_enclosed hInName hBeside (by decide +kernel)
    ⟨"^x$", "sm", "mgsm", [("maxLength".toList, "1".toList)], ?_, ?_, ?_⟩
  · exact ⟨by simp [Pattern.flagLetters], by simp [Pattern.flagLetters], by simp⟩
  · exact .mk hRaws (.refl ([_] ++ [_])) (.cons (.mk _ rfl) .nil) .inName
  · exact .mk hRaws' hPerm (.cons (.mk _ rfl) (.cons (.mk _ rfl) .nil)) .beside

/-- Both spellings turn the document down for the same two constraints. The letter `q` is refused in
either of them, beside a broken expression, and not even looked at beside a second pattern. -/
theorem pattern_spellings_flagsInNameTag :
    TagReplaced PatternRespelled (enclosed flagsInNameTag) (enclosed flagsBesideTag) ∧
    (∃ v v' failures, Validator.ofSchema (enclosed flagsInNameTag) {} = .ok v ∧
      Validator.ofSchema (enclosed flagsBesideTag) {} = .ok v' ∧
      v.validate twoLetters = .ok failures ∧ v'.validate twoLetters = .ok failures ∧
      failures.map Failure.code = ["maxLength", "pattern"]) ∧
    Constraints.ofAttributes "r.a" [⟨"maxLength", "1"⟩, ⟨"pattern_mqz", "("⟩] =
      .error (.invalidAttribute "r.a" "pattern_mqz" (.unknownPatternFlag 'q')) ∧
    Constraints.ofAttributes "r.a" [⟨"flags", "mqz"⟩, ⟨"maxLength", "1"⟩, ⟨"pattern", "("⟩] =
      .error (.invalidAttribute "r.a" "pattern" (.unknownPatternFlag 'q')) ∧
    ∃ first second, ("pattern_mqz" = first ∨ "pattern_mqz" = second) ∧
      Constraints.ofAttributes "r.a" [⟨"pattern", "x"⟩, ⟨"pattern_mqz", "("⟩] =
        .error (.ambiguousPattern "r.a" (.declaredTwice first second)) := by
  obtain ⟨hAlike, hRefused, hAmbiguous⟩ := pattern_spellings
  have hCodes : reportedCodes? (enclosed flagsInNameTag) twoLetters =
      some ["maxLength", "pattern"] := by decide +kernel
  have hOthers : Constraints.ofAttributes "r.a" [⟨"maxLength", "1"⟩] =
      .ok { maxLength := some 1 } := rfl
  refine ⟨tagReplaced_flagsInNameTag,
    (hAlike _ _ (.single tagReplaced_flagsInNameTag)).exists_failures hCodes, ?_, ?_, ?_⟩
  · exact hRefused "r.a" "(" "mqz" _ _ _ _ _ ['m'] 'q' ['z'] .inName (by decide)
      (.swap _ _ _) hOthers rfl rfl (by simp [Pattern.flagLetters]) (by decide)
  · exact hRefused "r.a" "(" "mqz" _ _ _ _ _ ['m'] 'q' ['z'] .beside (by decide)
      (by decide) hOthers rfl rfl (by simp [Pattern.flagLetters]) (by decide)
  · obtain ⟨c, hSecond, hSome⟩ : ∃ c : Constraints,
        Constraints.ofAttributes "r.a" [⟨"pattern", "x"⟩] = .ok c ∧ c.pattern ≠ none :=
      ⟨_, rfl, Option.some_ne_none _⟩
    exact hAmbiguous "r.a" "(" "mqz" _ _ _ _ _ .inName (.swap _ _ _) hSecond hSome

end MarkupRules
