import MarkupRules.Proofs.Validation.Elements

/-!
Documents without failures have texts of the declared types.

A text is held against its type where it arrives as a scalar. An element with attributes
or children arrives as a mapping, whose keys a typed rule does not declare: its text is
not held against the type, but its keys are failures where unknown tags are.
-/
namespace MarkupRules

open Markup (Node Element Describes)
open Schema (Rule)

namespace Validation

/-- Whether a text is of the type that a rule names, if that is a date, a boolean or a number, and
within the bounds for numbers. -/
structure Fits (configuration : Configuration) (rule : Rule) (text : String) : Prop where
  date : rule.type = .date → Calendar.isDate text = true
  boolean : rule.type = .boolean → configuration.isBoolean text = true
  number : rule.type.isNumeric = true → ∃ x, Number.read? text = some x ∧
    (rule.type.wantsWhole = true → x.isIntegral = true) ∧
    (rule.type.wantsNonnegative = true → 0 ≤ x.signedSteps) ∧
    (∀ low, rule.constraints.min = some low → low.signedSteps ≤ x.signedSteps) ∧
    ∀ high, rule.constraints.max = some high → x.signedSteps ≤ high.signedSteps

/-- A constraint that is met, or that was not declared, leaves no failure. All others leave one. -/
theorem violation_eq_nil_iff {α : Type} {code path : String} {actual : Json} {expected : Option α}
    {holds : α → Bool} {text : α → Json} :
    violation code path actual expected holds text = [] ↔
      ∀ e, expected = some e → holds e = true := by
  cases expected with
  | none => simp [violation]
  | some e => simp [violation]

/-- A number without failures lies between its bounds, where they are declared. -/
theorem bounds_of_numberFailures {c : Schema.Constraints} {x : Number.Double} {path : String}
    (h : numberFailures c x path = []) :
    (∀ low, c.min = some low → low.signedSteps ≤ x.signedSteps) ∧
      ∀ high, c.max = some high → x.signedSteps ≤ high.signedSteps := by
  obtain ⟨hMin, hMax⟩ := List.append_eq_nil_iff.mp h
  rw [violation_eq_nil_iff] at hMin hMax
  refine ⟨fun low hLow => ?_, fun high hHigh => ?_⟩
  · simpa [Predicate.min, Number.Double.le] using hMin low hLow
  · simpa [Predicate.max, Number.Double.le] using hMax high hHigh

/-- A text without failures is of its type and within its bounds. The other constraints of its rule
are not looked at here. -/
theorem fits_of_textFailures {s : Setting} {rule : Rule} {text path : String}
    (h : textFailures s rule text path = []) : Fits s.configuration rule text := by
  unfold textFailures at h
  split at h
  · next hType => constructor <;> simp [hType, Schema.ValueType.isNumeric]
  · next hType =>
    refine ⟨fun _ => ?_, by simp [hType], by simp [hType, Schema.ValueType.isNumeric]⟩
    by_contra hNot
    simp [hNot] at h
  · next hType =>
    refine ⟨by simp [hType], fun _ => ?_, by simp [hType, Schema.ValueType.isNumeric]⟩
    by_contra hNot
    simp [hNot] at h
  · next hType => constructor <;> simp [hType, Schema.ValueType.isNumeric]
  · next hMap hDate hBoolean hString =>
    refine ⟨fun hType => absurd hType hDate, fun hType => absurd hType hBoolean, fun _ => ?_⟩
    split at h
    · next x hRead =>
      obtain ⟨hValue, hType⟩ := Option.filter_eq_some_iff.mp hRead
      obtain ⟨hMin, hMax⟩ := bounds_of_numberFailures h
      simp only [Schema.ValueType.acceptsNumber, Bool.and_eq_true, Bool.or_eq_true,
        Bool.not_eq_true', Number.Double.isNonnegative, decide_eq_true_eq] at hType
      refine ⟨x, hValue, fun hWhole => ?_, fun hNonnegative => ?_, hMin, hMax⟩
      · exact hType.1.resolve_left (by simp [hWhole])
      · exact hType.2.resolve_left (by simp [hNonnegative])
    · cases h

/-- Where unknown tags are failures, a mapping under a rule that declares no tags has some, unless
it is empty. -/
theorem entries_eq_nil_of_keyFailures {s : Setting} {rule : Rule} {keys : List String}
    {path : String} (hUnknown : s.configuration.unknownAllow = false) (hRule : rule.children = [])
    (h : keyFailures s rule keys path = []) : keys = [] := by
  unfold keyFailures at h
  obtain ⟨hData, -⟩ := List.append_eq_nil_iff.mp h
  simpa [hUnknown, KeyPartition.ofKeys, hRule] using hData

/-- An element whose data is visited without failures has a text that fits its rule, if the rule
declares no tags and the element has nothing beside its text or unknown tags are failures. -/
theorem fits_of_failures_eq_nil {s : Setting} {options : Markup.Options} {x : Element}
    {rule : Rule} {path : String} {lone : Bool} (hRule : rule.children = [])
    (hPlain : s.configuration.unknownAllow = false ∨ ¬ x.hasParts options)
    (h : Visit.failures s ⟨x.node options, rule, path, lone⟩ = []) :
    Fits s.configuration rule x.text := by
  by_cases hParts : x.hasParts options
  · have hUnknown := hPlain.resolve_right (not_not.mpr hParts)
    obtain ⟨entries, hNode, hEntries⟩ := Element.exists_node_eq_mapping hParts
    simp only [Visit.failures, hNode, List.append_eq_nil_iff] at h
    have hKeys := entries_eq_nil_of_keyFailures hUnknown hRule h.1.2
    exact absurd (List.map_eq_nil_iff.mp hKeys) hEntries
  · simp only [Visit.failures, Element.node_of_not_hasParts hParts, List.append_eq_nil_iff] at h
    exact fits_of_textFailures h.1.2

/-- A rule of a type other than text or map declares no tags, so nothing can be missing from its
text. -/
theorem children_eq_nil_of_typed {rule : Rule} (hRule : rule.WellFormed)
    (hType : rule.type = .date ∨ rule.type = .boolean ∨ rule.type.isNumeric = true) :
    rule.children = [] := by
  refine hRule.children_eq_nil fun hMap => ?_
  simp [hMap, Schema.ValueType.isNumeric] at hType

end Validation

open Validation

/-- If a document has no failures, every element that declared tags lead to has a text that fits its
rule, where unknown tags are failures or the element has neither children nor attributes in the
tree. The way to an element may not lead through a key that the text of its parent has taken. -/
theorem Validator.fits_of_validate {schema document : String} {schemaOptions : Markup.Options}
    {v : Validator} (hCompile : Schema.Model.compile schema schemaOptions = .ok v.model)
    (hValid : v.validate document = .ok []) :
    ∃ root, Describes (Markup.scan document .boolean v.configuration.markup).events root ∧
      ∀ x rule site, root.name = v.model.rootName →
        Leads (Element.LeavesKey v.configuration.markup) root v.model.root site x rule →
        (rule.type = .date ∨ rule.type = .boolean ∨ rule.type.isNumeric = true) →
        (v.configuration.unknownAllow = false ∨ ¬ x.hasParts v.configuration.markup) →
        Fits v.configuration rule x.text := by
  obtain ⟨d, hParse, hFailures⟩ := Validator.validate_eq_ok hValid
  obtain ⟨root, hDescribes, rfl⟩ := Markup.Document.root_of_parse hParse
  refine ⟨root, hDescribes, fun x rule site hRoot hLeads hType hPlain => ?_⟩
  obtain ⟨lone, hReached⟩ := reached_start_of_leads hRoot hLeads
  have hNone := List.flatMap_eq_nil_iff.mp hFailures.symm _ hReached.mem_all
  have hChildren := children_eq_nil_of_typed
    (hLeads.wellFormed (Schema.wellFormed_of_compile hCompile)) hType
  exact fits_of_failures_eq_nil (s := v.setting) hChildren hPlain hNone

/-- Whole numbers up to five, of which there may be several. -/
def scoresSchema : String := "<s><n type=\"integer\" max=\"5\" repeatable=\"true\"/></s>"

def scoresText : String := "<s><n>3</n><n>4</n></s>"

def scoresDocument : Markup.Document where
  rootName := "s"
  root := .mapping [("n", .sequence [.scalar "3", .scalar "4"])]

/-- Both numbers of the list fit their rule. They are reached by the tag and the index together. -/
theorem Validator.fits_scores :
    ∃ v : Validator, Schema.Model.compile scoresSchema {} = .ok v.model ∧
      v.validate scoresText = .ok [] ∧
      ∃ root, Describes (Markup.scan scoresText .boolean v.configuration.markup).events root ∧
        ∀ x rule site, root.name = v.model.rootName →
          Leads (Element.LeavesKey v.configuration.markup) root v.model.root site x rule →
          (rule.type = .date ∨ rule.type = .boolean ∨ rule.type.isNumeric = true) →
          (v.configuration.unknownAllow = false ∨ ¬ x.hasParts v.configuration.markup) →
          Fits v.configuration rule x.text := by
  have hScan : Markup.scan scoresText .boolean {} = ⟨[.opening ⟨"s", [], 1⟩,
      .opening ⟨"n", [], 1⟩, .text "3", .closing, .opening ⟨"n", [], 1⟩, .text "4", .closing,
      .closing], none⟩ := by decide +kernel
  have hParse : Markup.Document.parse scoresText {} = .ok scoresDocument :=
    Markup.Document.parse_of_scan hScan rfl
  have hNone : (Schema.Model.compile scoresSchema {}).toOption.any (fun m =>
      ((Registry.mk []).ensureCovers m).isOk &&
        (reports ⟨{}, {}⟩ m.top "" true scoresDocument.tree).isEmpty) = true := by decide +kernel
  cases hCompile : Schema.Model.compile scoresSchema {} with
  | error e => simp [hCompile, Except.toOption] at hNone
  | ok m =>
    simp only [hCompile, Except.toOption, Option.any_some, Bool.and_eq_true] at hNone
    have hCovers : (Registry.mk []).ensureCovers m = .ok () := by
      cases hCovers : (Registry.mk []).ensureCovers m with
      | error e => simp [hCovers, Except.isOk, Except.toBool] at hNone
      | ok _ => rfl
    have hValid : (Validator.mk m {} {}).validate scoresText = .ok [] := by
      rw [validate, hParse]
      dsimp only
      rw [validateNode, traverse_of_covers hCovers]
      exact congrArg _ (List.isEmpty_iff.mp hNone.2)
    exact ⟨_, rfl, hValid, fits_of_validate hCompile hValid⟩

/-- A boolean inside a map. -/
def flagModel : Schema.Model where
  rootName := "r"
  root := .mk .map {} [("d", .mk .boolean { declared := some .boolean } [])]
  checks := []
  size := 2

/-- A text that is no boolean, with an attribute beside it. -/
def flagElement : Element := .mk ⟨"d", [⟨"k", "v"⟩], 1⟩ ["x"] []

def flagRoot : Element := .mk ⟨"r", [], 1⟩ [] [flagElement]

/-- A boolean with an attribute beside it is not held against its type. Its data is a mapping, and
of that only the keys are looked at. -/
theorem Validator.flag_beside_attribute :
    Schema.Model.compile "<r><d type=\"boolean\"/></r>" {} = .ok flagModel ∧
      (Validator.mk flagModel {} {}).validate "<r><d k=\"v\">x</d></r>" = .ok [] ∧
      Describes (Markup.scan "<r><d k=\"v\">x</d></r>" .boolean {}).events flagRoot ∧
      flagRoot.name = flagModel.rootName ∧
      ∃ rule, Leads (Element.LeavesKey {}) flagRoot flagModel.root [.tag "d"] flagElement rule ∧
        rule.type = .boolean ∧ ¬ Fits {} rule flagElement.text := by
  have hScan : Markup.scan "<r><d k=\"v\">x</d></r>" .boolean {} = ⟨[.opening ⟨"r", [], 1⟩,
      .opening ⟨"d", [⟨"k", "v"⟩], 1⟩, .text "x", .closing, .closing], none⟩ := by decide +kernel
  have hParse := Markup.Document.parse_of_scan hScan (rfl : _ = some flagRoot)
  have hLeaves : flagRoot.LeavesKey {} "d" := fun hName => absurd hName (by decide)
  refine ⟨rfl, ?_, Markup.describes_of_scan hScan rfl, rfl, _, .lone hLeaves rfl rfl (.here _ _),
    rfl, fun hFits => ?_⟩
  · rw [validate, hParse]
    dsimp only
    rw [validateNode, traverse_of_covers rfl]
    rfl
  · cases hFits.boolean rfl

end MarkupRules
