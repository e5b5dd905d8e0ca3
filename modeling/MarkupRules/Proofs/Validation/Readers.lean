import MarkupRules.Proofs.Markup.DataTree
import MarkupRules.Proofs.Schema.Refusal
import MarkupRules.Validation.Validator

/-!
All readers of a text agree on whether it is well-formed.

Checking, reading a document, validating one and compiling a schema take in the same scan.
What each of them builds from the events never fails for a reason that concerns the markup.
-/
namespace MarkupRules

namespace Markup

/-- A text is turned down as a document with the error of its scan, and with no other. The tree
itself can be built from any events. -/
theorem Document.parse_eq_error_iff {text : String} {options : Options} {e : Error} :
    Document.parse text options = .error e ↔ (scan text .boolean options).error = some e := by
  unfold parse
  dsimp only
  cases hError : (scan text .boolean options).error with
  | some e' => simp
  | none =>
    obtain ⟨root, hBuilt, -⟩ := describes_of_scan_ok hError
    simp [hBuilt]

/-- So a text becomes a document just if its scan comes through without an error. -/
theorem Document.exists_parse_iff {text : String} {options : Options} :
    (∃ d, Document.parse text options = .ok d) ↔ (scan text .boolean options).error = none := by
  constructor
  · rintro ⟨d, hParse⟩
    by_contra hError
    obtain ⟨e, hSome⟩ := Option.ne_none_iff_exists'.mp hError
    rw [Document.parse_eq_error_iff.mpr hSome] at hParse
    cases hParse
  · intro hError
    obtain ⟨root, hBuilt, -⟩ := describes_of_scan_ok hError
    exact ⟨_, Document.parse_of_scan (by rw [← hError]) hBuilt⟩

end Markup

namespace Validator

/-- A data tree of any shape is turned down for one reason only: the model asks for a check that is
not registered. -/
theorem exists_unregisteredCheck_of_validateNode {v : Validator} {tree : Markup.Node}
    {e : Schema.Error} (h : v.validateNode tree = .error e) :
    ∃ name path, e = .unregisteredCheck name path := by
  unfold validateNode Validation.traverse Validation.Registry.ensureCovers at h
  split at h
  · next hCovers =>
    obtain rfl := Except.error.inj h
    split at hCovers
    · exact ⟨_, _, (Except.error.inj hCovers).symm⟩
    · cases hCovers
  · cases h

/-- A validation reports a fault of the markup just if the scan does, and the same one. The checks
are looked at only behind it. -/
theorem validate_eq_markup_iff {v : Validator} {text : String} {e : Markup.Error} :
    v.validate text = .error (.markup e) ↔
      (Markup.scan text .boolean v.configuration.markup).error = some e := by
  rw [← Markup.Document.parse_eq_error_iff]
  unfold validate
  cases hParse : Markup.Document.parse text v.configuration.markup with
  | error e' => simp
  | ok d =>
    have hNode : v.validateNode d.tree ≠ .error (.markup e) := by
      intro h
      obtain ⟨name, path, hEq⟩ := exists_unregisteredCheck_of_validateNode h
      cases hEq
    simp [hNode]

/-- Where the markup is sound, a validation can still be refused for a check that is not registered,
and for nothing else. -/
theorem exists_unregisteredCheck_of_validate {v : Validator} {text : String} {e : Schema.Error}
    (hScan : (Markup.scan text .boolean v.configuration.markup).error = none)
    (h : v.validate text = .error e) : ∃ name path, e = .unregisteredCheck name path := by
  obtain ⟨d, hParse⟩ := Markup.Document.exists_parse_iff.mpr hScan
  rw [validate, hParse] at h
  exact exists_unregisteredCheck_of_validateNode h

end Validator

/-- What the readers of a text say is what checking it says: the same error if it is not
well-formed, and none that concerns the markup otherwise. -/
structure ReadersAgree (text : String) (options : Markup.Options)
    (verdict : Except Markup.Error Unit) : Prop where
  parse_ok : (∃ d, Markup.Document.parse text options = .ok d) ↔ verdict = .ok ()
  parse_error : ∀ e, Markup.Document.parse text options = .error e ↔ verdict = .error e
  validate_markup : ∀ v : Validator, v.configuration.markup = options →
    ∀ e, v.validate text = .error (.markup e) ↔ verdict = .error e
  validate_other : ∀ v : Validator, v.configuration.markup = options → verdict = .ok () →
    ∀ e, v.validate text = .error e → ∃ name path, e = .unregisteredCheck name path
  compile_ok : ∀ m, Schema.Model.compile text options = .ok m → verdict = .ok ()
  compile_markup : ∀ e, Schema.Model.compile text options = .error (.markup e) →
    verdict = .error e

/-- All readers of a text agree with checking it. Kind, message and line of an error are the same
for a document, a schema and a validation, and a text that is accepted by one is well-formed for all
of them. -/
theorem readers_agree (text : String) (options : Markup.Options) :
    ReadersAgree text options (Markup.checkWellFormed text .boolean options) := by
  constructor
  case parse_ok => rw [Markup.checkWellFormed_eq_ok_iff, Markup.Document.exists_parse_iff]
  case parse_error =>
    intro e
    rw [Markup.checkWellFormed_eq_error_iff, Markup.Document.parse_eq_error_iff]
  case validate_markup =>
    rintro v rfl e
    rw [Markup.checkWellFormed_eq_error_iff, Validator.validate_eq_markup_iff]
  case validate_other =>
    rintro v rfl hVerdict e hValidate
    rw [Markup.checkWellFormed_eq_ok_iff] at hVerdict
    exact Validator.exists_unregisteredCheck_of_validate hVerdict hValidate
  case compile_ok =>
    intro m hCompile
    rw [Markup.checkWellFormed_eq_ok_iff]
    exact Schema.error_eq_none_of_compile hCompile
  case compile_markup =>
    intro e hCompile
    rw [Markup.checkWellFormed_eq_error_iff]
    exact Schema.error_of_compile_eq_markup hCompile

end MarkupRules
