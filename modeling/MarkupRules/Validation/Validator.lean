import MarkupRules.Markup.Document
import MarkupRules.Validation.Traversal

/-!
Validators: models together with the settings and checks they are used with.
-/
namespace MarkupRules

open Validation (Configuration Registry Check)

/-- A model with what its use needs. -/
structure Validator where
  model : Schema.Model
  configuration : Configuration := {}
  registry : Registry := {}

namespace Validator

/-- The validator of a schema, which is read like a document. -/
def ofSchema (schema : String) (configuration : Configuration) :
    Except Schema.Error Validator :=
  (Schema.Model.compile schema configuration.markup).map ({ model := ·, configuration })

/-- Gives a name its check. -/
def register (v : Validator) (name : String) (check : Check) : Validator :=
  { v with registry := v.registry.register name check }

/-- The failures of a data tree. -/
def validateNode (v : Validator) (tree : Markup.Node) : Except Schema.Error (List Failure) :=
  Validation.traverse ⟨v.configuration, v.registry⟩ tree v.model

/-- The failures of a document. -/
def validate (v : Validator) (document : String) : Except Schema.Error (List Failure) :=
  match Markup.Document.parse document v.configuration.markup with
  | .error e => .error (.markup e)
  | .ok d => v.validateNode d.tree

/-- The failures of a document in bytes. -/
def validateBytes (v : Validator) (bytes : List UInt8) : Except Schema.Error (List Failure) :=
  match Text.decode bytes with
  | .error defect => .error (.markup (.notText defect))
  | .ok document => v.validate document

end Validator

end MarkupRules
