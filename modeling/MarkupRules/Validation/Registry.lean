import MarkupRules.Markup.Node
import MarkupRules.Schema.Model
import MarkupRules.Validation.Failure

/-!
What a validation is set up with: what it accepts, and the checks that a schema refers to by name.
-/
namespace MarkupRules.Validation

/-- What a validation accepts. -/
structure Configuration where
  /-- Whether tags that the rules do not declare are passed over. -/
  unknownAllow : Bool := true
  /-- The texts of the type boolean. -/
  boolean : List String := ["true", "false"]
  /-- How documents are read. -/
  markup : Markup.Options := {}
  deriving Repr, DecidableEq

/-- Whether a text is of the type boolean. -/
def Configuration.isBoolean (c : Configuration) (token : String) : Bool :=
  c.boolean.contains token

/-- A check of a node at a path: the failure to report, if any. A check is no more than its
answers. What it does besides answering, and how often it is asked for the same answer, has no place
in it, so nothing here says how many calls a validation makes. -/
abbrev Check := Markup.Node → String → Option Failure

/-- Checks by name, in ascending order of the names. -/
structure Registry where
  entries : List (String × Check) := []

namespace Registry

/-- Puts a check into entries sorted by name; a check of that name is replaced. -/
def insertEntry (name : String) (check : Check) :
    List (String × Check) → List (String × Check)
  | [] => [(name, check)]
  | (n, c) :: rest =>
    if name < n then (name, check) :: (n, c) :: rest
    else if name = n then (name, check) :: rest
    else (n, c) :: insertEntry name check rest

/-- Gives a name its check. -/
def register (r : Registry) (name : String) (check : Check) : Registry :=
  ⟨insertEntry name check r.entries⟩

/-- The check with a name. -/
def get? (r : Registry) (name : String) : Option Check := r.entries.lookup name

/-- Whether a name has a check. -/
def contains (r : Registry) (name : String) : Bool := (r.get? name).isSome

/-- The names in ascending order. -/
def names (r : Registry) : List String := r.entries.map Prod.fst

/-- The number of checks. -/
def size (r : Registry) : Nat := r.entries.length

/-- Refuses a model that asks for a check that is not there. -/
def ensureCovers (r : Registry) (m : Schema.Model) : Except Schema.Error Unit :=
  match m.checks.find? fun ref => !r.contains ref.name with
  | some ref => .error (.unregisteredCheck ref.name ref.path)
  | none => .ok ()

/-- The registry as it is shown to a developer: the names of its checks. -/
def debugText (r : Registry) : String :=
  "CheckRegistry \x7b names: [" ++ ", ".intercalate (r.names.map Text.quote) ++ "] \x7d"

end Registry

end MarkupRules.Validation
