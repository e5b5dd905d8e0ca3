import MarkupRules.Markup.Element

/-!
Documents: texts read into data trees.
-/
namespace MarkupRules.Markup

/-- A document by its root. -/
structure Document where
  rootName : String
  root : Node
  deriving Repr, BEq

namespace Document

/-- The whole tree: a mapping with the root as its one entry. -/
def tree (d : Document) : Node := .mapping [(d.rootName, d.root)]

/-- Reads a text. -/
def parse (text : String) (options : Options) : Except Error Document :=
  let scan := scan text .boolean options
  match scan.error with
  | some e => .error e
  | none =>
    match Element.ofEvents? scan.events with
    | some e => .ok ⟨e.name, e.node options⟩
    | none => .error .noRoot

/-- Reads bytes, which have to be a text. -/
def parseBytes (bytes : List UInt8) (options : Options) : Except Error Document :=
  match Text.decode bytes with
  | .ok text => parse text options
  | .error defect => .error (.notText defect)

end Document

end MarkupRules.Markup
