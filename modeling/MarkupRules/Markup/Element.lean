import MarkupRules.Markup.Event
import MarkupRules.Markup.Node

/-!
Elements: the tree that the events of a well-formed text describe.

An element keeps its texts and its child elements, each in their order. How texts and
children take turns is not kept.
-/
namespace MarkupRules.Markup

/-- An element with what it contains. -/
inductive Element where
  | mk (tag : OpenTag) (texts : List String) (children : List Element)
  deriving Repr, BEq

namespace Element

/-- The start tag. -/
def tag : Element → OpenTag
  | mk tag _ _ => tag

/-- The name of the tag. -/
def name (e : Element) : String := e.tag.name

/-- The texts between the tags, in order. -/
def texts : Element → List String
  | mk _ texts _ => texts

/-- The child elements, in order. -/
def children : Element → List Element
  | mk _ _ children => children

/-- The text of an element: its texts with a space between them. -/
def text (e : Element) : String := " ".intercalate e.texts

/-- An element whose end tag has not come yet. -/
structure Frame where
  tag : OpenTag
  /-- The texts so far, last first. -/
  texts : List String := []
  /-- The children so far, last first. -/
  children : List Element := []

/-- The element of a frame whose end tag has come. -/
def Frame.close (f : Frame) : Element := .mk f.tag f.texts.reverse f.children.reverse

/-- Elements under construction. -/
structure Builder where
  /-- The open elements, innermost first. -/
  frames : List Frame := []
  /-- The element that closed with none open around it. -/
  root : Option Element := none

/-- Takes in an event. -/
def Builder.step (b : Builder) : Event → Builder
  | .opening tag => { b with frames := { tag } :: b.frames }
  | .text s =>
    match b.frames with
    | [] => b
    | f :: outer => { b with frames := { f with texts := s :: f.texts } :: outer }
  | .closing =>
    match b.frames with
    | [] => b
    | [f] => { frames := [], root := some f.close }
    | f :: parent :: outer =>
      { b with frames := { parent with children := f.close :: parent.children } :: outer }

/-- The element that events describe. -/
def ofEvents? (events : List Event) : Option Element := (events.foldl Builder.step {}).root

/-- Collects the values of each key; keys stand in the order in which they first come. -/
def collect : List (String × Node) → List (String × List Node)
  | [] => []
  | (key, value) :: rest =>
    let others := collect rest
    (key, value :: (others.lookup key).getD []) :: others.filter (·.1 != key)

/-- The value of a key that came once or several times. -/
def ofOccurrences : List Node → Node
  | [node] => node
  | nodes => .sequence nodes

/-- The entries of a mapping for the attributes of a tag. -/
def attributeEntries (options : Options) (attributes : List Attribute) : List (String × Node) :=
  match options.attributeKey with
  | none => []
  | some key =>
    if attributes.isEmpty then []
    else [(key, .ofEntries (attributes.map fun a => (a.name, .scalar a.value)))]

/-- The node of an element with the given attributes, text and children. Without attributes and
children it is its text alone. -/
def assemble (options : Options) (attributes : List Attribute) (text : String)
    (children : List (String × Node)) : Node :=
  let attributes := attributeEntries options attributes
  if children.isEmpty && attributes.isEmpty then .scalar text
  else
    let children := (collect children).map fun (name, nodes) => (name, ofOccurrences nodes)
    let text := if text.isEmpty then [] else [(options.textKey, .scalar text)]
    .ofEntries (attributes ++ children ++ text)

mutual
/-- The data of an element. -/
def node (options : Options) : Element → Node
  | mk tag texts children =>
    assemble options tag.attributes (" ".intercalate texts) (namedNodes options children)

/-- The data of elements, each under its name. -/
def namedNodes (options : Options) : List Element → List (String × Node)
  | [] => []
  | e :: rest => (e.name, e.node options) :: namedNodes options rest
end

end Element

end MarkupRules.Markup
