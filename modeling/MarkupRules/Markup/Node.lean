import MarkupRules.Json.Basic

/-!
Data trees.

A tree is made of texts, sequences and mappings. A mapping keeps its entries in the order
in which their keys first came.
-/
namespace MarkupRules.Markup

/-- A node of a data tree. -/
inductive Node where
  | scalar (text : String)
  | sequence (items : List Node)
  | mapping (entries : List (String × Node))
  deriving Repr, BEq, Inhabited

/-- Gives a key its value. A key that is there keeps its place. -/
def Node.insertEntry (key : String) (value : Node) :
    List (String × Node) → List (String × Node)
  | [] => [(key, value)]
  | (k, v) :: rest =>
    if k = key then (key, value) :: rest else (k, v) :: insertEntry key value rest

namespace Node

/-- The mapping that results from giving keys their values in order. -/
def ofEntries (entries : List (String × Node)) : Node :=
  .mapping (entries.foldl (fun m e => insertEntry e.1 e.2 m) [])

/-- The name of a node's shape. -/
def kind : Node → String
  | scalar _ => "scalar"
  | sequence _ => "sequence"
  | mapping _ => "mapping"

/-- The text of a scalar. -/
def scalar? : Node → Option String
  | scalar s => some s
  | _ => none

/-- The items of a sequence. -/
def items? : Node → Option (List Node)
  | sequence items => some items
  | _ => none

/-- The entries of a mapping. -/
def entries? : Node → Option (List (String × Node))
  | mapping entries => some entries
  | _ => none

/-- The value of a key in a mapping. -/
def get? (node : Node) (key : String) : Option Node := node.entries?.bind (·.lookup key)

/-- The keys of a mapping in order; other nodes have none. -/
def keys (node : Node) : List String := (node.entries?.getD []).map Prod.fst

mutual
/-- A node as a JSON value. -/
def toJson : Node → Json
  | scalar s => .string s
  | sequence items => .array (itemsToJson items)
  | mapping entries => .ofMembers (entriesToJson entries)

/-- `toJson` on the items of a sequence. -/
def itemsToJson : List Node → List Json
  | [] => []
  | item :: rest => item.toJson :: itemsToJson rest

/-- `toJson` on the entries of a mapping. -/
def entriesToJson : List (String × Node) → List (String × Json)
  | [] => []
  | (key, value) :: rest => (key, value.toJson) :: entriesToJson rest
end

end Node

end MarkupRules.Markup
