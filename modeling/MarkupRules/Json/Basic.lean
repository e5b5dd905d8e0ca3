import MarkupRules.Number.Double

/-!
JSON values.

Numbers are whole numbers or doubles, and the two stay apart: `1` and `1.0` are
different values. `ofMembers` builds an object whose members ascend by key, each key
once; an object that is only written may have its members in an order of its own.
-/
namespace MarkupRules

/-- A JSON value. -/
inductive Json where
  | null
  | bool (b : Bool)
  | integer (n : Int)
  | double (x : Number.Double)
  | string (s : String)
  | array (items : List Json)
  | object (members : List (String × Json))
  deriving Repr, BEq, Inhabited

namespace Json

/-- Puts a member into members sorted by key; a value that the key had is replaced. -/
def insertMember (key : String) (value : Json) :
    List (String × Json) → List (String × Json)
  | [] => [(key, value)]
  | (k, v) :: rest =>
    if key < k then (key, value) :: (k, v) :: rest
    else if key = k then (key, value) :: rest
    else (k, v) :: insertMember key value rest

/-- The object with the given members; of two with one key the later counts. -/
def ofMembers (members : List (String × Json)) : Json :=
  .object (members.foldl (fun sorted m => insertMember m.1 m.2 sorted) [])

/-- A natural number as a value. -/
def ofNat (n : Nat) : Json := .integer n

/-- The value of a number that a text denotes: a whole number below 2^53 in magnitude stays
one, whatever its spelling, and loses the sign of zero. -/
def ofDouble (x : Number.Double) : Json :=
  match x.smallInt? with
  | some n => .integer n
  | none => .double x

end Json

end MarkupRules
