import MarkupRules.Markup.Event
import MarkupRules.Number.Layout
import MarkupRules.Number.Literal
import MarkupRules.Schema.Error
import MarkupRules.Schema.ValueType
import MarkupRules.Text.Quoted

/-!
Constraints: what the attributes of a schema tag ask of the tags it stands for.
-/
namespace MarkupRules.Schema

/-- The constraints of one tag. -/
structure Constraints where
  /-- The type that the tag declares. -/
  declared : Option ValueType := none
  minLength : Option Nat := none
  maxLength : Option Nat := none
  length : Option Nat := none
  pattern : Option Pattern := none
  fixed : Option String := none
  /-- The accepted texts, with commas between them. -/
  oneOf : Option String := none
  min : Option Number.Double := none
  max : Option Number.Double := none
  minOccurs : Option Nat := none
  maxOccurs : Option Nat := none
  repeatable : Bool := false
  nillable : Option Bool := none
  /-- The name of a check that the schema does not know. -/
  checkBy : Option String := none

namespace Constraints

/-- Whether the tag has to be there. -/
def isRequired (c : Constraints) : Bool :=
  c.nillable == some false || c.minOccurs.any (decide <| 0 < ·)

/-- What is asked for, one item each. -/
def describe (c : Constraints) : List String :=
  let item {α : Type} (name : String) (text : α → String) (value : Option α) : List String :=
    (value.map fun v => s!"{name}={text v}").toList
  let count : Nat → String := toString
  let number := Number.Layout.plain.text
  item "minLength" count c.minLength ++ item "maxLength" count c.maxLength ++
    item "length" count c.length ++
    item "pattern" (fun p => s!"/{p.source}/{p.flags}") c.pattern ++
    item "fixed" Text.quote c.fixed ++ item "in" Text.quote c.oneOf ++
    item "min" number c.min ++ item "max" number c.max ++
    item "minOccurs" count c.minOccurs ++ item "maxOccurs" count c.maxOccurs ++
    (if c.repeatable then ["repeatable"] else []) ++
    item "nillable" (fun b => if b then "true" else "false") c.nillable ++
    item "checkBy" id c.checkBy

end Constraints

/-- A number of 64 bits in decimal digits, perhaps with a plus in front and blanks around. -/
def count? (s : String) : Option Nat :=
  let digits := match Text.trim s.toList with
    | '+' :: digits => digits
    | digits => digits
  let n := Number.digitsValue digits
  if digits.isEmpty || !digits.all Char.isDigit || Nat.pow 2 64 ≤ n then none else some n

/-- A pattern as a tag declares it. -/
structure PatternDeclaration where
  /-- The attribute that declares it. -/
  key : String
  source : String
  /-- The letters of flags in the attribute's name. -/
  flags : String
  deriving Repr, DecidableEq

/-- What was read of the attributes of a tag. -/
structure Draft where
  constraints : Constraints := {}
  pattern : Option PatternDeclaration := none
  flags : Option String := none

namespace Draft

/-- What follows `pattern_` in the name of an attribute. -/
def flagsInName? (name : String) : Option String :=
  let opening := "pattern_".toList
  if opening.isPrefixOf name.toList then some (String.ofList (name.toList.drop opening.length))
  else none

/-- Notes a pattern, of which there may be one. -/
def declarePattern (path : String) (d : Draft) (p : PatternDeclaration) : Except Error Draft :=
  match d.pattern with
  | some earlier =>
    .error (.ambiguousPattern path (.declaredTwice earlier.key p.key))
  | none => .ok { d with pattern := some p }

/-- Whether the value of `repeatable` says so. -/
def presence? (value : String) : Option Bool :=
  match value with
  | "" | "true" => some true
  | "false" => some false
  | _ => none

/-- A truth value in words. -/
def truthValue? (value : String) : Option Bool :=
  match value with
  | "true" => some true
  | "false" => some false
  | _ => none

/-- Reads one attribute. -/
def read (path : String) (d : Draft) (a : Markup.Attribute) : Except Error Draft :=
  let c := d.constraints
  let use {α : Type} (reason : AttributeReason) (value : Option α) (set : α → Constraints) :
      Except Error Draft :=
    match value with
    | some v => .ok { d with constraints := set v }
    | none => .error (.invalidAttribute path a.name reason)
  let count := use .expectedCount (count? a.value)
  let number := use .expectedNumber (Number.read? a.value)
  match a.name with
  | "type" =>
    match ValueType.ofName? a.value with
    | some t => .ok { d with constraints := { c with declared := some t } }
    | none => .error (.unsupportedType path a.value)
  | "minLength" => count fun n => { c with minLength := some n }
  | "maxLength" => count fun n => { c with maxLength := some n }
  | "length" => count fun n => { c with length := some n }
  | "minOccurs" => count fun n => { c with minOccurs := some n }
  | "maxOccurs" => count fun n => { c with maxOccurs := some n }
  | "min" => number fun x => { c with min := some x }
  | "max" => number fun x => { c with max := some x }
  | "fixed" => .ok { d with constraints := { c with fixed := some a.value } }
  | "in" => .ok { d with constraints := { c with oneOf := some a.value } }
  | "repeatable" =>
    use .expectedPresence (presence? a.value) fun b => { c with repeatable := b }
  | "nillable" =>
    use .expectedTruthValue (truthValue? a.value) fun b => { c with nillable := some b }
  | "checkBy" =>
    use .expectedCheckName (if Text.isAllBlank a.value.toList then none else some a.value)
      fun name => { c with checkBy := some name }
  | "flags" => .ok { d with flags := some a.value }
  | "pattern" => declarePattern path d ⟨a.name, a.value, ""⟩
  | name =>
    match flagsInName? name with
    | some flags => declarePattern path d ⟨name, a.value, flags⟩
    | none => .error (.unknownAttribute path name)

/-- The pattern that was declared, with the flags that go with it. -/
def pattern? (path : String) (d : Draft) : Except Error (Option Pattern) :=
  match d.pattern, d.flags with
  | none, none => .ok none
  | none, some _ => .error (.ambiguousPattern path .flagsAlone)
  | some p, flags =>
    if flags.isSome && p.key != "pattern" then
      .error (.ambiguousPattern path (.flagsTwice p.key))
    else match Pattern.compile p.source (flags.getD p.flags) with
      | .ok pattern => .ok (some pattern)
      | .error (.unknownFlag c) =>
        .error (.invalidAttribute path p.key (.unknownPatternFlag c))
      | .error (.badSource defect) => .error (.invalidPattern path defect)

end Draft

/-- The constraints that attributes declare. -/
def Constraints.ofAttributes (path : String) (attributes : List Markup.Attribute) :
    Except Error Constraints :=
  match attributes.foldlM (Draft.read path) {} with
  | .error e => .error e
  | .ok d =>
    match d.pattern? path with
    | .error e => .error e
    | .ok pattern => .ok { d.constraints with pattern }

end MarkupRules.Schema
