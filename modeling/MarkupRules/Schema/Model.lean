import MarkupRules.Schema.Constraints

/-!
Models: schemas made ready for use.

A model is a tree of rules, one for each tag of the schema. `Model.compile` builds it from
the events of the schema's text and stops at the first event that shows a mistake.
-/
namespace MarkupRules.Schema

/-- The rule of one tag: its type, its constraints and the rules of the tags inside it. -/
inductive Rule where
  | mk (type : ValueType) (constraints : Constraints) (children : List (String × Rule))

namespace Rule

/-- The type: the declared one, or else a map where there are tags inside and a text where not. -/
def type : Rule → ValueType
  | mk type _ _ => type

/-- The constraints. -/
def constraints : Rule → Constraints
  | mk _ constraints _ => constraints

/-- The rules of the tags inside, in the order of the schema. -/
def children : Rule → List (String × Rule)
  | mk _ _ children => children

/-- The rule of a tag inside. -/
def child? (r : Rule) (name : String) : Option Rule := r.children.lookup name

/-- Whether there are tags inside. -/
def isMapShaped (r : Rule) : Bool := !r.children.isEmpty

/-- Whether the tag may repeat. -/
def isRepeatable (r : Rule) : Bool := r.constraints.repeatable

/-- Whether the tag has to be there. -/
def isRequired (r : Rule) : Bool := r.constraints.isRequired

mutual
/-- A rule under its path and then the rules inside it, in the order of the schema. -/
def walk (path : String) : Rule → List (String × Rule)
  | mk type constraints children =>
    (path, mk type constraints children) :: walkChildren path children

/-- The rules under names inside `path`. -/
def walkChildren (path : String) : List (String × Rule) → List (String × Rule)
  | [] => []
  | (name, rule) :: rest => rule.walk s!"{path}.{name}" ++ walkChildren path rest
end

mutual
/-- The number of rules in a rule, with itself. -/
def count : Rule → Nat
  | mk _ _ children => 1 + countAll children

/-- The number of rules in those under names. -/
def countAll : List (String × Rule) → Nat
  | [] => 0
  | (_, rule) :: rest => rule.count + countAll rest
end

/-- The rules of two lists add up, so what is pushed on a stack adds its own rules to those below.
-/
theorem countAll_append (above below : List (String × Rule)) :
    countAll (above ++ below) = countAll above + countAll below := by
  induction above with
  | nil => simp [countAll]
  | cons entry rest ih => simp [countAll, ih, Nat.add_assoc]

/-- The rules inside a rule, each with its own path. -/
def entriesBelow (path : String) (r : Rule) : List (String × Rule) :=
  r.children.map fun c => (s!"{path}.{c.1}", c.2)

/-- The rules inside a rule are fewer than those in the rule with itself. So a stack has fewer rules
after each turn, though it may have more entries. -/
theorem countAll_entriesBelow_lt (path : String) (r : Rule) :
    countAll (r.entriesBelow path) < r.count := by
  obtain ⟨type, constraints, children⟩ := r
  have hPaths : countAll (children.map fun c => (s!"{path}.{c.1}", c.2)) = countAll children := by
    induction children with
    | nil => rfl
    | cons c rest ih => rw [List.map_cons, countAll, countAll, ih]
  rw [entriesBelow, Rule.children, hPaths, count]
  omega

/-- Pushes entries from the last one on, so that the first of them is on top in the end. -/
def pushReversed (entries stack : List (String × Rule)) : List (String × Rule) :=
  entries.reverse.foldl (fun stack entry => entry :: stack) stack

/-- Entries that are pushed from the last one on stand in their own order on top of the stack. -/
theorem pushReversed_eq (entries stack : List (String × Rule)) :
    pushReversed entries stack = entries ++ stack := by
  simp [pushReversed]

/-- Takes the top off a stack of rules, pushes the rules inside it and goes on until nothing is
left; `done` are the rules that came off so far, last first. -/
def walkStack (done : List (String × Rule)) : List (String × Rule) → List (String × Rule)
  | [] => done.reverse
  | (path, r) :: stack => walkStack ((path, r) :: done) (pushReversed (r.entriesBelow path) stack)
termination_by stack => countAll stack
decreasing_by
  have := countAll_entriesBelow_lt path r
  rw [pushReversed_eq, countAll_append, countAll]
  omega

end Rule

/-- The name of a check and the path of the tag that asks for it. -/
structure CheckRef where
  name : String
  path : String
  deriving Repr, DecidableEq

/-- A schema made ready for use. -/
structure Model where
  rootName : String
  root : Rule
  /-- The checks that tags ask for, in the order of the schema. -/
  checks : List CheckRef
  /-- The number of tags. -/
  size : Nat

namespace Model

/-- The rule that a whole data tree is held against: a map with the root as its one tag. -/
def top (m : Model) : Rule := .mk .map {} [(m.rootName, m.root)]

/-- All rules with their paths, in the order of the schema. -/
def walk (m : Model) : List (String × Rule) :=
  Rule.walkStack [] (Rule.pushReversed m.top.children [])

end Model

/-- A tag of a schema whose end has not come yet. -/
structure PendingRule where
  name : String
  path : String
  constraints : Constraints
  /-- The rules inside so far, last first. -/
  children : List (String × Rule) := []

/-- The path of a tag inside another. -/
def pathWithin (outer : Option String) (name : String) : String :=
  match outer with
  | some path => s!"{path}.{name}"
  | none => name

/-- The type of a tag, which a map must be if there are tags inside. -/
def resolveType (path : String) (declared : Option ValueType) (hasChildren : Bool) :
    Except Error ValueType :=
  match declared with
  | some .map => .ok .map
  | some t => if hasChildren then .error (.conflictingShape path t.name) else .ok t
  | none => .ok (if hasChildren then .map else .string)

/-- The rule of a tag whose end has come. -/
def PendingRule.close (p : PendingRule) : Except Error Rule :=
  (resolveType p.path p.constraints.declared (!p.children.isEmpty)).map fun t =>
    .mk t p.constraints p.children.reverse

/-- A model under construction. -/
structure Builder where
  /-- The open tags, innermost first. -/
  pending : List PendingRule := []
  /-- The tag that closed with none open around it. -/
  root : Option (String × Rule) := none
  /-- The checks so far, last first. -/
  checks : List CheckRef := []
  /-- The number of tags that closed. -/
  size : Nat := 0

namespace Builder

/-- A tag opens. -/
def opening (b : Builder) (tag : Markup.OpenTag) : Except Error Builder :=
  let path := pathWithin (b.pending.head?.map (·.path)) tag.name
  match Constraints.ofAttributes path tag.attributes with
  | .error e => .error e
  | .ok constraints =>
    let checks := (constraints.checkBy.map fun name => ⟨name, path⟩).toList
    .ok { b with
      pending := { name := tag.name, path, constraints } :: b.pending
      checks := checks ++ b.checks }

/-- The innermost tag closes. -/
def closing (b : Builder) : Except Error Builder :=
  match b.pending with
  | [] => .ok b
  | p :: outer =>
    match p.close, outer with
    | .error e, _ => .error e
    | .ok rule, [] =>
      .ok { b with pending := [], root := some (p.name, rule), size := b.size + 1 }
    | .ok rule, parent :: outer =>
      if (parent.children.lookup p.name).isSome then .error (.duplicateRule p.path)
      else .ok { b with
        pending := { parent with children := (p.name, rule) :: parent.children } :: outer
        size := b.size + 1 }

/-- Takes in an event. Texts in a schema mean nothing. -/
def step (b : Builder) : Markup.Event → Except Error Builder
  | .opening tag => b.opening tag
  | .text _ => .ok b
  | .closing => b.closing

end Builder

/-- Makes a schema ready for use. -/
def Model.compile (text : String) (options : Markup.Options) : Except Error Model :=
  match (Markup.scan text .boolean options).feed Error.markup Builder.step {} with
  | .error e => .error e
  | .ok b =>
    match b.root with
    | some (name, rule) => .ok ⟨name, rule, b.checks.reverse, b.size⟩
    | none => .error (.markup .noRoot)

end MarkupRules.Schema
