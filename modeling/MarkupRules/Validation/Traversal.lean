import MarkupRules.Calendar.Timestamp
import MarkupRules.Validation.Predicate
import MarkupRules.Validation.Registry

/-!
Holding a data tree against rules.

A visit is a node that reached a rule. Its own failures come first and then those of the
visits below it, in the order of the data. `work` goes through visits with a list of
those that are still to come, so the depth of a tree costs no stack; `run` collects the
failures on the way, and `reports` is the same list by recursion on the tree.
-/
namespace MarkupRules.Validation

open Markup (Node)
open Schema (Rule Constraints)

/-- What a validation knows besides the tree and the rules. -/
structure Setting where
  configuration : Configuration
  registry : Registry

/-- A node that reached a rule. -/
structure Visit where
  node : Node
  rule : Rule
  path : String
  /-- Whether the tag comes once among its siblings; the bounds for the items of a repeated tag
  are checked for all of them together. -/
  lone : Bool

/-- The visit of a whole tree. -/
def Visit.start (tree : Node) (model : Schema.Model) : Visit := ⟨tree, model.top, "", true⟩

/-- The path of a key inside a mapping. -/
def keyPath (path key : String) : String := if path.isEmpty then key else s!"{path}.{key}"

/-- The path of an item of a sequence. -/
def itemPath (path : String) (index : Nat) : String := s!"{path}[{index}]"

/-- The failure of a constraint that may be there, if it does not hold. -/
def violation {α : Type} (code path : String) (actual : Json) (expected : Option α)
    (holds : α → Bool) (text : α → Json) : List Failure :=
  match expected with
  | none => []
  | some e => if holds e then [] else [.constraint code path actual (text e)]

/-- The failures of the bounds on how often a tag comes. -/
def occurrenceFailures (c : Constraints) (count : Nat) (path : String) : List Failure :=
  violation "minOccurs" path (.ofNat count) c.minOccurs (Predicate.minOccurs · count) .ofNat ++
    violation "maxOccurs" path (.ofNat count) c.maxOccurs (Predicate.maxOccurs · count) .ofNat

/-- The same for a tag that comes once, if it may repeat. -/
def loneFailures (rule : Rule) (lone : Bool) (path : String) : List Failure :=
  if lone && rule.isRepeatable then occurrenceFailures rule.constraints 1 path else []

/-- The failures of the constraints on texts. -/
def stringFailures (c : Constraints) (actual path : String) : List Failure :=
  let shown := Json.string actual
  violation "minLength" path shown c.minLength (Predicate.minLength · actual) .ofNat ++
    violation "maxLength" path shown c.maxLength (Predicate.maxLength · actual) .ofNat ++
    violation "length" path shown c.length (Predicate.length · actual) .ofNat ++
    violation "pattern" path shown c.pattern (Pattern.isMatch · actual) (.string ·.source) ++
    violation "fixed" path shown c.fixed (Predicate.fixed · actual) .string ++
    violation "in" path shown c.oneOf (Predicate.oneOf · actual) .string

/-- The failures of the constraints on numbers. -/
def numberFailures (c : Constraints) (actual : Number.Double) (path : String) : List Failure :=
  violation "min" path (.ofDouble actual) c.min (Predicate.min · actual) .ofDouble ++
    violation "max" path (.ofDouble actual) c.max (Predicate.max · actual) .ofDouble

/-- The failures for the keys that have to be there. -/
def missingFailures (rule : Rule) (keys : List String) (path : String) : List Failure :=
  keys.filterMap fun key =>
    if (rule.child? key).any Rule.isRequired then some (.missing (keyPath path key)) else none

/-- The failures of a text. A text in place of a map leaves everything inside missing. -/
def textFailures (s : Setting) (rule : Rule) (text path : String) : List Failure :=
  match rule.type with
  | .map =>
    (if text.isEmpty then [] else [.unexpectedValueInMap path text]) ++
      missingFailures rule (rule.children.map Prod.fst) path
  | .date => if Calendar.isDate text then [] else [.notA "date" path text]
  | .boolean => if s.configuration.isBoolean text then [] else [.notA "boolean" path text]
  | .string => stringFailures rule.constraints text path
  | t =>
    match (Number.read? text).filter t.acceptsNumber with
    | some x => numberFailures rule.constraints x path
    | none => [.notA t.name path text]

/-- The failures of the keys of a mapping. -/
def keyFailures (s : Setting) (rule : Rule) (keys : List String) (path : String) :
    List Failure :=
  let partition := KeyPartition.ofKeys keys (rule.children.map Prod.fst)
  (if s.configuration.unknownAllow then []
    else partition.data.map fun key => .unknown (keyPath path key)) ++
    missingFailures rule partition.rules path

/-- The failure of the check that a rule names. -/
def checkFailures (s : Setting) (node : Node) (rule : Rule) (path : String) : List Failure :=
  match rule.constraints.checkBy.bind s.registry.get? with
  | some check => (check node path).toList
  | none => []

/-- The failures of a visit itself, without those of the visits below it. -/
def Visit.failures (s : Setting) (v : Visit) : List Failure :=
  match v.node with
  | .sequence items =>
    if v.rule.isRepeatable then occurrenceFailures v.rule.constraints items.length v.path
    else [.unexpectedSequence v.path]
  | .mapping entries =>
    loneFailures v.rule v.lone v.path ++
      keyFailures s v.rule (entries.map Prod.fst) v.path ++
      checkFailures s v.node v.rule v.path
  | .scalar text =>
    loneFailures v.rule v.lone v.path ++ textFailures s v.rule text v.path ++
      checkFailures s v.node v.rule v.path

/-- The visits of the items of a sequence, from the item `index` on. -/
def itemVisits (rule : Rule) (path : String) : Nat → List Node → List Visit
  | _, [] => []
  | index, item :: rest =>
    ⟨item, rule, itemPath path index, false⟩ :: itemVisits rule path (index + 1) rest

/-- The visits of the entries of a mapping that the rules declare. -/
def entryVisits (rule : Rule) (path : String) : List (String × Node) → List Visit
  | [] => []
  | (key, node) :: rest =>
    match rule.child? key with
    | some child => ⟨node, child, keyPath path key, true⟩ :: entryVisits rule path rest
    | none => entryVisits rule path rest

/-- The visits that a visit leads to. Nothing below a sequence that may not be one is visited. -/
def Visit.next (v : Visit) : List Visit :=
  match v.node with
  | .sequence items => if v.rule.isRepeatable then itemVisits v.rule v.path 0 items else []
  | .mapping entries => entryVisits v.rule v.path entries
  | .scalar _ => []

mutual
/-- The number of nodes of a tree. -/
def nodeCount : Node → Nat
  | .scalar _ => 1
  | .sequence items => 1 + itemsNodeCount items
  | .mapping entries => 1 + entriesNodeCount entries

/-- The number of nodes in the items of a sequence. -/
def itemsNodeCount : List Node → Nat
  | [] => 0
  | item :: rest => nodeCount item + itemsNodeCount rest

/-- The number of nodes in the entries of a mapping. -/
def entriesNodeCount : List (String × Node) → Nat
  | [] => 0
  | (_, node) :: rest => nodeCount node + entriesNodeCount rest
end

/-- The number of nodes below visits. -/
def visitsNodeCount : List Visit → Nat
  | [] => 0
  | v :: rest => nodeCount v.node + visitsNodeCount rest

theorem visitsNodeCount_append (vs ws : List Visit) :
    visitsNodeCount (vs ++ ws) = visitsNodeCount vs + visitsNodeCount ws := by
  induction vs with
  | nil => simp [visitsNodeCount]
  | cons v rest ih => simp [visitsNodeCount, ih, Nat.add_assoc]

theorem visitsNodeCount_itemVisits (rule : Rule) (path : String) (index : Nat)
    (items : List Node) :
    visitsNodeCount (itemVisits rule path index items) = itemsNodeCount items := by
  induction items generalizing index with
  | nil => rfl
  | cons item rest ih => simp [itemVisits, visitsNodeCount, itemsNodeCount, ih]

/-- The visits of the entries of a mapping have no more nodes than the entries. Entries without a
rule lead to no visit. -/
theorem visitsNodeCount_entryVisits_le (rule : Rule) (path : String)
    (entries : List (String × Node)) :
    visitsNodeCount (entryVisits rule path entries) ≤ entriesNodeCount entries := by
  induction entries with
  | nil => exact Nat.le_refl _
  | cons e rest ih =>
    obtain ⟨key, node⟩ := e
    simp only [entryVisits, entriesNodeCount]
    split
    · simpa [visitsNodeCount] using ih
    · omega

/-- Each visit leads to fewer nodes than its own, because its own node is not visited again. So the
work comes to an end. -/
theorem visitsNodeCount_next_lt (v : Visit) : visitsNodeCount v.next < nodeCount v.node := by
  obtain ⟨node, rule, path, lone⟩ := v
  cases node with
  | scalar text => simp [Visit.next, visitsNodeCount, nodeCount]
  | sequence items =>
    simp only [Visit.next, nodeCount]
    split
    · rw [visitsNodeCount_itemVisits]; omega
    · simp only [visitsNodeCount]; omega
  | mapping entries =>
    have := visitsNodeCount_entryVisits_le rule path entries
    simp only [Visit.next, nodeCount]
    omega

/-- Works through visits, the next one first, and takes each into an account when it is made. -/
def work {σ : Type} (take : σ → Visit → σ) (account : σ) : List Visit → σ
  | [] => account
  | v :: rest => work take (take account v) (v.next ++ rest)
termination_by visits => visitsNodeCount visits
decreasing_by
  have := visitsNodeCount_next_lt v
  simp only [visitsNodeCount_append, visitsNodeCount]
  omega

/-- Puts the failures of a visit to those so far, which stand last first. -/
def Visit.report (s : Setting) (done : List Failure) (v : Visit) : List Failure :=
  (v.failures s).reverseAux done

/-- The failures of visits and of all that they lead to. -/
def run (s : Setting) (visits : List Visit) : List Failure :=
  (work (Visit.report s) [] visits).reverse

mutual
/-- The failures of a node under a rule. -/
def reports (s : Setting) (rule : Rule) (path : String) (lone : Bool) : Node → List Failure
  | .scalar text =>
    loneFailures rule lone path ++ textFailures s rule text path ++
      checkFailures s (.scalar text) rule path
  | .sequence items =>
    if rule.isRepeatable then
      occurrenceFailures rule.constraints items.length path ++ itemReports s rule path 0 items
    else [.unexpectedSequence path]
  | .mapping entries =>
    loneFailures rule lone path ++ keyFailures s rule (entries.map Prod.fst) path ++
      checkFailures s (.mapping entries) rule path ++ entryReports s rule path entries

/-- The failures of the items of a sequence, from the item `index` on. -/
def itemReports (s : Setting) (rule : Rule) (path : String) (index : Nat) :
    List Node → List Failure
  | [] => []
  | item :: rest =>
    reports s rule (itemPath path index) false item ++ itemReports s rule path (index + 1) rest

/-- The failures of the entries of a mapping that the rules declare. -/
def entryReports (s : Setting) (rule : Rule) (path : String) :
    List (String × Node) → List Failure
  | [] => []
  | (key, node) :: rest =>
    match rule.child? key with
    | some child => reports s child (keyPath path key) true node ++ entryReports s rule path rest
    | none => entryReports s rule path rest
end

/-- The failures of a tree under a model, which may only ask for checks that are there. -/
def traverse (s : Setting) (tree : Node) (model : Schema.Model) :
    Except Schema.Error (List Failure) :=
  match s.registry.ensureCovers model with
  | .error e => .error e
  | .ok () => .ok (run s [.start tree model])

end MarkupRules.Validation
