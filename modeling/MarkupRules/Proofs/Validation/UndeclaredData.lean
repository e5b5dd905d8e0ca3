import MarkupRules.Proofs.Schema.Walk
import MarkupRules.Proofs.Validation.Refinement

/-!
Data that no rule looks at.

A traversal reads the keys of a mapping, but of the values only those whose keys the rule declares,
and nothing of a sequence that may not be one. Covering up the rest changes no failure, as long as
no check of its own looks at a node.
-/
namespace MarkupRules.Validation

open Markup (Node)
open Schema (Rule)

mutual
/-- A node with `dummy` in place of what its rule does not look at: the values of undeclared keys,
and all that a sequence holds whose rule may not repeat. -/
def covered (dummy : Node) (rule : Rule) : Node → Node
  | .scalar text => .scalar text
  | .sequence items =>
    .sequence (if rule.isRepeatable then coveredItems dummy rule items else [dummy])
  | .mapping entries => .mapping (coveredEntries dummy rule entries)

def coveredItems (dummy : Node) (rule : Rule) : List Node → List Node
  | [] => []
  | item :: rest => covered dummy rule item :: coveredItems dummy rule rest

def coveredEntries (dummy : Node) (rule : Rule) : List (String × Node) → List (String × Node)
  | [] => []
  | (key, node) :: rest =>
    match rule.child? key with
    | some child => (key, covered dummy child node) :: coveredEntries dummy rule rest
    | none => (key, dummy) :: coveredEntries dummy rule rest
end

/-- A sequence that is looked into keeps its length, because its items are counted. -/
theorem length_coveredItems (dummy : Node) (rule : Rule) (items : List Node) :
    (coveredItems dummy rule items).length = items.length := by
  induction items with
  | nil => rfl
  | cons item rest ih => simp [coveredItems, ih]

/-- The keys stay, also those that no rule declares. Only what stands under these may be replaced.
-/
theorem keys_coveredEntries (dummy : Node) (rule : Rule) (entries : List (String × Node)) :
    (coveredEntries dummy rule entries).map Prod.fst = entries.map Prod.fst := by
  induction entries with
  | nil => rfl
  | cons e rest ih =>
    obtain ⟨key, node⟩ := e
    simp only [coveredEntries]
    split <;> simp [ih]

/-- No rule, at any depth, names a check. -/
inductive Unchecked : Rule → Prop where
  | mk {type : Schema.ValueType} {constraints : Schema.Constraints}
      {children : List (String × Rule)} (hOwn : constraints.checkBy = none)
      (hChildren : ∀ c ∈ children, Unchecked c.2) : Unchecked (.mk type constraints children)

namespace Unchecked

variable {rule : Rule}

theorem child (h : Unchecked rule) {name : String} {c : Rule} (hChild : rule.child? name = some c) :
    Unchecked c := by
  cases h with
  | mk hOwn hChildren => exact hChildren _ (Markup.Node.mem_of_lookup hChild)

/-- Under a rule that asks for no check there is never an answer of one. A check could look at all
of its node. -/
theorem checkFailures_eq_nil (h : Unchecked rule) (s : Setting) (node : Node) (path : String) :
    checkFailures s node rule path = [] := by
  cases h with
  | mk hOwn hChildren => simp [checkFailures, Schema.Rule.constraints, hOwn]

/-- Covering up changes no failure of a sequence, if it changes none of its items. -/
theorem itemReports_covered {s : Setting} {dummy : Node} {items : List Node}
    (h : ∀ item ∈ items, ∀ path,
      reports s rule path false (covered dummy rule item) = reports s rule path false item)
    (path : String) (index : Nat) :
    itemReports s rule path index (coveredItems dummy rule items) =
      itemReports s rule path index items := by
  induction items generalizing index with
  | nil => rfl
  | cons item rest ih =>
    rw [coveredItems, itemReports, itemReports, h item (.head _),
      ih fun other hOther => h other (.tail _ hOther)]

/-- Covering up changes no failure of the entries of a mapping, if it changes none of those that a
rule declares. -/
theorem entryReports_covered {s : Setting} {dummy : Node} {entries : List (String × Node)}
    (h : ∀ e ∈ entries, ∀ child, rule.child? e.1 = some child → ∀ path,
      reports s child path true (covered dummy child e.2) = reports s child path true e.2)
    (path : String) :
    entryReports s rule path (coveredEntries dummy rule entries) =
      entryReports s rule path entries := by
  induction entries with
  | nil => rfl
  | cons e rest ih =>
    obtain ⟨key, node⟩ := e
    have hRest := ih fun other hOther => h other (.tail _ hOther)
    cases hChild : rule.child? key with
    | none => simp only [coveredEntries, entryReports, hChild, hRest]
    | some child =>
      simp only [coveredEntries, entryReports, hChild, hRest]
      rw [h (key, node) (.head _) child hChild]

/-- Covering up what rules do not look at changes no failure, by induction on the tree. The rules
must not ask for checks. -/
theorem reports_covered (h : Unchecked rule) (s : Setting) (dummy node : Node) (path : String)
    (lone : Bool) :
    reports s rule path lone (covered dummy rule node) = reports s rule path lone node := by
  induction node generalizing rule path lone with
  | scalar text => rfl
  | sequence items ih =>
    by_cases hRepeatable : rule.isRepeatable = true
    · have hItems := itemReports_covered (fun item hItem path => ih item hItem h path false) path 0
      simp only [covered, reports, if_pos hRepeatable, length_coveredItems, hItems]
    · simp only [covered, reports, if_neg hRepeatable]
  | mapping entries ih =>
    have hEntries := entryReports_covered
      (fun e hEntry child hChild path => ih e hEntry (h.child hChild) path true) path
    -- A check would see the values that are covered up; there is none.
    simp only [covered, reports, keys_coveredEntries, h.checkFailures_eq_nil, hEntries]

end Unchecked

/-- Rules ask for no check if none of those that a walk lists does. -/
theorem unchecked_of_walk {rule : Rule} {path : String}
    (h : ∀ entry ∈ rule.walk path, entry.2.constraints.checkBy = none) : Unchecked rule := by
  induction rule generalizing path with
  | mk type constraints children ih =>
    rw [Rule.walk, Schema.Rule.walkChildren_eq_flatMap] at h
    refine .mk (h _ (.head _)) fun c hChild => ?_
    have hBelow : ∀ entry ∈ c.2.walk s!"{path}.{c.1}", entry.2.constraints.checkBy = none := by
      intro entry hEntry
      exact h entry (.tail _ (List.mem_flatMap.mpr ⟨c, hChild, hEntry⟩))
    exact ih c hChild hBelow

/-- A model none of whose tags asks for a check. -/
structure AsksNoCheck (model : Schema.Model) : Prop where
  checks : model.checks = []
  walk : ∀ entry ∈ model.walk, entry.2.constraints.checkBy = none

namespace AsksNoCheck

variable {model : Schema.Model}

/-- The list of checks of a compiled model leaves none out. So if it is empty no rule asks for a
check. -/
theorem of_compile {text : String} {options : Markup.Options}
    (hCompile : Schema.Model.compile text options = .ok model) (hChecks : model.checks = []) :
    AsksNoCheck model := by
  refine ⟨hChecks, fun entry hEntry => ?_⟩
  obtain ⟨-, e, r, -, -, rfl⟩ := Schema.compile_eq_ok_iff.mp hCompile
  rw [Schema.walk_modelOf] at hEntry
  have hNone := List.filterMap_eq_nil_iff.mp hChecks entry hEntry
  simpa [Schema.checkRef?] using hNone

theorem top (h : AsksNoCheck model) : Unchecked model.top := by
  have hWalk := h.walk
  rw [Schema.Model.walk_eq] at hWalk
  exact .mk rfl (by simpa using unchecked_of_walk hWalk)

theorem ensureCovers (h : AsksNoCheck model) (registry : Registry) :
    registry.ensureCovers model = .ok () := by
  rw [Registry.ensureCovers, h.checks]
  rfl

/-- A tree and the same tree with all covered up that no rule looks at have the same report. -/
theorem traverse_covered (h : AsksNoCheck model) (s : Setting) (dummy tree : Node) :
    traverse s (covered dummy model.top tree) model = traverse s tree model := by
  rw [traverse_of_covers (h.ensureCovers _), traverse_of_covers (h.ensureCovers _),
    h.top.reports_covered]

end AsksNoCheck

/-- Two trees that differ only in what no rule looks at have the same failures. -/
theorem traverse_eq_of_covered_eq {model : Schema.Model} (hModel : AsksNoCheck model) (s : Setting)
    {dummy tree tree' : Node}
    (hTrees : covered dummy model.top tree = covered dummy model.top tree') :
    ∃ failures, traverse s tree model = .ok failures ∧ traverse s tree' model = .ok failures := by
  refine ⟨_, traverse_of_covers (hModel.ensureCovers _) tree, ?_⟩
  rw [← hModel.traverse_covered s dummy tree', ← hTrees, hModel.traverse_covered]
  exact traverse_of_covers (hModel.ensureCovers _) tree

/-- A tag that may not repeat and one that may. -/
def pairSchema : String := "<r><a/><b repeatable=\"\" type=\"boolean\"/></r>"

def pairModel : Schema.Model where
  rootName := "r"
  root := .mk .map {} [("a", .mk .string {} []),
    ("b", .mk .boolean { declared := some .boolean, repeatable := true } [])]
  checks := []
  size := 3

/-- `a` repeats and `c` is undeclared; `first` and `second` stand where no rule looks. -/
def pairTree (first : List Node) (second : Node) : Node :=
  .mapping [("r", .mapping [("a", .sequence first),
    ("b", .sequence [.scalar "true", .scalar "x"]), ("c", second)])]

/-- The trees differ in a list that should not be one, and under a key that no rule declares. Their
reports are the same, and name both. -/
theorem traverse_pair :
    Schema.Model.compile pairSchema {} = .ok pairModel ∧ AsksNoCheck pairModel ∧
      covered (.scalar "") pairModel.top (pairTree [.scalar "1", .scalar "2"] (.scalar "z")) =
        covered (.scalar "") pairModel.top (pairTree [] (.mapping [("b", .sequence [])])) ∧
      ∃ failures,
        failures = [.unknown "r.c", .unexpectedSequence "r.a", .notA "boolean" "r.b[1]" "x"] ∧
        traverse ⟨{ unknownAllow := false }, {}⟩
          (pairTree [.scalar "1", .scalar "2"] (.scalar "z")) pairModel = .ok failures ∧
        traverse ⟨{ unknownAllow := false }, {}⟩
          (pairTree [] (.mapping [("b", .sequence [])])) pairModel = .ok failures := by
  have hScan : Markup.scan pairSchema .boolean {} = ⟨[.opening ⟨"r", [], 1⟩,
      .opening ⟨"a", [], 1⟩, .closing,
      .opening ⟨"b", [⟨"repeatable", ""⟩, ⟨"type", "boolean"⟩], 1⟩, .closing, .closing],
      none⟩ := by decide +kernel
  have hCompile : Schema.Model.compile pairSchema {} = .ok pairModel := by
    rw [Schema.Model.compile, hScan]
    rfl
  have hModel : AsksNoCheck pairModel := .of_compile hCompile rfl
  have hCovered : covered (.scalar "") pairModel.top
        (pairTree [.scalar "1", .scalar "2"] (.scalar "z")) =
      covered (.scalar "") pairModel.top (pairTree [] (.mapping [("b", .sequence [])])) := rfl
  obtain ⟨failures, hFirst, hSecond⟩ :=
    traverse_eq_of_covered_eq hModel ⟨{ unknownAllow := false }, {}⟩ hCovered
  refine ⟨hCompile, hModel, hCovered, failures, ?_, hFirst, hSecond⟩
  rw [traverse_of_covers (hModel.ensureCovers _)] at hSecond
  exact (Except.ok.inj hSecond).symm

end MarkupRules.Validation
