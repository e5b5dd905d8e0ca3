import MarkupRules.Proofs.Schema.Rearranged
import MarkupRules.Proofs.Validation.UndeclaredData

/-!
The order of siblings.

Neither the order of the keys in a mapping nor the order of the tags in a schema decides what is
reported, only in which order it is.
-/
namespace MarkupRules.Markup

/-- At every depth, the same texts, the same items in their order, and the same entries of mappings
in whatever order. -/
inductive Node.Rearranged : Node → Node → Prop where
  | scalar (text : String) : Rearranged (.scalar text) (.scalar text)
  | sequence {items items' : List Node} (hItems : List.Forall₂ Rearranged items items') :
      Rearranged (.sequence items) (.sequence items')
  | mapping {entries middle entries' : List (String × Node)}
      (hSame : List.Forall₂ (Keyed Rearranged) entries middle) (hOrder : middle.Perm entries') :
      Rearranged (.mapping entries) (.mapping entries')

/-- A node is a rearrangement of itself, as is every node inside it. -/
theorem Node.Rearranged.refl (node : Node) : Rearranged node node := by
  induction node with
  | scalar text => exact .scalar text
  | sequence items ih => exact .sequence (List.forall₂_same.mpr ih)
  | mapping entries ih =>
    exact .mapping (List.forall₂_same.mpr fun e hMem => .mk e.1 (ih e hMem)) (.refl _)

end MarkupRules.Markup

namespace MarkupRules.Validation

open Markup (Node SiblingsSwapped)
open Schema (Rule)

section Rules

variable {rule rule' : Rule}

theorem isRepeatable_eq (h : rule.Rearranged rule') : rule'.isRepeatable = rule.isRepeatable := by
  rw [Rule.isRepeatable, h.constraints_eq, Rule.isRepeatable]

theorem loneFailures_eq (h : rule.Rearranged rule') (lone : Bool) (path : String) :
    loneFailures rule' lone path = loneFailures rule lone path := by
  rw [loneFailures, isRepeatable_eq h, h.constraints_eq, loneFailures]

theorem any_isRequired_eq (h : rule.Rearranged rule') (hWell : rule.WellFormed) (key : String) :
    (rule'.child? key).any Rule.isRequired = (rule.child? key).any Rule.isRequired := by
  rcases h.child?_cases hWell key with ⟨hNone, hNone'⟩ | ⟨child, child', hSome, hSome', hSame⟩
  · rw [hNone, hNone']
  · simp [hSome, hSome', Rule.isRequired, hSame.constraints_eq]

/-- The same tags are missing, in the order in which the rules declare them. -/
theorem missingFailures_perm (h : rule.Rearranged rule') (hWell : rule.WellFormed)
    {keys keys' : List String} (hKeys : keys.Perm keys') (path : String) :
    (missingFailures rule keys path).Perm (missingFailures rule' keys' path) := by
  unfold missingFailures
  simp only [any_isRequired_eq h hWell]
  exact hKeys.filterMap _

/-- Undeclared keys come in the order of the data, missing ones in that of the rules. So both orders
decide that of the report and nothing else. -/
theorem keyFailures_perm (s : Setting) (h : rule.Rearranged rule') (hWell : rule.WellFormed)
    {keys keys' : List String} (hKeys : keys.Perm keys') (path : String) :
    (keyFailures s rule keys path).Perm (keyFailures s rule' keys' path) := by
  have hData : (keys.filter fun key => !(rule.children.map Prod.fst).contains key).Perm
      (keys'.filter fun key => !(rule'.children.map Prod.fst).contains key) := by
    simp only [h.names_perm.contains_eq]
    exact hKeys.filter _
  have hRules : ((rule.children.map Prod.fst).filter fun key => !keys.contains key).Perm
      ((rule'.children.map Prod.fst).filter fun key => !keys'.contains key) := by
    simp only [hKeys.contains_eq]
    exact h.names_perm.filter _
  unfold keyFailures KeyPartition.ofKeys
  refine List.Perm.append ?_ (missingFailures_perm h hWell hRules path)
  split
  · exact .refl _
  · exact hData.map _

/-- A text is held against a rule on its own. Only the order of tags that it lacks is that of the
rules. -/
theorem textFailures_perm (s : Setting) (h : rule.Rearranged rule') (hWell : rule.WellFormed)
    (text path : String) :
    (textFailures s rule text path).Perm (textFailures s rule' text path) := by
  unfold textFailures
  rw [h.type_eq, h.constraints_eq]
  cases rule.type with
  | map => exact (missingFailures_perm h hWell h.names_perm path).append_left _
  | _ => exact .refl _

end Rules

/-- What an entry of a mapping adds to a report. -/
def entryReport (s : Setting) (rule : Rule) (path : String) (e : String × Node) : List Failure :=
  (rule.child? e.1).elim [] fun child => reports s child (keyPath path e.1) true e.2

theorem entryReports_eq (s : Setting) (rule : Rule) (path : String)
    (entries : List (String × Node)) :
    entryReports s rule path entries = entries.flatMap (entryReport s rule path) := by
  induction entries with
  | nil => rfl
  | cons e rest ih =>
    obtain ⟨key, node⟩ := e
    rw [entryReports, List.flatMap_cons, ← ih, entryReport]
    cases rule.child? key <;> rfl

/-- Items stay where they are, since their indices are part of paths. Each may be rearranged inside.
-/
theorem itemReports_perm {s : Setting} {rule rule' : Rule} {items items' : List Node}
    (hItems : List.Forall₂ Node.Rearranged items items')
    (h : ∀ item ∈ items, ∀ item', item.Rearranged item' → ∀ path,
      (reports s rule path false item).Perm (reports s rule' path false item'))
    (path : String) (index : Nat) :
    (itemReports s rule path index items).Perm (itemReports s rule' path index items') := by
  induction hItems generalizing index with
  | nil => exact .refl _
  | cons hHead _ ih =>
    exact (h _ (.head _) _ hHead _).append (ih (fun item hMem => h item (.tail _ hMem)) _)

/-- The order of keys and of rules decides nothing but the order of what is reported, at any depth
of both. -/
theorem reports_perm (s : Setting) {rule rule' : Rule} (hRule : rule.Rearranged rule')
    (hWell : rule.WellFormed) (hUnchecked : Unchecked rule) (hUnchecked' : Unchecked rule')
    {node node' : Node}
    (hNode : node.Rearranged node') (path : String) (lone : Bool) :
    (reports s rule path lone node).Perm (reports s rule' path lone node') := by
  induction node generalizing rule rule' node' path lone with
  | scalar text =>
    cases hNode
    simp only [reports, loneFailures_eq hRule, hUnchecked.checkFailures_eq_nil,
      hUnchecked'.checkFailures_eq_nil]
    exact ((textFailures_perm s hRule hWell text path).append_left _).append_right _
  | sequence items ih =>
    cases hNode with
    | @sequence _ items' hItems =>
      simp only [reports, isRepeatable_eq hRule, hItems.length_eq, hRule.constraints_eq]
      split
      · refine List.Perm.append_left _ (itemReports_perm hItems ?_ path 0)
        intro item hMem item' hItem path
        exact ih item hMem hRule hWell hUnchecked hUnchecked' hItem path false
      · exact .refl _
  | mapping entries ih =>
    cases hNode with
    | @mapping _ middle entries' hSame hOrder =>
      have hEntries : Reordered (Keyed Node.Rearranged) entries entries' := ⟨middle, hSame, hOrder⟩
      have hBelow : (entries.flatMap (entryReport s rule path)).Perm
          (entries'.flatMap (entryReport s rule' path)) := by
        refine hEntries.flatMap_perm fun e hMem e' hPair => ?_
        cases hPair with
        | @mk key node node' hNode =>
          unfold entryReport
          dsimp only
          rcases hRule.child?_cases hWell key with
            ⟨hNone, hNone'⟩ | ⟨child, child', hSome, hSome', hChild⟩
          · rw [hNone, hNone']
            exact .refl _
          · rw [hSome, hSome']
            exact ih _ hMem hChild (hWell.child hSome) (hUnchecked.child hSome)
              (hUnchecked'.child hSome') hNode _ true
      simp only [reports, loneFailures_eq hRule, hUnchecked.checkFailures_eq_nil,
        hUnchecked'.checkFailures_eq_nil, entryReports_eq]
      refine List.Perm.append ?_ hBelow
      exact ((keyFailures_perm s hRule hWell hEntries.keys_perm path).append_left _).append_right _

variable {model model' : Schema.Model}

theorem wellFormed_top (h : model.root.WellFormed) : model.top.WellFormed :=
  .mk (by simp) (fun _ => rfl) (by simpa using h)

theorem top_rearranged (hName : model'.rootName = model.rootName)
    (hRoot : model.root.Rearranged model'.root) : model.top.Rearranged model'.top := by
  unfold Schema.Model.top
  rw [hName]
  exact .mk _ _ (.cons (.mk _ hRoot) .nil) (.refl _)

/-- A schema without checks in which siblings change places, once or again and again, compiles, and
whatever tree is held against it has the same failures but for their order. -/
theorem exists_compile_of_swaps {text text' : String} {options : Markup.Options}
    (hCompile : Schema.Model.compile text options = .ok model) (hChecks : model.checks = [])
    (s : Setting) (h : Relation.ReflTransGen (SiblingsSwapped .boolean) text text') :
    ∃ model', Schema.Model.compile text' options = .ok model' ∧ model'.checks = [] ∧
      ∀ tree, (reports s model.top "" true tree).Perm (reports s model'.top "" true tree) := by
  induction h with
  | refl => exact ⟨model, hCompile, hChecks, fun _ => .refl _⟩
  | tail _ hSwap ih =>
    obtain ⟨middle, hMiddle, hMiddleChecks, hPerm⟩ := ih
    obtain ⟨model', hCompile', hName, hRoot, hChecksPerm⟩ :=
      Schema.exists_compile_of_siblingsSwapped hMiddle hSwap
    have hChecks' : model'.checks = [] := by
      rw [hMiddleChecks] at hChecksPerm
      exact hChecksPerm.nil_eq.symm
    refine ⟨model', hCompile', hChecks', fun tree => (hPerm tree).trans ?_⟩
    exact reports_perm s (top_rearranged hName hRoot)
      (wellFormed_top (Schema.wellFormed_of_compile hMiddle))
      (AsksNoCheck.of_compile hMiddle hMiddleChecks).top
      (AsksNoCheck.of_compile hCompile' hChecks').top (.refl tree) "" true

/-- What is reported without checks depends neither on the order of keys, in whatever mappings of
the tree, nor on that of siblings, in whatever elements of the schema. -/
theorem traverse_sibling_order {text : String} {options : Markup.Options}
    (hCompile : Schema.Model.compile text options = .ok model) (hChecks : model.checks = [])
    (s : Setting) :
    (∀ tree tree' : Node, tree.Rearranged tree' → ∃ failures failures',
      traverse s tree model = .ok failures ∧ traverse s tree' model = .ok failures' ∧
        failures.Perm failures') ∧
    ∀ text', Relation.ReflTransGen (SiblingsSwapped .boolean) text text' → ∃ model',
      Schema.Model.compile text' options = .ok model' ∧ ∀ tree, ∃ failures failures',
        traverse s tree model = .ok failures ∧ traverse s tree model' = .ok failures' ∧
          failures.Perm failures' := by
  have hModel := AsksNoCheck.of_compile hCompile hChecks
  have hTraverse (tree : Node) := traverse_of_covers (hModel.ensureCovers s.registry) tree
  constructor
  · intro tree tree' hTree
    refine ⟨_, _, hTraverse tree, hTraverse tree', ?_⟩
    exact reports_perm s (.refl _) (wellFormed_top (Schema.wellFormed_of_compile hCompile))
      hModel.top hModel.top hTree "" true
  · intro text' hSwaps
    obtain ⟨model', hCompile', hChecks', hPerm⟩ :=
      exists_compile_of_swaps hCompile hChecks s hSwaps
    have hModel' := AsksNoCheck.of_compile hCompile' hChecks'
    exact ⟨model', hCompile', fun tree => ⟨_, _, hTraverse tree,
      traverse_of_covers (hModel'.ensureCovers s.registry) tree, hPerm tree⟩⟩

/-- A schema with two neighbours inside `m`. The comment between them holds no tag. -/
def shelfSchema (first second : String) : String :=
  "<r><m>" ++ first ++ " <!-- <b> --> " ++ second ++ "</m><d/></r>"

def shelfFirst : String := "<a nillable=\"false\"/>"

def shelfSecond : String := "<b nillable=\"false\"><c/></b>"

def shelfModel : Schema.Model where
  rootName := "r"
  root := .mk .map {} [
    ("m", .mk .map {} [("a", .mk .string { nillable := some false } []),
      ("b", .mk .map { nillable := some false } [("c", .mk .string {} [])])]),
    ("d", .mk .string {} [])]
  checks := []
  size := 6

/-- Two undeclared keys inside `m`, and a list that may not be one. -/
def shelfTree : Node :=
  .mapping [("r", .mapping [("m", .mapping [("x", .scalar ""), ("z", .scalar "")]),
    ("d", .sequence [.scalar "1"])])]

/-- The same keys the other way round. -/
def turnedTree : Node :=
  .mapping [("r", .mapping [("d", .sequence [.scalar "1"]),
    ("m", .mapping [("z", .scalar ""), ("x", .scalar "")])])]

/-- The trees of the example have their keys in different orders, on two levels. -/
theorem shelfTree_rearranged : shelfTree.Rearranged turnedTree := by
  have hInner : Node.Rearranged (.mapping [("x", .scalar ""), ("z", .scalar "")])
      (.mapping [("z", .scalar ""), ("x", .scalar "")]) :=
    .mapping (.cons (.mk _ (.scalar "")) (.cons (.mk _ (.scalar "")) .nil)) (.swap _ _ _)
  have hRoot := Node.Rearranged.mapping
    (.cons (.mk "m" hInner) (.cons (.mk "d" (.refl (.sequence [.scalar "1"]))) .nil)) (.swap _ _ _)
  exact .mapping (.cons (.mk "r" hRoot) .nil) (.refl _)

/-- The schemas of the example differ by two siblings that change places inside a tag, with a
comment between them. -/
theorem siblingsSwapped_shelf :
    SiblingsSwapped .boolean (shelfSchema shelfFirst shelfSecond)
      (shelfSchema shelfSecond shelfFirst) := by
  have hFirst : Markup.kindsOf shelfFirst = [.opening "a nillable=\"false\"".toList true] := by
    decide +kernel
  have hSecond : Markup.kindsOf shelfSecond = [.opening "b nillable=\"false\"".toList false,
      .opening "c".toList true, .closing "b".toList] := by
    decide +kernel
  refine .mk "</m><d/></r>" ⟨"m", 1, by decide +kernel⟩ ?_ ?_ ?_
  · exact ⟨rfl, by simp [hFirst], by decide +kernel⟩
  · exact ⟨_, _, ⟨rfl, rfl, rfl, rfl⟩, by decide⟩
  · exact ⟨rfl, by simp [hSecond], by decide +kernel⟩

/-- Tree and schema are both turned round. Five failures come out in another order, and none is
lost. -/
theorem traverse_shelf :
    Schema.Model.compile (shelfSchema shelfFirst shelfSecond) {} = .ok shelfModel ∧
      shelfTree.Rearranged turnedTree ∧
      SiblingsSwapped .boolean (shelfSchema shelfFirst shelfSecond)
        (shelfSchema shelfSecond shelfFirst) ∧
      ∃ failures turned model' swapped,
        traverse ⟨{ unknownAllow := false }, {}⟩ shelfTree shelfModel = .ok failures ∧
        traverse ⟨{ unknownAllow := false }, {}⟩ turnedTree shelfModel = .ok turned ∧
        Schema.Model.compile (shelfSchema shelfSecond shelfFirst) {} = .ok model' ∧
        traverse ⟨{ unknownAllow := false }, {}⟩ shelfTree model' = .ok swapped ∧
        failures = [.unknown "r.m.x", .unknown "r.m.z", .missing "r.m.a", .missing "r.m.b",
          .unexpectedSequence "r.d"] ∧
        turned = [.unexpectedSequence "r.d", .unknown "r.m.z", .unknown "r.m.x",
          .missing "r.m.a", .missing "r.m.b"] ∧
        failures.Perm turned ∧ failures.Perm swapped := by
  have hScan : Markup.scan (shelfSchema shelfFirst shelfSecond) .boolean {} =
      ⟨[.opening ⟨"r", [], 1⟩, .opening ⟨"m", [], 1⟩,
        .opening ⟨"a", [⟨"nillable", "false"⟩], 1⟩, .closing,
        .opening ⟨"b", [⟨"nillable", "false"⟩], 1⟩, .opening ⟨"c", [], 1⟩, .closing, .closing,
        .closing, .opening ⟨"d", [], 1⟩, .closing, .closing], none⟩ := by decide +kernel
  have hCompile : Schema.Model.compile (shelfSchema shelfFirst shelfSecond) {} =
      .ok shelfModel := by
    rw [Schema.Model.compile, hScan]
    rfl
  have hOrder := traverse_sibling_order hCompile rfl ⟨{ unknownAllow := false }, {}⟩
  obtain ⟨failures, turned, hFailures, hTurned, hPerm⟩ := hOrder.1 _ _ shelfTree_rearranged
  obtain ⟨model', hCompile', hTrees⟩ := hOrder.2 _ (.single siblingsSwapped_shelf)
  obtain ⟨failures', swapped, hFailures', hSwapped, hPerm'⟩ := hTrees shelfTree
  obtain rfl : failures = failures' := Except.ok.inj (hFailures.symm.trans hFailures')
  refine ⟨hCompile, shelfTree_rearranged, siblingsSwapped_shelf, failures, turned, model', swapped,
    hFailures, hTurned, hCompile', hSwapped, ?_, ?_, hPerm, hPerm'⟩
  · rw [traverse_of_covers rfl] at hFailures
    exact (Except.ok.inj hFailures).symm
  · rw [traverse_of_covers rfl] at hTurned
    exact (Except.ok.inj hTurned).symm

end MarkupRules.Validation
