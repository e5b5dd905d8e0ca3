import MarkupRules.Proofs.Validation.Visits

/-!
The traversal with a list of pending visits does what the recursion on the tree says.

Both report the failures of the same visits in the same order, and each visit is made
once.
-/
namespace MarkupRules.Validation

open Markup (Node)
open Schema (Rule)

/-- The recursion goes through the items of a sequence as their visits do, if it does so for each of
them. -/
theorem itemReports_eq_flatMap (s : Setting) (rule : Rule) (path : String) (index : Nat)
    {items : List Node}
    (h : ∀ item ∈ items, ∀ path, reports s rule path false item =
      (Visit.all ⟨item, rule, path, false⟩).flatMap (Visit.failures s)) :
    itemReports s rule path index items =
      ((itemVisits rule path index items).flatMap Visit.all).flatMap (Visit.failures s) := by
  induction items generalizing index with
  | nil => rfl
  | cons item rest ih =>
    simp only [itemReports, itemVisits, List.flatMap_cons, List.flatMap_append]
    rw [h item (.head _), ih (index + 1) fun other hOther => h other (.tail _ hOther)]

/-- The same for the entries of a mapping. An entry that no rule declares is left out by both. -/
theorem entryReports_eq_flatMap (s : Setting) (rule : Rule) (path : String)
    {entries : List (String × Node)}
    (h : ∀ e ∈ entries, ∀ rule path, reports s rule path true e.2 =
      (Visit.all ⟨e.2, rule, path, true⟩).flatMap (Visit.failures s)) :
    entryReports s rule path entries =
      ((entryVisits rule path entries).flatMap Visit.all).flatMap (Visit.failures s) := by
  induction entries with
  | nil => rfl
  | cons e rest ih =>
    obtain ⟨key, node⟩ := e
    have hRest := ih fun other hOther => h other (.tail _ hOther)
    simp only [entryReports, entryVisits]
    cases rule.child? key with
    | none => exact hRest
    | some child =>
      simp only [List.flatMap_cons, List.flatMap_append]
      rw [h (key, node) (.head _), hRest]

/-- The recursion on the tree reports what the visits of the tree report, in the same order. -/
theorem reports_eq_flatMap (s : Setting) (rule : Rule) (path : String) (lone : Bool)
    (node : Node) : reports s rule path lone node =
      (Visit.all ⟨node, rule, path, lone⟩).flatMap (Visit.failures s) := by
  induction node generalizing rule path lone with
  | scalar text => simp [reports, Visit.all, Visit.sited, sitedVisits, Visit.failures]
  | sequence items ih =>
    rw [Visit.all_eq, List.flatMap_cons, reports, Visit.next, Visit.failures]
    dsimp only
    split
    · rw [itemReports_eq_flatMap s rule path 0 fun item hItem path => ih item hItem rule path false]
    · rfl
  | mapping entries ih =>
    rw [Visit.all_eq, List.flatMap_cons, reports, Visit.next, Visit.failures,
      entryReports_eq_flatMap s rule path fun e hEntry rule path => ih e hEntry rule path true]

/-- A run from one visit reports what the recursion reports. -/
theorem run_singleton (s : Setting) (v : Visit) :
    run s [v] = reports s v.rule v.path v.lone v.node := by
  rw [run_eq_flatMap, reports_eq_flatMap, List.flatMap_singleton]

/-- If the checks that a model asks for are there, a traversal ends with the failures of the
recursion. -/
theorem traverse_of_covers {s : Setting} {model : Schema.Model}
    (hCovers : s.registry.ensureCovers model = .ok ()) (tree : Node) :
    traverse s tree model = .ok (reports s model.top "" true tree) := by
  simp only [traverse, hCovers, run_singleton, Visit.start]

/-- A traversal refines the recursion on the tree: it ends, its failures are those of the recursion
in the same order, and the visits that it makes are exactly those that steps from the whole tree
lead to. In a tree whose mappings have each key once, no place is visited twice. -/
theorem traverse_refines_reports (s : Setting) (tree : Node) (model : Schema.Model)
    (hCovers : s.registry.ensureCovers model = .ok ()) :
    traverse s tree model = .ok (reports s model.top "" true tree) ∧
      ∃ sited : List (List Step × Visit),
        sited.map Prod.snd = visitsMade [.start tree model] ∧
        (∀ site v, (site, v) ∈ sited ↔ Reached (.start tree model) site v) ∧
        (tree.KeysDistinct → (sited.map Prod.fst).Nodup) := by
  refine ⟨traverse_of_covers hCovers tree, sitedVisits model.top "" true tree, ?_, ?_, ?_⟩
  · rw [visitsMade_eq, List.flatMap_singleton]
    rfl
  · intro site v
    exact mem_sitedVisits_iff
  · intro hKeys
    exact nodup_sites_sitedVisits hKeys model.top "" true

/-- A list that may stand twice, and a tag that has to stand twice and asks for a check. -/
def nestedListModel : Schema.Model where
  rootName := "root"
  root := .mk .map {} [("a", .mk .string {} []),
    ("b", .mk .map { repeatable := true, minOccurs := some 1, maxOccurs := some 2 }
      [("nested", .mk .string { nillable := some false } [])]),
    ("c", .mk .string { repeatable := true, minOccurs := some 2, checkBy := some "even" } [])]
  checks := [⟨"even", "root.c"⟩]
  size := 5

/-- The list stands three times, the other tag once, and `d` has no rule. -/
def nestedListTree : Node :=
  .mapping [("root", .mapping [("a", .scalar "1"),
    ("b", .sequence
      [.scalar "", .mapping [("e", .scalar "x")], .mapping [("nested", .scalar "y")]]),
    ("c", .scalar "5"), ("d", .scalar "z")])]

/-- Turns every text down that does not end in an even digit. -/
def evenCheck : Check
  | .scalar text, path =>
    if text.toList.getLast?.any (· ∈ ['0', '2', '4', '6', '8']) then none
    else some { code := "odd", path, actual := some (.string text) }
  | _, path => some { code := "odd", path }

def nestedListSetting : Setting := ⟨{ unknownAllow := false }, ⟨[("even", evenCheck)]⟩⟩

/-- The tree of the example has each key once in every mapping. -/
theorem keysDistinct_nestedListTree : nestedListTree.KeysDistinct := by
  have hScalar (key text : String) : Node.KeysDistinct (.mapping [(key, .scalar text)]) :=
    .mapping (by simp) (by simp [Node.KeysDistinct.scalar])
  refine .mapping (by decide) ?_
  simp only [List.mem_singleton, forall_eq]
  refine .mapping (by decide) ?_
  simp only [List.mem_cons, List.not_mem_nil, or_false, forall_eq_or_imp, forall_eq]
  refine ⟨.scalar _, .sequence ?_, .scalar _, .scalar _⟩
  simp only [List.mem_cons, List.not_mem_nil, or_false, forall_eq_or_imp, forall_eq]
  exact ⟨.scalar _, hScalar _ _, hScalar _ _⟩

/-- The run meets undeclared tags, a list that is too long, missing tags, a single tag that should
repeat, and what a check says. No place of its tree is visited twice. -/
theorem traverse_nested_list :
    nestedListSetting.registry.ensureCovers nestedListModel = .ok () ∧
      nestedListTree.KeysDistinct ∧
      traverse nestedListSetting nestedListTree nestedListModel =
        .ok [.unknown "root.d", .constraint "maxOccurs" "root.b" (.ofNat 3) (.ofNat 2),
          .missing "root.b[0].nested", .unknown "root.b[1].e", .missing "root.b[1].nested",
          .constraint "minOccurs" "root.c" (.ofNat 1) (.ofNat 2),
          { code := "odd", path := "root.c", actual := some (.string "5") }] ∧
      (visitsMade [.start nestedListTree nestedListModel]).map Visit.path =
        ["", "root", "root.a", "root.b", "root.b[0]", "root.b[1]", "root.b[2]",
          "root.b[2].nested", "root.c"] ∧
      ∃ sited : List (List Step × Visit),
        sited.map Prod.snd = visitsMade [.start nestedListTree nestedListModel] ∧
        (sited.map Prod.fst).Nodup := by
  have hCovers : nestedListSetting.registry.ensureCovers nestedListModel = .ok () := rfl
  obtain ⟨hFailures, sited, hVisits, -, hNodup⟩ :=
    traverse_refines_reports nestedListSetting nestedListTree nestedListModel hCovers
  refine ⟨hCovers, keysDistinct_nestedListTree, hFailures.trans rfl, ?_, sited, hVisits,
    hNodup keysDistinct_nestedListTree⟩
  rw [visitsMade_eq]
  rfl

end MarkupRules.Validation
