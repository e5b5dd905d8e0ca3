import MarkupRules.Proofs.Schema.Walk
import MarkupRules.Proofs.Validation.Refinement

/-!
The checks that a schema asks for are there.

A traversal is refused before it starts if a rule asks for a check that is not registered. The
refusal goes by a list that the schema's reader made, the traversal by the rules themselves:
the list leaves out no rule that a visit can have.
-/
namespace MarkupRules

namespace Schema

/-- The list of checks of a compiled model is read off its walk. -/
theorem checks_of_compile {text : String} {options : Markup.Options} {m : Model}
    (h : Model.compile text options = .ok m) : m.checks = m.walk.filterMap checkRef? := by
  obtain ⟨-, e, r, -, -, rfl⟩ := compile_eq_ok_iff.mp h
  rw [walk_modelOf, modelOf]

/-- A rule inside is walked behind the rule that it is inside, with its path made longer by its
name. -/
theorem Rule.walk_subset_of_child? {r c : Rule} {name path : String}
    (h : r.child? name = some c) : c.walk s!"{path}.{name}" ⊆ r.walk path := by
  have hMem := Markup.Node.mem_of_lookup h
  cases r with
  | mk type constraints children =>
    rw [Rule.walk, Rule.walkChildren_eq_flatMap]
    exact fun entry hEntry => .tail _ (List.mem_flatMap.mpr ⟨(name, c), hMem, hEntry⟩)

end Schema

namespace Validation

open Markup (Node)
open Schema (Rule)

/-- The rule asks for the check `name`, which is not registered. -/
def AsksInVain (r : Registry) (rule : Rule) (name : String) : Prop :=
  rule.constraints.checkBy = some name ∧ r.get? name = none

/-- Of walked rules, the one at `path` is the first to ask in vain. It asks for the check `name`. -/
def FirstInVain (r : Registry) (walk : List (String × Rule)) (name path : String) : Prop :=
  ∃ before rule after, walk = before ++ (path, rule) :: after ∧ AsksInVain r rule name ∧
    ∀ entry ∈ before, ∀ other, ¬ AsksInVain r entry.2 other

theorem any_checkRef?_iff {r : Registry} {entry : String × Rule} :
    ((Schema.checkRef? entry).any fun ref => !r.contains ref.name) = true ↔
      ∃ name, AsksInVain r entry.2 name := by
  unfold Schema.checkRef? AsksInVain Registry.contains
  cases entry.2.constraints.checkBy <;> simp

/-- Looking for the first listed check that is not registered finds the first rule that asks in
vain. -/
theorem find?_checkRefs_eq_some_iff {r : Registry} {walk : List (String × Rule)}
    {name path : String} :
    (walk.filterMap Schema.checkRef?).find? (fun ref => !r.contains ref.name) =
      some ⟨name, path⟩ ↔ FirstInVain r walk name path := by
  rw [List.find?_filterMap, Option.bind_eq_some_iff]
  simp only [List.find?_eq_some_iff_append, Bool.not_eq_true', ← Bool.not_eq_true,
    any_checkRef?_iff, not_exists]
  constructor
  · rintro ⟨⟨path', rule⟩, ⟨⟨other, hVain⟩, before, after, hWalk, hBefore⟩, hRef⟩
    obtain ⟨rfl, rfl⟩ : other = name ∧ path' = path := by
      simpa [Schema.checkRef?, hVain.1] using hRef
    exact ⟨before, rule, after, hWalk, hVain, hBefore⟩
  · rintro ⟨before, rule, after, hWalk, hVain, hBefore⟩
    refine ⟨(path, rule), ⟨⟨name, hVain⟩, before, after, hWalk, hBefore⟩, ?_⟩
    simp [Schema.checkRef?, hVain.1]

/-- Where some walked rule asks in vain there is a first one that does. -/
theorem exists_firstInVain_iff {r : Registry} {walk : List (String × Rule)} :
    (∃ name path, FirstInVain r walk name path) ↔
      ∃ entry ∈ walk, ∃ name, AsksInVain r entry.2 name := by
  constructor
  · rintro ⟨name, path, before, rule, after, rfl, hVain, -⟩
    exact ⟨(path, rule), by simp, name, hVain⟩
  · rintro ⟨entry, hMem, name, hVain⟩
    have hFound : ((walk.filterMap Schema.checkRef?).find?
        fun ref => !r.contains ref.name).isSome = true := by
      refine List.find?_isSome.mpr ⟨⟨name, entry.1⟩, List.mem_filterMap.mpr ⟨entry, hMem, ?_⟩, ?_⟩
      · simp [Schema.checkRef?, hVain.1]
      · simp [Registry.contains, hVain.2]
    obtain ⟨ref, hRef⟩ := Option.isSome_iff_exists.mp hFound
    exact ⟨ref.name, ref.path, find?_checkRefs_eq_some_iff.mp hRef⟩

variable {model : Schema.Model}

/-- A registry is refused just for the first rule of the walk that asks in vain. The model's list of
checks must be that of its walk. -/
theorem ensureCovers_eq_error_iff
    (hChecks : model.checks = model.walk.filterMap Schema.checkRef?) {r : Registry}
    {e : Schema.Error} :
    r.ensureCovers model = .error e ↔
      ∃ name path, FirstInVain r model.walk name path ∧ e = .unregisteredCheck name path := by
  simp only [← find?_checkRefs_eq_some_iff, ← hChecks]
  unfold Registry.ensureCovers
  cases model.checks.find? fun ref => !r.contains ref.name with
  | none => simp
  | some ref =>
    obtain ⟨name, path⟩ := ref
    simp only [Except.error.injEq, Option.some.injEq, Schema.CheckRef.mk.injEq]
    constructor
    · rintro rfl
      exact ⟨name, path, ⟨rfl, rfl⟩, rfl⟩
    · rintro ⟨_, _, ⟨rfl, rfl⟩, rfl⟩
      rfl

/-- The rule of a visit is walked below that of the visit it is reached from. The path there has no
indices of items, so only the rules are compared. -/
theorem Reached.rule_mem_walk {v w : Visit} {site : List Step} (h : Reached v site w)
    (path : String) : ∃ path', (path', w.rule) ∈ v.rule.walk path := by
  induction h generalizing path with
  | here v =>
    obtain ⟨node, ⟨type, constraints, children⟩, path', lone⟩ := v
    exact ⟨path, .head _⟩
  | item _ _ _ ih => exact ih path
  | tag _ hChild _ ih =>
    obtain ⟨path', hMem⟩ := ih _
    exact ⟨path', Rule.walk_subset_of_child? hChild hMem⟩

/-- Behind a refusal that did not come, every check that a visit asks for is there. So a visit never
has to look in vain. -/
theorem exists_check_of_covers (hChecks : model.checks = model.walk.filterMap Schema.checkRef?)
    {r : Registry} (hCovers : r.ensureCovers model = .ok ()) {tree : Node} {site : List Step}
    {w : Visit} (h : Reached (.start tree model) site w) {name : String}
    (hName : w.rule.constraints.checkBy = some name) : ∃ check, r.get? name = some check := by
  have hWalked : ∃ path, (path, w.rule) ∈ model.walk := by
    cases h with
    | here => cases hName
    | tag _ hChild below =>
      -- Only the root of the model stands inside the rule of the whole tree.
      obtain ⟨rfl, rfl⟩ : _ = model.rootName ∧ _ = model.root := by
        have hMem := Markup.Node.mem_of_lookup hChild
        exact Prod.mk.inj (List.mem_singleton.mp hMem)
      rw [Schema.Model.walk_eq]
      exact below.rule_mem_walk model.rootName
    | item hRepeatable => cases hRepeatable
  obtain ⟨path, hMem⟩ := hWalked
  cases hCheck : r.get? name with
  | some check => exact ⟨check, rfl⟩
  | none =>
    obtain ⟨other, path', hFirst⟩ :=
      exists_firstInVain_iff.mpr ⟨(path, w.rule), hMem, name, hName, hCheck⟩
    have hError := (ensureCovers_eq_error_iff hChecks).mpr ⟨other, path', hFirst, rfl⟩
    rw [hCovers] at hError
    cases hError

/-- A traversal is refused before it starts, or never. The tree does not matter for that. -/
theorem traverse_eq_error_iff {s : Setting} {tree : Node} {e : Schema.Error} :
    traverse s tree model = .error e ↔ s.registry.ensureCovers model = .error e := by
  unfold traverse
  cases s.registry.ensureCovers model <;> simp

/-- The visits that are made are those that steps from the whole tree lead to. -/
theorem mem_visitsMade_start {tree : Node} {w : Visit} :
    w ∈ visitsMade [.start tree model] ↔ ∃ site, Reached (.start tree model) site w := by
  rw [visitsMade_eq, List.flatMap_singleton, Visit.all, List.mem_map]
  constructor
  · rintro ⟨⟨site, w⟩, hMem, rfl⟩
    exact ⟨site, Visit.mem_sited.mp hMem⟩
  · rintro ⟨site, h⟩
    exact ⟨(site, w), Visit.mem_sited.mpr h, rfl⟩

/-- A traversal of whatever tree is refused just if a walked rule asks for a check that is not
registered, and then for the first such rule. One that is not refused finds every check that a
visit asks for. -/
theorem traverse_refused_iff {text : String} {options : Markup.Options}
    (hCompile : Schema.Model.compile text options = .ok model) (s : Setting) (tree : Node) :
    ((∃ e, traverse s tree model = .error e) ↔
        ∃ entry ∈ model.walk, ∃ name, AsksInVain s.registry entry.2 name) ∧
      (∀ e, traverse s tree model = .error e ↔ ∃ name path,
        FirstInVain s.registry model.walk name path ∧ e = .unregisteredCheck name path) ∧
      ∀ failures, traverse s tree model = .ok failures →
        ∀ w ∈ visitsMade [.start tree model], ∀ name, w.rule.constraints.checkBy = some name →
          ∃ check, s.registry.get? name = some check := by
  have hChecks := Schema.checks_of_compile hCompile
  have hError (e : Schema.Error) : traverse s tree model = .error e ↔ ∃ name path,
      FirstInVain s.registry model.walk name path ∧ e = .unregisteredCheck name path :=
    traverse_eq_error_iff.trans (ensureCovers_eq_error_iff hChecks)
  refine ⟨?_, hError, ?_⟩
  · rw [← exists_firstInVain_iff]
    constructor
    · rintro ⟨e, hRefused⟩
      obtain ⟨name, path, hFirst, -⟩ := (hError e).mp hRefused
      exact ⟨name, path, hFirst⟩
    · rintro ⟨name, path, hFirst⟩
      exact ⟨_, (hError _).mpr ⟨name, path, hFirst, rfl⟩⟩
  · intro failures hTraverse w hMade name hName
    obtain ⟨site, hReached⟩ := mem_visitsMade_start.mp hMade
    refine exists_check_of_covers hChecks ?_ hReached hName
    cases hCovers : s.registry.ensureCovers model with
    | ok => rfl
    | error e =>
      rw [traverse_eq_error_iff.mpr hCovers] at hTraverse
      cases hTraverse

/-- Checks of a map, of a text in it, and of what may repeat. -/
def hookSchema : String :=
  "<r checkBy=\"whole\"><a minLength=\"2\" checkBy=\"part\"/>" ++
    "<b repeatable=\"\" checkBy=\"part\"><c nillable=\"false\"/></b></r>"

def hookModel : Schema.Model where
  rootName := "r"
  root := .mk .map { checkBy := some "whole" } [
    ("a", .mk .string { minLength := some 2, checkBy := some "part" } []),
    ("b", .mk .map { repeatable := true, checkBy := some "part" }
      [("c", .mk .string { nillable := some false } [])])]
  checks := [⟨"whole", "r"⟩, ⟨"part", "r.a"⟩, ⟨"part", "r.b"⟩]
  size := 4

/-- The schema of the examples compiles, and lists each of its checks with the path of its tag. -/
theorem compile_hookSchema : Schema.Model.compile hookSchema {} = .ok hookModel := by
  have hScan : Markup.scan hookSchema .boolean {} = ⟨[.opening ⟨"r", [⟨"checkBy", "whole"⟩], 1⟩,
      .opening ⟨"a", [⟨"minLength", "2"⟩, ⟨"checkBy", "part"⟩], 1⟩, .closing,
      .opening ⟨"b", [⟨"repeatable", ""⟩, ⟨"checkBy", "part"⟩], 1⟩,
      .opening ⟨"c", [⟨"nillable", "false"⟩], 1⟩, .closing, .closing, .closing], none⟩ := by
    decide +kernel
  rw [Schema.Model.compile, hScan]
  rfl

/-- The items of `b` are a map and a text, and no rule declares `d`. -/
def hookTree : Node :=
  .mapping [("r", .mapping [("a", .scalar "x"),
    ("b", .sequence [.mapping [("c", .scalar "1")], .scalar ""]), ("d", .scalar "y")])]

/-- Turns every node down. -/
def refuseAll (code : String) : Check := fun _ path => some { code, path }

/-- With one of the two checks not registered every tree is refused, for the first tag that asks for
it. With both of them all visits find theirs. -/
theorem traverse_hook_refused :
    Schema.Model.compile hookSchema {} = .ok hookModel ∧
      FirstInVain ⟨[("whole", refuseAll "whole")]⟩ hookModel.walk "part" "r.a" ∧
      (∀ tree, traverse ⟨{}, ⟨[("whole", refuseAll "whole")]⟩⟩ tree hookModel =
        .error (.unregisteredCheck "part" "r.a")) ∧
      (visitsMade [.start hookTree hookModel]).map (·.rule.constraints.checkBy) =
        [none, some "whole", some "part", some "part", some "part", none, some "part"] ∧
      ∀ w ∈ visitsMade [.start hookTree hookModel], ∀ name,
        w.rule.constraints.checkBy = some name → ∃ check,
          (⟨[("part", refuseAll "part"), ("whole", refuseAll "whole")]⟩ : Registry).get? name =
            some check := by
  have hFirst : FirstInVain ⟨[("whole", refuseAll "whole")]⟩ hookModel.walk "part" "r.a" := by
    rw [Schema.Model.walk_eq]
    exact find?_checkRefs_eq_some_iff.mp rfl
  have hRefused (tree : Node) := (traverse_refused_iff compile_hookSchema
    ⟨{}, ⟨[("whole", refuseAll "whole")]⟩⟩ tree).2.1 (.unregisteredCheck "part" "r.a")
  refine ⟨compile_hookSchema, hFirst, fun tree => (hRefused tree).mpr ⟨_, _, hFirst, rfl⟩, ?_, ?_⟩
  · rw [visitsMade_eq]
    rfl
  · exact (traverse_refused_iff compile_hookSchema
      ⟨{}, ⟨[("part", refuseAll "part"), ("whole", refuseAll "whole")]⟩⟩ hookTree).2.2 _
      (traverse_of_covers rfl hookTree)

end Validation

end MarkupRules
