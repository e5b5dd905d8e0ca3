import MarkupRules.Proofs.Validation.Coverage
import MarkupRules.Proofs.Validation.OwnFailures
import MarkupRules.Proofs.Validation.WalkOrder

/-!
What custom checks add to a report.

A silenced registry has the same names, and all its checks pass. A walk makes one call at each visit
that is not of a sequence and whose rule asks for a check. What the calls answer goes into the
report of the silenced registry, behind what is reported at the same visit without them.
-/
namespace MarkupRules.Validation

open Markup (Node)

/-- The check that always passes. -/
def pass : Check := fun _ _ => none

/-- The registry with a check that always passes in place of each of its checks. -/
def Registry.silenced (r : Registry) : Registry :=
  ⟨r.entries.map fun (name, _) => (name, pass)⟩

/-- The setting with a silenced registry. -/
def Setting.silenced (s : Setting) : Setting := { s with registry := s.registry.silenced }

theorem Registry.get?_silenced (r : Registry) (name : String) :
    r.silenced.get? name = (r.get? name).map fun _ => pass :=
  Node.lookup_map (fun _ => pass) r.entries name

/-- A silenced registry has all the names that it had before, so a model is covered by it just as
well. -/
theorem Registry.ensureCovers_silenced (r : Registry) (model : Schema.Model) :
    r.silenced.ensureCovers model = r.ensureCovers model := by
  have hContains (name : String) : r.silenced.contains name = r.contains name := by
    simp [contains, get?_silenced]
  simp only [ensureCovers, hContains]

/-- A call of a check. -/
structure Call where
  name : String
  node : Node
  path : String

/-- The call that a visit makes. Sequences are not handed to checks. -/
def Visit.call? (v : Visit) : Option Call :=
  match v.node with
  | .sequence _ => none
  | node => v.rule.constraints.checkBy.map fun name => ⟨name, node, v.path⟩

/-- A visit calls the check that its rule asks for and no other. -/
theorem Visit.checkBy_of_call? {v : Visit} {c : Call} (h : v.call? = some c) :
    v.rule.constraints.checkBy = some c.name := by
  unfold call? at h
  split at h
  · cases h
  · obtain ⟨name, hName, rfl⟩ := Option.map_eq_some_iff.mp h
    exact hName

/-- What a registered check answers to a call. -/
def Registry.answer (r : Registry) (c : Call) : Option Failure :=
  (r.get? c.name).bind fun check => check c.node c.path

/-- What custom checks add to a visit is the answer to its call, if it makes one. -/
theorem Visit.customFailures_eq (s : Setting) (v : Visit) :
    v.customFailures s = (v.call?.bind s.registry.answer).toList := by
  obtain ⟨node, rule, path, lone⟩ := v
  have hCheck : checkFailures s node rule path =
      ((rule.constraints.checkBy.map fun name => Call.mk name node path).bind
        s.registry.answer).toList := by
    unfold checkFailures Registry.answer
    cases rule.constraints.checkBy with
    | none => rfl
    | some name => cases hGet : s.registry.get? name <;> simp [hGet]
  cases node with
  | sequence items => rfl
  | mapping entries => exact hCheck
  | scalar text => exact hCheck

/-- Without the answers of checks a visit reports its own failures, and where it leads to stays the
same. -/
theorem Visit.failures_silenced (s : Setting) (v : Visit) :
    v.failures s.silenced = v.ownFailures s := by
  have hOwn : v.ownFailures s.silenced = v.ownFailures s := rfl
  have hSilent (c : Call) : s.silenced.registry.answer c = none := by
    show (s.registry.silenced.get? c.name).bind _ = none
    rw [Registry.get?_silenced]
    cases s.registry.get? c.name <;> rfl
  rw [failures_eq_append, customFailures_eq, hOwn, Option.bind_eq_none_iff.mpr fun c _ => hSilent c]
  simp

/-- The answer of a check comes behind what its visit reports without it. It never comes in front of
what a later visit reports. -/
theorem Visit.failures_eq_silenced_append (s : Setting) (v : Visit) :
    v.failures s = v.failures s.silenced ++ (v.call?.bind s.registry.answer).toList := by
  rw [failures_silenced, failures_eq_append, customFailures_eq]

/-- A traversal whose checks are there ends with the failures of the visits along its walk. -/
theorem traverse_eq_flatMap {s : Setting} {model : Schema.Model}
    (hCovers : s.registry.ensureCovers model = .ok ()) (tree : Node) :
    traverse s tree model =
      .ok ((Visit.start tree model).sited.flatMap fun w => w.2.failures s) := by
  rw [traverse_of_covers hCovers, reports_eq_flatMap]
  simp [Visit.all, List.flatMap_map, Visit.start]

/-- What is put behind parts of a list leaves the list in order. It is a sublist of what comes out.
-/
theorem sublist_flatMap_append {α β : Type} (xs : List α) (f g : α → List β) :
    (xs.flatMap f).Sublist (xs.flatMap fun x => f x ++ g x) := by
  induction xs with
  | nil => exact List.Sublist.refl _
  | cons x rest ih => exact (List.sublist_append_left _ _).append ih

/-- Along the walk of a tree, the answers of the checks are put into the report of the silenced
registry and nothing else about it changes. Each call, made once at its visit, finds a check, and
what that answers stands behind what the visit reports without it. -/
theorem traverse_adds_answers {text : String} {options : Markup.Options} {model : Schema.Model}
    (hCompile : Schema.Model.compile text options = .ok model) (s : Setting)
    (hCovers : s.registry.ensureCovers model = .ok ()) (tree : Node) :
    ∃ walk base all, ListsWalk (.start tree model) walk ∧
      traverse s.silenced tree model = .ok base ∧ traverse s tree model = .ok all ∧
      base = walk.flatMap (fun w => w.2.failures s.silenced) ∧
      all = walk.flatMap (fun w =>
        w.2.failures s.silenced ++ (w.2.call?.bind s.registry.answer).toList) ∧
      base.Sublist all ∧
      ∀ w ∈ walk, ∀ c, w.2.call? = some c → ∃ check, s.registry.get? c.name = some check := by
  have hSilenced : s.silenced.registry.ensureCovers model = .ok () :=
    (s.registry.ensureCovers_silenced model).trans hCovers
  refine ⟨_, _, _, listsWalk_sited _, traverse_eq_flatMap hSilenced tree,
    traverse_eq_flatMap hCovers tree, rfl, ?_, ?_, ?_⟩
  · congr 1
    funext w
    exact w.2.failures_eq_silenced_append s
  · simp only [Visit.failures_eq_silenced_append s]
    exact sublist_flatMap_append _ _ _
  · rintro ⟨site, w⟩ hMem c hCall
    exact exists_check_of_covers (Schema.checks_of_compile hCompile) hCovers
      (Visit.mem_sited.mp hMem) (Visit.checkBy_of_call? hCall)

/-- The checks turn down everything that they are called for. -/
def refusing : Registry := ⟨[("part", refuseAll "part"), ("whole", refuseAll "whole")]⟩

/-- Both checks of the schema are called, for a map, for a text and for the items of a list. What
they answer goes to just the places of the calls. -/
theorem traverse_hook_answers :
    Schema.Model.compile hookSchema {} = .ok hookModel ∧
      refusing.ensureCovers hookModel = .ok () ∧
      ∃ walk base all, ListsWalk (.start hookTree hookModel) walk ∧
        traverse ⟨{ unknownAllow := false }, refusing.silenced⟩ hookTree hookModel = .ok base ∧
        traverse ⟨{ unknownAllow := false }, refusing⟩ hookTree hookModel = .ok all ∧
        base = [.unknown "r.d", .constraint "minLength" "r.a" (.string "x") (.ofNat 2),
          .missing "r.b[1].c"] ∧
        all = [.unknown "r.d", { code := "whole", path := "r" },
          .constraint "minLength" "r.a" (.string "x") (.ofNat 2),
          { code := "part", path := "r.a" }, { code := "part", path := "r.b[0]" },
          .missing "r.b[1].c", { code := "part", path := "r.b[1]" }] ∧
        base.Sublist all := by
  have hCovers : refusing.ensureCovers hookModel = .ok () := rfl
  obtain ⟨walk, base, all, hWalk, hBase, hAll, -, -, hSublist, -⟩ := traverse_adds_answers
    compile_hookSchema ⟨{ unknownAllow := false }, refusing⟩ hCovers hookTree
  refine ⟨compile_hookSchema, hCovers, walk, base, all, hWalk, hBase, hAll, ?_, ?_, hSublist⟩
  · rw [traverse_of_covers rfl] at hBase
    exact (Except.ok.inj hBase).symm
  · rw [traverse_of_covers hCovers] at hAll
    exact (Except.ok.inj hAll).symm

end MarkupRules.Validation
