import MarkupRules.Proofs.Validation.CustomChecks

/-!
What denying unknown tags adds to a report.

Whether unknown tags are passed over decides neither where a walk goes nor what else it reports.
Where they are denied, each visit of a mapping reports its undeclared keys besides.
-/
namespace MarkupRules.Validation

/-- The setting with unknown tags passed over, or denied. -/
def Setting.passing (s : Setting) (allow : Bool) : Setting :=
  { s with configuration := { s.configuration with unknownAllow := allow } }

/-- No registered check answers with the code `unknown`. -/
def Registry.LeavesUnknown (r : Registry) : Prop :=
  ∀ name check, r.get? name = some check →
    ∀ node path f, check node path = some f → f.code ≠ "unknown"

namespace Visit

/-- The keys of a visited mapping that its rule does not declare. -/
def undeclaredKeys (v : Visit) : List String :=
  match v.node with
  | .mapping entries => (entries.map Prod.fst).filter fun key => (v.rule.child? key).isNone
  | _ => []

/-- One failure for each undeclared key. -/
def unknownFailures (v : Visit) : List Failure :=
  v.undeclaredKeys.map fun key => .unknown (keyPath v.path key)

/-- At a node the undeclared keys come ahead of all else, where they are denied. Where they are
passed over nothing else is reported. -/
theorem nodeFailures_denying (s : Setting) (v : Visit) :
    v.nodeFailures (s.passing false) = v.unknownFailures ++ v.nodeFailures (s.passing true) := by
  obtain ⟨node, rule, path, lone⟩ := v
  cases node with
  | scalar text => rfl
  | sequence items => rfl
  | mapping entries =>
    have hKey : (fun key => !(rule.children.map Prod.fst).contains key) =
        fun key => (rule.child? key).isNone := by
      funext key
      rw [Bool.eq_iff_iff, Option.isNone_iff_eq_none, Schema.Rule.child?,
        Markup.Node.lookup_eq_none_iff]
      simp
    show List.map _ (List.filter _ _) = List.map _ (List.filter _ _) ++ []
    rw [hKey, List.append_nil]

/-- Where unknown tags are passed over, no failure of a node has their code. -/
theorem code_ne_of_mem_nodeFailures {s : Setting} {v : Visit} {f : Failure}
    (h : f ∈ v.nodeFailures (s.passing true)) : f.code ≠ "unknown" := by
  have hOther : ∀ code ∈ nodeCodes, code ≠ "unknown" := by decide
  rcases code_of_mem_nodeFailures h with ⟨hDenied, -⟩ | hMem
  · cases hDenied
  · exact hOther f.code hMem

/-- Neither has one of the bounds, nor that of a missing tag. -/
theorem code_ne_of_mem_ownFailures {s : Setting} {v : Visit} {f : Failure}
    (h : f ∈ v.ownFailures (s.passing true)) : f.code ≠ "unknown" := by
  rcases List.mem_append.mp h with h | hMissing
  · rcases List.mem_append.mp h with hBound | hNode
    · rcases (eq_of_mem_boundFailures hBound).1 with hCode | hCode <;> simp [hCode]
    · exact code_ne_of_mem_nodeFailures hNode
  · obtain ⟨key, child, -, -, rfl⟩ := eq_of_mem_missingFailures hMissing
    simp [Failure.missing]

/-- A check could answer with that code, so this is asked of the registry. -/
theorem code_ne_of_mem_customFailures {s : Setting} (hChecks : s.registry.LeavesUnknown)
    {v : Visit} {f : Failure} (h : f ∈ v.customFailures s) : f.code ≠ "unknown" := by
  rw [customFailures_eq, Option.mem_toList, Option.bind_eq_some_iff] at h
  obtain ⟨c, -, hAnswer⟩ := h
  obtain ⟨check, hGet, hCheck⟩ := Option.bind_eq_some_iff.mp hAnswer
  exact hChecks c.name check hGet c.node c.path f hCheck

/-- So the code stands for undeclared keys alone, also in all that a visit reports. -/
theorem code_ne_of_mem_failures {s : Setting} (hChecks : s.registry.LeavesUnknown) {v : Visit}
    {f : Failure} (h : f ∈ v.failures (s.passing true)) : f.code ≠ "unknown" := by
  rw [failures_eq_append] at h
  rcases List.mem_append.mp h with hOwn | hCustom
  · exact code_ne_of_mem_ownFailures hOwn
  · exact code_ne_of_mem_customFailures hChecks hCustom

theorem code_of_mem_unknownFailures {v : Visit} {f : Failure} (h : f ∈ v.unknownFailures) :
    f.code = "unknown" := by
  obtain ⟨key, -, rfl⟩ := List.mem_map.mp h
  rfl

/-- Undeclared keys are reported behind the bounds of a list and ahead of the rest, which is
reported as if they were passed over. -/
theorem failures_denying (s : Setting) (v : Visit) :
    ∃ back, v.failures (s.passing true) = v.boundFailures ++ back ∧
      v.failures (s.passing false) = v.boundFailures ++ (v.unknownFailures ++ back) := by
  refine ⟨v.nodeFailures (s.passing true) ++
    (Validation.missingFailures v.rule v.absentTags v.path ++ v.customFailures s), ?_, ?_⟩
  · rw [failures_eq_append, ownFailures]
    simp only [List.append_assoc]
    rfl
  · rw [failures_eq_append, ownFailures, nodeFailures_denying]
    simp only [List.append_assoc]
    rfl

/-- What a visit reports where unknown tags are denied, told apart by the code: the undeclared keys,
and all that it reports where they are passed over. -/
theorem filter_failures_denying {s : Setting} (hChecks : s.registry.LeavesUnknown) (v : Visit) :
    (v.failures (s.passing false)).filter (·.code != "unknown") = v.failures (s.passing true) ∧
      (v.failures (s.passing false)).filter (·.code == "unknown") = v.unknownFailures := by
  have hKnown {f : Failure} (h : f ∈ v.failures (s.passing true)) : f.code ≠ "unknown" :=
    code_ne_of_mem_failures hChecks h
  have hUnknown {f : Failure} (h : f ∈ v.unknownFailures) : f.code = "unknown" :=
    code_of_mem_unknownFailures h
  obtain ⟨back, hPassing, hDenying⟩ := v.failures_denying s
  rw [hPassing] at hKnown
  rw [hPassing, hDenying]
  constructor
  · have hGone : v.unknownFailures.filter (·.code != "unknown") = [] :=
      List.filter_eq_nil_iff.mpr fun f hMem => by simp [hUnknown hMem]
    have hKept : (v.boundFailures ++ back).filter (·.code != "unknown") =
        v.boundFailures ++ back :=
      List.filter_eq_self.mpr fun f hMem => by simp [hKnown hMem]
    rw [List.filter_append, List.filter_append, hGone, List.nil_append, ← List.filter_append,
      hKept]
  · have hKept : v.unknownFailures.filter (·.code == "unknown") = v.unknownFailures :=
      List.filter_eq_self.mpr fun f hMem => by simp [hUnknown hMem]
    have hGone {part : List Failure} (hPart : part ⊆ v.boundFailures ++ back) :
        part.filter (·.code == "unknown") = [] :=
      List.filter_eq_nil_iff.mpr fun f hMem => by simp [hKnown (hPart hMem)]
    rw [List.filter_append, List.filter_append, hKept, hGone (List.subset_append_left _ _),
      hGone (List.subset_append_right _ _), List.append_nil, List.nil_append]

end Visit

/-- With unknown tags passed over, the report is that with unknown tags denied without what has the
code `unknown`. What is left out are, along the walk, the undeclared keys of each mapping. -/
theorem traverse_denying_unknown {model : Schema.Model} (s : Setting)
    (hCovers : s.registry.ensureCovers model = .ok ()) (hChecks : s.registry.LeavesUnknown)
    (tree : Markup.Node) :
    ∃ walk denied, ListsWalk (.start tree model) walk ∧
      traverse (s.passing false) tree model = .ok denied ∧
      traverse (s.passing true) tree model = .ok (denied.filter (·.code != "unknown")) ∧
      denied.filter (·.code == "unknown") = walk.flatMap fun w => w.2.unknownFailures := by
  have hFilter (v : Visit) := v.filter_failures_denying hChecks
  have hTraverse (allow : Bool) : traverse (s.passing allow) tree model =
      .ok ((Visit.start tree model).sited.flatMap fun w => w.2.failures (s.passing allow)) :=
    traverse_eq_flatMap (s := s.passing allow) hCovers tree
  refine ⟨_, _, listsWalk_sited _, hTraverse false, ?_, ?_⟩
  · rw [hTraverse, List.filter_flatMap]
    simp only [hFilter]
  · rw [List.filter_flatMap]
    simp only [hFilter]

/-- An undeclared key beside the root, and a map where a text is due. -/
def strayTree : Markup.Node :=
  .mapping [("q", .scalar ""), ("r", .mapping [("d", .scalar ""),
    ("a", .mapping [("z", .mapping [("z", .scalar "")])]), ("b", .mapping [("c", .scalar "1")])])]

/-- Undeclared keys beside the root, inside it and under a text's rule are each reported once. What
lies below one of them is not looked at. -/
theorem traverse_stray_unknown :
    refusing.ensureCovers hookModel = .ok () ∧ refusing.LeavesUnknown ∧
      traverse ⟨{ unknownAllow := false }, refusing⟩ strayTree hookModel =
        .ok [.unknown "q", .unknown "r.d", { code := "whole", path := "r" }, .unknown "r.a.z",
          { code := "part", path := "r.a" }, { code := "part", path := "r.b" }] ∧
      traverse ⟨{ unknownAllow := true }, refusing⟩ strayTree hookModel =
        .ok [{ code := "whole", path := "r" }, { code := "part", path := "r.a" },
          { code := "part", path := "r.b" }] := by
  have hCovers : refusing.ensureCovers hookModel = .ok () := rfl
  have hChecks : refusing.LeavesUnknown := by
    intro name check hGet node path f hAnswer
    rcases Markup.Node.mem_of_lookup hGet with _ | ⟨_, _ | ⟨_, ⟨⟩⟩⟩ <;>
      · cases hAnswer
        simp
  refine ⟨hCovers, hChecks, ?_⟩
  obtain ⟨walk, denied, hWalk, hDenying, hPassing, -⟩ :=
    traverse_denying_unknown ⟨{}, refusing⟩ hCovers hChecks strayTree
  have hDenied := hDenying.symm.trans (traverse_of_covers hCovers strayTree)
  rw [Except.ok.inj hDenied] at hDenying hPassing
  exact ⟨hDenying, hPassing⟩

end MarkupRules.Validation
