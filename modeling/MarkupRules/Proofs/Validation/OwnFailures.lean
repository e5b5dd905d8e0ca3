import MarkupRules.Proofs.Validation.Visits

/-!
What a visit reports, by kind.

A visit is held against the bounds on how often its tag comes, its node against the rule,
and the tags that it lacks against what the rule requires. Custom checks come last. Only
the first of these has failures of the codes `minOccurs` and `maxOccurs`, and only the
third has the code `missing`.
-/
namespace MarkupRules.Validation

open Markup (Node)
open Schema (Rule Constraints)

namespace Visit

/-- How often the tag of a visit comes, where the visit is held against the bounds for that. -/
def count? (v : Visit) : Option Nat :=
  match v.node with
  | .sequence items => if v.rule.isRepeatable then some items.length else none
  | _ => if v.lone && v.rule.isRepeatable then some 1 else none

/-- The failures of the bounds. -/
def boundFailures (v : Visit) : List Failure :=
  match v.count? with
  | some n => occurrenceFailures v.rule.constraints n v.path
  | none => []

/-- The tags that the rule of a visit declares and its node lacks. -/
def absentTags (v : Visit) : List String :=
  match v.node with
  | .sequence _ => []
  | .mapping entries =>
    (KeyPartition.ofKeys (entries.map Prod.fst) (v.rule.children.map Prod.fst)).rules
  | .scalar _ => if v.rule.type = .map then v.rule.children.map Prod.fst else []

/-- The failures of the node itself. -/
def nodeFailures (s : Setting) (v : Visit) : List Failure :=
  match v.node with
  | .sequence _ => if v.rule.isRepeatable then [] else [.unexpectedSequence v.path]
  | .mapping entries =>
    if s.configuration.unknownAllow then []
    else (KeyPartition.ofKeys (entries.map Prod.fst) (v.rule.children.map Prod.fst)).data.map
      fun key => .unknown (keyPath v.path key)
  | .scalar text =>
    if v.rule.type = .map then if text.isEmpty then [] else [.unexpectedValueInMap v.path text]
    else textFailures s v.rule text v.path

/-- The failures of a visit without that of a custom check. -/
def ownFailures (s : Setting) (v : Visit) : List Failure :=
  v.boundFailures ++ v.nodeFailures s ++ missingFailures v.rule v.absentTags v.path

/-- The failure of a custom check. Sequences are not handed to one. -/
def customFailures (s : Setting) (v : Visit) : List Failure :=
  match v.node with
  | .sequence _ => []
  | node => checkFailures s node v.rule v.path

/-- These are all failures of a visit. What a custom check says always comes last. -/
theorem failures_eq_append (s : Setting) (v : Visit) :
    v.failures s = v.ownFailures s ++ v.customFailures s := by
  obtain ⟨node, rule, path, lone⟩ := v
  cases node with
  | sequence items =>
    by_cases hRepeatable : rule.isRepeatable = true <;>
      simp [failures, ownFailures, customFailures, boundFailures, nodeFailures, absentTags, count?,
        missingFailures, hRepeatable]
  | mapping entries =>
    by_cases hLone : lone && rule.isRepeatable
    all_goals
      simp [failures, ownFailures, customFailures, boundFailures, nodeFailures, absentTags, count?,
        loneFailures, keyFailures, hLone]
  | scalar text =>
    by_cases hLone : lone && rule.isRepeatable
    all_goals
      by_cases hType : rule.type = .map
      all_goals
        simp [failures, ownFailures, customFailures, boundFailures, nodeFailures, absentTags,
          count?, loneFailures, hLone, hType, textFailures, missingFailures]

end Visit

/-- Whether a code says how often a tag comes. -/
def IsCountCode (code : String) : Prop :=
  code = "missing" ∨ code = "minOccurs" ∨ code = "maxOccurs"

instance : DecidablePred IsCountCode := fun code =>
  inferInstanceAs (Decidable (code = "missing" ∨ code = "minOccurs" ∨ code = "maxOccurs"))

theorem mem_violation {α : Type} {code path : String} {actual : Json} {expected : Option α}
    {holds : α → Bool} {text : α → Json} {f : Failure} :
    f ∈ violation code path actual expected holds text ↔
      ∃ e, expected = some e ∧ holds e = false ∧ f = .constraint code path actual (text e) := by
  cases expected with
  | none => simp [violation]
  | some e => by_cases hHolds : holds e = true <;> simp [violation, hHolds]

theorem eq_of_mem_violation {α : Type} {code path : String} {actual : Json} {expected : Option α}
    {holds : α → Bool} {text : α → Json} {f : Failure}
    (h : f ∈ violation code path actual expected holds text) : f.code = code ∧ f.path = path := by
  obtain ⟨e, -, -, rfl⟩ := mem_violation.mp h
  exact ⟨rfl, rfl⟩

/-- Only tags that rules declare are ever missing. Each is reported under its own path. -/
theorem eq_of_mem_missingFailures {rule : Rule} {keys : List String} {path : String} {f : Failure}
    (h : f ∈ missingFailures rule keys path) :
    ∃ key child, key ∈ keys ∧ rule.child? key = some child ∧ f = .missing (keyPath path key) := by
  obtain ⟨key, hKey, hFailure⟩ := List.mem_filterMap.mp h
  split at hFailure
  · next hRequired =>
    obtain ⟨child, hChild, -⟩ := (Option.any_eq_true _ _).mp hRequired
    exact ⟨key, child, hKey, hChild, (Option.some.inj hFailure).symm⟩
  · cases hFailure

/-- The codes of what is reported about a text. -/
def textCodes : List String :=
  ["minLength", "maxLength", "length", "pattern", "fixed", "in", "min", "max"] ++
    Schema.ValueType.all.map fun t => (Failure.notA t.name "" "").code

/-- Whatever is reported of a text under a rule that is no map has one of the codes for texts. -/
theorem code_mem_textCodes {s : Setting} {rule : Rule} {text path : String}
    (hType : rule.type ≠ .map) {f : Failure} (h : f ∈ textFailures s rule text path) :
    f.code ∈ textCodes := by
  have hNotA (t : Schema.ValueType) : (Failure.notA t.name path text).code ∈ textCodes := by
    have hAll : t ∈ Schema.ValueType.all := by cases t <;> decide
    exact List.mem_append_right _ (List.mem_map.mpr ⟨t, hAll, rfl⟩)
  unfold textFailures at h
  split at h
  · next hMap => exact absurd hMap hType
  · split at h
    · cases h
    · rw [List.mem_singleton.mp h]
      exact hNotA .date
  · split at h
    · cases h
    · rw [List.mem_singleton.mp h]
      exact hNotA .boolean
  · simp only [stringFailures, List.mem_append] at h
    rcases h with ((((h | h) | h) | h) | h) | h
    all_goals
      rw [(eq_of_mem_violation h).1]
      decide
  · split at h
    · rcases List.mem_append.mp h with h | h
      all_goals
        rw [(eq_of_mem_violation h).1]
        decide
    · rw [List.mem_singleton.mp h]
      exact hNotA rule.type

/-- The codes of what is reported about a node for itself, those of undeclared keys apart. -/
def nodeCodes : List String :=
  "unexpected sequence" :: "unexpected value in a map" :: textCodes

/-- The code `unknown` is for undeclared keys only, and only where they are denied. -/
theorem Visit.code_of_mem_nodeFailures {s : Setting} {v : Visit} {f : Failure}
    (h : f ∈ v.nodeFailures s) :
    s.configuration.unknownAllow = false ∧ f.code = "unknown" ∨ f.code ∈ nodeCodes := by
  unfold nodeFailures at h
  split at h
  · split at h
    · cases h
    · rw [List.mem_singleton.mp h]
      exact .inr (.head _)
  · split at h
    · cases h
    · next hAllow =>
      obtain ⟨key, -, rfl⟩ := List.mem_map.mp h
      exact .inl ⟨by simpa using hAllow, rfl⟩
  · split at h
    · split at h
      · cases h
      · rw [List.mem_singleton.mp h]
        exact .inr (.tail _ (.head _))
    · next hType => exact .inr (.tail _ (.tail _ (code_mem_textCodes hType h)))

/-- What is reported of a node itself says nothing about how often a tag comes. -/
theorem Visit.not_isCountCode_of_mem_nodeFailures {s : Setting} {v : Visit} {f : Failure}
    (h : f ∈ v.nodeFailures s) : ¬ IsCountCode f.code := by
  have hOther : ∀ code ∈ nodeCodes, ¬ IsCountCode code := by decide
  rcases code_of_mem_nodeFailures h with ⟨-, hCode⟩ | hMem
  · rw [hCode]
    decide
  · exact hOther f.code hMem

/-- What is reported of bounds has one of two codes, and the path of the visit. -/
theorem Visit.eq_of_mem_boundFailures {v : Visit} {f : Failure} (h : f ∈ v.boundFailures) :
    (f.code = "minOccurs" ∨ f.code = "maxOccurs") ∧ f.path = v.path := by
  unfold boundFailures at h
  split at h
  · rcases List.mem_append.mp h with hMin | hMax
    · exact ⟨.inl (eq_of_mem_violation hMin).1, (eq_of_mem_violation hMin).2⟩
    · exact ⟨.inr (eq_of_mem_violation hMax).1, (eq_of_mem_violation hMax).2⟩
  · cases h

end MarkupRules.Validation
