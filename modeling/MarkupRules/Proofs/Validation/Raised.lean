import MarkupRules.Proofs.Validation.OwnFailures
import MarkupRules.Proofs.Validation.Paths

/-!
Failures with the places at which they are raised.

Where no place is visited twice, what is raised at a place are the failures of its visit.
Those that say how often a tag comes are picked out by their codes.
-/
namespace MarkupRules.Validation

open Schema (Rule)

/-- The failures of visits without those of custom checks, each behind its place. -/
def raised (s : Setting) (visits : List (List Step × Visit)) : List (List Step × Failure) :=
  visits.flatMap fun v => (v.2.ownFailures s).map (v.1, ·)

/-- A failure is raised at a place just if it is one that a visit there has of its own. -/
theorem mem_raised {s : Setting} {visits : List (List Step × Visit)} {site : List Step}
    {f : Failure} :
    (site, f) ∈ raised s visits ↔ ∃ w, (site, w) ∈ visits ∧ f ∈ w.ownFailures s := by
  simp only [raised, List.mem_flatMap, List.mem_map, Prod.mk.injEq, Prod.exists]
  constructor
  · rintro ⟨_, w, hVisit, _, hFailure, rfl, rfl⟩
    exact ⟨w, hVisit, hFailure⟩
  · rintro ⟨w, hVisit, hFailure⟩
    exact ⟨site, w, hVisit, f, hFailure, rfl, rfl⟩

/-- Where nothing is visited nothing is raised, whatever failures are looked for. -/
theorem filter_raised_of_notMem {s : Setting} {visits : List (List Step × Visit)}
    {site : List Step} (h : site ∉ sites visits) (q : Failure → Prop) [DecidablePred q] :
    (raised s visits).filter (fun f => f.1 = site ∧ q f.2) = [] := by
  rw [List.filter_eq_nil_iff]
  rintro ⟨site', f⟩ hMem hBoth
  obtain ⟨w, hVisit, -⟩ := mem_raised.mp hMem
  obtain ⟨rfl, -⟩ : site' = site ∧ q f := by simpa using hBoth
  exact h (mem_sites.mpr ⟨w, hVisit⟩)

/-- What is raised at a place that is visited once are the failures of that visit. What other visits
raise is at other places. -/
theorem filter_raised_of_mem {s : Setting} {visits : List (List Step × Visit)} {site : List Step}
    {w : Visit} (hNodup : (sites visits).Nodup) (h : (site, w) ∈ visits) (q : Failure → Prop)
    [DecidablePred q] :
    (raised s visits).filter (fun f => f.1 = site ∧ q f.2) =
      ((w.ownFailures s).filter fun f => q f).map (site, ·) := by
  induction visits with
  | nil => cases h
  | cons v rest ih =>
    obtain ⟨site', w'⟩ := v
    have hCons : raised s ((site', w') :: rest) =
        (w'.ownFailures s).map (site', ·) ++ raised s rest := rfl
    obtain ⟨hFresh, hRest⟩ := List.nodup_cons.mp hNodup
    rw [hCons, List.filter_append, List.filter_map]
    by_cases hSite : site' = site
    · subst hSite
      obtain rfl := eq_of_nodup_sites hNodup (.head _) h
      rw [filter_raised_of_notMem hFresh q, List.append_nil]
      simp [Function.comp_def]
    · rw [ih hRest ((List.mem_cons.mp h).resolve_left (by simp [Ne.symm hSite]))]
      simp [Function.comp_def, hSite]

theorem missingFailures_cons (rule : Rule) (key : String) (rest : List String) (path : String) :
    missingFailures rule (key :: rest) path =
      (if (rule.child? key).any Rule.isRequired then [.missing (keyPath path key)] else []) ++
        missingFailures rule rest path := by
  simp only [missingFailures, List.filterMap_cons]
  split <;> simp_all

/-- Of missing tags the failure of one is picked out by its path. It is there just if the tag is
absent and required. -/
theorem filter_missingFailures {rule r : Rule} {keys : List String} (hKeys : keys.Nodup)
    {name path : String} (hRule : rule.child? name = some r) :
    (missingFailures rule keys path).filter
        (fun f => f.code = "missing" ∧ f.path = keyPath path name) =
      if name ∈ keys ∧ r.isRequired = true then [.missing (keyPath path name)] else [] := by
  induction keys with
  | nil => simp [missingFailures]
  | cons key rest ih =>
    rw [List.nodup_cons] at hKeys
    rw [missingFailures_cons, List.filter_append, ih hKeys.2]
    by_cases hName : key = name
    · subst hName
      by_cases hRequired : r.isRequired = true <;> simp [hKeys.1, hRule, hRequired, Failure.missing]
    · have hOther : ((if (rule.child? key).any Rule.isRequired then
          [Failure.missing (keyPath path key)] else []).filter
          fun f => f.code = "missing" ∧ f.path = keyPath path name) = [] := by
        split <;> simp [Failure.missing, keyPath_inj, hName]
      rw [hOther]
      simp [Ne.symm hName]

/-- The same among all that a visit reports of its own. -/
theorem filter_missing_ownFailures (s : Setting) {w : Visit} {r : Rule} {name : String}
    (hTags : w.absentTags.Nodup) (hRule : w.rule.child? name = some r) :
    (w.ownFailures s).filter
        (fun f => f.code = "missing" ∧ f.path = keyPath w.path name) =
      if name ∈ w.absentTags ∧ r.isRequired = true then
        [.missing (keyPath w.path name)] else [] := by
  have hBounds : w.boundFailures.filter
      (fun f => f.code = "missing" ∧ f.path = keyPath w.path name) = [] := by
    refine List.filter_eq_nil_iff.mpr fun f hMem hCode => ?_
    simp only [decide_eq_true_eq] at hCode
    rcases (Visit.eq_of_mem_boundFailures hMem).1 with hBound | hBound <;>
      simp [hBound] at hCode
  have hNode : (w.nodeFailures s).filter
      (fun f => f.code = "missing" ∧ f.path = keyPath w.path name) = [] := by
    refine List.filter_eq_nil_iff.mpr fun f hMem hCode => ?_
    simp only [decide_eq_true_eq] at hCode
    exact Visit.not_isCountCode_of_mem_nodeFailures hMem (.inl hCode.1)
  rw [Visit.ownFailures, List.filter_append, List.filter_append, hBounds, hNode,
    filter_missingFailures hTags hRule]
  rfl

/-- Failures with the code of a bound on occurrences come from the bounds of the visit, and from
nothing else that it reports. -/
theorem filter_bound_ownFailures {s : Setting} {w : Visit} {code : String}
    (hCode : code = "minOccurs" ∨ code = "maxOccurs") :
    (w.ownFailures s).filter (fun f => f.code = code) =
      w.boundFailures.filter fun f => f.code = code := by
  have hCount : IsCountCode code := .inr hCode
  have hNode : (w.nodeFailures s).filter (fun f => f.code = code) = [] := by
    refine List.filter_eq_nil_iff.mpr fun f hMem hEq => ?_
    rw [decide_eq_true_eq] at hEq
    exact Visit.not_isCountCode_of_mem_nodeFailures hMem (hEq ▸ hCount)
  have hMissing : (missingFailures w.rule w.absentTags w.path).filter
      (fun f => f.code = code) = [] := by
    refine List.filter_eq_nil_iff.mpr fun f hMem hEq => ?_
    obtain ⟨key, _, -, -, rfl⟩ := eq_of_mem_missingFailures hMem
    rcases hCode with rfl | rfl <;> simp [Failure.missing] at hEq
  rw [Visit.ownFailures, List.filter_append, List.filter_append, hNode, hMissing]
  simp

/-- The failure of a constraint comes once, if it comes. It has the value that was compared and the
bound. -/
theorem violation_eq {α : Type} (code path : String) (actual : Json) (expected : Option α)
    (holds : α → Bool) (text : α → Json) :
    violation code path actual expected holds text =
      (expected.filter (!holds ·)).toList.map fun e => .constraint code path actual (text e) := by
  cases expected with
  | none => rfl
  | some e => by_cases hHolds : holds e = true <;> simp [violation, hHolds, Option.filter]

/-- By its code a constraint's failure is kept as a whole or left out as a whole. -/
theorem filter_violation {α : Type} (code code' path : String) (actual : Json)
    (expected : Option α) (holds : α → Bool) (text : α → Json) :
    (violation code path actual expected holds text).filter (fun f => f.code = code') =
      if code = code' then violation code path actual expected holds text else [] := by
  split
  · next hCode =>
    refine List.filter_eq_self.mpr fun f hMem => ?_
    simp [(eq_of_mem_violation hMem).1, hCode]
  · next hCode =>
    refine List.filter_eq_nil_iff.mpr fun f hMem => ?_
    simp [(eq_of_mem_violation hMem).1, hCode]

/-- The lower bound is reported just if the number is below it. -/
theorem filter_minOccurs (c : Schema.Constraints) (n : Nat) (path : String) :
    (occurrenceFailures c n path).filter (fun f => f.code = "minOccurs") =
      (c.minOccurs.filter fun m => n < m).toList.map fun m =>
        .constraint "minOccurs" path (.ofNat n) (.ofNat m) := by
  have hHolds : (fun m => !Predicate.minOccurs m n) = fun m => decide (n < m) := by
    funext m
    rw [Bool.eq_iff_iff]
    simp [Predicate.minOccurs]
  rw [occurrenceFailures, List.filter_append, filter_violation, filter_violation, if_pos rfl,
    if_neg (by decide), List.append_nil, violation_eq, hHolds]

/-- The upper bound is reported just if the number is above it. Both bounds can fail only if they
contradict each other. -/
theorem filter_maxOccurs (c : Schema.Constraints) (n : Nat) (path : String) :
    (occurrenceFailures c n path).filter (fun f => f.code = "maxOccurs") =
      (c.maxOccurs.filter fun m => m < n).toList.map fun m =>
        .constraint "maxOccurs" path (.ofNat n) (.ofNat m) := by
  have hHolds : (fun m => !Predicate.maxOccurs m n) = fun m => decide (m < n) := by
    funext m
    rw [Bool.eq_iff_iff]
    simp [Predicate.maxOccurs]
  rw [occurrenceFailures, List.filter_append, filter_violation, filter_violation,
    if_neg (by decide), if_pos rfl, List.nil_append, violation_eq, hHolds]

end MarkupRules.Validation
