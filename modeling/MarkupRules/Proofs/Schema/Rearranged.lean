import MarkupRules.Proofs.Markup.Siblings
import MarkupRules.Proofs.Schema.Walk

/-!
Schemas whose tags come in another order.

The order of the tags inside a tag decides nothing but the order of the rules inside its rule.
-/
namespace MarkupRules.Schema

open Markup (Element Event Describes SiblingsSwapped)

/-- At every depth, the same type and constraints, and the same rules inside in whatever order. -/
inductive Rule.Rearranged : Rule → Rule → Prop where
  | mk (type : ValueType) (constraints : Constraints)
      {children middle children' : List (String × Rule)}
      (hSame : List.Forall₂ (Keyed Rearranged) children middle) (hOrder : middle.Perm children') :
      Rearranged (.mk type constraints children) (.mk type constraints children')

namespace Rule.Rearranged

variable {r r' : Rule}

theorem refl (r : Rule) : Rearranged r r := by
  induction r with
  | mk type constraints children ih =>
    exact .mk type constraints (List.forall₂_same.mpr fun c hMem => .mk c.1 (ih c hMem)) (.refl _)

/-- The rules inside correspond one to one under the same names. Their order is free, and
corresponding ones are rearranged again. -/
theorem children (h : r.Rearranged r') :
    Reordered (Keyed Rearranged) r.children r'.children := by
  cases h with
  | mk type constraints hSame hOrder => exact ⟨_, hSame, hOrder⟩

theorem constraints_eq (h : r.Rearranged r') : r'.constraints = r.constraints := by
  cases h
  rfl

theorem type_eq (h : r.Rearranged r') : r'.type = r.type := by
  cases h
  rfl

/-- A tag is declared by both rules or by neither. The rule that it leads to in the one is a
rearrangement of the rule in the other. -/
theorem child?_cases (h : r.Rearranged r') (hWell : r.WellFormed) (name : String) :
    r.child? name = none ∧ r'.child? name = none ∨
      ∃ c c', r.child? name = some c ∧ r'.child? name = some c' ∧ c.Rearranged c' :=
  h.children.lookup_cases hWell.nodup_names name

theorem names_perm (h : r.Rearranged r') :
    (r.children.map Prod.fst).Perm (r'.children.map Prod.fst) :=
  h.children.keys_perm

/-- The same checks are asked for at the same paths. A check is listed along the walk, so the order
of tags decides which of them comes first. -/
theorem checks_perm (h : r.Rearranged r') (path : String) :
    ((r.walk path).filterMap checkRef?).Perm ((r'.walk path).filterMap checkRef?) := by
  induction r generalizing r' path with
  | mk type constraints children ih =>
    cases h with
    | @mk _ _ _ middle children' hSame hOrder =>
      have hInside :
          ((children.flatMap fun c => c.2.walk s!"{path}.{c.1}").filterMap checkRef?).Perm
            ((children'.flatMap fun c => c.2.walk s!"{path}.{c.1}").filterMap checkRef?) := by
        simp only [List.filterMap_flatMap]
        refine Reordered.flatMap_perm ⟨middle, hSame, hOrder⟩ ?_
        intro c hMem c' hPair
        cases hPair with
        | mk name hRule => exact ih _ hMem hRule _
      have hOwn : checkRef? (path, .mk type constraints children') =
          checkRef? (path, .mk type constraints children) := rfl
      rw [walk, walk, walkChildren_eq_flatMap, walkChildren_eq_flatMap, List.filterMap_cons,
        List.filterMap_cons, hOwn]
      cases checkRef? (path, .mk type constraints children) with
      | none => exact hInside
      | some ref => exact hInside.cons ref

end Rule.Rearranged

/-- Elements that are rearranged declare rules that are. Both stand at the same path. -/
theorem Mirrors.rearranged {path : String} {e e' : Element} {r : Rule} (h : Mirrors path e r)
    (hElement : e.Rearranged e') : ∃ r', Mirrors path e' r' ∧ r.Rearranged r' := by
  induction e generalizing path e' r with
  | mk tag texts children ih =>
    cases hElement with
    | @mk _ _ _ middle children' hSame hOrder =>
      obtain ⟨constraints, rules, hConstraints, hRules, hDistinct, type, hType, hShape, rfl⟩ :=
        mirrors_iff.mp h
      have hAgain : ∃ rules', MirrorsAll path rules' children' ∧
          Reordered (Keyed Rule.Rearranged) rules rules' := by
        refine Reordered.exists_forall₂ ⟨middle, hSame, hOrder⟩ hRules ?_
        rintro ⟨name, c⟩ x hMem ⟨hName, hMirrors⟩ y hPair
        obtain ⟨c', hMirrors', hRule⟩ := ih x hMem hMirrors hPair
        rw [← hPair.name_eq] at hMirrors' hName
        exact ⟨(name, c'), ⟨hName, hMirrors'⟩, .mk name hRule⟩
      obtain ⟨rules', hRules', hReordered⟩ := hAgain
      have hNames := hReordered.keys_perm
      have hNil : rules' = [] ↔ rules = [] := by
        have hLength : rules'.length = rules.length := by simpa using hNames.length_eq.symm
        rw [← List.length_eq_zero_iff, hLength, List.length_eq_zero_iff]
      obtain ⟨rulesMiddle, hSameRules, hOrderRules⟩ := hReordered
      refine ⟨.mk type constraints rules', ?_, .mk type constraints hSameRules hOrderRules⟩
      refine mirrors_iff.mpr ⟨constraints, rules', hConstraints, hRules',
        hNames.nodup_iff.mp hDistinct, type, ?_, ?_, rfl⟩
      · simpa only [List.isEmpty_iff, hNil] using hType
      · rwa [ne_eq, hNil]

/-- What a builder makes of events does not depend on their lines. Errors name paths only, so they
agree as well. -/
theorem Builder.foldlM_step_bare (events : List Event) (b : Builder) :
    (events.map Event.bare).foldlM step b = events.foldlM step b := by
  have hStep (b : Builder) (event : Event) : b.step event.bare = b.step event := by
    cases event <;> rfl
  simp only [List.foldlM_map, hStep]

/-- A schema in which two siblings change places compiles, to a model with the same root name and
rules that are the same but for their order. -/
theorem exists_compile_of_siblingsSwapped {text text' : String} {options : Markup.Options}
    {m : Model} (hCompile : Model.compile text options = .ok m)
    (h : SiblingsSwapped .boolean text text') :
    ∃ m', Model.compile text' options = .ok m' ∧ m'.rootName = m.rootName ∧
      m.root.Rearranged m'.root ∧ m.checks.Perm m'.checks := by
  obtain ⟨hError, -⟩ := compile_eq_ok_iff.mp hCompile
  obtain ⟨hError', e, e', hDescribes, hDescribes', hElement⟩ :=
    Markup.scan_of_siblingsSwapped h hError
  have hBare (text : String) :=
    Builder.foldlM_step_bare (Markup.scan text .boolean options).events {}
  obtain ⟨r, hMirrors, rfl⟩ :=
    (compile_eq_ok_iff_of_describes hError (hBare text).symm hDescribes).mp hCompile
  obtain ⟨r', hMirrors', hRule⟩ := hMirrors.rearranged hElement
  rw [← hElement.name_eq] at hMirrors'
  refine ⟨modelOf e'.name r', ?_, hElement.name_eq, hRule, ?_⟩
  · exact (compile_eq_ok_iff_of_describes hError' (hBare text').symm hDescribes').mpr
      ⟨r', hMirrors', rfl⟩
  · rw [modelOf, modelOf, hElement.name_eq]
    exact hRule.checks_perm e.name

end MarkupRules.Schema
