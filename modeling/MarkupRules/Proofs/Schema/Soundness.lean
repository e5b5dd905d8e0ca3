import MarkupRules.Proofs.Schema.Walk

/-!
Which elements declare a rule.

An element declares one just if nothing is wrong about it and all inside it; where it stands matters
to the errors only.
-/
namespace MarkupRules.Schema

open Markup (Element)

/-- The path where a tag stands is named in errors only, so it decides nothing about what is read.
-/
theorem Draft.toOption_read (path path' : String) (d : Draft) (a : Markup.Attribute) :
    (d.read path a).toOption = (d.read path' a).toOption := by
  have hPattern (p : PatternDeclaration) :
      (declarePattern path d p).toOption = (declarePattern path' d p).toOption := by
    unfold declarePattern
    split <;> rfl
  obtain ⟨name, value⟩ := a
  unfold read
  dsimp only
  split
  case h_15 => exact hPattern _
  case h_16 =>
    split
    · exact hPattern _
    · rfl
  -- What is left reads one value, or takes the text as it is.
  all_goals first | (split <;> rfl) | rfl

/-- Whether there is a pattern, and which, does not depend on the path. -/
theorem Draft.toOption_pattern? (path path' : String) (d : Draft) :
    (d.pattern? path).toOption = (d.pattern? path').toOption := by
  unfold pattern?
  split
  · rfl
  · rfl
  · split
    · rfl
    · split <;> rfl

theorem Draft.toOption_foldlM_read (path path' : String) (attributes : List Markup.Attribute)
    (d : Draft) : (attributes.foldlM (read path) d).toOption =
      (attributes.foldlM (read path') d).toOption := by
  induction attributes generalizing d with
  | nil => rfl
  | cons a rest ih =>
    rw [List.foldlM_cons, List.foldlM_cons]
    exact toOption_bind_congr (toOption_read path path' d a) ih

/-- Reading attributes is reading them one by one and then taking the pattern with its flags. -/
theorem Constraints.ofAttributes_eq_bind (path : String) (attributes : List Markup.Attribute) :
    ofAttributes path attributes = do
      let d ← attributes.foldlM (Draft.read path) {}
      let pattern ← d.pattern? path
      return { d.constraints with pattern } := by
  unfold ofAttributes
  cases attributes.foldlM (Draft.read path) {} with
  | error e => rfl
  | ok d =>
    rw [ok_bind]
    dsimp only
    cases d.pattern? path <;> rfl

theorem Constraints.toOption_ofAttributes (path path' : String)
    (attributes : List Markup.Attribute) :
    (ofAttributes path attributes).toOption = (ofAttributes path' attributes).toOption := by
  rw [ofAttributes_eq_bind, ofAttributes_eq_bind]
  refine toOption_bind_congr (Draft.toOption_foldlM_read path path' attributes {}) fun d => ?_
  exact toOption_bind_congr (d.toOption_pattern? path path') fun pattern => rfl

/-- Attributes declare the same constraints wherever their tag stands. -/
theorem Constraints.ofAttributes_of_path {path : String} {attributes : List Markup.Attribute}
    {c : Constraints} (h : ofAttributes path attributes = .ok c) (path' : String) :
    ofAttributes path' attributes = .ok c := by
  rw [← toOption_eq_some_iff] at h ⊢
  rw [← h]
  exact toOption_ofAttributes path' path attributes

/-- Attributes declare constraints, wherever their tag stands. -/
def Accepted (attributes : List Markup.Attribute) : Prop :=
  ∃ c, ∀ path, Constraints.ofAttributes path attributes = .ok c

/-- A type that attributes declare is a map if elements stand inside their tag. -/
def FitsShape (attributes : List Markup.Attribute) (children : List Element) : Prop :=
  ∀ path c t, Constraints.ofAttributes path attributes = .ok c → c.declared = some t →
    children ≠ [] → t = .map

/-- An element is a map if elements stand in it, and these have different names. -/
structure Arranged (e : Element) : Prop where
  shape : FitsShape e.tag.attributes e.children
  names : (e.children.map Element.name).Nodup

/-- Nothing is wrong about an element itself. -/
structure Sound (e : Element) : Prop extends Arranged e where
  attributes : Accepted e.tag.attributes

/-- An element that declares a rule has nothing wrong about it, at whatever depth. -/
theorem Mirrors.sound {path : String} {e : Element} {r : Rule} (h : Mirrors path e r) :
    Sound e := by
  cases h with
  | @mk _ tag texts children type constraints rules hConstraints hType hShape hNames hDistinct =>
    refine ⟨⟨fun path' c t hAttributes hDeclared hChildren => ?_, hDistinct⟩, constraints,
      Constraints.ofAttributes_of_path hConstraints⟩
    have hSame := Constraints.ofAttributes_of_path hConstraints path'
    obtain rfl : constraints = c := Except.ok.inj (hSame.symm.trans hAttributes)
    rw [hDeclared] at hType
    exact hType.symm.trans (hShape hChildren)

/-- If each of several elements declares a rule, these rules can be listed in the order of the
elements. -/
theorem exists_mirrorsAll {path : String} {elements : List Element}
    (h : ∀ x ∈ elements, ∃ r, Mirrors s!"{path}.{x.name}" x r) :
    ∃ rules, MirrorsAll path rules elements := by
  induction elements with
  | nil => exact ⟨[], .nil⟩
  | cons x rest ih =>
    obtain ⟨r, hMirrors⟩ := h x (.head _)
    obtain ⟨rules, hRules⟩ := ih fun y hMem => h y (.tail _ hMem)
    exact ⟨(x.name, r) :: rules, .cons ⟨rfl, hMirrors⟩ hRules⟩

/-- An element declares a rule just if nothing is wrong about it and all inside it. What is wrong is
said without the builder. -/
theorem exists_mirrors_iff {path : String} {e : Element} :
    (∃ r, Mirrors path e r) ↔ ∀ x, e.Contains x → Sound x := by
  constructor
  · rintro ⟨r, hMirrors⟩ x hContains
    obtain ⟨_, _, hInside⟩ := hMirrors.of_contains hContains
    exact hInside.sound
  · intro hSound
    induction e generalizing path with
    | mk tag texts children ih =>
      obtain ⟨⟨hShape, hNames⟩, c, hAttributes⟩ := hSound _ (.self _)
      have hBelow : ∀ x ∈ children, ∃ r, Mirrors s!"{path}.{x.name}" x r := by
        intro x hChild
        exact ih x hChild fun y hy => hSound y (.child hChild hy)
      obtain ⟨rules, hRules⟩ := exists_mirrorsAll hBelow
      have hRuleNames := hRules.names_eq
      have hSame : rules = [] ↔ children = [] := by
        have hLength := congrArg List.length hRuleNames
        simp only [List.length_map] at hLength
        rw [← List.length_eq_zero_iff, ← List.length_eq_zero_iff, hLength]
      refine ⟨_, mirrors_iff.mpr ⟨c, rules, hAttributes path, hRules, hRuleNames ▸ hNames, _, rfl,
        fun hInside => ?_, rfl⟩⟩
      have hChildren : (Element.mk tag texts children).children ≠ [] := mt hSame.mpr hInside
      cases hDeclared : c.declared with
      | some t => exact hShape path c t (hAttributes path) hDeclared hChildren
      | none => simpa using hInside

end MarkupRules.Schema
