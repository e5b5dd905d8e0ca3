import MarkupRules.Proofs.Markup.Keys
import MarkupRules.Proofs.Schema.Walk
import MarkupRules.Proofs.Validation.Paths

/-!
Where the steps of a place lead: down a data tree, and down the rules.

Only tags lead down the rules. A visit is made where both lead somewhere.
-/
namespace MarkupRules.Validation

open Markup (Node tagPath)
open Schema (Rule)

/-- The node one step down. -/
def stepNode? (node : Node) : Step → Option Node
  | .tag name => node.get? name
  | .item index => node.items?.bind (·[index]?)

/-- The node that steps lead to. -/
def follow (site : List Step) (tree : Node) : Option Node := site.foldlM stepNode? tree

theorem follow_cons (step : Step) (site : List Step) (tree : Node) :
    follow (step :: site) tree = (stepNode? tree step).bind (follow site) := rfl

theorem follow_append (front back : List Step) (tree : Node) :
    follow (front ++ back) tree = (follow front tree).bind (follow back) :=
  List.foldlM_append

theorem follow_snoc (site : List Step) (step : Step) (tree : Node) :
    follow (site ++ [step]) tree = (follow site tree).bind (stepNode? · step) := by
  rw [follow_append]
  congr
  funext node
  exact Option.bind_fun_some _

/-- The steps to a visit lead to its node, where the keys of mappings are distinct. With a key
twice, only its first value could be found again. -/
theorem Reached.follow_eq {v w : Visit} {site : List Step} (h : Reached v site w)
    (hKeys : v.node.KeysDistinct) : follow site v.node = some w.node := by
  induction h with
  | here => rfl
  | @item items rule path lone index item site w hRepeatable hItem below ih =>
    cases hKeys with
    | sequence hItems =>
      have hStep : stepNode? (.sequence items) (.item index) = some item := hItem
      rw [follow_cons, hStep]
      exact ih (hItems item (List.mem_of_getElem? hItem))
  | @tag entries rule child path key lone node site w hEntry hChild below ih =>
    cases hKeys with
    | mapping hDistinct hValues =>
      have hStep : stepNode? (.mapping entries) (.tag key) = some node :=
        Node.lookup_of_mem hDistinct hEntry
      rw [follow_cons, hStep]
      exact ih (hValues _ hEntry)

/-- The keys of a visited node are keys of the tree, so what holds of all of these holds of them. -/
theorem Reached.keysAll {kind : String → Prop} {v w : Visit} {site : List Step}
    (h : Reached v site w) (hKeys : v.node.KeysAll kind) : w.node.KeysAll kind := by
  induction h with
  | here => exact hKeys
  | item hRepeatable hItem below ih =>
    cases hKeys with
    | sequence hItems => exact ih (hItems _ (List.mem_of_getElem? hItem))
  | tag hEntry hChild below ih =>
    cases hKeys with
    | mapping _ hValues => exact ih (hValues _ hEntry)

/-- The tag of a step to one. -/
def Step.name? : Step → Option String
  | .tag name => some name
  | .item _ => none

/-- The tags of steps, without the indices. -/
def tagsOf (site : List Step) : List String := site.filterMap Step.name?

/-- The rule that tags lead to. -/
def descend? (rule : Rule) (names : List String) : Option Rule := names.foldlM Rule.child? rule

theorem descend?_cons (rule : Rule) (name : String) (names : List String) :
    descend? rule (name :: names) = (rule.child? name).bind (descend? · names) := rfl

/-- A last tag leads on from the rule that the others have led to. -/
theorem descend?_snoc (rule : Rule) (names : List String) (name : String) :
    descend? rule (names ++ [name]) = (descend? rule names).bind (·.child? name) := by
  rw [descend?, List.foldlM_append]
  show ((descend? rule names).bind fun r => (r.child? name).bind some) = _
  congr
  funext r
  exact Option.bind_fun_some _

/-- The steps to a visit lead to its rule. Indices of items are left out, since items share the rule
of their sequence. -/
theorem Reached.descend?_eq {v w : Visit} {site : List Step} (h : Reached v site w) :
    descend? v.rule (tagsOf site) = some w.rule := by
  induction h with
  | here => rfl
  | item hRepeatable hItem below ih => exact ih
  | @tag entries rule child path key lone node site w hEntry hChild below ih =>
    show descend? rule (key :: tagsOf site) = some w.rule
    rw [descend?_cons, hChild]
    exact ih

/-- Tags that lead to a rule have plain names if all of the rules have. The rule that they lead to
has plain names inside again. -/
theorem PlainNames.of_descend? {rule r : Rule} {names : List String} (h : PlainNames rule)
    (hDescend : descend? rule names = some r) : ∀ name ∈ names, PlainName name := by
  induction names generalizing rule with
  | nil => simp
  | cons name rest ih =>
    rw [descend?_cons] at hDescend
    obtain ⟨child, hChild, hRest⟩ := Option.bind_eq_some_iff.mp hDescend
    obtain ⟨hName, hBelow⟩ := h.child hChild
    exact List.forall_mem_cons.mpr ⟨hName, ih hBelow hRest⟩

/-- A path is walked just if it is that of tags which lead to a rule, behind the tags around. -/
theorem mem_paths_walk_iff {rule : Rule} (hRule : rule.WellFormed) {outer : List String}
    (hOuter : outer ≠ []) {path : String} :
    path ∈ (rule.walk (tagPath outer)).map Prod.fst ↔
      ∃ names r, descend? rule names = some r ∧ path = tagPath (outer ++ names) := by
  induction rule generalizing outer with
  | mk type constraints children ih =>
    cases hRule with
    | mk hNames hShape hChildren =>
      have hInside (c : String × Rule) (hChild : c ∈ children) :
          path ∈ (c.2.walk s!"{tagPath outer}.{c.1}").map Prod.fst ↔
            ∃ names r, descend? c.2 names = some r ∧ path = tagPath (outer ++ c.1 :: names) := by
        rw [← Markup.tagPath_snoc hOuter, ih c hChild (hChildren c hChild) (by simp)]
        simp only [List.append_assoc, List.singleton_append]
      rw [Rule.walk, Schema.Rule.walkChildren_eq_flatMap, List.map_cons, List.map_flatMap,
        List.mem_cons, List.mem_flatMap]
      constructor
      · rintro (rfl | ⟨c, hChild, hPath⟩)
        · exact ⟨[], _, rfl, by rw [List.append_nil]⟩
        · obtain ⟨names, r, hDescend, rfl⟩ := (hInside c hChild).mp hPath
          have hLookup : (Rule.mk type constraints children).child? c.1 = some c.2 :=
            Node.lookup_of_mem hNames hChild
          exact ⟨c.1 :: names, r, by rw [descend?_cons, hLookup]; exact hDescend, rfl⟩
      · rintro ⟨names, r, hDescend, rfl⟩
        cases names with
        | nil => exact .inl (by rw [List.append_nil])
        | cons name rest =>
          rw [descend?_cons] at hDescend
          obtain ⟨child, hChild, hRest⟩ := Option.bind_eq_some_iff.mp hDescend
          have hMem : (name, child) ∈ children := Node.mem_of_lookup hChild
          exact .inr ⟨(name, child), hMem, (hInside _ hMem).mpr ⟨rest, r, hRest, rfl⟩⟩

theorem child?_top_eq_some_iff {model : Schema.Model} {name : String} {r : Rule} :
    model.top.child? name = some r ↔ name = model.rootName ∧ r = model.root := by
  rw [Rule.child?, Schema.Model.top, Rule.children, Node.lookup_cons_eq_ite]
  split <;> simp_all [eq_comm]

/-- The paths of a model's walk are those of the tags that lead to a rule from above the root. -/
theorem mem_paths_iff {model : Schema.Model} (hRoot : model.root.WellFormed) {path : String} :
    path ∈ model.walk.map Prod.fst ↔
      ∃ names r, names ≠ [] ∧ descend? model.top names = some r ∧ path = tagPath names := by
  have hWalk : model.walk = model.root.walk (tagPath [model.rootName]) := by
    rw [Markup.tagPath_singleton, Schema.Model.walk_eq]
  rw [hWalk, mem_paths_walk_iff hRoot (by simp)]
  constructor
  · rintro ⟨names, r, hDescend, rfl⟩
    refine ⟨model.rootName :: names, r, by simp, ?_, rfl⟩
    rw [descend?_cons, child?_top_eq_some_iff.mpr ⟨rfl, rfl⟩]
    exact hDescend
  · rintro ⟨names, r, hNames, hDescend, rfl⟩
    cases names with
    | nil => exact absurd rfl hNames
    | cons name rest =>
      rw [descend?_cons] at hDescend
      obtain ⟨child, hChild, hRest⟩ := Option.bind_eq_some_iff.mp hDescend
      obtain ⟨rfl, rfl⟩ := child?_top_eq_some_iff.mp hChild
      exact ⟨rest, r, hRest, rfl⟩

theorem PlainName.point_notMem {name : String} (h : PlainName name) : '.' ∉ name.toList :=
  fun hMem => h.not_separator _ hMem (.inl rfl)

/-- Among plain names, tags lead to a rule just if their path is walked. With a point in a name,
other tags might have the same path. -/
theorem tagPath_mem_paths_iff {model : Schema.Model} (hRoot : model.root.WellFormed)
    (hPlain : PlainNames model.top) {names : List String} (hSome : names ≠ [])
    (hNames : ∀ name ∈ names, PlainName name) :
    tagPath names ∈ model.walk.map Prod.fst ↔ ∃ r, descend? model.top names = some r := by
  rw [mem_paths_iff hRoot]
  constructor
  · rintro ⟨names', r, hSome', hDescend, hPath⟩
    have hNames' := hPlain.of_descend? hDescend
    obtain rfl := Markup.tagPath_inj hSome hSome' (fun name hMem => (hNames name hMem).point_notMem)
      (fun name hMem => (hNames' name hMem).point_notMem) hPath
    exact ⟨r, hDescend⟩
  · rintro ⟨r, hDescend⟩
    exact ⟨names, r, hSome, hDescend, rfl⟩

end MarkupRules.Validation
