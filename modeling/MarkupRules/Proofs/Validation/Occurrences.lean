import MarkupRules.Proofs.Validation.Elements
import MarkupRules.Proofs.Validation.Raised

/-!
How often a tag comes, from the elements to the failures.

Absent from a mapping, absent under a text, alone, or several times: each is reported at
its own visit, with the number of the children of that name.
-/
namespace MarkupRules.Validation

open Markup (Node Element)
open Schema (Rule)

/-- A tag is absent once, since the rules inside a rule have different names. -/
theorem Visit.nodup_absentTags {w : Visit} (hRule : w.rule.WellFormed) : w.absentTags.Nodup := by
  have hNames := hRule.nodup_names
  unfold absentTags
  split
  · exact List.nodup_nil
  · exact hNames.filter _
  · split
    · exact hNames
    · exact List.nodup_nil

/-- The tags that an element's data lacks are those that no child has, whether the data is a mapping
or a text alone. -/
theorem mem_absentTags_iff {options : Markup.Options} {e : Element} {rule r : Rule} {name : String}
    (path : String) (lone : Bool) (hWellFormed : rule.WellFormed)
    (hRule : rule.child? name = some r) (hText : name ≠ options.textKey)
    (hAttribute : options.attributeKey ≠ some name) :
    name ∈ (Visit.mk (e.node options) rule path lone).absentTags ↔ e.childrenNamed name = [] := by
  have hName : name ∈ rule.children.map Prod.fst :=
    List.mem_map_of_mem (Node.mem_of_lookup hRule)
  by_cases hParts : e.hasParts options
  · obtain ⟨entries, hNode, -⟩ := Element.exists_node_eq_mapping hParts
    rw [← Element.get?_node_eq_none_iff hText hAttribute, hNode]
    have hLookup : (Node.mapping entries).get? name = none ↔ name ∉ entries.map Prod.fst :=
      Node.lookup_eq_none_iff
    rw [hLookup]
    simp [Visit.absentTags, KeyPartition.ofKeys, hName]
  · have hMap : rule.type = .map := by
      by_contra hType
      simp [hWellFormed.children_eq_nil hType] at hName
    have hChildren : e.children = [] := by
      by_contra hSome
      exact hParts (.inl hSome)
    simp only [Visit.absentTags, Element.node_of_not_hasParts hParts, if_pos hMap]
    simp [hName, Element.childrenNamed, hChildren]

/-- Where a tag may repeat, its data is counted as the children that it was made of. One child alone
is counted as well as several. -/
theorem count?_ofOccurrences {nodes : List Node} (hNodes : nodes ≠ [])
    (hShape : ∀ n ∈ nodes, ∀ items, n ≠ .sequence items) {r : Rule}
    (hRepeatable : r.isRepeatable = true) (path : String) :
    (Visit.mk (Element.ofOccurrences nodes) r path true).count? = some nodes.length := by
  match nodes with
  | [] => exact absurd rfl hNodes
  | [node] =>
    cases node with
    | sequence items => exact absurd rfl (hShape _ (.head _) items)
    | mapping entries => simp [Visit.count?, Element.ofOccurrences, hRepeatable]
    | scalar text => simp [Visit.count?, Element.ofOccurrences, hRepeatable]
  | _ :: _ :: _ => simp [Visit.count?, Element.ofOccurrences, hRepeatable]

/-- An item is not held against the bounds. They are for the sequence that it is in. -/
theorem boundFailures_eq_nil {w : Visit} (hLone : w.lone = false)
    (hShape : ∀ items, w.node ≠ .sequence items) : w.boundFailures = [] := by
  obtain ⟨node, rule, path, lone⟩ := w
  obtain rfl : lone = false := hLone
  cases node with
  | sequence items => exact absurd rfl (hShape items)
  | mapping entries => rfl
  | scalar text => rfl

/-- A visit that is held against no bound reports none, whatever else it reports. -/
theorem not_bound_of_mem_ownFailures {s : Setting} {w : Visit} (hBounds : w.boundFailures = [])
    {f : Failure} (h : f ∈ w.ownFailures s) : f.code ≠ "minOccurs" ∧ f.code ≠ "maxOccurs" := by
  rw [Visit.ownFailures, hBounds, List.nil_append] at h
  rcases List.mem_append.mp h with hNode | hMissing
  · have hCode := Visit.not_isCountCode_of_mem_nodeFailures hNode
    simp only [IsCountCode, not_or] at hCode
    exact hCode.2
  · obtain ⟨key, _, -, -, rfl⟩ := eq_of_mem_missingFailures hMissing
    exact ⟨by simp [Failure.missing], by simp [Failure.missing]⟩

/-- One step to a key goes to its value, under the rule that the key declares. -/
theorem Reached.exists_value {v w : Visit} {key : String} (hKeys : v.node.KeysDistinct)
    (h : Reached v [.tag key] w) :
    ∃ value child, v.node.get? key = some value ∧ v.rule.child? key = some child ∧
      w = ⟨value, child, keyPath v.path key, true⟩ := by
  cases h with
  | tag hEntry hChild below =>
    cases below
    cases hKeys with
    | mapping hNames => exact ⟨_, _, Node.lookup_of_mem hNames hEntry, hChild, rfl⟩

/-- One step to an index goes to the item there. It is visited under the rule of the sequence. -/
theorem Reached.exists_item {v w : Visit} {index : Nat} (h : Reached v [.item index] w) :
    ∃ items item, v.node = .sequence items ∧ items[index]? = some item ∧
      w = ⟨item, v.rule, itemPath v.path index, false⟩ := by
  cases h with
  | item hRepeatable hItem below =>
    cases below
    exact ⟨_, _, rfl, hItem, rfl⟩

/-- What is raised about the tag `name` in the element at `site`, where it comes `n` times and has
the rule `r`: that it is missing at the element, a bound that fails at the tag, and no bound at a
single one of several. -/
structure Counted (raised : List (List Step × Failure)) (site : List Step) (name : String)
    (r : Rule) (n : Nat) : Prop where
  missing : raised.filter (fun f => f.1 = site ∧ f.2.code = "missing" ∧
      f.2.path = sitePath "" (site ++ [.tag name])) =
    if n = 0 ∧ r.isRequired = true then
      [(site, .missing (sitePath "" (site ++ [.tag name])))] else []
  minOccurs : raised.filter (fun f => f.1 = site ++ [.tag name] ∧ f.2.code = "minOccurs") =
    (r.constraints.minOccurs.filter fun m => 1 ≤ n ∧ n < m).toList.map fun m =>
      (site ++ [.tag name],
        .constraint "minOccurs" (sitePath "" (site ++ [.tag name])) (.ofNat n) (.ofNat m))
  maxOccurs : raised.filter (fun f => f.1 = site ++ [.tag name] ∧ f.2.code = "maxOccurs") =
    (r.constraints.maxOccurs.filter fun m => 1 ≤ n ∧ m < n).toList.map fun m =>
      (site ++ [.tag name],
        .constraint "maxOccurs" (sitePath "" (site ++ [.tag name])) (.ofNat n) (.ofNat m))
  items : ∀ index f, (site ++ [.tag name, .item index], f) ∈ raised →
    f.code ≠ "minOccurs" ∧ f.code ≠ "maxOccurs"

section Element

variable {s : Setting} {options : Markup.Options} {start : Visit} {e : Element} {rule r : Rule}
  {site : List Step} {name : String} {lone : Bool}

/-- Where an element has children of a name, they are visited together: one child as its data,
several as a sequence. -/
theorem reached_children
    (hReached : Reached start site ⟨e.node options, rule, sitePath "" site, lone⟩)
    (hRule : rule.child? name = some r) (hText : name ≠ options.textKey)
    (hNamed : e.childrenNamed name ≠ []) :
    Reached start (site ++ [.tag name])
      ⟨Element.ofOccurrences ((e.childrenNamed name).map (Element.node options)), r,
        sitePath "" (site ++ [.tag name]), true⟩ := by
  have hLeaves : e.LeavesKey options name := fun hName => absurd hName hText
  have hValue := Element.get?_node_of_childrenNamed hLeaves hNamed
  rw [sitePath_snoc]
  exact hReached.trans (reached_of_get? hValue hRule)

/-- Where it has none, nothing is visited. Its text and its attributes have keys of their own. -/
theorem notMem_sites_of_childrenNamed (hKeys : start.node.KeysDistinct)
    (hReached : Reached start site ⟨e.node options, rule, sitePath "" site, lone⟩)
    (hText : name ≠ options.textKey) (hAttribute : options.attributeKey ≠ some name)
    (hNamed : e.childrenNamed name = []) : site ++ [.tag name] ∉ sites start.sited := by
  intro hMem
  obtain ⟨w, hVisit⟩ := mem_sites.mp hMem
  have hBelow := hReached.of_append hKeys (Visit.mem_sited.mp hVisit)
  obtain ⟨value, child, hValue, -⟩ := hBelow.exists_value (Element.keysDistinct_node options e)
  rw [(Element.get?_node_eq_none_iff hText hAttribute).mpr hNamed] at hValue
  cases hValue

/-- The data of an element is a mapping or a text, never a sequence. So a sequence always stands for
several children. -/
theorem node_shape {nodes : List Element} :
    ∀ n ∈ nodes.map (Element.node options), ∀ items, n ≠ .sequence items := by
  intro n hMem items
  obtain ⟨c, -, rfl⟩ := List.mem_map.mp hMem
  exact Element.node_ne_sequence options c items

/-- At the tag of the children the bounds are raised that their number does not keep, each with that
number. -/
theorem filter_raised_tag (hKeys : start.node.KeysDistinct)
    (hReached : Reached start site ⟨e.node options, rule, sitePath "" site, lone⟩)
    (hRule : rule.child? name = some r) (hRepeatable : r.isRepeatable = true)
    (hText : name ≠ options.textKey) (hAttribute : options.attributeKey ≠ some name)
    {code : String} (hCode : code = "minOccurs" ∨ code = "maxOccurs") :
    (raised s start.sited).filter (fun f => f.1 = site ++ [.tag name] ∧ f.2.code = code) =
      if e.childrenNamed name = [] then []
      else ((occurrenceFailures r.constraints (e.childrenNamed name).length
        (sitePath "" (site ++ [.tag name]))).filter fun f => f.code = code).map
          (site ++ [.tag name], ·) := by
  split
  · next hNamed =>
    have hNone := notMem_sites_of_childrenNamed hKeys hReached hText hAttribute hNamed
    exact filter_raised_of_notMem hNone fun f => f.code = code
  · next hNamed =>
    have hTag := reached_children hReached hRule hText hNamed
    have hNodes : (e.childrenNamed name).map (Element.node options) ≠ [] := by simpa using hNamed
    have hCount := count?_ofOccurrences hNodes node_shape hRepeatable
      (sitePath "" (site ++ [.tag name]))
    rw [filter_raised_of_mem (Visit.nodup_sites_sited hKeys) (Visit.mem_sited.mpr hTag)
      fun f => f.code = code, filter_bound_ownFailures hCode, Visit.boundFailures, hCount,
      List.length_map]

/-- A single one of several children is not held against the bounds. -/
theorem not_bound_of_mem_items (hKeys : start.node.KeysDistinct)
    (hReached : Reached start site ⟨e.node options, rule, sitePath "" site, lone⟩)
    (hText : name ≠ options.textKey) (hAttribute : options.attributeKey ≠ some name)
    {index : Nat} {f : Failure}
    (hMem : (site ++ [.tag name, .item index], f) ∈ raised s start.sited) :
    f.code ≠ "minOccurs" ∧ f.code ≠ "maxOccurs" := by
  obtain ⟨w, hVisit, hFailure⟩ := mem_raised.mp hMem
  have hBelow : Reached _ ([.tag name] ++ [.item index]) w :=
    hReached.of_append hKeys (Visit.mem_sited.mp hVisit)
  obtain ⟨u, hTag, hItem⟩ := hBelow.split
  obtain ⟨value, child, hValue, -, rfl⟩ := hTag.exists_value (Element.keysDistinct_node options e)
  obtain ⟨items, item, hItems, hAt, rfl⟩ := hItem.exists_item
  change (e.node options).get? name = some value at hValue
  have hNamed : e.childrenNamed name ≠ [] := by
    intro hNone
    rw [(Element.get?_node_eq_none_iff hText hAttribute).mpr hNone] at hValue
    cases hValue
  have hLeaves : e.LeavesKey options name := fun hName => absurd hName hText
  rw [Element.get?_node_of_childrenNamed hLeaves hNamed] at hValue
  have hNodes := Element.eq_of_ofOccurrences_eq_sequence node_shape
    ((Option.some.inj hValue).trans hItems)
  have hShape := node_shape item (hNodes ▸ List.mem_of_getElem? hAt)
  exact not_bound_of_mem_ownFailures (boundFailures_eq_nil rfl hShape) hFailure

/-- At the place of an element every repeatable tag that its rule declares is counted. It does not
matter whether the element has such a child. -/
theorem counted_of_reached (hKeys : start.node.KeysDistinct)
    (hReached : Reached start site ⟨e.node options, rule, sitePath "" site, lone⟩)
    (hWellFormed : rule.WellFormed) (hRule : rule.child? name = some r)
    (hRepeatable : r.isRepeatable = true) (hText : name ≠ options.textKey)
    (hAttribute : options.attributeKey ≠ some name) :
    Counted (raised s start.sited) site name r (e.childrenNamed name).length := by
  have hNodup := Visit.nodup_sites_sited hKeys
  have hPath : sitePath "" (site ++ [.tag name]) = keyPath (sitePath "" site) name :=
    sitePath_snoc site (.tag name)
  constructor
  case missing =>
    have hTags : (Visit.mk (e.node options) rule (sitePath "" site) lone).absentTags.Nodup :=
      Visit.nodup_absentTags hWellFormed
    have hMissing := filter_missing_ownFailures s hTags hRule
    simp only [mem_absentTags_iff _ lone hWellFormed hRule hText hAttribute] at hMissing
    rw [hPath, filter_raised_of_mem hNodup (Visit.mem_sited.mpr hReached)
      fun f => f.code = "missing" ∧ f.path = keyPath (sitePath "" site) name, hMissing]
    simp only [List.length_eq_zero_iff]
    split <;> rfl
  case minOccurs =>
    rw [filter_raised_tag hKeys hReached hRule hRepeatable hText hAttribute (.inl rfl)]
    by_cases hNamed : e.childrenNamed name = []
    · simp [hNamed]
    · rw [if_neg hNamed, filter_minOccurs, List.map_map]
      simp [Nat.one_le_iff_ne_zero, hNamed, Function.comp_def]
  case maxOccurs =>
    rw [filter_raised_tag hKeys hReached hRule hRepeatable hText hAttribute (.inr rfl)]
    by_cases hNamed : e.childrenNamed name = []
    · simp [hNamed]
    · rw [if_neg hNamed, filter_maxOccurs, List.map_map]
      simp [Nat.one_le_iff_ne_zero, hNamed, Function.comp_def]
  case items =>
    intro index f hMem
    exact not_bound_of_mem_items hKeys hReached hText hAttribute hMem

end Element

end MarkupRules.Validation
