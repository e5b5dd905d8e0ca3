import MarkupRules.Proofs.Markup.DataTree

/-!
The keys of a data tree.

They are names of tags and of attributes, the key for attributes and the key for texts.
-/
namespace MarkupRules.Markup

namespace Node

/-- Every key of a mapping, at any depth, is of a kind. -/
inductive KeysAll (kind : String → Prop) : Node → Prop where
  | scalar (text : String) : KeysAll kind (.scalar text)
  | sequence {items : List Node} (hItems : ∀ item ∈ items, KeysAll kind item) :
      KeysAll kind (.sequence items)
  | mapping {entries : List (String × Node)} (hKeys : ∀ e ∈ entries, kind e.1)
      (hValues : ∀ e ∈ entries, KeysAll kind e.2) : KeysAll kind (.mapping entries)

variable {kind : String → Prop}

/-- The keys of a mapping are of a kind if those of the entries it is made from are, since no other
keys come in. -/
theorem keysAll_ofEntries {entries : List (String × Node)}
    (h : ∀ e ∈ entries, kind e.1 ∧ KeysAll kind e.2) : KeysAll kind (ofEntries entries) := by
  have hGiven : ∀ e ∈ give [] entries, kind e.1 ∧ KeysAll kind e.2 := by
    intro e hMem
    rcases mem_give hMem with hNil | hEntry
    · cases hNil
    · exact h e hEntry
  rw [ofEntries_eq_give]
  exact .mapping (fun e hMem => (hGiven e hMem).1) fun e hMem => (hGiven e hMem).2

end Node

namespace Element

variable {kind : String → Prop} {options : Options}

/-- The only entry for attributes is the one under the attribute key, and there is none where the
options name no such key. -/
theorem mem_attributeEntries {attributes : List Attribute} {entry : String × Node}
    (h : entry ∈ attributeEntries options attributes) : ∃ key, options.attributeKey = some key ∧
      entry = (key, .ofEntries (attributes.map fun a => (a.name, .scalar a.value))) := by
  unfold attributeEntries at h
  split at h
  · cases h
  · next key hKey =>
    split at h
    · cases h
    · exact ⟨key, hKey, List.mem_singleton.mp h⟩

/-- Occurrences of one name bring no keys of their own, be they one node or a sequence. -/
theorem keysAll_ofOccurrences {nodes : List Node} (h : ∀ node ∈ nodes, node.KeysAll kind) :
    (ofOccurrences nodes).KeysAll kind := by
  unfold ofOccurrences
  split
  · exact h _ (.head _)
  · exact .sequence h

/-- A group of occurrences is that of the children of one name. -/
theorem childrenNamed_of_mem_collect {e : Element} {name : String} {nodes : List Node}
    (h : (name, nodes) ∈ collect (namedNodes options e.children)) :
    nodes = (e.childrenNamed name).map (node options) ∧ e.childrenNamed name ≠ [] := by
  have hLookup := Node.lookup_of_mem (nodup_keys_collect _) h
  rw [lookup_collect, valuesOf_namedNodes] at hLookup
  split at hLookup
  · cases hLookup
  · next hSome =>
    exact ⟨(Option.some.inj hLookup).symm, fun hNone => hSome (by rw [hNone, List.map_nil])⟩

/-- The keys in the data of an element are the names of what it contains and two keys of the
options. -/
theorem keysAll_node {e : Element} (hText : kind options.textKey)
    (hAttribute : ∀ key, options.attributeKey = some key → kind key)
    (hNames : ∀ x, e.Contains x → kind x.name ∧ ∀ a ∈ x.tag.attributes, kind a.name) :
    (e.node options).KeysAll kind := by
  induction e with
  | mk tag texts children ih =>
    have hChild (c : Element) (hMem : c ∈ children) : kind c.name ∧ (c.node options).KeysAll kind :=
      ⟨(hNames c (.child hMem (.self c))).1, ih c hMem fun x hx => hNames x (.child hMem hx)⟩
    have hAttributes : ∀ entry ∈ attributeEntries options tag.attributes,
        kind entry.1 ∧ entry.2.KeysAll kind := by
      intro entry hEntry
      obtain ⟨key, hKey, rfl⟩ := mem_attributeEntries hEntry
      refine ⟨hAttribute key hKey, Node.keysAll_ofEntries fun value hValue => ?_⟩
      obtain ⟨a, hMem, rfl⟩ := List.mem_map.mp hValue
      exact ⟨(hNames _ (.self _)).2 a hMem, .scalar _⟩
    have hChildren : ∀ group ∈ collect (namedNodes options children),
        kind group.1 ∧ (ofOccurrences group.2).KeysAll kind := by
      intro group hGroup
      obtain ⟨hNodes, hSome⟩ :=
        childrenNamed_of_mem_collect (e := .mk tag texts children) hGroup
      obtain ⟨c, hNamed⟩ := List.exists_mem_of_ne_nil _ hSome
      obtain ⟨hMem, hName⟩ := mem_childrenNamed.mp hNamed
      refine ⟨hName ▸ (hChild c hMem).1, keysAll_ofOccurrences fun n hNode => ?_⟩
      rw [hNodes] at hNode
      obtain ⟨c', hNamed', rfl⟩ := List.mem_map.mp hNode
      exact (hChild c' (mem_childrenNamed.mp hNamed').1).2
    by_cases hParts : (Element.mk tag texts children).hasParts options
    · rw [node_of_hasParts hParts]
      refine Node.keysAll_ofEntries fun entry hEntry => ?_
      rcases List.mem_append.mp hEntry with hEntry | hLast
      · rcases List.mem_append.mp hEntry with hFirst | hMiddle
        · exact hAttributes entry hFirst
        · obtain ⟨group, hGroup, rfl⟩ := List.mem_map.mp hMiddle
          exact hChildren group hGroup
      · split at hLast
        · cases hLast
        · rw [List.mem_singleton.mp hLast]
          exact ⟨hText, .scalar _⟩
    · rw [node_of_not_hasParts hParts]
      exact .scalar _

end Element

end MarkupRules.Markup
