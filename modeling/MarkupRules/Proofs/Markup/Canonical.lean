import MarkupRules.Proofs.Markup.DataTree
import MarkupRules.Proofs.Markup.Name

/-!
Data trees of the form in which elements are read.

A canonical node is made of attributes, of children grouped by their names, and of a text. An
element with these attributes, these children one after the other and this text has the node
for its data.
-/
namespace MarkupRules.Markup

/-- What a canonical node is made of. -/
structure Parts where
  attributes : List (String × String)
  /-- The children of each name. -/
  groups : List (String × List Node)
  text : String

namespace Parts

def attributeEntries (p : Parts) : List (String × Node) :=
  if p.attributes = [] then []
  else [(":a", .mapping (p.attributes.map fun a => (a.1, .scalar a.2)))]

/-- A child that is the only one of its name stands for itself, several are a sequence. -/
def childEntries (p : Parts) : List (String × Node) :=
  p.groups.map fun g => (g.1, Element.ofOccurrences g.2)

def textEntries (p : Parts) : List (String × Node) :=
  if p.text = "" then [] else [("#text", .scalar p.text)]

/-- The node that is made of the parts. Without attributes and children it is the text alone. -/
def node (p : Parts) : Node :=
  if p.attributes = [] ∧ p.groups = [] then .scalar p.text
  else .mapping (p.attributeEntries ++ p.childEntries ++ p.textEntries)

/-- The children one by one, each under its name. -/
def children (p : Parts) : List (String × Node) := p.groups.flatMap fun g => g.2.map (g.1, ·)

/-- Names are names of letters, each stands for one attribute or one group of children, and the
text is trimmed. -/
structure Valid (p : Parts) : Prop where
  attributeNames : ∀ a ∈ p.attributes, IsName a.1
  attributesDistinct : (p.attributes.map Prod.fst).Nodup
  childNames : ∀ g ∈ p.groups, IsName g.1
  childrenDistinct : (p.groups.map Prod.fst).Nodup
  childrenSome : ∀ g ∈ p.groups, g.2 ≠ []
  text : Text.trimmed p.text = p.text

end Parts

/-- A node is canonical if it is made of valid parts and all children among them are canonical. -/
inductive IsCanonical : Node → Prop where
  | node {p : Parts} (hParts : p.Valid) (hChildren : ∀ c ∈ p.children, IsCanonical c.2) :
      IsCanonical p.node

theorem Parts.valid_text {text : String} (h : Text.trimmed text = text) :
    Parts.Valid ⟨[], [], text⟩ :=
  ⟨by simp, by simp, by simp, by simp, by simp, h⟩

theorem IsCanonical.scalar {text : String} (h : Text.trimmed text = text) :
    IsCanonical (.scalar text) :=
  .node (Parts.valid_text h) (by simp [Parts.children])

namespace Element

/-- Values that come one after the other under a new key are collected as one group, in front of the
groups of what follows. -/
theorem collect_map_append {key : String} {values : List Node} (hSome : values ≠ [])
    {entries : List (String × Node)} (hNew : key ∉ (collect entries).map Prod.fst) :
    collect (values.map (key, ·) ++ entries) = (key, values) :: collect entries := by
  have hLookup : (collect entries).lookup key = none := Node.lookup_eq_none_iff.mpr hNew
  have hFilter : (collect entries).filter (·.1 != key) = collect entries := by
    refine List.filter_eq_self.mpr fun g hMem => ?_
    have hKey : g.1 ≠ key := fun hSame => hNew (hSame ▸ List.mem_map_of_mem hMem)
    simpa using hKey
  -- The first value collects those behind it, and these are a group of the key already.
  induction values with
  | nil => exact absurd rfl hSome
  | cons value rest ih =>
    rw [List.map_cons, List.cons_append, collect]
    cases rest with
    | nil => simp [hLookup, hFilter]
    | cons next more =>
      rw [ih (by simp)]
      simp [hFilter]

/-- Groups that are written out one after the other are collected again as the same groups. -/
theorem collect_flatMap {groups : List (String × List Node)}
    (hDistinct : (groups.map Prod.fst).Nodup) (hSome : ∀ g ∈ groups, g.2 ≠ []) :
    collect (groups.flatMap fun g => g.2.map (g.1, ·)) = groups := by
  induction groups with
  | nil => rfl
  | cons g rest ih =>
    obtain ⟨hNew, hDistinct⟩ := List.nodup_cons.mp hDistinct
    have hRest := ih hDistinct fun g' hMem => hSome g' (.tail _ hMem)
    rw [List.flatMap_cons, collect_map_append (hSome g (.head _)) (by rwa [hRest]), hRest]

end Element

theorem Parts.attributeEntries_eq_nil_iff (p : Parts) :
    p.attributeEntries = [] ↔ p.attributes = [] := by
  simp [attributeEntries]

namespace Parts.Valid

variable {p : Parts}

/-- There are no children just if there are no groups of them, for no group is empty. -/
theorem children_eq_nil_iff (h : p.Valid) : p.children = [] ↔ p.groups = [] := by
  refine ⟨fun hNone => ?_, fun hNone => by simp [children, hNone]⟩
  refine List.eq_nil_iff_forall_not_mem.mpr fun g hMem => ?_
  have hNil := List.flatMap_eq_nil_iff.mp hNone g hMem
  exact h.childrenSome g hMem (List.map_eq_nil_iff.mp hNil)

/-- Neither key is a name of letters, so no child takes the place of the attributes or the text. -/
theorem nodup_keys (h : p.Valid) :
    ((p.attributeEntries ++ p.childEntries ++ p.textEntries).map Prod.fst).Nodup := by
  have hAttributes : (p.attributeEntries.map Prod.fst).Nodup ∧
      ∀ key ∈ p.attributeEntries.map Prod.fst, key = ":a" := by
    unfold attributeEntries
    split <;> simp
  have hText : (p.textEntries.map Prod.fst).Nodup ∧
      ∀ key ∈ p.textEntries.map Prod.fst, key = "#text" := by
    unfold textEntries
    split <;> simp
  have hChildren : p.childEntries.map Prod.fst = p.groups.map Prod.fst := by
    rw [childEntries, List.map_map]
    rfl
  have hNames : ∀ key ∈ p.groups.map Prod.fst, IsName key := by simpa using h.childNames
  rw [List.map_append, List.map_append, hChildren, List.nodup_append, List.nodup_append]
  refine ⟨⟨hAttributes.1, h.childrenDistinct, ?_⟩, hText.1, ?_⟩
  · rintro key hKey name hName rfl
    rw [hAttributes.2 key hKey] at hName
    exact absurd (hNames _ hName) (by decide)
  · rintro key hKey name hName rfl
    rw [hText.2 key hName] at hKey
    rcases List.mem_append.mp hKey with hKey | hKey
    · exact absurd (hAttributes.2 _ hKey) (by decide)
    · exact absurd (hNames _ hKey) (by decide)

/-- An element with these attributes, this text and these children has the data that is made of
them. -/
theorem assemble_eq (h : p.Valid) :
    Element.assemble {} (p.attributes.map fun a => ⟨a.1, a.2⟩) p.text p.children = p.node := by
  have hDistinct : ((p.attributes.map fun a => (a.1, Node.scalar a.2)).map Prod.fst).Nodup := by
    rw [List.map_map]
    exact h.attributesDistinct
  have hAttributes : Element.attributeEntries {} (p.attributes.map fun a => ⟨a.1, a.2⟩) =
      p.attributeEntries := by
    rw [attributeEntries, ← Node.ofEntries_of_nodup hDistinct]
    simp only [Element.attributeEntries, List.isEmpty_iff, List.map_eq_nil_iff, List.map_map]
    rfl
  have hGroups : Element.collect p.children = p.groups :=
    Element.collect_flatMap h.childrenDistinct h.childrenSome
  have hText : (if p.text.isEmpty then [] else [("#text", Node.scalar p.text)]) =
      p.textEntries := by
    simp [textEntries]
  have hBare : (p.children.isEmpty && p.attributeEntries.isEmpty) = true ↔
      p.attributes = [] ∧ p.groups = [] := by
    rw [Bool.and_eq_true, List.isEmpty_iff, List.isEmpty_iff, h.children_eq_nil_iff,
      attributeEntries_eq_nil_iff, and_comm]
  rw [node, ← Node.ofEntries_of_nodup h.nodup_keys]
  simp only [Element.assemble, hAttributes, hGroups, hText, hBare]
  rfl

end Parts.Valid

end MarkupRules.Markup
