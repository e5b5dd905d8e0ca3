import MarkupRules.Proofs.Markup.Depth
import MarkupRules.Proofs.Validation.Follow

/-!
The shape of the trees that documents are read into.

`Data` says for a place of such a tree what it holds: the data of an element, its text, its
attributes or the value of one, or the data of several children of one name. All that is said of
the shape is read off that: a sequence is never empty, alone or inside another one, a mapping is
never empty, and a text has no blanks at its ends unless it is the value of an attribute.
-/
namespace MarkupRules.Validation

open Markup (Node Element Document Options Describes scan)

/-- The place `site` of `tree` is that of an attribute: it lies in the mapping that stands for the
attributes of an element inside `root`. -/
def InAttributes (options : Options) (root : Element) (tree : Node) (site : List Step) : Prop :=
  ∃ e outer key name, root.Contains e ∧ e.tag.attributes ≠ [] ∧ options.attributeKey = some key ∧
    follow outer tree = some (e.node options) ∧
    (e.node options).get? key = some e.attributesNode ∧ site = outer ++ [.tag key, .tag name]

/-- What a place of a tree holds of the elements inside `root`. -/
inductive Data (options : Options) (root : Element) (tree : Node) : List Step → Node → Prop where
  | element {e : Element} (site : List Step) (hInside : root.Contains e) :
      Data options root tree site (e.node options)
  | text {e : Element} (site : List Step) (hInside : root.Contains e) :
      Data options root tree site (.scalar e.text)
  | attributes {e : Element} (site : List Step) (hSome : e.tag.attributes ≠ []) :
      Data options root tree site e.attributesNode
  | attributeValue {site : List Step} (value : String)
      (hPlace : InAttributes options root tree site) : Data options root tree site (.scalar value)
  | repeated {e : Element} (outer : List Step) {name : String}
      (hSeveral : 2 ≤ (e.childrenNamed name).length) :
      Data options root tree (outer ++ [.tag name])
        (.sequence ((e.childrenNamed name).map (Element.node options)))

section Shape

variable {options : Options} {root : Element} {tree : Node} {site : List Step}

/-- What a part of a tree holds the whole tree holds further down. The steps to the part come in
front. -/
theorem Data.below {c : Element} {part n : Node} {front : List Step}
    (hInside : ∀ x, c.Contains x → root.Contains x) (hFront : follow front tree = some part)
    (h : Data options c part site n) : Data options root tree (front ++ site) n := by
  cases h with
  | element _ hContains => exact .element _ (hInside _ hContains)
  | text _ hContains => exact .text _ (hInside _ hContains)
  | attributes _ hSome => exact .attributes _ hSome
  | attributeValue value hPlace =>
    obtain ⟨e, outer, key, name, hContains, hSome, hKey, hOuter, hValue, rfl⟩ := hPlace
    refine .attributeValue value ⟨e, front ++ outer, key, name, hInside e hContains, hSome, hKey,
      ?_, hValue, by rw [List.append_assoc]⟩
    rw [follow_append, hFront]
    exact hOuter
  | repeated outer hSeveral =>
    rw [← List.append_assoc]
    exact .repeated (front ++ outer) hSeveral

theorem follow_scalar {text : String} {n : Node} (h : follow site (.scalar text) = some n) :
    site = [] ∧ n = .scalar text := by
  cases site with
  | nil => exact ⟨rfl, (Option.some.inj h).symm⟩
  | cons step rest => cases step <;> cases h

/-- The attributes of an element and their values stand in a mapping of their own, each value as it
was written. -/
theorem data_of_attributes {e : Element} {key : String} {n : Node} {rest : List Step}
    (hSome : e.tag.attributes ≠ []) (hKey : options.attributeKey = some key)
    (hValue : (e.node options).get? key = some e.attributesNode)
    (h : follow rest e.attributesNode = some n) :
    Data options e (e.node options) (.tag key :: rest) n := by
  cases rest with
  | nil =>
    obtain rfl := Option.some.inj h
    exact .attributes _ hSome
  | cons step rest =>
    rw [follow_cons] at h
    obtain ⟨value, hStep, hRest⟩ := Option.bind_eq_some_iff.mp h
    cases step with
    | item index => cases hStep
    | tag name =>
      obtain ⟨a, -, hEntry⟩ := List.mem_map.mp (Markup.Node.mem_of_lookup hStep)
      obtain ⟨rfl, rfl⟩ := Prod.mk.inj hEntry
      obtain ⟨rfl, rfl⟩ := follow_scalar hRest
      exact .attributeValue a.value ⟨e, [], key, a.name, .self e, hSome, hKey, rfl, hValue, rfl⟩

theorem follow_tag {node value : Node} {name : String} (h : node.get? name = some value) :
    follow [.tag name] node = some value := by
  rw [follow_cons]
  show (node.get? name).bind some = some value
  rw [h]
  rfl

/-- The data of an element has the places of its children, if these have theirs. Several children of
one name share the first step. -/
theorem data_of_occurrences {e : Element} {name : String} {n : Node} {rest : List Step}
    (hChildren : ∀ c ∈ e.children, ∀ site n, follow site (c.node options) = some n →
      Data options c (c.node options) site n)
    (hValue : (e.node options).get? name =
      some (Element.ofOccurrences ((e.childrenNamed name).map (Element.node options))))
    (hNamed : e.childrenNamed name ≠ [])
    (hRest : follow rest
      (Element.ofOccurrences ((e.childrenNamed name).map (Element.node options))) = some n) :
    Data options e (e.node options) (.tag name :: rest) n := by
  have hStep := follow_tag hValue
  have hChild {c : Element} {front site : List Step} (hMem : c ∈ e.childrenNamed name)
      (hFront : follow front (e.node options) = some (c.node options))
      (hSite : follow site (c.node options) = some n) :
      Data options e (e.node options) (front ++ site) n := by
    have hInside := (Element.mem_childrenNamed.mp hMem).1
    exact .below (fun x hx => .child hInside hx) hFront (hChildren c hInside site n hSite)
  match hOccurrences : e.childrenNamed name with
  | [] => exact absurd hOccurrences hNamed
  | [c] =>
    rw [hOccurrences] at hStep hRest
    exact hChild (by simp [hOccurrences]) hStep hRest
  | c :: c' :: more =>
    have hSeveral : 2 ≤ (e.childrenNamed name).length := by simp [hOccurrences]
    rw [Element.ofOccurrences_of_two_le (by simpa using hSeveral)] at hStep hRest
    cases rest with
    | nil =>
      obtain rfl := Option.some.inj hRest
      exact .repeated [] hSeveral
    | cons step rest =>
      rw [follow_cons] at hRest
      obtain ⟨item, hItem, hBelow⟩ := Option.bind_eq_some_iff.mp hRest
      cases step with
      | tag name => cases hItem
      | item index =>
        have hFront : follow [.tag name, .item index] (e.node options) = some item := by
          rw [← List.singleton_append, follow_append, hStep]
          exact (follow_cons _ _ _).trans (congrArg (Option.bind · (follow [])) hItem)
        obtain ⟨x, hMem, rfl⟩ := List.mem_map.mp (List.mem_of_getElem? hItem)
        exact hChild hMem hFront hBelow

/-- What stands under a key of an element, if the places in its children hold what they should. The
key may be that of its text or of its attributes. -/
theorem data_of_get? {e : Element} {name : String} {value n : Node} {rest : List Step}
    (hNames : (e.tag.attributes.map Markup.Attribute.name).Nodup)
    (hChildren : ∀ c ∈ e.children, ∀ site n, follow site (c.node options) = some n →
      Data options c (c.node options) site n)
    (hValue : (e.node options).get? name = some value) (hRest : follow rest value = some n) :
    Data options e (e.node options) (.tag name :: rest) n := by
  by_cases hParts : e.hasParts options
  case neg =>
    rw [Element.node_of_not_hasParts hParts] at hValue
    cases hValue
  have hCases := Element.get?_node hParts name
  rw [hValue] at hCases
  split at hCases
  · obtain rfl := Option.some.inj hCases
    obtain ⟨rfl, rfl⟩ := follow_scalar hRest
    exact .text _ (.self e)
  · next hText =>
    split at hCases
    · next hNamed =>
      obtain ⟨key, hKey, hEntry⟩ :=
        Element.mem_attributeEntries (Markup.Node.mem_of_lookup hCases.symm)
      obtain rfl := (Prod.mk.inj hEntry).1
      have hSome : e.tag.attributes ≠ [] := by
        intro hNone
        simp [hNone, Element.attributeEntries, hKey] at hCases
      have hNode := (Element.keptIn_node hKey hNames).attributes hSome hNamed
        fun hSame => by_contra fun hLeft => hText ⟨hSame, hLeft⟩
      rw [Option.some.inj (hValue.symm.trans hNode)] at hRest
      exact data_of_attributes hSome hKey hNode hRest
    · next hNamed =>
      rw [Option.some.inj hCases] at hRest hValue
      exact data_of_occurrences hChildren hValue hNamed hRest

/-- What the places in the data of an element hold, by induction on the element. -/
theorem data_of_follow {e : Element} {n : Node}
    (hNames : ∀ x, e.Contains x → (x.tag.attributes.map Markup.Attribute.name).Nodup)
    (h : follow site (e.node options) = some n) : Data options e (e.node options) site n := by
  induction e generalizing site n with
  | mk tag texts children ih =>
    cases site with
    | nil =>
      obtain rfl := Option.some.inj h
      exact .element _ (.self _)
    | cons step rest =>
      rw [follow_cons] at h
      obtain ⟨value, hStep, hRest⟩ := Option.bind_eq_some_iff.mp h
      cases step with
      | item index =>
        obtain ⟨items, hItems, -⟩ := Option.bind_eq_some_iff.mp hStep
        cases hNode : (Element.mk tag texts children).node options with
        | sequence items' => exact absurd hNode (Element.node_ne_sequence options _ items')
        | scalar text => rw [hNode] at hItems; cases hItems
        | mapping entries => rw [hNode] at hItems; cases hItems
      | tag name =>
        refine data_of_get? (hNames _ (.self _)) (fun c hMem site n hSite => ?_) hStep hRest
        exact ih c hMem (fun x hx => hNames x (.child hMem hx)) hSite

/-- What the places of a document's tree hold. The first step of each is the name of the root. -/
theorem data_of_follow_tree {n : Node}
    (hNames : ∀ x, root.Contains x → (x.tag.attributes.map Markup.Attribute.name).Nodup)
    (h : follow site (.mapping [(root.name, root.node options)]) = some n) :
    site = [] ∨ Data options root (.mapping [(root.name, root.node options)]) site n := by
  cases site with
  | nil => exact .inl rfl
  | cons step rest =>
    right
    rw [follow_cons] at h
    obtain ⟨value, hStep, hRest⟩ := Option.bind_eq_some_iff.mp h
    cases step with
    | item index => cases hStep
    | tag name =>
      have hFront := follow_tag hStep
      obtain ⟨rfl, rfl⟩ := Prod.mk.inj (List.mem_singleton.mp (Markup.Node.mem_of_lookup hStep))
      exact .below (fun x hx => hx) hFront (data_of_follow hNames hRest)

/-- A sequence stands for several children of one name. The data of a single one is never a
sequence, so none of the items is one. -/
theorem Data.of_sequence {items : List Node} (h : Data options root tree site (.sequence items)) :
    (∃ outer name, site = outer ++ [.tag name]) ∧ 2 ≤ items.length ∧
      ∀ item ∈ items, ∀ inner, item ≠ .sequence inner := by
  generalize hNode : Node.sequence items = n at h
  cases h with
  | element _ _ => exact absurd hNode.symm (Element.node_ne_sequence options _ items)
  | text | attributes | attributeValue => cases hNode
  | repeated outer hSeveral =>
    obtain rfl := Node.sequence.inj hNode
    refine ⟨⟨outer, _, rfl⟩, by simpa using hSeveral, fun item hItem => ?_⟩
    obtain ⟨c, -, rfl⟩ := List.mem_map.mp hItem
    exact Element.node_ne_sequence options c

/-- An element without attributes and children has its text for its data, and attributes have a
mapping only where there are some. So no mapping is empty. -/
theorem Data.ne_nil_of_mapping {entries : List (String × Node)}
    (h : Data options root tree site (.mapping entries)) : entries ≠ [] := by
  generalize hNode : Node.mapping entries = n at h
  cases h with
  | @element e _ _ =>
    by_cases hParts : e.hasParts options
    · obtain ⟨entries', hEntries, hSome⟩ := Element.exists_node_eq_mapping hParts
      obtain rfl := Node.mapping.inj (hNode.trans hEntries)
      exact hSome
    · rw [Element.node_of_not_hasParts hParts] at hNode
      cases hNode
  | attributes _ hSome =>
    obtain rfl := Node.mapping.inj hNode
    simpa using hSome
  | text | attributeValue | repeated => cases hNode

/-- A text is that of an element, alone or beside other data, unless it is the value of an
attribute. -/
theorem Data.of_scalar {text : String} (h : Data options root tree site (.scalar text))
    (hTexts : ∀ x, root.Contains x → Text.trimmed x.text = x.text) :
    InAttributes options root tree site ∨ Text.trimmed text = text := by
  generalize hNode : Node.scalar text = n at h
  cases h with
  | @element e _ hInside =>
    by_cases hParts : e.hasParts options
    · obtain ⟨entries, hEntries, -⟩ := Element.exists_node_eq_mapping hParts
      cases hNode.trans hEntries
    · rw [Element.node_of_not_hasParts hParts] at hNode
      obtain rfl := Node.scalar.inj hNode
      exact .inr (hTexts e hInside)
  | @text e _ hInside =>
    obtain rfl := Node.scalar.inj hNode
    exact .inr (hTexts e hInside)
  | attributeValue _ hPlace => exact .inl hPlace
  | attributes | repeated => cases hNode

end Shape

/-- The shape of the tree of a document with the root element `root`. Every node of a tree with
distinct keys has a place, so what is said of places is said of all nodes. -/
structure IsDocumentTree (options : Options) (root : Element) (tree : Node) : Prop where
  rooted : ∃ node, tree = .mapping [(root.name, node)] ∧ ∀ items, node ≠ .sequence items
  keysDistinct : tree.KeysDistinct
  sequence : ∀ site items, follow site tree = some (.sequence items) →
    (∃ outer name, site = outer ++ [.tag name]) ∧ 2 ≤ items.length ∧
      ∀ item ∈ items, ∀ inner, item ≠ .sequence inner
  mapping : ∀ site entries, follow site tree = some (.mapping entries) → entries ≠ []
  scalar : ∀ site text, follow site tree = some (.scalar text) →
    InAttributes options root tree site ∨ Text.trimmed text = text
  depth : ∀ limit, options.maxDepth = some limit →
    ∀ place ∈ root.places [], place.1.length ≤ limit

/-- The data of an element has the shape of a document's tree under the name of the element, if its
names, texts and depth are as a scan leaves them. -/
theorem isDocumentTree_node {options : Options} {root : Element}
    (hNames : ∀ x, root.Contains x → (x.tag.attributes.map Markup.Attribute.name).Nodup)
    (hTexts : ∀ x, root.Contains x → Text.trimmed x.text = x.text)
    (hDepth : ∀ limit, options.maxDepth = some limit →
      ∀ place ∈ root.places [], place.1.length ≤ limit) :
    IsDocumentTree options root (.mapping [(root.name, root.node options)]) := by
  constructor
  case rooted => exact ⟨_, rfl, Element.node_ne_sequence options root⟩
  case keysDistinct =>
    exact .mapping (by simp) (by simpa using Element.keysDistinct_node options root)
  case depth => exact hDepth
  case sequence =>
    intro site items hFollow
    rcases data_of_follow_tree hNames hFollow with rfl | hData
    · cases hFollow
    · exact hData.of_sequence
  case mapping =>
    intro site entries hFollow
    rcases data_of_follow_tree hNames hFollow with rfl | hData
    · obtain rfl := Node.mapping.inj (Option.some.inj hFollow)
      simp
    · exact hData.ne_nil_of_mapping
  case scalar =>
    intro site text hFollow
    rcases data_of_follow_tree hNames hFollow with rfl | hData
    · cases hFollow
    · exact hData.of_scalar hTexts

/-- The texts of the elements of a scanned text are trimmed, also once they are put together. -/
theorem trimmed_text_of_scan {text : String} {mode : Markup.AttributeMode} {options : Options}
    {root e : Element} (hRoot : Describes (scan text mode options).events root)
    (hInside : root.Contains e) : Text.trimmed e.text = e.text := by
  have hTexts : ∀ s ∈ e.texts, s ≠ "" ∧ Text.trimmed s = s := by
    intro s hText
    obtain ⟨before, after, hEvents⟩ :=
      List.append_of_mem (Element.text_mem_of_describes hRoot hInside hText)
    have hPrefix : before ++ [.text s] <+: (scan text mode options).events :=
      ⟨after, by rw [hEvents]; simp⟩
    have hNested := (Markup.nested_scan text mode options).wellNested.text before s hPrefix
    exact ⟨hNested.1, hNested.2.1⟩
  have hParts : ∀ part ∈ e.texts.map String.toList, part ≠ [] ∧ Text.trim part = part := by
    intro part hMem
    obtain ⟨s, hText, rfl⟩ := List.mem_map.mp hMem
    obtain ⟨hSome, hTrim⟩ := hTexts s hText
    refine ⟨by simpa using hSome, ?_⟩
    rw [← String.toList_ofList (l := Text.trim s.toList)]
    exact congrArg String.toList hTrim
  rw [Text.trimmed, Element.text, String.toList_intercalate, Text.trim_intercalate _ hParts,
    ← String.toList_intercalate, String.ofList_toList]

/-- A text that becomes a document has one root element, and the tree, which is the data of the
element, has the shape of a document's. -/
theorem Document.isDocumentTree_of_parse {text : String} {options : Options} {d : Document}
    (hParse : Document.parse text options = .ok d) :
    ∃ root, Describes (scan text .boolean options).events root ∧
      d = ⟨root.name, root.node options⟩ ∧ IsDocumentTree options root d.tree := by
  obtain ⟨root, hRoot, rfl⟩ := Markup.Document.root_of_parse hParse
  refine ⟨root, hRoot, rfl, isDocumentTree_node
    (fun x hInside => Markup.nodup_names_of_scan hRoot hInside)
    (fun x hInside => trimmed_text_of_scan hRoot hInside) fun limit hLimit place hPlace => ?_⟩
  have hLength := Markup.length_le_of_mem_places hRoot
    (Markup.openAtMost_scan text .boolean hLimit) hPlace
  simpa using hLength

/-- Blanks around a text and in an attribute, and as many levels as are allowed. -/
def blanksText : String := "<r k=\" 1 \"> t <b>u</b>\n<b/></r>"

def blanksOptions : Options := { maxDepth := some 2 }

def blanksDocument : Document where
  rootName := "r"
  root := .mapping [(":a", .mapping [("k", .scalar " 1 ")]),
    ("b", .sequence [.scalar "u", .scalar ""]), ("#text", .scalar "t")]

/-- Blanks are cut from the text of an element and kept in the value of an attribute. The limit on
the depth is met exactly. -/
theorem Document.isDocumentTree_blanks :
    Document.parse blanksText blanksOptions = .ok blanksDocument ∧
      ∃ root, Describes (scan blanksText .boolean blanksOptions).events root ∧
        blanksDocument = ⟨root.name, root.node blanksOptions⟩ ∧
        IsDocumentTree blanksOptions root blanksDocument.tree := by
  have hScan : scan blanksText .boolean blanksOptions = ⟨[.opening ⟨"r", [⟨"k", " 1 "⟩], 1⟩,
      .text "t", .opening ⟨"b", [], 1⟩, .text "u", .closing, .opening ⟨"b", [], 2⟩, .closing,
      .closing], none⟩ := by decide +kernel
  have hParse : Document.parse blanksText blanksOptions = .ok blanksDocument :=
    Markup.Document.parse_of_scan hScan rfl
  exact ⟨hParse, Document.isDocumentTree_of_parse hParse⟩

end MarkupRules.Validation
