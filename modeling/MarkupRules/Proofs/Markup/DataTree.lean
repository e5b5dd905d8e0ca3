import MarkupRules.Markup.Document
import MarkupRules.Proofs.Markup.Attribute
import MarkupRules.Proofs.Markup.Node
import MarkupRules.Proofs.Markup.Scan

/-!
What a data tree keeps of the elements that it was built from.

The attributes, the children and the text of an element share the keys of one mapping. Who
comes later takes the key: children from attributes, and the text from both.
-/
namespace MarkupRules.Markup

open Node (lookup_cons_eq_ite)

namespace Element

/-- The values that entries hold for a key, in order. -/
def valuesOf (key : String) (entries : List (String × Node)) : List Node :=
  (entries.filter (·.1 == key)).map Prod.snd

theorem valuesOf_cons (key : String) (e : String × Node) (rest : List (String × Node)) :
    valuesOf key (e :: rest) =
      if key = e.1 then e.2 :: valuesOf key rest else valuesOf key rest := by
  simp only [valuesOf, List.filter_cons, beq_iff_eq, eq_comm (a := e.1)]
  split <;> rfl

/-- Leaving the entries of one key out changes nothing about the others. -/
theorem lookup_filter_ne {key k : String} {groups : List (String × List Node)} (h : k ≠ key) :
    (groups.filter (·.1 != key)).lookup k = groups.lookup k := by
  induction groups with
  | nil => rfl
  | cons g rest ih =>
    rw [List.filter_cons, lookup_cons_eq_ite]
    by_cases hKey : g.1 = key
    · rw [if_neg (by simp [hKey]), if_neg (by rw [hKey]; exact h), ih]
    · rw [if_pos (by simp [hKey]), lookup_cons_eq_ite, ih]

/-- Collecting finds under a key all its values, in order. -/
theorem lookup_collect (entries : List (String × Node)) (key : String) :
    (collect entries).lookup key =
      if valuesOf key entries = [] then none else some (valuesOf key entries) := by
  induction entries with
  | nil => rfl
  | cons e rest ih =>
    obtain ⟨k, value⟩ := e
    rw [collect, lookup_cons_eq_ite, valuesOf_cons]
    by_cases h : key = k
    · subst h
      rw [if_pos rfl, if_pos rfl, if_neg (by simp), ih]
      split <;> simp_all
    · rw [if_neg h, if_neg h, lookup_filter_ne h, ih]

/-- Collecting makes one group for each key, so no key has two of them. -/
theorem nodup_keys_collect (entries : List (String × Node)) :
    ((collect entries).map Prod.fst).Nodup := by
  induction entries with
  | nil => simp [collect]
  | cons e rest ih =>
    obtain ⟨k, value⟩ := e
    rw [collect, List.map_cons, List.nodup_cons]
    constructor
    · simp
    · exact ih.sublist (List.Sublist.map _ List.filter_sublist)

/-- A group that was collected has all values of its key in it and no value of any other key. -/
theorem eq_valuesOf_of_mem_collect {entries : List (String × Node)} {key : String}
    {nodes : List Node} (h : (key, nodes) ∈ collect entries) : nodes = valuesOf key entries := by
  have hLookup := Node.lookup_of_mem (nodup_keys_collect entries) h
  rw [lookup_collect] at hLookup
  split at hLookup
  · cases hLookup
  · exact (Option.some.inj hLookup).symm

/-- From two occurrences on they are a sequence. A single one stands for itself, and that is how it
is told apart from a list of one. -/
theorem ofOccurrences_of_two_le {nodes : List Node} (h : 2 ≤ nodes.length) :
    ofOccurrences nodes = .sequence nodes := by
  match nodes with
  | _ :: _ :: _ => rfl
  | [_] => simp at h
  | [] => simp at h

/-- Where no occurrence is a sequence itself, a sequence that they come to has them as its items, so
that a list is never a list of lists. -/
theorem eq_of_ofOccurrences_eq_sequence {nodes items : List Node}
    (hShape : ∀ n ∈ nodes, ∀ items, n ≠ .sequence items)
    (h : ofOccurrences nodes = .sequence items) : nodes = items := by
  unfold ofOccurrences at h
  split at h
  · exact absurd h (hShape _ (.head _) items)
  · exact Node.sequence.inj h

/-- Occurrences of one name have distinct keys as a whole if each of them has. -/
theorem keysDistinct_ofOccurrences {nodes : List Node} (h : ∀ node ∈ nodes, node.KeysDistinct) :
    (ofOccurrences nodes).KeysDistinct := by
  unfold ofOccurrences
  split
  · exact h _ (.head _)
  · exact .sequence h

theorem namedNodes_eq_map (options : Options) (children : List Element) :
    namedNodes options children = children.map fun c => (c.name, c.node options) := by
  induction children with
  | nil => rfl
  | cons c rest ih => rw [namedNodes, ih, List.map_cons]

theorem valuesOf_namedNodes (options : Options) (e : Element) (name : String) :
    valuesOf name (namedNodes options e.children) =
      (e.childrenNamed name).map (Element.node options) := by
  rw [namedNodes_eq_map, valuesOf, childrenNamed, List.filter_map, List.map_map]
  rfl

theorem node_eq_assemble (options : Options) (e : Element) :
    e.node options =
      assemble options e.tag.attributes e.text (namedNodes options e.children) := by
  obtain ⟨tag, texts, children⟩ := e
  rw [node]
  rfl

/-- Whether a data tree keeps more of an element than its text. -/
def hasParts (options : Options) (e : Element) : Prop :=
  e.children ≠ [] ∨ attributeEntries options e.tag.attributes ≠ []

/-- An element without attributes to keep and without children is the text alone, even if that is
empty. -/
theorem node_of_not_hasParts {options : Options} {e : Element} (h : ¬ e.hasParts options) :
    e.node options = .scalar e.text := by
  simp only [hasParts, not_or, ne_eq, not_not] at h
  rw [node_eq_assemble, h.1]
  simp [assemble, h.2, namedNodes]

/-- The entries from which the mapping of an element is made, in the order of their making. -/
theorem node_of_hasParts {options : Options} {e : Element} (h : e.hasParts options) :
    e.node options = .ofEntries (attributeEntries options e.tag.attributes ++
      (collect (namedNodes options e.children)).map
        (fun (name, nodes) => (name, ofOccurrences nodes)) ++
      if e.text.isEmpty then [] else [(options.textKey, .scalar e.text)]) := by
  rw [node_eq_assemble, assemble]
  dsimp only
  rw [if_neg]
  rw [hasParts] at h
  simp only [Bool.and_eq_true, List.isEmpty_iff, namedNodes_eq_map, List.map_eq_nil_iff]
  tauto

/-- An element with attributes to keep or with children is a mapping that has something in it. -/
theorem exists_node_eq_mapping {options : Options} {e : Element} (h : e.hasParts options) :
    ∃ entries, e.node options = .mapping entries ∧ entries ≠ [] := by
  refine ⟨_, node_of_hasParts h, Node.give_ne_nil ?_⟩
  rcases h with hChildren | hAttributes
  · cases hCases : e.children with
    | nil => exact absurd hCases hChildren
    | cons c rest => simp [namedNodes, collect]
  · simp [hAttributes]

/-- What the node of an element has under a key: the text comes before the children of that name
and these come before the attributes. -/
theorem get?_node {options : Options} {e : Element} (h : e.hasParts options) (key : String) :
    (e.node options).get? key =
      if key = options.textKey ∧ e.text ≠ "" then some (.scalar e.text)
      else if e.childrenNamed key = [] then
        (attributeEntries options e.tag.attributes).lookup key
      else some (ofOccurrences ((e.childrenNamed key).map (Element.node options))) := by
  have hChildren : (((collect (namedNodes options e.children)).map
      fun (name, nodes) => (name, ofOccurrences nodes)).reverse.lookup key) =
      if e.childrenNamed key = [] then none
      else some (ofOccurrences ((e.childrenNamed key).map (Element.node options))) := by
    rw [Node.lookup_reverse (by simpa [Function.comp_def] using nodup_keys_collect _),
      Node.lookup_map, lookup_collect, valuesOf_namedNodes]
    by_cases hNone : e.childrenNamed key = [] <;> simp [hNone]
  have hAttributes : (attributeEntries options e.tag.attributes).reverse =
      attributeEntries options e.tag.attributes := by
    unfold attributeEntries
    split
    · rfl
    · split <;> rfl
  -- The last entry of a key counts, so the text stands first once the entries are reversed,
  -- the children follow and the attributes come last.
  rw [node_of_hasParts h, Node.get?_ofEntries, List.reverse_append, List.reverse_append,
    List.lookup_append, List.lookup_append, hChildren, hAttributes]
  by_cases hText : e.text = ""
  · simp only [hText]
    by_cases hNone : e.childrenNamed key = [] <;> simp [hNone]
  · rw [if_neg (by simpa using hText)]
    by_cases hKey : key = options.textKey
    · simp [hKey, hText]
    · by_cases hNone : e.childrenNamed key = [] <;>
        simp [hNone, hKey, lookup_cons_eq_ite]

/-- Whether the text of an element leaves a key to its children. -/
def LeavesKey (options : Options) (e : Element) (name : String) : Prop :=
  name = options.textKey → e.text = ""

/-- The children of a name stand under that name, unless the text does. -/
theorem get?_node_of_childrenNamed {options : Options} {e : Element} {name : String}
    (hText : e.LeavesKey options name) (hNamed : e.childrenNamed name ≠ []) :
    (e.node options).get? name =
      some (ofOccurrences ((e.childrenNamed name).map (Element.node options))) := by
  obtain ⟨c, hChild⟩ := List.exists_mem_of_ne_nil _ hNamed
  have hParts : e.hasParts options := .inl (List.ne_nil_of_mem (mem_childrenNamed.mp hChild).1)
  rw [get?_node hParts, if_neg fun h => h.2 (hText h.1), if_neg hNamed]

/-- The attributes of an element are a mapping with distinct keys, even if a name should come twice
among them. -/
theorem keysDistinct_attributeEntries {options : Options} {attributes : List Attribute}
    {entry : String × Node} (h : entry ∈ attributeEntries options attributes) :
    entry.2.KeysDistinct := by
  unfold attributeEntries at h
  split at h
  · cases h
  · split at h
    · cases h
    · rw [List.mem_singleton.mp h]
      refine Node.keysDistinct_ofEntries fun value hValue => ?_
      obtain ⟨a, -, rfl⟩ := List.mem_map.mp hValue
      exact .scalar _

/-- The attributes take no key but their own. -/
theorem lookup_attributeEntries_eq_none {options : Options} {attributes : List Attribute}
    {name : String} (h : options.attributeKey ≠ some name) :
    (attributeEntries options attributes).lookup name = none := by
  unfold attributeEntries
  split
  · rfl
  · next key hKey =>
    have hNe : name ≠ key := fun hEq => h (hKey.trans (congrArg some hEq.symm))
    split
    · rfl
    · rw [lookup_cons_eq_ite, if_neg hNe]
      rfl

/-- A key that is neither that of the attributes nor that of the text is there if a child has it. -/
theorem get?_node_eq_none_iff {options : Options} {e : Element} {name : String}
    (hText : name ≠ options.textKey) (hAttribute : options.attributeKey ≠ some name) :
    (e.node options).get? name = none ↔ e.childrenNamed name = [] := by
  by_cases hParts : e.hasParts options
  · rw [get?_node hParts, if_neg fun hBoth => hText hBoth.1,
      lookup_attributeEntries_eq_none hAttribute]
    by_cases hNamed : e.childrenNamed name = [] <;> simp [hNamed]
  · have hChildren : e.children = [] := by
      by_contra hSome
      exact hParts (.inl hSome)
    rw [node_of_not_hasParts hParts]
    simp [Node.get?, Node.entries?, childrenNamed, hChildren]

/-- The data of one element are never a sequence. Sequences come of several elements of one name
only. -/
theorem node_ne_sequence (options : Options) (e : Element) (items : List Node) :
    e.node options ≠ .sequence items := by
  by_cases hParts : e.hasParts options
  · rw [node_of_hasParts hParts, Node.ofEntries_eq_give]
    simp
  · rw [node_of_not_hasParts hParts]
    simp

/-- No mapping in the data of an element has a key twice. -/
theorem keysDistinct_node (options : Options) (e : Element) :
    (e.node options).KeysDistinct := by
  induction e with
  | mk tag texts children ih =>
    by_cases hParts : (Element.mk tag texts children).hasParts options
    · rw [node_of_hasParts hParts]
      refine Node.keysDistinct_ofEntries fun entry hEntry => ?_
      rcases List.mem_append.mp hEntry with hEntry | hText
      · rcases List.mem_append.mp hEntry with hAttribute | hChild
        · exact keysDistinct_attributeEntries hAttribute
        · obtain ⟨⟨name, nodes⟩, hGroup, rfl⟩ := List.mem_map.mp hChild
          refine keysDistinct_ofOccurrences fun n hNode => ?_
          rw [eq_valuesOf_of_mem_collect hGroup, valuesOf_namedNodes] at hNode
          obtain ⟨c, hNamed, rfl⟩ := List.mem_map.mp hNode
          exact ih c (mem_childrenNamed.mp hNamed).1
      · split at hText
        · cases hText
        · rw [List.mem_singleton.mp hText]
          exact .scalar _
    · rw [node_of_not_hasParts hParts]
      exact .scalar _

end Element

/-- The attributes of an element as a mapping from their names to their values. -/
def Element.attributesNode (e : Element) : Node :=
  .mapping (e.tag.attributes.map fun a => (a.name, .scalar a.value))

/-- What a data tree keeps of an element: its text in any case, its children of a name unless the
text has taken their key, and its attributes unless the text or children have taken theirs. -/
structure Element.KeptIn (options : Options) (attributeKey : String) (e : Element) (node : Node) :
    Prop where
  text : e.tag.attributes ≠ [] ∨ e.children ≠ [] → e.text ≠ "" →
    node.get? options.textKey = some (.scalar e.text)
  textAlone : e.tag.attributes = [] → e.children = [] → node = .scalar e.text
  child : ∀ name c, e.childrenNamed name = [c] → e.LeavesKey options name →
    node.get? name = some (c.node options)
  children : ∀ name, 2 ≤ (e.childrenNamed name).length → e.LeavesKey options name →
    node.get? name = some (.sequence ((e.childrenNamed name).map (Element.node options)))
  attributes : e.tag.attributes ≠ [] → e.childrenNamed attributeKey = [] →
    e.LeavesKey options attributeKey → node.get? attributeKey = some e.attributesNode

/-- The node of an element whose attributes have distinct names keeps what the element has, so far
as no key is taken twice. -/
theorem Element.keptIn_node {options : Options} {attributeKey : String} {e : Element}
    (hKey : options.attributeKey = some attributeKey)
    (hNames : (e.tag.attributes.map Attribute.name).Nodup) :
    e.KeptIn options attributeKey (e.node options) := by
  have hEntries (h : e.tag.attributes ≠ []) :
      attributeEntries options e.tag.attributes = [(attributeKey, e.attributesNode)] := by
    simp only [attributeEntries, hKey, List.isEmpty_iff, if_neg h, attributesNode]
    rw [Node.ofEntries_of_nodup (by simpa [Function.comp_def] using hNames)]
  have hParts (h : e.tag.attributes ≠ [] ∨ e.children ≠ []) : e.hasParts options :=
    h.elim (fun hAttributes => .inr (by simp [hEntries hAttributes])) .inl
  constructor
  case text =>
    intro hAny hText
    rw [get?_node (hParts hAny), if_pos ⟨rfl, hText⟩]
  case textAlone =>
    intro hAttributes hChildren
    refine node_of_not_hasParts ?_
    simp [hasParts, hChildren, hAttributes, attributeEntries, hKey]
  case child =>
    intro name c hChild hText
    rw [get?_node_of_childrenNamed hText (by simp [hChild]), hChild]
    rfl
  case children =>
    intro name hSeveral hText
    rw [get?_node_of_childrenNamed hText (List.ne_nil_of_length_pos (by omega)),
      ofOccurrences_of_two_le (by simpa using hSeveral)]
  case attributes =>
    intro hAttributes hChildren hText
    rw [get?_node (hParts (.inl hAttributes)), if_neg fun h => h.2 (hText h.1), if_pos hChildren,
      hEntries hAttributes]
    simp

/-- The attributes of every element of a text have distinct names. -/
theorem nodup_names_of_scan {text : String} {mode : AttributeMode} {options : Options}
    {root e : Element} (hRoot : Describes (scan text mode options).events root)
    (hContains : root.Contains e) : (e.tag.attributes.map Attribute.name).Nodup := by
  obtain ⟨content, -, hAttributes⟩ :=
    attributes_of_opening_mem (Element.opening_mem_of_describes hRoot hContains)
  exact Attribute.nodup_names_ofTag hAttributes

/-- A text that becomes a document has one root element, and the tree is its data. -/
theorem Document.root_of_parse {text : String} {options : Options} {d : Document}
    (h : Document.parse text options = .ok d) :
    ∃ root, Describes (scan text .boolean options).events root ∧
      d = ⟨root.name, root.node options⟩ := by
  unfold parse at h
  dsimp only at h
  split at h
  · cases h
  · next hError =>
    obtain ⟨root, hBuilt, hRoot⟩ := describes_of_scan_ok hError
    rw [hBuilt] at h
    exact ⟨root, hRoot, (Except.ok.inj h).symm⟩

/-- A text whose scan ends well is read into the data of the element that is built. -/
theorem Document.parse_of_scan {text : String} {options : Options} {events : List Event}
    {root : Element} (hScan : scan text .boolean options = ⟨events, none⟩)
    (hBuilt : Element.ofEvents? events = some root) :
    Document.parse text options = .ok ⟨root.name, root.node options⟩ := by
  simp only [parse, hScan, hBuilt]

/-- The tree of a document keeps every element of its text. A key that is taken twice in an element
goes to the text before the children and to the children before the attributes, and what would
have stood there is not in the tree. -/
theorem Document.keptIn_of_parse {text attributeKey : String} {options : Options} {d : Document}
    (hKey : options.attributeKey = some attributeKey)
    (hParse : Document.parse text options = .ok d) :
    ∃ root, Describes (scan text .boolean options).events root ∧
      d.tree = .mapping [(root.name, root.node options)] ∧
      ∀ e, root.Contains e → e.KeptIn options attributeKey (e.node options) := by
  obtain ⟨root, hRoot, rfl⟩ := Document.root_of_parse hParse
  exact ⟨root, hRoot, rfl, fun e hContains =>
    Element.keptIn_node hKey (nodup_names_of_scan hRoot hContains)⟩

/-- Attributes, a text in two parts, and children of two names. -/
def mixedText : String := "<r x=\"1\" y=\"2\">a<b>1</b><c/>d<b>2</b></r>"

def mixedEvents : List Event :=
  let b : Event := .opening ⟨"b", [], 1⟩
  [.opening ⟨"r", [⟨"x", "1"⟩, ⟨"y", "2"⟩], 1⟩, .text "a", b, .text "1", .closing,
    .opening ⟨"c", [], 1⟩, .closing, .text "d", b, .text "2", .closing, .closing]

def mixedDocument : Document where
  rootName := "r"
  root := .mapping [(":a", .mapping [("x", .scalar "1"), ("y", .scalar "2")]),
    ("b", .sequence [.scalar "1", .scalar "2"]), ("c", .scalar ""), ("#text", .scalar "a d")]

/-- A text with attributes, two pieces of text and children of two names is read into a tree that
keeps all of them. -/
theorem keptIn_mixed :
    ({} : Options).attributeKey = some ":a" ∧
      Document.parse mixedText {} = .ok mixedDocument ∧
      ∃ root, Describes (scan mixedText .boolean {}).events root ∧
        mixedDocument.tree = .mapping [(root.name, root.node {})] ∧
        ∀ e, root.Contains e → e.KeptIn {} ":a" (e.node {}) := by
  have hScan : scan mixedText .boolean {} = ⟨mixedEvents, none⟩ := by decide +kernel
  have hParse : Document.parse mixedText {} = .ok mixedDocument :=
    Document.parse_of_scan hScan rfl
  exact ⟨rfl, hParse, Document.keptIn_of_parse rfl hParse⟩

/-- A child with the name of the attribute key takes the place of the attributes, which are nowhere
in the tree then. -/
theorem attributes_lost_to_child :
    ∃ root, Describes (scan "<r x=\"1\"><:a>y</:a></r>" .boolean {}).events root ∧
      Document.parse "<r x=\"1\"><:a>y</:a></r>" {} = .ok ⟨"r", root.node {}⟩ ∧
      root.attributesNode = .mapping [("x", .scalar "1")] ∧
      (root.node {}).get? ":a" = some (.scalar "y") := by
  have hScan : scan "<r x=\"1\"><:a>y</:a></r>" .boolean {} =
      ⟨[.opening ⟨"r", [⟨"x", "1"⟩], 1⟩, .opening ⟨":a", [], 1⟩, .text "y", .closing, .closing],
        none⟩ := by decide +kernel
  exact ⟨.mk ⟨"r", [⟨"x", "1"⟩], 1⟩ [] [.mk ⟨":a", [], 1⟩ ["y"] []],
    describes_of_scan hScan rfl, Document.parse_of_scan hScan rfl, rfl, rfl⟩

end MarkupRules.Markup
