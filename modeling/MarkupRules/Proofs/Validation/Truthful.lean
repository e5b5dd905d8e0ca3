import MarkupRules.Proofs.Validation.Elements
import MarkupRules.Proofs.Validation.Report

/-!
What failures say is so.

The path of a failure names a place. What the failure reports is what stands at that place in the
data tree, and the bound that it names is violated by what it reports.
-/
namespace MarkupRules

namespace Validation

open Markup (Node Element Event Describes tagPath)
open Schema (Rule ValueType)

/-- What a failure tells about a place in a tree, and that it is so. -/
inductive Tells (tree : Node) (site : List Step) : Failure → Prop where
  | unknown {node : Node} {path : String} (hNode : follow site tree = some node) :
      Tells tree site (.unknown path)
  | unexpectedSequence {items : List Node} {path : String}
      (hNode : follow site tree = some (.sequence items)) :
      Tells tree site (.unexpectedSequence path)
  | missing {outer : List Step} {key : String} {parent : Node} {path : String}
      (hSite : site = outer ++ [.tag key]) (hParent : follow outer tree = some parent)
      (hAbsent : follow site tree = none) : Tells tree site (.missing path)
  | minOccurs {node : Node} {bound : Json} {path : String} (hNode : follow site tree = some node)
      (hBound : Json.Below (.ofNat (occurrences node)) bound) :
      Tells tree site (.constraint "minOccurs" path (.ofNat (occurrences node)) bound)
  | maxOccurs {node : Node} {bound : Json} {path : String} (hNode : follow site tree = some node)
      (hBound : Json.Below bound (.ofNat (occurrences node))) :
      Tells tree site (.constraint "maxOccurs" path (.ofNat (occurrences node)) bound)
  | unexpectedValueInMap {text path : String} (hNode : follow site tree = some (.scalar text)) :
      Tells tree site (.unexpectedValueInMap path text)
  | notA {type : ValueType} {text path : String} (hNode : follow site tree = some (.scalar text)) :
      Tells tree site (.notA type.name path text)
  | text {text code path : String} {bound : Json} (hNode : follow site tree = some (.scalar text))
      (hBound : TurnedDown text code bound) :
      Tells tree site (.constraint code path (.string text) bound)
  | min {text path : String} {x : Number.Double} {bound : Json}
      (hNode : follow site tree = some (.scalar text)) (hRead : Number.read? text = some x)
      (hBound : Json.Below (.ofDouble x) bound) :
      Tells tree site (.constraint "min" path (.ofDouble x) bound)
  | max {text path : String} {x : Number.Double} {bound : Json}
      (hNode : follow site tree = some (.scalar text)) (hRead : Number.read? text = some x)
      (hBound : Json.Below bound (.ofDouble x)) :
      Tells tree site (.constraint "max" path (.ofDouble x) bound)

/-- A failure tells the truth about the one place that its path names: without the indices, the path
is that of a rule just if the failure is not that its tag is unknown. -/
structure Truthful (model : Schema.Model) (tree : Node) (f : Failure) (site : List Step) :
    Prop where
  plain : PlainSite site
  path_eq : f.path = sitePath "" site
  unique : ∀ other, PlainSite other → f.path = sitePath "" other → other = site
  declared_iff : tagPath (tagsOf site) ∈ model.walk.map Prod.fst ↔ f.code ≠ "unknown"
  tells : Tells tree site f

/-- A model and a tree in which places are told apart by their paths. -/
structure Legible (model : Schema.Model) (tree : List (String × Node)) : Prop where
  root : model.root.WellFormed
  names : PlainNames model.top
  distinct : (Node.mapping tree).KeysDistinct
  keys : (Node.mapping tree).KeysAll PlainName

namespace Legible

variable {model : Schema.Model} {tree : List (String × Node)} {s : Setting} {site : List Step}
  {w : Visit} {f : Failure}

/-- In a legible setting the path of a plain place names it alone, and its tag is declared just if
its path is walked. What is left to show is what the failure says. -/
theorem truthful (h : Legible model tree) (hPlain : PlainSite site) (hSite : site ≠ [])
    (hPath : f.path = sitePath "" site)
    (hDeclared : (∃ r, descend? model.top (tagsOf site) = some r) ↔ f.code ≠ "unknown")
    (hTells : Tells (.mapping tree) site f) : Truthful model (.mapping tree) f site := by
  constructor
  case plain => exact hPlain
  case path_eq => exact hPath
  case unique =>
    intro other hOther hOtherPath
    exact sitePath_inj_of_plain hOther hPlain (hOtherPath.symm.trans hPath)
  case declared_iff =>
    have hTags : tagsOf site ≠ [] := by
      cases site with
      | nil => exact absurd rfl hSite
      | cons step rest =>
        cases step with
        | tag name => exact List.cons_ne_nil _ _
        | item index => exact absurd rfl (hPlain.head index)
    have hNames : ∀ name ∈ tagsOf site, PlainName name := by
      intro name hMem
      obtain ⟨step, hStep, hName⟩ := List.mem_filterMap.mp hMem
      cases step with
      | tag name' =>
        obtain rfl : name' = name := Option.some.inj hName
        exact hPlain.names _ hStep
      | item index => cases hName
    exact (tagPath_mem_paths_iff h.root h.names hTags hNames).trans hDeclared
  case tells => exact hTells

/-- A failure with the path of a visit, which a rule leads to. The visit's own place is the one that
it names. -/
theorem truthful_here (h : Legible model tree)
    (hReached : Reached (.start (.mapping tree) model) site w) (hSite : site ≠ [])
    (hPath : f.path = w.path) (hCode : f.code ≠ "unknown")
    (hTells : Tells (.mapping tree) site f) : Truthful model (.mapping tree) f site := by
  refine h.truthful (h.names.plainSite hReached) hSite (hPath.trans hReached.path_eq) ?_ hTells
  exact iff_of_true ⟨w.rule, hReached.descend?_eq⟩ hCode

/-- A failure with the path of a key below a visit. The key may be missing or undeclared, so nothing
need be visited there. -/
theorem truthful_below (h : Legible model tree)
    (hReached : Reached (.start (.mapping tree) model) site w) {key : String}
    (hKey : PlainName key) (hPath : f.path = keyPath w.path key)
    (hCode : (∃ r, w.rule.child? key = some r) ↔ f.code ≠ "unknown")
    (hTells : Tells (.mapping tree) (site ++ [.tag key]) f) :
    Truthful model (.mapping tree) f (site ++ [.tag key]) := by
  have hPlain : PlainSite (site ++ [.tag key]) := by
    refine (h.names.plainSite hReached).snoc (fun name hName => ?_) (by simp)
    rwa [← Step.tag.inj hName]
  refine h.truthful hPlain (by simp) ?_ ?_ hTells
  · rw [hPath, hReached.path_eq, sitePath_snoc]
    rfl
  · have hTags : tagsOf (site ++ [.tag key]) = tagsOf site ++ [key] := by
      simp [tagsOf, Step.name?]
    have hRule : descend? model.top (tagsOf site) = some w.rule := hReached.descend?_eq
    rw [hTags, descend?_snoc, hRule]
    exact hCode

/-- Only the visit of the whole tree has no steps to it, and it is neither a text nor a sequence,
nor may it repeat. -/
theorem site_ne_nil (hReached : Reached (.start (.mapping tree) model) site w)
    (hOther : (∀ entries, w.node ≠ .mapping entries) ∨ w.rule.isRepeatable = true) :
    site ≠ [] := by
  rintro rfl
  cases hReached with
  | here =>
    rcases hOther with hNode | hRule
    · exact hNode tree rfl
    · cases hRule

theorem follow_eq (h : Legible model tree)
    (hReached : Reached (.start (.mapping tree) model) site w) :
    follow site (.mapping tree) = some w.node := hReached.follow_eq h.distinct

/-- A failure of a bound counts the occurrences at the place of its visit. -/
theorem of_mem_boundFailures (h : Legible model tree)
    (hReached : Reached (.start (.mapping tree) model) site w) (hMem : f ∈ w.boundFailures) :
    Truthful model (.mapping tree) f site := by
  unfold Visit.boundFailures at hMem
  split at hMem
  · next n hCount =>
    obtain ⟨rfl, hRepeatable⟩ := Visit.eq_of_count? hCount
    have hSite := site_ne_nil hReached (.inr hRepeatable)
    have hNode := h.follow_eq hReached
    rcases exists_of_mem_occurrenceFailures hMem with ⟨m, hFew, rfl⟩ | ⟨m, hMany, rfl⟩
    · have hCode : "minOccurs" ≠ "unknown" := by decide
      exact h.truthful_here hReached hSite rfl hCode (.minOccurs hNode (Json.below_ofNat.mpr hFew))
    · have hCode : "maxOccurs" ≠ "unknown" := by decide
      exact h.truthful_here hReached hSite rfl hCode (.maxOccurs hNode (Json.below_ofNat.mpr hMany))
  · cases hMem

/-- A failure for a missing tag names the place of that tag, below that of its visit. -/
theorem of_mem_missingFailures (h : Legible model tree)
    (hReached : Reached (.start (.mapping tree) model) site w)
    (hMem : f ∈ missingFailures w.rule w.absentTags w.path) :
    ∃ place, Truthful model (.mapping tree) f place := by
  obtain ⟨key, child, hAbsent, hChild, rfl⟩ := eq_of_mem_missingFailures hMem
  have hRule : PlainNames w.rule := (PlainNames.of_reached hReached h.names).1
  have hNode := h.follow_eq hReached
  have hNowhere : follow (site ++ [.tag key]) (.mapping tree) = none := by
    rw [follow_snoc, hNode]
    exact Visit.stepNode?_of_mem_absentTags hAbsent
  have hCode : "missing" ≠ "unknown" := by decide
  exact ⟨site ++ [.tag key], h.truthful_below hReached (hRule.child hChild).1 rfl
    (iff_of_true ⟨child, hChild⟩ hCode) (.missing rfl hNode hNowhere)⟩

/-- A failure for an undeclared key names the place of that key, to which no rule leads. -/
theorem of_mem_unknown (h : Legible model tree)
    (hReached : Reached (.start (.mapping tree) model) site w) {entries : List (String × Node)}
    (hNode : w.node = .mapping entries) {key : String} (hKey : key ∈ entries.map Prod.fst)
    (hRule : key ∉ w.rule.children.map Prod.fst) :
    Truthful model (.mapping tree) (.unknown (keyPath w.path key)) (site ++ [.tag key]) := by
  have hKeys := hReached.keysAll h.keys
  rw [hNode] at hKeys
  have hPlain : PlainName key := by
    cases hKeys with
    | mapping hKeys _ =>
      obtain ⟨e, hEntry, rfl⟩ := List.mem_map.mp hKey
      exact hKeys e hEntry
  have hChild : w.rule.child? key = none := child?_eq_none_iff.mpr hRule
  have hThere : ∃ node, follow (site ++ [.tag key]) (.mapping tree) = some node := by
    rw [follow_snoc, h.follow_eq hReached, hNode]
    refine Option.ne_none_iff_exists'.mp fun hNone => ?_
    exact Markup.Node.lookup_eq_none_iff.mp hNone hKey
  obtain ⟨node, hThere⟩ := hThere
  have hCode : ¬ "unknown" ≠ "unknown" := not_not_intro rfl
  exact h.truthful_below hReached hPlain rfl (iff_of_false (by simp [hChild]) hCode)
    (.unknown hThere)

/-- A failure of a text says something about the text at the place of its visit. -/
theorem of_mem_textFailures (h : Legible model tree)
    (hReached : Reached (.start (.mapping tree) model) site w) {text : String}
    (hNode : w.node = .scalar text) (hType : w.rule.type ≠ .map)
    (hMem : f ∈ textFailures s w.rule text w.path) : Truthful model (.mapping tree) f site := by
  have hSite : site ≠ [] := site_ne_nil hReached (.inl (by simp [hNode]))
  have hThere := hNode ▸ h.follow_eq hReached
  have hNotA (type : ValueType) :
      Truthful model (.mapping tree) (.notA type.name w.path text) site := by
    have hCode : s!"not a {type.name}" ≠ "unknown" := by cases type <;> decide
    exact h.truthful_here hReached hSite rfl hCode (.notA hThere)
  unfold textFailures at hMem
  split at hMem
  · next hMap => exact absurd hMap hType
  · split at hMem
    · cases hMem
    · rw [List.mem_singleton.mp hMem]
      exact hNotA .date
  · split at hMem
    · cases hMem
    · rw [List.mem_singleton.mp hMem]
      exact hNotA .boolean
  · obtain ⟨code, bound, hBound, rfl⟩ := turnedDown_of_mem_stringFailures hMem
    have hCode : code ≠ "unknown" := by cases hBound <;> decide
    exact h.truthful_here hReached hSite rfl hCode (.text hThere hBound)
  · split at hMem
    · next x hFits =>
      have hRead := (Option.filter_eq_some_iff.mp hFits).1
      simp only [numberFailures, List.mem_append, mem_violation] at hMem
      rcases hMem with ⟨bound, -, hHolds, rfl⟩ | ⟨bound, -, hHolds, rfl⟩
      · have hCode : "min" ≠ "unknown" := by decide
        have hBelow : x.signedSteps < bound.signedSteps := by
          simpa [Predicate.min, Number.Double.le] using hHolds
        exact h.truthful_here hReached hSite rfl hCode
          (.min hThere hRead (Json.below_ofDouble.mpr hBelow))
      · have hCode : "max" ≠ "unknown" := by decide
        have hBelow : bound.signedSteps < x.signedSteps := by
          simpa [Predicate.max, Number.Double.le] using hHolds
        exact h.truthful_here hReached hSite rfl hCode
          (.max hThere hRead (Json.below_ofDouble.mpr hBelow))
    · rw [List.mem_singleton.mp hMem]
      exact hNotA w.rule.type

/-- So every failure of a node tells the truth, about its own place or about that of a key. -/
theorem of_mem_nodeFailures (h : Legible model tree)
    (hReached : Reached (.start (.mapping tree) model) site w) (hMem : f ∈ w.nodeFailures s) :
    ∃ place, Truthful model (.mapping tree) f place := by
  unfold Visit.nodeFailures at hMem
  split at hMem
  · next items hNode =>
    split at hMem
    · cases hMem
    · rw [List.mem_singleton.mp hMem]
      have hSite : site ≠ [] := site_ne_nil hReached (.inl (by simp [hNode]))
      have hCode : "unexpected sequence" ≠ "unknown" := by decide
      have hThere := hNode ▸ h.follow_eq hReached
      exact ⟨site, h.truthful_here hReached hSite rfl hCode (.unexpectedSequence hThere)⟩
  · next entries hNode =>
    split at hMem
    · cases hMem
    · obtain ⟨key, hData, rfl⟩ := List.mem_map.mp hMem
      obtain ⟨hKey, hRule⟩ := List.mem_filter.mp hData
      exact ⟨site ++ [.tag key], h.of_mem_unknown hReached hNode hKey (by simpa using hRule)⟩
  · next text hNode =>
    split at hMem
    · split at hMem
      · cases hMem
      · rw [List.mem_singleton.mp hMem]
        have hSite : site ≠ [] := site_ne_nil hReached (.inl (by simp [hNode]))
        have hCode : "unexpected value in a map" ≠ "unknown" := by decide
        have hThere := hNode ▸ h.follow_eq hReached
        exact ⟨site, h.truthful_here hReached hSite rfl hCode (.unexpectedValueInMap hThere)⟩
    · next hType => exact ⟨site, h.of_mem_textFailures hReached hNode hType hMem⟩

/-- Every failure of a visit tells the truth, that of a custom check set aside. What a check says is
up to the check. -/
theorem of_mem_ownFailures (h : Legible model tree)
    (hReached : Reached (.start (.mapping tree) model) site w) (hMem : f ∈ w.ownFailures s) :
    ∃ place, Truthful model (.mapping tree) f place := by
  rcases List.mem_append.mp hMem with hFirst | hMissing
  · rcases List.mem_append.mp hFirst with hBound | hNode
    · exact ⟨site, h.of_mem_boundFailures hReached hBound⟩
    · exact h.of_mem_nodeFailures hReached hNode
  · exact h.of_mem_missingFailures hReached hMissing

end Legible

/-- Tags and attributes have plain names. -/
def PlainTags (events : List Event) : Prop :=
  ∀ tag ∈ events.filterMap Event.openTag?,
    PlainName tag.name ∧ ∀ a ∈ tag.attributes, PlainName a.name

theorem plainName_iff {name : String} :
    PlainName name ↔ (name != "" && name.toList.all fun c => c != '.' && c != '[') = true := by
  simp only [Bool.and_eq_true, bne_iff_ne, List.all_eq_true]
  constructor
  · rintro ⟨hSome, hOther⟩
    exact ⟨hSome, fun c hMem => ⟨fun hPoint => hOther c hMem (.inl hPoint),
      fun hBracket => hOther c hMem (.inr hBracket)⟩⟩
  · rintro ⟨hSome, hOther⟩
    refine ⟨hSome, fun c hMem hSeparator => ?_⟩
    rcases hSeparator with hPoint | hBracket
    · exact (hOther c hMem).1 hPoint
    · exact (hOther c hMem).2 hBracket

instance : DecidablePred PlainName := fun _ => decidable_of_iff _ plainName_iff.symm

instance (events : List Event) : Decidable (PlainTags events) :=
  inferInstanceAs (Decidable (∀ tag ∈ events.filterMap Event.openTag?,
    PlainName tag.name ∧ ∀ a ∈ tag.attributes, PlainName a.name))

/-- Plain names in the events are plain names of all elements, and of their attributes. -/
theorem PlainTags.of_contains {events : List Event} {e x : Element} (h : PlainTags events)
    (hDescribes : Describes events e) (hContains : e.Contains x) :
    PlainName x.name ∧ ∀ a ∈ x.tag.attributes, PlainName a.name :=
  h x.tag (List.mem_filterMap.mpr
    ⟨_, Element.opening_mem_of_describes hDescribes hContains, rfl⟩)

/-- A rule that mirrors elements with plain names has plain names, as have all rules inside it. -/
theorem plainNames_of_mirrors {path : String} {e : Element} {r : Rule}
    (h : Schema.Mirrors path e r) (hNames : ∀ x, e.Contains x → PlainName x.name) :
    PlainNames r := by
  induction h with
  | @mk path tag texts children type constraints rules _ _ _ hSame _ _ ih =>
    have hPairs := Schema.forall₂_of_names_eq hSame ih
    have hInside (x : Element) (hChild : x ∈ children) (y : Element) (hBelow : x.Contains y) :
        PlainName y.name := hNames y (.child hChild hBelow)
    constructor
    case hNames =>
      intro c hMem
      obtain ⟨x, hChild, hName, -⟩ := Schema.exists_of_mem_forall₂ hPairs hMem
      rw [hName]
      exact hInside x hChild x (.self x)
    case hChildren =>
      intro c hMem
      obtain ⟨x, hChild, -, hBelow⟩ := Schema.exists_of_mem_forall₂ hPairs hMem
      exact hBelow (hInside x hChild)

/-- Plain names in a schema and in a document make the places of the failures legible. The keys of
texts and of attributes have to be plain as well. -/
theorem legible_of_plainTags {schema document : String} {schemaOptions options : Markup.Options}
    {model : Schema.Model} {d : Markup.Document}
    (hCompile : Schema.Model.compile schema schemaOptions = .ok model)
    (hParse : Markup.Document.parse document options = .ok d)
    (hSchema : PlainTags (Markup.scan schema .boolean schemaOptions).events)
    (hDocument : PlainTags (Markup.scan document .boolean options).events)
    (hText : PlainName options.textKey)
    (hAttribute : ∀ key, options.attributeKey = some key → PlainName key) :
    Legible model [(d.rootName, d.root)] := by
  obtain ⟨root, hRoot, rfl⟩ := Markup.Document.root_of_parse hParse
  obtain ⟨-, e, r, hSchemaRoot, hMirrors, rfl⟩ := Schema.compile_eq_ok_iff.mp hCompile
  have hSchemaNames (x : Element) (hContains : e.Contains x) : PlainName x.name :=
    (hSchema.of_contains hSchemaRoot hContains).1
  have hDocumentNames (x : Element) (hContains : root.Contains x) :=
    hDocument.of_contains hRoot hContains
  constructor
  case root => exact Schema.wellFormed_of_compile hCompile
  case names =>
    exact .mk (by simpa [Schema.modelOf] using hSchemaNames e (.self e))
      (by simpa [Schema.modelOf] using plainNames_of_mirrors hMirrors hSchemaNames)
  case distinct => exact .mapping (by simp) (by simpa using Element.keysDistinct_node options root)
  case keys =>
    exact .mapping (by simpa using (hDocumentNames root (.self root)).1)
      (by simpa using Element.keysAll_node hText hAttribute hDocumentNames)

end Validation

open Validation
open Markup (Element)

/-- Custom checks aside, every failure of a document under a compiled schema tells the truth about
the place that its path names, where tags and attributes have plain names. -/
theorem Validator.truthful_of_validate {schema document : String} {schemaOptions : Markup.Options}
    {v : Validator} {failures : List Failure}
    (hCompile : Schema.Model.compile schema schemaOptions = .ok v.model)
    (hAttributeKey : v.configuration.markup.attributeKey = some ":a")
    (hTextKey : v.configuration.markup.textKey = "#text")
    (hSchema : PlainTags (Markup.scan schema .boolean schemaOptions).events)
    (hDocument : PlainTags (Markup.scan document .boolean v.configuration.markup).events)
    (hValidate : v.validate document = .ok failures) :
    ∃ d, Markup.Document.parse document v.configuration.markup = .ok d ∧
      failures = (Visit.start d.tree v.model).all.flatMap (fun w =>
        w.ownFailures v.setting ++ w.customFailures v.setting) ∧
      ∀ w ∈ (Visit.start d.tree v.model).all, ∀ f ∈ w.ownFailures v.setting,
        ∃ site, Truthful v.model d.tree f site := by
  obtain ⟨d, hParse, hFailures⟩ := Validator.validate_eq_ok hValidate
  have hText : PlainName v.configuration.markup.textKey := by
    rw [hTextKey]
    decide
  have hAttribute (key : String) (hKey : v.configuration.markup.attributeKey = some key) :
      PlainName key := by
    rw [hAttributeKey] at hKey
    rw [← Option.some.inj hKey]
    decide
  have hLegible := legible_of_plainTags hCompile hParse hSchema hDocument hText hAttribute
  refine ⟨d, hParse, ?_, ?_⟩
  · rw [hFailures]
    congr 1
    funext w
    exact w.failures_eq_append v.setting
  · intro w hVisit f hMem
    obtain ⟨⟨site, _⟩, hSited, rfl⟩ := List.mem_map.mp hVisit
    exact hLegible.of_mem_ownFailures (Visit.mem_sited.mp hSited) hMem

/-- One tag that repeats, one with a short text and one that has to be there. -/
def guestsSchema : String :=
  "<r><a repeatable=\"\" minOccurs=\"3\"/><b maxLength=\"2\"/><c nillable=\"false\"/></r>"

def guestsModel : Schema.Model where
  rootName := "r"
  root := .mk .map {} [("a", .mk .string { repeatable := true, minOccurs := some 3 } []),
    ("b", .mk .string { maxLength := some 2 } []), ("c", .mk .string { nillable := some false } [])]
  checks := []
  size := 4

def guestsText : String := "<r><a>1</a><a>2</a><b>xyz</b><d k=\"v\"/></r>"

def guestsRoot : Element :=
  .mk ⟨"r", [], 1⟩ [] [.mk ⟨"a", [], 1⟩ ["1"] [], .mk ⟨"a", [], 1⟩ ["2"] [],
    .mk ⟨"b", [], 1⟩ ["xyz"] [], .mk ⟨"d", [⟨"k", "v"⟩], 1⟩ [] []]

def guestsFailures : List Failure :=
  [.unknown "r.d", .missing "r.c", .constraint "minOccurs" "r.a" (.ofNat 2) (.ofNat 3),
    .constraint "maxLength" "r.b" (.string "xyz") (.ofNat 2)]

def guestsValidator : Validator := ⟨guestsModel, { unknownAllow := false }, {}⟩

/-- The four failures are of four kinds. Each of them names a place of its own, and tells the truth
about it. -/
theorem Validator.guests_truthful :
    Schema.Model.compile guestsSchema {} = .ok guestsModel ∧
      PlainTags (Markup.scan guestsSchema .boolean {}).events ∧
      PlainTags (Markup.scan guestsText .boolean {}).events ∧
      guestsValidator.validate guestsText = .ok guestsFailures ∧
      ∀ f ∈ guestsFailures, ∃ site,
        Truthful guestsModel (.mapping [("r", guestsRoot.node {})]) f site := by
  have hSchema : Markup.scan guestsSchema .boolean {} = ⟨[.opening ⟨"r", [], 1⟩,
      .opening ⟨"a", [⟨"repeatable", ""⟩, ⟨"minOccurs", "3"⟩], 1⟩, .closing,
      .opening ⟨"b", [⟨"maxLength", "2"⟩], 1⟩, .closing,
      .opening ⟨"c", [⟨"nillable", "false"⟩], 1⟩, .closing, .closing], none⟩ := by decide +kernel
  have hScan : Markup.scan guestsText .boolean {} = ⟨[.opening ⟨"r", [], 1⟩,
      .opening ⟨"a", [], 1⟩, .text "1", .closing, .opening ⟨"a", [], 1⟩, .text "2", .closing,
      .opening ⟨"b", [], 1⟩, .text "xyz", .closing, .opening ⟨"d", [⟨"k", "v"⟩], 1⟩, .closing,
      .closing], none⟩ := by decide +kernel
  have hCompile : Schema.Model.compile guestsSchema {} = .ok guestsModel := by
    rw [Schema.Model.compile, hSchema]
    rfl
  have hPlainSchema : PlainTags (Markup.scan guestsSchema .boolean {}).events := by
    rw [hSchema]
    decide
  have hPlainText : PlainTags (Markup.scan guestsText .boolean {}).events := by
    rw [hScan]
    decide
  have hParse := Markup.Document.parse_of_scan hScan (rfl : _ = some guestsRoot)
  have hValidate : guestsValidator.validate guestsText = .ok guestsFailures := by
    have hTree : Markup.Document.parse guestsText guestsValidator.configuration.markup = .ok _ :=
      hParse
    rw [validate, hTree]
    dsimp only
    rw [validateNode, traverse_of_covers rfl]
    rfl
  have hCustom (w : Visit) : w.customFailures guestsValidator.setting = [] := by
    unfold Visit.customFailures
    split
    · rfl
    · unfold checkFailures
      cases w.rule.constraints.checkBy <;> rfl
  obtain ⟨d, hParse', hFailures, hTruthful⟩ :=
    truthful_of_validate (v := guestsValidator) hCompile rfl rfl hPlainSchema hPlainText hValidate
  obtain rfl := Except.ok.inj (hParse.symm.trans hParse')
  refine ⟨hCompile, hPlainSchema, hPlainText, hValidate, fun f hMem => ?_⟩
  rw [hFailures] at hMem
  obtain ⟨w, hVisit, hFailure⟩ := List.mem_flatMap.mp hMem
  rw [hCustom, List.append_nil] at hFailure
  exact hTruthful w hVisit f hFailure

end MarkupRules
