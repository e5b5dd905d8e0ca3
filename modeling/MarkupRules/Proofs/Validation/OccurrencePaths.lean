import MarkupRules.Proofs.Validation.Occurrences

/-!
How often a tag comes, from the text of a document to its failures.

What is counted at places is counted by paths as well where the tags of the schema have
plain names. With a point in a name two places may share a path, and then the failures of
both have it.
-/
namespace MarkupRules

open Markup (Node Element Describes)
open Schema (Rule)

namespace Validation

/-- The same for failures without their places, told apart by their paths. -/
structure CountedByPath (failures : List Failure) (path : String) (r : Rule) (n : Nat) : Prop where
  missing : failures.filter (fun f => f.code = "missing" ∧ f.path = path) =
    if n = 0 ∧ r.isRequired = true then [.missing path] else []
  minOccurs : failures.filter (fun f => f.code = "minOccurs" ∧ f.path = path) =
    (r.constraints.minOccurs.filter fun m => 1 ≤ n ∧ n < m).toList.map fun m =>
      .constraint "minOccurs" path (.ofNat n) (.ofNat m)
  maxOccurs : failures.filter (fun f => f.code = "maxOccurs" ∧ f.path = path) =
    (r.constraints.maxOccurs.filter fun m => 1 ≤ n ∧ m < n).toList.map fun m =>
      .constraint "maxOccurs" path (.ofNat n) (.ofNat m)
  items : ∀ index, ∀ f ∈ failures, f.path = itemPath path index →
    f.code ≠ "minOccurs" ∧ f.code ≠ "maxOccurs"

/-- Without their places the raised failures are those that the visits have of their own. -/
theorem map_snd_raised (s : Setting) (v : Visit) :
    (raised s v.sited).map Prod.snd = v.all.flatMap (Visit.ownFailures s) := by
  simp [raised, Visit.all, List.map_flatMap, List.flatMap_map, Function.comp_def]

/-- What is picked out by the failures alone can be picked out with their places, if the two tests
agree on all that is there. -/
theorem filter_map_snd {raised : List (List Step × Failure)} {p : List Step × Failure → Prop}
    {q : Failure → Prop} [DecidablePred p] [DecidablePred q] (h : ∀ f ∈ raised, q f.2 ↔ p f) :
    (raised.map Prod.snd).filter (fun f => q f) = (raised.filter fun f => p f).map Prod.snd := by
  rw [List.filter_map]
  congr 1
  exact List.filter_congr fun f hMem => by simp [h f hMem]

section Plain

variable {s : Setting} {entries : List (String × Node)} {model : Schema.Model} {site : List Step}
  {f : Failure}

/-- A failure that says that a tag is missing has the path of that tag. The tag itself is no place
that is visited. -/
theorem exists_path_of_missing (hNames : PlainNames model.top)
    (h : (site, f) ∈ raised s (Visit.start (.mapping entries) model).sited)
    (hCode : f.code = "missing") :
    ∃ key, f.path = sitePath "" (site ++ [.tag key]) ∧ PlainSite (site ++ [.tag key]) := by
  obtain ⟨w, hVisit, hFailure⟩ := mem_raised.mp h
  have hReached := Visit.mem_sited.mp hVisit
  rcases List.mem_append.mp hFailure with hFailure | hMissing
  · rcases List.mem_append.mp hFailure with hBound | hNode
    · rcases (Visit.eq_of_mem_boundFailures hBound).1 with hBound | hBound <;>
        simp [hBound] at hCode
    · exact absurd (.inl hCode) (Visit.not_isCountCode_of_mem_nodeFailures hNode)
  · obtain ⟨key, child, -, hChild, rfl⟩ := eq_of_mem_missingFailures hMissing
    have hKey := ((PlainNames.of_reached hReached hNames).1.child hChild).1
    refine ⟨key, ?_, (hNames.plainSite hReached).snoc (by simpa using hKey) (by simp)⟩
    have hPath : w.path = sitePath "" site := hReached.path_eq
    rw [sitePath_snoc, ← hPath]
    rfl

/-- A failure of a bound has the path of its place. No name has to be plain for that. -/
theorem path_of_bound (h : (site, f) ∈ raised s (Visit.start (.mapping entries) model).sited)
    (hCode : f.code = "minOccurs" ∨ f.code = "maxOccurs") : f.path = sitePath "" site := by
  obtain ⟨w, hVisit, hFailure⟩ := mem_raised.mp h
  have hReached := Visit.mem_sited.mp hVisit
  rcases List.mem_append.mp hFailure with hFailure | hMissing
  · rcases List.mem_append.mp hFailure with hBound | hNode
    · rw [(Visit.eq_of_mem_boundFailures hBound).2]
      exact hReached.path_eq
    · exact absurd (.inr hCode) (Visit.not_isCountCode_of_mem_nodeFailures hNode)
  · obtain ⟨key, _, -, -, rfl⟩ := eq_of_mem_missingFailures hMissing
    simp [Failure.missing] at hCode

/-- Where tags have plain names, failures are raised at plain places only. -/
theorem plainSite_of_mem_raised (hNames : PlainNames model.top)
    (h : (site, f) ∈ raised s (Visit.start (.mapping entries) model).sited) : PlainSite site := by
  obtain ⟨w, hVisit, -⟩ := mem_raised.mp h
  exact hNames.plainSite (Visit.mem_sited.mp hVisit)

/-- Where tags have plain names, a failure of a bound with the path of a plain place is raised there
and at no other place. -/
theorem bound_iff {place : List Step} (hNames : PlainNames model.top) (hPlace : PlainSite place)
    {code : String} (hCode : code = "minOccurs" ∨ code = "maxOccurs")
    (h : (site, f) ∈ raised s (Visit.start (.mapping entries) model).sited) :
    f.code = code ∧ f.path = sitePath "" place ↔ site = place ∧ f.code = code := by
  constructor
  · rintro ⟨rfl, hPath⟩
    rw [path_of_bound h hCode] at hPath
    exact ⟨sitePath_inj_of_plain (plainSite_of_mem_raised hNames h) hPlace hPath, rfl⟩
  · rintro ⟨rfl, rfl⟩
    exact ⟨rfl, path_of_bound h hCode⟩

/-- Likewise a failure for a missing tag is raised at the element that lacks it, and its path tells
both the element and the tag. -/
theorem missing_iff {name : String} (hNames : PlainNames model.top)
    (hPlace : PlainSite (site ++ [.tag name])) {site' : List Step}
    (h : (site', f) ∈ raised s (Visit.start (.mapping entries) model).sited) :
    f.code = "missing" ∧ f.path = sitePath "" (site ++ [.tag name]) ↔
      site' = site ∧ f.code = "missing" ∧ f.path = sitePath "" (site ++ [.tag name]) := by
  refine ⟨fun hBoth => ⟨?_, hBoth⟩, And.right⟩
  obtain ⟨key, hPath, hKey⟩ := exists_path_of_missing hNames h hBoth.1
  have hEq := sitePath_inj_of_plain hKey hPlace (hPath.symm.trans hBoth.2)
  exact (List.append_inj' hEq rfl).1

/-- Where tags have plain names, what is counted at places is counted by paths. -/
theorem countedByPath_of_counted {name : String} {r : Rule} {n : Nat}
    (hNames : PlainNames model.top) (hPlace : PlainSite (site ++ [.tag name]))
    (h : Counted (raised s (Visit.start (.mapping entries) model).sited) site name r n) :
    CountedByPath ((Visit.start (.mapping entries) model).all.flatMap (Visit.ownFailures s))
      (sitePath "" (site ++ [.tag name])) r n := by
  rw [← map_snd_raised]
  constructor
  case missing =>
    rw [filter_map_snd fun f hMem => missing_iff hNames hPlace hMem, h.missing]
    split <;> rfl
  case minOccurs =>
    rw [filter_map_snd fun f hMem => bound_iff hNames hPlace (.inl rfl) hMem, h.minOccurs]
    simp [Function.comp_def]
  case maxOccurs =>
    rw [filter_map_snd fun f hMem => bound_iff hNames hPlace (.inr rfl) hMem, h.maxOccurs]
    simp [Function.comp_def]
  case items =>
    intro index f hMem hPath
    obtain ⟨⟨site', f⟩, hRaised, rfl⟩ := List.mem_map.mp hMem
    have hItem : PlainSite (site ++ [.tag name] ++ [.item index]) :=
      hPlace.snoc (by simp) (by simp)
    have hItemPath : f.path = sitePath "" (site ++ [.tag name] ++ [.item index]) :=
      hPath.trans (sitePath_snoc _ (.item index)).symm
    by_contra hBound
    have hCode : f.code = "minOccurs" ∨ f.code = "maxOccurs" := by tauto
    obtain ⟨rfl, -⟩ := (bound_iff hNames hItem hCode hRaised).mp ⟨rfl, hItemPath⟩
    rw [List.append_assoc] at hRaised
    exact hBound (h.items index f hRaised)

end Plain

end Validation

open Validation

/-- Occurrences are counted right from the text of a document to its failures. Custom checks aside,
an element that declared tags lead to has, for each repeatable tag that its rule declares, the
failures that the number of its children of that name asks for and no others: told apart by the
places at which they are raised, and by their paths alone where the tags of the schema have plain
names. -/
theorem Validator.occurrences_counted {schema document : String}
    {schemaOptions : Markup.Options} {v : Validator} {d : Markup.Document}
    (hCompile : Schema.Model.compile schema schemaOptions = .ok v.model)
    (hCovers : v.registry.ensureCovers v.model = .ok ())
    (hParse : Markup.Document.parse document v.configuration.markup = .ok d) :
    ∃ root, Describes (Markup.scan document .boolean v.configuration.markup).events root ∧
      d.tree = .mapping [(root.name, root.node v.configuration.markup)] ∧
      v.validate document = .ok ((Visit.start d.tree v.model).all.flatMap fun w =>
        w.ownFailures v.setting ++ w.customFailures v.setting) ∧
      ∀ e rule site name r, root.name = v.model.rootName →
        (∀ x, root.Contains x → x.name ≠ v.configuration.markup.textKey) →
        Leads (fun _ _ => True) root v.model.root site e rule →
        rule.child? name = some r → r.isRepeatable = true →
        name ≠ v.configuration.markup.textKey →
        v.configuration.markup.attributeKey ≠ some name →
        Counted (raised v.setting (Visit.start d.tree v.model).sited) (.tag root.name :: site)
            name r (e.childrenNamed name).length ∧
          (PlainNames v.model.top →
            CountedByPath ((Visit.start d.tree v.model).all.flatMap (Visit.ownFailures v.setting))
              (sitePath root.name (site ++ [.tag name])) r (e.childrenNamed name).length) := by
  obtain ⟨root, hDescribes, rfl⟩ := Markup.Document.root_of_parse hParse
  refine ⟨root, hDescribes, rfl, ?_, ?_⟩
  · rw [Validator.validate_of_parse hParse hCovers]
    simp only [← Visit.failures_eq_append]
  · intro e rule site name r hRoot hNames hLeads hRule hRepeatable hText hAttribute
    -- No child is named like the text key, so no text can have taken the key of a child.
    have hEnter : Leads (Element.LeavesKey v.configuration.markup) root v.model.root site e rule :=
      hLeads.mono fun y c hInside hChild hName =>
        absurd hName (hNames c (hInside.of_mem_children hChild))
    obtain ⟨lone, hReached⟩ := reached_start_of_leads hRoot hEnter
    have hKeys : Node.KeysDistinct (.mapping [(root.name, root.node v.configuration.markup)]) :=
      .mapping (by simp) (by simpa using Element.keysDistinct_node _ root)
    have hCounted := counted_of_reached (s := v.setting) hKeys hReached
      (hLeads.wellFormed (Schema.wellFormed_of_compile hCompile)) hRule hRepeatable hText hAttribute
    refine ⟨hCounted, fun hPlain => countedByPath_of_counted hPlain ?_ hCounted⟩
    have hName := ((PlainNames.of_reached hReached hPlain).1.child hRule).1
    exact (hPlain.plainSite hReached).snoc (by simpa using hName) (by simp)

/-- A tag that has to come twice at least. -/
def pairRule : Rule := .mk .string { repeatable := true, minOccurs := some 2 } []

/-- A tag that has to be there, and may come several times. -/
def guestRule : Rule := .mk .string { repeatable := true, nillable := some false } []

def rosterModel : Schema.Model where
  rootName := "r"
  root := .mk .map {} [("a", pairRule), ("b", guestRule)]
  checks := []
  size := 3

def rosterSchema : String :=
  "<r><a repeatable=\"\" minOccurs=\"2\"/><b repeatable=\"\" nillable=\"false\"/></r>"

def rosterRoot : Element := .mk ⟨"r", [], 1⟩ [] [.mk ⟨"a", [], 1⟩ [] []]

/-- All names of the example are single letters. -/
theorem plainNames_rosterModel : PlainNames rosterModel.top := by
  have hPlain {name : String} (hNe : name ≠ "") (h : name.toList.all Char.isAlpha = true) :
      PlainName name := by
    refine ⟨hNe, fun c hMem hSeparator => ?_⟩
    have hAlpha := List.all_eq_true.mp h c hMem
    rcases hSeparator with rfl | rfl <;> exact absurd hAlpha (by decide)
  have hLeaf (type : Schema.ValueType) (constraints : Schema.Constraints) :
      PlainNames (.mk type constraints []) := .mk (by simp) (by simp)
  have hRoot : PlainNames rosterModel.root := by
    refine .mk ?_ ?_ <;>
      simp only [List.mem_cons, List.not_mem_nil, or_false, forall_eq_or_imp, forall_eq]
    · exact ⟨hPlain (by decide) (by decide), hPlain (by decide) (by decide)⟩
    · exact ⟨hLeaf _ _, hLeaf _ _⟩
  exact .mk (by simpa using hPlain (by decide) (by decide)) (by simpa using hRoot)

/-- One tag comes once where two are due, and another does not come where one is due. Each is
counted by its path. -/
theorem Validator.roster_counted :
    Schema.Model.compile rosterSchema {} = .ok rosterModel ∧
      (Registry.mk []).ensureCovers rosterModel = .ok () ∧
      Markup.Document.parse "<r><a/></r>" {} = .ok ⟨"r", rosterRoot.node {}⟩ ∧
      ∃ failures, (Validator.mk rosterModel {} {}).validate "<r><a/></r>" = .ok failures ∧
        failures = [.missing "r.b", .constraint "minOccurs" "r.a" (.ofNat 1) (.ofNat 2)] ∧
        CountedByPath failures "r.a" pairRule 1 ∧ CountedByPath failures "r.b" guestRule 0 := by
  have hSchema : Markup.scan rosterSchema .boolean {} = ⟨[.opening ⟨"r", [], 1⟩,
      .opening ⟨"a", [⟨"repeatable", ""⟩, ⟨"minOccurs", "2"⟩], 1⟩, .closing,
      .opening ⟨"b", [⟨"repeatable", ""⟩, ⟨"nillable", "false"⟩], 1⟩, .closing, .closing],
      none⟩ := by decide +kernel
  have hScan : Markup.scan "<r><a/></r>" .boolean {} = ⟨[.opening ⟨"r", [], 1⟩,
      .opening ⟨"a", [], 1⟩, .closing, .closing], none⟩ := by decide +kernel
  have hCompile : Schema.Model.compile rosterSchema {} = .ok rosterModel := by
    rw [Schema.Model.compile, hSchema]
    rfl
  have hParse := Markup.Document.parse_of_scan hScan (rfl : _ = some rosterRoot)
  obtain ⟨root, hDescribes, -, hValidate, hCounted⟩ :=
    Validator.occurrences_counted (v := ⟨rosterModel, {}, {}⟩) hCompile rfl hParse
  obtain rfl : rosterRoot = root := by
    have hBuilt := Element.ofEvents?_of_describes hDescribes
    rw [hScan] at hBuilt
    exact Option.some.inj hBuilt
  have hNames : ∀ x, rosterRoot.Contains x → x.name ≠ "#text" := by
    intro x hContains
    cases hContains with
    | self => decide
    | child hChild below =>
      obtain rfl := List.mem_singleton.mp hChild
      cases below with
      | self => decide
      | child hChild => cases hChild
  refine ⟨hCompile, rfl, hParse, _, hValidate, rfl, ?_, ?_⟩
  · exact (hCounted rosterRoot rosterModel.root [] "a" _ rfl hNames (.here _ _) rfl rfl
      (by decide) (by decide)).2 plainNames_rosterModel
  · exact (hCounted rosterRoot rosterModel.root [] "b" _ rfl hNames (.here _ _) rfl rfl
      (by decide) (by decide)).2 plainNames_rosterModel

/-- A tag whose name reads like the path from one tag to another. -/
def dottedModel : Schema.Model where
  rootName := "r"
  root := .mk .map {} [("a.b", pairRule), ("a", .mk .map {} [("b", pairRule)])]
  checks := []
  size := 4

def dottedSchema : String :=
  "<r><a.b repeatable=\"\" minOccurs=\"2\"/><a><b repeatable=\"\" minOccurs=\"2\"/></a></r>"

def dottedRoot : Element :=
  .mk ⟨"r", [], 1⟩ [] [.mk ⟨"a.b", [], 1⟩ [] [],
    .mk ⟨"a", [], 1⟩ [] [.mk ⟨"b", [], 1⟩ [] []]]

/-- By their paths alone the failures of such tags cannot be told apart: one child, and two failures
with the path of its tag. -/
theorem Validator.dotted_not_countedByPath :
    Schema.Model.compile dottedSchema {} = .ok dottedModel ∧
      Describes (Markup.scan "<r><a.b/><a><b/></a></r>" .boolean {}).events dottedRoot ∧
      dottedModel.root.child? "a.b" = some pairRule ∧
      (dottedRoot.childrenNamed "a.b").length = 1 ∧
      ∃ failures, (Validator.mk dottedModel {} {}).validate "<r><a.b/><a><b/></a></r>" =
          .ok failures ∧
        failures = [.constraint "minOccurs" "r.a.b" (.ofNat 1) (.ofNat 2),
          .constraint "minOccurs" "r.a.b" (.ofNat 1) (.ofNat 2)] ∧
        ¬ CountedByPath failures (sitePath "r" [.tag "a.b"]) pairRule 1 := by
  have hSchema : Markup.scan dottedSchema .boolean {} = ⟨[.opening ⟨"r", [], 1⟩,
      .opening ⟨"a.b", [⟨"repeatable", ""⟩, ⟨"minOccurs", "2"⟩], 1⟩, .closing,
      .opening ⟨"a", [], 1⟩, .opening ⟨"b", [⟨"repeatable", ""⟩, ⟨"minOccurs", "2"⟩], 1⟩,
      .closing, .closing, .closing], none⟩ := by decide +kernel
  have hScan : Markup.scan "<r><a.b/><a><b/></a></r>" .boolean {} = ⟨[.opening ⟨"r", [], 1⟩,
      .opening ⟨"a.b", [], 1⟩, .closing, .opening ⟨"a", [], 1⟩, .opening ⟨"b", [], 1⟩, .closing,
      .closing, .closing], none⟩ := by decide +kernel
  have hParse := Markup.Document.parse_of_scan hScan (rfl : _ = some dottedRoot)
  refine ⟨?_, Markup.describes_of_scan hScan rfl, rfl, rfl, _,
    Validator.validate_of_parse hParse rfl, rfl, ?_⟩
  · rw [Schema.Model.compile, hSchema]
    rfl
  · intro hCounted
    exact absurd (congrArg List.length hCounted.minOccurs) (by decide)

end MarkupRules
