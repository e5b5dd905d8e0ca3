import MarkupRules.Proofs.Markup.Places
import MarkupRules.Proofs.Schema.Mirror

/-!
Walking a model is walking the elements of its schema.
-/
namespace MarkupRules.Schema

open Markup (Element Event Describes tagPath)

/-- An entry of a walk and the element with its place that it stands for. -/
def StandsFor (entry : String × Rule) (place : List String × Element) : Prop :=
  entry.1 = tagPath place.1 ∧ Mirrors entry.1 place.2 entry.2

/-- Each child of an element that declares a rule declares one itself, under a path that is longer
by its name. -/
theorem Mirrors.of_mem_children {path : String} {e x : Element} {r : Rule} (h : Mirrors path e r)
    (hChild : x ∈ e.children) : ∃ c, Mirrors s!"{path}.{x.name}" x c := by
  cases h with
  | mk _ _ _ hNames _ hRules =>
    have hPairs := (forall₂_of_names_eq hNames hRules).flip
    obtain ⟨c, -, -, hMirrors⟩ := exists_of_mem_forall₂ hPairs hChild
    exact ⟨c.2, hMirrors⟩

/-- Every element inside one that a rule mirrors is mirrored, under some path. -/
theorem Mirrors.of_contains {path : String} {e x : Element} {r : Rule} (h : Mirrors path e r)
    (hContains : e.Contains x) : ∃ path' c, Mirrors path' x c := by
  induction hContains generalizing path r with
  | self => exact ⟨path, r, h⟩
  | child hChild below ih =>
    obtain ⟨c, hMirrors⟩ := h.of_mem_children hChild
    exact ih hMirrors

theorem Mirrors.nodup_names {path : String} {e : Element} {r : Rule} (h : Mirrors path e r) :
    (e.children.map Element.name).Nodup := by
  cases h with
  | mk _ _ _ _ hDistinct => exact hDistinct

/-- A walk goes through the elements in the order of their start tags, and shows each under the path
of its place. -/
theorem Mirrors.forall₂_walk {path : String} {e : Element} {r : Rule} (h : Mirrors path e r)
    {outer : List String} (hPath : path = tagPath (outer ++ [e.name])) :
    List.Forall₂ StandsFor (r.walk path) (e.places outer) := by
  induction h generalizing outer with
  | @mk path tag texts children type constraints rules hConstraints hType hShape hNames hDistinct
      hRules ih =>
    rw [Rule.walk, Rule.walkChildren_eq_flatMap, Element.places_eq]
    refine .cons ⟨hPath, .mk hConstraints hType hShape hNames hDistinct hRules⟩ ?_
    have hBelow := forall₂_of_names_eq hNames ih
    refine List.rel_flatMap hBelow fun c x hPair => ?_
    obtain ⟨hName, hWalk⟩ := hPair
    rw [hName]
    refine hWalk ?_
    rw [Markup.tagPath_snoc (by simp), hPath]

/-- The model of a whole element that declares the rule `r`. -/
def modelOf (name : String) (r : Rule) : Model :=
  ⟨name, r, (r.walk name).filterMap checkRef?, (r.walk name).length⟩

/-- The model of a rule is walked as the rule is, from the name of the root on. -/
theorem walk_modelOf (name : String) (r : Rule) : (modelOf name r).walk = r.walk name :=
  Model.walk_eq _

/-- The model that a builder has come to. -/
def Builder.model? (b : Builder) : Option Model :=
  b.root.map fun root => ⟨root.1, root.2, b.checks.reverse, b.size⟩

theorem Builder.model?_attach_start (name : String) (r : Rule) :
    (({} : Builder).attach name name r).model? = some (modelOf name r) := by
  simp [model?, attach, put, note, modelOf]

/-- A feed ends well just if all events are taken in and the scan ended well. -/
theorem feed_eq_ok_iff {σ ε : Type} {scan : Markup.Scan} {ofError : Markup.Error → ε}
    {read : σ → Event → Except ε σ} {initial final : σ} :
    scan.feed ofError read initial = .ok final ↔
      scan.events.foldlM read initial = .ok final ∧ scan.error = none := by
  constructor
  · exact feed_eq_ok
  · rintro ⟨hRead, hError⟩
    rw [Markup.Scan.feed, hRead, hError]

/-- A schema compiles just if its feed ends well in a builder that has come to a model. -/
theorem compile_eq_ok_iff_model? {text : String} {options : Markup.Options} {m : Model} :
    Model.compile text options = .ok m ↔ ∃ b : Builder, b.model? = some m ∧
      (Markup.scan text .boolean options).feed Error.markup Builder.step {} = .ok b := by
  unfold Model.compile
  cases (Markup.scan text .boolean options).feed Error.markup Builder.step {} with
  | error e => simp
  | ok b =>
    dsimp only
    cases hRoot : b.root with
    | none => simp [Builder.model?, hRoot]
    | some root =>
      obtain ⟨name, rule⟩ := root
      simp [Builder.model?, hRoot]

/-- A schema whose events an element describes makes the model of the rule that the element
declares. Events that are read alike may stand for those of the schema. -/
theorem compile_eq_ok_iff_of_describes {text : String} {options : Markup.Options} {m : Model}
    {events : List Event} {e : Element}
    (hError : (Markup.scan text .boolean options).error = none)
    (hAlike : (Markup.scan text .boolean options).events.foldlM Builder.step ({} : Builder) =
      events.foldlM Builder.step {})
    (hDescribes : Describes events e) :
    Model.compile text options = .ok m ↔ ∃ r, Mirrors e.name e r ∧ m = modelOf e.name r := by
  have hReads (b : Builder) := Builder.takesIn_of_describes hDescribes {} b e.name rfl
  have hFree : Builder.Admits {} e.name := by simp [Builder.Admits]
  rw [compile_eq_ok_iff_model?]
  simp only [feed_eq_ok_iff, hError, hAlike, and_true]
  constructor
  · rintro ⟨b, hModel, hRead⟩
    obtain ⟨r, hMirrors, -, rfl⟩ := (hReads b).mp hRead
    rw [Builder.model?_attach_start] at hModel
    exact ⟨r, hMirrors, (Option.some.inj hModel).symm⟩
  · rintro ⟨r, hMirrors, rfl⟩
    exact ⟨_, Builder.model?_attach_start e.name r, (hReads _).mpr ⟨r, hMirrors, hFree, rfl⟩⟩

/-- A schema compiles just if it is well-formed and its element declares a rule, and then the model
is that of the rule. -/
theorem compile_eq_ok_iff {text : String} {options : Markup.Options} {m : Model} :
    Model.compile text options = .ok m ↔
      (Markup.scan text .boolean options).error = none ∧
      ∃ e r, Describes (Markup.scan text .boolean options).events e ∧ Mirrors e.name e r ∧
        m = modelOf e.name r := by
  constructor
  · intro hCompile
    obtain ⟨b, -, hFeed⟩ := compile_eq_ok_iff_model?.mp hCompile
    have hError := (feed_eq_ok_iff.mp hFeed).2
    obtain ⟨e, -, hDescribes⟩ := Markup.describes_of_scan_ok hError
    obtain ⟨r, hRule⟩ := (compile_eq_ok_iff_of_describes hError rfl hDescribes).mp hCompile
    exact ⟨hError, e, r, hDescribes, hRule⟩
  · rintro ⟨hError, e, r, hDescribes, hRule⟩
    exact (compile_eq_ok_iff_of_describes hError rfl hDescribes).mpr ⟨r, hRule⟩

/-- What the walk, the checks and the size of a model are, as its schema has them. -/
structure Reflects (m : Model) (events : List Event) (root : Element) : Prop where
  describes : Describes events root
  rootName : m.rootName = root.name
  mirrors : Mirrors root.name root m.root
  walk : List.Forall₂ StandsFor m.walk (root.places [])
  order : (root.places []).map (·.2.tag) = events.filterMap Event.openTag?
  size : m.size = m.walk.length
  checks : m.checks = m.walk.filterMap checkRef?
  paths : (∀ x, root.Contains x → '.' ∉ x.name.toList) → (m.walk.map Prod.fst).Nodup

theorem map_fst_of_standsFor {entries : List (String × Rule)}
    {places : List (List String × Element)} (h : List.Forall₂ StandsFor entries places) :
    entries.map Prod.fst = places.map fun place => tagPath place.1 := by
  induction h with
  | nil => rfl
  | cons hHead _ ih => rw [List.map_cons, List.map_cons, hHead.1, ih]

/-- Names without points tell the elements apart by their paths. With points in them two places may
share one. -/
theorem Mirrors.nodup_paths {e : Element} {r : Rule} (h : Mirrors e.name e r)
    (hPoint : ∀ x, e.Contains x → '.' ∉ x.name.toList) : ((r.walk e.name).map Prod.fst).Nodup := by
  have hPlaces : ((e.places []).map Prod.fst).Nodup := by
    refine Element.nodup_places (fun x hContains => ?_) []
    obtain ⟨_, _, hMirrors⟩ := h.of_contains hContains
    exact hMirrors.nodup_names
  have hNames {place : List String × Element} (hPlace : place ∈ e.places []) : place.1 ≠ [] := by
    obtain ⟨-, inner, hEq, -⟩ := Element.exists_of_mem_places hPlace
    simp [hEq]
  have hPlain := Element.forall_notMem_places_iff.mpr hPoint
  have hWalk : List.Forall₂ StandsFor (r.walk e.name) (e.places []) :=
    h.forall₂_walk (Markup.tagPath_singleton _).symm
  rw [map_fst_of_standsFor hWalk]
  refine (List.pairwise_map.mp hPlaces).imp_of_mem ?_ |> List.pairwise_map.mpr
  intro place place' hMem hMem' hPlace hPath
  exact hPlace (Markup.tagPath_inj (hNames hMem) (hNames hMem') (hPlain _ hMem)
    (hPlain _ hMem') hPath)

/-- A compiled model reflects its schema: it has a rule for each element, in the order of the start
tags and under the path of its place, as many rules as there are tags, and the checks in the order
in which tags ask for them. -/
theorem reflects_of_compile {text : String} {options : Markup.Options} {m : Model}
    (h : Model.compile text options = .ok m) :
    ∃ root, Reflects m (Markup.scan text .boolean options).events root := by
  obtain ⟨-, e, r, hDescribes, hMirrors, rfl⟩ := compile_eq_ok_iff.mp h
  have hWalk := walk_modelOf e.name r
  exact ⟨e, {
    describes := hDescribes
    rootName := rfl
    mirrors := hMirrors
    walk := by
      rw [hWalk]
      exact hMirrors.forall₂_walk (Markup.tagPath_singleton _).symm
    order := Element.map_tag_places hDescribes []
    size := by rw [hWalk]; rfl
    checks := by rw [hWalk]; rfl
    paths := by
      rw [hWalk]
      exact hMirrors.nodup_paths }⟩

/-- The name `b` stands inside `a` and beside it. -/
def crewSchema : String :=
  "<r><a checkBy=\"first\"><b repeatable=\"\"/></a><b checkBy=\"second\" type=\"date\"/></r>"

def crewModel : Model where
  rootName := "r"
  root := .mk .map {} [
    ("a", .mk .map { checkBy := some "first" } [("b", .mk .string { repeatable := true } [])]),
    ("b", .mk .date { declared := some .date, checkBy := some "second" } [])]
  checks := [⟨"first", "r.a"⟩, ⟨"second", "r.b"⟩]
  size := 4

def crewRoot : Element :=
  .mk ⟨"r", [], 1⟩ [] [
    .mk ⟨"a", [⟨"checkBy", "first"⟩], 1⟩ [] [.mk ⟨"b", [⟨"repeatable", ""⟩], 1⟩ [] []],
    .mk ⟨"b", [⟨"checkBy", "second"⟩, ⟨"type", "date"⟩], 1⟩ [] []]

/-- A name that stands inside a tag and beside it has two rules with a path each. The checks come in
the order of the tags. -/
theorem crew_reflects :
    Model.compile crewSchema {} = .ok crewModel ∧
      Reflects crewModel (Markup.scan crewSchema .boolean {}).events crewRoot ∧
      crewModel.walk.map Prod.fst = ["r", "r.a", "r.a.b", "r.b"] ∧
      (crewModel.walk.map Prod.fst).Nodup := by
  have hScan : Markup.scan crewSchema .boolean {} = ⟨[.opening ⟨"r", [], 1⟩,
      .opening ⟨"a", [⟨"checkBy", "first"⟩], 1⟩, .opening ⟨"b", [⟨"repeatable", ""⟩], 1⟩,
      .closing, .closing, .opening ⟨"b", [⟨"checkBy", "second"⟩, ⟨"type", "date"⟩], 1⟩,
      .closing, .closing], none⟩ := by decide +kernel
  have hCompile : Model.compile crewSchema {} = .ok crewModel := by
    rw [Model.compile, hScan]
    rfl
  obtain ⟨root, hReflects⟩ := reflects_of_compile hCompile
  obtain rfl : crewRoot = root := by
    have hBuilt := Element.ofEvents?_of_describes hReflects.describes
    rw [hScan] at hBuilt
    exact Option.some.inj hBuilt
  have hPoint : ∀ place ∈ crewRoot.places [], '.' ∉ place.2.name.toList := by decide
  refine ⟨hCompile, hReflects, ?_, hReflects.paths fun x hContains => ?_⟩
  · rw [Model.walk_eq]
    rfl
  · obtain ⟨names, hMem⟩ := hContains.exists_place []
    exact hPoint _ hMem

end MarkupRules.Schema
