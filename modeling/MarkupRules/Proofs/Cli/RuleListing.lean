import MarkupRules.Proofs.Cli.SchemaFile
import MarkupRules.Proofs.Schema.Description
import MarkupRules.Proofs.Schema.Walk

/-!
The listing of rules for readers.

A line shows a rule by its depth in the tree and the name of its tag. Both are read off the path of
the rule, in which a point of a name looks like the point between two names.
-/
namespace MarkupRules.Cli

open Markup (Element tagPath)
open Schema (Rule StandsFor Reflects)

variable {place : List String × Element} {r : Rule}

/-- What stands behind the last point. -/
def behindPoint (cs : List Char) : List Char := (cs.reverse.takeWhile (· != '.')).reverse

/-- What stands in front of a point does not matter for what is behind the last one. -/
theorem behindPoint_append_cons (front name : List Char) :
    behindPoint (front ++ '.' :: name) = behindPoint name := by
  have hStop : ('.' :: front.reverse).takeWhile (· != '.') = [] := rfl
  have hReverse : (front ++ '.' :: name).reverse = name.reverse ++ '.' :: front.reverse := by simp
  rw [behindPoint, behindPoint, hReverse, List.takeWhile_append]
  split
  · next hAll => rw [hStop, List.append_nil, (List.takeWhile_prefix _).eq_of_length hAll]
  · rfl

/-- Without a point all of a text counts as behind the last one. -/
theorem behindPoint_of_notMem {cs : List Char} (h : '.' ∉ cs) : behindPoint cs = cs := by
  have hAll : cs.reverse.takeWhile (· != '.') = cs.reverse := by
    apply List.takeWhile_eq_self_iff.mpr
    intro c hMem
    have hNe : c ≠ '.' := ne_of_mem_of_not_mem (List.mem_reverse.mp hMem) h
    simp [hNe]
  rw [behindPoint, hAll, List.reverse_reverse]

theorem mem_of_mem_behindPoint {cs : List Char} {c : Char} (h : c ∈ behindPoint cs) : c ∈ cs :=
  List.mem_reverse.mp ((List.takeWhile_prefix _).subset (List.mem_reverse.mp h))

theorem toList_tagPath_snoc {names : List String} (h : names ≠ []) (name : String) :
    (tagPath (names ++ [name])).toList = (tagPath names).toList ++ '.' :: name.toList := by
  have hText : s!"{tagPath names}.{name}" = tagPath names ++ "." ++ name := rfl
  rw [Markup.tagPath_snoc h, hText]
  simp

/-- Behind the last point of a path is what is behind the last point of its last name. -/
theorem behindPoint_tagPath (around : List String) (name : String) :
    behindPoint (tagPath (around ++ [name])).toList = behindPoint name.toList := by
  cases around with
  | nil => rw [List.nil_append, Markup.tagPath_singleton]
  | cons first more =>
    rw [toList_tagPath_snoc (by simp), behindPoint_append_cons]

/-- The number of points in the names of a place. -/
def pointsIn (names : List String) : Nat := (names.flatMap String.toList).count '.'

theorem pointsIn_eq_zero_iff {names : List String} :
    pointsIn names = 0 ↔ ∀ name ∈ names, '.' ∉ name.toList := by
  simp [pointsIn, List.count_eq_zero]

theorem pointsIn_snoc (names : List String) (name : String) :
    pointsIn (names ++ [name]) = pointsIn names + name.toList.count '.' := by
  simp only [pointsIn, List.flatMap_append, List.flatMap_singleton, List.count_append]

/-- A path has the points between its names and those in them. The line of a rule is indented by
both. -/
theorem count_points_tagPath {names : List String} (h : names ≠ []) :
    (tagPath names).toList.count '.' + 1 = names.length + pointsIn names := by
  -- A path grows at its end, where the name is that of the element itself.
  induction names using List.reverseRecOn with
  | nil => exact absurd rfl h
  | append_singleton around name ih =>
    cases around with
    | nil => simp [Markup.tagPath_singleton, pointsIn, Nat.add_comm]
    | cons first more =>
      have hAround := ih (by simp)
      rw [toList_tagPath_snoc (by simp), pointsIn_snoc, List.count_append, List.count_cons_self,
        List.length_append, List.length_singleton]
      omega

/-- How the line of a rule begins, by the depth of its tag and the name. -/
def heading (depth : Nat) (name : String) (r : Rule) : String :=
  String.ofList (List.replicate (2 * depth) ' ') ++ (name ++ ": " ++ r.type.name)

/-- The line of an element shows its name at its depth in the tree, with the type of its rule, and
is one line. -/
def ShowsRule (place : List String × Element) (r : Rule) (line : String) : Prop :=
  (∃ more, line = heading (place.1.length - 1) place.2.name r ++ more) ∧ '\n' ∉ line.toList

/-- The line that is written for an element. It lies deeper by the points in the names around, and
shows what is behind the last point of its own. -/
def listed (place : List String × Element) (r : Rule) : String :=
  heading (place.1.length - 1 + pointsIn place.1)
    (String.ofList (behindPoint place.2.name.toList)) r ++ " " ++
    " ".intercalate r.constraints.describe

/-- The line that is made from the path of a rule is the one that stands for its element. -/
theorem prettyLine_eq {path : String} {required : Bool} {around : List String}
    (hPlace : place.1 = around ++ [place.2.name]) (hPath : path = tagPath place.1) :
    RuleReport.prettyLine ⟨path, r.type.name, required, r.constraints.describe⟩ =
      listed place r := by
  have hDepth : path.toList.count '.' = place.1.length - 1 + pointsIn place.1 := by
    have hNames : place.1 ≠ [] := by simp [hPlace]
    have hCount := count_points_tagPath hNames
    have hLength := List.length_pos_of_ne_nil hNames
    rw [hPath]
    omega
  have hName : behindPoint path.toList = behindPoint place.2.name.toList := by
    rw [hPath, hPlace, behindPoint_tagPath]
  have hLine (name type constraints : String) :
      s!"{name}: {type} {constraints}" = name ++ ": " ++ type ++ (" " ++ constraints) := by
    rw [← String.append_assoc]
    rfl
  unfold RuleReport.prettyLine RuleReport.depth RuleReport.lastName RuleReport.constraintText
  rw [hLine, ← behindPoint, hDepth, hName, listed, heading]
  simp only [String.append_assoc]

theorem newline_notMem_typeName (type : Schema.ValueType) : '\n' ∉ type.name.toList := by
  cases type <;> decide

theorem newline_notMem_heading {name : String} (hName : '\n' ∉ name.toList) (depth : Nat)
    (r : Rule) : '\n' ∉ (heading depth name r).toList := by
  simp [heading, hName, newline_notMem_typeName]

/-- A name without blanks tells how far it is indented. So a line shows no other depth than its own.
-/
theorem eq_zero_of_heading_append {depth further : Nat} {name name' behind behind' : String}
    (hName : ' ' ∉ name.toList)
    (h : heading (depth + further) name' r ++ behind' = heading depth name r ++ behind) :
    further = 0 := by
  have hLists := congrArg String.toList h
  simp only [heading, String.toList_append, String.toList_ofList, Nat.mul_add,
    List.replicate_add, List.append_assoc] at hLists
  have hBehind := congrArg List.head? (List.append_cancel_left hLists)
  cases further with
  | zero => rfl
  | succ k =>
    -- Behind the indentation of the one line stands a blank of the other.
    rw [Nat.mul_succ, List.replicate_succ, List.cons_append, List.head?_cons] at hBehind
    cases hChars : name.toList with
    | nil =>
      rw [hChars] at hBehind
      exact absurd hBehind (by simp)
    | cons c rest =>
      rw [hChars] at hBehind hName
      obtain rfl := Option.some.inj hBehind
      exact absurd (.head _) hName

/-- The line begins as it should just if no name on the place of the element has a point in it. A
point in the last name shortens it, and one in another makes the line deeper. -/
theorem exists_listed_eq_iff (hName : ' ' ∉ place.2.name.toList)
    (hPlace : place.2.name ∈ place.1) :
    (∃ more, listed place r = heading (place.1.length - 1) place.2.name r ++ more) ↔
      ∀ name ∈ place.1, '.' ∉ name.toList := by
  rw [← pointsIn_eq_zero_iff]
  constructor
  · rintro ⟨more, hLine⟩
    rw [listed, String.append_assoc] at hLine
    exact eq_zero_of_heading_append hName hLine
  · intro hNone
    have hSame := behindPoint_of_notMem (pointsIn_eq_zero_iff.mp hNone _ hPlace)
    rw [listed, hNone, hSame, String.ofList_toList, String.append_assoc]
    exact ⟨_, rfl⟩

/-- The line for an element is as it should be just if there is no point in the names on its place
and no line end in its constraints. -/
theorem showsRule_listed_iff {path : String}
    (hName : ∀ c ∈ place.2.name.toList, Markup.isTagBlank c = false)
    (hPlace : place.2.name ∈ place.1) (hMirrors : Schema.Mirrors path place.2 r) :
    ShowsRule place r (listed place r) ↔
      (∀ name ∈ place.1, '.' ∉ name.toList) ∧ ¬ r.constraints.HasLineEnd := by
  have hBlank : ' ' ∉ place.2.name.toList := by
    intro hMem
    exact absurd (hName _ hMem) (by decide)
  have hShown : '\n' ∉ (String.ofList (behindPoint place.2.name.toList)).toList := by
    intro hMem
    rw [String.toList_ofList] at hMem
    exact absurd (hName _ (mem_of_mem_behindPoint hMem)) (by decide)
  -- Neither the name nor the type has a line end, so it comes with the constraints.
  have hLine : '\n' ∈ (listed place r).toList ↔ Schema.BreaksLine r.constraints.describe := by
    rw [← Schema.newline_mem_intercalate_iff, listed]
    simp [newline_notMem_heading hShown]
  have hDescribes : Schema.BreaksLine r.constraints.describe ↔ r.constraints.HasLineEnd := by
    generalize place.2 = e at hMirrors
    cases hMirrors with
    | mk hConstraints => exact Schema.Constraints.breaksLine_describe_iff hConstraints
  rw [ShowsRule, exists_listed_eq_iff hBlank hPlace, hLine, hDescribes]

section Tree

variable {m : Schema.Model} {root : Element} {events : List Markup.Event} {text : String}
  {options : Markup.Options}

/-- For each rule of the model, in the order of the tags, a line that shows it at its place. -/
def ShowsTree (root : Element) (m : Schema.Model) (lines : List String) : Prop :=
  List.Forall₂ (fun entry line => ShowsRule entry.1 entry.2.2 line)
    ((root.places []).zip m.walk) lines

/-- Elements and walked rules correspond one to one, so neither list is cut short by the other. -/
theorem map_fst_zip_walk (h : Reflects m events root) :
    ((root.places []).zip m.walk).map Prod.fst = root.places [] :=
  List.map_fst_zip h.walk.length_eq.ge

theorem map_snd_zip_walk (h : Reflects m events root) :
    ((root.places []).zip m.walk).map Prod.snd = m.walk :=
  List.map_snd_zip h.walk.length_eq.le

/-- Each walked rule stands for the element at its position. The place of that ends with its name.
-/
theorem standsFor_of_mem_zip (h : Reflects m events root) {place : List String × Element}
    {entry : String × Rule} (hMem : (place, entry) ∈ (root.places []).zip m.walk) :
    StandsFor entry place ∧ ∃ around, place.1 = around ++ [place.2.name] :=
  ⟨(List.forall₂_iff_zip.mp h.walk.flip).2 hMem,
    Element.exists_outer_of_mem_places (List.of_mem_zip hMem).1⟩

/-- The listing has one line for each element, in the order of the schema. -/
theorem lines_ofModel (h : Reflects m events root) :
    RuleReport.lines .pretty (RuleReport.ofModel m) =
      ((root.places []).zip m.walk).map fun entry => listed entry.1 entry.2.2 := by
  rw [RuleReport.lines, RuleReport.ofModel, List.map_map]
  conv => lhs; rw [← map_snd_zip_walk h]
  rw [List.map_map]
  apply List.map_congr_left
  rintro ⟨place, path, rule⟩ hMem
  obtain ⟨hStands, around, hPlace⟩ := standsFor_of_mem_zip h hMem
  exact prettyLine_eq hPlace hStands.1

/-- The names of a schema have neither blanks nor line ends in them. So its lines are as they should
be just if there is no point in a name and no line end in a constraint. -/
theorem showsRule_of_reflects (h : Reflects m (Markup.scan text .boolean options).events root)
    {place : List String × Element} {entry : String × Rule}
    (hMem : (place, entry) ∈ (root.places []).zip m.walk) :
    ShowsRule place entry.2 (listed place entry.2) ↔
      (∀ name ∈ place.1, '.' ∉ name.toList) ∧ ¬ entry.2.constraints.HasLineEnd := by
  obtain ⟨hStands, around, hPlace⟩ := standsFor_of_mem_zip h hMem
  have hOpening := Element.opening_mem_of_describes h.describes
    (Element.exists_of_mem_places (List.of_mem_zip hMem).1).1
  apply showsRule_listed_iff _ (by simp [hPlace]) hStands.2
  intro c hChar
  exact Markup.isTagBlank_of_mem_name hOpening hChar

/-- The listing of a model is as it should be just if there is no point in a name and no line end in
a constraint. -/
theorem showsTree_iff (h : Reflects m (Markup.scan text .boolean options).events root) :
    ShowsTree root m (RuleReport.lines .pretty (RuleReport.ofModel m)) ↔
      (∀ e, root.Contains e → '.' ∉ e.name.toList) ∧
        ∀ entry ∈ m.walk, ¬ entry.2.constraints.HasLineEnd := by
  rw [ShowsTree, lines_ofModel h, List.forall₂_map_right_iff, List.forall₂_same,
    ← Element.forall_notMem_places_iff]
  constructor
  · intro hShows
    constructor
    · intro place hPlace
      rw [← map_fst_zip_walk h] at hPlace
      obtain ⟨pair, hMem, rfl⟩ := List.mem_map.mp hPlace
      exact ((showsRule_of_reflects h hMem).mp (hShows _ hMem)).1
    · intro entry hEntry
      rw [← map_snd_zip_walk h] at hEntry
      obtain ⟨pair, hMem, rfl⟩ := List.mem_map.mp hEntry
      exact ((showsRule_of_reflects h hMem).mp (hShows _ hMem)).2
  · rintro ⟨hNames, hConstraints⟩ pair hMem
    have hBoth := List.of_mem_zip hMem
    exact (showsRule_of_reflects h hMem).mpr ⟨hNames _ hBoth.1, hConstraints _ hBoth.2⟩

end Tree

/-- The listing of any schema that compiles has the lines given here. It shows the tree of the
schema just if no name has a point in it and no constraint a line end. -/
theorem run_rules_pretty {files : String → Except FileError Content} {onTerminal : Bool}
    {env : Environment} {args : List String} {format : Option Format} {schema : String}
    {limits : Limits} {content : Content} {text : String} {m : Schema.Model} {o : Outcome}
    (hInvoke : readArguments env args = .invoke ⟨format, .rules schema limits⟩)
    (hFormat : format.getD (if onTerminal then .table else .json) = .pretty)
    (hFile : files schema = .ok content) (hSize : content.bytes.length ≤ limits.maxSize)
    (hText : Text.decode content.bytes = .ok text)
    (hCompile : Schema.Model.compile text limits.options = .ok m)
    (hRun : (program onTerminal env args).run files = o) :
    ∃ root, Reflects m (Markup.scan text .boolean limits.options).events root ∧
      o.exit = .success ∧ o.error = none ∧
      o.lines = ((root.places []).zip m.walk).map (fun entry => listed entry.1 entry.2.2) ∧
      (ShowsTree root m o.lines ↔ (∀ e, root.Contains e → '.' ∉ e.name.toList) ∧
        ∀ entry ∈ m.walk, ¬ entry.2.constraints.HasLineEnd) := by
  have hYields : Yields limits m (files schema) := hFile ▸ .mk hSize hText hCompile
  obtain ⟨root, hReflects⟩ := Schema.reflects_of_compile hCompile
  rw [program, hInvoke] at hRun
  dsimp only at hRun
  rw [hFormat, Command.program, rules_eq, (withModel_of_yields _ hYields).1] at hRun
  obtain rfl := hRun
  exact ⟨root, hReflects, rfl, rfl, lines_ofModel hReflects, showsTree_iff hReflects⟩

/-- The schemas `<r><m><n type="date"/></m></r>` and `<r><a.b/></r>`. -/
def listedFiles : String → Except FileError Content
  | "s" => .ok ⟨[60, 114, 62, 60, 109, 62, 60, 110, 32, 116, 121, 112, 101, 61, 34, 100, 97, 116,
      101, 34, 47, 62, 60, 47, 109, 62, 60, 47, 114, 62], by decide⟩
  | "p" => .ok ⟨[60, 114, 62, 60, 97, 46, 98, 47, 62, 60, 47, 114, 62], by decide⟩
  | _ => .error .notFound

def nestedModel : Schema.Model where
  rootName := "r"
  root := .mk .map {} [("m", .mk .map {} [("n", .mk .date { declared := some .date } [])])]
  checks := []
  size := 3

def nestedRoot : Element :=
  .mk ⟨"r", [], 1⟩ [] [.mk ⟨"m", [], 1⟩ [] [.mk ⟨"n", [⟨"type", "date"⟩], 1⟩ [] []]]

/-- Three tags inside one another are listed on three lines, each by two blanks deeper. -/
theorem run_rules_pretty_nested :
    readArguments {} ["--format", "pretty", "rules", "-s", "s"] =
        .invoke ⟨some .pretty, .rules "s" {}⟩ ∧
      ((program false {} ["--format", "pretty", "rules", "-s", "s"]).run listedFiles).lines =
        ["r: map ", "  m: map ", "    n: date "] ∧
      ShowsTree nestedRoot nestedModel ["r: map ", "  m: map ", "    n: date "] := by
  have hInvoke : readArguments {} ["--format", "pretty", "rules", "-s", "s"] =
      .invoke ⟨some .pretty, .rules "s" {}⟩ := by decide +kernel
  have hScan : Markup.scan "<r><m><n type=\"date\"/></m></r>" .boolean ({} : Limits).options =
      ⟨[.opening ⟨"r", [], 1⟩, .opening ⟨"m", [], 1⟩, .opening ⟨"n", [⟨"type", "date"⟩], 1⟩,
        .closing, .closing, .closing], none⟩ := by decide +kernel
  have hCompile : Schema.Model.compile "<r><m><n type=\"date\"/></m></r>" ({} : Limits).options =
      .ok nestedModel := by
    rw [Schema.Model.compile, hScan]
    rfl
  have hRun : (program false {} ["--format", "pretty", "rules", "-s", "s"]).run listedFiles =
      { exit := .success, lines := ["r: map ", "  m: map ", "    n: date "] } := by
    decide +kernel
  obtain ⟨root, hReflects, -, -, -, hShows⟩ :=
    run_rules_pretty hInvoke rfl rfl (by decide) (by decide +kernel) hCompile hRun
  obtain rfl : nestedRoot = root := by
    have hBuilt := Element.ofEvents?_of_describes hReflects.describes
    rw [hScan] at hBuilt
    exact Option.some.inj hBuilt
  refine ⟨hInvoke, congrArg Outcome.lines hRun, hShows.mpr ⟨?_, ?_⟩⟩
  · exact Element.forall_notMem_places_iff.mp (by decide)
  · rw [Schema.Model.walk_eq]
    decide

def pointedModel : Schema.Model where
  rootName := "r"
  root := .mk .map {} [("a.b", .mk .string {} [])]
  checks := []
  size := 2

def pointedRoot : Element := .mk ⟨"r", [], 1⟩ [] [.mk ⟨"a.b", [], 1⟩ [] []]

/-- A tag with a point in its name is listed under another name, and too deep. The listing of its
schema does not show the tree. -/
theorem not_showsTree_pointed :
    readArguments {} ["--format", "pretty", "rules", "-s", "p"] =
        .invoke ⟨some .pretty, .rules "p" {}⟩ ∧
      Schema.Model.compile "<r><a.b/></r>" {} = .ok pointedModel ∧
      Reflects pointedModel (Markup.scan "<r><a.b/></r>" .boolean {}).events pointedRoot ∧
      ((program false {} ["--format", "pretty", "rules", "-s", "p"]).run listedFiles).lines =
        ["r: map ", "    b: string "] ∧
      ¬ ShowsTree pointedRoot pointedModel ["r: map ", "    b: string "] := by
  have hScan : Markup.scan "<r><a.b/></r>" .boolean {} =
      ⟨[.opening ⟨"r", [], 1⟩, .opening ⟨"a.b", [], 1⟩, .closing, .closing], none⟩ := by
    decide +kernel
  have hCompile : Schema.Model.compile "<r><a.b/></r>" {} = .ok pointedModel := by
    rw [Schema.Model.compile, hScan]
    rfl
  obtain ⟨root, hReflects⟩ := Schema.reflects_of_compile hCompile
  obtain rfl : pointedRoot = root := by
    have hBuilt := Element.ofEvents?_of_describes hReflects.describes
    rw [hScan] at hBuilt
    exact Option.some.inj hBuilt
  refine ⟨by decide +kernel, hCompile, hReflects, by decide +kernel, ?_⟩
  intro hShows
  have hLines : RuleReport.lines .pretty (RuleReport.ofModel pointedModel) =
      ["r: map ", "    b: string "] := by decide +kernel
  rw [← hLines, showsTree_iff hReflects, ← Element.forall_notMem_places_iff] at hShows
  exact absurd hShows.1 (by decide)

end MarkupRules.Cli
