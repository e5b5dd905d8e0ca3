import MarkupRules.Proofs.Schema.View
import MarkupRules.Proofs.Validation.Refinement
import MarkupRules.Validation.Validator
import Mathlib.Logic.Relation

/-!
Schemas in which tags are replaced.

A view of constraints may show all that a visit reads of them. Then a traversal cannot tell models
apart that the view shows alike, and where each tag of a schema is replaced by one that declares the
same, as far as the view shows, the two schemas validate alike.
-/
namespace MarkupRules

open Markup (Attribute TagReplaced Node)
open Schema (Constraints IsView Covers Model Rule seenEntry)

namespace Validation

/-- A view that keeps what is read of the constraints of a visit. -/
structure ShowsFailures (view : Constraints → Constraints) : Prop extends IsView view where
  repeatable (c : Constraints) : (view c).repeatable = c.repeatable
  isRequired (c : Constraints) : (view c).isRequired = c.isRequired
  occurrenceFailures (c : Constraints) : occurrenceFailures (view c) = occurrenceFailures c
  stringFailures (c : Constraints) : stringFailures (view c) = stringFailures c
  numberFailures (c : Constraints) : numberFailures (view c) = numberFailures c

section Seen

variable {view : Constraints → Constraints}

theorem constraints_seen (r : Rule) : (r.seen view).constraints = view r.constraints := by
  cases r
  rfl

theorem type_seen (r : Rule) : (r.seen view).type = r.type := by
  cases r
  rfl

theorem children_seen (r : Rule) : (r.seen view).children = r.children.map (seenEntry view) := by
  cases r
  rw [Rule.seen_mk]
  rfl

/-- A tag is declared under a view just if it is without, by the rule as the view shows it. -/
theorem child?_seen (r : Rule) (key : String) :
    (r.seen view).child? key = (r.child? key).map (Rule.seen view) := by
  rw [Rule.child?, Rule.child?, children_seen]
  induction r.children with
  | nil => rfl
  | cons c rest ih =>
    rw [List.map_cons, seenEntry, List.lookup_cons, List.lookup_cons, ih]
    split <;> rfl

variable (hShows : ShowsFailures view) (s : Setting)
include hShows

theorem isRepeatable_seen (r : Rule) : (r.seen view).isRepeatable = r.isRepeatable := by
  rw [Rule.isRepeatable, constraints_seen, hShows.repeatable, Rule.isRepeatable]

theorem loneFailures_seen (r : Rule) (lone : Bool) (path : String) :
    loneFailures (r.seen view) lone path = loneFailures r lone path := by
  rw [loneFailures, loneFailures, isRepeatable_seen hShows, constraints_seen,
    hShows.occurrenceFailures]

theorem missingFailures_seen (r : Rule) (keys : List String) (path : String) :
    missingFailures (r.seen view) keys path = missingFailures r keys path := by
  have hRequired (child : Rule) : (child.seen view).isRequired = child.isRequired := by
    rw [Rule.isRequired, constraints_seen, hShows.isRequired, Rule.isRequired]
  simp only [missingFailures, child?_seen, Option.any_map, hRequired]

theorem keyFailures_seen (r : Rule) (keys : List String) (path : String) :
    keyFailures s (r.seen view) keys path = keyFailures s r keys path := by
  simp only [keyFailures, children_seen, Schema.map_fst_seenEntry, missingFailures_seen hShows]

/-- What is reported of a text is read off what the view shows, which keeps its constraints as far
as they are tested. -/
theorem textFailures_seen (r : Rule) (text path : String) :
    textFailures s (r.seen view) text path = textFailures s r text path := by
  simp only [textFailures, type_seen, children_seen, constraints_seen, Schema.map_fst_seenEntry,
    missingFailures_seen hShows, hShows.stringFailures, hShows.numberFailures]

theorem checkFailures_seen (node : Node) (r : Rule) (path : String) :
    checkFailures s node (r.seen view) path = checkFailures s node r path := by
  rw [checkFailures, checkFailures, constraints_seen, hShows.checkBy]

omit hShows in
/-- Reports on items agree under a view, if those on each of them do. -/
theorem itemReports_seen {r : Rule} {items : List Node}
    (h : ∀ item ∈ items, ∀ path,
      reports s (r.seen view) path false item = reports s r path false item)
    (path : String) (index : Nat) :
    itemReports s (r.seen view) path index items = itemReports s r path index items := by
  induction items generalizing index with
  | nil => rfl
  | cons item rest ih =>
    rw [itemReports, itemReports, h item (.head _), ih fun other hOther => h other (.tail _ hOther)]

omit hShows in
/-- Reports on entries agree under a view, if those on each of them do, whatever its rule is. -/
theorem entryReports_seen {r : Rule} {entries : List (String × Node)}
    (h : ∀ e ∈ entries, ∀ child path,
      reports s (Rule.seen view child) path true e.2 = reports s child path true e.2)
    (path : String) :
    entryReports s (r.seen view) path entries = entryReports s r path entries := by
  induction entries with
  | nil => rfl
  | cons e rest ih =>
    obtain ⟨key, node⟩ := e
    have hRest := ih fun other hOther => h other (.tail _ hOther)
    cases hChild : r.child? key with
    | none => simp only [entryReports, child?_seen, hChild, Option.map_none, hRest]
    | some child =>
      simp only [entryReports, child?_seen, hChild, Option.map_some, hRest]
      rw [h (key, node) (.head _)]

/-- What is reported under a rule is what is reported under what a view shows of it, at every depth.
-/
theorem reports_seen (r : Rule) (path : String) (lone : Bool) (node : Node) :
    reports s (r.seen view) path lone node = reports s r path lone node := by
  induction node generalizing r path lone with
  | scalar text =>
    simp only [reports, loneFailures_seen hShows, textFailures_seen hShows,
      checkFailures_seen hShows]
  | sequence items ih =>
    have hItems := itemReports_seen s (fun item hItem path => ih item hItem r path false) path 0
    simp only [reports, isRepeatable_seen hShows, constraints_seen, hShows.occurrenceFailures,
      hItems]
  | mapping entries ih =>
    have hEntries : entryReports s (r.seen view) path entries = entryReports s r path entries :=
      entryReports_seen s (fun e hEntry child path => ih e hEntry child path true) path
    simp only [reports, loneFailures_seen hShows, keyFailures_seen hShows,
      checkFailures_seen hShows, hEntries]

/-- A traversal does not tell models apart that the view shows alike. It is refused for both or for
neither. -/
theorem traverse_congr {m m' : Model} (hSame : m.seen view = m'.seen view) (tree : Node) :
    traverse s tree m = traverse s tree m' := by
  obtain ⟨hName, hRoot, hChecks, -⟩ := Model.mk.inj hSame
  -- The view may change the top rule as well, so the two are compared as it shows them.
  have hTop : m.top.seen view = m'.top.seen view := by
    simp only [Model.top, Rule.seen_mk, List.map_cons, List.map_nil, seenEntry, hName, hRoot]
  have hReports : reports s m.top "" true tree = reports s m'.top "" true tree := by
    rw [← reports_seen hShows, hTop, reports_seen hShows]
  simp only [traverse, Registry.ensureCovers, hChecks, run_singleton, Visit.start, hReports]

end Seen

end Validation

/-- Either schema makes a validator if the other does, and the two validators report the same for
every document, whatever checks are registered. -/
def ValidatesAlike (text text' : String) : Prop :=
  ∀ configuration,
    ((∃ v, Validator.ofSchema text configuration = .ok v) ↔
      ∃ v, Validator.ofSchema text' configuration = .ok v) ∧
    ∀ v v', Validator.ofSchema text configuration = .ok v →
      Validator.ofSchema text' configuration = .ok v' → ∀ registry document,
        { v with registry }.validate document = { v' with registry }.validate document

theorem Validator.ofSchema_eq_ok_iff {text : String} {configuration : Validation.Configuration}
    {v : Validator} : ofSchema text configuration = .ok v ↔
      ∃ m, Model.compile text configuration.markup = .ok m ∧
        v = { model := m, configuration } := by
  rw [ofSchema, map_eq_ok_iff]
  exact exists_congr fun m => and_congr_right fun _ => eq_comm

section Replaced

variable {view : Constraints → Constraints} {related : List Char → List Char → Prop}
  {text text' : String}

/-- A schema in which tags are replaced, one after the other, compiles as before, to a model that
the view does not tell from the first. -/
theorem Schema.IsView.exists_compile_replaced (hView : IsView view)
    (hCovers : ∀ content content', related content content' → Covers view content content')
    (h : Relation.ReflTransGen (TagReplaced related) text text') {options : Markup.Options}
    {m : Model} (hCompile : Model.compile text options = .ok m) :
    ∃ m', Model.compile text' options = .ok m' ∧ m'.seen view = m.seen view := by
  induction h with
  | refl => exact ⟨m, hCompile, rfl⟩
  | tail _ hReplaced ih =>
    obtain ⟨middle, hMiddle, hSeen⟩ := ih
    obtain ⟨m', hCompile', hSeen'⟩ := hView.exists_compile hCovers hReplaced hMiddle
    exact ⟨m', hCompile', hSeen'.trans hSeen⟩

variable (hCovers : ∀ content content', related content content' →
    Covers view content content' ∧ Covers view content' content)
  (h : Relation.ReflTransGen (TagReplaced related) text text')
include hCovers h

/-- The same the other way round, since replacing a tag can be undone. -/
theorem Schema.IsView.exists_compile_replaced_back (hView : IsView view)
    {options : Markup.Options} {m' : Model} (hCompile : Model.compile text' options = .ok m') :
    ∃ m, Model.compile text options = .ok m ∧ m.seen view = m'.seen view := by
  have hBack : Relation.ReflTransGen (TagReplaced (Function.swap related)) text' text :=
    Relation.ReflTransGen.mono (fun _ _ hReplaced => hReplaced.symm fun _ _ hRelated => hRelated)
      _ _ (Relation.reflTransGen_swap.mpr h)
  exact hView.exists_compile_replaced (fun _ _ hRelated => (hCovers _ _ hRelated).2) hBack hCompile

/-- Schemas that a view does not tell apart validate alike, if it shows what visits read. A schema
that does not compile has a twin that does not either. -/
theorem Validation.ShowsFailures.validatesAlike (hShows : ShowsFailures view) :
    ValidatesAlike text text' := by
  have hForth {options : Markup.Options} {m : Model}
      (hCompile : Model.compile text options = .ok m) :=
    hShows.exists_compile_replaced (fun _ _ hRelated => (hCovers _ _ hRelated).1) h hCompile
  intro configuration
  simp only [Validator.ofSchema_eq_ok_iff]
  refine ⟨⟨?_, ?_⟩, ?_⟩
  · rintro ⟨_, m, hCompile, -⟩
    obtain ⟨m', hCompile', -⟩ := hForth hCompile
    exact ⟨_, m', hCompile', rfl⟩
  · rintro ⟨_, m', hCompile', -⟩
    obtain ⟨m, hCompile, -⟩ := hShows.exists_compile_replaced_back hCovers h hCompile'
    exact ⟨_, m, hCompile, rfl⟩
  · rintro _ _ ⟨m, hCompile, rfl⟩ ⟨m', hCompile', rfl⟩ registry document
    obtain ⟨m₂, hCompile₂, hSeen⟩ := hForth hCompile
    obtain rfl : m₂ = m' := Except.ok.inj (hCompile₂.symm.trans hCompile')
    unfold Validator.validate Validator.validateNode
    cases Markup.Document.parse document configuration.markup with
    | error e => rfl
    | ok d => exact traverse_congr hShows _ hSeen.symm d.tree

end Replaced

/-- A schema with one tag inside `r`. -/
def enclosed (tag : String) : String := "<r>" ++ tag ++ "</r>"

/-- An empty tag inside a root may be replaced by another one of the same name. -/
theorem tagReplaced_enclosed {related : List Char → List Char → Prop} {tag tag' : String}
    {content content' : List Char} (hTag : Markup.IsMarkup tag [.opening content true])
    (hTag' : Markup.IsMarkup tag' [.opening content' true])
    (hName : Attribute.tagName content' = Attribute.tagName content)
    (hRelated : related content content') :
    TagReplaced related (enclosed tag) (enclosed tag') := by
  have hBefore : Markup.EndsBetweenTokens "<r>" :=
    ⟨[], [.opening "r".toList false], by decide +kernel⟩
  exact .mk "</r>" hBefore hTag hTag' hName hRelated

/-- The codes of what a schema reports for a document, if it reports at all. -/
def reportedCodes? (schema document : String) : Option (List String) :=
  ((Validator.ofSchema schema {}).toOption.bind fun v => (v.validate document).toOption).map
    (List.map Failure.code)

/-- Where one of two such schemas reports certain codes, both report the same failures, with these
codes. -/
theorem ValidatesAlike.exists_failures {schema schema' document : String} {codes : List String}
    (h : ValidatesAlike schema schema') (hCodes : reportedCodes? schema document = some codes) :
    ∃ v v' failures, Validator.ofSchema schema {} = .ok v ∧
      Validator.ofSchema schema' {} = .ok v' ∧ v.validate document = .ok failures ∧
      v'.validate document = .ok failures ∧ failures.map Failure.code = codes := by
  obtain ⟨failures, hFailures, hCodes⟩ := Option.map_eq_some_iff.mp hCodes
  obtain ⟨v, hValidator, hFailures⟩ := Option.bind_eq_some_iff.mp hFailures
  rw [toOption_eq_some_iff] at hValidator hFailures
  obtain ⟨v', hValidator'⟩ := (h {}).1.mp ⟨v, hValidator⟩
  have hSame := (h {}).2 v v' hValidator hValidator' {} document
  obtain ⟨_, -, rfl⟩ := Validator.ofSchema_eq_ok_iff.mp hValidator
  obtain ⟨_, -, rfl⟩ := Validator.ofSchema_eq_ok_iff.mp hValidator'
  exact ⟨_, _, failures, hValidator, hValidator', hFailures, hSame.symm.trans hFailures, hCodes⟩

/-- A text with two characters in the tag `a` inside `r`. -/
def twoLetters : String := "<r><a>XX</a></r>"

end MarkupRules
