import MarkupRules.Proofs.Validation.Visits
import Mathlib.Data.List.Induction

/-!
Paths and the places they name.

A path is a text. It names the steps from the root to a visit as long as no tag of a
schema has a point or a bracket in its name; with such names two places may share a path.
-/
namespace MarkupRules.Validation

open Schema (Rule)

/-- The path after one more step. -/
def stepPath (path : String) : Step → String
  | .tag name => keyPath path name
  | .item index => itemPath path index

/-- The path of what steps lead to. -/
def sitePath (path : String) (site : List Step) : String := site.foldl stepPath path

theorem sitePath_append (path : String) (first second : List Step) :
    sitePath path (first ++ second) = sitePath (sitePath path first) second :=
  List.foldl_append

/-- A visit has the path of the steps to it. So paths need not be looked at where steps are known.
-/
theorem Reached.path_eq {v w : Visit} {site : List Step} (h : Reached v site w) :
    w.path = sitePath v.path site := by
  induction h with
  | here => rfl
  | item hRepeatable hItem below ih => exact ih
  | tag hEntry hChild below ih => exact ih

/-- Whether a character separates the steps of a path. -/
def IsSeparator (c : Char) : Prop := c = '.' ∨ c = '['

/-- A name that is not empty and has no separator in it. -/
structure PlainName (name : String) : Prop where
  ne_empty : name ≠ ""
  not_separator : ∀ c ∈ name.toList, ¬ IsSeparator c

/-- Steps that begin with a tag and whose tags are plain names. -/
structure PlainSite (site : List Step) : Prop where
  names : ∀ name, .tag name ∈ site → PlainName name
  head : ∀ index, site.head? ≠ some (.item index)

/-- The separator before a step. -/
def Step.separator : Step → Char
  | .tag _ => '.'
  | .item _ => '['

/-- What stands behind the separator. -/
def Step.label : Step → List Char
  | .tag name => name.toList
  | .item index => Nat.toDigits 10 index ++ [']']

theorem Step.isSeparator_separator (step : Step) : IsSeparator step.separator := by
  cases step with
  | tag name => exact .inl rfl
  | item index => exact .inr rfl

/-- A path grows by a separator and a label, except for a tag at its beginning, which has no point
in front. -/
theorem toList_stepPath {path : String} {step : Step}
    (h : path ≠ "" ∨ ∃ index, step = .item index) :
    (stepPath path step).toList = path.toList ++ step.separator :: step.label := by
  cases step with
  | tag name =>
    have hPath : path ≠ "" := h.resolve_right (by simp)
    have hText : stepPath path (.tag name) = path ++ "." ++ name := by
      rw [stepPath, keyPath, if_neg (by simpa using hPath)]
      rfl
    simp [hText, Step.separator, Step.label]
  | item index =>
    have hText : stepPath path (.item index) = path ++ "[" ++ index.repr ++ "]" := rfl
    simp [hText, Step.separator, Step.label]

/-- Different keys have different paths inside one mapping, whatever characters they have in them.
-/
theorem keyPath_inj {path key key' : String} :
    keyPath path key = keyPath path key' ↔ key = key' := by
  refine ⟨fun h => ?_, congrArg _⟩
  by_cases hPath : path = ""
  · simpa [keyPath, hPath] using h
  · have hLists := congrArg String.toList h
    rw [← stepPath, ← stepPath, toList_stepPath (.inl hPath),
      toList_stepPath (.inl hPath)] at hLists
    exact String.toList_injective (List.cons.inj (List.append_cancel_left hLists)).2

/-- A step is told by its separator and its label together. An index could look like the name of a
tag. -/
theorem Step.eq_of_label {step step' : Step} (hSeparator : step.separator = step'.separator)
    (hLabel : step.label = step'.label) : step = step' := by
  cases step with
  | tag name =>
    cases step' with
    | tag name' => rw [String.toList_injective hLabel]
    | item index' => exact absurd hSeparator (by simp [separator])
  | item index =>
    cases step' with
    | tag name' => exact absurd hSeparator (by simp [separator])
    | item index' =>
      have hDigits := congrArg (Nat.ofDigitChars 10 · 0) (List.append_cancel_right hLabel)
      rw [Nat.ofDigitChars_ten_toDigits, Nat.ofDigitChars_ten_toDigits] at hDigits
      rw [hDigits]

/-- In the labels of plain steps there is no separator, so the last one of a path is where its last
step begins. -/
theorem PlainSite.not_separator_label {site : List Step} (h : PlainSite site) {step : Step}
    (hStep : step ∈ site) : ∀ c ∈ step.label, ¬ IsSeparator c := by
  cases step with
  | tag name => exact (h.names name hStep).not_separator
  | item index =>
    intro c hMem hSeparator
    rcases List.mem_append.mp hMem with hDigit | hBracket
    · have hIsDigit := Nat.isDigit_of_mem_toDigits (by omega) (by omega) hDigit
      rcases hSeparator with rfl | rfl <;> exact absurd hIsDigit (by decide)
    · rw [List.mem_singleton.mp hBracket] at hSeparator
      exact absurd hSeparator (by simp [IsSeparator])

theorem PlainSite.of_append {first second : List Step} (h : PlainSite (first ++ second)) :
    PlainSite first := by
  refine ⟨fun name hName => h.names name (List.mem_append_left _ hName), fun index hHead => ?_⟩
  exact h.head index (by simp [hHead])

/-- One more step keeps steps plain, if it is a tag of a plain name, or an index that is not the
first step. -/
theorem PlainSite.snoc {site : List Step} (h : PlainSite site) {step : Step}
    (hName : ∀ name, step = .tag name → PlainName name)
    (hItem : ∀ index, step = .item index → site ≠ []) : PlainSite (site ++ [step]) := by
  constructor
  case names =>
    intro name hMem
    rcases List.mem_append.mp hMem with hBefore | hLast
    · exact h.names name hBefore
    · exact hName name (List.mem_singleton.mp hLast).symm
  case head =>
    intro index hHead
    cases site with
    | nil => exact hItem index (Option.some.inj hHead) rfl
    | cons first rest => exact h.head index hHead

/-- Behind the last separator a text ends in one way only. So two texts that are equal have the same
last step and the same beginning. -/
theorem append_cons_inj_of_separator {x x' z z' : List Char} {a a' : Char} (ha : IsSeparator a)
    (ha' : IsSeparator a') (hz : ∀ c ∈ z, ¬ IsSeparator c) (hz' : ∀ c ∈ z', ¬ IsSeparator c)
    (h : x ++ a :: z = x' ++ a' :: z') : x = x' ∧ a = a' ∧ z = z' := by
  rcases List.append_eq_append_iff.mp h with ⟨w, hx, hw⟩ | ⟨w, hx, hw⟩
  · cases w with
    | nil => simpa [hx] using hw
    | cons b w =>
      obtain ⟨-, rfl⟩ := List.cons.inj hw
      exact absurd ha' (hz a' (by simp))
  · cases w with
    | nil => simpa [hx, eq_comm] using hw
    | cons b w =>
      obtain ⟨-, rfl⟩ := List.cons.inj hw
      exact absurd ha (hz' a (by simp))

theorem sitePath_snoc (site : List Step) (step : Step) :
    sitePath "" (site ++ [step]) = stepPath (sitePath "" site) step := sitePath_append _ _ _

/-- A plain site of one step is a tag, and its path is the name. -/
theorem PlainSite.exists_name {step : Step} (h : PlainSite [step]) :
    ∃ name, step = .tag name ∧ PlainName name ∧ sitePath "" [step] = name := by
  cases step with
  | tag name => exact ⟨name, rfl, h.names name (.head _), rfl⟩
  | item index => exact absurd rfl (h.head index)

/-- Plain steps have a path that is not empty. Only the whole tree has the empty one. -/
theorem PlainSite.sitePath_ne_empty {site : List Step} (h : PlainSite site) (hSite : site ≠ []) :
    sitePath "" site ≠ "" := by
  induction site using List.reverseRecOn with
  | nil => exact absurd rfl hSite
  | append_singleton before step ih =>
    by_cases hBefore : before = []
    · subst hBefore
      obtain ⟨name, -, hName, hPath⟩ := h.exists_name
      exact hPath ▸ hName.ne_empty
    · have hPath : (stepPath (sitePath "" before) step).toList = _ :=
        toList_stepPath (.inl (ih h.of_append hBefore))
      rw [sitePath_snoc]
      intro hEmpty
      simp [hEmpty] at hPath

theorem PlainSite.toList_sitePath {site : List Step} {step : Step}
    (h : PlainSite (site ++ [step])) (hSite : site ≠ []) :
    (sitePath "" (site ++ [step])).toList =
      (sitePath "" site).toList ++ step.separator :: step.label := by
  rw [sitePath_snoc]
  exact toList_stepPath (.inl (h.of_append.sitePath_ne_empty hSite))

/-- A site of several steps has a separator in its path and a site of one step has none. -/
theorem PlainSite.sitePath_snoc_ne {site : List Step} {step first : Step}
    (h : PlainSite (site ++ [step])) (hSite : site ≠ []) (hFirst : PlainSite [first]) :
    sitePath "" (site ++ [step]) ≠ sitePath "" [first] := by
  obtain ⟨name, -, hName, hPath⟩ := hFirst.exists_name
  rw [hPath]
  intro hEq
  refine hName.not_separator step.separator ?_ step.isSeparator_separator
  rw [← hEq, h.toList_sitePath hSite]
  simp

/-- The path of a plain site names the site: another plain site has another path. -/
theorem sitePath_inj_of_plain {site site' : List Step} (h : PlainSite site) (h' : PlainSite site')
    (hPath : sitePath "" site = sitePath "" site') : site = site' := by
  -- From the end: what stands behind the last separator of the path is the last step.
  induction site using List.reverseRecOn generalizing site' with
  | nil =>
    by_contra hSite
    exact h'.sitePath_ne_empty (Ne.symm hSite) hPath.symm
  | append_singleton before step ih =>
    rcases List.eq_nil_or_concat' site' with rfl | ⟨before', step', rfl⟩
    · exact absurd hPath (h.sitePath_ne_empty (by simp))
    · by_cases hBefore : before = []
      · by_cases hBefore' : before' = []
        · subst hBefore hBefore'
          obtain ⟨name, rfl, -, hName⟩ := h.exists_name
          obtain ⟨name', rfl, -, hName'⟩ := h'.exists_name
          have hEq : name = name' := hPath
          rw [hEq]
        · subst hBefore
          exact absurd hPath.symm (h'.sitePath_snoc_ne hBefore' h)
      · by_cases hBefore' : before' = []
        · subst hBefore'
          exact absurd hPath (h.sitePath_snoc_ne hBefore h')
        · have hLists := congrArg String.toList hPath
          rw [h.toList_sitePath hBefore, h'.toList_sitePath hBefore'] at hLists
          obtain ⟨hText, hSeparator, hLabel⟩ := append_cons_inj_of_separator
            step.isSeparator_separator step'.isSeparator_separator
            (h.not_separator_label (by simp)) (h'.not_separator_label (by simp)) hLists
          rw [ih h.of_append h'.of_append (String.toList_injective hText),
            Step.eq_of_label hSeparator hLabel]

/-- At every depth of a rule the names of the tags inside are plain. -/
inductive PlainNames : Rule → Prop where
  | mk {type : Schema.ValueType} {constraints : Schema.Constraints}
      {children : List (String × Rule)} (hNames : ∀ c ∈ children, PlainName c.1)
      (hChildren : ∀ c ∈ children, PlainNames c.2) : PlainNames (.mk type constraints children)

theorem PlainNames.child {rule child : Rule} {name : String} (h : PlainNames rule)
    (hChild : rule.child? name = some child) : PlainName name ∧ PlainNames child := by
  have hMem := Markup.Node.mem_of_lookup hChild
  cases h with
  | mk hNames hChildren => exact ⟨hNames _ hMem, hChildren _ hMem⟩

/-- Steps go through tags that rules declare only, so their names are plain if those of the rules
are. -/
theorem PlainNames.of_reached {v w : Visit} {site : List Step} (h : Reached v site w)
    (hRule : PlainNames v.rule) :
    PlainNames w.rule ∧ ∀ name, .tag name ∈ site → PlainName name := by
  induction h with
  | here => exact ⟨hRule, by simp⟩
  | item hRepeatable hItem below ih =>
    obtain ⟨hBelow, hNames⟩ := ih hRule
    exact ⟨hBelow, by simpa using hNames⟩
  | tag hEntry hChild below ih =>
    obtain ⟨hName, hRest⟩ := hRule.child hChild
    obtain ⟨hBelow, hNames⟩ := ih hRest
    refine ⟨hBelow, fun name hMem => ?_⟩
    rcases List.mem_cons.mp hMem with hHead | hTail
    · rw [Step.tag.inj hHead]
      exact hName
    · exact hNames name hTail

/-- The places of a document's visits are plain if the names of the schema are. -/
theorem PlainNames.plainSite {tree : List (String × Markup.Node)} {model : Schema.Model}
    {site : List Step} {w : Visit} (h : PlainNames model.top)
    (hReached : Reached (.start (.mapping tree) model) site w) : PlainSite site := by
  refine ⟨(PlainNames.of_reached hReached h).2, fun index hHead => ?_⟩
  cases hReached with
  | here => cases hHead
  | tag => cases hHead

end MarkupRules.Validation
