import MarkupRules.Proofs.Markup.Nesting
import MarkupRules.Proofs.Markup.Reading

/-!
Scans without lines.

An outline is what a scanner knows of the elements around it but for the lines. It is enough to say
whether the tokens that follow can be read and which events they deliver, again but for the lines,
so a scan depends on the kinds of the tokens only.
-/
namespace MarkupRules.Markup

/-- The event without the line of its tag. -/
def Event.bare : Event → Event
  | .opening tag => .opening { tag with line := 0 }
  | .text s => .text s
  | .closing => .closing

/-- Whether a token is a start or end tag. -/
def Token.Kind.isTag : Token.Kind → Bool
  | .opening _ _ => true
  | .closing _ => true
  | _ => false

/-- The text that a token between tags stands for. -/
def Token.Kind.text? : Token.Kind → Option (List Char)
  | .text raw => (Reference.resolve raw).toOption
  | .characterData content => some content
  | _ => some []

/-- The names of the elements that are open, innermost first, and whether the root has come. -/
structure Outline where
  names : List String := []
  seenRoot : Bool := false

namespace Outline

variable (mode : AttributeMode) (options : Options)

/-- A start tag. -/
def stepOpening (o : Outline) (content : List Char) (isEmpty : Bool) :
    Option (Outline × List Event) :=
  if o.names.isEmpty && o.seenRoot then none
  else match Attribute.ofTag mode content with
    | .error _ => none
    | .ok attributes =>
      if options.maxDepth.all fun limit => decide (o.names.length < limit) then
        let name := String.ofList (Attribute.tagName content)
        if isEmpty then some (⟨o.names, true⟩, [.opening ⟨name, attributes, 0⟩, .closing])
        else some (⟨name :: o.names, true⟩, [.opening ⟨name, attributes, 0⟩])
      else none

/-- An end tag. -/
def stepClosing (o : Outline) (found : String) : Option (Outline × List Event) :=
  match o.names with
  | [] => none
  | name :: outer => if found = name then some (⟨outer, o.seenRoot⟩, [.closing]) else none

/-- A text whose references are resolved. -/
def stepText (o : Outline) (text : List Char) : Option (Outline × List Event) :=
  if (Text.trim text).isEmpty then some (o, [])
  else if o.names.isEmpty then none
  else some (o, [.text (String.ofList (Text.trim text))])

/-- Reads a token: the outline behind it and what it delivers, if it can be read. -/
def step (o : Outline) : Token.Kind → Option (Outline × List Event)
  | .opening content isEmpty => o.stepOpening mode options content isEmpty
  | .closing name => o.stepClosing (String.ofList name)
  | kind => kind.text?.bind o.stepText

/-- Reads tokens. -/
def run (o : Outline) : List Token.Kind → Option (Outline × List Event)
  | [] => some (o, [])
  | kind :: rest =>
    (o.step mode options kind).bind fun read =>
      (read.1.run rest).map fun more => (more.1, read.2 ++ more.2)

variable {mode : AttributeMode} {options : Options} {o last : Outline} {events : List Event}

/-- Tokens are read if the first of them is and then the others from where it leads. -/
theorem run_cons_eq_some_iff {kind : Token.Kind} {rest : List Token.Kind} :
    o.run mode options (kind :: rest) = some (last, events) ↔ ∃ next new more,
      o.step mode options kind = some (next, new) ∧
      next.run mode options rest = some (last, more) ∧ events = new ++ more := by
  rw [run, Option.bind_eq_some_iff]
  simp only [Option.map_eq_some_iff, Prod.mk.injEq, Prod.exists]
  constructor
  · rintro ⟨next, new, hStep, _, more, hRest, rfl, rfl⟩
    exact ⟨next, new, more, hStep, hRest, rfl⟩
  · rintro ⟨next, new, more, hStep, hRest, rfl⟩
    exact ⟨next, new, hStep, last, more, hRest, rfl, rfl⟩

/-- Tokens are read in two stretches, and what they deliver is delivered one behind the other. -/
theorem run_append_eq_some_iff {kinds more : List Token.Kind} :
    o.run mode options (kinds ++ more) = some (last, events) ↔ ∃ next first second,
      o.run mode options kinds = some (next, first) ∧
      next.run mode options more = some (last, second) ∧ events = first ++ second := by
  induction kinds generalizing o events with
  | nil => simp [run, and_assoc]
  | cons kind rest ih =>
    simp only [List.cons_append, run_cons_eq_some_iff, ih]
    constructor
    · rintro ⟨next, new, _, hStep, ⟨next', first, second, hRest, hMore, rfl⟩, rfl⟩
      exact ⟨next', new ++ first, second, ⟨next, new, first, hStep, hRest, rfl⟩, hMore, by simp⟩
    · rintro ⟨next', _, second, ⟨next, new, first, hStep, hRest, rfl⟩, hMore, rfl⟩
      exact ⟨next, new, first ++ second, hStep, ⟨next', first, second, hRest, hMore, rfl⟩, by simp⟩

end Outline

namespace Scanner

variable {mode : AttributeMode} {options : Options}

/-- The outline of a scanner and what it has delivered, if it has met no error. -/
def outline? (s : Scanner) : Option (Outline × List Event) :=
  if s.error.isSome then none
  else some (⟨s.openElements.map Prod.fst, s.seenRoot⟩, s.events.reverse.map Event.bare)

/-- Continues what an outline has delivered. -/
def extend (before : List Event) (read : Option (Outline × List Event)) :
    Option (Outline × List Event) :=
  read.map fun r => (r.1, before ++ r.2)

variable {s : Scanner}

theorem outline?_of_error (h : s.error.isSome = true) : s.outline? = none := if_pos h

/-- Without an error a scanner has an outline, and with it all that was delivered but the lines. -/
theorem outline?_of_none (h : s.error = none) :
    s.outline? = some (⟨s.openElements.map Prod.fst, s.seenRoot⟩,
      s.events.reverse.map Event.bare) := by
  simp [outline?, h]

/-- A start tag changes the outline as its outline says. The line of the tag plays no part in
whether it is read. -/
theorem outline?_stepOpening (h : s.error = none) (content : List Char) (isEmpty : Bool) :
    (s.stepOpening mode options content isEmpty).outline? =
      extend (s.events.reverse.map Event.bare)
        (Outline.stepOpening mode options ⟨s.openElements.map Prod.fst, s.seenRoot⟩ content
          isEmpty) := by
  unfold stepOpening Outline.stepOpening
  simp only [List.isEmpty_map, List.length_map]
  split
  · rfl
  · cases Attribute.ofTag mode content with
    | error defect => rfl
    | ok attributes =>
      unfold mayOpen
      dsimp only
      split_ifs <;> simp_all [extend, outline?, fail, deliver, push, Event.bare]

/-- An end tag changes the outline as its outline says: it is read just if it has the innermost
name. -/
theorem outline?_stepClosing (h : s.error = none) (found : String) :
    (s.stepClosing found).outline? =
      extend (s.events.reverse.map Event.bare)
        (Outline.stepClosing ⟨s.openElements.map Prod.fst, s.seenRoot⟩ found) := by
  rw [stepClosing_eq]
  unfold Outline.stepClosing
  cases hOpen : s.openElements with
  | nil => rfl
  | cons e outer =>
    obtain ⟨name, line⟩ := e
    by_cases hName : found = name
    · simp [extend, outline?, deliver, pop, Event.bare, hName, h, hOpen]
    · simp [extend, outline?, fail, hName]

/-- A text changes nothing about the outline, and it is read just if the outline allows it there. -/
theorem outline?_stepText (h : s.error = none) (text : List Char) :
    (s.stepText text).outline? =
      extend (s.events.reverse.map Event.bare)
        (Outline.stepText ⟨s.openElements.map Prod.fst, s.seenRoot⟩ text) := by
  unfold stepText Outline.stepText
  simp only [List.isEmpty_map]
  split_ifs <;> simp [extend, outline?, deliver, fail, Event.bare, h]

/-- A scanner reads what its outline reads, token by token, and is in error just where the outline
has no way to go on. -/
theorem outline?_step (s : Scanner) (token : Token) :
    (s.step mode options token).outline? =
      s.outline?.bind fun r => extend r.2 (r.1.step mode options token.kind) := by
  cases hError : s.error with
  | some e =>
    rw [step_of_error mode options hError, outline?_of_error (by simp [hError])]
    rfl
  | none =>
    obtain ⟨start, kind⟩ := token
    rw [outline?_of_none hError, step, if_neg (by simp [hError]), Option.bind_some]
    dsimp only
    have hError' : { s with cursor := s.cursor.seek start }.error = none := hError
    cases kind with
    | opening content isEmpty => exact outline?_stepOpening hError' content isEmpty
    | closing name => exact outline?_stepClosing hError' _
    | text raw =>
      dsimp only [Outline.step, Token.Kind.text?]
      cases Reference.resolve raw with
      | ok text => exact outline?_stepText hError' text
      | error defect => rfl
    | characterData content => exact outline?_stepText hError' content
    | skipped => simp [extend, outline?, Outline.step, Token.Kind.text?, Outline.stepText,
        Text.trim_of_blank, hError]

/-- A scanner reads all tokens just if its outline does, and delivers the same but for the lines. -/
theorem outline?_foldl_step (s : Scanner) (tokens : List Token) :
    (tokens.foldl (step mode options) s).outline? =
      s.outline?.bind fun r => extend r.2 (r.1.run mode options (tokens.map Token.kind)) := by
  induction tokens generalizing s with
  | nil =>
    show s.outline? = _
    cases s.outline? <;> simp [extend, Outline.run]
  | cons token rest ih =>
    rw [List.foldl_cons, ih, outline?_step]
    cases s.outline? with
    | none => rfl
    | some r =>
      simp only [Option.bind_some, List.map_cons]
      rw [Outline.run]
      cases r.1.step mode options token.kind with
      | none => rfl
      | some read => simp [extend, Function.comp_def]

end Scanner

section Scan

variable {text : String} {mode : AttributeMode} {options : Options}

/-- The scan of a whole text has an outline that is found by running over the kinds of its tokens
from the start. -/
theorem outline?_scan (text : String) (mode : AttributeMode) (options : Options) :
    ((tokenize text.toList).tokens.foldl (Scanner.step mode options)
      { cursor := .start text.toList }).outline? = Outline.run mode options {} (kindsOf text) := by
  rw [Scanner.outline?_foldl_step]
  simp [Scanner.outline?, Scanner.extend, kindsOf]

/-- A scan that ends well has been read to the end of the root, and what it delivered is what the
outline delivers. -/
theorem run_of_scan (h : (scan text mode options).error = none) :
    (tokenize text.toList).fault = none ∧ Outline.run mode options {} (kindsOf text) =
      some (⟨[], true⟩, (scan text mode options).events.map Event.bare) := by
  cases hBlank : Text.isAllBlank text.toList with
  | true => simp [scan, hBlank] at h
  | false =>
    rw [← outline?_scan, scan_events text mode options hBlank]
    simp only [scan, hBlank, Bool.false_eq_true, if_false] at h
    generalize (tokenize text.toList).tokens.foldl (Scanner.step mode options)
      { cursor := .start text.toList } = s at h ⊢
    rcases Scanner.finish_cases (tokenize text.toList).fault s with
      ⟨e, hFinish⟩ | ⟨hFinish, hError | ⟨hError, hFault, hOpen, hSeen⟩⟩
    · rw [hFinish] at h
      cases h
    · rw [hFinish] at h
      simp [h] at hError
    · refine ⟨hFault, ?_⟩
      rw [Scanner.outline?_of_none hError, hOpen, hSeen]
      rfl

/-- Tokens that lead an outline to the end of the root make a scan that ends well, with the same
events but for the lines. -/
theorem scan_of_run {events : List Event} (hBlank : Text.isAllBlank text.toList = false)
    (hFault : (tokenize text.toList).fault = none)
    (hRun : Outline.run mode options {} (kindsOf text) = some (⟨[], true⟩, events)) :
    (scan text mode options).error = none ∧
      (scan text mode options).events.map Event.bare = events := by
  rw [← outline?_scan] at hRun
  rw [scan_events text mode options hBlank]
  simp only [scan, hBlank, Bool.false_eq_true, if_false, hFault]
  generalize (tokenize text.toList).tokens.foldl (Scanner.step mode options)
    { cursor := .start text.toList } = s at hRun ⊢
  cases hError : s.error with
  | some e =>
    rw [Scanner.outline?_of_error (by simp [hError])] at hRun
    cases hRun
  | none =>
    rw [Scanner.outline?_of_none hError] at hRun
    obtain ⟨hOutline, hEvents⟩ := Prod.mk.inj (Option.some.inj hRun)
    obtain ⟨hNames, hSeen⟩ := Outline.mk.inj hOutline
    rw [Scanner.finish_of_closed hError (List.map_eq_nil_iff.mp hNames) hSeen]
    exact ⟨hError, hEvents⟩

/-- A scan that comes to the end of the text inside an element has read all that stands before. -/
theorem run_of_unclosed {name : String} {line : Nat}
    (h : (scan text mode options).error = some (.unclosed name line)) :
    (tokenize text.toList).fault = none ∧ ∃ outer seenRoot events,
      Outline.run mode options {} (kindsOf text) = some (⟨name :: outer, seenRoot⟩, events) := by
  cases hBlank : Text.isAllBlank text.toList with
  | true => simp [scan, hBlank] at h
  | false =>
    rw [← outline?_scan]
    simp only [scan, hBlank, Bool.false_eq_true, if_false] at h
    generalize hRead : (tokenize text.toList).tokens.foldl (Scanner.step mode options)
      { cursor := .start text.toList } = s at h ⊢
    have hRaises {e : Error} (hError : s.error = some e) : Scanner.Raises options s e :=
      hRead ▸ Scanner.raises_foldl_step _ (by simp) (hRead ▸ hError)
    cases hError : s.error with
    | some e =>
      have hFinish : s.finish (tokenize text.toList).fault = s := by simp [Scanner.finish, hError]
      rw [hFinish] at h
      cases hRaises h
    | none =>
      unfold Scanner.finish at h
      rw [if_neg (by simp [hError])] at h
      split at h
      · cases h
      · next hFault hOpen =>
        obtain ⟨rfl, -⟩ := Error.unclosed.inj (Option.some.inj h)
        rw [Scanner.outline?_of_none hError, hOpen]
        exact ⟨hFault, _, _, _, rfl⟩
      · split at h
        · rw [hError] at h
          cases h
        · cases h

end Scan

namespace Outline

variable {mode : AttributeMode} {options options' : Options} {o next last : Outline}
  {new events : List Event}

/-- A start tag that is read opens one element more, if it is not empty, and delivers it with the
attributes of its content. -/
theorem stepOpening_eq_some {content : List Char} {isEmpty : Bool}
    (h : o.stepOpening mode options content isEmpty = some (next, new)) :
    ∃ attributes, Attribute.ofTag mode content = .ok attributes ∧
      (o.names = [] → o.seenRoot = false) ∧
      next = ⟨if isEmpty then o.names else String.ofList (Attribute.tagName content) :: o.names,
        true⟩ ∧
      new = .opening ⟨String.ofList (Attribute.tagName content), attributes, 0⟩ ::
        if isEmpty then [.closing] else [] := by
  unfold stepOpening at h
  split at h
  · cases h
  · next hRoot =>
    cases hAttributes : Attribute.ofTag mode content with
    | error defect =>
      rw [hAttributes] at h
      cases h
    | ok attributes =>
      rw [hAttributes] at h
      dsimp only at h
      refine ⟨attributes, rfl, by simpa using hRoot, ?_⟩
      split at h
      · cases isEmpty <;> cases h <;> exact ⟨rfl, rfl⟩
      · cases h

/-- An end tag that is read closes the innermost element, which has its name. -/
theorem stepClosing_eq_some {found : String} (h : o.stepClosing found = some (next, new)) :
    ∃ outer, o.names = found :: outer ∧ next = ⟨outer, o.seenRoot⟩ ∧ new = [.closing] := by
  unfold stepClosing at h
  split at h
  · cases h
  · next name outer hNames =>
    split at h
    · next hName =>
      cases h
      exact ⟨outer, hName ▸ hNames, rfl, rfl⟩
    · cases h

/-- A text that is read leaves the outline as it is. It is blank and delivers nothing, or it is
delivered inside an element. -/
theorem stepText_eq_some {text : List Char} (h : o.stepText text = some (next, new)) :
    next = o ∧ (Text.trim text = [] ∧ new = [] ∨ Text.trim text ≠ [] ∧ o.names ≠ [] ∧
      new = [.text (String.ofList (Text.trim text))]) := by
  unfold stepText at h
  split at h
  · next hBlank =>
    cases h
    exact ⟨rfl, .inl ⟨List.isEmpty_iff.mp hBlank, rfl⟩⟩
  · next hText =>
    split at h
    · cases h
    · next hInside =>
      cases h
      exact ⟨rfl, .inr ⟨by simpa using hText, by simpa using hInside, rfl⟩⟩

theorem step_of_not_isTag {kind : Token.Kind} (hTag : kind.isTag = false) :
    o.step mode options kind = kind.text?.bind o.stepText := by
  cases kind with
  | opening content isEmpty => cases hTag
  | closing name => cases hTag
  | text _ | characterData _ | skipped => rfl

/-- A token that is read and is no tag is a text, if only an empty one. -/
theorem exists_stepText {kind : Token.Kind} (hTag : kind.isTag = false)
    (hStep : o.step mode options kind = some (next, new)) :
    ∃ text, kind.text? = some text ∧ o.stepText text = some (next, new) := by
  rw [step_of_not_isTag hTag] at hStep
  exact Option.bind_eq_some_iff.mp hStep

/-- The outline `o'` has the elements `outer` open around those of `o`. -/
structure Within (outer : List String) (o o' : Outline) : Prop where
  names : o'.names = o.names ++ outer
  seenRoot : o.seenRoot = true → o'.seenRoot = true

section Within

variable {o' next' last' : Outline} {outer : List String} {new' events' : List Event}

/-- A text means the same inside other elements, if it can be read on its own. -/
theorem stepText_within (h : Within outer o o') {text : List Char}
    (hAlone : o.stepText text = some (next, new))
    (hInside : o'.stepText text = some (next', new')) :
    Within outer next next' ∧ new' = new := by
  obtain ⟨rfl, hBlank | hText⟩ := stepText_eq_some hAlone
  · obtain ⟨rfl, hBlank' | hText'⟩ := stepText_eq_some hInside
    · exact ⟨h, hBlank'.2.trans hBlank.2.symm⟩
    · exact absurd hBlank.1 hText'.1
  · obtain ⟨rfl, hBlank' | hText'⟩ := stepText_eq_some hInside
    · exact absurd hBlank'.1 hText.1
    · exact ⟨h, hText'.2.2.trans hText.2.2.symm⟩

/-- A token that can be read on its own and inside other elements means the same there, and the
elements around stay open. -/
theorem step_within (h : Within outer o o') {kind : Token.Kind}
    (hAlone : o.step mode options kind = some (next, new))
    (hInside : o'.step mode options' kind = some (next', new')) :
    Within outer next next' ∧ new' = new := by
  cases kind with
  | opening content isEmpty =>
    obtain ⟨attributes, hAttributes, -, rfl, rfl⟩ := stepOpening_eq_some hAlone
    obtain ⟨attributes', hAttributes', -, rfl, rfl⟩ := stepOpening_eq_some hInside
    obtain rfl : attributes = attributes' := Except.ok.inj (hAttributes.symm.trans hAttributes')
    refine ⟨⟨?_, fun _ => rfl⟩, rfl⟩
    cases isEmpty with
    | false => exact congrArg (_ :: ·) h.names
    | true => exact h.names
  | closing name =>
    obtain ⟨rest, hNames, rfl, rfl⟩ := stepClosing_eq_some hAlone
    obtain ⟨rest', hNames', rfl, rfl⟩ := stepClosing_eq_some hInside
    have hRest : rest' = rest ++ outer := by
      rw [h.names, hNames] at hNames'
      exact (List.cons.inj hNames').2.symm
    exact ⟨⟨hRest, h.seenRoot⟩, rfl⟩
  | text _ | characterData _ | skipped =>
    obtain ⟨text, hText, hStep⟩ := exists_stepText rfl hAlone
    obtain ⟨text', hText', hStep'⟩ := exists_stepText rfl hInside
    obtain rfl : text = text' := Option.some.inj (hText.symm.trans hText')
    exact stepText_within h hStep hStep'

/-- Tokens that can be read on their own and inside other elements deliver the same there. -/
theorem run_within (h : Within outer o o') {kinds : List Token.Kind}
    (hAlone : o.run mode options kinds = some (last, events))
    (hInside : o'.run mode options' kinds = some (last', events')) :
    Within outer last last' ∧ events' = events := by
  induction kinds generalizing o o' events events' with
  | nil =>
    cases hAlone
    cases hInside
    exact ⟨h, rfl⟩
  | cons kind rest ih =>
    obtain ⟨next, new, more, hStep, hRest, rfl⟩ := run_cons_eq_some_iff.mp hAlone
    obtain ⟨next', new', more', hStep', hRest', rfl⟩ := run_cons_eq_some_iff.mp hInside
    obtain ⟨hNext, rfl⟩ := step_within h hStep hStep'
    obtain ⟨hLast, rfl⟩ := ih hNext hRest hRest'
    exact ⟨hLast, rfl⟩

end Within

/-- A token that is no tag opens and closes nothing, so that it delivers texts at most. -/
theorem eq_of_not_isTag {kind : Token.Kind} (hTag : kind.isTag = false)
    (hStep : o.step mode options kind = some (next, new)) :
    next = o ∧ ∃ texts : List String, new = texts.map .text := by
  obtain ⟨text, -, hText⟩ := exists_stepText hTag hStep
  obtain ⟨rfl, ⟨-, rfl⟩ | ⟨-, -, rfl⟩⟩ := stepText_eq_some hText
  · exact ⟨rfl, [], rfl⟩
  · exact ⟨rfl, [_], rfl⟩

/-- Between tags nothing opens or closes. -/
theorem run_of_not_isTag {kinds : List Token.Kind} (hTags : ∀ kind ∈ kinds, kind.isTag = false)
    (hRun : o.run mode options kinds = some (last, events)) :
    last = o ∧ ∃ texts : List String, events = texts.map .text := by
  induction kinds generalizing o events with
  | nil =>
    cases hRun
    exact ⟨rfl, [], rfl⟩
  | cons kind rest ih =>
    obtain ⟨next, new, more, hStep, hRest, rfl⟩ := run_cons_eq_some_iff.mp hRun
    obtain ⟨rfl, texts, rfl⟩ := eq_of_not_isTag (hTags kind (.head _)) hStep
    obtain ⟨rfl, texts', rfl⟩ := ih (fun kind hMem => hTags kind (.tail _ hMem)) hRest
    exact ⟨rfl, texts ++ texts', List.map_append.symm⟩

/-- The open elements without their lines. -/
def openElements (o : Outline) : List (String × Nat) := o.names.map fun name => (name, 0)

/-- A token keeps the outline in step with what was delivered. -/
theorem consistent_step {before : List Event} (h : Consistent before o.openElements o.seenRoot)
    {kind : Token.Kind} (hStep : o.step mode options kind = some (next, new)) :
    Consistent (before ++ new) next.openElements next.seenRoot := by
  cases kind with
  | opening content isEmpty =>
    obtain ⟨attributes, -, hRoot, rfl, rfl⟩ := stepOpening_eq_some hStep
    have hOpened := h.opening (by simpa [openElements] using hRoot)
      ⟨String.ofList (Attribute.tagName content), attributes, 0⟩
    cases isEmpty with
    | false => exact hOpened
    | true =>
      show Consistent (before ++ ([_] ++ [.closing])) o.openElements true
      rw [← List.append_assoc]
      exact hOpened.closing rfl
  | closing name =>
    obtain ⟨outer, hNames, rfl, rfl⟩ := stepClosing_eq_some hStep
    exact h.closing (by rw [openElements, hNames]; rfl)
  | text _ | characterData _ | skipped =>
    obtain ⟨text, -, hText⟩ := exists_stepText rfl hStep
    obtain ⟨rfl, ⟨-, rfl⟩ | ⟨-, hInside, rfl⟩⟩ := stepText_eq_some hText
    · simpa using h
    · exact h.text (by simpa [openElements] using hInside) _

/-- Tokens keep the outline in step with what was delivered, from wherever it was in step. -/
theorem consistent_run {before : List Event} (h : Consistent before o.openElements o.seenRoot)
    {kinds : List Token.Kind} (hRun : o.run mode options kinds = some (last, events)) :
    Consistent (before ++ events) last.openElements last.seenRoot := by
  induction kinds generalizing o before events with
  | nil =>
    cases hRun
    simpa using h
  | cons kind rest ih =>
    obtain ⟨next, new, more, hStep, hRest, rfl⟩ := run_cons_eq_some_iff.mp hRun
    rw [← List.append_assoc]
    exact ih (consistent_step h hStep) hRest

theorem consistent_of_run {kinds : List Token.Kind}
    (hRun : Outline.run mode options {} kinds = some (last, events)) :
    Consistent events last.openElements last.seenRoot := by
  have hStart : Consistent [] ({} : Outline).openElements false := .start
  exact consistent_run hStart hRun

end Outline

end MarkupRules.Markup
