import MarkupRules.Proofs.Markup.Scan
import MarkupRules.Proofs.Text.Blank

/-!
How the events of a scan are nested, and what the error of a scan says about them.

The events are counted: as many elements are open after some events as the start tags
outnumber the end tags. What a scan has delivered when it stops is then read off the
elements that its state holds open.
-/
namespace MarkupRules.Markup

/-- Whether an element opens. -/
def Event.isOpening : Event → Bool
  | .opening _ => true
  | _ => false

/-- Whether an element closes. -/
def Event.isClosing : Event → Bool
  | .closing => true
  | _ => false

/-- The number of elements that open in the course of events. -/
def openings (events : List Event) : Nat := events.countP Event.isOpening

/-- The number of elements that close in the course of events. -/
def closings (events : List Event) : Nat := events.countP Event.isClosing

@[simp] theorem openings_nil : openings [] = 0 := rfl

@[simp] theorem closings_nil : closings [] = 0 := rfl

@[simp] theorem openings_append (before after : List Event) :
    openings (before ++ after) = openings before + openings after := List.countP_append

@[simp] theorem closings_append (before after : List Event) :
    closings (before ++ after) = closings before + closings after := List.countP_append

@[simp] theorem openings_cons (e : Event) (rest : List Event) :
    openings (e :: rest) = openings rest + if e.isOpening then 1 else 0 := List.countP_cons

@[simp] theorem closings_cons (e : Event) (rest : List Event) :
    closings (e :: rest) = closings rest + if e.isClosing then 1 else 0 := List.countP_cons

/-- Pieces open as many elements as they close, if the elements among them do. Texts open and close
nothing. -/
theorem openings_pieces {pieces : List Piece}
    (h : ∀ events e, .element events e ∈ pieces → openings events = closings events) :
    openings (pieces.flatMap Piece.events) = closings (pieces.flatMap Piece.events) := by
  induction pieces with
  | nil => rfl
  | cons p rest ih =>
    have hRest := ih fun events e hMem => h events e (.tail _ hMem)
    rw [List.flatMap_cons, openings_append, closings_append, hRest]
    cases p with
    | text s => rfl
    | element events e => rw [Piece.events, h events e (.head _)]

/-- An element closes as often as it and the elements inside it open, so that nothing is left open
behind it. -/
theorem openings_of_describes {events : List Event} {e : Element} (h : Describes events e) :
    openings events = closings events := by
  induction h with
  | mk tag pieces inside ih =>
    simp [openings_pieces ih, Event.isOpening, Event.isClosing]

/-- The elements that are open are those by which the start tags outnumber the end tags. -/
theorem Element.Pending.openings {frames : List Frame} {events : List Event}
    (h : Pending frames events) :
    openings events = closings events + frames.length := by
  induction h with
  | nil => rfl
  | cons tag pieces hOuter inside ih =>
    have hPieces := openings_pieces fun events e hMem =>
      openings_of_describes (inside events e hMem)
    simp only [openings_append, closings_append, openings_cons, closings_cons, List.length_cons,
      Event.isOpening, Event.isClosing, hPieces, ih]
    simp
    omega

/-- As many elements are open as the start tags outnumber the end tags. -/
theorem Consistent.openings_eq {events : List Event} {openElements : List (String × Nat)}
    {seenRoot : Bool} (h : Consistent events openElements seenRoot) :
    openings events = closings events + openElements.length := by
  have hProgress := h.progress
  rw [h.openElements_eq, List.length_map]
  cases hBuilt : events.foldl Element.Builder.step {} with
  | mk frames root =>
    rw [hBuilt] at hProgress
    cases hProgress with
    | before => rfl
    | inside hPending => exact hPending.openings
    | after hDescribes => exact openings_of_describes hDescribes

/-- Before the root has been seen nothing is delivered. -/
theorem Consistent.events_eq_nil {events : List Event} {openElements : List (String × Nat)}
    (h : Consistent events openElements false) : events = [] := by
  have hProgress := h.progress
  have hNotSeen := mt h.seenRoot_iff.mpr (by simp)
  rw [h.openElements_eq] at hNotSeen
  cases hBuilt : events.foldl Element.Builder.step {} with
  | mk frames root =>
    rw [hBuilt] at hProgress hNotSeen
    cases hProgress with
    | before => rfl
    | inside => simp at hNotSeen
    | after => simp at hNotSeen

/-- Events that are, wherever they are cut off, the beginning of one element: no end tag comes
without its start tag, nothing comes behind the end of the first element, and every text stands
inside that element, not empty and without blanks at its ends. -/
structure WellNested (events : List Event) : Prop where
  closings_le : ∀ before, before <+: events → closings before ≤ openings before
  whole : ∀ before, before <+: events → before ≠ [] → closings before = openings before →
    before = events
  text : ∀ before s, before ++ [.text s] <+: events →
    s ≠ "" ∧ Text.trimmed s = s ∧ closings before < openings before

namespace WellNested

variable {events : List Event}

theorem nil : WellNested [] := by
  constructor
  case closings_le =>
    intro before hPrefix
    simp [List.prefix_nil.mp hPrefix]
  case whole =>
    intro before hPrefix hSome
    exact absurd (List.prefix_nil.mp hPrefix) hSome
  case text =>
    intro before s hPrefix
    simp at hPrefix

/-- One more event, unless the first element has closed. -/
theorem snoc (h : WellNested events) (e : Event)
    (hGoesOn : events = [] ∨ closings events < openings events)
    (hLe : closings (events ++ [e]) ≤ openings (events ++ [e]))
    (hText : ∀ s, e = .text s →
      s ≠ "" ∧ Text.trimmed s = s ∧ closings events < openings events) :
    WellNested (events ++ [e]) := by
  constructor
  case closings_le =>
    intro before hPrefix
    rcases List.prefix_concat_iff.mp hPrefix with rfl | hOld
    · exact hLe
    · exact h.closings_le before hOld
  case whole =>
    intro before hPrefix hSome hEqual
    rcases List.prefix_concat_iff.mp hPrefix with rfl | hOld
    · rfl
    · obtain rfl := h.whole before hOld hSome hEqual
      rcases hGoesOn with hNone | hOpen
      · exact absurd hNone hSome
      · omega
  case text =>
    intro before s hPrefix
    rcases List.prefix_concat_iff.mp hPrefix with hNew | hOld
    · obtain ⟨rfl, hEvent⟩ := List.append_inj' hNew rfl
      exact hText s (List.cons.inj hEvent).1.symm
    · exact h.text before s hOld

/-- A start tag leaves events well-nested, if it is the first event or some element is still open.
-/
theorem opening (h : WellNested events)
    (hGoesOn : events = [] ∨ closings events < openings events) (tag : OpenTag) :
    WellNested (events ++ [.opening tag]) := by
  have hLe := h.closings_le events (List.prefix_refl _)
  refine h.snoc _ hGoesOn ?_ (by simp)
  simp [Event.isOpening, Event.isClosing]
  omega

/-- An end tag leaves events well-nested, if there is an element for it to close. -/
theorem closing (h : WellNested events) (hOpen : closings events < openings events) :
    WellNested (events ++ [.closing]) := by
  refine h.snoc _ (.inr hOpen) ?_ (by simp)
  simp [Event.isOpening, Event.isClosing]
  omega

/-- A text that is trimmed before it is delivered leaves events well-nested, if an element is open
and the text is not blank. -/
theorem trimmedText (h : WellNested events) (hOpen : closings events < openings events)
    {raw : List Char} (hText : Text.trim raw ≠ []) :
    WellNested (events ++ [.text (String.ofList (Text.trim raw))]) := by
  refine h.snoc _ (.inr hOpen) ?_ ?_
  · simp [Event.isOpening, Event.isClosing]
    omega
  · rintro s ⟨⟩
    refine ⟨?_, ?_, hOpen⟩
    · simpa using hText
    · rw [Text.trimmed, String.toList_ofList, Text.trim_trim]

/-- Every move keeps the events well-nested. So they are, wherever a scan stops. -/
theorem move {mode : AttributeMode} {options : Options} {s s' : Scanner}
    (h : WellNested s.events.reverse)
    (hConsistent : Consistent s.events.reverse s.openElements s.seenRoot)
    (hMove : Scanner.Move mode options s s') : WellNested s'.events.reverse := by
  -- How many elements are open is known from the stack, so the counts need no separate invariant.
  have hOpenings := hConsistent.openings_eq
  have hInside (hOpen : s.openElements ≠ []) :
      closings s.events.reverse < openings s.events.reverse := by
    have hPos := List.length_pos_iff.mpr hOpen
    omega
  have hGoesOn (hRoot : s.openElements = [] → s.seenRoot = false) :
      s.events.reverse = [] ∨ closings s.events.reverse < openings s.events.reverse := by
    by_cases hOpen : s.openElements = []
    · exact .inl (Consistent.events_eq_nil (hRoot hOpen ▸ hConsistent))
    · exact .inr (hInside hOpen)
  cases hMove with
  | quiet hEvents hOpen hSeen => rwa [hEvents]
  | opening tag content hName hAttributes hRoot hDepth hEvents hOpen hSeen =>
    rw [hEvents, List.reverse_cons]
    exact h.opening (hGoesOn hRoot) tag
  | empty tag content hName hAttributes hRoot hDepth hEvents hOpen hSeen =>
    rw [hEvents, List.reverse_cons, List.reverse_cons]
    refine (h.opening (hGoesOn hRoot) tag).closing ?_
    simp [Event.isOpening, Event.isClosing]
    omega
  | closing name line hOpen hEvents hSeen =>
    rw [hEvents, List.reverse_cons]
    exact h.closing (hInside (by simp [hOpen]))
  | text raw hText hOpen hEvents hSame hSeen =>
    rw [hEvents, List.reverse_cons]
    exact h.trimmedText (hInside hOpen) hText

end WellNested

namespace Scanner

variable {mode : AttributeMode} {options : Options}

/-- The errors that reading tokens raises, with what is open when it stops there. -/
inductive Raises (options : Options) (s : Scanner) : Error → Prop where
  | malformed (line : Nat) (defect : Defect) : Raises options s (.malformed line defect)
  | multipleRoots (line : Nat) (hOpen : s.openElements = []) (hSeen : s.seenRoot = true) :
      Raises options s (.multipleRoots line)
  | textOutsideRoot (line : Nat) (hOpen : s.openElements = []) :
      Raises options s (.textOutsideRoot line)
  | tooDeep (line : Nat) (hDepth : s.mayOpen options = false) :
      Raises options s (.tooDeep line (options.maxDepth.getD 0))

/-- What a start tag raises tells the state it was raised in: a second root, attributes that cannot
be read, or too many open elements. -/
theorem raises_stepOpening {s : Scanner} (hGoes : s.error = none) {content : List Char}
    {isEmpty : Bool} {e : Error}
    (h : (s.stepOpening mode options content isEmpty).error = some e) :
    Raises options (s.stepOpening mode options content isEmpty) e := by
  unfold stepOpening at h ⊢
  dsimp only at h ⊢
  split at h
  · next hRoot =>
    rw [if_pos hRoot]
    obtain rfl := Option.some.inj h
    simp only [Bool.and_eq_true, List.isEmpty_iff] at hRoot
    exact .multipleRoots _ hRoot.1 hRoot.2
  · next hRoot =>
    rw [if_neg hRoot]
    split at h
    · obtain rfl := Option.some.inj h
      exact .malformed _ _
    · split at h
      · next hDepth =>
        rw [if_pos hDepth]
        obtain rfl := Option.some.inj h
        have hFull : s.mayOpen options = false := by simpa using hDepth
        exact .tooDeep _ hFull
      · cases isEmpty <;> simp [deliver, hGoes] at h

/-- An end tag raises an error on its own line only, and it leaves the elements that were open as
they are. -/
theorem raises_stepClosing {s : Scanner} (hGoes : s.error = none) {found : String} {e : Error}
    (h : (s.stepClosing found).error = some e) : Raises options (s.stepClosing found) e := by
  rw [stepClosing_eq] at h ⊢
  split at h
  · obtain rfl := Option.some.inj h
    exact .malformed _ _
  · next name line outer hOpen =>
    split at h
    · simp [deliver, hGoes] at h
    · next hName =>
      rw [if_neg hName]
      obtain rfl := Option.some.inj h
      exact .malformed _ _

/-- A text raises an error only outside of all elements, where no text may stand. -/
theorem raises_stepText {s : Scanner} (hGoes : s.error = none) {text : List Char} {e : Error}
    (h : (s.stepText text).error = some e) : Raises options (s.stepText text) e := by
  unfold stepText at h ⊢
  dsimp only at h ⊢
  split at h
  · simp [hGoes] at h
  · next hText =>
    rw [if_neg hText]
    split at h
    · next hOpen =>
      rw [if_pos hOpen]
      obtain rfl := Option.some.inj h
      exact .textOutsideRoot _ (List.isEmpty_iff.mp hOpen)
    · simp [deliver, hGoes] at h

/-- The error that a token raises tells the state it was raised in. One that was there before stays
the error. -/
theorem raises_step {s : Scanner} (hBefore : ∀ e, s.error = some e → Raises options s e)
    (token : Token) {e : Error} (h : (s.step mode options token).error = some e) :
    Raises options (s.step mode options token) e := by
  unfold step at h ⊢
  split at h
  · next hError =>
    rw [if_pos hError]
    exact hBefore e h
  · next hError =>
    rw [if_neg hError]
    have hGoes : ({ s with cursor := s.cursor.seek token.start } : Scanner).error = none := by
      simpa using hError
    dsimp only at h ⊢
    split at h
    · exact raises_stepOpening hGoes h
    · exact raises_stepClosing hGoes h
    · split at h
      · exact raises_stepText hGoes h
      · obtain rfl := Option.some.inj h
        exact .malformed _ _
    · exact raises_stepText hGoes h
    · rw [hGoes] at h
      cases h

/-- The error that tokens raise tells the state the scan stopped in, by induction on the tokens. -/
theorem raises_foldl_step (tokens : List Token) {s : Scanner}
    (hBefore : ∀ e, s.error = some e → Raises options s e) {e : Error}
    (h : (tokens.foldl (step mode options) s).error = some e) :
    Raises options (tokens.foldl (step mode options) s) e := by
  induction tokens generalizing s with
  | nil => exact hBefore e h
  | cons token rest ih => exact ih (fun e hStep => raises_step hBefore token hStep) h

/-- How a scan ends in a state: well, with an error that was raised, or because of what is open
at the end of the text. -/
inductive Ends (options : Options) (s : Scanner) : Option Error → Prop where
  | well (hOpen : s.openElements = []) (hSeen : s.seenRoot = true) : Ends options s none
  | raised {e : Error} (hRaised : Raises options s e) : Ends options s (some e)
  | unclosed {name : String} {line : Nat} {outer : List (String × Nat)}
      (hOpen : s.openElements = (name, line) :: outer) :
      Ends options s (some (.unclosed name line))
  | noRoot (hSeen : s.seenRoot = false) : Ends options s (some .noRoot)

/-- At the end of the text a scan ends well, with an error from before, or because of what is still
open. -/
theorem ends_finish {s : Scanner} (hBefore : ∀ e, s.error = some e → Raises options s e)
    (fault : Option Fault) : Ends options s (s.finish fault).error := by
  unfold finish
  split
  · next hError =>
    obtain ⟨e, hSome⟩ := Option.isSome_iff_exists.mp hError
    rw [hSome]
    exact .raised (hBefore e hSome)
  · next hError =>
    split
    · exact .raised (.malformed _ _)
    · next hOpen => exact .unclosed hOpen
    · next hOpen =>
      split
      · next hSeen =>
        have hGoes : s.error = none := by simpa using hError
        rw [hGoes]
        exact .well hOpen hSeen
      · next hSeen => exact .noRoot (by simpa using hSeen)

end Scanner

/-- Every text that is not blank is read to a state whose open elements are those of the events
delivered, and which accounts for the error. -/
theorem exists_ends_of_scan {text : String} (mode : AttributeMode) (options : Options)
    (hBlank : Text.isAllBlank text.toList = false) :
    ∃ s : Scanner, (scan text mode options).events = s.events.reverse ∧
      Consistent s.events.reverse s.openElements s.seenRoot ∧ WellNested s.events.reverse ∧
      s.Ends options (scan text mode options).error := by
  refine ⟨(tokenize text.toList).tokens.foldl (Scanner.step mode options)
    { cursor := .start text.toList }, scan_events text mode options hBlank, ?_⟩
  rw [← and_assoc]
  constructor
  · refine Scanner.foldl_step_of_move (motive := fun s =>
      Consistent s.events.reverse s.openElements s.seenRoot ∧ WellNested s.events.reverse)
      { cursor := .start text.toList } ⟨.start, .nil⟩ ?_ _
    intro s s' ⟨hConsistent, hNested⟩ (hMove : Scanner.Move mode options s s')
    exact ⟨hConsistent.move hMove, hNested.move hConsistent hMove⟩
  · simp only [scan, hBlank, Bool.false_eq_true, if_false]
    exact Scanner.ends_finish (fun e h => Scanner.raises_foldl_step _ (by simp) h) _

/-- The innermost element that events leave open has this name and opens on this line: what comes
behind its start tag are texts and whole elements. -/
def InnermostOpen (events : List Event) (name : String) (line : Nat) : Prop :=
  ∃ (before : List Event) (tag : OpenTag) (pieces : List Piece),
    events = before ++ .opening tag :: pieces.flatMap Piece.events ∧
      (∀ inside e, .element inside e ∈ pieces → Describes inside e) ∧
      tag.name = name ∧ tag.line = line

/-- The innermost element that is held open is the innermost that the events leave open, with the
line of its start tag. -/
theorem Consistent.innermostOpen {events : List Event} {name : String} {line : Nat}
    {outer : List (String × Nat)} {seenRoot : Bool}
    (h : Consistent events ((name, line) :: outer) seenRoot) : InnermostOpen events name line := by
  have hProgress := h.progress
  have hOpen := h.openElements_eq
  cases hBuilt : events.foldl Element.Builder.step {} with
  | mk frames root =>
    rw [hBuilt] at hProgress hOpen
    cases hProgress with
    | before => simp at hOpen
    | inside hPending =>
      cases hPending with
      | @cons _ before tag pieces hOuter inside =>
        obtain ⟨hName, hLine⟩ := by simpa using (List.cons.inj hOpen).1
        exact ⟨before, tag, pieces, rfl, inside, hName.symm, hLine.symm⟩
    | after => simp at hOpen

/-- The events and the error of a scan agree: they are one whole element if the scan ends well or
comes upon a second one, none if there was no root, and otherwise what an unclosed element has
so far. -/
structure Scan.Nested (s : Scan) : Prop where
  wellNested : WellNested s.events
  well : s.error = none → ∃ root, Describes s.events root
  multipleRoots : ∀ line, s.error = some (.multipleRoots line) → ∃ root, Describes s.events root
  unclosed : ∀ name line, s.error = some (.unclosed name line) → InnermostOpen s.events name line
  nothing : s.error = some .noRoot ∨ s.error = some .empty → s.events = []

/-- Every scan of any text, in either mode and under any options, delivers events that are
well-nested as far as they go. If it ends well or comes upon a second root, they are one whole
element; if it ends inside an element, the error names the innermost one that they leave open;
without a root there are none. -/
theorem nested_scan (text : String) (mode : AttributeMode) (options : Options) :
    (scan text mode options).Nested := by
  cases hBlank : Text.isAllBlank text.toList with
  | true =>
    have hScan : scan text mode options = ⟨[], some .empty⟩ := by simp [scan, hBlank]
    rw [hScan]
    constructor <;> simp [WellNested.nil]
  | false =>
    obtain ⟨s, hEvents, hConsistent, hNested, hEnds⟩ := exists_ends_of_scan mode options hBlank
    have hWhole (hOpen : s.openElements = []) (hSeen : s.seenRoot = true) :
        ∃ root, Describes s.events.reverse root := by
      obtain ⟨root, -, hRoot⟩ := hConsistent.describes hOpen hSeen
      exact ⟨root, hRoot⟩
    constructor <;> rw [hEvents]
    case wellNested => exact hNested
    case well =>
      intro hError
      rw [hError] at hEnds
      cases hEnds with
      | well hOpen hSeen => exact hWhole hOpen hSeen
    case multipleRoots =>
      intro line hError
      rw [hError] at hEnds
      cases hEnds with
      | raised hRaised =>
        cases hRaised with
        | multipleRoots _ hOpen hSeen => exact hWhole hOpen hSeen
    case unclosed =>
      intro name line hError
      rw [hError] at hEnds
      cases hEnds with
      | raised hRaised => cases hRaised
      | unclosed hOpen => exact (hOpen ▸ hConsistent).innermostOpen
    case nothing =>
      intro hError
      rcases hError with hError | hError
      · rw [hError] at hEnds
        cases hEnds with
        | raised hRaised => cases hRaised
        | noRoot hSeen => exact Consistent.events_eq_nil (hSeen ▸ hConsistent)
      · rw [hError] at hEnds
        cases hEnds with
        | raised hRaised => cases hRaised

end MarkupRules.Markup
