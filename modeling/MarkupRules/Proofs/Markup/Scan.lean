import MarkupRules.Proofs.Markup.Element

/-!
What a scan delivers.

`Scanner.Move` says once what reading a token can do to the events and to the open elements.
A scan that ends well has delivered the events of one whole element, and the elements that
are open on the way are those that its events have opened and not closed.
-/
namespace MarkupRules.Markup

namespace Scanner

/-- What reading one token can do. Errors and lines are left out: an error delivers nothing. -/
inductive Move (mode : AttributeMode) (options : Options) (s s' : Scanner) : Prop where
  | quiet (hEvents : s'.events = s.events) (hOpen : s'.openElements = s.openElements)
      (hSeen : s'.seenRoot = s.seenRoot)
  | opening (tag : OpenTag) (content : List Char)
      (hName : tag.name = String.ofList (Attribute.tagName content))
      (hAttributes : Attribute.ofTag mode content = .ok tag.attributes)
      (hRoot : s.openElements = [] → s.seenRoot = false) (hDepth : s.mayOpen options = true)
      (hEvents : s'.events = .opening tag :: s.events)
      (hOpen : s'.openElements = (tag.name, tag.line) :: s.openElements)
      (hSeen : s'.seenRoot = true)
  | empty (tag : OpenTag) (content : List Char)
      (hName : tag.name = String.ofList (Attribute.tagName content))
      (hAttributes : Attribute.ofTag mode content = .ok tag.attributes)
      (hRoot : s.openElements = [] → s.seenRoot = false) (hDepth : s.mayOpen options = true)
      (hEvents : s'.events = .closing :: .opening tag :: s.events)
      (hOpen : s'.openElements = s.openElements) (hSeen : s'.seenRoot = true)
  | closing (name : String) (line : Nat) (hOpen : s.openElements = (name, line) :: s'.openElements)
      (hEvents : s'.events = .closing :: s.events) (hSeen : s'.seenRoot = s.seenRoot)
  | text (raw : List Char) (hText : Text.trim raw ≠ []) (hInside : s.openElements ≠ [])
      (hEvents : s'.events = .text (String.ofList (Text.trim raw)) :: s.events)
      (hOpen : s'.openElements = s.openElements) (hSeen : s'.seenRoot = s.seenRoot)

variable {mode : AttributeMode} {options : Options}

/-- A start tag opens an element and delivers it, or it is an error that delivers nothing. An empty
element closes in the same move. -/
theorem move_stepOpening (s : Scanner) (content : List Char) (isEmpty : Bool) :
    Move mode options s (s.stepOpening mode options content isEmpty) := by
  unfold stepOpening
  dsimp only
  split
  · exact .quiet rfl rfl rfl
  · next hRoot =>
    have hRoot' : s.openElements = [] → s.seenRoot = false := by
      intro hOpen
      simpa [hOpen] using hRoot
    split
    · exact .quiet rfl rfl rfl
    · next attributes hAttributes =>
      split
      · exact .quiet rfl rfl rfl
      · next hDepth =>
        have hDepth' : s.mayOpen options = true := by simpa using hDepth
        cases isEmpty with
        | true => exact .empty _ content rfl hAttributes hRoot' hDepth' rfl rfl rfl
        | false => exact .opening _ content rfl hAttributes hRoot' hDepth' rfl rfl rfl

/-- An end tag closes the innermost element, or it is an error that delivers nothing. It never
closes another one. -/
theorem move_stepClosing (s : Scanner) (found : String) :
    Move mode options s (s.stepClosing found) := by
  rw [stepClosing_eq]
  split
  · exact .quiet rfl rfl rfl
  · next name line outer hOpen =>
    split
    · have hPop : s.openElements = (name, line) :: s.pop.openElements := by
        rw [openElements_pop, hOpen, List.tail_cons]
      exact .closing name line hPop rfl rfl
    · exact .quiet rfl rfl rfl

/-- A text is delivered inside an element, or left out if it is blank, or it is an error. It never
changes what is open. -/
theorem move_stepText (s : Scanner) (text : List Char) :
    Move mode options s (s.stepText text) := by
  unfold stepText
  dsimp only
  split
  · exact .quiet rfl rfl rfl
  · next hText =>
    split
    · exact .quiet rfl rfl rfl
    · next hInside =>
      exact .text text (by simpa using hText) (by simpa using hInside) rfl rfl rfl

/-- A move from a scanner that differs in its cursor only. The cursor is moved before a token is
read, and no move depends on it. -/
theorem Move.of_seek {s s' : Scanner} {cursor : LineCursor}
    (h : Move mode options { s with cursor } s') : Move mode options s s' := by
  cases h with
  | quiet hEvents hOpen hSeen => exact .quiet hEvents hOpen hSeen
  | opening tag content hName hAttributes hRoot hDepth hEvents hOpen hSeen =>
    exact .opening tag content hName hAttributes hRoot hDepth hEvents hOpen hSeen
  | empty tag content hName hAttributes hRoot hDepth hEvents hOpen hSeen =>
    exact .empty tag content hName hAttributes hRoot hDepth hEvents hOpen hSeen
  | closing name line hOpen hEvents hSeen => exact .closing name line hOpen hEvents hSeen
  | text raw hText hInside hEvents hOpen hSeen => exact .text raw hText hInside hEvents hOpen hSeen

/-- Reading a token is a move, whatever the token is. All that is shown of whole scans goes by these
moves and not by the tokens. -/
theorem move_step (s : Scanner) (token : Token) :
    Move mode options s (s.step mode options token) := by
  unfold step
  split
  · exact .quiet rfl rfl rfl
  · dsimp only
    split
    · exact (move_stepOpening _ _ _).of_seek
    · exact (move_stepClosing _ _).of_seek
    · split
      · exact (move_stepText _ _).of_seek
      · exact .quiet rfl rfl rfl
    · exact (move_stepText _ _).of_seek
    · exact .quiet rfl rfl rfl

/-- What the start state has and every move keeps holds after all tokens. -/
theorem foldl_step_of_move {motive : Scanner → Prop} (start : Scanner) (hStart : motive start)
    (hMove : ∀ s s', motive s → Move mode options s s' → motive s') (tokens : List Token) :
    motive (tokens.foldl (step mode options) start) := by
  induction tokens generalizing start with
  | nil => exact hStart
  | cons token rest ih => exact ih _ (hMove _ _ hStart (move_step start token))

/-- The end of the tokens adds at most an error, and only where there was none. Events and open
elements stay. -/
theorem finish_cases (fault : Option Fault) (s : Scanner) :
    (∃ e, s.finish fault = { s with error := some e }) ∨
      s.finish fault = s ∧ (s.error.isSome ∨
        s.error = none ∧ fault = none ∧ s.openElements = [] ∧ s.seenRoot = true) := by
  unfold finish
  split
  · next hError => exact .inr ⟨rfl, .inl hError⟩
  · next hError =>
    have hNone : s.error = none := by simpa using hError
    split
    · exact .inl ⟨_, rfl⟩
    · exact .inl ⟨_, rfl⟩
    · next hOpen =>
      split
      · next hSeen => exact .inr ⟨rfl, .inr ⟨hNone, rfl, hOpen, hSeen⟩⟩
      · exact .inl ⟨_, rfl⟩

end Scanner

/-- The events of a text are those that reading its tokens delivers. -/
theorem scan_events (text : String) (mode : AttributeMode) (options : Options)
    (hBlank : Text.isAllBlank text.toList = false) :
    (scan text mode options).events =
      ((tokenize text.toList).tokens.foldl (Scanner.step mode options)
        { cursor := .start text.toList }).events.reverse := by
  simp only [scan, hBlank, Bool.false_eq_true, if_false]
  rcases Scanner.finish_cases (tokenize text.toList).fault
    ((tokenize text.toList).tokens.foldl (Scanner.step mode options)
      { cursor := .start text.toList }) with ⟨e, hFinish⟩ | ⟨hFinish, -⟩
  · rw [hFinish]
  · rw [hFinish]

/-- The open elements are those that the events have opened and not closed, and the root has been
seen if it is one of them or has closed. -/
structure Consistent (events : List Event) (openElements : List (String × Nat))
    (seenRoot : Bool) : Prop where
  progress : Element.Progress events (events.foldl Element.Builder.step {})
  openElements_eq : openElements =
    (events.foldl Element.Builder.step {}).frames.map fun f => (f.tag.name, f.tag.line)
  seenRoot_iff : seenRoot = true ↔
    openElements ≠ [] ∨ (events.foldl Element.Builder.step {}).root.isSome = true

namespace Consistent

variable {events : List Event} {openElements : List (String × Nat)} {seenRoot : Bool}

theorem start : Consistent [] [] false := ⟨.before, rfl, by simp⟩

/-- As long as an element is open, what is built from the events has an open element too. -/
theorem frames_ne_nil (h : Consistent events openElements seenRoot) (hOpen : openElements ≠ []) :
    (events.foldl Element.Builder.step {}).frames ≠ [] := by
  intro hFrames
  rw [h.openElements_eq, hFrames] at hOpen
  exact hOpen rfl

/-- Before the root has closed, nothing that is built from the events is complete. -/
theorem root_eq_none (h : Consistent events openElements seenRoot)
    (hRoot : openElements = [] → seenRoot = false) :
    (events.foldl Element.Builder.step {}).root = none := by
  have hProgress := h.progress
  have hOpen := h.openElements_eq
  have hSeen := h.seenRoot_iff
  cases hBuilt : events.foldl Element.Builder.step {} with
  | mk frames root =>
    rw [hBuilt] at hProgress hOpen hSeen
    cases hProgress with
    | before => rfl
    | inside => rfl
    | after =>
      have hSeenRoot := hSeen.mpr (.inr rfl)
      rw [hRoot hOpen] at hSeenRoot
      cases hSeenRoot

/-- A start tag keeps the open elements in step with the events, unless it is that of a second root.
-/
theorem opening (h : Consistent events openElements seenRoot)
    (hRoot : openElements = [] → seenRoot = false) (tag : OpenTag) :
    Consistent (events ++ [.opening tag]) ((tag.name, tag.line) :: openElements) true := by
  have hNone := h.root_eq_none hRoot
  refine ⟨?_, ?_, by simp⟩
  · rw [List.foldl_append]
    exact h.progress.opening hNone tag
  · rw [List.foldl_append, h.openElements_eq]
    rfl

/-- A text inside an element keeps the open elements in step with the events. -/
theorem text (h : Consistent events openElements seenRoot) (hInside : openElements ≠ [])
    (s : String) : Consistent (events ++ [.text s]) openElements seenRoot := by
  have hFrames := h.frames_ne_nil hInside
  have hProgress := h.progress.text hFrames s
  have hOpen := h.openElements_eq
  have hSeen := h.seenRoot_iff
  cases hBuilt : events.foldl Element.Builder.step {} with
  | mk frames root =>
    rw [hBuilt] at hFrames hProgress hOpen hSeen
    cases frames with
    | nil => exact absurd rfl hFrames
    | cons f outer =>
      constructor <;> rw [List.foldl_append, hBuilt]
      · exact hProgress
      · exact hOpen
      · exact hSeen

/-- An end tag keeps the open elements in step with the events: on both sides the innermost one is
gone. -/
theorem closing (h : Consistent events openElements seenRoot) {name : String} {line : Nat}
    {outer : List (String × Nat)} (hOpen : openElements = (name, line) :: outer) :
    Consistent (events ++ [.closing]) outer seenRoot := by
  have hInside : openElements ≠ [] := by simp [hOpen]
  have hSeen : seenRoot = true := h.seenRoot_iff.mpr (.inl hInside)
  have hFrames := h.frames_ne_nil hInside
  have hProgress := h.progress.closing hFrames
  have hEq := h.openElements_eq
  cases hBuilt : events.foldl Element.Builder.step {} with
  | mk frames root =>
    rw [hBuilt] at hFrames hProgress hEq
    cases frames with
    | nil => exact absurd rfl hFrames
    | cons f rest =>
      rw [hOpen] at hEq
      obtain ⟨-, hOuter⟩ := List.cons.inj hEq
      cases rest with
      | nil =>
        constructor <;> rw [List.foldl_append, hBuilt]
        · exact hProgress
        · exact hOuter
        · exact ⟨fun _ => .inr rfl, fun _ => hSeen⟩
      | cons parent rest =>
        constructor <;> rw [List.foldl_append, hBuilt]
        · exact hProgress
        · exact hOuter
        · exact ⟨fun _ => .inl (by simp [hOuter]), fun _ => hSeen⟩

/-- Every move keeps the open elements and the events in step. By induction this holds all along a
scan. -/
theorem move {mode : AttributeMode} {options : Options} {s s' : Scanner}
    (h : Consistent s.events.reverse s.openElements s.seenRoot)
    (hMove : Scanner.Move mode options s s') :
    Consistent s'.events.reverse s'.openElements s'.seenRoot := by
  cases hMove with
  | quiet hEvents hOpen hSeen => rwa [hEvents, hOpen, hSeen]
  | opening tag content hName hAttributes hRoot hDepth hEvents hOpen hSeen =>
    rw [hEvents, hOpen, hSeen, List.reverse_cons]
    exact h.opening hRoot tag
  | empty tag content hName hAttributes hRoot hDepth hEvents hOpen hSeen =>
    rw [hEvents, hOpen, hSeen, List.reverse_cons, List.reverse_cons]
    exact (h.opening hRoot tag).closing rfl
  | closing name line hOpen hEvents hSeen =>
    rw [hEvents, hSeen, List.reverse_cons]
    exact h.closing hOpen
  | text raw hText hInside hEvents hOpen hSeen =>
    rw [hEvents, hOpen, hSeen, List.reverse_cons]
    exact h.text hInside _

/-- Once no element is open and the root has been seen, the events describe the root. -/
theorem describes (h : Consistent events openElements seenRoot) (hOpen : openElements = [])
    (hSeen : seenRoot = true) :
    ∃ e, Element.ofEvents? events = some e ∧ Describes events e := by
  have hProgress := h.progress
  have hEq := h.openElements_eq
  have hRoot := h.seenRoot_iff.mp hSeen
  unfold Element.ofEvents?
  cases hBuilt : events.foldl Element.Builder.step {} with
  | mk frames root =>
    rw [hBuilt] at hProgress hEq hRoot
    cases hProgress with
    | before => simp [hOpen] at hRoot
    | inside => simp [hOpen] at hEq
    | @after _ e hDescribes => exact ⟨e, rfl, hDescribes⟩

end Consistent

/-- A scan that ends well has delivered the events of one whole element, and that element is the one
built from them. -/
theorem describes_of_scan_ok {text : String} {mode : AttributeMode} {options : Options}
    (h : (scan text mode options).error = none) :
    ∃ e, Element.ofEvents? (scan text mode options).events = some e ∧
      Describes (scan text mode options).events e := by
  cases hBlank : Text.isAllBlank text.toList with
  | true => simp [scan, hBlank] at h
  | false =>
    have hConsistent := Scanner.foldl_step_of_move
      (motive := fun s => Consistent s.events.reverse s.openElements s.seenRoot)
      { cursor := .start text.toList } .start
      (fun _ _ h (hMove : Scanner.Move mode options _ _) => h.move hMove)
      (tokenize text.toList).tokens
    rw [scan_events text mode options hBlank]
    simp only [scan, hBlank, Bool.false_eq_true, if_false] at h
    rcases Scanner.finish_cases (tokenize text.toList).fault
      ((tokenize text.toList).tokens.foldl (Scanner.step mode options)
        { cursor := .start text.toList }) with
      ⟨e, hFinish⟩ | ⟨hFinish, hError | ⟨-, -, hOpen, hSeen⟩⟩
    · rw [hFinish] at h
      cases h
    · rw [hFinish] at h
      simp [h] at hError
    · exact hConsistent.describes hOpen hSeen

/-- What is built from the events of a scan that ends well is the element that they describe. -/
theorem describes_of_scan {text : String} {mode : AttributeMode} {options : Options}
    {events : List Event} {e : Element} (hScan : scan text mode options = ⟨events, none⟩)
    (hBuilt : Element.ofEvents? events = some e) :
    Describes (scan text mode options).events e := by
  obtain ⟨e', hBuilt', hDescribes⟩ := describes_of_scan_ok (congrArg Scan.error hScan)
  rw [hScan, hBuilt] at hBuilt'
  rwa [Option.some.inj hBuilt']

/-- A text is turned down with the error that its scan ends with, and with no other. -/
theorem checkWellFormed_eq_error_iff {text : String} {mode : AttributeMode} {options : Options}
    {e : Error} :
    checkWellFormed text mode options = .error e ↔ (scan text mode options).error = some e := by
  unfold checkWellFormed
  cases (scan text mode options).error with
  | none => simp
  | some e' => simp

/-- A text is accepted just if its scan ends without an error. -/
theorem checkWellFormed_eq_ok_iff {text : String} {mode : AttributeMode} {options : Options} :
    checkWellFormed text mode options = .ok () ↔ (scan text mode options).error = none := by
  unfold checkWellFormed
  cases (scan text mode options).error with
  | none => simp
  | some e' => simp

/-- Every start tag that a scan delivers has the attributes that its content holds. -/
theorem attributes_of_opening_mem {text : String} {mode : AttributeMode} {options : Options}
    {tag : OpenTag} (h : .opening tag ∈ (scan text mode options).events) :
    ∃ content, tag.name = String.ofList (Attribute.tagName content) ∧
      Attribute.ofTag mode content = .ok tag.attributes := by
  cases hBlank : Text.isAllBlank text.toList with
  | true => simp [scan, hBlank] at h
  | false =>
    rw [scan_events text mode options hBlank, List.mem_reverse] at h
    refine Scanner.foldl_step_of_move
      (motive := fun s => .opening tag ∈ s.events → ∃ content,
        tag.name = String.ofList (Attribute.tagName content) ∧
          Attribute.ofTag mode content = .ok tag.attributes)
      { cursor := .start text.toList } (by simp) ?_ (tokenize text.toList).tokens h
    intro s s' ih hMove hMem
    cases hMove with
    | quiet hEvents => exact ih (hEvents ▸ hMem)
    | opening tag' content hName hAttributes hRoot hDepth hEvents =>
      rw [hEvents] at hMem
      rcases List.mem_cons.mp hMem with hHead | hTail
      · obtain rfl := Event.opening.inj hHead
        exact ⟨content, hName, hAttributes⟩
      · exact ih hTail
    | empty tag' content hName hAttributes hRoot hDepth hEvents =>
      rw [hEvents] at hMem
      simp only [List.mem_cons, reduceCtorEq, false_or] at hMem
      rcases hMem with hHead | hTail
      · obtain rfl := Event.opening.inj hHead
        exact ⟨content, hName, hAttributes⟩
      · exact ih hTail
    | closing name line hOpen hEvents => exact ih (by simpa [hEvents] using hMem)
    | text raw hText hInside hEvents => exact ih (by simpa [hEvents] using hMem)

theorem isTagBlank_of_mem_name {text : String} {mode : AttributeMode} {options : Options}
    {tag : OpenTag} (h : .opening tag ∈ (scan text mode options).events) {c : Char}
    (hMem : c ∈ tag.name.toList) : isTagBlank c = false := by
  obtain ⟨content, hName, -⟩ := attributes_of_opening_mem h
  rw [hName, String.toList_ofList] at hMem
  simpa using List.all_eq_true.mp List.all_takeWhile c hMem

end MarkupRules.Markup
