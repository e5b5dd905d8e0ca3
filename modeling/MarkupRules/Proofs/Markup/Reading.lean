import MarkupRules.Markup.Event
import MarkupRules.Proofs.Markup.Token

/-!
Reading tokens whose places do not matter.

`Reads` follows a scanner over the kinds of tokens, wherever the tokens start. What the
places decide is the lines, and without line ends there is only one.
-/
namespace MarkupRules.Markup

/-- A cursor in a text without line ends. -/
structure LineCursor.OnFirstLine (c : LineCursor) : Prop where
  text : '\n' ∉ c.text
  rest : '\n' ∉ c.rest
  line : c.line = 1

namespace LineCursor

/-- In a text without line ends a cursor that moves on stays on the first line, however far it
moves. -/
theorem onFirstLine_forward {text : List Char} (hText : '\n' ∉ text) (position offset : Nat)
    {rest : List Char} (hRest : '\n' ∉ rest) :
    (forward text position offset 1 rest).OnFirstLine := by
  induction rest generalizing offset with
  | nil => exact ⟨hText, by simp [forward], rfl⟩
  | cons c rest ih =>
    rw [forward]
    split
    · obtain ⟨hHead, hTail⟩ := not_or.mp (mt List.mem_cons.mpr hRest)
      rw [if_neg (Ne.symm hHead)]
      exact ih _ hTail
    · exact ⟨hText, hRest, rfl⟩

/-- Wherever a cursor on the first line is moved, it is on the first line, for there is no other. -/
theorem OnFirstLine.seek {c : LineCursor} (h : c.OnFirstLine) (position : Nat) :
    (c.seek position).OnFirstLine := by
  unfold LineCursor.seek
  split
  · exact onFirstLine_forward h.text _ _ h.text
  · rw [h.line]
    exact onFirstLine_forward h.text _ _ h.rest

end LineCursor

namespace Scanner

variable {mode : AttributeMode} {options : Options}

/-- An element may open inside another one, or as the first root. This is the test that the scanner
makes before anything else. -/
theorem mayBegin {s : Scanner} (hRoot : s.openElements = [] → s.seenRoot = false) :
    (s.openElements.isEmpty && s.seenRoot) = false := by
  cases hOpen : s.openElements with
  | nil => simp [hRoot hOpen]
  | cons e outer => rfl

section Step

variable {s : Scanner} (hError : s.error = none) (start : Nat)

include hError

/-- A start tag whose attributes can be read opens an element inside another one, or the root.
Without a limit on the depth nothing else is asked. -/
theorem step_opening {content : List Char} {attributes : List Attribute}
    (hRoot : s.openElements = [] → s.seenRoot = false)
    (hAttributes : Attribute.ofTag mode content = .ok attributes)
    (hDepth : options.maxDepth = none) :
    s.step mode options ⟨start, .opening content false⟩ =
      { s with
        cursor := s.cursor.seek start
        seenRoot := true
        events := .opening ⟨String.ofList (Attribute.tagName content), attributes,
          (s.cursor.seek start).line⟩ :: s.events }.push
        (String.ofList (Attribute.tagName content)) (s.cursor.seek start).line := by
  simp [step, stepOpening, hError, mayBegin hRoot, hAttributes, mayOpen, hDepth, deliver, push]

/-- An empty element is delivered as opening and closing at once, and leaves open what was open. -/
theorem step_empty {content : List Char} {attributes : List Attribute}
    (hRoot : s.openElements = [] → s.seenRoot = false)
    (hAttributes : Attribute.ofTag mode content = .ok attributes)
    (hDepth : options.maxDepth = none) :
    s.step mode options ⟨start, .opening content true⟩ =
      { s with
        cursor := s.cursor.seek start
        seenRoot := true
        events := .closing :: .opening ⟨String.ofList (Attribute.tagName content), attributes,
          (s.cursor.seek start).line⟩ :: s.events } := by
  simp [step, stepOpening, hError, mayBegin hRoot, hAttributes, mayOpen, hDepth, deliver]

/-- A start tag behind the root is an error on its line, whatever is in the tag. Its attributes are
not even read. -/
theorem step_secondRoot {content : List Char} {isEmpty : Bool} (hOpen : s.openElements = [])
    (hSeen : s.seenRoot = true) :
    (s.step mode options ⟨start, .opening content isEmpty⟩).error =
      some (.multipleRoots (s.cursor.seek start).line) := by
  simp [step, stepOpening, hError, hOpen, hSeen, fail]

theorem step_closing {name : List Char} {line : Nat} {outer : List (String × Nat)}
    (hOpen : s.openElements = (String.ofList name, line) :: outer) :
    s.step mode options ⟨start, .closing name⟩ =
      { s with
        cursor := s.cursor.seek start
        events := .closing :: s.events }.pop := by
  simp [step, stepClosing_eq, hError, hOpen, deliver, pop]

/-- An end tag with no element open is an error on its line that names the tag. -/
theorem step_unmatchedEnd {name : List Char} (hOpen : s.openElements = []) :
    (s.step mode options ⟨start, .closing name⟩).error =
      some (.malformed (s.cursor.seek start).line (.unmatchedEnd (String.ofList name))) := by
  simp [step, stepClosing_eq, hError, hOpen, fail]

/-- An end tag with another name than that of the innermost element is an error that names both. -/
theorem step_mismatchedEnd {name : List Char} {expected : String} {line : Nat}
    {outer : List (String × Nat)} (hOpen : s.openElements = (expected, line) :: outer)
    (hName : String.ofList name ≠ expected) :
    (s.step mode options ⟨start, .closing name⟩).error =
      some (.malformed (s.cursor.seek start).line
        (.mismatchedEnd expected (String.ofList name))) := by
  simp [step, stepClosing_eq, hError, hOpen, fail, hName]

theorem step_blankText {raw text : List Char} (hResolve : Reference.resolve raw = .ok text)
    (hText : Text.trim text = []) :
    s.step mode options ⟨start, .text raw⟩ = { s with cursor := s.cursor.seek start } := by
  simp [step, stepText, hError, hResolve, hText]

/-- A text with something in it is delivered inside an element without the blanks around it. -/
theorem step_text {raw text : List Char} (hResolve : Reference.resolve raw = .ok text)
    (hText : Text.trim text ≠ []) (hInside : s.openElements ≠ []) :
    s.step mode options ⟨start, .text raw⟩ =
      { s with
        cursor := s.cursor.seek start
        events := .text (String.ofList (Text.trim text)) :: s.events } := by
  simp [step, stepText, hError, hResolve, hText, hInside, deliver]

end Step

theorem step_of_error (mode : AttributeMode) (options : Options) {s : Scanner} {e : Error}
    (hError : s.error = some e) (token : Token) : s.step mode options token = s := by
  simp [step, hError]

/-- A scan may end when the root has closed and no fault was met. Nothing is added to it then. -/
theorem finish_of_closed {s : Scanner} (hError : s.error = none) (hOpen : s.openElements = [])
    (hSeen : s.seenRoot = true) : s.finish none = s := by
  simp [finish, hError, hOpen, hSeen]

/-- `Reads mode options kinds s s'`: tokens of these kinds, wherever they start, lead from the
scanner `s` to `s'`. -/
inductive Reads (mode : AttributeMode) (options : Options) :
    List Token.Kind → Scanner → Scanner → Prop where
  | nil (s : Scanner) : Reads mode options [] s s
  | cons {kind : Token.Kind} {kinds : List Token.Kind} {s s' : Scanner} (start : Nat)
      (hRest : Reads mode options kinds (s.step mode options ⟨start, kind⟩) s') :
      Reads mode options (kind :: kinds) s s'

/-- Folding over tokens is reading their kinds, so what is shown by kinds holds of the scanner. -/
theorem reads_foldl (tokens : List Token) (s : Scanner) :
    Reads mode options (tokens.map Token.kind) s (tokens.foldl (step mode options) s) := by
  induction tokens generalizing s with
  | nil => exact .nil s
  | cons token rest ih => exact .cons token.start (ih _)

/-- Tokens that are read in one go are read up to any place first and then from there. -/
theorem Reads.split {before after : List Token.Kind} {s s' : Scanner}
    (h : Reads mode options (before ++ after) s s') :
    ∃ middle, Reads mode options before s middle ∧ Reads mode options after middle s' := by
  induction before generalizing s with
  | nil => exact ⟨s, .nil s, h⟩
  | cons kind rest ih =>
    cases h with
    | cons start hRest =>
      obtain ⟨middle, hBefore, hAfter⟩ := ih hRest
      exact ⟨middle, .cons start hBefore, hAfter⟩

/-- Behind an error nothing is read. -/
theorem Reads.eq_of_error {kinds : List Token.Kind} {s s' : Scanner} {e : Error}
    (h : Reads mode options kinds s s') (hError : s.error = some e) : s' = s := by
  induction h with
  | nil => rfl
  | @cons kind kinds s s' start hRest ih =>
    have hSame := step_of_error mode options hError ⟨start, kind⟩
    rw [hSame] at ih
    exact ih hError

/-- An error that one of the tokens makes is the error in the end, for what comes behind it is not
read. -/
theorem Reads.error_at {before after : List Token.Kind} {kind : Token.Kind} {s s' : Scanner}
    (h : Reads mode options (before ++ kind :: after) s s') :
    ∃ middle start, Reads mode options before s middle ∧
      ∀ e, (middle.step mode options ⟨start, kind⟩).error = some e → s'.error = some e := by
  obtain ⟨middle, hBefore, hAfter⟩ := h.split
  -- From the error on every step leaves the state as it is.
  cases hAfter with
  | cons start hRest =>
    refine ⟨middle, start, hBefore, fun e hError => ?_⟩
    rw [hRest.eq_of_error hError, hError]

end Scanner

/-- A text that ends outside of tags is scanned by reading its tokens from the start and then coming
to the end. -/
theorem exists_reads_scan (text : String) {held : List Char} {kinds : List Token.Kind}
    (mode : AttributeMode) (options : Options) (hBlank : Text.isAllBlank text.toList = false)
    (hStart : text.toList.head? ≠ some '\ufeff')
    (hAt : Lexer.At .text held kinds (text.toList.foldl Lexer.step {})) :
    ∃ s, Scanner.Reads mode options (Lexer.textKinds held ++ kinds).reverse
        { cursor := .start text.toList } s ∧
      scan text mode options = ⟨(s.finish none).events.reverse, (s.finish none).error⟩ := by
  obtain ⟨hFault, hKinds⟩ := map_kind_tokenize hStart hAt
  refine ⟨_, hKinds ▸ Scanner.reads_foldl _ _, ?_⟩
  simp [scan, hBlank, hFault]

end MarkupRules.Markup
