import MarkupRules.Proofs.Markup.Escape
import MarkupRules.Proofs.Markup.Line
import MarkupRules.Proofs.Markup.Reading
import MarkupRules.Proofs.Markup.Turn
import MarkupRules.Proofs.Text.Blank

/-!
Blanks in front of a text.

The lexer reads a text behind blanks as it reads the text alone, only that every place lies further
on by the length of the blanks, and the scanner reads the tokens as it does alone, only that every
line lies further down by the line ends among them. The blanks themselves are at most one text more,
which delivers nothing.
-/
namespace MarkupRules.Markup

/-- The token with `size` more bytes before it. -/
def Token.shift (size : Nat) (token : Token) : Token := { token with start := token.start + size }

/-- The fault with `size` more bytes before it. -/
def Fault.shift (size : Nat) (fault : Fault) : Fault :=
  { fault with position := fault.position + size }

namespace Lexer

/-- The lexer with `size` bytes, and the tokens `older` in them, in front of what it has read. -/
def behind (older : List Token) (size : Nat) (s : Lexer) : Lexer :=
  { s with
    tokens := s.tokens.map (Token.shift size) ++ older
    fault := s.fault.map (Fault.shift size)
    start := s.start + size
    offset := s.offset + size }

section Behind

variable (older : List Token) (size : Nat) (s : Lexer)

theorem mode_behind : (s.behind older size).mode = s.mode := rfl

theorem held_behind : (s.behind older size).held = s.held := rfl

theorem isSome_fault_behind : (s.behind older size).fault.isSome = s.fault.isSome :=
  Option.isSome_map

theorem advance_behind (c : Char) :
    (s.behind older size).advance c = (s.advance c).behind older size := by
  simp only [advance, behind, Nat.add_right_comm]

/-- A text that is complete becomes a token of its own, further on by what stands in front. -/
theorem completeText_behind :
    (s.behind older size).completeText = s.completeText.behind older size := by
  unfold completeText
  rw [held_behind]
  split_ifs <;> rfl

/-- No turn of the lexer looks at a place, so each goes on as it does in the text alone. -/
theorem run_behind (turn : Turn) (c : Char) :
    turn.run (s.behind older size) c = (turn.run s c).behind older size := by
  cases turn with
  | take next =>
    dsimp only [Turn.run]
    rw [advance_behind]
    rfl
  | openMarkup =>
    dsimp only [Turn.run]
    rw [completeText_behind, advance_behind]
    rfl
  | complete kind =>
    dsimp only [Turn.run]
    rw [advance_behind]
    rfl
  | fail defect => rfl
  | failHere defect => rfl

/-- One character is read behind other text as it is read without it. -/
theorem step_behind (c : Char) : (s.behind older size).step c = (s.step c).behind older size := by
  cases hFault : s.fault with
  | some fault =>
    have hSome : s.fault.isSome = true := by rw [hFault, Option.isSome_some]
    rw [step_of_fault hSome, step_of_fault ((isSome_fault_behind older size s).trans hSome)]
  | none =>
    have hBehind : (s.behind older size).fault = none := by simp [behind, hFault]
    rw [step_eq_run hFault, step_eq_run hBehind]
    exact run_behind older size s _ c

/-- All characters are read behind other text as they are read without it, by induction on them. -/
theorem foldl_step_behind (cs : List Char) :
    cs.foldl step (s.behind older size) = (cs.foldl step s).behind older size := by
  induction cs generalizing s with
  | nil => rfl
  | cons c rest ih => rw [List.foldl_cons, step_behind, ih, List.foldl_cons]

/-- At the end of the text the lexer has the same tokens and the same fault, only further on. -/
theorem finish_behind : (s.behind older size).finish = s.finish.behind older size := by
  unfold finish
  rw [isSome_fault_behind, mode_behind]
  split
  · rfl
  · cases s.mode with
    | text => exact completeText_behind older size s
    | _ => rfl

end Behind

/-- Anything but `<` joins the text at hand and makes no token yet. -/
theorem foldl_step_text {s : Lexer} (hFault : s.fault = none) (hMode : s.mode = .text)
    {cs : List Char} (hText : ∀ c ∈ cs, c ≠ '<') :
    cs.foldl step s =
      { s with offset := s.offset + Text.byteLength cs, held := cs.reverse ++ s.held } := by
  induction cs generalizing s with
  | nil => rfl
  | cons c rest ih =>
    have hStep : s.step c = (s.advance c).hold c := by
      simp [step, hFault, hMode, hText c (.head _)]
    have hRest : rest.foldl step ((s.advance c).hold c) = _ :=
      ih hFault hMode fun d hMem => hText d (.tail _ hMem)
    rw [List.foldl_cons, hStep, hRest]
    simp [advance, hold, Nat.add_assoc]

/-- A text in front of the first tag is a token of its own, unless it is empty. -/
theorem step_foldl_step_lead {lead : List Char} (hLead : ∀ c ∈ lead, c ≠ '<') :
    (lead.foldl step {}).step '<' =
      (step {} '<').behind ((textKinds lead.reverse).map (Token.mk 0)) (Text.byteLength lead) := by
  rw [foldl_step_text rfl rfl hLead]
  cases hReverse : lead.reverse with
  | nil =>
    obtain rfl : lead = [] := List.reverse_eq_nil_iff.mp hReverse
    rfl
  | cons c rest =>
    simp [step, completeText, complete, advance, behind, textKinds, Nat.add_comm]

end Lexer

/-- The tokens of a text that begins with `<`, behind blanks: one for the blanks, if there are any,
and then those of the text alone, further on. -/
theorem tokenize_blanks_append {lead cs : List Char} (hLead : Blanks lead)
    (hTag : cs.head? = some '<') :
    tokenize (lead ++ cs) =
      ⟨(Lexer.textKinds lead.reverse).map (Token.mk 0) ++
          (tokenize cs).tokens.map (Token.shift (Text.byteLength lead)),
        (tokenize cs).fault.map (Fault.shift (Text.byteLength lead))⟩ := by
  obtain ⟨rest, rfl⟩ := List.head?_eq_some_iff.mp hTag
  have hMark : (lead ++ '<' :: rest).head? ≠ some '\ufeff' := by
    cases lead with
    | nil => simp
    | cons c lead => simpa using hLead.ne_of_mem rfl c (.head _)
  -- There is at most one token in the blanks, so their order does not tell.
  have hOlder : ((Lexer.textKinds lead.reverse).map (Token.mk 0)).reverse =
      (Lexer.textKinds lead.reverse).map (Token.mk 0) := by
    cases lead.reverse <;> rfl
  rw [tokenize, tokenize, dropByteOrderMark_of_head? hMark, dropByteOrderMark_of_head? (by simp),
    List.foldl_append, List.foldl_cons, Lexer.step_foldl_step_lead (hLead.ne_of_mem rfl),
    Lexer.foldl_step_behind, Lexer.finish_behind, List.foldl_cons]
  simp only [Lexer.behind, List.reverse_append, hOlder, List.map_reverse]

/-- The event `lines` lines further down. -/
def Event.lower (lines : Nat) : Event → Event
  | .opening tag => .opening { tag with line := tag.line + lines }
  | .text s => .text s
  | .closing => .closing

/-- The error `lines` lines further down, if it has a line. -/
def Error.lower (lines : Nat) : Error → Error
  | .malformed line defect => .malformed (line + lines) defect
  | .multipleRoots line => .multipleRoots (line + lines)
  | .unclosed name line => .unclosed name (line + lines)
  | .textOutsideRoot line => .textOutsideRoot (line + lines)
  | .tooDeep line limit => .tooDeep (line + lines) limit
  | .empty => .empty
  | .notText defect => .notText defect
  | .noRoot => .noRoot

/-- The scan with every line `lines` lines further down. -/
def Scan.lower (lines : Nat) (scan : Scan) : Scan :=
  ⟨scan.events.map (Event.lower lines), scan.error.map (Error.lower lines)⟩

namespace Scanner

/-- The scanner with every line `lines` lines further down and another cursor. -/
def lower (lines : Nat) (cursor : LineCursor) (s : Scanner) : Scanner :=
  { s with
    cursor
    openElements := s.openElements.map fun e => (e.1, e.2 + lines)
    events := s.events.map (Event.lower lines)
    error := s.error.map (Error.lower lines)
    inStep := by rw [s.inStep, List.map_map]; rfl }

section Lower

variable {lines : Nat} {cursor : LineCursor} {s : Scanner} {mode : AttributeMode}
  {options : Options}

theorem openElements_lower :
    (s.lower lines cursor).openElements = s.openElements.map fun e => (e.1, e.2 + lines) := rfl

theorem seenRoot_lower : (s.lower lines cursor).seenRoot = s.seenRoot := rfl

theorem isSome_error_lower : (s.lower lines cursor).error.isSome = s.error.isSome :=
  Option.isSome_map

theorem pop_lower : (s.lower lines cursor).pop = s.pop.lower lines cursor := by
  simp only [pop, lower, List.map_tail]

theorem mayOpen_lower : (s.lower lines cursor).mayOpen options = s.mayOpen options := by
  simp [mayOpen, openElements_lower]

/-- A start tag is read further down as it is read above. Only the line that is noted with it is
another. -/
theorem stepOpening_lower (hLine : cursor.line = s.cursor.line + lines) (content : List Char)
    (isEmpty : Bool) :
    (s.lower lines cursor).stepOpening mode options content isEmpty =
      (s.stepOpening mode options content isEmpty).lower lines cursor := by
  have hCursor : (s.lower lines cursor).cursor.line = s.cursor.line + lines := hLine
  have hEmpty : (s.lower lines cursor).openElements.isEmpty = s.openElements.isEmpty :=
    List.isEmpty_map
  unfold stepOpening
  simp only [hCursor, hEmpty, seenRoot_lower, mayOpen_lower]
  split
  · rfl
  · split
    · rfl
    · split
      · rfl
      · cases isEmpty <;> rfl

/-- An end tag is read further down as it is read above, since the names it is held against are the
same. -/
theorem stepClosing_lower (hLine : cursor.line = s.cursor.line + lines) (found : String) :
    (s.lower lines cursor).stepClosing found = (s.stepClosing found).lower lines cursor := by
  have hCursor : (s.lower lines cursor).cursor.line = s.cursor.line + lines := hLine
  rw [stepClosing_eq, stepClosing_eq, hCursor, openElements_lower]
  cases s.openElements with
  | nil => rfl
  | cons innermost outer =>
    rw [List.map_cons]
    dsimp only
    split_ifs
    · rw [pop_lower]
      rfl
    · rfl

/-- A text is read further down as it is read above, and an error about it is on the lower line. -/
theorem stepText_lower (hLine : cursor.line = s.cursor.line + lines) (text : List Char) :
    (s.lower lines cursor).stepText text = (s.stepText text).lower lines cursor := by
  have hCursor : (s.lower lines cursor).cursor.line = s.cursor.line + lines := hLine
  unfold stepText
  rw [hCursor, openElements_lower, List.isEmpty_map]
  dsimp only
  split_ifs <;> rfl

end Lower

/-- `s.Below lead text t`: `t` is in the text behind `lead` what `s` is in the text alone. -/
structure Below (lead text : List Char) (s t : Scanner) : Prop where
  standsIn : s.cursor.StandsIn text
  lowered : ∃ cursor : LineCursor, cursor.StandsIn (lead ++ text) ∧
    t = s.lower (lead.count '\n') cursor

section Below

variable {lead text : List Char} {s t : Scanner} {mode : AttributeMode} {options : Options}

theorem line_seek_below {above below : LineCursor} (hAbove : above.StandsIn text)
    (hBelow : below.StandsIn (lead ++ text)) (position : Nat) :
    (below.seek (position + Text.byteLength lead)).line =
      (above.seek position).line + lead.count '\n' := by
  rw [hAbove.line_seek, hBelow.line_seek, Nat.add_comm position, lineAt_append, Nat.add_comm]

/-- Reading a token keeps a scanner below another, if the token is further on by what stands in
front. -/
theorem Below.step (h : s.Below lead text t) (token : Token) :
    (s.step mode options token).Below lead text
      (t.step mode options (token.shift (Text.byteLength lead))) := by
  obtain ⟨hStands, cursor, hBelow, rfl⟩ := h
  refine ⟨standsIn_step hStands token, ?_⟩
  obtain ⟨start, kind⟩ := token
  unfold Scanner.step
  rw [isSome_error_lower]
  split
  · exact ⟨cursor, hBelow, rfl⟩
  · -- Both cursors move first, and from there on all lines come from them.
    refine ⟨cursor.seek (start + Text.byteLength lead), hBelow.seek _, ?_⟩
    have hLine := line_seek_below hStands hBelow start
    cases kind with
    | opening content isEmpty =>
      exact stepOpening_lower (s := { s with cursor := s.cursor.seek start }) hLine content isEmpty
    | closing name =>
      exact stepClosing_lower (s := { s with cursor := s.cursor.seek start }) hLine _
    | text raw =>
      dsimp only [Token.shift]
      cases Reference.resolve raw with
      | ok resolved =>
        exact stepText_lower (s := { s with cursor := s.cursor.seek start }) hLine resolved
      | error defect =>
        show fail _ (.malformed (cursor.seek (start + Text.byteLength lead)).line _) = _
        rw [hLine]
        rfl
    | characterData content =>
      exact stepText_lower (s := { s with cursor := s.cursor.seek start }) hLine content
    | skipped => rfl

/-- Reading all tokens keeps a scanner below another, by induction on them. -/
theorem Below.foldl_step (mode : AttributeMode) (options : Options) (h : s.Below lead text t)
    (tokens : List Token) :
    (tokens.foldl (Scanner.step mode options) s).Below lead text
      ((tokens.map (Token.shift (Text.byteLength lead))).foldl (Scanner.step mode options) t) := by
  induction tokens generalizing s t with
  | nil => exact h
  | cons token rest ih => exact ih (h.step token)

/-- An element that is not closed is blamed on the line that was noted at its start tag, a fault on
that of its own place. -/
theorem Below.finish (h : s.Below lead text t) (fault : Option Fault) :
    ∃ cursor, t.finish (fault.map (Fault.shift (Text.byteLength lead))) =
      (s.finish fault).lower (lead.count '\n') cursor := by
  obtain ⟨hStands, cursor, hBelow, rfl⟩ := h
  refine ⟨cursor, ?_⟩
  unfold Scanner.finish
  rw [isSome_error_lower, openElements_lower, seenRoot_lower]
  split
  · rfl
  · cases fault with
    | some fault =>
      have hLine := line_seek_below hStands hBelow fault.position
      show fail _ (.malformed (cursor.seek (fault.position + Text.byteLength lead)).line _) = _
      rw [hLine]
      rfl
    | none =>
      cases s.openElements with
      | nil =>
        dsimp only [Option.map_none, List.map_nil]
        split_ifs <;> rfl
      | cons innermost outer => rfl

/-- The blanks deliver nothing, and behind them the scanner stands as it does at the start of the
text alone. -/
theorem below_start (mode : AttributeMode) (options : Options) (hLead : Blanks lead)
    (text : List Char) :
    Below lead text { cursor := .start text }
      (((Lexer.textKinds lead.reverse).map (Token.mk 0)).foldl (Scanner.step mode options)
        { cursor := .start (lead ++ text) }) := by
  have hStart := LineCursor.standsIn_start (lead ++ text)
  refine ⟨LineCursor.standsIn_start text, ?_⟩
  cases hReverse : lead.reverse with
  | nil => exact ⟨_, hStart, rfl⟩
  | cons c rest =>
    have hResolve : Reference.resolve lead = .ok lead := by
      have hNone : ∀ c ∈ ([] : List Char), c ≠ '&' := by simp
      simpa [Reference.escape] using
        Reference.resolve_append_escape_append (hLead.ne_of_mem rfl) hNone []
    have hText : (Lexer.textKinds (c :: rest)).map (Token.mk 0) = [⟨0, .text lead⟩] := by
      rw [← lead.reverse_reverse, hReverse]
      rfl
    have hStep : Scanner.step mode options { cursor := .start (lead ++ text) } ⟨0, .text lead⟩ =
        { cursor := (LineCursor.start (lead ++ text)).seek 0 } :=
      step_blankText rfl 0 hResolve (Text.trim_of_blank hLead.isBlank)
    refine ⟨_, hStart.seek 0, ?_⟩
    rw [hText, List.foldl_cons, List.foldl_nil, hStep]
    rfl

end Below

end Scanner

/-- Blanks in front of a text put every line further down by the line ends among them and change
nothing else, neither what is delivered nor how the scan ends. -/
theorem scan_blanks_append {lead : List Char} (hLead : Blanks lead) {text : String}
    (hTag : text.toList.head? = some '<') (mode : AttributeMode) (options : Options) :
    scan (String.ofList lead ++ text) mode options =
      (scan text mode options).lower (lead.count '\n') := by
  have hText : (String.ofList lead ++ text).toList = lead ++ text.toList := by simp
  have hBlank : Text.isAllBlank text.toList = false := by
    obtain ⟨rest, hCons⟩ := List.head?_eq_some_iff.mp hTag
    rw [hCons]
    rfl
  have hBlank' : Text.isAllBlank (lead ++ text.toList) = false := by
    rw [Text.isAllBlank, List.all_append]
    exact Bool.and_eq_false_imp.mpr fun _ => hBlank
  have hBelow := (Scanner.below_start mode options hLead text.toList).foldl_step mode options
    (tokenize text.toList).tokens
  obtain ⟨cursor, hEnd⟩ := hBelow.finish (tokenize text.toList).fault
  have hTokens := tokenize_blanks_append hLead hTag
  simp only [scan, hText, hBlank, hBlank', hTokens, List.foldl_append, hEnd, Bool.false_eq_true,
    if_false]
  simp only [Scan.lower, Scanner.lower, List.map_reverse]

/-- Empty lines in front of a text put every line of the events and of the error so many lines
further down and change nothing else. The text has to begin with a tag, since blanks would join a
text in front of it. -/
theorem scan_newlines_append (count : Nat) {text : String} (hTag : text.toList.head? = some '<')
    (mode : AttributeMode) (options : Options) :
    scan (String.ofList (List.replicate count '\n') ++ text) mode options =
      (scan text mode options).lower count := by
  have hLead : Blanks (List.replicate count '\n') := by
    intro c hMem
    rw [List.eq_of_mem_replicate hMem]
    rfl
  have hScan := scan_blanks_append hLead hTag mode options
  rw [List.count_replicate_self] at hScan
  exact hScan

/-- Two empty lines in front of a text that has an error on its second line put the tags and the
error two lines further down. -/
theorem scan_newlines_append_mismatchedEnd :
    scan (String.ofList (List.replicate 2 '\n') ++ "<r>\n<a></b>") .strict {} =
      ⟨[.opening ⟨"r", [], 3⟩, .opening ⟨"a", [], 4⟩],
        some (.malformed 4 (.mismatchedEnd "a" "b"))⟩ := by
  have hAlone : scan "<r>\n<a></b>" .strict {} =
      ⟨[.opening ⟨"r", [], 1⟩, .opening ⟨"a", [], 2⟩],
        some (.malformed 2 (.mismatchedEnd "a" "b"))⟩ := by decide +kernel
  rw [scan_newlines_append 2 (by decide) .strict {}, hAlone]
  rfl

end MarkupRules.Markup
