import MarkupRules.Proofs.Markup.Line
import MarkupRules.Proofs.Markup.Places

/-!
Lines that are asked for, and lines that a scan reports.

A cursor remembers where it came to, so that it need not count from the start again. What it answers
does not depend on this: it is one more than the number of line ends among the bytes before the
position, after any questions. A scan reports nothing but such answers.
-/
namespace MarkupRules.Markup

/-- A position in the middle of a character sees the same line ends as one before it: only the line
end itself has the byte, and that has no middle. -/
theorem newlinesBefore_eq_count (position : Nat) (cs : List Char) :
    newlinesBefore position cs = ((Text.bytes cs).take position).count 10 := by
  induction cs generalizing position with
  | nil => simp [newlinesBefore]
  | cons c rest ih =>
    rw [newlinesBefore]
    split
    · next hStart => rw [hStart]; rfl
    · next hInside =>
      have hFirst : ((String.utf8EncodeChar c).take position).count 10 =
          if c = '\n' then 1 else 0 := by
        split
        · next hNewline =>
          rw [hNewline, List.take_of_length_le (Nat.one_le_iff_ne_zero.mpr hInside)]
          rfl
        · next hOther =>
          apply List.count_eq_zero.mpr
          intro hMem
          exact Text.newline_notMem_utf8EncodeChar hOther (List.mem_of_mem_take hMem)
      rw [ih, Text.bytes_cons, List.take_append, List.count_append, hFirst,
        String.length_utf8EncodeChar]

theorem lineAt_eq_count (text : String) (position : Nat) :
    lineAt text.toList position =
      1 + (text.toUTF8.data.toList.take (min position text.utf8ByteSize)).count 10 := by
  have hLength : text.utf8ByteSize = text.toUTF8.data.toList.length := rfl
  rw [lineAt, newlinesBefore_eq_count, Text.bytes_toList, hLength, ← List.take_eq_take_min]

/-- A line that a text has at some position. -/
def IsLine (text : List Char) (line : Nat) : Prop := ∃ position, line = lineAt text position

/-- A line of a text is at least the first and at most one more than the number of line ends. -/
theorem IsLine.bounds {text : String} {line : Nat} (h : IsLine text.toList line) :
    1 ≤ line ∧ line ≤ 1 + text.toUTF8.data.toList.count 10 := by
  obtain ⟨position, rfl⟩ := h
  have hBefore := (List.take_sublist (min position text.utf8ByteSize)
    text.toUTF8.data.toList).count_le 10
  rw [lineAt_eq_count]
  omega

namespace LineCursor

/-- What a cursor answers to positions one after the other. -/
def answers (c : LineCursor) : List Nat → List Nat
  | [] => []
  | position :: rest => (c.seek position).line :: (c.seek position).answers rest

variable {text : List Char} {c : LineCursor}

/-- The answers of a cursor are the lines of the positions, in whatever order these are asked for.
-/
theorem StandsIn.answers_eq (h : c.StandsIn text) (positions : List Nat) :
    c.answers positions = positions.map (lineAt text) := by
  induction positions generalizing c with
  | nil => rfl
  | cons position rest ih =>
    rw [answers, h.line_seek position, ih (h.seek position)]
    rfl

/-- A cursor is always on a line that its text has. -/
theorem StandsIn.isLine (h : c.StandsIn text) : IsLine text c.line := by
  obtain ⟨-, front, hText, -, hLine⟩ := h
  refine ⟨Text.byteLength front, ?_⟩
  rw [hLine, hText, lineAt_append_byteLength]

end LineCursor

/-- The lines that a scan reports: those of its start tags and that of its error. -/
def Scan.lines (s : Scan) : List Nat :=
  (s.events.filterMap Event.openTag?).map OpenTag.line ++ (s.error.bind Error.line?).toList

/-- The lines that are reported are those of start tags and that of the error, if it has one. -/
theorem Scan.mem_lines_iff {s : Scan} {line : Nat} :
    line ∈ s.lines ↔ (∃ tag, .opening tag ∈ s.events ∧ tag.line = line) ∨
      ∃ e, s.error = some e ∧ e.line? = some line := by
  have hTag (tag : OpenTag) :
      (∃ event ∈ s.events, event.openTag? = some tag) ↔ .opening tag ∈ s.events := by
    constructor
    · rintro ⟨event, hMem, hOpening⟩
      cases event with
      | opening tag' => exact Option.some.inj hOpening ▸ hMem
      | text _ => cases hOpening
      | closing => cases hOpening
    · intro hMem
      exact ⟨_, hMem, rfl⟩
  simp only [lines, List.mem_append, List.mem_map, List.mem_filterMap, hTag, Option.mem_toList,
    Option.bind_eq_some_iff]

namespace Scanner

/-- Whatever a scanner holds that has a line has one of the text. -/
structure HasLinesOf (text : List Char) (s : Scanner) : Prop where
  cursor : s.cursor.StandsIn text
  tags : ∀ tag, .opening tag ∈ s.events → IsLine text tag.line
  openElements : ∀ entry ∈ s.openElements, IsLine text entry.2
  error : ∀ e, s.error = some e → ∀ line, e.line? = some line → IsLine text line

variable {mode : AttributeMode} {options : Options} {text : List Char} {s : Scanner}

theorem hasLinesOf_start (text : List Char) : HasLinesOf text { cursor := .start text } where
  cursor := LineCursor.standsIn_start text
  tags := by simp
  openElements := by simp
  error := by simp

namespace HasLinesOf

/-- An error on a line of the text is one more line that the text has. -/
theorem fail (h : s.HasLinesOf text) {e : Error}
    (hLine : ∀ line, e.line? = some line → IsLine text line) : (s.fail e).HasLinesOf text where
  cursor := h.cursor
  tags := h.tags
  openElements := h.openElements
  error := by
    intro e' hError
    obtain rfl := Option.some.inj hError
    exact hLine

/-- An error on the line of the cursor. -/
theorem fail_here (h : s.HasLinesOf text) {e : Error} (hLine : e.line? = some s.cursor.line) :
    (s.fail e).HasLinesOf text := by
  apply h.fail
  intro line hSome
  rw [hLine] at hSome
  obtain rfl := Option.some.inj hSome
  exact h.cursor.isLine

/-- An event whose tag, if it has one, is on a line of the text keeps all lines inside the text. -/
theorem deliver (h : s.HasLinesOf text) {event : Event}
    (hTag : ∀ tag, event = .opening tag → IsLine text tag.line) :
    (s.deliver event).HasLinesOf text where
  cursor := h.cursor
  tags := by
    intro tag hMem
    rcases List.mem_cons.mp hMem with hNew | hOld
    · exact hTag tag hNew.symm
    · exact h.tags tag hOld
  openElements := h.openElements
  error := h.error

theorem seek (h : s.HasLinesOf text) (position : Nat) :
    { s with cursor := s.cursor.seek position }.HasLinesOf text :=
  { h with cursor := h.cursor.seek position }

/-- The tag that is delivered with the line of the cursor has a line of the text. -/
theorem opened (h : s.HasLinesOf text) (tag : OpenTag) (hLine : tag.line = s.cursor.line) :
    ({ s with seenRoot := true }.deliver (.opening tag)).HasLinesOf text := by
  have hSeen : { s with seenRoot := true }.HasLinesOf text := { h with }
  apply hSeen.deliver
  rintro _ ⟨⟩
  rw [hLine]
  exact h.cursor.isLine

/-- A start tag is noted on the line of the cursor, and an error about it is on that line too. -/
theorem stepOpening (h : s.HasLinesOf text) (content : List Char) (isEmpty : Bool) :
    (s.stepOpening mode options content isEmpty).HasLinesOf text := by
  unfold Scanner.stepOpening
  dsimp only
  split
  · exact h.fail_here rfl
  · split
    · exact h.fail_here rfl
    · next attributes _ =>
      split
      · exact h.fail_here rfl
      · have hOpened := h.opened ⟨String.ofList (Attribute.tagName content), attributes, _⟩ rfl
        cases isEmpty with
        | true => exact hOpened.deliver (by simp)
        | false =>
          refine { hOpened with openElements := ?_ }
          intro entry hMem
          rcases List.mem_cons.mp hMem with rfl | hOuter
          · exact h.cursor.isLine
          · exact h.openElements entry hOuter

/-- An end tag notes no line, and an error about it is on the line of the cursor. -/
theorem stepClosing (h : s.HasLinesOf text) (found : String) :
    (s.stepClosing found).HasLinesOf text := by
  unfold Scanner.stepClosing
  split
  · exact h.fail_here rfl
  · split
    · have hOuter : s.pop.HasLinesOf text := by
        refine { h with openElements := ?_ }
        intro entry hMem
        exact h.openElements entry (List.mem_of_mem_tail hMem)
      exact hOuter.deliver (by simp)
    · exact h.fail_here rfl

/-- A text notes no line, and an error about it is on the line of the cursor. -/
theorem stepText (h : s.HasLinesOf text) (content : List Char) :
    (s.stepText content).HasLinesOf text := by
  unfold Scanner.stepText
  dsimp only
  split
  · exact h
  · split
    · exact h.fail_here rfl
    · exact h.deliver (by simp)

/-- Reading a token adds only lines that the cursor finds for it. -/
theorem step (h : s.HasLinesOf text) (token : Token) :
    (s.step mode options token).HasLinesOf text := by
  obtain ⟨start, kind⟩ := token
  unfold Scanner.step
  split
  · exact h
  · have hThere := h.seek start
    cases kind with
    | opening content isEmpty => exact hThere.stepOpening content isEmpty
    | closing name => exact hThere.stepClosing _
    | text raw =>
      dsimp only
      cases Reference.resolve raw with
      | ok resolved => exact hThere.stepText resolved
      | error defect => exact hThere.fail_here rfl
    | characterData content => exact hThere.stepText content
    | skipped => exact hThere

theorem foldl_step (mode : AttributeMode) (options : Options) (h : s.HasLinesOf text)
    (tokens : List Token) :
    (tokens.foldl (Scanner.step mode options) s).HasLinesOf text := by
  induction tokens generalizing s with
  | nil => exact h
  | cons token rest ih => exact ih (h.step token)

/-- At the end a fault is on a line that the cursor finds, and an element that is left open on the
line of its tag. -/
theorem finish (h : s.HasLinesOf text) (fault : Option Fault) :
    (s.finish fault).HasLinesOf text := by
  unfold Scanner.finish
  split
  · exact h
  · split
    · next fault =>
      apply h.fail
      rintro _ ⟨⟩
      exact (h.seek fault.position).cursor.isLine
    · next name line outer hOpen =>
      apply h.fail
      rintro _ ⟨⟩
      exact h.openElements (name, line) (hOpen ▸ .head _)
    · split
      · exact h
      · exact h.fail (by simp [Error.line?])

end HasLinesOf

end Scanner

/-- Every line that a scan reports is a line that the text has at some position. -/
theorem isLine_of_mem_lines_scan {text : String} {mode : AttributeMode} {options : Options}
    {line : Nat} (h : line ∈ (scan text mode options).lines) : IsLine text.toList line := by
  rw [Scan.mem_lines_iff] at h
  unfold scan at h
  dsimp only at h
  split at h
  · simp [Error.line?] at h
  · have hTokens := (Scanner.hasLinesOf_start text.toList).foldl_step mode options
      (tokenize text.toList).tokens
    have hLines := hTokens.finish (tokenize text.toList).fault
    rcases h with ⟨tag, hMem, rfl⟩ | ⟨e, hError, hLine⟩
    · exact hLines.tags tag (List.mem_reverse.mp hMem)
    · exact hLines.error e hError line hLine

/-- A cursor answers to every position in any sequence with the line that the bytes before it make,
whatever it was asked for before and even if it has to go back. A scan reports no line outside the
text, neither for a tag nor for its error. -/
theorem answers_start_and_lines_scan (text : String) :
    (∀ positions : List Nat, (LineCursor.start text.toList).answers positions =
      positions.map fun position =>
        1 + (text.toUTF8.data.toList.take (min position text.utf8ByteSize)).count 10) ∧
    ∀ mode options, ∀ line ∈ (scan text mode options).lines,
      1 ≤ line ∧ line ≤ 1 + text.toUTF8.data.toList.count 10 := by
  constructor
  · intro positions
    rw [(LineCursor.standsIn_start text.toList).answers_eq]
    exact List.map_congr_left fun position _ => lineAt_eq_count text position
  · intro mode options line hMem
    exact (isLine_of_mem_lines_scan hMem).bounds

example : (LineCursor.start "a\nb\nc".toList).answers [0, 2, 9, 1] = [1, 2, 3, 1] := by decide

end MarkupRules.Markup
