import MarkupRules.Markup.Event
import MarkupRules.Proofs.Text.Utf8

/-!
What a cursor says of a position.

The line of a position is one more than the number of line ends before it. A cursor that stands
anywhere in a text gives this line, whatever positions it has been asked for before, and so does the
cursor of a scan.
-/
namespace MarkupRules.Markup

@[simp] theorem newlinesBefore_zero (cs : List Char) : newlinesBefore 0 cs = 0 := by
  cases cs <;> rfl

/-- A position behind the front of a text is a position in what follows, with the line ends of the
front before it. -/
theorem newlinesBefore_append (front back : List Char) (further : Nat) :
    newlinesBefore (Text.byteLength front + further) (front ++ back) =
      front.count '\n' + newlinesBefore further back := by
  induction front with
  | nil => simp
  | cons c rest ih =>
    have hSize := c.utf8Size_pos
    have hPosition : Text.byteLength (c :: rest) + further ≠ 0 := by
      rw [Text.byteLength_cons]
      omega
    have hRest : Text.byteLength (c :: rest) + further - c.utf8Size =
        Text.byteLength rest + further := by
      rw [Text.byteLength_cons]
      omega
    rw [List.cons_append, newlinesBefore, if_neg hPosition, hRest, ih, List.count_cons]
    simp only [beq_iff_eq]
    omega

/-- The line of a place behind the front of a text is further down by the line ends in the front. -/
theorem lineAt_append (front back : List Char) (further : Nat) :
    lineAt (front ++ back) (Text.byteLength front + further) =
      front.count '\n' + lineAt back further := by
  rw [lineAt, newlinesBefore_append, lineAt]
  omega

/-- The first place behind the front of a text is on the line that the line ends of the front make.
-/
theorem lineAt_append_byteLength (front back : List Char) :
    lineAt (front ++ back) (Text.byteLength front) = 1 + front.count '\n' := by
  have hPlace := newlinesBefore_append front back 0
  rw [newlinesBefore_zero] at hPlace
  rw [lineAt]
  exact congrArg (1 + ·) hPlace

namespace LineCursor

/-- The cursor stands in the text, and its offset and line are those of what it has behind it. -/
structure StandsIn (text : List Char) (c : LineCursor) : Prop where
  text_eq : c.text = text
  place : ∃ front, text = front ++ c.rest ∧ c.offset = Text.byteLength front ∧
    c.line = 1 + front.count '\n'

theorem standsIn_start (text : List Char) : (start text).StandsIn text :=
  ⟨rfl, [], rfl, rfl, rfl⟩

/-- A cursor that moves on stands where the line ends up to there put it. -/
theorem standsIn_forward (front rest : List Char) (position : Nat) :
    (forward (front ++ rest) position (Text.byteLength front) (1 + front.count '\n')
      rest).StandsIn (front ++ rest) := by
  induction rest generalizing front with
  | nil => exact ⟨rfl, front, rfl, rfl, rfl⟩
  | cons c rest ih =>
    rw [forward]
    split
    · have hNext := ih (front ++ [c])
      have hLine : 1 + (front ++ [c]).count '\n' =
          if c = '\n' then 1 + front.count '\n' + 1 else 1 + front.count '\n' := by
        rw [List.count_append, List.count_singleton]
        simp only [beq_iff_eq]
        split <;> omega
      rw [hLine, Text.byteLength_append, Text.byteLength_cons, Text.byteLength_nil,
        List.append_assoc] at hNext
      exact hNext
    · exact ⟨rfl, front, rfl, rfl, rfl⟩

/-- Moving on counts the line ends up to the position. A character that the position lies inside of
is passed, but it is no line end. -/
theorem line_forward (text rest : List Char) (position offset line : Nat) :
    (forward text position offset line rest).line =
      line + newlinesBefore (position - offset) rest := by
  induction rest generalizing offset line with
  | nil => rfl
  | cons c rest ih =>
    rw [forward, newlinesBefore]
    by_cases hBefore : offset < position
    · have hAhead : position - offset ≠ 0 := by omega
      rw [if_pos hBefore, if_neg hAhead, ih, Nat.sub_sub]
      split <;> omega
    · have hReached : position - offset = 0 := by omega
      rw [if_neg hBefore, if_pos hReached]
      rfl

variable {text : List Char} {c : LineCursor}

/-- A cursor stands in its text wherever it is moved to. When it has to go back it starts again from
the front. -/
theorem StandsIn.seek (h : c.StandsIn text) (position : Nat) :
    (c.seek position).StandsIn text := by
  obtain ⟨hText, front, hFront, hOffset, hLine⟩ := h
  unfold LineCursor.seek
  split
  · rw [hText]
    exact standsIn_forward [] text position
  · rw [hText, hOffset, hLine, hFront]
    exact standsIn_forward front c.rest position

/-- A cursor finds the line of every position, those behind it and those past the end included. -/
theorem StandsIn.line_seek (h : c.StandsIn text) (position : Nat) :
    (c.seek position).line = lineAt text position := by
  obtain ⟨hText, front, hFront, hOffset, hLine⟩ := h
  unfold LineCursor.seek
  split
  · rw [line_forward, hText, Nat.sub_zero]
    rfl
  · next hAhead =>
    have hPosition : position = Text.byteLength front + (position - Text.byteLength front) := by
      omega
    have hBehind := newlinesBefore_append front c.rest (position - Text.byteLength front)
    rw [← hPosition] at hBehind
    rw [line_forward, hLine, hOffset, lineAt, hFront, hBehind]
    omega

end LineCursor

namespace Scanner

variable {mode : AttributeMode} {options : Options} {s : Scanner}

/-- A start tag moves no cursor. It was moved before the tag was looked at. -/
theorem cursor_stepOpening (content : List Char) (isEmpty : Bool) :
    (s.stepOpening mode options content isEmpty).cursor = s.cursor := by
  unfold stepOpening
  dsimp only
  split
  · rfl
  · split
    · rfl
    · split
      · rfl
      · cases isEmpty <;> rfl

theorem cursor_stepClosing (found : String) : (s.stepClosing found).cursor = s.cursor := by
  unfold stepClosing
  split
  · rfl
  · split <;> rfl

theorem cursor_stepText (text : List Char) : (s.stepText text).cursor = s.cursor := by
  unfold stepText
  dsimp only
  split
  · rfl
  · split <;> rfl

/-- Reading a token moves the cursor to its start and no further, unless an error has come before.
-/
theorem cursor_step (hError : s.error = none) (token : Token) :
    (s.step mode options token).cursor = s.cursor.seek token.start := by
  obtain ⟨start, kind⟩ := token
  rw [step, if_neg (by simp [hError])]
  cases kind with
  | opening content isEmpty => exact cursor_stepOpening content isEmpty
  | closing name => exact cursor_stepClosing _
  | text raw =>
    dsimp only
    cases Reference.resolve raw with
    | ok text => exact cursor_stepText text
    | error defect => rfl
  | characterData content => exact cursor_stepText content
  | skipped => rfl

/-- The cursor of a scanner stands in the text whatever is read. -/
theorem standsIn_step {text : List Char} (h : s.cursor.StandsIn text) (token : Token) :
    (s.step mode options token).cursor.StandsIn text := by
  cases hError : s.error with
  | some e =>
    have hStep : s.step mode options token = s := by simp [step, hError]
    rwa [hStep]
  | none =>
    rw [cursor_step hError]
    exact h.seek token.start

end Scanner

end MarkupRules.Markup
