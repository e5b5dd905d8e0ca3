import MarkupRules.Proofs.Markup.Line
import MarkupRules.Proofs.Markup.Scan

/-!
Two scans of one text of which the first may stop earlier.

As long as neither has met an error the two are in the same state. Where the first one stops at a
token that the second one passes, what it has delivered stays the beginning of what the second one
delivers. So it is enough to compare the two at a single token.
-/
namespace MarkupRules.Markup

namespace Scanner

variable {mode mode' : AttributeMode} {options options' : Options} {s t : Scanner}

/-- A move only adds events, so what was delivered once is never taken back. -/
theorem Move.exists_events (h : Move mode options s t) :
    ∃ new, t.events.reverse = s.events.reverse ++ new := by
  cases h with
  | quiet hEvents => exact ⟨[], by rw [hEvents, List.append_nil]⟩
  | opening tag content hName hAttributes hRoot hDepth hEvents =>
    exact ⟨[.opening tag], by rw [hEvents, List.reverse_cons]⟩
  | empty tag content hName hAttributes hRoot hDepth hEvents =>
    exact ⟨[.opening tag, .closing], by rw [hEvents]; simp⟩
  | closing name line hOpen hEvents =>
    exact ⟨[.closing], by rw [hEvents, List.reverse_cons]⟩
  | text raw hText hInside hEvents =>
    exact ⟨[.text (String.ofList (Text.trim raw))], by rw [hEvents, List.reverse_cons]⟩

/-- A way to stop: what has been delivered before, what another scan delivers instead of stopping,
and the error. -/
abbrev Stop := List Event → List Event → Error → Prop

/-- `s` is where `t` is, or has stopped in the given way while `t` went on. -/
inductive Trails (stop : Stop) (s t : Scanner) : Prop where
  | level (hSame : s = t)
  | stopped {e : Error} {later : List Event} (hError : s.error = some e)
      (hEvents : t.events.reverse = s.events.reverse ++ later)
      (hStop : stop s.events.reverse later e)

variable {stop : Stop}

/-- Modes and options tell on start tags only. All other tokens are read alike by two scanners that
stand alike. -/
theorem trails_step (hError : s.error = none) (token : Token)
    (hOpening : ∀ start content isEmpty, token = ⟨start, .opening content isEmpty⟩ →
      Trails stop
        ({ s with cursor := s.cursor.seek start }.stepOpening mode options content isEmpty)
        ({ s with cursor := s.cursor.seek start }.stepOpening mode' options' content isEmpty)) :
    Trails stop (s.step mode options token) (s.step mode' options' token) := by
  obtain ⟨start, kind⟩ := token
  rw [Scanner.step, Scanner.step, if_neg (by simp [hError]), if_neg (by simp [hError])]
  cases kind with
  | opening content isEmpty => exact hOpening start content isEmpty rfl
  | closing _ | text _ | characterData _ | skipped => exact .level rfl

/-- If one scan trails another, it still does behind one more token, provided the token is read
alike while the first has not stopped. -/
theorem Trails.step
    (hGrows : ∀ before later more e, stop before later e → stop before (later ++ more) e)
    (h : Trails stop s t) {token : Token}
    (hHere : s.error = none →
      Trails stop (s.step mode options token) (s.step mode' options' token)) :
    Trails stop (s.step mode options token) (t.step mode' options' token) := by
  cases h with
  | level hSame =>
    subst hSame
    cases hError : s.error with
    | some e => exact .level (by simp [Scanner.step, hError])
    | none => exact hHere hError
  | @stopped e later hError hEvents hStop =>
    have hRests : s.step mode options token = s := by simp [Scanner.step, hError]
    have hMove : Move mode' options' t (t.step mode' options' token) := move_step t token
    obtain ⟨new, hNew⟩ := hMove.exists_events
    rw [hRests]
    refine .stopped hError ?_ (hGrows _ _ new _ hStop)
    rw [hNew, hEvents, List.append_assoc]

/-- At the end of the text the scans are alike, or the first had stopped before. -/
theorem Trails.finish (h : Trails stop s t) (fault : Option Fault) :
    Trails stop (s.finish fault) (t.finish fault) := by
  cases h with
  | level hSame => exact .level (by rw [hSame])
  | @stopped e later hError hEvents hStop =>
    have hRests : s.finish fault = s := by simp [Scanner.finish, hError]
    have hSame : (t.finish fault).events = t.events := by
      rcases finish_cases fault t with ⟨e, hFinish⟩ | ⟨hFinish, -⟩ <;> rw [hFinish]
    rw [hRests]
    exact .stopped hError (by rw [hSame, hEvents]) hStop

/-- The cursor of a scanner is in step with the text, and the open elements are with the events. -/
structure InStep (text : List Char) (s : Scanner) : Prop where
  cursor : s.cursor.StandsIn text
  openElements : Consistent s.events.reverse s.openElements s.seenRoot

theorem inStep_start (text : List Char) : InStep text { cursor := .start text } :=
  ⟨LineCursor.standsIn_start text, .start⟩

/-- A token keeps the cursor in its text, and the open elements with the events. -/
theorem InStep.step {text : List Char} (h : s.InStep text) (token : Token) :
    (s.step mode options token).InStep text :=
  ⟨standsIn_step h.cursor token, h.openElements.move (move_step s token)⟩

/-- What holds of two scans token by token holds in the end. -/
theorem Trails.foldl_step {text : List Char} {tokens : List Token}
    (hGrows : ∀ before later more e, stop before later e → stop before (later ++ more) e)
    (hToken : ∀ (s : Scanner) (token : Token), token ∈ tokens → s.error = none → s.InStep text →
      Trails stop (s.step mode options token) (s.step mode' options' token))
    (h : Trails stop s t) (hInStep : s.InStep text) :
    Trails stop (tokens.foldl (Scanner.step mode options) s)
      (tokens.foldl (Scanner.step mode' options') t) := by
  induction tokens generalizing s t with
  | nil => exact h
  | cons token rest ih =>
    have hNext : Trails stop (s.step mode options token) (t.step mode' options' token) :=
      h.step hGrows fun hError => hToken s token (.head _) hError hInStep
    exact ih (fun s token hMem => hToken s token (.tail _ hMem)) hNext (hInStep.step token)

end Scanner

/-- Two scans that are alike, token by token, up to where the first one stops are alike up to
there. -/
theorem scan_trails {text : String} {mode mode' : AttributeMode} {options options' : Options}
    {stop : Scanner.Stop}
    (hGrows : ∀ before later more e, stop before later e → stop before (later ++ more) e)
    (hToken : ∀ (s : Scanner) (token : Token), token ∈ (tokenize text.toList).tokens →
      s.error = none → s.InStep text.toList →
      Scanner.Trails stop (s.step mode options token) (s.step mode' options' token)) :
    scan text mode options = scan text mode' options' ∨
      ∃ before later e, scan text mode options = ⟨before, some e⟩ ∧
        (scan text mode' options').events = before ++ later ∧ stop before later e := by
  cases hBlank : Text.isAllBlank text.toList with
  | true => exact .inl (by simp [scan, hBlank])
  | false =>
    have hRead : Scanner.Trails stop
        ((tokenize text.toList).tokens.foldl (Scanner.step mode options)
          { cursor := .start text.toList })
        ((tokenize text.toList).tokens.foldl (Scanner.step mode' options')
          { cursor := .start text.toList }) :=
      Scanner.Trails.foldl_step hGrows hToken (.level rfl) (Scanner.inStep_start text.toList)
    have hEnd := hRead.finish (tokenize text.toList).fault
    simp only [scan, hBlank, Bool.false_eq_true, if_false]
    cases hEnd with
    | level hSame => exact .inl (by rw [hSame])
    | @stopped e later hError hEvents hStop =>
      exact .inr ⟨_, later, e, by rw [hError], hEvents, hStop⟩

end MarkupRules.Markup
