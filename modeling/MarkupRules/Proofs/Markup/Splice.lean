import MarkupRules.Proofs.Markup.Token
import MarkupRules.Proofs.Markup.Turn

/-!
Texts that are put together.

Two lexers that are in the middle of the same token go the same way, whatever tokens came before.
What a text contributes between two others can therefore be read off the text alone, provided that
it begins and ends between tokens.
-/
namespace MarkupRules.Markup

namespace Lexer

/-- The lexer `t` is where `s` is, with tokens of the kinds `before` made earlier. -/
structure Beside (before : List Token.Kind) (s t : Lexer) : Prop where
  fault : t.fault.isSome = s.fault.isSome
  mode : t.mode = s.mode
  held : t.held = s.held
  kinds : t.tokens.map Token.kind = s.tokens.map Token.kind ++ before

namespace Beside

variable {before : List Token.Kind} {s t : Lexer}

theorem goTo (h : Beside before s t) (mode : Mode) :
    Beside before { s with mode } { t with mode } :=
  ⟨h.fault, rfl, h.held, h.kinds⟩

theorem advance (h : Beside before s t) (c : Char) : Beside before (s.advance c) (t.advance c) :=
  ⟨h.fault, h.mode, h.held, h.kinds⟩

theorem take (h : Beside before s t) (c : Char) :
    Beside before ((s.advance c).hold c) ((t.advance c).hold c) :=
  ⟨h.fault, h.mode, congrArg (c :: ·) h.held, h.kinds⟩

theorem complete (h : Beside before s t) (kind : Token.Kind) :
    Beside before (s.complete kind) (t.complete kind) :=
  ⟨h.fault, rfl, rfl, congrArg (kind :: ·) h.kinds⟩

theorem fail (h : Beside before s t) (defect defect' : Defect) :
    Beside before (s.fail defect) (t.fail defect') :=
  ⟨rfl, h.mode, h.held, h.kinds⟩

theorem completeText (h : Beside before s t) : Beside before s.completeText t.completeText := by
  unfold Lexer.completeText
  rw [h.held]
  split
  · exact h
  · exact h.complete _

/-- Whatever turn is made, two lexers that stand alike do so afterwards. The turn depends on nothing
in which they differ. -/
theorem run (h : Beside before s t) (turn : Turn) (c : Char) :
    Beside before (turn.run s c) (turn.run t c) := by
  cases turn with
  | take next => exact (h.take c).goTo next
  | openMarkup => exact (h.completeText.advance c).goTo .opened
  | complete kind => exact (h.advance c).complete kind
  | fail defect => exact h.fail defect defect
  | failHere defect => exact ⟨rfl, h.mode, h.held, h.kinds⟩

/-- The same character leads on to the same place, as the tokens from before are not looked at. -/
theorem step (h : Beside before s t) (c : Char) : Beside before (s.step c) (t.step c) := by
  cases hFault : s.fault with
  | some fault =>
    have hSome : s.fault.isSome = true := by rw [hFault, Option.isSome_some]
    rw [step_of_fault hSome, step_of_fault (h.fault.trans hSome)]
    exact h
  | none =>
    have hFault' : t.fault = none := by simpa [hFault] using h.fault
    rw [step_eq_run hFault, step_eq_run hFault', h.mode, h.held]
    exact h.run _ c

theorem foldl_step (h : Beside before s t) (cs : List Char) :
    Beside before (cs.foldl Lexer.step s) (cs.foldl Lexer.step t) := by
  induction cs generalizing s t with
  | nil => exact h
  | cons c rest ih => exact ih (h.step c)

/-- At the end of the text two lexers that stand alike have made the same tokens, but for those from
before. -/
theorem finish (h : Beside before s t) : Beside before s.finish t.finish := by
  unfold Lexer.finish
  rw [h.fault, h.mode]
  split
  · exact h
  · cases s.mode with
    | text => exact h.completeText
    | _ => exact h.fail _ _

/-- A lexer beside one that holds something holds the same, with more tokens behind. -/
theorem toAt (h : Beside before s t) {mode : Mode} {held : List Char}
    {kinds : List Token.Kind} (hAt : At mode held kinds s) : At mode held (kinds ++ before) t := by
  refine ⟨?_, h.mode.trans hAt.mode, h.held.trans hAt.held, ?_⟩
  · have hFault := h.fault
    rw [hAt.fault] at hFault
    exact Option.isSome_eq_false_iff.mp hFault |> Option.isNone_iff_eq_none.mp
  · rw [h.kinds, hAt.kinds]

end Beside

namespace At

variable {s t : Lexer} {mode : Mode} {held next : List Char} {kinds before : List Token.Kind}

theorem beside (h : At mode held kinds s) (hBehind : At mode held (kinds ++ before) t) :
    Beside before s t :=
  ⟨by rw [h.fault, hBehind.fault], hBehind.mode.trans h.mode.symm, hBehind.held.trans h.held.symm,
    by rw [h.kinds, hBehind.kinds]⟩

/-- A text behind others, where a token has just ended, is cut into the tokens that it is cut into
alone. -/
theorem append (h : At .text [] before t) {cs : List Char}
    (hText : At mode held kinds (cs.foldl Lexer.step {})) :
    At mode held (kinds ++ before) (cs.foldl Lexer.step t) :=
  ((At.start.beside h).foldl_step cs).toAt hText

/-- A text behind others, which begins with a tag or the like, is cut as it is alone. The text that
was held becomes a token first. -/
theorem appendMarkup (h : At .text held before t) {cs : List Char} (hFirst : cs.head? = some '<')
    (hText : At mode next kinds (cs.foldl Lexer.step {})) :
    At mode next (kinds ++ (textKinds held ++ before)) (cs.foldl Lexer.step t) := by
  obtain ⟨rest, rfl⟩ := List.head?_eq_some_iff.mp hFirst
  exact ((At.start.opened.beside h.opened).foldl_step rest).toAt hText

/-- A lexer without a fault at the end of the text was outside of tags before it. -/
theorem of_finish {s : Lexer} (h : s.finish.fault = none) :
    ∃ held kinds, At .text held kinds s := by
  unfold Lexer.finish at h
  split at h
  · next hFault =>
    rw [h] at hFault
    cases hFault
  · next hFault =>
    cases hMode : s.mode with
    | text => exact ⟨s.held, _, by simpa using hFault, hMode, rfl, rfl⟩
    | _ =>
      rw [hMode] at h
      cases h

end At

end Lexer

end MarkupRules.Markup
