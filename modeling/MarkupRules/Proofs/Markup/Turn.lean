import MarkupRules.Markup.Token
import Mathlib.Tactic.SplitIfs

/-!
What the lexer makes of a character.

There are five turns that it can take, and its mode and the characters it holds say which one. So
two lexers that agree in these take the same turn, and what every turn keeps a step keeps.
-/
namespace MarkupRules.Markup

namespace Lexer

/-- A way to go on from a character, or to stop at it. -/
inductive Turn where
  /-- The character joins the token at hand. -/
  | take (next : Mode)
  /-- The character ends the text at hand and begins markup. -/
  | openMarkup
  /-- The character ends the markup at hand. -/
  | complete (kind : Token.Kind)
  /-- The markup at hand is at fault. -/
  | fail (defect : Defect)
  /-- The character itself is. -/
  | failHere (defect : Defect)

/-- The lexer after a turn. -/
def Turn.run (s : Lexer) (c : Char) : Turn → Lexer
  | take next => { (s.advance c).hold c with mode := next }
  | openMarkup => { s.completeText.advance c with mode := .opened }
  | complete kind => (s.advance c).complete kind
  | fail defect => s.fail defect
  | failHere defect => { s with fault := some ⟨s.offset, defect⟩ }

/-- The turn inside a tag. -/
def tagTurn (held : List Char) (c : Char) : Option Char → Turn
  | some q => .take (.tag (if c = q then none else some q))
  | none =>
    if c = '>' then .complete (tagKind held)
    else if c = '"' || c = '\'' then .take (.tag (some c))
    else .take (.tag none)

/-- The turn inside a document type. -/
def doctypeTurn (held : List Char) (c : Char) (depth : Nat) : Turn :=
  if c = '<' then .take (.doctype (depth + 1))
  else if c = '>' then
    match depth with
    | outer + 1 => .take (.doctype outer)
    | 0 =>
      if !isDoctype held then .fail (.unfinished .doctype)
      else if hasDoctypeName held then .complete .skipped
      else .failHere .missingDoctypeName
  else .take (.doctype depth)

/-- The turn inside an instruction. -/
def instructionTurn (held : List Char) (c : Char) : Turn :=
  match held with
  | '?' :: more =>
    if c = '>' then if more.isEmpty then .fail (.unfinished .instruction) else .complete .skipped
    else .take .instruction
  | _ => .take .instruction

/-- The turn that the lexer takes on a character, by its mode and what it holds. -/
def turn (held : List Char) (c : Char) : Mode → Turn
  | .text => if c = '<' then .openMarkup else .take .text
  | .opened =>
    if c = '!' then .take .bang else if c = '?' then .take .instruction else tagTurn held c none
  | .bang =>
    if c = '[' then .take .characterData
    else if c = '-' then .take .comment
    else if c = 'D' || c = 'd' then .take (.doctype 0)
    else .fail .unknownMarkup
  | .comment =>
    if c = '>' && commentMayEnd held then
      if startsWith "!--" held then .complete .skipped else .fail (.unfinished .comment)
    else .take .comment
  | .characterData =>
    if c = '>' && characterDataMayEnd held then
      if startsWith "![CDATA[" held then .complete (.characterData (characterDataContent held))
      else .fail (.unfinished .characterData)
    else .take .characterData
  | .doctype depth => doctypeTurn held c depth
  | .instruction => instructionTurn held c
  | .tag quote => tagTurn held c quote

/-- Inside a tag a step is the turn that the quote and the character call for. What a turn does to
the tokens is said once, for all of them. -/
theorem stepTag_eq_run (s : Lexer) (quote : Option Char) (c : Char) :
    s.stepTag quote c = (tagTurn s.held c quote).run s c := by
  unfold stepTag tagTurn
  cases quote with
  | some q => rfl
  | none =>
    dsimp only
    split_ifs <;> rfl

/-- A fault ends the tokens, for behind it no character changes anything. -/
theorem step_of_fault {s : Lexer} (hFault : s.fault.isSome = true) (c : Char) : s.step c = s :=
  if_pos hFault

/-- A step is the turn that the lexer takes, in whatever mode it is. Statements about all modes are
therefore shown by the few turns there are. -/
theorem step_eq_run {s : Lexer} (hFault : s.fault = none) (c : Char) :
    s.step c = (turn s.held c s.mode).run s c := by
  obtain ⟨tokens, fault, start, offset, mode, held⟩ := s
  obtain rfl : fault = none := hFault
  rw [step, if_neg (by simp)]
  cases mode with
  | text =>
    dsimp only [turn]
    split_ifs <;> rfl
  | opened =>
    dsimp only [turn]
    rw [stepTag_eq_run]
    split_ifs <;> rfl
  | bang =>
    dsimp only [turn, stepBang]
    split_ifs <;> rfl
  | comment =>
    dsimp only [turn, stepComment]
    split_ifs <;> rfl
  | characterData =>
    dsimp only [turn, stepCharacterData]
    split_ifs <;> rfl
  | doctype depth =>
    cases depth with
    | zero =>
      dsimp only [turn, stepDoctype, doctypeTurn]
      split_ifs <;> rfl
    | succ outer =>
      dsimp only [turn, stepDoctype, doctypeTurn]
      split_ifs <;> rfl
  | instruction =>
    dsimp only [turn, stepInstruction]
    split
    · rw [instructionTurn]
      split_ifs <;> rfl
    · next hOther =>
      rw [instructionTurn]
      · rfl
      · exact hOther
  | tag quote => exact stepTag_eq_run _ quote c

end Lexer

end MarkupRules.Markup
