import MarkupRules.Proofs.Markup.Turn
import MarkupRules.Proofs.Text.Utf8

/-!
Where the tokens of a text stand.

The tokens are pieces of the text that follow one another without a gap, and each knows how many
bytes come before it. `Lexer.HasRead` says how far the lexer has cut what it has read, and every
step keeps that up to the first fault.
-/
namespace MarkupRules.Markup

/-- `Cuts text tokens`: the tokens, last first, are the pieces of the text, none of them empty. The
piece of a start tag begins with `<` and the content of the tag. -/
inductive Cuts : List Char → List Token → Prop where
  | nil : Cuts [] []
  | snoc {front : List Char} {tokens : List Token} (hFront : Cuts front tokens)
      {piece : List Char} (hSome : piece ≠ []) {kind : Token.Kind}
      (hTag : ∀ content isEmpty, kind = .opening content isEmpty → '<' :: content <+: piece) :
      Cuts (front ++ piece) (⟨Text.byteLength front, kind⟩ :: tokens)

namespace Cuts

variable {text : List Char} {tokens : List Token}

/-- Every token of a text starts before the end of the text, for no token is empty. -/
theorem start_lt (h : Cuts text tokens) :
    ∀ token ∈ tokens, token.start < Text.byteLength text := by
  induction h with
  | nil => simp
  | snoc hFront hSome hTag ih =>
    have hPiece := Text.byteLength_pos hSome
    intro token hMem
    rw [Text.byteLength_append]
    rcases List.mem_cons.mp hMem with rfl | hEarlier
    · dsimp only
      omega
    · have hBefore := ih token hEarlier
      omega

/-- The later of two tokens starts behind the earlier one, because each begins where the one before
it ends. -/
theorem pairwise_start (h : Cuts text tokens) :
    tokens.Pairwise fun later earlier => earlier.start < later.start := by
  induction h with
  | nil => exact .nil
  | snoc hFront hSome hTag ih => exact List.pairwise_cons.mpr ⟨hFront.start_lt, ih⟩

/-- Every start tag stands in the text where it says: behind so many bytes come `<` and its content.
-/
theorem exists_front (h : Cuts text tokens) {start : Nat} {content : List Char} {isEmpty : Bool}
    (hMem : ⟨start, .opening content isEmpty⟩ ∈ tokens) :
    ∃ front back, text = front ++ '<' :: (content ++ back) ∧ Text.byteLength front = start := by
  induction h with
  | nil => cases hMem
  | @snoc front tokens hFront piece hSome kind hTag ih =>
    rcases List.mem_cons.mp hMem with hLast | hEarlier
    · obtain ⟨rfl, rfl⟩ := Token.mk.inj hLast
      obtain ⟨back, rfl⟩ := hTag content isEmpty rfl
      exact ⟨front, back, by simp, rfl⟩
    · obtain ⟨before, back, rfl, hStart⟩ := ih hEarlier
      exact ⟨before, back ++ piece, by simp, hStart⟩

end Cuts

namespace Lexer

/-- The characters of the token at hand. -/
def atHand (s : Lexer) : List Char :=
  if s.mode = .text then s.held.reverse else '<' :: s.held.reverse

/-- Without a fault the lexer has read the text `read`, of which it has cut `front` into tokens. -/
structure HasRead (front read : List Char) (s : Lexer) : Prop where
  fault : s.fault = none
  cuts : Cuts front s.tokens
  start : s.start = Text.byteLength front
  offset : s.offset = Text.byteLength read
  read_eq : read = front ++ s.atHand

/-- The tokens of the lexer cut the text `read` as far as it goes or, behind a fault, a front of
it. -/
def Follows (read : List Char) (s : Lexer) : Prop :=
  (∃ front, s.HasRead front read) ∨
    s.fault.isSome = true ∧ ∃ front, front <+: read ∧ Cuts front s.tokens

theorem hasRead_start : HasRead [] [] {} := ⟨rfl, .nil, rfl, rfl, rfl⟩

namespace HasRead

variable {front read : List Char} {s : Lexer}

/-- One more character joins the token at hand, which stays a text or markup as it was. -/
theorem take (h : s.HasRead front read) {next : Mode} (hText : next = .text ↔ s.mode = .text)
    (c : Char) : Follows (read ++ [c]) { (s.advance c).hold c with mode := next } := by
  have hOffset : s.offset + c.utf8Size = Text.byteLength (read ++ [c]) := by
    rw [h.offset]
    simp
  refine .inl ⟨front, h.fault, h.cuts, h.start, hOffset, ?_⟩
  by_cases hMode : s.mode = .text
  · simp [h.read_eq, atHand, advance, hold, hText.mpr hMode, hMode]
  · simp [h.read_eq, atHand, advance, hold, mt hText.mp hMode, hMode]

/-- A character that ends the markup at hand completes a piece of the text, and nothing is at hand
behind it. -/
theorem complete (h : s.HasRead front read) (hMarkup : s.mode ≠ .text) (c : Char)
    {kind : Token.Kind}
    (hTag : ∀ content isEmpty, kind = .opening content isEmpty → content <+: s.held.reverse) :
    Follows (read ++ [c]) ((s.advance c).complete kind) := by
  have hPiece : read ++ [c] = front ++ ('<' :: (s.held.reverse ++ [c])) := by
    rw [h.read_eq]
    simp [atHand, hMarkup]
  have hOffset : s.offset + c.utf8Size = Text.byteLength (read ++ [c]) := by
    rw [h.offset]
    simp
  have hTag' (content : List Char) (isEmpty : Bool) (hKind : kind = .opening content isEmpty) :
      '<' :: content <+: '<' :: (s.held.reverse ++ [c]) := by
    have hHeld := hTag content isEmpty hKind
    exact (List.prefix_cons_inj '<').mpr (hHeld.trans (List.prefix_append _ _))
  refine .inl ⟨read ++ [c], h.fault, ?_, hOffset, hOffset, by simp [atHand, Lexer.complete]⟩
  show Cuts (read ++ [c]) (⟨s.start, kind⟩ :: s.tokens)
  rw [h.start, hPiece]
  exact h.cuts.snoc (by simp) hTag'

/-- `<` ends the text at hand, which is a piece unless it is empty, and begins markup. -/
theorem opened (h : s.HasRead front read) (hText : s.mode = .text) :
    Follows (read ++ ['<']) { s.completeText.advance '<' with mode := .opened } := by
  have hHand : read = front ++ s.held.reverse := by
    rw [h.read_eq]
    simp [atHand, hText]
  have hOffset : s.offset + '<'.utf8Size = Text.byteLength (read ++ ['<']) := by
    rw [h.offset]
    simp
  by_cases hHeld : s.held = []
  · have hSame : s.completeText = s := by simp [completeText, hHeld]
    obtain rfl : read = front := by simpa [hHeld] using hHand
    rw [hSame]
    exact .inl ⟨read, h.fault, h.cuts, h.start, hOffset, by simp [atHand, advance, hHeld]⟩
  · have hDone : s.completeText = s.complete (.text s.held.reverse) := by
      simp [completeText, hHeld]
    rw [hDone]
    refine .inl ⟨read, h.fault, ?_, h.offset, hOffset, by simp [atHand, advance, Lexer.complete]⟩
    show Cuts read (⟨s.start, .text s.held.reverse⟩ :: s.tokens)
    rw [h.start, hHand]
    exact h.cuts.snoc (by simpa using hHeld) (by simp)

/-- A fault leaves the tokens as they are, and they cut the text as far as they go. -/
theorem stop (h : s.HasRead front read) (c : Char) {t : Lexer} (hTokens : t.tokens = s.tokens)
    (hFault : t.fault.isSome = true) : t.Follows (read ++ [c]) := by
  have hPrefix : front <+: read ++ [c] := ⟨s.atHand ++ [c], by rw [h.read_eq]; simp⟩
  exact .inr ⟨hFault, front, hPrefix, hTokens ▸ h.cuts⟩

end HasRead

/-- The content of a start tag is what it holds, perhaps without a slash at the end. -/
theorem prefix_of_tagKind {held content : List Char} {isEmpty : Bool}
    (h : tagKind held = .opening content isEmpty) : content <+: held.reverse := by
  unfold tagKind at h
  split at h
  · cases h
  · next rest _ =>
    obtain ⟨rfl, -⟩ := Token.Kind.opening.inj h
    exact ⟨['/'], by simp⟩
  · obtain ⟨rfl, -⟩ := Token.Kind.opening.inj h
    exact List.prefix_refl _

/-- What a turn may be in a mode: texts stay texts until `<` comes and markup stays markup until its
end, and a start tag has the content that is held for it. -/
inductive Turn.Fits (held : List Char) (c : Char) (mode : Mode) : Turn → Prop where
  | take {next : Mode} (hText : next = .text ↔ mode = .text) : Fits held c mode (.take next)
  | openMarkup (hText : mode = .text) (hBracket : c = '<') : Fits held c mode .openMarkup
  | complete {kind : Token.Kind} (hMarkup : mode ≠ .text)
      (hTag : ∀ content isEmpty, kind = .opening content isEmpty → content <+: held.reverse) :
      Fits held c mode (.complete kind)
  | fail {defect : Defect} : Fits held c mode (.fail defect)
  | failHere {defect : Defect} : Fits held c mode (.failHere defect)

/-- Inside a tag every turn fits, within quotes and outside of them. -/
theorem fits_tagTurn {mode : Mode} (hMarkup : mode ≠ .text) (held : List Char) (c : Char)
    (quote : Option Char) : (tagTurn held c quote).Fits held c mode := by
  cases quote with
  | some q => exact .take (by simp [hMarkup])
  | none =>
    dsimp only [tagTurn]
    split_ifs
    · exact .complete hMarkup fun _ _ hKind => prefix_of_tagKind hKind
    · exact .take (by simp [hMarkup])
    · exact .take (by simp [hMarkup])

/-- Every turn of the lexer fits the mode that it is made in. The many modes inside of markup all
come to the same here. -/
theorem fits_turn (held : List Char) (c : Char) (mode : Mode) :
    (turn held c mode).Fits held c mode := by
  cases mode with
  | text =>
    dsimp only [turn]
    split_ifs with hOpen
    · exact .openMarkup rfl hOpen
    · exact .take .rfl
  | opened =>
    dsimp only [turn]
    split_ifs
    · exact .take (by simp)
    · exact .take (by simp)
    · exact fits_tagTurn (by simp) held c none
  | bang =>
    dsimp only [turn]
    split_ifs
    · exact .take (by simp)
    · exact .take (by simp)
    · exact .take (by simp)
    · exact .fail
  | comment =>
    dsimp only [turn]
    split_ifs
    · exact .complete (by simp) (by simp)
    · exact .fail
    · exact .take .rfl
  | characterData =>
    dsimp only [turn]
    split_ifs
    · exact .complete (by simp) (by simp)
    · exact .fail
    · exact .take .rfl
  | doctype depth =>
    cases depth with
    | zero =>
      dsimp only [turn, doctypeTurn]
      split_ifs
      · exact .take (by simp)
      · exact .fail
      · exact .complete (by simp) (by simp)
      · exact .failHere
      · exact .take .rfl
    | succ outer =>
      dsimp only [turn, doctypeTurn]
      split_ifs
      · exact .take (by simp)
      · exact .take (by simp)
      · exact .take .rfl
  | instruction =>
    dsimp only [turn]
    unfold instructionTurn
    split
    · split_ifs
      · exact .fail
      · exact .complete (by simp) (by simp)
      · exact .take .rfl
    · exact .take .rfl
  | tag quote => exact fits_tagTurn (by simp) held c quote

namespace HasRead

variable {front read : List Char} {s : Lexer}

/-- Reading one more character goes on cutting or ends with a fault. -/
theorem step (h : s.HasRead front read) (c : Char) : (s.step c).Follows (read ++ [c]) := by
  have hFits := fits_turn s.held c s.mode
  rw [step_eq_run h.fault]
  generalize turn s.held c s.mode = taken at hFits ⊢
  cases hFits with
  | take hText => exact h.take hText c
  | openMarkup hText hBracket =>
    rw [hBracket]
    exact h.opened hText
  | complete hMarkup hTag => exact h.complete hMarkup c hTag
  | fail => exact h.stop c rfl rfl
  | failHere => exact h.stop c rfl rfl

/-- The end of the text ends the text at hand and is a fault inside of markup. -/
theorem exists_cuts_finish (h : s.HasRead front read) :
    ∃ front, front <+: read ∧ Cuts front s.finish.tokens := by
  have hPrefix : front <+: read := ⟨s.atHand, h.read_eq.symm⟩
  unfold Lexer.finish
  rw [if_neg (by simp [h.fault])]
  cases hMode : s.mode with
  | text =>
    have hHand : read = front ++ s.held.reverse := by
      rw [h.read_eq]
      simp [atHand, hMode]
    show ∃ front, front <+: read ∧ Cuts front s.completeText.tokens
    unfold completeText
    split
    · exact ⟨front, hPrefix, h.cuts⟩
    · next hHeld =>
      refine ⟨read, List.prefix_refl _, ?_⟩
      show Cuts read (⟨s.start, .text s.held.reverse⟩ :: s.tokens)
      rw [h.start, hHand]
      exact h.cuts.snoc (by simpa using hHeld) (by simp)
  | _ => exact ⟨front, hPrefix, h.cuts⟩

end HasRead

/-- One more character is cut on, or it is a fault and the tokens stay behind for good. -/
theorem Follows.step {read : List Char} {s : Lexer} (h : s.Follows read) (c : Char) :
    (s.step c).Follows (read ++ [c]) := by
  rcases h with ⟨front, hRead⟩ | ⟨hFault, front, hPrefix, hCuts⟩
  · exact hRead.step c
  · rw [step_of_fault hFault]
    exact .inr ⟨hFault, front, hPrefix.trans (List.prefix_append _ _), hCuts⟩

/-- Whatever is read, the tokens cut the text as far as they go, by induction on the characters. -/
theorem Follows.foldl_step {read : List Char} {s : Lexer} (h : s.Follows read) (cs : List Char) :
    (cs.foldl Lexer.step s).Follows (read ++ cs) := by
  induction cs generalizing read s with
  | nil => simpa using h
  | cons c rest ih =>
    rw [List.append_cons]
    exact ih (h.step c)

/-- In the end the tokens cut a front of what was read. Without a fault nothing but open markup is
left over. -/
theorem Follows.exists_cuts_finish {read : List Char} {s : Lexer} (h : s.Follows read) :
    ∃ front, front <+: read ∧ Cuts front s.finish.tokens := by
  rcases h with ⟨front, hRead⟩ | ⟨hFault, front, hPrefix, hCuts⟩
  · exact hRead.exists_cuts_finish
  · have hFinish : s.finish = s := by simp [Lexer.finish, hFault]
    rw [hFinish]
    exact ⟨front, hPrefix, hCuts⟩

end Lexer

/-- The tokens of a text cut a front of what comes behind its byte order mark, from which their
places are counted. -/
theorem exists_cuts_tokenize (cs : List Char) :
    ∃ front, front <+: dropByteOrderMark cs ∧ Cuts front (tokenize cs).tokens.reverse := by
  have hRead : Lexer.Follows (dropByteOrderMark cs)
      ((dropByteOrderMark cs).foldl Lexer.step {}) :=
    Lexer.Follows.foldl_step (.inl ⟨[], Lexer.hasRead_start⟩) (dropByteOrderMark cs)
  obtain ⟨front, hPrefix, hCuts⟩ := hRead.exists_cuts_finish
  refine ⟨front, hPrefix, ?_⟩
  rw [tokenize, List.reverse_reverse]
  exact hCuts

end MarkupRules.Markup
