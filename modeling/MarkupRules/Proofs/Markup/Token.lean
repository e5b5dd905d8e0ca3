import MarkupRules.Markup.Token
import MarkupRules.Text.Blank
import Mathlib.Data.List.TakeWhile

/-!
What the lexer makes of texts and tags.

`Lexer.At` describes a state of the lexer up to the places of its tokens. Texts and tags move
it from one such description to the next, whatever came before them.
-/
namespace MarkupRules.Markup

/-- A run of spaces, tabs and line ends. -/
def Blanks (cs : List Char) : Prop := ∀ c ∈ cs, isTagBlank c = true

instance (cs : List Char) : Decidable (Blanks cs) :=
  decidable_of_iff (cs.all isTagBlank = true) List.all_eq_true

/-- What separates things inside a tag is also a blank around texts. The converse fails, as texts
have more kinds of blanks. -/
theorem isBlank_of_isTagBlank {c : Char} (h : isTagBlank c = true) : Text.isBlank c = true := by
  simp only [isTagBlank, Bool.or_eq_true, beq_iff_eq] at h
  rcases h with ((rfl | rfl) | rfl) | rfl <;> decide

namespace Blanks

variable {blanks more : List Char}

theorem nil : Blanks [] := by decide

theorem append (h : Blanks blanks) (hMore : Blanks more) : Blanks (blanks ++ more) :=
  List.forall_mem_append.mpr ⟨h, hMore⟩

theorem isBlank (h : Blanks blanks) : ∀ c ∈ blanks, Text.isBlank c = true :=
  fun c hMem => isBlank_of_isTagBlank (h c hMem)

theorem ne_of_mem (h : Blanks blanks) {d : Char} (hOther : isTagBlank d = false) :
    ∀ c ∈ blanks, c ≠ d := by
  rintro c hMem rfl
  rw [h c hMem] at hOther
  cases hOther

end Blanks

namespace Lexer

/-- The lexer has met no fault, is in a mode, holds these characters, last first, and has made
tokens of these kinds, last first. -/
structure At (mode : Mode) (held : List Char) (kinds : List Token.Kind) (s : Lexer) : Prop where
  fault : s.fault = none
  mode : s.mode = mode
  held : s.held = held
  kinds : s.tokens.map Token.kind = kinds

/-- The token that ends a text with these characters held, if there are any. -/
def textKinds : List Char → List Token.Kind
  | [] => []
  | held => [.text held.reverse]

namespace At

variable {s : Lexer} {held : List Char} {kinds : List Token.Kind}

theorem start : At .text [] [] {} := ⟨rfl, rfl, rfl, rfl⟩

theorem take {mode : Mode} (h : At mode held kinds s) (next : Mode) (c : Char) :
    At next (c :: held) kinds { (s.advance c).hold c with mode := next } :=
  ⟨h.fault, rfl, by simp [hold, advance, h.held], h.kinds⟩

/-- Characters each of which is taken in and changes nothing else are all taken in, last first. -/
theorem foldl_step {mode : Mode} {cs : List Char}
    (hStep : ∀ c ∈ cs, ∀ (s : Lexer) (held : List Char),
      At mode held kinds s → At mode (c :: held) kinds (s.step c))
    (h : At mode held kinds s) : At mode (cs.reverse ++ held) kinds (cs.foldl step s) := by
  induction cs generalizing s held with
  | nil => exact h
  | cons c rest ih =>
    have hNext := hStep c (.head _) s held h
    simpa using ih (fun c hMem => hStep c (.tail _ hMem)) hNext

/-- Anything but `<` continues a text, a bracket that closes included. -/
theorem text (h : At .text held kinds s) {cs : List Char} (hText : ∀ c ∈ cs, c ≠ '<') :
    At .text (cs.reverse ++ held) kinds (cs.foldl step s) := by
  refine h.foldl_step fun c hMem t held ht => ?_
  have hStep : t.step c = { (t.advance c).hold c with mode := .text } := by
    simp [step, hold, advance, ht.fault, ht.mode, hText c hMem]
  rw [hStep]
  exact ht.take .text c

/-- `<` ends a text, which is a token of its own unless it is empty, and begins a tag or the like.
-/
theorem opened (h : At .text held kinds s) :
    At .opened [] (textKinds held ++ kinds) (s.step '<') := by
  have hStep : s.step '<' = { s.completeText.advance '<' with mode := .opened } := by
    simp [step, h.fault, h.mode]
  rw [hStep]
  cases held with
  | nil =>
    have hSame : s.completeText = s := by simp [completeText, h.held]
    rw [hSame]
    exact ⟨h.fault, rfl, h.held, h.kinds⟩
  | cons c rest =>
    have hText : s.completeText = s.complete (.text (c :: rest).reverse) := by
      simp [completeText, h.held]
    rw [hText]
    exact ⟨h.fault, rfl, rfl, by simp [complete, advance, textKinds, h.kinds]⟩

end At

/-- Whether a character means nothing to the lexer inside a tag. -/
def isPlain (c : Char) : Bool := c != '>' && c != '"' && c != '\''

theorem isPlain_of_blanks {blanks : List Char} (h : Blanks blanks) :
    ∀ c ∈ blanks, isPlain c = true := by
  intro c hMem
  have hOther : c ≠ '>' ∧ c ≠ '"' ∧ c ≠ '\'' :=
    ⟨h.ne_of_mem rfl c hMem, h.ne_of_mem rfl c hMem, h.ne_of_mem rfl c hMem⟩
  simp [isPlain, hOther]

namespace At

variable {s : Lexer} {held : List Char} {kinds : List Token.Kind}

/-- The first character of a tag. -/
theorem tagStart (h : At .opened [] kinds s) {c : Char} (hPlain : isPlain c = true)
    (hBang : c ≠ '!') (hQuestion : c ≠ '?') : At (.tag none) [c] kinds (s.step c) := by
  simp only [isPlain, Bool.and_eq_true, bne_iff_ne] at hPlain
  have hStep : s.step c = { (s.advance c).hold c with mode := .tag none } := by
    simp [step, stepTag, h.fault, h.mode, hBang, hQuestion, hPlain]
  rw [hStep]
  exact h.take (.tag none) c

/-- Characters that mean nothing inside a tag are held for it one after the other. -/
theorem tagPlain (h : At (.tag none) held kinds s) {cs : List Char}
    (hPlain : ∀ c ∈ cs, isPlain c = true) :
    At (.tag none) (cs.reverse ++ held) kinds (cs.foldl step s) := by
  refine h.foldl_step fun c hMem t held ht => ?_
  have hHere := hPlain c hMem
  simp only [isPlain, Bool.and_eq_true, bne_iff_ne] at hHere
  have hStep : t.step c = { (t.advance c).hold c with mode := .tag none } := by
    simp [step, stepTag, ht.fault, ht.mode, hHere]
  rw [hStep]
  exact ht.take (.tag none) c

/-- Between quotes anything but a quote may stand, and it neither ends the tag nor begins another.
-/
theorem quoted (h : At (.tag none) held kinds s) {cs : List Char} (hQuote : ∀ c ∈ cs, c ≠ '"') :
    At (.tag none) (('"' :: cs ++ ['"']).reverse ++ held) kinds
      (('"' :: cs ++ ['"']).foldl step s) := by
  have hOpen : At (.tag (some '"')) ('"' :: held) kinds (s.step '"') := by
    have hStep : s.step '"' = { (s.advance '"').hold '"' with mode := .tag (some '"') } := by
      simp [step, stepTag, h.fault, h.mode]
    rw [hStep]
    exact h.take _ _
  have hInside : At (.tag (some '"')) (cs.reverse ++ '"' :: held) kinds
      (cs.foldl step (s.step '"')) := by
    refine hOpen.foldl_step fun c hMem t held ht => ?_
    have hStep : t.step c = { (t.advance c).hold c with mode := .tag (some '"') } := by
      simp [step, stepTag, ht.fault, ht.mode, hQuote c hMem]
    rw [hStep]
    exact ht.take _ _
  rw [List.cons_append, List.foldl_cons, List.foldl_append]
  generalize cs.foldl step (s.step '"') = t at hInside
  have hStep : t.step '"' = { (t.advance '"').hold '"' with mode := .tag none } := by
    simp [step, stepTag, hInside.fault, hInside.mode]
  rw [List.foldl_cons, List.foldl_nil, hStep]
  simpa using hInside.take (.tag none) '"'

/-- `>` ends a tag outside of quotes, and what was held becomes its token. -/
theorem tagEnd (h : At (.tag none) held kinds s) :
    At .text [] (tagKind held :: kinds) (s.step '>') := by
  have hStep : s.step '>' = (s.advance '>').complete (tagKind s.held) := by
    simp [step, stepTag, h.fault, h.mode]
  rw [hStep, h.held]
  exact ⟨h.fault, rfl, rfl, by simp [complete, advance, h.kinds]⟩

/-- A tag without quotes is one token, from its bracket to the next one that closes. -/
theorem plainTag (h : At .text held kinds s) {c : Char} {rest : List Char}
    (hPlain : ∀ d ∈ c :: rest, isPlain d = true) (hBang : c ≠ '!') (hQuestion : c ≠ '?') :
    At .text [] (tagKind (c :: rest).reverse :: (textKinds held ++ kinds))
      (('<' :: c :: rest ++ ['>']).foldl step s) := by
  have hInside := (h.opened.tagStart (hPlain c (.head _)) hBang hQuestion).tagPlain
    fun d hMem => hPlain d (.tail _ hMem)
  simpa using hInside.tagEnd

end At

/-- What begins with a slash is an end tag, and its name is what follows without the blanks behind.
-/
theorem tagKind_closing (name : List Char) :
    tagKind ('/' :: name).reverse = .closing (closingName name) := by
  simp [tagKind]

/-- What ends in a slash, and has more than that, is a start tag that closes at once. The slash is
not part of its content. -/
theorem tagKind_empty {content : List Char} (hNil : content ≠ [])
    (hSlash : content.head? ≠ some '/') :
    tagKind (content ++ ['/']).reverse = .opening content true := by
  obtain ⟨c, rest, rfl⟩ := List.exists_cons_of_ne_nil hNil
  have hHead : c ≠ '/' := by simpa using hSlash
  simp [tagKind, hHead]

/-- What neither begins nor ends in a slash is a start tag with all of it for its content. -/
theorem tagKind_opening {content : List Char} (hFirst : content.head? ≠ some '/')
    (hLast : content.getLast? ≠ some '/') : tagKind content.reverse = .opening content false := by
  unfold tagKind
  split
  · next name hContent => simp_all
  · next content' _ _ hHeld => simp_all
  · simp

/-- Blanks behind the name of an end tag are no part of the name. -/
theorem closingName_append {name blanks : List Char} (hNil : name ≠ [])
    (hName : ∀ c ∈ name, isTagBlank c = false) (hBlanks : Blanks blanks) :
    closingName (name ++ blanks) = name := by
  obtain ⟨c, rest, rfl⟩ := List.exists_cons_of_ne_nil hNil
  have hNotBlank : ((c :: rest) ++ blanks).all isTagBlank = false := by simp [hName c (.head _)]
  have hReverse : ∀ b ∈ blanks.reverse, isTagBlank b = true :=
    fun b hMem => hBlanks b (List.mem_reverse.mp hMem)
  have hKeep : (c :: rest).reverse.dropWhile isTagBlank = (c :: rest).reverse := by
    refine List.dropWhile_eq_self_iff.mpr fun hLength => ?_
    simpa using hName _ (List.mem_reverse.mp (List.getElem_mem hLength))
  rw [closingName, hNotBlank, List.reverse_append,
    List.dropWhile_append_of_pos hReverse, hKeep]
  simp

/-- The end of a text outside of tags makes a token of what is still held, and is no fault. -/
theorem At.finish {s : Lexer} {held : List Char} {kinds : List Token.Kind}
    (h : At .text held kinds s) :
    s.finish.fault = none ∧ s.finish.tokens.map Token.kind = textKinds held ++ kinds := by
  have hFinish : s.finish = s.completeText := by simp [Lexer.finish, h.fault, h.mode]
  rw [hFinish]
  cases held with
  | nil => simp [completeText, h.held, h.fault, h.kinds, textKinds]
  | cons c rest => simp [completeText, complete, h.held, h.fault, h.kinds, textKinds]

end Lexer

/-- The kinds of the tokens in a text. -/
def kindsOf (text : String) : List Token.Kind := (tokenize text.toList).tokens.map Token.kind

theorem dropByteOrderMark_of_head? {cs : List Char} (h : cs.head? ≠ some '\ufeff') :
    dropByteOrderMark cs = cs := by
  unfold dropByteOrderMark
  split
  · simp at h
  · rfl

/-- The tokens of a text that ends outside of tags are those that were made on the way and one for
what is still held. -/
theorem map_kind_tokenize {cs held : List Char} {kinds : List Token.Kind}
    (hStart : cs.head? ≠ some '\ufeff') (h : Lexer.At .text held kinds (cs.foldl Lexer.step {})) :
    (tokenize cs).fault = none ∧
      (tokenize cs).tokens.map Token.kind = (Lexer.textKinds held ++ kinds).reverse := by
  obtain ⟨hFault, hKinds⟩ := h.finish
  rw [tokenize, dropByteOrderMark_of_head? hStart, ← hKinds]
  exact ⟨hFault, List.map_reverse⟩

end MarkupRules.Markup
