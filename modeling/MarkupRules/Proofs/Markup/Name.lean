import MarkupRules.Proofs.Markup.Token

/-!
Names made of letters, and the end tags that hold them.
-/
namespace MarkupRules.Markup

/-- A name of ASCII letters. -/
structure IsName (name : String) : Prop where
  ne_empty : name ≠ ""
  letters : ∀ c ∈ name.toList, c.isAlpha = true

instance (name : String) : Decidable (IsName name) :=
  decidable_of_iff (name ≠ "" ∧ name.toList.all Char.isAlpha = true)
    ⟨fun h => ⟨h.1, List.all_eq_true.mp h.2⟩, fun h => ⟨h.1, List.all_eq_true.mpr h.2⟩⟩

theorem ne_of_isAlpha {c d : Char} (hLetter : c.isAlpha = true) (hOther : d.isAlpha = false) :
    c ≠ d := by
  rintro rfl
  rw [hLetter] at hOther
  cases hOther

theorem isTagBlank_of_isAlpha {c : Char} (h : c.isAlpha = true) : isTagBlank c = false := by
  simp [isTagBlank, ne_of_isAlpha h]

/-- A letter means nothing to the lexer inside a tag: it opens no quote and ends no tag. -/
theorem isPlain_of_isAlpha {c : Char} (h : c.isAlpha = true) : Lexer.isPlain c = true := by
  simp [Lexer.isPlain, ne_of_isAlpha h]

namespace IsName

variable {name : String}

theorem toList_ne_nil (h : IsName name) : name.toList ≠ [] := by
  simpa using h.ne_empty

/-- A name begins with a letter and goes on with letters, if it goes on. -/
theorem exists_cons (h : IsName name) :
    ∃ c rest, name.toList = c :: rest ∧ c.isAlpha = true ∧ ∀ d ∈ rest, d.isAlpha = true := by
  obtain ⟨c, rest, hCons⟩ := List.exists_cons_of_ne_nil h.toList_ne_nil
  have hLetters := h.letters
  rw [hCons] at hLetters
  exact ⟨c, rest, hCons, hLetters c (.head _), fun d hMem => hLetters d (.tail _ hMem)⟩

theorem head?_append_ne_slash (h : IsName name) (rest : List Char) :
    (name.toList ++ rest).head? ≠ some '/' := by
  obtain ⟨c, more, hCons, hFirst, -⟩ := h.exists_cons
  simpa [hCons] using ne_of_isAlpha hFirst rfl

theorem not_blank (h : IsName name) : ∀ c ∈ name.toList, isTagBlank c = false :=
  fun c hMem => isTagBlank_of_isAlpha (h.letters c hMem)

theorem isPlain (h : IsName name) : ∀ c ∈ name.toList, Lexer.isPlain c = true :=
  fun c hMem => isPlain_of_isAlpha (h.letters c hMem)

variable {s : Lexer} {held : List Char} {kinds : List Token.Kind}

/-- The end tag of a name is one token, with blanks in front of its last bracket or without. What
was on hold before it is a token of its own. -/
theorem endTag (h : IsName name) (hAt : Lexer.At .text held kinds s) {blanks : List Char}
    (hBlanks : Blanks blanks) :
    Lexer.At .text [] (.closing name.toList :: (Lexer.textKinds held ++ kinds))
      (('<' :: '/' :: (name.toList ++ blanks) ++ ['>']).foldl Lexer.step s) := by
  have hKind : Lexer.tagKind ('/' :: (name.toList ++ blanks)).reverse = .closing name.toList := by
    rw [Lexer.tagKind_closing, Lexer.closingName_append h.toList_ne_nil h.not_blank hBlanks]
  have hPlain : ∀ d ∈ '/' :: (name.toList ++ blanks), Lexer.isPlain d = true := by
    intro d hMem
    rcases List.mem_cons.mp hMem with rfl | hMem
    · decide
    · rcases List.mem_append.mp hMem with hName | hBlank
      · exact h.isPlain d hName
      · exact Lexer.isPlain_of_blanks hBlanks d hBlank
  rw [← hKind]
  exact hAt.plainTag hPlain (by decide) (by decide)

end IsName

end MarkupRules.Markup
