import MarkupRules.Pattern.Basic
import MarkupRules.Proofs.Pattern.Matches
import Mathlib.Data.List.Forall2

/-!
Patterns that are words of ASCII letters and digits, by themselves and between anchors.

A pattern of characters that stand for themselves is read as the sequence of what each
stands for. Where such a sequence matches cuts the text in three; the anchors say how the
outer parts end, at the ends of the text or at those of a line.
-/
namespace MarkupRules.Pattern

/-- A character that is read on its own as an expression, whatever follows it. -/
structure Flags.ReadsAs (f : Flags) (c : Char) (e : Expr) : Prop where
  plain : c ∉ [')', '|', '(', '[', '?', '*', '+', '\x7b']
  atom (rest : List Char) : f.atom? (c :: rest) = some (e, rest)

variable {f : Flags}

theorem Flags.readsAs_caret : f.ReadsAs '^' (.place f.caret) :=
  ⟨by decide, fun _ => rfl⟩

theorem Flags.readsAs_dollar : f.ReadsAs '$' (.place f.dollar) :=
  ⟨by decide, fun _ => rfl⟩

/-- Letters and digits stand for themselves. -/
theorem Flags.readsAs_of_isAlphanum (hCase : f.ignoreCase = false) {c : Char}
    (hWord : c.isAlphanum = true) : f.ReadsAs c (.anyOf [c]) where
  plain hSpecial := by
    simp only [List.mem_cons, List.not_mem_nil, or_false] at hSpecial
    rcases hSpecial with rfl | rfl | rfl | rfl | rfl | rfl | rfl | rfl <;>
      exact absurd hWord (by decide)
  atom rest := by
    unfold Flags.atom?
    split
    case h_1 hNone => cases hNone
    case h_6 first behind _ _ _ _ hFirst =>
      obtain ⟨rfl, rfl⟩ := List.cons.inj hFirst
      simp [Flags.partExpr?, Flags.variants, hCase]
    all_goals
      obtain ⟨rfl, -⟩ := List.cons.inj ‹_›
      exact absurd hWord (by decide)

section Atoms

variable (hVerbose : f.verbose = false)
include hVerbose

/-- Such a character becomes one more part of the sequence. -/
theorem alternatives?_cons {c : Char} {e : Expr} (hReads : f.ReadsAs c e) (fuel : Nat)
    (names : List (List Char)) (rest : List Char) (branches : List Piece)
    (parts : List (Option Piece)) :
    Reading.alternatives? (fuel + 1) ⟨f, names, c :: rest⟩ branches parts =
      Reading.alternatives? fuel ⟨f, names, rest⟩ branches (some ⟨e, 0⟩ :: parts) := by
  have hPlain := hReads.plain
  simp only [List.mem_cons, List.not_mem_nil, or_false, not_or] at hPlain
  -- What `c` is not leaves the last branch of the reader.
  obtain ⟨hClose, hBar, hGroup, hClass, hMark, hStar, hPlus, hBrace⟩ := hPlain
  have hOnce : isRepetition c = false := by simp [isRepetition, *]
  have hSkip (cs : List Char) : f.skip cs = cs := by simp [Flags.skip, hVerbose]
  rw [Reading.alternatives?.eq_def]
  simp only [hSkip, hOnce, hReads.atom, Bool.false_eq_true, if_false]
  rfl

/-- Characters that are read on their own become one sequence, with nothing to choose between. -/
theorem alternatives?_of_forall₂ {cs : List Char} {es : List Expr}
    (hReads : List.Forall₂ f.ReadsAs cs es) (parts : List (Option Piece)) :
    Reading.alternatives? (cs.length + 1) ⟨f, [], cs⟩ [] parts =
      some (Piece.ofSequence (parts.reverse ++ es.map fun e => some ⟨e, 0⟩), ⟨f, [], []⟩) := by
  induction hReads generalizing parts with
  | nil => simp [Reading.alternatives?, Flags.skip, hVerbose, Piece.ofBranches]
  | @cons c e cs es hFirst hRest ih =>
    rw [List.length_cons, alternatives?_cons hVerbose hFirst, ih]
    simp

/-- A source of such characters describes the sequence of their expressions. -/
theorem parse?_of_forall₂ {cs : List Char} {es : List Expr}
    (hReads : List.Forall₂ f.ReadsAs cs es) : parse? f cs = some (.ofSequence es) := by
  have hDepth : (if es.length ≤ 1 then 0 else 1) ≤ maxNesting := by
    split <;> decide
  rw [parse?, alternatives?_of_forall₂ hVerbose hReads]
  simp [Piece.ofSequence, List.filterMap_map, Function.comp_def, List.foldl_map, hDepth]

end Atoms

namespace Expr

variable {text : List Char} {i j : Nat}

/-- A sequence matches as its first expression does up to some place and the others do from there.
-/
theorem matches_ofSequence_cons (e : Expr) (es : List Expr) :
    (ofSequence (e :: es)).Matches text i j ↔
      ∃ k, e.Matches text i k ∧ (ofSequence es).Matches text k j := by
  cases es with
  | nil => simp [ofSequence, Matches]
  | cons next es => simp [ofSequence, Matches]

/-- Two sequences one behind the other match if there is a place where the one ends and the other
begins. -/
theorem matches_ofSequence_append (es fs : List Expr) :
    (ofSequence (es ++ fs)).Matches text i j ↔
      ∃ k, (ofSequence es).Matches text i k ∧ (ofSequence fs).Matches text k j := by
  induction es generalizing i with
  | nil => simp [ofSequence, Matches]
  | cons e es ih =>
    simp only [List.cons_append, matches_ofSequence_cons, ih]
    constructor
    · rintro ⟨l, hFirst, k, hRest, hBehind⟩
      exact ⟨k, ⟨l, hFirst, hRest⟩, hBehind⟩
    · rintro ⟨k, ⟨l, hFirst, hRest⟩, hBehind⟩
      exact ⟨l, hFirst, k, hRest, hBehind⟩

/-- The expression of characters that stand for themselves. -/
def word (cs : List Char) : List Expr := cs.map fun c => .anyOf [c]

/-- Each letter and digit of a word is read as itself, unless the case is ignored. -/
theorem forall₂_readsAs_word {f : Flags} (hCase : f.ignoreCase = false) {cs : List Char}
    (hWord : ∀ c ∈ cs, c.isAlphanum = true) : List.Forall₂ f.ReadsAs cs (word cs) := by
  induction cs with
  | nil => exact .nil
  | cons c cs ih =>
    exact .cons (Flags.readsAs_of_isAlphanum hCase (hWord c List.mem_cons_self))
      (ih fun d hMem => hWord d (.tail c hMem))

/-- A word matches where it stands in the text, letter by letter, and nowhere else. -/
theorem matches_word (cs : List Char) :
    (ofSequence (word cs)).Matches text i j ↔ j = i + cs.length ∧ cs <+: text.drop i := by
  induction cs generalizing i with
  | nil => simp [word, ofSequence, Matches, eq_comm]
  | cons c cs ih =>
    have hHead : c :: cs <+: text.drop i ↔ text[i]? = some c ∧ cs <+: text.drop (i + 1) := by
      rw [← List.head?_drop, ← List.tail_drop]
      cases text.drop i <;> simp [eq_comm]
    rw [word, List.map_cons, matches_ofSequence_cons, hHead, List.length_cons]
    constructor
    · rintro ⟨k, ⟨rfl, d, hChar, hSame⟩, hRest⟩
      obtain ⟨hEnd, hPrefix⟩ := ih.mp hRest
      rw [List.mem_singleton.mp hSame] at hChar
      exact ⟨by omega, hChar, hPrefix⟩
    · rintro ⟨hEnd, hChar, hPrefix⟩
      exact ⟨i + 1, ⟨rfl, c, hChar, List.mem_singleton_self c⟩, ih.mpr ⟨by omega, hPrefix⟩⟩

/-- A word alone matches just the texts that have it as a part. -/
theorem isMatch_word (cs : List Char) :
    (ofSequence (word cs)).isMatch text = true ↔ cs <:+: text := by
  simp only [isMatch_iff, matches_word]
  constructor
  · rintro ⟨i, j, -, -, hPrefix⟩
    exact hPrefix.isInfix.trans (List.drop_suffix i text).isInfix
  · rintro ⟨lead, trail, rfl⟩
    refine ⟨lead.length, _, by simp, rfl, ?_⟩
    rw [List.append_assoc, List.drop_left]
    exact List.prefix_append cs trail

/-- A word between two tests matches the texts that have it where both hold. -/
theorem isMatch_framed (before behind : PlaceTest) (cs : List Char) :
    (ofSequence (.place before :: (word cs ++ [.place behind]))).isMatch text = true ↔
      ∃ lead trail, text = lead ++ cs ++ trail ∧
        before lead.getLast? (cs ++ trail).head? = true ∧
        behind (lead ++ cs).getLast? trail.head? = true := by
  simp only [isMatch_iff, matches_ofSequence_cons, matches_ofSequence_append, matches_word,
    ofSequence, Matches]
  constructor
  · rintro ⟨i, j, -, _, ⟨rfl, -, hBefore⟩, k, ⟨rfl, trail, hPrefix⟩, rfl, -, hBehind⟩
    have hTrail : text.drop (i + cs.length) = trail := by
      rw [← List.drop_drop, ← hPrefix, List.drop_left]
    have hWhole : text = text.take i ++ cs ++ trail := by
      rw [List.append_assoc, hPrefix, List.take_append_drop]
    refine ⟨text.take i, trail, hWhole, ?_, ?_⟩
    · rwa [hPrefix, List.head?_drop]
    · rw [List.take_add, ← hPrefix, List.take_left] at hBehind
      rwa [← hTrail, List.head?_drop]
  · rintro ⟨lead, trail, rfl, hBefore, hBehind⟩
    refine ⟨lead.length, lead.length + cs.length, by simp, lead.length, ⟨rfl, by simp, ?_⟩,
      lead.length + cs.length, ⟨rfl, ?_⟩, rfl, by simp, ?_⟩
    · rwa [List.append_assoc, List.take_left, ← List.head?_drop, List.drop_left]
    · rw [List.append_assoc, List.drop_left]
      exact List.prefix_append cs trail
    · rwa [← List.length_append, List.take_left, ← List.head?_drop, List.drop_left]

end Expr

/-- A text without line ends is a line of another if it stands there with an end of the text or of
a line on either side. -/
theorem mem_splitOn_iff {sep : Char} {line : List Char} (hLine : sep ∉ line)
    (text : List Char) :
    line ∈ text.splitOn sep ↔
      ∃ lead trail, text = lead ++ line ++ trail ∧
        lead.getLast?.all (· == sep) = true ∧ trail.head?.all (· == sep) = true := by
  constructor
  · -- A text is its lines with the line ends between them.
    suffices hLines : ∀ lines : List (List Char), line ∈ lines →
        ∃ lead trail, [sep].intercalate lines = lead ++ line ++ trail ∧
          lead.getLast?.all (· == sep) = true ∧ trail.head?.all (· == sep) = true by
      intro hMem
      simpa only [List.intercalate_splitOn] using hLines _ hMem
    intro lines hMem
    induction lines with
    | nil => cases hMem
    | cons first lines ih =>
      cases lines with
      | nil =>
        obtain rfl : line = first := List.mem_singleton.mp hMem
        exact ⟨[], [], by simp, rfl, rfl⟩
      | cons second lines =>
        rw [List.intercalate_cons_cons]
        rcases List.mem_cons.mp hMem with rfl | hMem
        · exact ⟨[], sep :: [sep].intercalate (second :: lines), by simp, rfl, by simp⟩
        · obtain ⟨lead, trail, hText, hLead, hTrail⟩ := ih hMem
          refine ⟨first ++ [sep] ++ lead, trail, by simp [hText], ?_, hTrail⟩
          rw [List.getLast?_append]
          cases hLast : lead.getLast? <;> simp_all
  · rintro ⟨lead, trail, rfl, hLead, hTrail⟩
    have hHead : line ∈ (line ++ trail).splitOn sep := by
      cases trail with
      | nil => simp [List.splitOn_eq_singleton hLine]
      | cons c trail =>
        obtain rfl : c = sep := by simpa using hTrail
        simp [List.splitOn_append_cons_self_of_not_mem hLine]
    rcases List.eq_nil_or_concat lead with rfl | ⟨before, c, rfl⟩
    · simpa using hHead
    · obtain rfl : c = sep := by simpa using hLead
      simp [List.splitOn_append_cons_self, hHead]

/-- A letter or digit takes one byte, so the size of a word is counted by its characters. -/
theorem utf8Size_of_isAlphanum {c : Char} (hWord : c.isAlphanum = true) : c.utf8Size = 1 := by
  rw [Char.utf8Size_eq_one_iff]
  change (decide (c.val ≥ 65 ∧ c.val ≤ 90) || (decide (c.val ≥ 97) && decide (c.val ≤ 122)) ||
    (decide (c.val ≥ 48) && decide (c.val ≤ 57))) = true at hWord
  simp only [Bool.or_eq_true, Bool.and_eq_true, decide_eq_true_eq] at hWord
  rcases hWord with (⟨-, hLast⟩ | ⟨-, hLast⟩) | ⟨-, hLast⟩ <;>
    exact UInt32.le_trans hLast (by decide)

namespace Expr

/-- A sequence is as large as its expressions together. -/
theorem size_ofSequence (setSize : CharSet → Nat) {es : List Expr} (hSome : es ≠ []) :
    (ofSequence es).size setSize = (es.map (size setSize)).sum := by
  induction es with
  | nil => exact absurd rfl hSome
  | cons e es ih =>
    cases es with
    | nil => simp [ofSequence]
    | cons next es =>
      rw [ofSequence, size, ih (List.cons_ne_nil _ _)]
      · simp
      · exact fun h => nomatch h

/-- A word is 32 times as large as it is long, which is what the size limit is held against. -/
theorem sum_size_word (setSize : CharSet → Nat) {cs : List Char}
    (hWord : ∀ c ∈ cs, c.isAlphanum = true) :
    ((word cs).map (size setSize)).sum = 32 * cs.length := by
  induction cs with
  | nil => rfl
  | cons c cs ih =>
    have hOne : (anyOf [c]).size setSize = 32 := by
      rw [size, utf8Size_of_isAlphanum (hWord c List.mem_cons_self)]
    have hRest := ih fun d hMem => hWord d (.tail c hMem)
    rw [word] at hRest ⊢
    simp only [List.map_cons, List.sum_cons, hOne, hRest, List.length_cons]
    omega

end Expr

/-- A source of characters that are read on their own is read as their sequence, unless it is too
large. -/
theorem compile_of_forall₂ {source flags : String} {es : List Expr}
    (hFlags : readLetters {} flags.toList = .ok f) (hVerbose : f.verbose = false)
    (hReads : List.Forall₂ f.ReadsAs source.toList es) :
    compile source flags =
      if (Expr.ofSequence es).fits then .ok ⟨source, flags, .ofSequence es⟩
      else .error (.badSource .tooLarge) := by
  simp only [compile, hFlags, parse?_of_forall₂ hVerbose hReads]

/-- A source whose automaton takes `size` bytes is read, unless that is too much, as a pattern that
matches the texts for which `holds`. -/
def Recognizes (source flags : String) (size : Nat) (holds : String → Prop) : Prop :=
  if size + Expr.frameSize ≤ Expr.maxSize then
    ∃ p, compile source flags = .ok p ∧ ∀ text, p.isMatch text = true ↔ holds text
  else compile source flags = .error (.badSource .tooLarge)

/-- A source of such characters recognizes what its expressions match, up to the size limit, and is
refused above. -/
theorem recognizes_of_forall₂ {source flags : String} {es : List Expr} {size : Nat}
    {holds : String → Prop} (hFlags : readLetters {} flags.toList = .ok f)
    (hVerbose : f.verbose = false) (hReads : List.Forall₂ f.ReadsAs source.toList es)
    (hSize : ∀ setSize, (Expr.ofSequence es).size setSize = size)
    (hHolds : ∀ text : String, (Expr.ofSequence es).isMatch text.toList = true ↔ holds text) :
    Recognizes source flags size holds := by
  have hCompile := compile_of_forall₂ hFlags hVerbose hReads
  rw [Recognizes]
  split
  next hFits =>
    rw [if_pos (by simp [Expr.fits, hSize, hFits])] at hCompile
    exact ⟨_, hCompile, hHolds⟩
  next hLarge =>
    rw [if_neg (by simp only [Expr.fits, hSize]; simpa using hLarge)] at hCompile
    exact hCompile

/-- A word finds the texts it is a part of. Between anchors it finds itself only, or the texts that
have it as a line where anchors stand for the ends of lines. Above the size limit all three are
refused. -/
theorem recognizes_word (s : String) (hSome : s ≠ "")
    (hWord : ∀ c ∈ s.toList, c.isAlphanum = true) :
    Recognizes s "" (32 * s.length) (fun text => s.toList <:+: text.toList) ∧
      Recognizes ("^" ++ s ++ "$") "" (32 * s.length + 64) (fun text => text = s) ∧
      Recognizes ("^" ++ s ++ "$") "m" (32 * s.length + 64)
        (fun text => s.toList ∈ text.toList.splitOn '\n') := by
  have hPlain {f : Flags} (hCase : f.ignoreCase = false) :
      List.Forall₂ f.ReadsAs s.toList (Expr.word s.toList) :=
    Expr.forall₂_readsAs_word hCase hWord
  have hAnchored {f : Flags} (hCase : f.ignoreCase = false) :
      List.Forall₂ f.ReadsAs ("^" ++ s ++ "$").toList
        (.place f.caret :: (Expr.word s.toList ++ [.place f.dollar])) := by
    rw [String.toList_append, String.toList_append]
    exact .cons Flags.readsAs_caret
      (List.rel_append (hPlain hCase) (.cons Flags.readsAs_dollar .nil))
  have hSize (setSize : CharSet → Nat) :
      ((Expr.word s.toList).map (Expr.size setSize)).sum = 32 * s.length :=
    Expr.sum_size_word setSize hWord
  have hAnchoredSize (before behind : PlaceTest) (setSize : CharSet → Nat) :
      (Expr.ofSequence (.place before :: (Expr.word s.toList ++ [.place behind]))).size setSize =
        32 * s.length + 64 := by
    rw [Expr.size_ofSequence setSize (List.cons_ne_nil _ _)]
    simp only [List.map_cons, List.map_append, List.map_nil, List.sum_cons, List.sum_append,
      List.sum_nil, hSize, Expr.size]
    omega
  refine ⟨?_, ?_, ?_⟩
  · refine recognizes_of_forall₂ (f := {}) rfl rfl (hPlain rfl) (fun setSize => ?_)
      fun text => Expr.isMatch_word s.toList
    rw [Expr.size_ofSequence setSize (by simpa [Expr.word] using hSome), hSize]
  · refine recognizes_of_forall₂ (f := {}) rfl rfl (hAnchored rfl) (hAnchoredSize _ _)
      fun text => ?_
    rw [Expr.isMatch_framed]
    simp [Flags.caret, Flags.dollar, PlaceTest.atStart, PlaceTest.atEnd, String.toList_inj]
  · refine recognizes_of_forall₂ (f := { multiLine := true }) rfl rfl (hAnchored rfl)
      (hAnchoredSize _ _) fun text => ?_
    have hLine : '\n' ∉ s.toList := fun hMem => absurd (hWord _ hMem) (by decide)
    rw [Expr.isMatch_framed, mem_splitOn_iff hLine]
    rfl

/-- A word is found inside a text and not across a line end, as a whole text between anchors, and as
a line where the flags say so. -/
theorem recognizes_word_found :
    (∃ p, compile "b2" "" = .ok p ∧ p.isMatch "ab2c" = true ∧ p.isMatch "b\n2" = false) ∧
      (∃ p, compile "^b2$" "" = .ok p ∧ p.isMatch "b2" = true ∧ p.isMatch "b2\n" = false) ∧
      ∃ p, compile "^b2$" "m" = .ok p ∧ p.isMatch "a\nb2" = true ∧ p.isMatch "ab2" = false := by
  obtain ⟨hPart, hWhole, hLine⟩ := recognizes_word "b2" (by decide) (List.all_eq_true.mp rfl)
  rw [Recognizes, if_pos (by decide)] at hPart hWhole hLine
  obtain ⟨part, hPart, hIsPart⟩ := hPart
  obtain ⟨whole, hWhole, hIsWhole⟩ := hWhole
  obtain ⟨line, hLine, hIsLine⟩ := hLine
  refine ⟨⟨part, hPart, (hIsPart _).mpr (by decide), ?_⟩,
    ⟨whole, hWhole, (hIsWhole _).mpr rfl, ?_⟩, ⟨line, hLine, (hIsLine _).mpr (by decide), ?_⟩⟩
  · rw [← Bool.not_eq_true, hIsPart]
    decide
  · rw [← Bool.not_eq_true, hIsWhole]
    decide
  · rw [← Bool.not_eq_true, hIsLine]
    decide

end MarkupRules.Pattern
