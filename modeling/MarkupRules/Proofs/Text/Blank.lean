import MarkupRules.Text.Blank
import Mathlib.Data.List.DropRight

/-!
Trimming takes the blanks from both ends, and a second trimming finds none.
-/
namespace MarkupRules.Text

/-- Blanks in front are trimmed off, and what is behind them is trimmed as if it stood alone. -/
theorem trimStart_append {lead : List Char} (hLead : ∀ c ∈ lead, isBlank c = true)
    (cs : List Char) : trimStart (lead ++ cs) = trimStart cs :=
  List.dropWhile_append_of_pos hLead

/-- Blanks at the end are trimmed off, and what is in front of them is trimmed as if it stood alone.
-/
theorem trimEnd_append {trail : List Char} (hTrail : ∀ c ∈ trail, isBlank c = true)
    (cs : List Char) : trimEnd (cs ++ trail) = trimEnd cs := by
  have hReverse : ∀ c ∈ trail.reverse, isBlank c = true := by simpa using hTrail
  rw [trimEnd, List.reverse_append, List.dropWhile_append_of_pos hReverse]
  rfl

theorem trim_of_blank {cs : List Char} (h : ∀ c ∈ cs, isBlank c = true) : trim cs = [] := by
  have hStart : trimStart cs = [] := List.dropWhile_eq_nil_iff.mpr h
  rw [trim, hStart]
  rfl

/-- A text without any blanks is already trimmed, so that trimming leaves it as it is. -/
theorem trim_eq_self {cs : List Char} (h : ∀ c ∈ cs, isBlank c = false) : trim cs = cs := by
  have hStart : trimStart cs = cs := by
    refine List.dropWhile_eq_self_iff.mpr fun hLength => ?_
    simp [h _ (List.getElem_mem hLength)]
  have hEnd : trimEnd cs = cs := by
    refine List.rdropWhile_eq_self_iff.mpr fun hSome => ?_
    simp [h _ (List.getLast_mem hSome)]
  rw [trim, hStart, hEnd]

/-- Blanks around a text make no difference to what is left of it, whatever the text is. -/
theorem trim_append {lead trail : List Char} (hLead : ∀ c ∈ lead, isBlank c = true)
    (hTrail : ∀ c ∈ trail, isBlank c = true) (cs : List Char) :
    trim (lead ++ cs ++ trail) = trim cs := by
  rw [List.append_assoc, trim, trimStart_append hLead]
  by_cases hBlank : trimStart cs = []
  · have hAll : ∀ c ∈ cs, isBlank c = true := List.dropWhile_eq_nil_iff.mp hBlank
    rw [trimStart_append hAll, trim_of_blank hAll]
    exact trim_of_blank hTrail
  · have hKeep : trimStart (cs ++ trail) = trimStart cs ++ trail := by
      rw [trimStart, List.dropWhile_append, if_neg (by rwa [List.isEmpty_iff])]
      rfl
    rw [hKeep, trimEnd_append hTrail]
    rfl

theorem trimStart_trim (cs : List Char) : trimStart (trim cs) = trim cs := by
  refine List.dropWhile_eq_self_iff.mpr fun hLength => ?_
  have hPrefix : trim cs <+: trimStart cs := List.rdropWhile_prefix isBlank _
  have hFirst := hPrefix.getElem hLength
  rw [hFirst]
  exact List.dropWhile_get_zero_not isBlank cs _

theorem trimEnd_trim (cs : List Char) : trimEnd (trim cs) = trim cs :=
  List.rdropWhile_idempotent isBlank _

theorem trim_subset (cs : List Char) : trim cs ⊆ cs :=
  List.Subset.trans (List.rdropWhile_prefix isBlank _).subset (List.dropWhile_suffix isBlank).subset

/-- Trimming twice is trimming once. A text that was trimmed is therefore one that trimming leaves
alone. -/
theorem trim_trim (cs : List Char) : trim (trim cs) = trim cs := by
  rw [trim, trimStart_trim, trimEnd_trim]

/-- The back of a text that has no blanks at its end has none there either, even where the front is
missing. -/
theorem trimEnd_of_append {front back : List Char}
    (h : trimEnd (front ++ back) = front ++ back) : trimEnd back = back := by
  refine List.rdropWhile_eq_self_iff.mpr fun hSome => ?_
  have hLast := List.rdropWhile_eq_self_iff.mp h (List.append_ne_nil_of_right_ne_nil front hSome)
  rwa [List.getLast_append_of_ne_nil _ hSome] at hLast

/-- At the end of a trimmed text trimming takes blanks from the front only. -/
theorem exists_eq_append_trim {front back : List Char} (h : trim (front ++ back) = front ++ back) :
    ∃ blanks, back = blanks ++ trim back ∧ ∀ c ∈ blanks, isBlank c = true := by
  have hSplit : back.takeWhile isBlank ++ trimStart back = back := List.takeWhile_append_dropWhile
  have hWhole : trimEnd (front ++ back) = front ++ back := by
    rw [← h]
    exact trimEnd_trim _
  have hEnd : trimEnd back = back := trimEnd_of_append hWhole
  rw [← hSplit] at hEnd
  have hStart : trim back = trimStart back := trimEnd_of_append hEnd
  refine ⟨back.takeWhile isBlank, ?_, fun c hMem => List.mem_takeWhile_imp hMem⟩
  rw [hStart, hSplit]

/-- What begins and ends with trimmed texts is trimmed, whatever stands between them. -/
theorem trim_append_append {front back : List Char} (hFront : trim front = front)
    (hBack : trim back = back) (hFrontSome : front ≠ []) (hBackSome : back ≠ [])
    (middle : List Char) : trim (front ++ middle ++ back) = front ++ middle ++ back := by
  have hStart : trimStart (front ++ middle ++ back) = front ++ middle ++ back := by
    have hFirst : trimStart front = front := by rw [← hFront, trimStart_trim]
    rw [List.append_assoc, trimStart, List.dropWhile_append, if_neg]
    · exact congrArg (· ++ (middle ++ back)) hFirst
    · rw [List.isEmpty_iff]
      exact fun hNil => hFrontSome (hFirst.symm.trans hNil)
  have hEnd : trimEnd (front ++ middle ++ back) = front ++ middle ++ back := by
    have hLast : trimEnd back = back := by rw [← hBack, trimEnd_trim]
    refine List.rdropWhile_eq_self_iff.mpr fun hSome => ?_
    rw [List.getLast_append_of_right_ne_nil _ _ hBackSome]
    exact List.rdropWhile_eq_self_iff.mp hLast hBackSome
  rw [trim, hStart, hEnd]

/-- Trimmed texts with something between them are a trimmed text. -/
theorem trim_intercalate (between : List Char) {parts : List (List Char)}
    (h : ∀ part ∈ parts, part ≠ [] ∧ trim part = part) :
    trim (between.intercalate parts) = between.intercalate parts := by
  have hJoined (first : List Char) (rest : List (List Char))
      (h : ∀ part ∈ first :: rest, part ≠ [] ∧ trim part = part) :
      between.intercalate (first :: rest) ≠ [] ∧
        trim (between.intercalate (first :: rest)) = between.intercalate (first :: rest) := by
    induction rest generalizing first with
    | nil => simpa [List.intercalate_singleton] using h first (.head _)
    | cons second rest ih =>
      obtain ⟨hSome, hTrim⟩ := ih second fun part hMem => h part (.tail _ hMem)
      obtain ⟨hFirstSome, hFirstTrim⟩ := h first (.head _)
      rw [List.intercalate_cons_cons]
      refine ⟨by simp [hFirstSome], ?_⟩
      exact trim_append_append hFirstTrim hTrim hFirstSome hSome between
  cases parts with
  | nil => rfl
  | cons first rest => exact (hJoined first rest h).2

end MarkupRules.Text
