import MarkupRules.Proofs.Json.Text
import MarkupRules.Schema.Constraints

/-!
Line ends in the description of constraints.

Numbers are written without line ends, and so are texts between quotes. Only the source of a pattern
and the name of a check stand in a description as they are.
-/
namespace MarkupRules

theorem Json.Shown.newline_notMem {cs : List Char} (h : Json.Shown cs) : '\n' ∉ cs := by
  intro hMem
  exact absurd (h '\n' hMem) (by decide)

theorem newline_notMem_toString (n : Nat) : '\n' ∉ (toString n).toList := by
  have hDigits : (toString n).toList = Nat.toDigits 10 n := String.toList_ofList
  rw [hDigits]
  exact (Json.Shown.toDigits n).newline_notMem

namespace Text

theorem newline_notMem_hexText (n : Nat) : '\n' ∉ hexText n := by
  have hDigit : ∀ d < 16, '\n' ≠ Nat.digitChar d := by decide
  induction n using Nat.strongRecOn with
  | ind n ih =>
    rw [hexText, Nat.toDigits_eq_if (by decide)]
    split
    · next hShort =>
      intro hMem
      exact hDigit n hShort (List.mem_singleton.mp hMem)
    · next hLong =>
      intro hMem
      rcases List.mem_append.mp hMem with hFront | hLast
      · exact ih (n / 16) (Nat.div_lt_self (by omega) (by decide)) hFront
      · exact hDigit (n % 16) (Nat.mod_lt n (by decide)) (List.mem_singleton.mp hLast)

theorem newline_notMem_codePointEscape (c : Char) : '\n' ∉ codePointEscape c := by
  simp [codePointEscape, newline_notMem_hexText]

/-- A line end is written as an escape, and so it is not among what is written of any character. -/
theorem newline_notMem_quoteChar (c : Char) : '\n' ∉ quoteChar c := by
  unfold quoteChar
  split
  case h_7 hNewline _ _ =>
    split
    · exact newline_notMem_codePointEscape _
    · split
      · intro hMem
        exact hNewline (List.mem_singleton.mp hMem).symm
      · exact newline_notMem_codePointEscape _
  all_goals decide

theorem newline_notMem_quote (s : String) : '\n' ∉ (quote s).toList := by
  rw [quote, String.toList_ofList]
  simp [newline_notMem_quoteChar]

end Text

/-- Letters that are read as flags are none but the known ones, and a line end is not among them. -/
theorem Pattern.newline_notMem_of_readLetters {f g : Pattern.Flags} {letters : List Char}
    (h : Pattern.readLetters f letters = .ok g) : '\n' ∉ letters := by
  fun_induction Pattern.readLetters f letters with
  | case1 => simp
  | case8 => cases h
  | _ => next ih => simpa using ih h

/-- The flags of a pattern are letters that are known. -/
theorem Pattern.newline_notMem_flags {source flags : String} {p : Pattern}
    (h : Pattern.compile source flags = .ok p) : '\n' ∉ p.flags.toList := by
  unfold Pattern.compile at h
  split at h
  · cases h
  · next f hLetters =>
    split at h
    · cases h
    · split at h
      · obtain rfl := Except.ok.inj h
        exact newline_notMem_of_readLetters hLetters
      · cases h

namespace Schema

/-- The pattern among constraints that were declared has been compiled from some source with some
flags. -/
theorem Constraints.exists_compile_of_ofAttributes {path : String}
    {attributes : List Markup.Attribute} {c : Constraints} {p : Pattern}
    (h : Constraints.ofAttributes path attributes = .ok c) (hPattern : c.pattern = some p) :
    ∃ source flags, Pattern.compile source flags = .ok p := by
  unfold ofAttributes at h
  split at h
  · cases h
  · next d _ =>
    split at h
    · cases h
    · next pattern hRead =>
      obtain rfl := Except.ok.inj h
      obtain rfl : pattern = some p := hPattern
      unfold Draft.pattern? at hRead
      split at hRead
      · cases hRead
      · cases hRead
      · next declaration flags _ _ =>
        split at hRead
        · cases hRead
        · split at hRead
          · next hCompile =>
            obtain rfl := Option.some.inj (Except.ok.inj hRead)
            exact ⟨_, _, hCompile⟩
          · cases hRead
          · cases hRead

/-- There is a line end in one of the texts. -/
def BreaksLine (items : List String) : Prop := ∃ item ∈ items, '\n' ∈ item.toList

theorem breaksLine_append {items items' : List String} :
    BreaksLine (items ++ items') ↔ BreaksLine items ∨ BreaksLine items' := by
  simp only [BreaksLine, List.mem_append, or_and_right, exists_or]

/-- Texts put together with blanks have the line ends of the texts and no others. -/
theorem newline_mem_intercalate_iff (items : List String) :
    '\n' ∈ (" ".intercalate items).toList ↔ BreaksLine items := by
  induction items with
  | nil => simp [BreaksLine]
  | cons item rest ih =>
    have hCons : BreaksLine (item :: rest) ↔ '\n' ∈ item.toList ∨ BreaksLine rest := by
      simp [BreaksLine]
    cases rest with
    | nil =>
      rw [String.intercalate_singleton]
      simp [BreaksLine]
    | cons next more =>
      rw [String.intercalate_cons_cons, hCons, ← ih]
      simp

/-- An item breaks the line just if the text of its value does. -/
theorem breaksLine_item {α : Type} {name : String} {text : α → String} {value : Option α}
    (hName : '\n' ∉ name.toList) :
    BreaksLine (value.map fun v => s!"{name}={text v}").toList ↔
      ∃ v, value = some v ∧ '\n' ∈ (text v).toList := by
  cases value with
  | none => simp [BreaksLine]
  | some v =>
    have hItem : s!"{name}={text v}" = name ++ "=" ++ text v := rfl
    simp [BreaksLine, hItem, hName]

/-- There is a line end in the source of the pattern or in the name of the check. -/
def Constraints.HasLineEnd (c : Constraints) : Prop :=
  (∃ p ∈ c.pattern, '\n' ∈ p.source.toList) ∨ ∃ check ∈ c.checkBy, '\n' ∈ check.toList

instance (c : Constraints) : Decidable c.HasLineEnd :=
  inferInstanceAs (Decidable (_ ∨ _))

/-- The description of constraints breaks the line just if one of the values that are written as
they are has a line end in it. -/
theorem Constraints.breaksLine_describe_iff {path : String} {attributes : List Markup.Attribute}
    {c : Constraints} (h : Constraints.ofAttributes path attributes = .ok c) :
    BreaksLine c.describe ↔ c.HasLineEnd := by
  have hNumber (x : Number.Double) : '\n' ∉ (Number.Layout.plain.text x).toList :=
    (Json.shown_text _ x).newline_notMem
  have hTruth (b : Bool) : '\n' ∉ (if b then "true" else "false").toList := by
    cases b <;> decide
  have hRepeatable : ¬ BreaksLine (if c.repeatable then ["repeatable"] else []) := by
    split <;> simp [BreaksLine]
  have hPattern (p : Pattern) (hSome : c.pattern = some p) :
      '\n' ∈ s!"/{p.source}/{p.flags}".toList ↔ '\n' ∈ p.source.toList := by
    have hText : s!"/{p.source}/{p.flags}" = "/" ++ p.source ++ "/" ++ p.flags := rfl
    obtain ⟨source, flags, hCompile⟩ := exists_compile_of_ofAttributes h hSome
    simp [hText, Pattern.newline_notMem_flags hCompile]
  unfold describe
  simp (disch := decide) only [breaksLine_append, hRepeatable, breaksLine_item,
    newline_notMem_toString, Text.newline_notMem_quote, hNumber, hTruth, and_false, exists_false,
    or_false, false_or]
  apply or_congr _ Iff.rfl
  apply exists_congr
  intro p
  rw [Option.mem_def, and_congr_right_iff]
  exact hPattern p

end Schema

end MarkupRules
