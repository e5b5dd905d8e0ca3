import Mathlib.Data.Nat.Digits.Lemmas
import MarkupRules.Json.Printer

/-!
The texts of JSON values.

A value is written on one line: whatever its strings hold, control characters are escaped.
-/
namespace MarkupRules.Json

/-- Induction on a value: what holds of the items of an array, or of the values of an object, holds
of the array or object itself. -/
@[elab_as_elim, induction_eliminator]
theorem induction {motive : Json → Prop} (null : motive .null) (bool : ∀ b, motive (.bool b))
    (integer : ∀ n, motive (.integer n)) (double : ∀ x, motive (.double x))
    (string : ∀ s, motive (.string s))
    (array : ∀ items, (∀ item ∈ items, motive item) → motive (.array items))
    (object : ∀ members, (∀ m ∈ members, motive m.2) → motive (.object members))
    (value : Json) : motive value :=
  Json.rec (motive_1 := motive) (motive_2 := fun items => ∀ item ∈ items, motive item)
    (motive_3 := fun members => ∀ m ∈ members, motive m.2) (motive_4 := fun m => motive m.2)
    null bool integer double string array object
    (by simp) (fun _ _ hItem hRest => List.forall_mem_cons.mpr ⟨hItem, hRest⟩)
    (by simp) (fun _ _ hMember hRest => List.forall_mem_cons.mpr ⟨hMember, hRest⟩)
    (fun _ _ hValue => hValue) value

/-- No character is a control character. -/
def Shown (cs : List Char) : Prop := ∀ c ∈ cs, ' ' ≤ c

instance (cs : List Char) : Decidable (Shown cs) := List.decidableBAll _ cs

namespace Shown

variable {cs ds : List Char}

/-- Two shown texts are shown when put together. That is all that is used of how values are written.
-/
theorem append (hFront : Shown cs) (hBack : Shown ds) : Shown (cs ++ ds) :=
  List.forall_mem_append.mpr ⟨hFront, hBack⟩

theorem cons {c : Char} (hHead : ' ' ≤ c) (hTail : Shown cs) : Shown (c :: cs) :=
  List.forall_mem_cons.mpr ⟨hHead, hTail⟩

theorem of_subset (h : Shown ds) (hSub : cs ⊆ ds) : Shown cs := fun c hMem => h c (hSub hMem)

/-- The digits of a number in base ten are shown characters, as the digits of any number are. -/
theorem toDigits (n : Nat) : Shown (Nat.toDigits 10 n) := by
  intro c hMem
  have hDigit := Nat.isDigit_of_mem_toDigits (by decide) (Nat.le_refl 10) hMem
  have hLow : '0'.val ≤ c.val := by
    simp only [Char.isDigit, Bool.and_eq_true, decide_eq_true_eq] at hDigit
    exact hDigit.1
  exact Char.le_trans (by decide) (Char.le_def.mpr hLow)

theorem replicate (n : Nat) {c : Char} (hHead : ' ' ≤ c) : Shown (List.replicate n c) :=
  fun _ hMem => List.eq_of_mem_replicate hMem ▸ hHead

end Shown

/-- A control character is escaped by shown characters only: a backslash with a letter, or with four
hexadecimal digits. -/
theorem shown_controlEscape {c : Char} (h : c < ' ') : Shown (controlEscape c) := by
  have hAll : ∀ n < 32,
      Shown ['\\', 'u', '0', '0', Nat.digitChar (n / 16), Nat.digitChar (n % 16)] := by decide
  exact hAll c.toNat h

/-- A character of a string is written as itself only if it is no control character, and else as an
escape. Both are shown. -/
theorem shown_stringChar (c : Char) : Shown (stringChar c) := by
  unfold stringChar
  split
  case h_8 =>
    split
    · next hControl => exact shown_controlEscape hControl
    · next hShown => exact .cons (Char.not_lt.mp hShown) (by decide)
  all_goals decide

/-- A string is written without control characters, with its quotes. It may hold them, but only
their escapes are written. -/
theorem shown_stringChars (s : String) : Shown (stringChars s) := by
  have hBody : Shown (s.toList.flatMap stringChar) := by
    intro c hMem
    obtain ⟨d, -, hChar⟩ := List.mem_flatMap.mp hMem
    exact shown_stringChar d c hChar
  exact .append (.cons (by decide) hBody) (by decide)

section Numbers

open Number

/-- A decimal with all its digits written out consists of digits and a point, so it is shown. -/
theorem shown_positionalText (keepsPoint : Bool) (d : Decimal) :
    Shown (Layout.positionalText keepsPoint d) := by
  have hDigits : Shown (decimalDigits d.digits) := .toDigits d.digits
  unfold Layout.positionalText
  dsimp only
  split
  · refine (hDigits.append (.replicate _ (by decide))).append ?_
    cases keepsPoint <;> decide
  · split
    · refine .append (hDigits.of_subset (List.take_subset _ _)) (.cons (by decide) ?_)
      exact hDigits.of_subset (List.drop_subset _ _)
    · exact .append (.append (by decide) (.replicate _ (by decide))) hDigits

/-- A decimal with an exponent is shown as well: digits, perhaps a point, the letter and the
exponent with its sign. -/
theorem shown_exponentText (d : Decimal) (lead : Int) : Shown (Layout.exponentText d lead) := by
  have hDigits : Shown (decimalDigits d.digits) := .toDigits d.digits
  unfold Layout.exponentText
  dsimp only
  refine .append (.append ?_ ?_) (.toDigits _)
  · split
    · decide
    · next hOne => exact hOne ▸ hDigits
    · next hMore =>
      rw [hMore] at hDigits
      obtain ⟨hHead, hTail⟩ := List.forall_mem_cons.mp hDigits
      exact .cons hHead (.cons (by decide) hTail)
  · split <;> decide

/-- A double is written without control characters in any layout, be it a number, infinite or no
number at all. -/
theorem shown_text (layout : Layout) (x : Double) : Shown (layout.text x).toList := by
  rw [Layout.text, String.toList_ofList]
  refine .append (by split <;> decide) ?_
  unfold Layout.magnitude
  dsimp only
  split
  · exact shown_positionalText _ _
  · split
    · exact shown_positionalText _ _
    · exact shown_exponentText _ _

/-- An integer is written as a sign, if it is negative, and the digits of its absolute value. -/
theorem toList_toString (n : Int) :
    (toString n).toList = (if n < 0 then ['-'] else []) ++ Nat.toDigits 10 n.natAbs := by
  show n.repr.toList = _
  rw [Int.repr_eq_if]
  by_cases hSign : 0 ≤ n
  · have hAbs : n.toNat = n.natAbs := by omega
    rw [if_pos hSign, if_neg (Int.not_lt.mpr hSign), hAbs]
    exact String.toList_ofList
  · have hAbs : (-n).toNat = n.natAbs := by omega
    rw [if_neg hSign, if_pos (Int.not_le.mp hSign), hAbs, String.toList_append]
    exact congrArg ('-' :: ·) String.toList_ofList

theorem shown_toString (n : Int) : Shown (toString n).toList := by
  rw [toList_toString]
  exact .append (by split <;> decide) (.toDigits _)

end Numbers

/-- Items are shown in front of a shown text if each of them is. Between them stand only commas. -/
theorem shown_prependItems {items : List Json}
    (h : ∀ item ∈ items, ∀ rest, Shown rest → Shown (item.prepend rest)) {rest : List Char}
    (hRest : Shown rest) : Shown (prependItems rest items) := by
  induction items with
  | nil => exact hRest
  | cons item items ih =>
    have hItem := h item (.head _)
    cases items with
    | nil => exact hItem rest hRest
    | cons next more => exact hItem _ (.cons (by decide) (ih fun x hMem => h x (.tail _ hMem)))

/-- Members are shown in front of a shown text if each value is, for keys are strings and these are
always shown. -/
theorem shown_prependMembers {members : List (String × Json)}
    (h : ∀ m ∈ members, ∀ rest, Shown rest → Shown (m.2.prepend rest)) {rest : List Char}
    (hRest : Shown rest) : Shown (prependMembers rest members) := by
  induction members with
  | nil => exact hRest
  | cons m members ih =>
    obtain ⟨key, value⟩ := m
    have hValue := h (key, value) (.head _)
    cases members with
    | nil => exact .append (shown_stringChars key) (.cons (by decide) (hValue rest hRest))
    | cons next more =>
      refine .append (shown_stringChars key) (.cons (by decide) (hValue _ (.cons (by decide) ?_)))
      exact ih fun x hMem => h x (.tail _ hMem)

/-- A value is written without control characters in front of any shown text. Nothing is asked of
the strings in it, which may hold any characters. -/
theorem shown_prepend (value : Json) {rest : List Char} (hRest : Shown rest) :
    Shown (value.prepend rest) := by
  induction value generalizing rest with
  | null => exact .append (by decide) hRest
  | bool b => cases b <;> exact .append (by decide) hRest
  | integer n => exact .append (shown_toString n) hRest
  | double x => exact .append (shown_text _ x) hRest
  | string s => exact .append (shown_stringChars s) hRest
  | array items ih =>
    exact .cons (by decide) (shown_prependItems (fun item hMem rest hRest => ih item hMem hRest)
      (.cons (by decide) hRest))
  | object members ih =>
    exact .cons (by decide) (shown_prependMembers (fun m hMem rest hRest => ih m hMem hRest)
      (.cons (by decide) hRest))

/-- A value is written on one line, so that a list of records has as many lines as there are records
in it. -/
theorem newline_notMem_text (value : Json) : '\n' ∉ value.text.toList := by
  rw [text, String.toList_ofList]
  intro hMem
  have hNone : Shown [] := by decide
  exact absurd (value.shown_prepend hNone '\n' hMem) (by decide)

end MarkupRules.Json
