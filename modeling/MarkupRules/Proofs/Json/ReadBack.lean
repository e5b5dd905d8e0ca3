import MarkupRules.Proofs.Json.Text
import MarkupRules.Proofs.Json.WellFormed

/-!
Reading back what was written.

The reader takes a value off the front of a text just as the printer put it there, whatever stands
behind it as long as that does not go on with a number.
-/
namespace MarkupRules.Json

/-- Each character of a string is read back, whether it was written as itself or escaped, and the
reader goes on behind it. -/
theorem stringTail?_stringChar (c : Char) (done tail : List Char) :
    stringTail? .checked done (stringChar c ++ tail) = stringTail? .checked (c :: done) tail := by
  unfold stringChar
  split
  case h_8 hQuote hBackslash _ _ _ _ _ =>
    split
    · next hControl =>
      have hUnit : ∀ n < 32, unit? ['0', '0', Nat.digitChar (n / 16), Nat.digitChar (n % 16)] =
          some n ∧ isHighHalf n = false ∧ isLowHalf n = false := by decide
      obtain ⟨hRead, hHigh, hLow⟩ := hUnit c.toNat hControl
      simp [controlEscape, stringTail?, hRead, hHigh, hLow, Char.ofNat_toNat]
    · next hShown =>
      have hQuote : c ≠ '"' := fun hEq => hQuote hEq
      have hBackslash : c ≠ '\\' := fun hEq => hBackslash hEq
      simp [stringTail?, hBackslash, hShown]
  all_goals rfl

/-- The characters of a string are read back one after the other up to the closing quote. What was
read before them stands in front, last first, as the reader keeps it. -/
theorem stringTail?_flatMap (cs done rest : List Char) :
    stringTail? .checked done (cs.flatMap stringChar ++ '"' :: rest) =
      some (done.reverse ++ cs, rest) := by
  induction cs generalizing done with
  | nil => simp [stringTail?]
  | cons c cs ih =>
    rw [List.flatMap_cons, List.append_assoc, stringTail?_stringChar, ih]
    simp

/-- A string is read back as it was written, and what stands behind its closing quote is left for
the next reader. -/
theorem string?_stringChars (s : String) (rest : List Char) :
    string? .checked (stringChars s ++ rest) = some (s, rest) := by
  have hText : stringChars s ++ rest = '"' :: (s.toList.flatMap stringChar ++ '"' :: rest) := by
    simp [stringChars]
  rw [hText, string?, stringTail?_flatMap]
  simp

/-- A text that does not go on with a number. -/
def EndsNumber (rest : List Char) : Prop :=
  ∀ c ∈ rest.head?, c.isDigit = false ∧ c ≠ '.' ∧ c ≠ 'e' ∧ c ≠ 'E'

/-- Digits in front of what ends a number are all taken, and nothing of what stands behind them is,
since that begins with no digit. -/
theorem spanDigits_append {digits rest : List Char} (hDigits : ∀ c ∈ digits, c.isDigit = true)
    (hRest : EndsNumber rest) : Number.spanDigits (digits ++ rest) = (digits, rest) := by
  have hBehind : rest.takeWhile Char.isDigit = [] ∧ rest.dropWhile Char.isDigit = rest := by
    cases rest with
    | nil => exact ⟨rfl, rfl⟩
    | cons c rest =>
      have hHead := (hRest c rfl).1
      simp [hHead]
  rw [Number.spanDigits, List.takeWhile_append_of_pos hDigits, List.dropWhile_append_of_pos hDigits,
    hBehind.1, hBehind.2, List.append_nil]

/-- Where a number ends no fraction is read. That is what tells an integer from a double when a
value is read back. -/
theorem fraction?_of_endsNumber {rest : List Char} (h : EndsNumber rest) :
    fraction? rest = some ([], rest) := by
  unfold fraction?
  split
  · next tail => exact absurd rfl (h '.' rfl).2.1
  · rfl

/-- Where a number ends no exponent is read either, and nothing is taken off the text. -/
theorem exponent?_of_endsNumber {rest : List Char} (h : EndsNumber rest) :
    exponent? rest = some (none, rest) := by
  cases rest with
  | nil => rfl
  | cons c tail =>
    obtain ⟨-, -, hLower, hUpper⟩ := h c rfl
    simp [exponent?, hLower, hUpper]

/-- Appending digits never makes a number smaller. So if the whole number has 64 bits, each part of
its digits from the front has them too. -/
theorem le_ofDigitChars (digits : List Char) (n : Nat) : n ≤ Nat.ofDigitChars 10 digits n := by
  induction digits generalizing n with
  | nil => exact Nat.le_refl n
  | cons c digits ih =>
    rw [Nat.ofDigitChars_cons]
    exact Nat.le_trans (by omega) (ih _)

/-- Digits are taken in whole if their number has 64 bits. -/
theorem absorb_eq {digits : List Char} {n : Nat} (h : Nat.ofDigitChars 10 digits n < 2 ^ 64) :
    absorb n digits = (Nat.ofDigitChars 10 digits n, digits.length) := by
  induction digits generalizing n with
  | nil => rfl
  | cons c digits ih =>
    rw [Nat.ofDigitChars_cons, Nat.mul_comm] at h
    have hNext : n * 10 + (c.toNat - '0'.toNat) < Nat.pow 2 64 :=
      Nat.lt_of_le_of_lt (le_ofDigitChars digits _) h
    rw [absorb]
    dsimp only
    rw [if_pos hNext, ih h, Nat.ofDigitChars_cons, Nat.mul_comm]
    rfl

/-- Only the digits of zero start with one. -/
theorem toDigits_eq_of_head_zero {n : Nat} (h : (Nat.toDigits 10 n).head? = some '0') :
    Nat.toDigits 10 n = ['0'] := by
  induction n using Nat.strongRecOn with
  | _ n ih =>
    by_cases hSmall : n < 10
    · rw [Nat.toDigits_of_lt_base hSmall] at h ⊢
      rw [Option.some.inj h]
    · have hLarge : 10 ≤ n := Nat.not_lt.mp hSmall
      rw [Nat.toDigits_of_base_le (by decide) hLarge,
        List.head?_append_of_ne_nil _ Nat.toDigits_ne_nil] at h
      have hTens := ih (n / 10) (by omega) h
      have hValue : Nat.ofDigitChars 10 (Nat.toDigits 10 (n / 10)) 0 = n / 10 :=
        Nat.ofDigitChars_toDigits (by decide) (by decide)
      rw [hTens] at hValue
      have hZero : n / 10 = 0 := hValue.symm
      omega

/-- The sign and the digits of an integer are read as a numeral without fraction and exponent. -/
theorem numeral?_digits (negative : Bool) (n : Nat) {rest : List Char} (hRest : EndsNumber rest) :
    numeral? ((if negative then ['-'] else []) ++ Nat.toDigits 10 n ++ rest) =
      some (⟨negative, Nat.toDigits 10 n, [], none⟩, rest) := by
  have hDigits : ∀ c ∈ Nat.toDigits 10 n, c.isDigit = true := fun c hMem =>
    Nat.isDigit_of_mem_toDigits (by decide) (Nat.le_refl 10) hMem
  have hZero : ((Nat.toDigits 10 n).head? == some '0' && (Nat.toDigits 10 n).length != 1) =
      false := by
    by_cases hHead : (Nat.toDigits 10 n).head? = some '0'
    · simp [toDigits_eq_of_head_zero hHead]
    · simp [hHead]
  have hSpan := spanDigits_append hDigits hRest
  cases negative with
  | true =>
    show numeral? ('-' :: (Nat.toDigits 10 n ++ rest)) = _
    simp [numeral?, hSpan, hZero, Nat.toDigits_ne_nil, fraction?_of_endsNumber hRest,
      exponent?_of_endsNumber hRest]
  | false =>
    show numeral? (Nat.toDigits 10 n ++ rest) = _
    obtain ⟨c, digits, hCons⟩ := List.exists_cons_of_ne_nil (Nat.toDigits_ne_nil (n := n) (b := 10))
    have hPlain : c ≠ '-' := by
      rintro rfl
      exact absurd (hDigits '-' (by simp [hCons])) (by decide)
    have hTail : c = '0' → digits = [] := by
      rintro rfl
      have hAlone := toDigits_eq_of_head_zero (n := n) (by rw [hCons]; rfl)
      rw [hCons] at hAlone
      exact (List.cons.inj hAlone).2
    rw [hCons, List.cons_append] at hSpan ⊢
    unfold numeral?
    split
    next negative rest' hSign =>
    have hBoth : (negative, rest') = (false, c :: (digits ++ rest)) := by
      rw [← hSign]
      split
      · next hMinus => exact absurd (List.cons.inj hMinus).1 hPlain
      · rfl
    obtain ⟨rfl, rfl⟩ := Prod.mk.inj hBoth
    simp [hSpan, fraction?_of_endsNumber hRest, exponent?_of_endsNumber hRest]
    exact hTail

/-- An integer is written as a numeral that tells its sign and the digits of its absolute value.
Zero has no sign. -/
theorem numeral?_toString (n : Int) {rest : List Char} (hRest : EndsNumber rest) :
    numeral? ((toString n).toList ++ rest) =
      some (⟨decide (n < 0), Nat.toDigits 10 n.natAbs, [], none⟩, rest) := by
  rw [toList_toString, ← numeral?_digits _ _ hRest]
  simp

/-- An integer of 64 bits is read back as that integer. One with more bits would come back as a
double, which is why the bound stands here. -/
theorem number?_toString {n : Int} (h : IsWord n) {rest : List Char} (hRest : EndsNumber rest) :
    number? .checked ((toString n).toList ++ rest) = some (.integer n, rest) := by
  have hValue : Nat.ofDigitChars 10 (Nat.toDigits 10 n.natAbs) 0 = n.natAbs :=
    Nat.ofDigitChars_toDigits (by decide) (by decide)
  have hAbsorb : absorb 0 (Nat.toDigits 10 n.natAbs) =
      (n.natAbs, (Nat.toDigits 10 n.natAbs).length) := by
    rw [absorb_eq (by rw [hValue]; have := h.1; have := h.2; omega), hValue]
  have hNumeral : Numeral.value? ⟨decide (n < 0), Nat.toDigits 10 n.natAbs, [], none⟩ =
      some (.integer n) := by
    unfold Numeral.value?
    dsimp only
    rw [hAbsorb]
    by_cases hSign : n < 0
    · have hMagnitude : 0 < n.natAbs ∧ n.natAbs ≤ Nat.pow 2 63 := by
        have hLow := h.1
        constructor
        · omega
        · show n.natAbs ≤ 2 ^ 63
          omega
      simp [hSign, hMagnitude, abs_of_neg hSign]
    · simp [hSign, abs_of_nonneg (Int.not_lt.mp hSign)]
  rw [number?, numeral?_toString n hRest]
  simp [hNumeral]

/-- A key behind all the others is put at the end. That is the case at every step when an object is
read back that was written in order. -/
theorem insertMember_of_last {sorted : List (String × Json)} {key : String}
    (h : ∀ m ∈ sorted, m.1 < key) (value : Json) :
    insertMember key value sorted = sorted ++ [(key, value)] := by
  induction sorted with
  | nil => rfl
  | cons m rest ih =>
    obtain ⟨k, v⟩ := m
    have hLess : k < key := h (k, v) (.head _)
    have hOther : key ≠ k := fun hEq => String.lt_irrefl k (hEq ▸ hLess)
    rw [insertMember, if_neg (String.lt_asymm hLess), if_neg hOther,
      ih fun m hMem => h m (.tail _ hMem)]
    rfl

/-- Members whose keys ascend are the members of their object. -/
theorem ofMembers_of_ascending {members : List (String × Json)}
    (h : members.Pairwise fun m n => m.1 < n.1) : ofMembers members = .object members := by
  have hFold (done rest : List (String × Json))
      (h : (done ++ rest).Pairwise fun m n => m.1 < n.1) :
      rest.foldl (fun sorted m => insertMember m.1 m.2 sorted) done = done ++ rest := by
    induction rest generalizing done with
    | nil => simp
    | cons m rest ih =>
      have hLast : ∀ x ∈ done, x.1 < m.1 := fun x hMem =>
        (List.pairwise_append.mp h).2.2 x hMem m (.head _)
      rw [List.foldl_cons, insertMember_of_last hLast, ih _ (by simpa using h)]
      simp
  rw [ofMembers, hFold [] members h]
  rfl

theorem dropSpace_cons {c : Char} (h : isSpace c = false) (cs : List Char) :
    dropSpace (c :: cs) = c :: cs := by
  simp [dropSpace, h]

/-- A number starts with a digit or a sign. -/
def StartsNumber (c : Char) : Prop := c.isDigit = true ∨ c = '-'

namespace StartsNumber

variable {c : Char}

/-- The first character of a number is none of the characters that begin other values, as it is a
digit or a sign. -/
theorem ne (h : StartsNumber c) {d : Char} (hDigit : d.isDigit = false) (hSign : d ≠ '-') :
    c ≠ d := by
  rintro rfl
  rcases h with h | h
  · exact absurd (h.symm.trans hDigit) (by decide)
  · exact hSign h

/-- A number begins with no space, so the reader of a value comes to its first character at once. -/
theorem isSpace_eq (h : StartsNumber c) : isSpace c = false := by
  simp [isSpace, h.ne]

end StartsNumber

/-- An integer is written with at least one character, the first of which is a digit or a sign. -/
theorem exists_toString_eq_cons (n : Int) :
    ∃ c cs, (toString n).toList = c :: cs ∧ StartsNumber c := by
  obtain ⟨c, digits, hDigits⟩ :=
    List.exists_cons_of_ne_nil (Nat.toDigits_ne_nil (n := n.natAbs) (b := 10))
  rw [toList_toString, hDigits]
  split
  · exact ⟨'-', _, rfl, .inr rfl⟩
  · refine ⟨c, digits, rfl, .inl ?_⟩
    exact Nat.isDigit_of_mem_toDigits (n := n.natAbs) (by decide) (Nat.le_refl 10)
      (by simp [hDigits])

/-- Every value is written with a first character that is neither a space nor a closing bracket. So
an array with something in it is not taken for an empty one. -/
theorem exists_prepend_eq_cons {value : Json} (hFree : ¬ value.HasDouble) (rest : List Char) :
    ∃ c cs, value.prepend rest = c :: cs ∧ isSpace c = false ∧ c ≠ ']' := by
  cases value with
  | null => exact ⟨'n', _, rfl, by decide⟩
  | bool b => cases b <;> exact ⟨_, _, rfl, by decide⟩
  | integer n =>
    obtain ⟨c, cs, hText, hStart⟩ := exists_toString_eq_cons n
    exact ⟨c, cs ++ rest, by rw [prepend, hText]; rfl, hStart.isSpace_eq,
      hStart.ne (by decide) (by decide)⟩
  | double x => exact absurd (.here x) hFree
  | string s => exact ⟨'"', _, rfl, by decide⟩
  | array items => exact ⟨'[', _, rfl, by decide⟩
  | object members => exact ⟨'\x7b', _, rfl, by decide⟩

/-- Writing items leaves what is behind them untouched, if writing each of them does. The brackets
are written by the caller. -/
theorem suffix_prependItems {items : List Json}
    (h : ∀ item ∈ items, ∀ rest, rest <:+ item.prepend rest) (rest : List Char) :
    rest <:+ prependItems rest items := by
  induction items with
  | nil => exact List.suffix_refl rest
  | cons item items ih =>
    have hItem := h item (.head _)
    cases items with
    | nil => exact hItem rest
    | cons next more =>
      have hBehind := ih fun x hMem => h x (.tail _ hMem)
      exact (hBehind.trans (List.suffix_cons ',' _)).trans (hItem _)

/-- Writing members leaves what is behind them untouched, if writing each value does. A key and its
colon stand in front of the value. -/
theorem suffix_prependMembers {members : List (String × Json)}
    (h : ∀ m ∈ members, ∀ rest, rest <:+ m.2.prepend rest) (rest : List Char) :
    rest <:+ prependMembers rest members := by
  induction members with
  | nil => exact List.suffix_refl rest
  | cons m members ih =>
    obtain ⟨key, value⟩ := m
    have hValue := h (key, value) (.head _)
    have hKey (behind : List Char) : behind <:+ stringChars key ++ ':' :: behind :=
      (List.suffix_cons ':' _).trans (List.suffix_append _ _)
    cases members with
    | nil => exact (hValue rest).trans (hKey _)
    | cons next more =>
      have hBehind := ih fun x hMem => h x (.tail _ hMem)
      exact ((hBehind.trans (List.suffix_cons ',' _)).trans (hValue _)).trans (hKey _)

/-- A value is put in front of what is there. -/
theorem suffix_prepend (value : Json) (rest : List Char) : rest <:+ value.prepend rest := by
  induction value generalizing rest with
  | null | integer _ | double _ | string _ => exact List.suffix_append _ rest
  | bool b => cases b <;> exact List.suffix_append _ rest
  | array items ih =>
    have hItems := suffix_prependItems ih (']' :: rest)
    exact ((List.suffix_cons ']' rest).trans hItems).trans (List.suffix_cons '[' _)
  | object members ih =>
    have hMembers := suffix_prependMembers ih ('\x7d' :: rest)
    exact ((List.suffix_cons '\x7d' rest).trans hMembers).trans (List.suffix_cons '\x7b' _)

/-- A character that no numeral can go on with ends a number, whatever stands behind it. -/
theorem endsNumber_cons {c : Char} (h : c.isDigit = false ∧ c ≠ '.' ∧ c ≠ 'e' ∧ c ≠ 'E')
    (cs : List Char) : EndsNumber (c :: cs) := by
  intro d hHead
  obtain rfl := Option.some.inj hHead
  exact h

/-- A key is read back together with its colon, and the reader stands in front of the value then. -/
theorem key?_stringChars (key : String) (rest : List Char) :
    key? .checked (stringChars key ++ ':' :: rest) = some (key, rest) := by
  have hText : dropSpace (stringChars key ++ ':' :: rest) = stringChars key ++ ':' :: rest :=
    dropSpace_cons (by decide) _
  rw [key?, hText, string?_stringChars]
  rfl

/-- A value is taken off the front of a text, in steps by the length of the text. -/
def ReadsBack (depth : Nat) (value : Json) : Prop :=
  ∀ fuel rest, EndsNumber rest → 2 * (value.prepend rest).length ≤ fuel →
    value? .checked fuel depth (value.prepend rest) = some (value, rest)

/-- No value is empty, so there is a first step. -/
theorem ReadsBack.of_succ {depth : Nat} {value : Json} (hFree : ¬ value.HasDouble)
    (h : ∀ fuel rest, EndsNumber rest → 2 * (value.prepend rest).length ≤ fuel + 1 →
      value? .checked (fuel + 1) depth (value.prepend rest) = some (value, rest)) :
    ReadsBack depth value := by
  intro fuel rest hRest hFuel
  obtain ⟨c, cs, hText, -⟩ := exists_prepend_eq_cons hFree rest
  cases fuel with
  | zero => simp [hText] at hFuel
  | succ fuel => exact h fuel rest hRest hFuel

section Steps

variable {depth fuel : Nat} {value : Json} {behind : List Char}

/-- The last item of an array is read back with the closing bracket behind it. Fuel of twice the
length of the text is enough for it. -/
theorem items?_last (h : ReadsBack depth value)
    (hFuel : 2 * (value.prepend (']' :: behind)).length ≤ fuel) :
    items? .checked (fuel + 1) depth (value.prepend (']' :: behind)) = some ([value], behind) := by
  rw [items?, h fuel _ (endsNumber_cons (by decide) _) hFuel]
  rfl

/-- An item with a comma behind it is read back first, and the reader goes on with the items behind
the comma. -/
theorem items?_more (h : ReadsBack depth value)
    (hFuel : 2 * (value.prepend (',' :: behind)).length ≤ fuel) :
    items? .checked (fuel + 1) depth (value.prepend (',' :: behind)) =
      (items? .checked fuel depth behind).map fun (items, rest) => (value :: items, rest) := by
  rw [items?, h fuel _ (endsNumber_cons (by decide) _) hFuel]
  rfl

/-- The last member of an object is read back, its key first and then the value up to the closing
brace. -/
theorem members?_last (key : String) (h : ReadsBack depth value)
    (hFuel : 2 * (value.prepend ('\x7d' :: behind)).length ≤ fuel) :
    members? .checked (fuel + 1) depth
        (stringChars key ++ ':' :: value.prepend ('\x7d' :: behind)) =
      some ([(key, value)], behind) := by
  rw [members?, key?_stringChars]
  show (value? .checked fuel depth (value.prepend ('\x7d' :: behind))).bind _ = _
  rw [h fuel _ (endsNumber_cons (by decide) _) hFuel]
  rfl

/-- A member with a comma behind it is read back first, and the reader goes on with the members
behind the comma. -/
theorem members?_more (key : String) (h : ReadsBack depth value)
    (hFuel : 2 * (value.prepend (',' :: behind)).length ≤ fuel) :
    members? .checked (fuel + 1) depth (stringChars key ++ ':' :: value.prepend (',' :: behind)) =
      (members? .checked fuel depth behind).map fun (members, rest) =>
        ((key, value) :: members, rest) := by
  rw [members?, key?_stringChars]
  show (value? .checked fuel depth (value.prepend (',' :: behind))).bind _ = _
  rw [h fuel _ (endsNumber_cons (by decide) _) hFuel]
  rfl

/-- A value and the character behind it take at least one character together. This is the step by
which the fuel of a list goes down. -/
theorem length_lt_prepend (value : Json) (c : Char) (behind : List Char) :
    behind.length < (value.prepend (c :: behind)).length :=
  (suffix_prepend value (c :: behind)).length_le

/-- A key and its colon take at least one character, even where the key is empty, because of the
quotes. -/
theorem length_lt_member (key : String) (behind : List Char) :
    behind.length < (stringChars key ++ ':' :: behind).length := by
  rw [List.length_append, List.length_cons]
  omega

end Steps

/-- A member takes at least one character. -/
theorem length_le_prependMembers (members : List (String × Json)) (rest : List Char) :
    members.length ≤ (prependMembers rest members).length := by
  induction members with
  | nil => exact Nat.zero_le _
  | cons m members ih =>
    obtain ⟨key, value⟩ := m
    cases members with
    | nil => exact Nat.zero_lt_of_lt (length_lt_member key (value.prepend rest))
    | cons next more =>
      have hValue := length_lt_prepend value ',' (prependMembers rest (next :: more))
      have hKey := length_lt_member key (value.prepend (',' :: prependMembers rest (next :: more)))
      exact Nat.lt_of_le_of_lt ih (Nat.lt_trans hValue hKey)

/-- The items of an array are read back up to the closing bracket, by induction on the list. Twice
the length of the text is fuel enough. -/
theorem items?_prependItems {depth : Nat} {items : List Json}
    (h : ∀ item ∈ items, ReadsBack depth item) (hSome : items ≠ []) {fuel : Nat} {rest : List Char}
    (hFuel : 2 * (prependItems (']' :: rest) items).length < fuel) :
    items? .checked fuel depth (prependItems (']' :: rest) items) = some (items, rest) := by
  induction items generalizing fuel with
  | nil => exact absurd rfl hSome
  | cons item items ih =>
    obtain ⟨fuel, rfl⟩ := Nat.exists_eq_succ_of_ne_zero (Nat.ne_zero_of_lt hFuel)
    have hItem := h item (.head _)
    have hFuel := Nat.le_of_lt_succ hFuel
    cases items with
    | nil => exact items?_last hItem hFuel
    | cons next more =>
      -- the comma leaves the steps that the next item takes
      have hShorter := length_lt_prepend item ',' (prependItems (']' :: rest) (next :: more))
      have hMore := ih (fun x hMem => h x (.tail _ hMem)) (by simp)
        (Nat.lt_of_lt_of_le (Nat.mul_lt_mul_of_pos_left hShorter (by decide)) hFuel)
      exact (items?_more hItem hFuel).trans (by rw [hMore]; rfl)

/-- The members of an object are read back up to the closing brace, in the order in which they were
written, with the same fuel as items. -/
theorem members?_prependMembers {depth : Nat} {members : List (String × Json)}
    (h : ∀ m ∈ members, ReadsBack depth m.2) (hSome : members ≠ []) {fuel : Nat} {rest : List Char}
    (hFuel : 2 * (prependMembers ('\x7d' :: rest) members).length < fuel) :
    members? .checked fuel depth (prependMembers ('\x7d' :: rest) members) =
      some (members, rest) := by
  induction members generalizing fuel with
  | nil => exact absurd rfl hSome
  | cons m members ih =>
    obtain ⟨key, value⟩ := m
    obtain ⟨fuel, rfl⟩ := Nat.exists_eq_succ_of_ne_zero (Nat.ne_zero_of_lt hFuel)
    have hValue : ReadsBack depth value := h (key, value) (.head _)
    have hFuel := Nat.le_of_lt_succ hFuel
    cases members with
    | nil =>
      have hShorter := length_lt_member key (value.prepend ('\x7d' :: rest))
      exact members?_last key hValue
        (Nat.le_trans (Nat.mul_le_mul_left 2 (Nat.le_of_lt hShorter)) hFuel)
    | cons next more =>
      have hKey := length_lt_member key
        (value.prepend (',' :: prependMembers ('\x7d' :: rest) (next :: more)))
      have hShorter := length_lt_prepend value ',' (prependMembers ('\x7d' :: rest) (next :: more))
      have hMore := ih (fun x hMem => h x (.tail _ hMem)) (by simp)
        (Nat.lt_of_lt_of_le
          (Nat.mul_lt_mul_of_pos_left (Nat.lt_trans hShorter hKey) (by decide)) hFuel)
      exact (members?_more key hValue
        (Nat.le_trans (Nat.mul_le_mul_left 2 (Nat.le_of_lt hKey)) hFuel)).trans (by rw [hMore]; rfl)

section Heads

variable {c : Char} (care : Care) (fuel depth : Nat) (cs : List Char)

/-- A value that begins with a digit or a sign is read as a number and as nothing else. -/
theorem value?_of_startsNumber (h : StartsNumber c) :
    value? care (fuel + 1) depth (c :: cs) = number? care (c :: cs) := by
  rw [value?, dropSpace_cons h.isSpace_eq]
  split
  case h_8 => rfl
  all_goals
    next hEq =>
      have hHead := congrArg List.head? hEq
      simp [h.ne] at hHead

/-- A value that begins with a bracket is an array, and its items are read one level further down.
The empty array is another case. -/
theorem value?_bracket (hSpace : isSpace c = false) (hItem : c ≠ ']') :
    value? care (fuel + 1) (depth + 1) ('[' :: c :: cs) =
      (items? care fuel depth (c :: cs)).map fun (items, rest) => (.array items, rest) := by
  rw [value?, dropSpace_cons (by decide)]
  simp only [dropSpace_cons hSpace]
  split
  · next hNone => cases hNone
  · next hEq => exact absurd (List.cons.inj hEq).1 hItem
  · next hEq _ =>
    obtain rfl := Nat.succ.inj hEq
    rfl

/-- A value that begins with a brace is an object, and its members are read one level further down
and put in the order of their keys. -/
theorem value?_brace (hSpace : isSpace c = false) (hMember : c ≠ '\x7d') :
    value? care (fuel + 1) (depth + 1) ('\x7b' :: c :: cs) =
      (members? care fuel depth (c :: cs)).map fun (members, rest) =>
        (ofMembers members, rest) := by
  rw [value?, dropSpace_cons (by decide)]
  simp only [dropSpace_cons hSpace]
  split
  · next hNone => cases hNone
  · next hEq => exact absurd (List.cons.inj hEq).1 hMember
  · next hEq _ =>
    obtain rfl := Nat.succ.inj hEq
    rfl

end Heads

/-- An array is read back if each of its items is. It takes one level more than the deepest of them.
-/
theorem readsBack_array {depth : Nat} {items : List Json}
    (h : ∀ item ∈ items, ReadsBack depth item) (hFree : ¬ (Json.array items).HasDouble) :
    ReadsBack (depth + 1) (.array items) := by
  refine .of_succ hFree fun fuel rest _ hFuel => ?_
  have hFuel : 2 * ((prependItems (']' :: rest) items).length + 1) ≤ fuel + 1 := hFuel
  show value? .checked (fuel + 1) (depth + 1) ('[' :: prependItems (']' :: rest) items) = _
  cases items with
  | nil => rfl
  | cons item items =>
    -- no item starts with a bracket, so the array is not taken for an empty one
    obtain ⟨behind, hText⟩ : ∃ behind,
        prependItems (']' :: rest) (item :: items) = item.prepend behind := by
      cases items <;> exact ⟨_, rfl⟩
    obtain ⟨c, cs, hHead, hSpace, hBracket⟩ :=
      exists_prepend_eq_cons (fun hDouble => hFree (.item (.head _) hDouble)) behind
    have hItems : items? .checked fuel depth (prependItems (']' :: rest) (item :: items)) =
        some (item :: items, rest) := items?_prependItems h (by simp) (by omega)
    rw [hText, hHead] at hItems ⊢
    rw [value?_bracket _ _ _ _ hSpace hBracket, hItems]
    rfl

/-- An object is read back if each of its values is and the keys ascend. Otherwise the reader would
bring them into that order. -/
theorem readsBack_object {depth : Nat} {members : List (String × Json)}
    (h : ∀ m ∈ members, ReadsBack depth m.2) (hKeys : members.Pairwise fun m n => m.1 < n.1)
    (hFree : ¬ (Json.object members).HasDouble) : ReadsBack (depth + 1) (.object members) := by
  refine .of_succ hFree fun fuel rest _ hFuel => ?_
  have hFuel : 2 * ((prependMembers ('\x7d' :: rest) members).length + 1) ≤ fuel + 1 := hFuel
  show value? .checked (fuel + 1) (depth + 1)
    ('\x7b' :: prependMembers ('\x7d' :: rest) members) = _
  cases members with
  | nil => rfl
  | cons m members =>
    obtain ⟨cs, hText⟩ : ∃ cs, prependMembers ('\x7d' :: rest) (m :: members) = '"' :: cs := by
      cases members <;> exact ⟨_, rfl⟩
    have hMembers : members? .checked fuel depth
        (prependMembers ('\x7d' :: rest) (m :: members)) = some (m :: members, rest) :=
      members?_prependMembers h (by simp) (by omega)
    rw [hText] at hMembers ⊢
    rw [value?_brace _ _ _ _ (by decide) (by decide), hMembers]
    simp [ofMembers_of_ascending hKeys]

/-- What a program holds is read back from the text it was written to, unless there is a double in
it. The depth of the value must be within the limit of the reader. -/
theorem readsBack {depth : Nat} {value : Json} (hForm : WellFormed depth value)
    (hFree : ¬ value.HasDouble) : ReadsBack depth value := by
  induction hForm with
  | null => exact .of_succ hFree fun _ _ _ _ => rfl
  | bool b =>
    refine .of_succ hFree fun _ _ _ _ => ?_
    cases b <;> rfl
  | @integer _ n hWord =>
    refine .of_succ hFree fun fuel rest hRest _ => ?_
    obtain ⟨c, cs, hText, hStart⟩ := exists_toString_eq_cons n
    have hNumber := number?_toString hWord hRest
    rw [prepend]
    rw [hText, List.cons_append] at hNumber ⊢
    exact (value?_of_startsNumber _ _ _ _ hStart).trans hNumber
  | double x => exact absurd (.here x) hFree
  | string s =>
    refine .of_succ hFree fun fuel rest _ _ => ?_
    show (string? .checked (stringChars s ++ rest)).map _ = _
    rw [string?_stringChars]
    rfl
  | array hItems ih =>
    exact readsBack_array (fun item hMem => ih item hMem fun h => hFree (.item hMem h)) hFree
  | object hKeys hValues ih =>
    exact readsBack_object (fun m hMem => ih m hMem fun h => hFree (.member hMem h)) hKeys hFree

end MarkupRules.Json
