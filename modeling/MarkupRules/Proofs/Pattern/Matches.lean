import MarkupRules.Pattern.Matching
import Mathlib.Data.Nat.Bitwise

/-!
What it means for an expression to match, and that matching all places at once decides it.

An expression relates the place where a match starts to the places where it may end. The
sets of places that matching computes with are read bit by bit; what a step makes of a set
is then the image of the set under the relation.
-/
namespace MarkupRules.Pattern

/-- So many steps of a relation between places one after the other. -/
def Times (R : Nat → Nat → Prop) : Nat → Nat → Nat → Prop
  | 0, i, j => i = j
  | n + 1, i, j => ∃ k, R i k ∧ Times R n k j

namespace Times

variable {R : Nat → Nat → Prop} {n m i j k : Nat}

/-- Steps that never lead back never lead back together. -/
theorem le (hForward : ∀ i j, R i j → i ≤ j) (h : Times R n i j) : i ≤ j := by
  induction n generalizing i with
  | zero => exact le_of_eq h
  | succ n ih =>
    obtain ⟨k, hFirst, hRest⟩ := h
    exact (hForward i k hFirst).trans (ih hRest)

/-- A step that stays in place can be made any number of times in front of other steps. -/
theorem prepend (hLoop : R i i) (h : Times R n i j) (m : Nat) : Times R (m + n) i j := by
  induction m with
  | zero => simpa using h
  | succ m ih =>
    rw [Nat.add_right_comm]
    exact ⟨i, hLoop, ih⟩

/-- Steps that stay in place can be left out, and those that remain are no more than the places
they pass. -/
theorem exists_short (hForward : ∀ i j, R i j → i ≤ j) (h : Times R n i j) :
    ∃ m ≤ n, m ≤ j - i ∧ Times R m i j := by
  induction n generalizing i with
  | zero => exact ⟨0, le_rfl, Nat.zero_le _, h⟩
  | succ n ih =>
    obtain ⟨k, hFirst, hRest⟩ := h
    obtain ⟨m, hFewer, hShort, hSteps⟩ := ih hRest
    rcases (hForward i k hFirst).eq_or_lt with rfl | hLess
    · exact ⟨m, by omega, hShort, hSteps⟩
    · have hEnd : k ≤ j := le hForward hRest
      exact ⟨m + 1, by omega, by omega, k, hFirst, hSteps⟩

/-- More steps than places passed have one among them that stays in place. So the same end is
reached in any number of steps above that of the places. -/
theorem of_lt (hForward : ∀ i j, R i j → i ≤ j) (h : Times R n i j) (hMany : j - i < n)
    (hMore : j - i < m) : Times R m i j := by
  induction n generalizing i m with
  | zero => omega
  | succ n ih =>
    obtain ⟨k, hFirst, hRest⟩ := h
    rcases (hForward i k hFirst).eq_or_lt with rfl | hLess
    · obtain ⟨few, -, hShort, hSteps⟩ := exists_short hForward hRest
      have hLoops := prepend hFirst hSteps (m - few)
      rwa [Nat.sub_add_cancel (hShort.trans hMore.le)] at hLoops
    · have hEnd : k ≤ j := le hForward hRest
      obtain ⟨m, rfl⟩ : ∃ before, m = before + 1 := ⟨m - 1, by omega⟩
      exact ⟨k, hFirst, ih hRest (by omega) (by omega)⟩

/-- So many steps and then some more are all of these steps together, with a place between them. -/
theorem add_iff : Times R (n + m) i j ↔ ∃ k, Times R n i k ∧ Times R m k j := by
  induction n generalizing i with
  | zero => simp [Times]
  | succ n ih =>
    rw [Nat.add_right_comm]
    simp only [Times, ih]
    constructor
    · rintro ⟨l, hFirst, k, hSteps, hRest⟩
      exact ⟨k, ⟨l, hFirst, hSteps⟩, hRest⟩
    · rintro ⟨k, ⟨l, hFirst, hSteps⟩, hRest⟩
      exact ⟨l, hFirst, k, hSteps, hRest⟩

/-- A set of places that a step does not leave is not left by any number of steps. -/
theorem mem_of_closed {S : Nat → Prop} (hClosed : ∀ i j, S i → R i j → S j) (hStart : S i)
    (h : Times R n i j) : S j := by
  induction n generalizing i with
  | zero => exact h ▸ hStart
  | succ n ih =>
    obtain ⟨k, hFirst, hRest⟩ := h
    exact ih (hClosed i k hStart hFirst) hRest

/-- Steps that end in a range unless they stay in place end there together. -/
theorem eq_or_le {length : Nat} (hInside : ∀ i j, R i j → i = j ∨ j ≤ length)
    (h : Times R n i j) : i = j ∨ j ≤ length := by
  refine h.mem_of_closed (S := fun k => i = k ∨ k ≤ length) (fun j k hPlace hStep => ?_)
    (.inl rfl)
  rcases hInside j k hStep with rfl | hEnd
  · exact hPlace
  · exact .inr hEnd

end Times

namespace Expr

/-- Whether an expression matches what stands in a text from behind `i` characters up to behind
`j` characters. -/
def Matches (text : List Char) : Expr → Nat → Nat → Prop
  | .empty, i, j => i = j
  | .anyOf cs, i, j => j = i + 1 ∧ ∃ c ∈ text[i]?, c ∈ cs
  | .oneOf s, i, j => j = i + 1 ∧ ∃ c ∈ text[i]?, s c = true
  | .place test, i, j =>
    i = j ∧ i ≤ text.length ∧ test (text.take i).getLast? text[i]? = true
  | .seq first second, i, j => ∃ k, first.Matches text i k ∧ second.Matches text k j
  | .either first second, i, j => first.Matches text i j ∨ second.Matches text i j
  | .copies e least most, i, j =>
    ∃ n, least ≤ n ∧ (∀ m ∈ most, n ≤ max least m) ∧ Times (e.Matches text) n i j

variable {text : List Char}

/-- A match does not end before it starts. -/
theorem Matches.le {e : Expr} {i j : Nat} (h : e.Matches text i j) : i ≤ j := by
  induction e generalizing i j with
  | empty => exact le_of_eq h
  | anyOf cs => exact h.1 ▸ Nat.le_succ i
  | oneOf s => exact h.1 ▸ Nat.le_succ i
  | place test => exact le_of_eq h.1
  | seq first second ihFirst ihSecond =>
    obtain ⟨k, hFirst, hSecond⟩ := h
    exact (ihFirst hFirst).trans (ihSecond hSecond)
  | either first second ihFirst ihSecond =>
    rcases h with hFirst | hSecond
    · exact ihFirst hFirst
    · exact ihSecond hSecond
  | copies e least most ih =>
    obtain ⟨n, -, -, hTimes⟩ := h
    exact Times.le (fun _ _ hStep => ih hStep) hTimes

/-- A match that takes characters ends inside the text. -/
theorem Matches.eq_or_le {e : Expr} {i j : Nat} (h : e.Matches text i j) :
    i = j ∨ j ≤ text.length := by
  induction e generalizing i j with
  | empty => exact .inl h
  | anyOf cs =>
    obtain ⟨rfl, c, hChar, -⟩ := h
    exact .inr (List.getElem?_eq_some_iff.mp hChar).1
  | oneOf s =>
    obtain ⟨rfl, c, hChar, -⟩ := h
    exact .inr (List.getElem?_eq_some_iff.mp hChar).1
  | place test => exact .inl h.1
  | seq first second ihFirst ihSecond =>
    obtain ⟨k, hFirst, hSecond⟩ := h
    rcases ihSecond hSecond with rfl | hInside
    · exact ihFirst hFirst
    · exact .inr hInside
  | either first second ihFirst ihSecond =>
    rcases h with hFirst | hSecond
    · exact ihFirst hFirst
    · exact ihSecond hSecond
  | copies e least most ih =>
    obtain ⟨n, -, -, hTimes⟩ := h
    exact hTimes.eq_or_le fun _ _ hStep => ih hStep

end Expr

namespace Places

/-- A set of places that is made from tests has the places whose tests hold. -/
theorem testBit_ofTests (tests : List Bool) (i : Nat) :
    (ofTests tests).testBit i = tests[i]?.getD false := by
  induction tests generalizing i with
  | nil => simp [ofTests]
  | cons b rest ih =>
    cases i with
    | zero => cases b <;> simp [ofTests, Nat.testBit_zero]
    | succ i =>
      have hHalf : ((if b then 1 else 0) + 2 * ofTests rest) / 2 = ofTests rest := by
        rw [Nat.add_mul_div_left _ _ Nat.two_pos]
        cases b <;> simp
      rw [ofTests, Nat.testBit_succ, hHalf, ih, List.getElem?_cons_succ]

/-- Around the place `i` stand the character before it, or what comes before the text, and the
character at it. -/
theorem getElem?_neighbours (before : Option Char) (text : List Char) (i : Nat) :
    (neighbours before text)[i]? =
      if i ≤ text.length then some ((text.take i).getLast?.or before, text[i]?) else none := by
  induction text generalizing before i with
  | nil => cases i <;> simp [neighbours]
  | cons c rest ih =>
    cases i with
    | zero => simp [neighbours]
    | succ i =>
      rw [neighbours, List.getElem?_cons_succ, ih]
      cases hLast : (rest.take i).getLast? <;> simp [List.getLast?_cons, hLast]

/-- A test of what stands around a place holds at the places inside the text that pass it. -/
theorem testBit_ofTests_neighbours (text : List Char) (test : Option Char × Option Char → Bool)
    (i : Nat) : (ofTests ((neighbours none text).map test)).testBit i = true ↔
      i ≤ text.length ∧ test ((text.take i).getLast?, text[i]?) = true := by
  rw [testBit_ofTests, List.getElem?_map, getElem?_neighbours]
  split <;> simp [*]

section Steps

variable {step : Places → Places} {R : Nat → Nat → Prop}
  (hStep : ∀ places j, (step places).testBit j = true ↔ ∃ i, places.testBit i = true ∧ R i j)
include hStep

/-- Rounds of a step lead to the places that as many steps of the relation lead to. -/
theorem testBit_rounds (n : Nat) (places : Places) (j : Nat) :
    (rounds step n places).testBit j = true ↔
      ∃ i, places.testBit i = true ∧ Times R n i j := by
  induction n generalizing places with
  | zero => simp [rounds, Times]
  | succ n ih =>
    rw [rounds]
    split
    · subst places
      simp
    · rw [ih]
      constructor
      · rintro ⟨k, hPlace, hRest⟩
        obtain ⟨i, hStart, hFirst⟩ := (hStep places k).mp hPlace
        exact ⟨i, hStart, k, hFirst, hRest⟩
      · rintro ⟨i, hStart, k, hFirst, hRest⟩
        exact ⟨k, (hStep places k).mpr ⟨i, hStart, hFirst⟩, hRest⟩

/-- At most so many rounds lead to the places that some smaller number of steps leads to. -/
theorem testBit_roundsUpTo (n : Nat) (places : Places) (j : Nat) :
    (roundsUpTo step n places).testBit j = true ↔
      ∃ i, places.testBit i = true ∧ ∃ m ≤ n, Times R m i j := by
  induction n generalizing places with
  | zero => simp [roundsUpTo, Times]
  | succ n ih =>
    have hNext (k : Nat) : (places ||| step places).testBit k = true ↔
        places.testBit k = true ∨ ∃ i, places.testBit i = true ∧ R i k := by
      rw [Nat.testBit_or, Bool.or_eq_true, hStep]
    rw [roundsUpTo]
    split
    next hSame =>
      -- A round that adds nothing shows a set that no step leaves.
      rw [hSame] at hNext
      constructor
      · exact fun hPlace => ⟨j, hPlace, 0, Nat.zero_le _, rfl⟩
      · rintro ⟨i, hStart, m, -, hSteps⟩
        exact hSteps.mem_of_closed (S := fun k => places.testBit k = true)
          (fun i k hPlace hFirst => (hNext k).mpr (.inr ⟨i, hPlace, hFirst⟩)) hStart
    next =>
      rw [ih]
      constructor
      · rintro ⟨k, hPlace, m, hFew, hRest⟩
        rcases (hNext k).mp hPlace with hStart | ⟨i, hStart, hFirst⟩
        · exact ⟨k, hStart, m, by omega, hRest⟩
        · exact ⟨i, hStart, m + 1, by omega, k, hFirst, hRest⟩
      · rintro ⟨i, hStart, m, hFew, hSteps⟩
        cases m with
        | zero => exact ⟨i, (hNext i).mpr (.inl hStart), 0, Nat.zero_le _, hSteps⟩
        | succ m =>
          obtain ⟨k, hFirst, hRest⟩ := hSteps
          exact ⟨k, (hNext k).mpr (.inr ⟨i, hStart, hFirst⟩), m, by omega, hRest⟩

/-- At least so many rounds, and at most so many more, lead to the places that a number of steps
between the two leads to. -/
theorem testBit_roundsUpTo_rounds (least more : Nat) (places : Places) (j : Nat) :
    (roundsUpTo step more (rounds step least places)).testBit j = true ↔
      ∃ i, places.testBit i = true ∧
        ∃ n, least ≤ n ∧ n ≤ least + more ∧ Times R n i j := by
  rw [testBit_roundsUpTo hStep]
  constructor
  · rintro ⟨k, hPlace, m, hFew, hRest⟩
    obtain ⟨i, hStart, hSteps⟩ := (testBit_rounds hStep least places k).mp hPlace
    exact ⟨i, hStart, least + m, by omega, by omega, Times.add_iff.mpr ⟨k, hSteps, hRest⟩⟩
  · rintro ⟨i, hStart, n, hLeast, hMost, hSteps⟩
    obtain ⟨m, rfl⟩ := Nat.exists_eq_add_of_le hLeast
    obtain ⟨k, hFirst, hRest⟩ := Times.add_iff.mp hSteps
    exact ⟨k, (testBit_rounds hStep least places k).mpr ⟨i, hStart, hFirst⟩, m, by omega, hRest⟩

end Steps

/-- Rounds that stop when nothing new is found come to the same places as all of them. -/
theorem closure_eq_roundsUpTo (step : Places → Places) (n : Nat) (places : Places) :
    closure step n places = roundsUpTo step n places := by
  induction n generalizing places with
  | zero => rfl
  | succ n ih => simp only [closure, roundsUpTo, ih]

end Places

section Cut

variable {R : Nat → Nat → Prop} {length i j : Nat} (hForward : ∀ i j, R i j → i ≤ j)
  (hInside : ∀ i j, R i j → i = j ∨ j ≤ length)
include hForward hInside

/-- With no upper bound, copies beyond the number of places lead nowhere that fewer do not, since
one of the steps stays in place. -/
theorem Times.exists_cut (least : Nat) :
    (∃ n, min least (length + 2) ≤ n ∧ n ≤ min least (length + 2) + (length + 1) ∧
        Times R n i j) ↔
      ∃ n, least ≤ n ∧ Times R n i j := by
  constructor
  · rintro ⟨n, hLeast, -, hSteps⟩
    have hNear := hSteps.eq_or_le hInside
    by_cases hFew : n ≤ j - i
    · exact ⟨n, by omega, hSteps⟩
    · exact ⟨max least n, by omega, hSteps.of_lt hForward (by omega) (by omega)⟩
  · rintro ⟨n, hLeast, hSteps⟩
    have hNear := hSteps.eq_or_le hInside
    by_cases hFew : n ≤ j - i
    · exact ⟨n, by omega, by omega, hSteps⟩
    · exact ⟨max (min least (length + 2)) (j - i + 1), by omega, by omega,
        hSteps.of_lt hForward (by omega) (by omega)⟩

/-- The same with an upper bound, which is cut as well. -/
theorem Times.exists_cut_of_le (least most : Nat) :
    (∃ n, min least (length + 2) ≤ n ∧
        n ≤ min least (length + 2) + (min most (length + 2) - min least (length + 2)) ∧
        Times R n i j) ↔
      ∃ n, least ≤ n ∧ n ≤ max least most ∧ Times R n i j := by
  constructor
  · rintro ⟨n, hLeast, hMost, hSteps⟩
    have hNear := hSteps.eq_or_le hInside
    by_cases hFew : n ≤ j - i
    · exact ⟨n, by omega, by omega, hSteps⟩
    · exact ⟨max least n, by omega, by omega, hSteps.of_lt hForward (by omega) (by omega)⟩
  · rintro ⟨n, hLeast, hMost, hSteps⟩
    have hNear := hSteps.eq_or_le hInside
    by_cases hFew : n ≤ j - i
    · exact ⟨n, by omega, by omega, hSteps⟩
    · exact ⟨min n (length + 2), by omega, by omega,
        hSteps.of_lt hForward (by omega) (by omega)⟩

end Cut

/-- One character further on from the places that pass a test, and from no others. -/
theorem testBit_advance (text : List Char) (test : Char → Bool) (places : Places) (j : Nat) :
    ((places &&& Places.ofTests (text.map test)) <<< 1).testBit j = true ↔
      ∃ i, places.testBit i = true ∧ j = i + 1 ∧ ∃ c ∈ text[i]?, test c = true := by
  have hBit (i : Nat) : (Places.ofTests (text.map test)).testBit i = true ↔
      ∃ c ∈ text[i]?, test c = true := by
    rw [Places.testBit_ofTests, List.getElem?_map]
    cases text[i]? <;> simp
  cases j with
  | zero => simp
  | succ j => simp [Nat.testBit_shiftLeft, hBit]

/-- A run ends at the places where a match may end that starts at one of the given places. By
induction on the expression this is all that a run does. -/
theorem testBit_run (text : List Char) (e : Expr) (places : Places) (j : Nat) :
    ((e.motion text text.length).run text.length places).testBit j = true ↔
      ∃ i, places.testBit i = true ∧ e.Matches text i j := by
  induction e generalizing places j with
  | empty => simp [Expr.motion, Motion.run, Expr.Matches]
  | anyOf cs =>
    rw [Expr.motion, Motion.run, testBit_advance]
    simp only [Expr.Matches, List.contains_iff_mem]
  | oneOf s => exact testBit_advance text s places j
  | place test =>
    simp only [Expr.motion, Motion.run, Expr.Matches, Nat.testBit_and, Bool.and_eq_true,
      Places.testBit_ofTests_neighbours]
    constructor
    · rintro ⟨hPlace, hHolds⟩
      exact ⟨j, hPlace, rfl, hHolds⟩
    · rintro ⟨i, hPlace, rfl, hHolds⟩
      exact ⟨hPlace, hHolds⟩
  | seq first second ihFirst ihSecond =>
    simp only [Expr.motion, Motion.run, Expr.Matches, ihSecond, ihFirst]
    grind
  | either first second ihFirst ihSecond =>
    simp only [Expr.motion, Motion.run, Expr.Matches, Nat.testBit_or, Bool.or_eq_true, ihSecond,
      ihFirst]
    grind
  | copies e least most ih =>
    have hForward : ∀ i j, e.Matches text i j → i ≤ j := fun _ _ h => h.le
    have hInside : ∀ i j, e.Matches text i j → i = j ∨ j ≤ text.length :=
      fun _ _ h => h.eq_or_le
    cases most with
    | none =>
      simp only [Expr.motion, Motion.run, Option.map_none, Places.closure_eq_roundsUpTo,
        Places.testBit_roundsUpTo_rounds ih, Times.exists_cut hForward hInside, Expr.Matches]
      simp
    | some most =>
      simp only [Expr.motion, Motion.run, Option.map_some, Places.testBit_roundsUpTo_rounds ih,
        Times.exists_cut_of_le hForward hInside, Expr.Matches]
      simp

/-- Matching finds out whether some part of the text matches, wherever the part starts and ends. The
match itself is not told. -/
theorem Expr.isMatch_iff (e : Expr) (text : List Char) :
    e.isMatch text = true ↔ ∃ i j, i ≤ text.length ∧ e.Matches text i j := by
  have hStarts (i : Nat) :
      (Nat.pow 2 (text.length + 1) - 1).testBit i = true ↔ i ≤ text.length := by
    rw [Nat.pow_eq, Nat.testBit_two_pow_sub_one, decide_eq_true_iff, Nat.lt_succ_iff]
  rw [Expr.isMatch, bne_iff_ne]
  constructor
  · intro hSome
    obtain ⟨j, hEnd⟩ := Nat.exists_testBit_of_ne_zero hSome
    obtain ⟨i, hStart, hMatch⟩ := (testBit_run text e _ j).mp hEnd
    exact ⟨i, j, (hStarts i).mp hStart, hMatch⟩
  · rintro ⟨i, j, hStart, hMatch⟩ hNone
    have hEnd := (testBit_run text e _ j).mpr ⟨i, (hStarts i).mpr hStart, hMatch⟩
    rw [hNone, Nat.zero_testBit] at hEnd
    exact Bool.false_ne_true hEnd

end MarkupRules.Pattern
