/-!
Computations that may fail, taken apart where they succeed.
-/
namespace MarkupRules

variable {ε ε' α β : Type}

theorem ok_bind (a : α) (f : α → Except ε β) : (Except.ok a >>= f) = f a := rfl

/-- A sequence of two steps succeeds just if the first does and then the second, from where the
first ended. -/
theorem bind_eq_ok_iff {x : Except ε α} {f : α → Except ε β} {b : β} :
    x >>= f = .ok b ↔ ∃ a, x = .ok a ∧ f a = .ok b := by
  cases x with
  | error e => simp [bind, Except.bind]
  | ok a => simp [bind, Except.bind]

/-- A sequence of two steps fails with the error of the first, or with that of the second behind a
first that succeeds. -/
theorem bind_eq_error_iff {x : Except ε α} {f : α → Except ε β} {e : ε} :
    x >>= f = .error e ↔ x = .error e ∨ ∃ a, x = .ok a ∧ f a = .error e := by
  cases x with
  | error e' => simp [bind, Except.bind]
  | ok a => simp [bind, Except.bind]

/-- A fold that fails does so at one of its steps. All that stands before this one was taken in
without an error. -/
theorem exists_step_of_foldlM_eq_error {f : β → α → Except ε β} {xs : List α} {b : β} {e : ε}
    (h : xs.foldlM f b = .error e) : ∃ b' x, x ∈ xs ∧ f b' x = .error e := by
  induction xs generalizing b with
  | nil => cases h
  | cons x rest ih =>
    rw [List.foldlM_cons] at h
    rcases bind_eq_error_iff.mp h with hStep | ⟨b', -, hRest⟩
    · exact ⟨b, x, .head _, hStep⟩
    · obtain ⟨b'', y, hMem, hStep⟩ := ih hRest
      exact ⟨b'', y, .tail _ hMem, hStep⟩

theorem mapError_eq_ok_iff {x : Except ε α} {f : ε → ε'} {a : α} :
    x.mapError f = .ok a ↔ x = .ok a := by
  cases x with
  | error e =>
    constructor
    · intro h
      cases h
    · intro h
      cases h
  | ok b =>
    constructor
    · intro h
      exact congrArg Except.ok (Except.ok.inj h)
    · intro h
      exact congrArg Except.ok (Except.ok.inj h)

/-- A result that is mapped is a success just if it was one before, and what it holds is the image.
-/
theorem map_eq_ok_iff {x : Except ε α} {f : α → β} {b : β} :
    x.map f = .ok b ↔ ∃ a, x = .ok a ∧ f a = b := by
  cases x <;> simp [Except.map]

theorem toOption_eq_some_iff {x : Except ε α} {a : α} : x.toOption = some a ↔ x = .ok a := by
  cases x <;> simp [Except.toOption]

/-- Two sequences succeed alike if their first steps do and the second steps from the same place.
Which errors they fail with is not compared. -/
theorem toOption_bind_congr {x y : Except ε α} {f g : α → Except ε β}
    (h : x.toOption = y.toOption) (hNext : ∀ a, (f a).toOption = (g a).toOption) :
    (x >>= f).toOption = (y >>= g).toOption := by
  cases x with
  | error e =>
    cases y with
    | error e' => rfl
    | ok b => cases h
  | ok a =>
    rw [toOption_eq_some_iff.mp h.symm]
    exact hNext a

end MarkupRules
