import MarkupRules.Proofs.Markup.Scan
import MarkupRules.Proofs.Schema.Model

/-!
Why a schema is refused.

The mistakes that the events of a schema show are never faults of its markup, and a schema
whose markup is sound has a root. So a fault of the markup is reported only where there is
one.
-/
namespace MarkupRules.Schema

/-- Reading an attribute never fails with a fault of the markup. -/
theorem Draft.read_ne_markup (path : String) (d : Draft) (a : Markup.Attribute)
    (e : Markup.Error) : d.read path a ≠ .error (.markup e) := by
  grind [Draft.read, Draft.declarePattern]

/-- Neither does compiling the pattern that the attributes declare. -/
theorem Draft.pattern?_ne_markup (path : String) (d : Draft) (e : Markup.Error) :
    d.pattern? path ≠ .error (.markup e) := by
  grind [Draft.pattern?]

/-- So what is wrong about the attributes of a tag is never reported as a fault of the markup. -/
theorem Constraints.ofAttributes_ne_markup (path : String) (attributes : List Markup.Attribute)
    (e : Markup.Error) : Constraints.ofAttributes path attributes ≠ .error (.markup e) := by
  intro h
  unfold Constraints.ofAttributes at h
  split at h
  · next hRead =>
    obtain rfl := Except.error.inj h
    obtain ⟨d, a, -, hStep⟩ := exists_step_of_foldlM_eq_error hRead
    exact d.read_ne_markup path a e hStep
  · next d hRead =>
    split at h
    · next hPattern =>
      obtain rfl := Except.error.inj h
      exact d.pattern?_ne_markup path e hPattern
    · cases h

/-- A tag that closes can be refused for its shape only. -/
theorem PendingRule.close_ne_markup (p : PendingRule) (e : Markup.Error) :
    p.close ≠ .error (.markup e) := by
  unfold PendingRule.close resolveType
  split
  · simp [Except.map]
  · split <;> simp [Except.map]
  · simp [Except.map]

/-- The builder reports no fault of the markup of its own. Such an error can only come from the
scan. -/
theorem Builder.step_ne_markup (b : Builder) (event : Markup.Event) (e : Markup.Error) :
    b.step event ≠ .error (.markup e) := by
  intro h
  cases event with
  | opening tag =>
    rw [Builder.step, Builder.opening] at h
    dsimp only at h
    split at h
    · next hRead =>
      obtain rfl := Except.error.inj h
      exact Constraints.ofAttributes_ne_markup _ _ e hRead
    · cases h
  | text s => cases h
  | closing =>
    rw [Builder.step, Builder.closing] at h
    split at h
    · cases h
    · next p outer hPending =>
      split at h
      · next hClose =>
        obtain rfl := Except.error.inj h
        exact p.close_ne_markup e hClose
      · cases h
      · split at h <;> cases h

/-- A model and an element under construction have the same number of tags open, and both have
their root or neither has. -/
structure InStep (b : Builder) (b' : Markup.Element.Builder) : Prop where
  length_pending : b.pending.length = b'.frames.length
  isSome_root : b.root.isSome = b'.root.isSome

namespace InStep

variable {b next : Builder} {b' : Markup.Element.Builder}

/-- Before any event nothing is open on either side and neither has a root. -/
theorem start : InStep {} {} := ⟨rfl, rfl⟩

/-- An opening tag that is taken in lies open on both sides. -/
theorem opening (h : InStep b b') {tag : Markup.OpenTag} (hStep : b.opening tag = .ok next) :
    InStep next (b'.step (.opening tag)) := by
  unfold Builder.opening at hStep
  dsimp only at hStep
  split at hStep
  · cases hStep
  · obtain rfl := Except.ok.inj hStep
    exact ⟨congrArg Nat.succ h.length_pending, h.isSome_root⟩

/-- Texts do not matter to a model. -/
theorem text (h : InStep b b') (s : String) : InStep b (b'.step (.text s)) := by
  obtain ⟨hLength, hRoot⟩ := h
  obtain ⟨frames, root⟩ := b'
  cases frames with
  | nil => exact ⟨hLength, hRoot⟩
  | cons f outer => exact ⟨hLength, hRoot⟩

/-- A closing tag closes the innermost on both sides. With the outermost one both have their root.
-/
theorem closing (h : InStep b b') (hStep : b.closing = .ok next) :
    InStep next (b'.step .closing) := by
  obtain ⟨hLength, hRoot⟩ := h
  obtain ⟨frames, root⟩ := b'
  unfold Builder.closing at hStep
  split at hStep
  · next hPending =>
    obtain rfl := Except.ok.inj hStep
    rw [hPending] at hLength
    obtain rfl := List.eq_nil_of_length_eq_zero hLength.symm
    exact ⟨by simp [hPending, Markup.Element.Builder.step], hRoot⟩
  · next p outer hPending =>
    rw [hPending] at hLength
    split at hStep
    · cases hStep
    · obtain rfl := Except.ok.inj hStep
      obtain ⟨f, rfl⟩ := List.length_eq_one_iff.mp hLength.symm
      exact ⟨rfl, rfl⟩
    · next rule parent outer hClose =>
      split at hStep
      · cases hStep
      · obtain rfl := Except.ok.inj hStep
        match frames with
        | f :: g :: rest => exact ⟨by simpa [Markup.Element.Builder.step] using hLength, hRoot⟩
        | [f] => simp at hLength
        | [] => simp at hLength

/-- Every event that the builder of models takes in keeps the two in step. What is behind an event
that it refuses is not claimed. -/
theorem step (h : InStep b b') {event : Markup.Event} (hStep : b.step event = .ok next) :
    InStep next (b'.step event) := by
  cases event with
  | opening tag => exact h.opening hStep
  | text s => exact Except.ok.inj hStep ▸ h.text s
  | closing => exact h.closing hStep

/-- The same holds for any number of events, by induction on them. -/
theorem foldlM_step (h : InStep b b') {events : List Markup.Event}
    (hSteps : events.foldlM Builder.step b = .ok next) :
    InStep next (events.foldl Markup.Element.Builder.step b') := by
  induction events generalizing b b' with
  | nil => exact Except.ok.inj hSteps ▸ h
  | cons event rest ih =>
    rw [List.foldlM_cons] at hSteps
    obtain ⟨middle, hStep, hRest⟩ := bind_eq_ok_iff.mp hSteps
    exact ih (h.step hStep) hRest

end InStep

/-- A schema whose markup is sound has a root once all its events have been taken in. So compiling
never finds itself without one. -/
theorem root_ne_none_of_feed {text : String} {options : Markup.Options} {b : Builder}
    (h : (Markup.scan text .boolean options).feed Error.markup Builder.step {} = .ok b) :
    b.root ≠ none := by
  obtain ⟨hRead, hError⟩ := feed_eq_ok h
  obtain ⟨root, hBuilt, -⟩ := Markup.describes_of_scan_ok hError
  have hRoot := (InStep.start.foldlM_step hRead).isSome_root
  rw [Markup.Element.ofEvents?] at hBuilt
  rw [hBuilt] at hRoot
  exact Option.isSome_iff_ne_none.mp hRoot

/-- A feed that fails does so at one of the events, or with the error of the scan. -/
theorem feed_eq_error {σ ε : Type} {scan : Markup.Scan} {ofError : Markup.Error → ε}
    {read : σ → Markup.Event → Except ε σ} {initial : σ} {e : ε}
    (h : scan.feed ofError read initial = .error e) :
    (∃ s event, event ∈ scan.events ∧ read s event = .error e) ∨
      ∃ e', scan.error = some e' ∧ e = ofError e' := by
  unfold Markup.Scan.feed at h
  split at h
  · next hRead => exact .inl (exists_step_of_foldlM_eq_error (hRead.trans h))
  · next e' _ hError => exact .inr ⟨e', hError, (Except.error.inj h).symm⟩
  · cases h

/-- A schema that compiles is well-formed markup. -/
theorem error_eq_none_of_compile {text : String} {options : Markup.Options} {m : Model}
    (h : Model.compile text options = .ok m) :
    (Markup.scan text .boolean options).error = none := by
  unfold Model.compile at h
  split at h
  · cases h
  · next hFeed => exact (feed_eq_ok hFeed).2

/-- The fault of the markup that compiling reports is that of the scan. Nothing else is ever
reported as one. -/
theorem error_of_compile_eq_markup {text : String} {options : Markup.Options} {e : Markup.Error}
    (h : Model.compile text options = .error (.markup e)) :
    (Markup.scan text .boolean options).error = some e := by
  unfold Model.compile at h
  split at h
  · next hFeed =>
    obtain rfl := Except.error.inj h
    rcases feed_eq_error hFeed with ⟨b, event, -, hStep⟩ | ⟨e', hError, hEq⟩
    · exact absurd hStep (b.step_ne_markup event e)
    · rw [hError, Error.markup.inj hEq]
  · next b hFeed =>
    split at h
    · cases h
    · next hRoot => exact absurd hRoot (root_ne_none_of_feed hFeed)

end MarkupRules.Schema
