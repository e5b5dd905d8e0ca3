import MarkupRules.Proofs.Markup.Nesting
import MarkupRules.Proofs.Markup.Places

/-!
How deep the elements of a text lie.

Under a limit the elements that are open never number more than it. What is open after some events
is read off the events, so the limit holds for the element that they describe: its places, counted
from the root, are no longer than the limit.
-/
namespace MarkupRules.Markup

/-- Wherever events are cut off, at most `limit` elements are open. -/
def OpenAtMost (limit : Nat) (events : List Event) : Prop :=
  ∀ before, before <+: events → openings before ≤ closings before + limit

namespace OpenAtMost

variable {limit : Nat} {events : List Event}

theorem nil : OpenAtMost limit [] := by
  intro before hPrefix
  simp [List.prefix_nil.mp hPrefix]

/-- One more event keeps to the limit if no more than so many elements are open behind it. -/
theorem snoc (h : OpenAtMost limit events) {e : Event}
    (hLast : openings (events ++ [e]) ≤ closings (events ++ [e]) + limit) :
    OpenAtMost limit (events ++ [e]) := by
  intro before hPrefix
  rcases List.prefix_concat_iff.mp hPrefix with rfl | hOld
  · exact hLast
  · exact h before hOld

/-- A start tag keeps to the limit if fewer elements than that are open before it. -/
theorem opening (h : OpenAtMost limit events) (hRoom : openings events < closings events + limit)
    (tag : OpenTag) : OpenAtMost limit (events ++ [.opening tag]) := by
  apply h.snoc
  simp [Event.isOpening, Event.isClosing]
  omega

/-- Only a start tag opens an element, so that no other event can go beyond a limit. -/
theorem other (h : OpenAtMost limit events) {e : Event} (hOther : e.isOpening = false) :
    OpenAtMost limit (events ++ [e]) := by
  apply h.snoc
  have hBefore := h events (List.prefix_refl _)
  simp [hOther]
  omega

/-- Every move keeps to the limit, since the scanner asks before it opens an element. -/
theorem move {mode : AttributeMode} {options : Options} {s s' : Scanner}
    (h : OpenAtMost limit s.events.reverse) (hLimit : options.maxDepth = some limit)
    (hConsistent : Consistent s.events.reverse s.openElements s.seenRoot)
    (hMove : Scanner.Move mode options s s') : OpenAtMost limit s'.events.reverse := by
  have hRoom (hDepth : s.mayOpen options = true) :
      openings s.events.reverse < closings s.events.reverse + limit := by
    have hOpen : s.openElements.length < limit := by
      simpa [Scanner.mayOpen, hLimit] using hDepth
    rw [hConsistent.openings_eq]
    omega
  cases hMove with
  | quiet hEvents => rwa [hEvents]
  | opening tag content hName hAttributes hRoot hDepth hEvents =>
    rw [hEvents, List.reverse_cons]
    exact h.opening (hRoom hDepth) tag
  | empty tag content hName hAttributes hRoot hDepth hEvents =>
    rw [hEvents, List.reverse_cons, List.reverse_cons]
    exact (h.opening (hRoom hDepth) tag).other rfl
  | closing name line hOpen hEvents =>
    rw [hEvents, List.reverse_cons]
    exact h.other rfl
  | text raw hText hInside hEvents =>
    rw [hEvents, List.reverse_cons]
    exact h.other rfl

end OpenAtMost

/-- A scan under a limit never has more elements open, however it ends. -/
theorem openAtMost_scan (text : String) (mode : AttributeMode) {options : Options} {limit : Nat}
    (hLimit : options.maxDepth = some limit) :
    OpenAtMost limit (scan text mode options).events := by
  cases hBlank : Text.isAllBlank text.toList with
  | true =>
    have hScan : scan text mode options = ⟨[], some .empty⟩ := by simp [scan, hBlank]
    rw [hScan]
    exact .nil
  | false =>
    rw [scan_events text mode options hBlank]
    have hStep (s s' : Scanner)
        (h : Consistent s.events.reverse s.openElements s.seenRoot ∧
          OpenAtMost limit s.events.reverse) (hMove : s.Move mode options s') :
        Consistent s'.events.reverse s'.openElements s'.seenRoot ∧
          OpenAtMost limit s'.events.reverse :=
      ⟨h.1.move hMove, h.2.move hLimit h.1 hMove⟩
    exact (Scanner.foldl_step_of_move _ ⟨.start, .nil⟩ hStep _).2

/-- The events of a piece come behind whole elements, so all that the limit leaves is left to
them. -/
theorem OpenAtMost.piece {limit : Nat} {tag : OpenTag} {pieces : List Piece} {events : List Event}
    {e : Element}
    (h : OpenAtMost limit (.opening tag :: (pieces.flatMap Piece.events ++ [.closing])))
    (inside : ∀ events e, .element events e ∈ pieces → Describes events e)
    (hPiece : .element events e ∈ pieces) : ∃ rest, limit = rest + 1 ∧ OpenAtMost rest events := by
  obtain ⟨front, back, rfl⟩ := List.append_of_mem hPiece
  have hFront : openings (front.flatMap Piece.events) = closings (front.flatMap Piece.events) :=
    openings_pieces fun events e hMem =>
      openings_of_describes (inside events e (List.mem_append_left _ hMem))
  have hInside (before : List Event) (hPrefix : before <+: events) :
      openings before + 1 ≤ closings before + limit := by
    obtain ⟨after, rfl⟩ := hPrefix
    have hCut := h (.opening tag :: front.flatMap Piece.events ++ before) ⟨after ++
      back.flatMap Piece.events ++ [.closing], by simp [Piece.events]⟩
    simp [Event.isOpening, Event.isClosing, hFront] at hCut
    omega
  have hSome := hInside [] List.nil_prefix
  refine ⟨limit - 1, by simp at hSome; omega, fun before hPrefix => ?_⟩
  have hBefore := hInside before hPrefix
  omega

/-- An element whose events keep to a limit has no element deeper inside than that. -/
theorem length_le_of_mem_places {events : List Event} {e : Element} (hEvents : Describes events e)
    {limit : Nat} (h : OpenAtMost limit events) {outer : List String}
    {place : List String × Element} (hPlace : place ∈ e.places outer) :
    place.1.length ≤ outer.length + limit := by
  induction hEvents generalizing limit outer with
  | mk tag pieces inside ih =>
    rw [Element.places_eq] at hPlace
    rcases List.mem_cons.mp hPlace with rfl | hBelow
    · have hFirst := h [.opening tag] ⟨_, rfl⟩
      simp [Event.isOpening, Event.isClosing] at hFirst
      simpa using hFirst
    · obtain ⟨c, hChild, hPlace⟩ := List.mem_flatMap.mp hBelow
      obtain ⟨piece, hPiece, hElement⟩ := List.mem_filterMap.mp hChild
      cases piece with
      | text s => cases hElement
      | element events c' =>
        obtain rfl := Option.some.inj hElement
        obtain ⟨rest, rfl, hRest⟩ := h.piece inside hPiece
        have hLength := ih events c' hPiece hRest hPlace
        simp at hLength
        omega

end MarkupRules.Markup
