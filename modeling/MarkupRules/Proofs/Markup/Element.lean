import MarkupRules.Markup.Element

/-!
Elements and the events that describe them.

`Describes` says which events an element stands for without the stack of open elements:
an opening, pieces that are texts or whole elements, and a closing. Building an element
from events keeps the pieces that every open element has so far.
-/
namespace MarkupRules.Markup

/-- What stands between the tags of an element: a text, or an element with its events. -/
inductive Piece where
  | text (s : String)
  | element (events : List Event) (e : Element)

namespace Piece

/-- The events of a piece. -/
def events : Piece → List Event
  | text s => [.text s]
  | element events _ => events

/-- The text of a piece that is one. -/
def text? : Piece → Option String
  | text s => some s
  | element _ _ => none

/-- The element of a piece that is one. -/
def element? : Piece → Option Element
  | text _ => none
  | element _ e => some e

end Piece

/-- `Describes events e`: the events are the element `e`, its start tag, what stands inside it in
some interleaving of texts and elements, and its end tag. -/
inductive Describes : List Event → Element → Prop where
  | mk (tag : OpenTag) (pieces : List Piece)
      (inside : ∀ events e, .element events e ∈ pieces → Describes events e) :
      Describes (.opening tag :: (pieces.flatMap Piece.events ++ [.closing]))
        (.mk tag (pieces.filterMap Piece.text?) (pieces.filterMap Piece.element?))

namespace Element

/-- Induction on an element: it follows its child elements. -/
@[elab_as_elim, induction_eliminator]
theorem induction {motive : Element → Prop}
    (mk : ∀ tag texts children, (∀ c ∈ children, motive c) → motive (.mk tag texts children))
    (e : Element) : motive e :=
  Element.rec (motive_1 := motive) (motive_2 := fun children => ∀ c ∈ children, motive c)
    mk (by simp) (fun c rest hChild hRest => by simpa using ⟨hChild, hRest⟩) e

/-- `Contains e x`: the element `x` is `e` or stands at any depth inside it. -/
inductive Contains : Element → Element → Prop where
  | self (e : Element) : Contains e e
  | child {e c x : Element} (hChild : c ∈ e.children) (below : Contains c x) : Contains e x

theorem Contains.of_mem_children {e x c : Element} (h : Contains e x) (hChild : c ∈ x.children) :
    Contains e c := by
  induction h with
  | self => exact .child hChild (.self _)
  | child hOuter below ih => exact .child hOuter (ih hChild)

/-- The child elements with a name, in order. -/
def childrenNamed (e : Element) (name : String) : List Element :=
  e.children.filter (·.name == name)

theorem mem_childrenNamed {e c : Element} {name : String} :
    c ∈ e.childrenNamed name ↔ c ∈ e.children ∧ c.name = name := by
  simp [childrenNamed]

theorem mem_children_of_childrenNamed {e c : Element} {name : String} {index : Nat}
    (h : (e.childrenNamed name)[index]? = some c) : c ∈ e.children ∧ c.name = name :=
  mem_childrenNamed.mp (List.mem_of_getElem? h)

/-- The frames of the open elements, innermost first, and the events that led to them. -/
inductive Pending : List Frame → List Event → Prop where
  | nil : Pending [] []
  | cons {outer : List Frame} {before : List Event} (tag : OpenTag) (pieces : List Piece)
      (hOuter : Pending outer before)
      (inside : ∀ events e, .element events e ∈ pieces → Describes events e) :
      Pending
        (⟨tag, (pieces.filterMap Piece.text?).reverse,
          (pieces.filterMap Piece.element?).reverse⟩ :: outer)
        (before ++ .opening tag :: pieces.flatMap Piece.events)

/-- A start tag opens one more element, of which nothing has come yet. Those around it stay as they
are. -/
theorem Pending.opening {frames : List Frame} {events : List Event} (h : Pending frames events)
    (tag : OpenTag) : Pending ({ tag } :: frames) (events ++ [.opening tag]) := by
  simpa using Pending.cons tag [] h (by simp)

/-- One more piece, a text or a child that closed, goes into the innermost open element and leaves
those around it as they are. -/
theorem Pending.piece {f : Frame} {outer : List Frame} {events : List Event}
    (h : Pending (f :: outer) events) (p : Piece)
    (hPiece : ∀ events e, p = .element events e → Describes events e) :
    Pending
      ({ f with texts := p.text?.toList ++ f.texts, children := p.element?.toList ++ f.children } ::
        outer) (events ++ p.events) := by
  cases h with
  | @cons _ before tag pieces hOuter inside =>
    have hInside : ∀ events e, .element events e ∈ pieces ++ [p] → Describes events e := by
      intro events e hMem
      rcases List.mem_append.mp hMem with hOld | hNew
      · exact inside events e hOld
      · exact hPiece events e (List.mem_singleton.mp hNew).symm
    have hAll := Pending.cons tag (pieces ++ [p]) hOuter hInside
    cases p <;> simpa [List.filterMap_cons, Piece.text?, Piece.element?, Piece.events] using hAll

/-- The innermost open element is described by the events since its start tag, once its end tag
has come. -/
theorem Pending.close {f : Frame} {outer : List Frame} {events : List Event}
    (h : Pending (f :: outer) events) :
    ∃ before inside, Pending outer before ∧ events ++ [.closing] = before ++ inside ∧
      Describes inside f.close := by
  cases h with
  | @cons _ before tag pieces hOuter inside =>
    refine ⟨before, _, hOuter, ?_, by simpa [Frame.close] using Describes.mk tag pieces inside⟩
    simp

/-- How far a whole element has been read: not at all, up to somewhere inside it, or to its end. -/
inductive Progress : List Event → Builder → Prop where
  | before : Progress [] {}
  | inside {f : Frame} {outer : List Frame} {events : List Event}
      (hPending : Pending (f :: outer) events) : Progress events ⟨f :: outer, none⟩
  | after {events : List Event} {e : Element} (hDescribes : Describes events e) :
      Progress events ⟨[], some e⟩

/-- A start tag keeps the open elements described by the events so far, as long as the root has not
closed. -/
theorem Progress.opening {events : List Event} {b : Builder} (h : Progress events b)
    (hOpen : b.root = none) (tag : OpenTag) :
    Progress (events ++ [.opening tag]) (b.step (.opening tag)) := by
  cases h with
  | before => exact .inside (Pending.nil.opening tag)
  | inside hPending => exact .inside (hPending.opening tag)
  | after => cases hOpen

/-- A text inside an element keeps the open elements described. Outside of all elements no text is
an event. -/
theorem Progress.text {events : List Event} {b : Builder} (h : Progress events b)
    (hFrames : b.frames ≠ []) (s : String) :
    Progress (events ++ [.text s]) (b.step (.text s)) := by
  cases h with
  | before => exact absurd rfl hFrames
  | inside hPending => exact .inside (hPending.piece (.text s) (by simp))
  | after => exact absurd rfl hFrames

/-- An end tag keeps the open elements described, or leaves the root described where it was the last
of them. -/
theorem Progress.closing {events : List Event} {b : Builder} (h : Progress events b)
    (hFrames : b.frames ≠ []) : Progress (events ++ [.closing]) (b.step .closing) := by
  cases h with
  | before => exact absurd rfl hFrames
  | @inside f outer _ hPending =>
    obtain ⟨before, inside, hOuter, hEvents, hDescribes⟩ := hPending.close
    rw [hEvents]
    cases outer with
    | nil =>
      cases hOuter
      exact .after (by simpa using hDescribes)
    | cons parent outer =>
      refine .inside (hOuter.piece (.element inside f.close) ?_)
      rintro _ _ ⟨rfl, rfl⟩
      exact hDescribes
  | after => exact absurd rfl hFrames

/-- The builder once an element has closed inside the elements that are open. -/
def Builder.attach (b : Builder) (e : Element) : Builder :=
  match b.frames with
  | [] => { frames := [], root := some e }
  | parent :: outer =>
    { b with frames := { parent with children := e :: parent.children } :: outer }

/-- The innermost element goes to the one around it when it closes, or becomes the root. -/
theorem Builder.step_closing (f : Frame) (outer : List Frame) (root : Option Element) :
    Builder.step ⟨f :: outer, root⟩ .closing = Builder.attach ⟨outer, root⟩ f.close := by
  cases outer with
  | nil => rfl
  | cons parent outer => rfl

/-- Pieces go into the innermost open element, in the order in which they come, and nothing else
changes. -/
theorem foldl_step_pieces (pieces : List Piece) (f : Frame) (outer : List Frame)
    (root : Option Element)
    (inside : ∀ events e, .element events e ∈ pieces →
      ∀ b : Builder, events.foldl Builder.step b = b.attach e) :
    (pieces.flatMap Piece.events).foldl Builder.step ⟨f :: outer, root⟩ =
      ⟨{ f with
          texts := (pieces.filterMap Piece.text?).reverse ++ f.texts
          children := (pieces.filterMap Piece.element?).reverse ++ f.children } :: outer,
        root⟩ := by
  induction pieces generalizing f with
  | nil => rfl
  | cons p rest ih =>
    have hRest := fun f => ih f fun events e hMem => inside events e (.tail _ hMem)
    rw [List.flatMap_cons, List.foldl_append]
    cases p with
    | text s =>
      have hText : [Event.text s].foldl Builder.step ⟨f :: outer, root⟩ =
          ⟨{ f with texts := s :: f.texts } :: outer, root⟩ := rfl
      rw [Piece.events, hText, hRest]
      simp [List.filterMap_cons, Piece.text?, Piece.element?]
    | element events e =>
      rw [Piece.events, inside events e (.head _) ⟨f :: outer, root⟩, Builder.attach]
      dsimp only
      rw [hRest]
      simp [List.filterMap_cons, Piece.text?, Piece.element?]

/-- The events of an element build it, whatever is open around it, and put it there as a child. -/
theorem foldl_step_of_describes {events : List Event} {e : Element} (h : Describes events e)
    (b : Builder) : events.foldl Builder.step b = b.attach e := by
  induction h generalizing b with
  | mk tag pieces inside ih =>
    have hOpening : b.step (.opening tag) = ⟨{ tag } :: b.frames, b.root⟩ := rfl
    rw [List.foldl_cons, List.foldl_append, hOpening, foldl_step_pieces pieces _ _ _ ih,
      List.foldl_cons, Builder.step_closing]
    simp [Frame.close]

/-- Events describe one element only, the one that is built from them. -/
theorem ofEvents?_of_describes {events : List Event} {e : Element} (h : Describes events e) :
    ofEvents? events = some e := by
  rw [ofEvents?, foldl_step_of_describes h]
  rfl

/-- The events of a described element hold those of every element inside it. -/
theorem exists_events_of_contains {events : List Event} {e x : Element}
    (hDescribes : Describes events e) (hContains : e.Contains x) :
    ∃ inner, Describes inner x ∧ inner ⊆ events := by
  induction hDescribes with
  | mk tag pieces inside ih =>
    cases hContains with
    | self => exact ⟨_, .mk tag pieces inside, List.Subset.refl _⟩
    | @child _ c _ hChild below =>
      obtain ⟨p, hPiece, hElement⟩ := List.mem_filterMap.mp hChild
      cases p with
      | text s => cases hElement
      | element events e =>
        obtain rfl : e = c := Option.some.inj hElement
        obtain ⟨inner, hInner, hSubset⟩ := ih events e hPiece below
        refine ⟨inner, hInner, fun event hEvent => ?_⟩
        have hMem : event ∈ pieces.flatMap Piece.events :=
          List.mem_flatMap.mpr ⟨.element events e, hPiece, hSubset hEvent⟩
        exact .tail _ (List.mem_append_left _ hMem)

theorem opening_mem_of_describes {events : List Event} {e x : Element}
    (hDescribes : Describes events e) (hContains : e.Contains x) : .opening x.tag ∈ events := by
  obtain ⟨inner, hInner, hSubset⟩ := exists_events_of_contains hDescribes hContains
  cases hInner with
  | mk tag pieces inside => exact hSubset (.head _)

/-- A text of an element inside a described one is among the events as a text, with the blanks
around it cut off. -/
theorem text_mem_of_describes {events : List Event} {e x : Element}
    (hDescribes : Describes events e) (hContains : e.Contains x) {s : String}
    (hText : s ∈ x.texts) : .text s ∈ events := by
  obtain ⟨inner, hInner, hSubset⟩ := exists_events_of_contains hDescribes hContains
  cases hInner with
  | mk tag pieces inside =>
    obtain ⟨p, hPiece, hSome⟩ := List.mem_filterMap.mp hText
    cases p with
    | element events e => cases hSome
    | text s' =>
      obtain rfl := Option.some.inj hSome
      have hMem : .text s' ∈ pieces.flatMap Piece.events :=
        List.mem_flatMap.mpr ⟨.text s', hPiece, List.mem_singleton_self _⟩
      exact hSubset (.tail _ (List.mem_append_left _ hMem))

end Element

end MarkupRules.Markup
