import MarkupRules.Proofs.Markup.Scan
import MarkupRules.Proofs.Reordered

/-!
Elements whose child elements come in another order.

Where the events of two sibling elements change places, an element is built whose children are
rearranged, at whatever depth the two stand.
-/
namespace MarkupRules.Markup.Element

/-- At every depth, the same start tag and texts, and the same child elements in whatever order. -/
inductive Rearranged : Element → Element → Prop where
  | mk (tag : OpenTag) (texts : List String) {children middle children' : List Element}
      (hSame : List.Forall₂ Rearranged children middle) (hOrder : middle.Perm children') :
      Rearranged (.mk tag texts children) (.mk tag texts children')

namespace Rearranged

/-- An element is rearranged when its children are reordered and each of them is rearranged. Its tag
and its texts stay. -/
theorem of_reordered (tag : OpenTag) (texts : List String) {children children' : List Element}
    (h : Reordered Rearranged children children') :
    Rearranged (.mk tag texts children) (.mk tag texts children') := by
  obtain ⟨middle, hSame, hOrder⟩ := h
  exact .mk tag texts hSame hOrder

theorem refl (e : Element) : Rearranged e e := by
  induction e with
  | mk tag texts children ih => exact .of_reordered tag texts (.of_perm (.refl _) ih)

theorem name_eq {e e' : Element} (h : Rearranged e e') : e'.name = e.name := by
  cases h
  rfl

end Rearranged

/-- Two frames of the same start tag and texts, with children rearranged. -/
structure Frame.Rearranged (f f' : Frame) : Prop where
  tag : f'.tag = f.tag
  texts : f'.texts = f.texts
  children : Reordered Element.Rearranged f.children f'.children

namespace Frame.Rearranged

variable {f f' : Frame}

theorem refl (f : Frame) : Frame.Rearranged f f :=
  ⟨rfl, rfl, .of_perm (.refl _) fun e _ => .refl e⟩

theorem addText (h : f.Rearranged f') (s : String) :
    Frame.Rearranged { f with texts := s :: f.texts } { f' with texts := s :: f'.texts } :=
  ⟨h.tag, congrArg (s :: ·) h.texts, h.children⟩

theorem addChild (h : f.Rearranged f') {e e' : Element} (hChild : e.Rearranged e') :
    Frame.Rearranged { f with children := e :: f.children }
      { f' with children := e' :: f'.children } :=
  ⟨h.tag, h.texts, h.children.cons hChild⟩

theorem close (h : f.Rearranged f') : f.close.Rearranged f'.close := by
  unfold Frame.close
  rw [h.tag, h.texts]
  exact .of_reordered _ _ h.children.reverse

end Frame.Rearranged

/-- Two builders that hold the same open elements, with what is inside them rearranged. -/
structure Builder.Rearranged (b b' : Builder) : Prop where
  frames : List.Forall₂ Frame.Rearranged b.frames b'.frames
  root : Option.Rel Element.Rearranged b.root b'.root

namespace Builder.Rearranged

variable {b b' : Builder}

/-- An event keeps two builders rearranged, since it does the same to both. -/
theorem step (h : b.Rearranged b') (event : Event) : (b.step event).Rearranged (b'.step event) := by
  obtain ⟨frames, root⟩ := b
  obtain ⟨frames', root'⟩ := b'
  obtain ⟨hFrames, hRoot⟩ := h
  cases event with
  | opening tag => exact ⟨.cons (.refl _) hFrames, hRoot⟩
  | text s =>
    cases hFrames with
    | nil => exact ⟨.nil, hRoot⟩
    | cons hInner hOuter => exact ⟨.cons (hInner.addText s) hOuter, hRoot⟩
  | closing =>
    cases hFrames with
    | nil => exact ⟨.nil, hRoot⟩
    | cons hInner hOuter =>
      rw [step_closing, step_closing]
      cases hOuter with
      | nil => exact ⟨.nil, .some hInner.close⟩
      | cons hParent hRest => exact ⟨.cons (hParent.addChild hInner.close) hRest, hRoot⟩

/-- Events keep two builders rearranged, so what comes behind a swap changes nothing about it. -/
theorem foldl_step (h : b.Rearranged b') (events : List Event) :
    (events.foldl Builder.step b).Rearranged (events.foldl Builder.step b') := by
  induction events generalizing b b' with
  | nil => exact h
  | cons event rest ih => exact ih (h.step event)

end Builder.Rearranged

/-- Texts go into the innermost open element and change nothing else, so they may stand between the
two that are swapped. -/
theorem foldl_step_texts (texts : List String) (f : Frame) (outer : List Frame)
    (root : Option Element) :
    (texts.map Event.text).foldl Builder.step ⟨f :: outer, root⟩ =
      ⟨{ f with texts := texts.reverse ++ f.texts } :: outer, root⟩ := by
  induction texts generalizing f with
  | nil => rfl
  | cons s rest ih =>
    have hText : Builder.step ⟨f :: outer, root⟩ (.text s) =
        ⟨{ f with texts := s :: f.texts } :: outer, root⟩ := rfl
    rw [List.map_cons, List.foldl_cons, hText, ih]
    simp

/-- Two elements that change places inside an open one give a rearranged element, whatever texts
stand between them. -/
theorem rearranged_of_swap {before first second after : List Event} {texts : List String}
    {e e' a b : Element} (hInside : (before.foldl Builder.step {}).frames ≠ [])
    (hFirst : Describes first a) (hSecond : Describes second b)
    (h : Describes (before ++ (first ++ (texts.map .text ++ (second ++ after)))) e)
    (h' : Describes (before ++ (second ++ (texts.map .text ++ (first ++ after)))) e') :
    e.Rearranged e' := by
  have hBuilt := ofEvents?_of_describes h
  have hBuilt' := ofEvents?_of_describes h'
  unfold ofEvents? at hBuilt hBuilt'
  simp only [List.foldl_append, foldl_step_of_describes hFirst, foldl_step_of_describes hSecond]
    at hBuilt hBuilt'
  generalize before.foldl Builder.step {} = start at hInside hBuilt hBuilt'
  obtain ⟨frames, root⟩ := start
  cases frames with
  | nil => exact absurd rfl hInside
  | cons f outer =>
    simp only [Builder.attach, foldl_step_texts] at hBuilt hBuilt'
    have hInner : Frame.Rearranged
        { f with texts := texts.reverse ++ f.texts, children := b :: a :: f.children }
        { f with texts := texts.reverse ++ f.texts, children := a :: b :: f.children } :=
      ⟨rfl, rfl, .of_perm (.swap a b _) fun e _ => .refl e⟩
    have hSameRoot : Option.Rel Rearranged root root := by
      cases root with
      | none => exact .none
      | some x => exact .some (.refl x)
    have hSwap : Builder.Rearranged ⟨_ :: outer, root⟩ ⟨_ :: outer, root⟩ :=
      ⟨.cons hInner (List.forall₂_same.mpr fun f _ => .refl f), hSameRoot⟩
    have hRoot := (hSwap.foldl_step after).root
    rw [hBuilt, hBuilt'] at hRoot
    cases hRoot with
    | some hSame => exact hSame

end MarkupRules.Markup.Element
