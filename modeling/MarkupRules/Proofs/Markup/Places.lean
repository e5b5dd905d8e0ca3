import MarkupRules.Proofs.Markup.Element
import Mathlib.Data.List.Nodup

/-!
The places of elements.

The place of an element is the list of tag names from the root to it. The path of a place is a
text; names with a point in them may give two places one path.
-/
namespace MarkupRules.Markup

/-- The path of a place: its names with points between them. -/
def tagPath (names : List String) : String := ".".intercalate names

theorem tagPath_singleton (name : String) : tagPath [name] = name := String.intercalate_singleton

/-- The path of a place with one more name is the path, a point and the name, unless the place was
empty. -/
theorem tagPath_snoc {names : List String} (h : names ≠ []) (name : String) :
    tagPath (names ++ [name]) = s!"{tagPath names}.{name}" := by
  rw [tagPath, String.intercalate_append_of_ne_nil h (by simp), String.intercalate_singleton]
  rfl

/-- Where names have no points in them, a path tells the names it was joined from. -/
theorem tagPath_inj {names names' : List String} (h : names ≠ []) (h' : names' ≠ [])
    (hPoint : ∀ name ∈ names, '.' ∉ name.toList) (hPoint' : ∀ name ∈ names', '.' ∉ name.toList)
    (hPath : tagPath names = tagPath names') : names = names' := by
  have hSplit {names : List String} (h : names ≠ []) (hPoint : ∀ name ∈ names, '.' ∉ name.toList) :
      (tagPath names).toList.splitOn '.' = names.map String.toList := by
    rw [tagPath, String.toList_intercalate]
    exact List.splitOn_intercalate '.' (by simpa using hPoint) (by simpa using h)
  have hLists : names.map String.toList = names'.map String.toList := by
    rw [← hSplit h hPoint, ← hSplit h' hPoint', hPath]
  exact List.map_injective_iff.mpr (fun _ _ => String.toList_injective) hLists

/-- The tag of an event that opens one. -/
def Event.openTag? : Event → Option OpenTag
  | .opening tag => some tag
  | _ => none

namespace Element

mutual
/-- An element and all inside it in the order of their start tags, each behind its place. The
element stands inside the place `outer`. -/
def places (outer : List String) : Element → List (List String × Element)
  | mk tag texts children =>
    (outer ++ [tag.name], mk tag texts children) :: placesOfAll (outer ++ [tag.name]) children

/-- The same for elements one after another. -/
def placesOfAll (outer : List String) : List Element → List (List String × Element)
  | [] => []
  | e :: rest => e.places outer ++ placesOfAll outer rest
end

theorem placesOfAll_eq_flatMap (outer : List String) (elements : List Element) :
    placesOfAll outer elements = elements.flatMap (places outer) := by
  induction elements with
  | nil => rfl
  | cons e rest ih => rw [placesOfAll, ih, List.flatMap_cons]

theorem places_eq (outer : List String) (e : Element) :
    e.places outer =
      (outer ++ [e.name], e) :: e.children.flatMap (places (outer ++ [e.name])) := by
  cases e with
  | mk tag texts children => rw [places, placesOfAll_eq_flatMap]; rfl

/-- The elements of a described one come in the order of their start tags among the events. -/
theorem map_tag_places {events : List Event} {e : Element} (h : Describes events e)
    (outer : List String) :
    (e.places outer).map (·.2.tag) = events.filterMap Event.openTag? := by
  induction h generalizing outer with
  | mk tag pieces inside ih =>
    have hPieces (inner : List String) :
        ((pieces.filterMap Piece.element?).flatMap (places inner)).map (·.2.tag) =
          (pieces.flatMap Piece.events).filterMap Event.openTag? := by
      clear inside
      induction pieces with
      | nil => rfl
      | cons piece rest ihRest =>
        have hRest := ihRest fun events e hMem => ih events e (.tail _ hMem)
        rw [List.flatMap_cons, List.filterMap_append, ← hRest]
        cases piece with
        | text s => rfl
        | element events x =>
          rw [Piece.events, ← ih events x (.head _) inner]
          simp [Piece.element?]
    rw [places_eq, List.map_cons, List.filterMap_cons, List.filterMap_append]
    have hClosing : [Event.closing].filterMap Event.openTag? = [] := rfl
    rw [hClosing, List.append_nil, ← hPieces (outer ++ [tag.name])]
    rfl

/-- A place begins with the place of what it stands in, and the element at it is inside. -/
theorem exists_of_mem_places {outer : List String} {e : Element} {place : List String × Element}
    (h : place ∈ e.places outer) :
    e.Contains place.2 ∧ ∃ inner, place.1 = outer ++ e.name :: inner ∧
      ∀ name ∈ inner, ∃ x, e.Contains x ∧ x.name = name := by
  induction e generalizing outer with
  | mk tag texts children ih =>
    rw [places_eq] at h
    rcases List.mem_cons.mp h with rfl | hBelow
    · exact ⟨.self _, [], rfl, by simp⟩
    · obtain ⟨c, hChild, hPlace⟩ := List.mem_flatMap.mp hBelow
      obtain ⟨hContains, inner, hNames, hInner⟩ := ih c hChild hPlace
      refine ⟨.child hChild hContains, c.name :: inner, by simp [hNames], fun n hMem => ?_⟩
      rcases List.mem_cons.mp hMem with rfl | hDeep
      · exact ⟨c, .child hChild (.self c), rfl⟩
      · obtain ⟨x, hx, rfl⟩ := hInner n hDeep
        exact ⟨x, .child hChild hx, rfl⟩

/-- A place ends with the name of its element, so it is never empty. -/
theorem exists_outer_of_mem_places {outer : List String} {e : Element}
    {place : List String × Element} (h : place ∈ e.places outer) :
    ∃ around, place.1 = around ++ [place.2.name] := by
  induction e generalizing outer with
  | mk tag texts children ih =>
    rw [places_eq] at h
    rcases List.mem_cons.mp h with rfl | hBelow
    · exact ⟨outer, rfl⟩
    · obtain ⟨c, hChild, hPlace⟩ := List.mem_flatMap.mp hBelow
      exact ih c hChild hPlace

/-- Every element inside has its place. -/
theorem Contains.exists_place {e x : Element} (h : e.Contains x) (outer : List String) :
    ∃ names, (names, x) ∈ e.places outer := by
  induction h generalizing outer with
  | self e =>
    rw [places_eq]
    exact ⟨_, .head _⟩
  | @child e c x hChild below ih =>
    obtain ⟨names, hMem⟩ := ih (outer ++ [e.name])
    rw [places_eq]
    exact ⟨names, .tail _ (List.mem_flatMap.mpr ⟨c, hChild, hMem⟩)⟩

/-- The names on the places are those of the elements inside. -/
theorem forall_notMem_places_iff {e : Element} {c : Char} :
    (∀ place ∈ e.places [], ∀ name ∈ place.1, c ∉ name.toList) ↔
      ∀ x, e.Contains x → c ∉ x.name.toList := by
  constructor
  · intro h x hContains
    obtain ⟨names, hMem⟩ := hContains.exists_place []
    obtain ⟨around, hPlace⟩ := exists_outer_of_mem_places hMem
    apply h _ hMem
    rw [hPlace]
    exact List.mem_append_right _ (.head _)
  · intro h place hMem name hName
    obtain ⟨-, inner, hPlace, hInner⟩ := exists_of_mem_places hMem
    rw [hPlace] at hName
    rcases List.mem_cons.mp hName with rfl | hBelow
    · exact h e (.self e)
    · obtain ⟨x, hContains, rfl⟩ := hInner name hBelow
      exact h x hContains

/-- A start tag among the events of an element is that of an element inside, or its own. -/
theorem exists_contains_of_opening_mem {events : List Event} {e : Element} {tag : OpenTag}
    (h : Describes events e) (hMem : .opening tag ∈ events) : ∃ x, e.Contains x ∧ x.tag = tag := by
  have hTag : tag ∈ (e.places []).map (·.2.tag) := by
    rw [map_tag_places h]
    exact List.mem_filterMap.mpr ⟨_, hMem, rfl⟩
  obtain ⟨place, hPlace, rfl⟩ := List.mem_map.mp hTag
  exact ⟨place.2, (exists_of_mem_places hPlace).1, rfl⟩

/-- Where siblings have distinct names no two elements share a place, at whatever depth they are. -/
theorem nodup_places {e : Element}
    (h : ∀ x, e.Contains x → (x.children.map name).Nodup) (outer : List String) :
    ((e.places outer).map Prod.fst).Nodup := by
  induction e generalizing outer with
  | mk tag texts children ih =>
    have hChildren : (children.map name).Nodup := h _ (.self _)
    have hPlaces (inner : List String) : ∀ c ∈ children, ((c.places inner).map Prod.fst).Nodup :=
      fun c hChild => ih c hChild (fun x hx => h x (.child hChild hx)) inner
    rw [places_eq, List.map_cons, List.map_flatMap, List.nodup_cons, List.nodup_flatMap]
    refine ⟨?_, hPlaces _, ?_⟩
    · intro hMem
      obtain ⟨c, -, hMem⟩ := List.mem_flatMap.mp hMem
      obtain ⟨place, hPlace, hEq⟩ := List.mem_map.mp hMem
      obtain ⟨-, inner, hNames, -⟩ := exists_of_mem_places hPlace
      simp [hEq] at hNames
    · refine List.Pairwise.imp ?_ (List.pairwise_map.mp hChildren)
      intro c c' hNames names hc hc'
      obtain ⟨place, hPlace, rfl⟩ := List.mem_map.mp hc
      obtain ⟨place', hPlace', hEq⟩ := List.mem_map.mp hc'
      obtain ⟨-, inner, hLeft, -⟩ := exists_of_mem_places hPlace
      obtain ⟨-, inner', hRight, -⟩ := exists_of_mem_places hPlace'
      rw [hEq, hLeft] at hRight
      exact hNames (List.cons.inj (List.append_cancel_left hRight)).1

end Element

end MarkupRules.Markup
