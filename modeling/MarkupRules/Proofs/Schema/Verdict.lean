import MarkupRules.Proofs.Schema.Refusal
import MarkupRules.Proofs.Schema.Soundness

/-!
What a schema is refused for.

`Mistake` says what is wrong about an event behind the elements that are open there, without the
builder of models. That builder stops at the first event about which something is wrong, and with
just that error.
-/
namespace MarkupRules.Schema

open Markup (Element Event OpenTag Describes tagPath)

/-- The place of the innermost of open elements. -/
def placeOf (frames : List Element.Frame) : List String :=
  (frames.map fun f => f.tag.name).reverse

/-- What is wrong about an event behind open elements. -/
inductive Mistake : List Element.Frame → Event → Error → Prop where
  | attributes {frames : List Element.Frame} {tag : OpenTag} {e : Error}
      (hAttributes : Constraints.ofAttributes (tagPath (placeOf frames ++ [tag.name]))
        tag.attributes = .error e) :
      Mistake frames (.opening tag) e
  | shape {f : Element.Frame} {outer : List Element.Frame} {c : Constraints} {t : ValueType}
      (hAttributes : Constraints.ofAttributes (tagPath (placeOf (f :: outer))) f.tag.attributes =
        .ok c)
      (hDeclared : c.declared = some t) (hType : t ≠ .map) (hChildren : f.children ≠ []) :
      Mistake (f :: outer) .closing (.conflictingShape (tagPath (placeOf (f :: outer))) t.name)
  | name {f parent : Element.Frame} {outer : List Element.Frame}
      (hShape : FitsShape f.tag.attributes f.children)
      (hTaken : f.tag.name ∈ parent.children.map Element.name) :
      Mistake (f :: parent :: outer) .closing
        (.duplicateRule (tagPath (placeOf (f :: parent :: outer))))

/-- A type conflicts with the shape of its tag just if it is declared, is no map, and the tag has
others inside. -/
theorem resolveType_eq_error_iff {path : String} {declared : Option ValueType} {hasChildren : Bool}
    {e : Error} :
    resolveType path declared hasChildren = .error e ↔ ∃ t, declared = some t ∧ t ≠ .map ∧
      hasChildren = true ∧ e = .conflictingShape path t.name := by
  unfold resolveType
  split
  · simp
  · next t hMap =>
    have hType : t ≠ .map := by
      rintro rfl
      exact hMap rfl
    cases hasChildren with
    | true => simp [hType, eq_comm]
    | false => simp
  · simp

/-- The same for a tag that closes. The error names its path and the type that it declares. -/
theorem PendingRule.close_eq_error_iff {p : PendingRule} {e : Error} :
    p.close = .error e ↔ ∃ t, p.constraints.declared = some t ∧ t ≠ .map ∧ p.children ≠ [] ∧
      e = .conflictingShape p.path t.name := by
  have hChildren : (!p.children.isEmpty) = true ↔ p.children ≠ [] := by simp
  rw [← hChildren, ← resolveType_eq_error_iff, close]
  cases resolveType p.path p.constraints.declared (!p.children.isEmpty) <;> simp [Except.map]

namespace Builder

/-- An opening tag is refused just for its attributes. Its name is looked at only once it closes. -/
theorem opening_eq_error_iff {b : Builder} {tag : OpenTag} {e : Error} :
    b.opening tag = .error e ↔
      Constraints.ofAttributes (pathWithin (b.pending.head?.map (·.path)) tag.name)
        tag.attributes = .error e := by
  unfold opening
  dsimp only
  cases Constraints.ofAttributes (pathWithin (b.pending.head?.map (·.path)) tag.name)
    tag.attributes <;> simp

/-- A closing tag is refused for its shape first, and only then because its name is taken in the tag
around it. -/
theorem closing_eq_error_iff {b : Builder} {p : PendingRule} {outer : List PendingRule} {e : Error}
    (hPending : b.pending = p :: outer) :
    b.closing = .error e ↔ p.close = .error e ∨ (∃ r, p.close = .ok r) ∧
      ¬ Admits { b with pending := outer } p.name ∧ e = .duplicateRule p.path := by
  rw [closing_eq_bind hPending, bind_eq_error_iff]
  refine or_congr_right ?_
  constructor
  · rintro ⟨r, hClose, hEnd⟩
    split at hEnd
    · cases hEnd
    · next hTaken => exact ⟨⟨r, hClose⟩, hTaken, (Except.error.inj hEnd).symm⟩
  · rintro ⟨⟨r, hClose⟩, hTaken, rfl⟩
    exact ⟨r, hClose, if_neg hTaken⟩

end Builder

/-- The tags that a builder has open are those of open elements, at their paths, with the
constraints that they declare and the names of what stands in them. -/
inductive Follows : List PendingRule → List Element.Frame → Prop where
  | nil : Follows [] []
  | cons {p : PendingRule} {f : Element.Frame} {pending : List PendingRule}
      {frames : List Element.Frame} (hOuter : Follows pending frames)
      (hName : p.name = f.tag.name) (hPath : p.path = tagPath (placeOf (f :: frames)))
      (hConstraints : Constraints.ofAttributes p.path f.tag.attributes = .ok p.constraints)
      (hChildren : p.children.map Prod.fst = f.children.map Element.name) :
      Follows (p :: pending) (f :: frames)

namespace Follows

variable {b : Builder} {frames : List Element.Frame}

/-- The path of a tag that opens is that of the tags around it with its own name behind them. -/
theorem pathWithin_eq {pending : List PendingRule} (h : Follows pending frames) (name : String) :
    pathWithin (pending.head?.map (·.path)) name = tagPath (placeOf frames ++ [name]) := by
  cases h with
  | nil => exact (Markup.tagPath_singleton name).symm
  | @cons p f _ outer hOuter hName hPath =>
    have hPlace : placeOf (f :: outer) ≠ [] := by simp [placeOf]
    rw [Markup.tagPath_snoc hPlace, ← hPath]
    rfl

/-- A tag becomes a rule just if its element is a map where it has to be. Nothing else is looked at
when it closes. -/
theorem exists_close_eq_ok_iff {p : PendingRule} {f : Element.Frame}
    (hConstraints : Constraints.ofAttributes p.path f.tag.attributes = .ok p.constraints)
    (hChildren : p.children = [] ↔ f.children = []) :
    (∃ r, p.close = .ok r) ↔ FitsShape f.tag.attributes f.children := by
  constructor
  · rintro ⟨r, hClose⟩ path c t hAttributes hDeclared hInside
    have hSame := Constraints.ofAttributes_of_path hConstraints path
    obtain rfl : p.constraints = c := Except.ok.inj (hSame.symm.trans hAttributes)
    by_contra hType
    have hError : p.close = .error _ := PendingRule.close_eq_error_iff.mpr
      ⟨t, hDeclared, hType, mt hChildren.mp hInside, rfl⟩
    rw [hError] at hClose
    cases hClose
  · intro hShape
    cases hClose : p.close with
    | ok r => exact ⟨r, rfl⟩
    | error e =>
      obtain ⟨t, hDeclared, hType, hInside, -⟩ := PendingRule.close_eq_error_iff.mp hClose
      exact absurd (hShape p.path _ t hConstraints hDeclared (mt hChildren.mpr hInside)) hType

/-- The builder refuses a closing tag just if something is wrong about it. The open elements say it
without the builder. -/
theorem closing_eq_error_iff (h : Follows b.pending frames) {e : Error} :
    b.closing = .error e ↔ Mistake frames .closing e := by
  generalize hPending : b.pending = pending at h
  cases h with
  | nil =>
    have hNothing : b.closing = .ok b := by rw [Builder.closing, hPending]
    rw [hNothing]
    constructor
    · intro hClosing
      cases hClosing
    · intro hMistake
      cases hMistake
  | @cons p f pending outer hOuter hName hPath hConstraints hChildren =>
    have hEmpty : p.children = [] ↔ f.children = [] := by
      rw [← List.map_eq_nil_iff (f := Prod.fst), hChildren, List.map_eq_nil_iff]
    rw [Builder.closing_eq_error_iff hPending, PendingRule.close_eq_error_iff,
      exists_close_eq_ok_iff hConstraints hEmpty]
    constructor
    · rintro (⟨t, hDeclared, hType, hInside, rfl⟩ | ⟨hShape, hTaken, rfl⟩)
      · rw [hPath] at hConstraints ⊢
        exact .shape hConstraints hDeclared hType (mt hEmpty.mpr hInside)
      · rw [hPath]
        cases hOuter with
        | nil => exact absurd (by simp [Builder.Admits]) hTaken
        | @cons q parent pending' outer' _ _ _ _ hNames =>
          refine .name hShape ?_
          rw [← hName, ← hNames]
          by_contra hFree
          refine hTaken fun other hOther => ?_
          obtain rfl : q = other := by simpa using hOther
          exact hFree
    · intro hMistake
      cases hMistake with
      | @shape _ _ c t hAttributes hDeclared hType hInside =>
        rw [← hPath] at hAttributes ⊢
        obtain rfl : p.constraints = c := Except.ok.inj (hConstraints.symm.trans hAttributes)
        exact .inl ⟨t, hDeclared, hType, mt hEmpty.mp hInside, rfl⟩
      | @name _ parent outer' hShape hTaken =>
        rw [← hPath]
        cases hOuter with
        | @cons q _ pending' _ _ _ _ _ hNames =>
          refine .inr ⟨hShape, fun hFree => ?_, rfl⟩
          rw [← hName, ← hNames] at hTaken
          exact hFree q rfl hTaken

/-- The builder turns down an event just if something is wrong about it. -/
theorem step_eq_error_iff (h : Follows b.pending frames) {event : Event} {e : Error} :
    b.step event = .error e ↔ Mistake frames event e := by
  cases event with
  | text s =>
    constructor
    · intro hStep
      cases hStep
    · intro hMistake
      cases hMistake
  | opening tag =>
    rw [Builder.step, Builder.opening_eq_error_iff, h.pathWithin_eq]
    constructor
    · exact .attributes
    · rintro ⟨hAttributes⟩
      exact hAttributes
  | closing => exact h.closing_eq_error_iff

/-- An event that the builder takes in keeps it with the open elements. They are those of the
element under construction. -/
theorem step (h : Follows b.pending frames) {b' : Builder} {event : Event}
    (hStep : b.step event = .ok b') (root : Option Element) :
    Follows b'.pending (Element.Builder.step ⟨frames, root⟩ event).frames := by
  cases event with
  | text s =>
    obtain rfl := Except.ok.inj hStep
    generalize b.pending = pending at h
    cases h with
    | nil => exact .nil
    | cons hOuter hName hPath hConstraints hChildren =>
      exact .cons hOuter hName hPath hConstraints hChildren
  | opening tag =>
    obtain ⟨c, hConstraints, rfl⟩ := (Builder.opening_eq_ok_iff (h.pathWithin_eq tag.name)).mp hStep
    have hPlace : placeOf ({ tag } :: frames) = placeOf frames ++ [tag.name] := by simp [placeOf]
    exact .cons h rfl (congrArg tagPath hPlace).symm hConstraints rfl
  | closing =>
    rw [Builder.step] at hStep
    generalize hPending : b.pending = pending at h
    cases h with
    | nil =>
      rw [Builder.closing, hPending] at hStep
      obtain rfl := Except.ok.inj hStep
      rw [hPending]
      exact .nil
    | @cons p f pending outer hOuter hName hPath hConstraints hChildren =>
      obtain ⟨r, -, -, rfl⟩ := (Builder.closing_eq_ok_iff hPending).mp hStep
      cases hOuter with
      | nil => exact .nil
      | cons hOuter' hName' hPath' hConstraints' hChildren' =>
        refine .cons hOuter' hName' hPath' hConstraints' ?_
        rw [List.map_cons, List.map_cons, hChildren', hName]
        rfl

end Follows

/-- Something is wrong about the event at position `i`. Before the first event the elements of
`start` are open. -/
def MistakeAt (start : Element.Builder) (events : List Event) (i : Nat) (e : Error) : Prop :=
  ∃ event, events[i]? = some event ∧
    Mistake ((events.take i).foldl Element.Builder.step start).frames event e

/-- The first event about which something is wrong. -/
def FirstMistake (start : Element.Builder) (events : List Event) (e : Error) : Prop :=
  ∃ i, MistakeAt start events i e ∧ ∀ j < i, ∀ e', ¬ MistakeAt start events j e'

theorem mistakeAt_zero {start : Element.Builder} {event : Event} {rest : List Event} {e : Error} :
    MistakeAt start (event :: rest) 0 e ↔ Mistake start.frames event e := by
  simp [MistakeAt]

theorem mistakeAt_succ {start : Element.Builder} {event : Event} {rest : List Event} {i : Nat}
    {e : Error} :
    MistakeAt start (event :: rest) (i + 1) e ↔ MistakeAt (start.step event) rest i e := by
  simp [MistakeAt]

/-- The first mistake is at the first event, or that has none and it is the first one of the rest.
-/
theorem firstMistake_cons {start : Element.Builder} {event : Event} {rest : List Event}
    {e : Error} :
    FirstMistake start (event :: rest) e ↔ Mistake start.frames event e ∨
      (∀ e', ¬ Mistake start.frames event e') ∧ FirstMistake (start.step event) rest e := by
  constructor
  · rintro ⟨i, hHere, hBefore⟩
    cases i with
    | zero => exact .inl (mistakeAt_zero.mp hHere)
    | succ i =>
      refine .inr ⟨fun e' hMistake => hBefore 0 (by omega) e' (mistakeAt_zero.mpr hMistake), i,
        mistakeAt_succ.mp hHere, fun j hj e' hMistake => ?_⟩
      exact hBefore (j + 1) (by omega) e' (mistakeAt_succ.mpr hMistake)
  · rintro (hHere | ⟨hNone, i, hThere, hBefore⟩)
    · exact ⟨0, mistakeAt_zero.mpr hHere, fun j hj => absurd hj (Nat.not_lt_zero j)⟩
    · refine ⟨i + 1, mistakeAt_succ.mpr hThere, fun j hj e' hMistake => ?_⟩
      cases j with
      | zero => exact hNone e' (mistakeAt_zero.mp hMistake)
      | succ j => exact hBefore j (by omega) e' (mistakeAt_succ.mp hMistake)

/-- The builder stops at the first event about which something is wrong, and with just that error.
What is wrong further on stays unreported. -/
theorem foldlM_step_eq_error_iff {b : Builder} {start : Element.Builder}
    (h : Follows b.pending start.frames) {events : List Event} {e : Error} :
    events.foldlM Builder.step b = .error e ↔ FirstMistake start events e := by
  induction events generalizing b start with
  | nil =>
    constructor
    · intro hRead
      cases hRead
    · rintro ⟨i, ⟨event, hEvent, -⟩, -⟩
      cases hEvent
  | cons event rest ih =>
    rw [List.foldlM_cons, bind_eq_error_iff, firstMistake_cons, h.step_eq_error_iff]
    refine or_congr_right ?_
    constructor
    · rintro ⟨next, hStep, hRest⟩
      refine ⟨fun e' hMistake => ?_, (ih (h.step hStep start.root)).mp hRest⟩
      rw [h.step_eq_error_iff.mpr hMistake] at hStep
      cases hStep
    · rintro ⟨hNone, hRest⟩
      cases hStep : b.step event with
      | error e' => exact absurd (h.step_eq_error_iff.mp hStep) (hNone e')
      | ok next => exact ⟨next, rfl, (ih (h.step hStep start.root)).mpr hRest⟩

/-- The type of the second `a` is wrong and so is its name; the type counts. -/
example : [Event.opening ⟨"r", [], 1⟩, .opening ⟨"a", [], 1⟩, .closing,
    .opening ⟨"a", [⟨"type", "date"⟩], 1⟩, .opening ⟨"b", [], 1⟩, .closing, .closing].foldlM
      Builder.step {} = .error (.conflictingShape "r.a" "date") := rfl

/-- Where something is wrong there is a first event about which something is. -/
theorem exists_firstMistake {start : Element.Builder} {events : List Event} {i : Nat} {e : Error}
    (h : MistakeAt start events i e) : ∃ e', FirstMistake start events e' := by
  induction i using Nat.strongRecOn generalizing e with
  | ind i ih =>
    by_cases hBefore : ∃ j < i, ∃ e', MistakeAt start events j e'
    · obtain ⟨j, hj, e', hEarlier⟩ := hBefore
      exact ih j hj hEarlier
    · exact ⟨e, i, h, fun j hj e' hEarlier => hBefore ⟨j, hj, e', hEarlier⟩⟩

/-- A feed fails at one of the events, or else with the error of the scan. That one counts only
behind all events. -/
theorem feed_eq_error_iff {σ ε : Type} {scan : Markup.Scan} {ofError : Markup.Error → ε}
    {read : σ → Event → Except ε σ} {initial : σ} {e : ε} :
    scan.feed ofError read initial = .error e ↔ scan.events.foldlM read initial = .error e ∨
      (∃ s, scan.events.foldlM read initial = .ok s) ∧
        ∃ e', scan.error = some e' ∧ e = ofError e' := by
  unfold Markup.Scan.feed
  cases hRead : scan.events.foldlM read initial with
  | error e' => simp
  | ok s =>
    cases hError : scan.error with
    | none => simp
    | some e' => simp [eq_comm]

/-- Compiling fails just as the feed of its scan does. A feed that succeeds always leaves a root. -/
theorem compile_eq_error_iff {text : String} {options : Markup.Options} {e : Error} :
    Model.compile text options = .error e ↔
      (Markup.scan text .boolean options).feed Error.markup Builder.step {} = .error e := by
  unfold Model.compile
  cases hFeed : (Markup.scan text .boolean options).feed Error.markup Builder.step {} with
  | error e' => simp
  | ok b =>
    cases hRoot : b.root with
    | none => exact absurd hRoot (root_ne_none_of_feed hFeed)
    | some root => simp [hRoot]

/-- What the builder is told by an event: the name and the attributes of a tag that opens, or that
one closes. Texts and lines tell it nothing. -/
def Event.notice? : Event → Option (Option (String × List Markup.Attribute))
  | .opening tag => some (some (tag.name, tag.attributes))
  | .text _ => none
  | .closing => some none

/-- The builder behind a notice. -/
def Builder.heed (b : Builder) : Option (String × List Markup.Attribute) → Except Error Builder
  | some (name, attributes) => b.opening ⟨name, attributes, 0⟩
  | none => b.closing

/-- A builder heeds tags only. Texts between them may be left out of the events. -/
theorem Builder.foldlM_step_eq_heed (b : Builder) (events : List Event) :
    events.foldlM step b = (events.filterMap Event.notice?).foldlM heed b := by
  induction events generalizing b with
  | nil => rfl
  | cons event rest ih =>
    have hNext : step b event >>= (fun next => rest.foldlM step next) =
        step b event >>= fun next => (rest.filterMap Event.notice?).foldlM heed next := by
      congr 1
      funext next
      exact ih next
    rw [List.foldlM_cons, hNext]
    cases event <;> rfl

/-- What compiling the text of a schema comes to. -/
structure Verdict (text : String) (options : Markup.Options) (outcome : Except Error Model) :
    Prop where
  accepted : (∃ m, outcome = .ok m) ↔
    (Markup.scan text .boolean options).error = none ∧
    (∀ tag, .opening tag ∈ (Markup.scan text .boolean options).events → Accepted tag.attributes) ∧
    ∃ root, Describes (Markup.scan text .boolean options).events root ∧
      ∀ x, root.Contains x → Arranged x
  refused : ∀ e, outcome = .error e ↔
    FirstMistake {} (Markup.scan text .boolean options).events e ∨
    (∀ i e', ¬ MistakeAt {} (Markup.scan text .boolean options).events i e') ∧
      ∃ e', (Markup.scan text .boolean options).error = some e' ∧ e = .markup e'
  noTexts : ∀ text' options',
    (Markup.scan text' .boolean options').events.filterMap Event.notice? =
      (Markup.scan text .boolean options).events.filterMap Event.notice? →
    (Markup.scan text' .boolean options').error = (Markup.scan text .boolean options).error →
    Model.compile text' options' = outcome

/-- A schema compiles just if its markup is sound and so is every element in it. -/
theorem exists_compile_iff {text : String} {options : Markup.Options} :
    (∃ m, Model.compile text options = .ok m) ↔
      (Markup.scan text .boolean options).error = none ∧
      ∃ root, Describes (Markup.scan text .boolean options).events root ∧
        ∀ x, root.Contains x → Sound x := by
  constructor
  · rintro ⟨m, hCompile⟩
    obtain ⟨hError, e, r, hDescribes, hMirrors, -⟩ := compile_eq_ok_iff.mp hCompile
    exact ⟨hError, e, hDescribes, exists_mirrors_iff.mp ⟨r, hMirrors⟩⟩
  · rintro ⟨hError, root, hDescribes, hSound⟩
    obtain ⟨r, hMirrors⟩ := exists_mirrors_iff.mpr hSound
    exact ⟨_, compile_eq_ok_iff.mpr ⟨hError, root, r, hDescribes, hMirrors, rfl⟩⟩

/-- All events are taken in just if there is no mistake at any of them. -/
theorem foldlM_step_eq_ok_iff {events : List Event} :
    (∃ b : Builder, events.foldlM Builder.step {} = .ok b) ↔ ∀ i e, ¬ MistakeAt {} events i e := by
  have hStart : Follows ({} : Builder).pending ({} : Element.Builder).frames := .nil
  constructor
  · rintro ⟨b, hRead⟩ i e hMistake
    obtain ⟨e', hFirst⟩ := exists_firstMistake hMistake
    rw [(foldlM_step_eq_error_iff hStart).mpr hFirst] at hRead
    cases hRead
  · intro hNone
    cases hRead : events.foldlM Builder.step {} with
    | ok b => exact ⟨b, rfl⟩
    | error e =>
      obtain ⟨i, hMistake, -⟩ := (foldlM_step_eq_error_iff hStart).mp hRead
      exact absurd hMistake (hNone i e)

/-- Just the sound schemas compile, and of another the first mistake is reported. A fault of the
markup comes behind all mistakes in the tags that were read before it. -/
theorem verdict_compile (text : String) (options : Markup.Options) :
    Verdict text options (Model.compile text options) := by
  constructor
  case accepted =>
    rw [exists_compile_iff]
    refine and_congr_right fun _ => ?_
    constructor
    · rintro ⟨root, hDescribes, hSound⟩
      refine ⟨fun tag hMem => ?_, root, hDescribes, fun x hContains => ?_⟩
      · obtain ⟨x, hContains, rfl⟩ := Element.exists_contains_of_opening_mem hDescribes hMem
        exact (hSound x hContains).attributes
      · exact (hSound x hContains).toArranged
    · rintro ⟨hAccepted, root, hDescribes, hArranged⟩
      refine ⟨root, hDescribes, fun x hContains => ⟨hArranged x hContains, ?_⟩⟩
      exact hAccepted x.tag (Element.opening_mem_of_describes hDescribes hContains)
  case refused =>
    intro e
    rw [compile_eq_error_iff, feed_eq_error_iff, foldlM_step_eq_ok_iff]
    exact or_congr_left (foldlM_step_eq_error_iff .nil)
  case noTexts =>
    intro text' options' hEvents hError
    unfold Model.compile Markup.Scan.feed
    rw [Builder.foldlM_step_eq_heed, Builder.foldlM_step_eq_heed, hEvents, hError]

end MarkupRules.Schema
