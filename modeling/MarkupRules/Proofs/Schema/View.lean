import MarkupRules.Proofs.Markup.TagReplaced
import MarkupRules.Proofs.Schema.Rearranged
import MarkupRules.Proofs.Schema.Soundness

/-!
Models as a view of constraints shows them.

A view keeps of each tag's constraints what decides how rules are put together. Where one tag of a
schema declares other constraints that the view does not tell from the first, the schema compiles
as before, to a model that the view does not tell from the first either.
-/
namespace MarkupRules.Schema

open Markup (Attribute AttributeMode Event TagReplaced)

variable {view : Constraints → Constraints}

/-- A view that keeps the type and the check that a tag asks for. -/
structure IsView (view : Constraints → Constraints) : Prop where
  declared (c : Constraints) : (view c).declared = c.declared
  checkBy (c : Constraints) : (view c).checkBy = c.checkBy

mutual
/-- A rule with the constraints that a view shows, at every depth. -/
def Rule.seen (view : Constraints → Constraints) : Rule → Rule
  | .mk type constraints children => .mk type (view constraints) (seenChildren view children)

/-- The same for rules under names. -/
def Rule.seenChildren (view : Constraints → Constraints) :
    List (String × Rule) → List (String × Rule)
  | [] => []
  | (name, rule) :: rest => (name, rule.seen view) :: seenChildren view rest
end

/-- A named rule as a view shows it. -/
def seenEntry (view : Constraints → Constraints) (c : String × Rule) : String × Rule :=
  (c.1, c.2.seen view)

/-- An open tag as a view shows it. -/
def PendingRule.seen (view : Constraints → Constraints) (p : PendingRule) : PendingRule :=
  { p with constraints := view p.constraints, children := p.children.map (seenEntry view) }

/-- A model under construction as a view shows it. -/
def Builder.seen (view : Constraints → Constraints) (b : Builder) : Builder :=
  { b with
    pending := b.pending.map (PendingRule.seen view)
    root := b.root.map (seenEntry view) }

/-- A model as a view shows it. -/
def Model.seen (view : Constraints → Constraints) (m : Model) : Model :=
  { m with root := m.root.seen view }

theorem Rule.seenChildren_eq_map (children : List (String × Rule)) :
    seenChildren view children = children.map (seenEntry view) := by
  induction children with
  | nil => rfl
  | cons c rest ih => rw [seenChildren, ih, List.map_cons, seenEntry]

theorem map_fst_seenEntry (children : List (String × Rule)) :
    (children.map (seenEntry view)).map Prod.fst = children.map Prod.fst := by
  rw [List.map_map]
  rfl

/-- A view changes the constraints of a rule and goes on to the rules inside. The type of the rule
stays. -/
theorem Rule.seen_mk (type : ValueType) (constraints : Constraints)
    (children : List (String × Rule)) : (Rule.mk type constraints children).seen view =
      .mk type (view constraints) (children.map (seenEntry view)) := by
  rw [seen, seenChildren_eq_map]

/-- The view that shows everything changes nothing. -/
theorem Rule.seen_id (r : Rule) : r.seen id = r := by
  induction r with
  | mk type constraints children ih =>
    have hChildren : children.map (seenEntry id) = children := by
      refine (List.map_congr_left fun c hMem => ?_).trans (List.map_id children)
      rw [seenEntry, ih c hMem]
      rfl
    rw [seen_mk, hChildren]
    rfl

/-- A view keeps the names, so a name is free under it just if it was free before. -/
theorem Builder.admits_seen (b : Builder) (name : String) :
    (b.seen view).Admits name ↔ b.Admits name := by
  obtain ⟨pending, root, checks, size⟩ := b
  cases pending with
  | nil => simp [Admits, seen]
  | cons parent outer => simp [Admits, seen, PendingRule.seen, seenEntry]

theorem Builder.put_seen (b : Builder) (name : String) (r : Rule) :
    (b.seen view).put name (r.seen view) = (b.put name r).seen view := by
  obtain ⟨pending, root, checks, size⟩ := b
  cases pending <;> rfl

namespace IsView

variable (hView : IsView view)
include hView

/-- Closing a tag does not depend on what a view leaves out, because the type that the tag declares
is shown. -/
theorem close_seen (p : PendingRule) : (p.seen view).close = p.close.map (Rule.seen view) := by
  unfold PendingRule.close PendingRule.seen
  rw [hView.declared, List.isEmpty_map]
  cases resolveType p.path p.constraints.declared (!p.children.isEmpty) with
  | error e => rfl
  | ok type => simp [Except.map, Rule.seen_mk]

/-- A tag opens with its constraints as the view shows them, and everything that was pending stays
as it was shown. -/
theorem enter_seen (b : Builder) (name path : String) (c : Constraints) :
    (b.enter name path c).seen view = (b.seen view).enter name path (view c) := by
  simp [Builder.enter, Builder.seen, PendingRule.seen, hView.checkBy]

/-- A closing tag succeeds under a view just if it does without, with the same error if it fails. -/
theorem closing_seen (b : Builder) : (b.seen view).closing = b.closing.map (Builder.seen view) := by
  cases hPending : b.pending with
  | nil => simp [Builder.closing, Builder.seen, hPending, Except.map]
  | cons p outer =>
    have hSeen : (b.seen view).pending = p.seen view :: outer.map (PendingRule.seen view) := by
      simp [Builder.seen, hPending]
    rw [Builder.closing_eq_bind hSeen, Builder.closing_eq_bind hPending, hView.close_seen]
    cases p.close with
    | error e => rfl
    | ok r =>
      show (if (Builder.seen view { b with pending := outer }).Admits p.name then
          .ok { (Builder.seen view { b with pending := outer }).put p.name (r.seen view) with
            size := b.size + 1 }
        else .error (Error.duplicateRule p.path)) = Except.map _ (if _ then _ else _)
      simp only [Builder.admits_seen, Builder.put_seen]
      split <;> rfl

/-- Models under construction that a view does not tell apart stay so. An event that the one takes
in is taken in by the other too. -/
theorem exists_step {b b' next : Builder} (hSame : b.seen view = b'.seen view) {event : Event}
    (hStep : b.step event = .ok next) :
    ∃ next', b'.step event = .ok next' ∧ next.seen view = next'.seen view := by
  cases event with
  | text s =>
    obtain rfl := Except.ok.inj hStep
    exact ⟨b', rfl, hSame⟩
  | opening tag =>
    have hPath (b : Builder) :
        (b.seen view).pending.head?.map (·.path) = b.pending.head?.map (·.path) := by
      rw [Builder.seen, List.head?_map, Option.map_map]
      rfl
    have hOuter : pathWithin (b'.pending.head?.map (·.path)) tag.name =
        pathWithin (b.pending.head?.map (·.path)) tag.name := by
      rw [← hPath b', ← hSame, hPath b]
    obtain ⟨c, hConstraints, rfl⟩ := (Builder.opening_eq_ok_iff rfl).mp hStep
    refine ⟨_, (Builder.opening_eq_ok_iff hOuter).mpr ⟨c, hConstraints, rfl⟩, ?_⟩
    rw [hView.enter_seen, hView.enter_seen, hSame]
  | closing =>
    have hSeen := hView.closing_seen b'
    have hClosing : b.closing = .ok next := hStep
    rw [← hSame, hView.closing_seen b, hClosing] at hSeen
    obtain ⟨next', hClosing', hNext⟩ := map_eq_ok_iff.mp hSeen.symm
    exact ⟨next', hClosing', hNext.symm⟩

/-- The same holds for any number of events. The models that come out are again not told apart by
the view. -/
theorem exists_foldlM_step {b b' last : Builder} (hSame : b.seen view = b'.seen view)
    {events : List Event} (hSteps : events.foldlM Builder.step b = .ok last) :
    ∃ last', events.foldlM Builder.step b' = .ok last' ∧ last.seen view = last'.seen view := by
  induction events generalizing b b' with
  | nil =>
    obtain rfl := Except.ok.inj hSteps
    exact ⟨b', rfl, hSame⟩
  | cons event rest ih =>
    rw [List.foldlM_cons] at hSteps
    obtain ⟨next, hStep, hRest⟩ := bind_eq_ok_iff.mp hSteps
    obtain ⟨next', hStep', hNext⟩ := hView.exists_step hSame hStep
    obtain ⟨last', hRest', hLast⟩ := ih hNext hRest
    rw [List.foldlM_cons]
    exact ⟨last', bind_eq_ok_iff.mpr ⟨next', hStep', hRest'⟩, hLast⟩

end IsView

/-- The constraints that a start tag with this content declares. -/
def Declares (content : List Char) (c : Constraints) : Prop :=
  ∃ attributes, Attribute.ofTag .boolean content = .ok attributes ∧
    ∀ path, Constraints.ofAttributes path attributes = .ok c

/-- What a start tag with this content declares, one with that content declares as well, as far as
the view shows. -/
def Covers (view : Constraints → Constraints) (content content' : List Char) : Prop :=
  ∀ c, Declares content c → ∃ c', Declares content' c' ∧ view c' = view c

/-- The constraints that attributes declare are declared at whatever path. A path appears in errors
only. -/
theorem declares_of_ofAttributes {content : List Char} {attributes : List Attribute} {path : String}
    {c : Constraints} (hRead : Attribute.ofTag .boolean content = .ok attributes)
    (h : Constraints.ofAttributes path attributes = .ok c) : Declares content c :=
  ⟨attributes, hRead, Constraints.ofAttributes_of_path h⟩

theorem Builder.model?_seen (b : Builder) :
    (b.seen view).model? = b.model?.map (Model.seen view) := by
  rw [model?, model?, seen, Option.map_map, Option.map_map]
  rfl

namespace IsView

variable (hView : IsView view)
include hView

/-- One tag among the events may declare other constraints that the view shows alike. -/
theorem exists_foldlM_step_replaced {start last : Builder} {lead trail : List Event}
    {name : String} {attributes : List Attribute}
    (hSteps : (lead ++ .opening ⟨name, attributes, 0⟩ :: trail).foldlM Builder.step start =
      .ok last) :
    ∃ path c, Constraints.ofAttributes path attributes = .ok c ∧
      ∀ attributes' c', Constraints.ofAttributes path attributes' = .ok c' → view c' = view c →
        ∃ last', (lead ++ .opening ⟨name, attributes', 0⟩ :: trail).foldlM Builder.step start =
          .ok last' ∧ last.seen view = last'.seen view := by
  rw [List.foldlM_append, bind_eq_ok_iff] at hSteps
  obtain ⟨outer, hLead, hSteps⟩ := hSteps
  rw [List.foldlM_cons, bind_eq_ok_iff] at hSteps
  obtain ⟨inner, hOpening, hTrail⟩ := hSteps
  obtain ⟨c, hConstraints, rfl⟩ := (Builder.opening_eq_ok_iff rfl).mp hOpening
  refine ⟨_, c, hConstraints, fun attributes' c' hConstraints' hSame => ?_⟩
  have hEnter (path : String) : (outer.enter name path c).seen view =
      (outer.enter name path c').seen view := by
    rw [hView.enter_seen, hView.enter_seen, hSame]
  obtain ⟨last', hTrail', hLast⟩ := hView.exists_foldlM_step (hEnter _) hTrail
  refine ⟨last', ?_, hLast⟩
  rw [List.foldlM_append, hLead, ok_bind, List.foldlM_cons]
  exact bind_eq_ok_iff.mpr
    ⟨_, (Builder.opening_eq_ok_iff rfl).mpr ⟨c', hConstraints', rfl⟩, hTrail'⟩

/-- A schema in which a tag is replaced by one that declares the same, as far as a view shows,
compiles to the same model, as far as the view shows. -/
theorem exists_compile {related : List Char → List Char → Prop}
    (hCovers : ∀ content content', related content content' → Covers view content content')
    {text text' : String} (h : TagReplaced related text text') {options : Markup.Options}
    {m : Model} (hCompile : Model.compile text options = .ok m) :
    ∃ m', Model.compile text' options = .ok m' ∧ m'.seen view = m.seen view := by
  obtain ⟨b, hModel, hFeed⟩ := compile_eq_ok_iff_model?.mp hCompile
  obtain ⟨hSteps, hError⟩ := feed_eq_ok_iff.mp hFeed
  cases h with
  | mk after hBefore hTag hTag' hName hRelated =>
    obtain ⟨lead, name, attributes, trail, hRead, hEvents, hReplaced⟩ :=
      Markup.scan_of_tagReplaced after hBefore hTag hTag' hName hError
    rw [← Builder.foldlM_step_bare, hEvents] at hSteps
    obtain ⟨path, c, hConstraints, hAgain⟩ := hView.exists_foldlM_step_replaced hSteps
    obtain ⟨c', ⟨attributes', hRead', hConstraints'⟩, hSame⟩ :=
      hCovers _ _ hRelated c (declares_of_ofAttributes hRead hConstraints)
    obtain ⟨b', hSteps', hSeen⟩ := hAgain attributes' c' (hConstraints' path) hSame
    obtain ⟨hError', hEvents'⟩ := hReplaced attributes' hRead'
    rw [← hEvents', Builder.foldlM_step_bare] at hSteps'
    have hModels : b'.model?.map (Model.seen view) = some (m.seen view) := by
      rw [← Builder.model?_seen, ← hSeen, Builder.model?_seen, hModel, Option.map_some]
    obtain ⟨m', hModel', hSeenModel⟩ := Option.map_eq_some_iff.mp hModels
    exact ⟨m', compile_eq_ok_iff_model?.mpr ⟨b', hModel', feed_eq_ok_iff.mpr ⟨hSteps', hError'⟩⟩,
      hSeenModel⟩

end IsView

end MarkupRules.Schema
