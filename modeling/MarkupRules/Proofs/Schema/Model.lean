import MarkupRules.Proofs.Except
import MarkupRules.Proofs.Markup.Node
import MarkupRules.Schema.Model

/-!
What holds of every model that was compiled.

A tag of a schema declares each tag inside it once, and a tag with tags inside it is a
map. Both are kept by the builder at every event, so that they hold at every depth.
-/
namespace MarkupRules.Schema

/-- At every depth of a rule the tags inside have distinct names, and only a map has any. -/
inductive Rule.WellFormed : Rule → Prop where
  | mk {type : ValueType} {constraints : Constraints} {children : List (String × Rule)}
      (hNames : (children.map Prod.fst).Nodup) (hShape : children ≠ [] → type = .map)
      (hChildren : ∀ c ∈ children, WellFormed c.2) :
      WellFormed (.mk type constraints children)

namespace Rule.WellFormed

variable {r : Rule}

theorem nodup_names (h : r.WellFormed) : (r.children.map Prod.fst).Nodup := by
  cases h with
  | mk hNames => exact hNames

/-- Only a map has tags inside it, so a rule of any other type has none. -/
theorem children_eq_nil (h : r.WellFormed) (hType : r.type ≠ .map) : r.children = [] := by
  cases h with
  | mk hNames hShape =>
    by_contra hChildren
    exact hType (hShape hChildren)

theorem child (h : r.WellFormed) {name : String} {c : Rule} (hChild : r.child? name = some c) :
    c.WellFormed := by
  have hMem := Markup.Node.mem_of_lookup hChild
  cases h with
  | mk hNames hShape hChildren => exact hChildren _ hMem

end Rule.WellFormed

/-- A tag has the type that it declares, or else a map where there are tags inside and a text where
not. Another type than a map is refused where there are tags inside. -/
theorem resolveType_eq_ok_iff {path : String} {declared : Option ValueType} {hasChildren : Bool}
    {t : ValueType} :
    resolveType path declared hasChildren = .ok t ↔
      t = declared.getD (if hasChildren then .map else .string) ∧
        (hasChildren = true → t = .map) := by
  unfold resolveType
  split
  · constructor
    · rintro ⟨⟩
      exact ⟨rfl, fun _ => rfl⟩
    · rintro ⟨rfl, -⟩
      rfl
  · next t' hMap =>
    cases hasChildren with
    | true =>
      simp only [if_true, reduceCtorEq, Option.getD_some, true_implies, false_iff, not_and]
      rintro rfl
      exact hMap
    | false => simp [eq_comm]
  · cases hasChildren <;> simp [eq_comm]

/-- The rules inside an open tag, so far, are well-formed and have distinct names. -/
structure PendingRule.WellFormed (p : PendingRule) : Prop where
  names : (p.children.map Prod.fst).Nodup
  children : ∀ c ∈ p.children, c.2.WellFormed

/-- The rule of a tag that closes is well-formed, if the rules inside are and have distinct names.
-/
theorem PendingRule.WellFormed.close {p : PendingRule} (h : p.WellFormed) {r : Rule}
    (hClose : p.close = .ok r) : r.WellFormed := by
  obtain ⟨t, hType, rfl⟩ := map_eq_ok_iff.mp hClose
  constructor
  case hNames =>
    rw [List.map_reverse]
    exact List.nodup_reverse.mpr h.names
  case hShape =>
    intro hChildren
    have hSome : (!p.children.isEmpty) = true := by simpa using hChildren
    rw [hSome] at hType
    exact (resolveType_eq_ok_iff.mp hType).2 rfl
  case hChildren =>
    intro c hChild
    exact h.children c (List.mem_reverse.mp hChild)

/-- A tag goes into the tag around it only if no tag there has its name. -/
theorem PendingRule.WellFormed.add {parent : PendingRule} (h : parent.WellFormed) {name : String}
    {r : Rule} (hFresh : parent.children.lookup name = none) (hRule : r.WellFormed) :
    PendingRule.WellFormed { parent with children := (name, r) :: parent.children } := by
  constructor
  case names =>
    rw [List.map_cons, List.nodup_cons]
    exact ⟨Markup.Node.lookup_eq_none_iff.mp hFresh, h.names⟩
  case children =>
    intro c hChild
    rcases List.mem_cons.mp hChild with rfl | hOld
    · exact hRule
    · exact h.children c hOld

/-- Everything that a model under construction holds is well-formed. -/
structure Builder.WellFormed (b : Builder) : Prop where
  pending : ∀ p ∈ b.pending, p.WellFormed
  root : ∀ name r, b.root = some (name, r) → r.WellFormed

namespace Builder.WellFormed

variable {b b' : Builder}

theorem start : Builder.WellFormed {} := ⟨by simp, by simp⟩

/-- A tag that opens leaves the builder well-formed, as it brings no rules yet. -/
theorem opening (h : b.WellFormed) {tag : Markup.OpenTag} (hStep : b.opening tag = .ok b') :
    b'.WellFormed := by
  unfold Builder.opening at hStep
  dsimp only at hStep
  split at hStep
  · cases hStep
  · obtain rfl := Except.ok.inj hStep
    refine ⟨fun p hPending => ?_, h.root⟩
    rcases List.mem_cons.mp hPending with rfl | hOuter
    · exact ⟨by simp, by simp⟩
    · exact h.pending p hOuter

/-- A tag that closes leaves the builder well-formed, or the builder refuses it. -/
theorem closing (h : b.WellFormed) (hStep : b.closing = .ok b') : b'.WellFormed := by
  unfold Builder.closing at hStep
  split at hStep
  · obtain rfl := Except.ok.inj hStep
    exact h
  · next p outer hPending =>
    have hOpen := hPending ▸ h.pending
    split at hStep
    · cases hStep
    · next rule hClose =>
      obtain rfl := Except.ok.inj hStep
      refine ⟨by simp, fun name r hRoot => ?_⟩
      obtain ⟨-, rfl⟩ := Prod.mk.inj (Option.some.inj hRoot)
      exact (hOpen p (.head _)).close hClose
    · next rule parent outer hClose =>
      split at hStep
      · cases hStep
      · next hFresh =>
        obtain rfl := Except.ok.inj hStep
        refine ⟨fun q hq => ?_, h.root⟩
        rcases List.mem_cons.mp hq with rfl | hOuter
        · exact (hOpen parent (.tail _ (.head _))).add (Option.not_isSome_iff_eq_none.mp hFresh)
            ((hOpen p (.head _)).close hClose)
        · exact hOpen q (.tail _ (.tail _ hOuter))

/-- Every event that is taken in leaves the builder well-formed. -/
theorem step (h : b.WellFormed) {event : Markup.Event} (hStep : b.step event = .ok b') :
    b'.WellFormed := by
  cases event with
  | opening tag => exact h.opening hStep
  | text s => exact Except.ok.inj hStep ▸ h
  | closing => exact h.closing hStep

/-- Events that are all taken in leave the builder well-formed, by induction on them. -/
theorem foldlM_step (h : b.WellFormed) {events : List Markup.Event}
    (hSteps : events.foldlM Builder.step b = .ok b') : b'.WellFormed := by
  induction events generalizing b with
  | nil => exact Except.ok.inj hSteps ▸ h
  | cons event rest ih =>
    rw [List.foldlM_cons] at hSteps
    obtain ⟨next, hStep, hRest⟩ := bind_eq_ok_iff.mp hSteps
    exact ih (h.step hStep) hRest

end Builder.WellFormed

/-- A feed that ends well has handed over all events of a scan that ended well. The state at the end
is that behind the last event. -/
theorem feed_eq_ok {σ ε : Type} {scan : Markup.Scan} {ofError : Markup.Error → ε}
    {read : σ → Markup.Event → Except ε σ} {initial final : σ}
    (h : scan.feed ofError read initial = .ok final) :
    scan.events.foldlM read initial = .ok final ∧ scan.error = none := by
  unfold Markup.Scan.feed at h
  split at h
  · cases h
  · cases h
  · next hRead hError => exact ⟨hRead.trans h, hError⟩

/-- A compiled model is well-formed at every depth: siblings have distinct names, and only maps have
tags inside. -/
theorem wellFormed_of_compile {text : String} {options : Markup.Options} {m : Model}
    (h : Model.compile text options = .ok m) : m.root.WellFormed := by
  unfold Model.compile at h
  split at h
  · cases h
  · next b hFeed =>
    have hBuilt := Builder.WellFormed.start.foldlM_step (feed_eq_ok hFeed).1
    split at h
    · next name rule hRoot =>
      obtain rfl := Except.ok.inj h
      exact hBuilt.root name rule hRoot
    · cases h

end MarkupRules.Schema
