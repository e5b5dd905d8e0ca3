import MarkupRules.Proofs.Markup.Scan
import MarkupRules.Proofs.Schema.Model

/-!
A compiled model mirrors its schema.

`Mirrors` relates an element to the rule that it declares, without the builder. Taking in the events
of an element succeeds just if there is such a rule, and then adds it, its checks and its number of
tags to what was there.
-/
namespace MarkupRules.Schema

open Markup (OpenTag Event Piece Element Describes)

/-- `Mirrors path e r`: the rule `r` is what the element `e` at `path` declares, at every depth. -/
inductive Mirrors : String → Element → Rule → Prop where
  | mk {path : String} {tag : OpenTag} {texts : List String} {children : List Element}
      {type : ValueType} {constraints : Constraints} {rules : List (String × Rule)}
      (hConstraints : Constraints.ofAttributes path tag.attributes = .ok constraints)
      (hType : type = constraints.declared.getD (if children.isEmpty then .string else .map))
      (hShape : children ≠ [] → type = .map)
      (hNames : rules.map Prod.fst = children.map Element.name)
      (hDistinct : (children.map Element.name).Nodup)
      (hRules : ∀ c x, (c, x) ∈ rules.zip children → Mirrors s!"{path}.{x.name}" x c.2) :
      Mirrors path (.mk tag texts children) (.mk type constraints rules)

/-- Induction on a rule: it follows the rules inside. -/
@[elab_as_elim, induction_eliminator]
theorem Rule.induction {motive : Rule → Prop}
    (mk : ∀ type constraints children, (∀ c ∈ children, motive c.2) →
      motive (.mk type constraints children)) (r : Rule) : motive r :=
  Rule.rec (motive_1 := motive) (motive_2 := fun children => ∀ c ∈ children, motive c.2)
    (motive_3 := fun c => motive c.2) mk (by simp)
    (fun _ _ hChild hRest => List.forall_mem_cons.mpr ⟨hChild, hRest⟩) (fun _ _ hRule => hRule) r

/-- The rules inside a path are walked one after the other, each under its own path. -/
theorem Rule.walkChildren_eq_flatMap (path : String) (children : List (String × Rule)) :
    Rule.walkChildren path children = children.flatMap fun c => c.2.walk s!"{path}.{c.1}" := by
  induction children with
  | nil => rfl
  | cons c rest ih =>
    obtain ⟨name, rule⟩ := c
    rw [Rule.walkChildren, ih, List.flatMap_cons]

theorem Rule.walk_eq (path : String) (r : Rule) :
    r.walk path = (path, r) :: (r.entriesBelow path).flatMap fun entry => entry.2.walk entry.1 := by
  obtain ⟨type, constraints, children⟩ := r
  rw [Rule.walk, Rule.walkChildren_eq_flatMap, Rule.entriesBelow, List.flatMap_map, Rule.children]

/-- What has come off the stack so far and the recursive walks of what is still on it make up the
whole listing. Each turn keeps this, since the rules inside are pushed in the place of the top. -/
theorem Rule.walkStack_eq_flatMap (done stack : List (String × Rule)) :
    Rule.walkStack done stack =
      done.reverse ++ stack.flatMap fun entry => entry.2.walk entry.1 := by
  fun_induction Rule.walkStack done stack with
  | case1 done => simp
  | case2 done path r stack ih =>
    rw [ih, Rule.pushReversed_eq, List.flatMap_append, List.flatMap_cons, Rule.walk_eq]
    simp

/-- A model is walked on a stack, but it is listed as the recursion over its rules lists it. -/
theorem Model.walk_eq (m : Model) : m.walk = m.root.walk m.rootName := by
  rw [Model.walk, Rule.walkStack_eq_flatMap, Rule.pushReversed_eq, Model.top, Rule.children]
  simp

/-- The check that a walked rule asks for. -/
def checkRef? (entry : String × Rule) : Option CheckRef :=
  entry.2.constraints.checkBy.map fun name => ⟨name, entry.1⟩

namespace Builder

/-- Puts the rule of a tag that closes into the tag around it. -/
def put (b : Builder) (name : String) (r : Rule) : Builder :=
  match b.pending with
  | [] => { b with root := some (name, r) }
  | parent :: outer =>
    { b with pending := { parent with children := (name, r) :: parent.children } :: outer }

/-- Notes the checks and the number of walked rules. -/
def note (b : Builder) (entries : List (String × Rule)) : Builder :=
  { b with
    checks := (entries.filterMap checkRef?).reverse ++ b.checks
    size := b.size + entries.length }

/-- Whether a tag of this name may close. -/
def Admits (b : Builder) (name : String) : Prop :=
  ∀ parent ∈ b.pending.head?, name ∉ parent.children.map Prod.fst

/-- The builder once a tag has opened. -/
def enter (b : Builder) (name path : String) (c : Constraints) : Builder :=
  { b with
    pending := { name, path, constraints := c } :: b.pending
    checks := (c.checkBy.map fun check => ⟨check, path⟩).toList ++ b.checks }

/-- A tag opens just if its attributes declare constraints, which are noted with the path then. -/
theorem opening_eq_ok_iff {b b' : Builder} {tag : OpenTag} {path : String}
    (hPath : pathWithin (b.pending.head?.map (·.path)) tag.name = path) :
    b.opening tag = .ok b' ↔ ∃ c, Constraints.ofAttributes path tag.attributes = .ok c ∧
      b' = b.enter tag.name path c := by
  unfold opening
  dsimp only
  rw [hPath]
  cases Constraints.ofAttributes path tag.attributes with
  | error e => simp
  | ok c => simp [enter, eq_comm]

instance (b : Builder) (name : String) : Decidable (b.Admits name) :=
  inferInstanceAs (Decidable (∀ parent ∈ b.pending.head?, name ∉ parent.children.map Prod.fst))

/-- A tag closes in two steps: it becomes a rule, and the rule goes to the tag around it. -/
theorem closing_eq_bind {b : Builder} {p : PendingRule} {outer : List PendingRule}
    (hPending : b.pending = p :: outer) :
    b.closing = p.close >>= fun r =>
      if Admits { b with pending := outer } p.name then
        .ok { put { b with pending := outer } p.name r with size := b.size + 1 }
      else .error (.duplicateRule p.path) := by
  unfold closing
  rw [hPending]
  dsimp only
  cases p.close with
  | error e => rfl
  | ok r =>
    rw [ok_bind]
    cases outer with
    | nil =>
      have hAdmits : Admits { b with pending := [] } p.name := by simp [Admits]
      rw [if_pos hAdmits]
      rfl
    | cons parent outer =>
      have hAdmits : Admits { b with pending := parent :: outer } p.name ↔
          parent.children.lookup p.name = none := by
        rw [Markup.Node.lookup_eq_none_iff]
        simp [Admits]
      simp only [hAdmits]
      cases parent.children.lookup p.name with
      | none => rfl
      | some r' => rfl

/-- A tag closes just if it becomes a rule and no tag beside it has its name. -/
theorem closing_eq_ok_iff {b b' : Builder} {p : PendingRule} {outer : List PendingRule}
    (hPending : b.pending = p :: outer) :
    b.closing = .ok b' ↔ ∃ r, p.close = .ok r ∧ Admits { b with pending := outer } p.name ∧
      b' = { put { b with pending := outer } p.name r with size := b.size + 1 } := by
  rw [closing_eq_bind hPending, bind_eq_ok_iff]
  refine exists_congr fun r => and_congr_right fun _ => ?_
  split
  · next hAdmits => simp [hAdmits, eq_comm]
  · next hAdmits => simp [hAdmits]

end Builder

/-- A tag becomes a rule just if it is a map or has no tags inside. -/
theorem PendingRule.close_eq_ok_iff {p : PendingRule} {r : Rule} :
    p.close = .ok r ↔ ∃ t, t = p.constraints.declared.getD
        (if p.children.isEmpty then .string else .map) ∧ (p.children ≠ [] → t = .map) ∧
      r = .mk t p.constraints p.children.reverse := by
  unfold close
  rw [map_eq_ok_iff]
  simp only [resolveType_eq_ok_iff, and_assoc]
  cases p.children <;> simp [eq_comm]

/-- The rules of tags that stand inside an element, each under the name of its tag. -/
def MirrorsAll (path : String) (rules : List (String × Rule)) (elements : List Element) : Prop :=
  List.Forall₂ (fun c x => c.1 = x.name ∧ Mirrors s!"{path}.{x.name}" x c.2) rules elements

theorem MirrorsAll.names_eq {path : String} {rules : List (String × Rule)}
    {elements : List Element} (h : MirrorsAll path rules elements) :
    rules.map Prod.fst = elements.map Element.name := by
  induction h with
  | nil => rfl
  | cons hHead _ ih => rw [List.map_cons, List.map_cons, hHead.1, ih]

theorem exists_of_mem_forall₂ {α β : Type} {holds : α → β → Prop} {xs : List α} {ys : List β}
    (h : List.Forall₂ holds xs ys) {x : α} (hMem : x ∈ xs) : ∃ y ∈ ys, holds x y := by
  induction h with
  | nil => cases hMem
  | @cons x' y xs ys hHead hTail ih =>
    rcases List.mem_cons.mp hMem with rfl | hRest
    · exact ⟨y, .head _, hHead⟩
    · obtain ⟨y', hMem', hHolds⟩ := ih hRest
      exact ⟨y', .tail _ hMem', hHolds⟩

theorem forall₂_of_names_eq {rules : List (String × Rule)} {elements : List Element}
    {holds : String × Rule → Element → Prop}
    (hNames : rules.map Prod.fst = elements.map Element.name)
    (h : ∀ c x, (c, x) ∈ rules.zip elements → holds c x) :
    List.Forall₂ (fun c x => c.1 = x.name ∧ holds c x) rules elements := by
  have hLength : rules.length = elements.length := by simpa using congrArg List.length hNames
  have hNamed : List.Forall₂ (fun c x => c.1 = x.name) rules elements :=
    List.forall₂_map_left_iff.mp (List.forall₂_map_right_iff.mp (List.forall₂_eq_eq_eq ▸ hNames))
  exact List.forall₂_iff_zip.mpr
    ⟨hLength, fun hMem => ⟨(List.forall₂_iff_zip.mp hNamed).2 hMem, h _ _ hMem⟩⟩

/-- What the rule of an element is, by the constraints of its tag and the rules of its children.
This is the form in which the builder comes to it. -/
theorem mirrors_iff {path : String} {tag : OpenTag} {texts : List String}
    {children : List Element} {r : Rule} :
    Mirrors path (.mk tag texts children) r ↔ ∃ constraints rules,
      Constraints.ofAttributes path tag.attributes = .ok constraints ∧
      MirrorsAll path rules children ∧ (rules.map Prod.fst).Nodup ∧
      ∃ type, type = constraints.declared.getD (if rules.isEmpty then .string else .map) ∧
        (rules ≠ [] → type = .map) ∧ r = .mk type constraints rules := by
  have hEmpty {rules : List (String × Rule)}
      (hNames : rules.map Prod.fst = children.map Element.name) :
      (rules = [] ↔ children = []) ∧ rules.isEmpty = children.isEmpty := by
    have hLength : rules.length = children.length := by simpa using congrArg List.length hNames
    cases rules <;> cases children <;> simp_all
  constructor
  · intro h
    cases h with
    | @mk _ _ _ _ type constraints rules hConstraints hType hShape hNames hDistinct hRules =>
      refine ⟨constraints, rules, hConstraints, forall₂_of_names_eq hNames hRules,
        hNames ▸ hDistinct, type, ?_, ?_, rfl⟩
      · rw [(hEmpty hNames).2, hType]
      · rwa [ne_eq, (hEmpty hNames).1]
  · rintro ⟨constraints, rules, hConstraints, hRules, hDistinct, type, hType, hShape, rfl⟩
    have hNames := hRules.names_eq
    refine .mk hConstraints ?_ ?_ hNames (hNames ▸ hDistinct) fun c x hMem =>
      ((List.forall₂_iff_zip.mp hRules).2 hMem).2
    · rw [← (hEmpty hNames).2, hType]
    · rwa [ne_eq, ← (hEmpty hNames).1]

namespace Builder

/-- The builder behind a whole element at `path` that declares the rule `r`. -/
def attach (b : Builder) (path name : String) (r : Rule) : Builder :=
  (b.put name r).note (r.walk path)

/-- The builder behind elements inside the innermost open tag. -/
def attachAll (b : Builder) (p : PendingRule) (outer : List PendingRule)
    (rules : List (String × Rule)) : Builder :=
  note { b with pending := { p with children := rules.reverse ++ p.children } :: outer }
    (Rule.walkChildren p.path rules)

/-- The rule of an element inside an open tag goes in front of those that went there before. -/
theorem pending_attach {b : Builder} {p : PendingRule} {outer : List PendingRule}
    (hPending : b.pending = p :: outer) (path name : String) (r : Rule) :
    (b.attach path name r).pending = { p with children := (name, r) :: p.children } :: outer := by
  simp [attach, put, note, hPending]

theorem attachAll_cons {b : Builder} {p : PendingRule} {outer : List PendingRule}
    (hPending : b.pending = p :: outer) (name : String) (r : Rule) (rest : List (String × Rule)) :
    b.attachAll p outer ((name, r) :: rest) =
      (b.attach s!"{p.path}.{name}" name r).attachAll
        { p with children := (name, r) :: p.children } outer rest := by
  simp [attachAll, attach, put, note, hPending, Rule.walkChildren, Nat.add_assoc]

/-- Takes in the events of an element just if it declares a rule and its name is not taken. -/
def TakesIn (events : List Event) (e : Element) : Prop :=
  ∀ (b b' : Builder) (path : String), pathWithin (b.pending.head?.map (·.path)) e.name = path →
    (events.foldlM step b = .ok b' ↔
      ∃ r, Mirrors path e r ∧ b.Admits e.name ∧ b' = b.attach path e.name r)

/-- The pieces inside a tag are taken in just if each element among them declares a rule and no name
comes twice. Texts mean nothing. -/
theorem foldlM_step_pieces {pieces : List Piece}
    (inside : ∀ events e, .element events e ∈ pieces → TakesIn events e) {b b' : Builder}
    {p : PendingRule} {outer : List PendingRule} (hPending : b.pending = p :: outer)
    (hNames : (p.children.map Prod.fst).Nodup) :
    (pieces.flatMap Piece.events).foldlM step b = .ok b' ↔
      ∃ rules, MirrorsAll p.path rules (pieces.filterMap Piece.element?) ∧
        ((rules.reverse ++ p.children).map Prod.fst).Nodup ∧ b' = b.attachAll p outer rules := by
  induction pieces generalizing b p with
  | nil =>
    have hNone : b.attachAll p outer [] = b := by
      simp [attachAll, note, Rule.walkChildren, ← hPending]
    constructor
    · rintro ⟨⟩
      exact ⟨[], .nil, by simpa using hNames, hNone.symm⟩
    · rintro ⟨rules, hRules, -, rfl⟩
      cases hRules
      rw [hNone]
      rfl
  | cons piece rest ih =>
    have hRest := fun events e hMem => inside events e (List.mem_cons_of_mem _ hMem)
    rw [List.flatMap_cons, List.foldlM_append, bind_eq_ok_iff]
    cases piece with
    | text s =>
      have hText : [Event.text s].foldlM step b = .ok b := rfl
      simp only [Piece.events, hText, Except.ok.injEq, exists_eq_left', List.filterMap_cons,
        Piece.element?]
      exact ih hRest hPending hNames
    | element events x =>
      have hElement := fun b' => inside events x (.head _) b b' s!"{p.path}.{x.name}"
        (by rw [hPending]; rfl)
      have hAttached := pending_attach hPending s!"{p.path}.{x.name}" x.name
      simp only [Piece.events, List.filterMap_cons, Piece.element?]
      constructor
      · rintro ⟨middle, hMiddle, hBehind⟩
        obtain ⟨r, hMirrors, hAdmits, rfl⟩ := (hElement middle).mp hMiddle
        have hFresh : x.name ∉ p.children.map Prod.fst := hAdmits p (by simp [hPending])
        obtain ⟨rules, hRules, hNodup, rfl⟩ :=
          (ih hRest (hAttached r) (List.nodup_cons.mpr ⟨hFresh, hNames⟩)).mp hBehind
        refine ⟨(x.name, r) :: rules, .cons ⟨rfl, hMirrors⟩ hRules, by simpa using hNodup, ?_⟩
        rw [attachAll_cons hPending]
      · rintro ⟨rules, hRules, hNodup, rfl⟩
        cases hRules with
        | @cons c _ rules _ hHead hTail =>
          obtain ⟨name, r⟩ := c
          obtain ⟨rfl, hMirrors⟩ := hHead
          have hBehind : ((rules.reverse ++ (x.name, r) :: p.children).map Prod.fst).Nodup := by
            simpa using hNodup
          have hCons : (((x.name, r) :: p.children).map Prod.fst).Nodup := by
            rw [List.map_append] at hBehind
            exact (List.nodup_append.mp hBehind).2.1
          refine ⟨_, (hElement _).mpr ⟨r, hMirrors, ?_, rfl⟩,
            (ih hRest (hAttached r) hCons).mpr ⟨rules, hTail, hBehind, ?_⟩⟩
          · intro parent hParent
            obtain rfl : p = parent := by simpa [hPending] using hParent
            exact (List.nodup_cons.mp hCons).1
          · rw [attachAll_cons hPending]

/-- A tag into which rules have gone closes just if they may stand inside it and its own name is
free. -/
theorem closing_attachAll {b b' : Builder} {name path : String} {c : Constraints}
    {rules : List (String × Rule)} :
    ((b.enter name path c).attachAll ⟨name, path, c, []⟩ b.pending rules).closing = .ok b' ↔
      b.Admits name ∧ ∃ type, type = c.declared.getD (if rules.isEmpty then .string else .map) ∧
        (rules ≠ [] → type = .map) ∧ b' = b.attach path name (.mk type c rules) := by
  have hShape : rules.reverse.isEmpty = rules.isEmpty := by simp
  have hNote (type : ValueType) :
      { put { (b.enter name path c).attachAll ⟨name, path, c, []⟩ b.pending rules with
          pending := b.pending } name (.mk type c rules) with
        size := ((b.enter name path c).attachAll ⟨name, path, c, []⟩ b.pending rules).size + 1 } =
      b.attach path name (.mk type c rules) := by
    cases hPending : b.pending <;> cases hCheck : c.checkBy <;>
      simp [enter, attachAll, attach, note, put, Rule.walk, checkRef?, Rule.constraints,
        hPending, hCheck, Nat.add_assoc]
  rw [closing_eq_ok_iff rfl]
  simp only [PendingRule.close_eq_ok_iff, List.append_nil, hShape, List.reverse_reverse, ne_eq,
    List.reverse_eq_nil_iff]
  constructor
  · rintro ⟨_, ⟨type, hType, hMap, rfl⟩, hAdmits, rfl⟩
    exact ⟨hAdmits, type, hType, hMap, hNote type⟩
  · rintro ⟨hAdmits, type, hType, hMap, rfl⟩
    exact ⟨_, ⟨type, hType, hMap, rfl⟩, hAdmits, (hNote type).symm⟩

/-- The events of an element are taken in just if it declares a rule, and then add this rule, its
checks and its number of tags to what was there. -/
theorem takesIn_of_describes {events : List Event} {e : Element} (h : Describes events e) :
    TakesIn events e := by
  induction h with
  | mk tag pieces inside ih =>
    intro b b' path hPath
    have hWithin : pathWithin (b.pending.head?.map (·.path)) tag.name = path := hPath
    have hInside (c : Constraints) (filled : Builder) :
        (pieces.flatMap Piece.events).foldlM step (b.enter tag.name path c) = .ok filled ↔ _ :=
      foldlM_step_pieces ih (p := ⟨tag.name, path, c, []⟩) rfl List.nodup_nil
    simp only [List.append_nil, List.map_reverse, List.nodup_reverse] at hInside
    simp only [List.foldlM_cons, List.foldlM_append, List.foldlM_nil, bind_eq_ok_iff, step,
      opening_eq_ok_iff hWithin, mirrors_iff]
    constructor
    · rintro ⟨_, ⟨c, hConstraints, rfl⟩, filled, hFilled, _, hEnd, ⟨⟩⟩
      obtain ⟨rules, hRules, hDistinct, rfl⟩ := (hInside c filled).mp hFilled
      obtain ⟨hAdmits, type, hType, hMap, rfl⟩ := closing_attachAll.mp hEnd
      exact ⟨_, ⟨c, rules, hConstraints, hRules, hDistinct, type, hType, hMap, rfl⟩, hAdmits, rfl⟩
    · rintro ⟨_, ⟨c, rules, hConstraints, hRules, hDistinct, type, hType, hMap, rfl⟩, hAdmits, rfl⟩
      exact ⟨_, ⟨c, hConstraints, rfl⟩, _, (hInside c _).mpr ⟨rules, hRules, hDistinct, rfl⟩, _,
        closing_attachAll.mpr ⟨hAdmits, type, hType, hMap, rfl⟩, rfl⟩

end Builder

end MarkupRules.Schema
