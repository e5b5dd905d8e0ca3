import MarkupRules.Proofs.Validation.CustomChecks
import MarkupRules.Proofs.Validation.Follow

/-!
What a single bound of a rule adds to a report.

A bound that does not make its tag required can be dropped on its own. A walk then goes to the same
places, and what is reported at each of them stays as it was, but for the failures of the bound at
the places of its rule, which are cut out.
-/
namespace MarkupRules.Schema

/-- A bound that a rule may have, of those that do not make its tag required. -/
inductive Bound where
  | minLength
  | maxLength
  | length
  | pattern
  | fixed
  | oneOf
  | min
  | max
  | maxOccurs
  deriving DecidableEq

/-- The code of the failures of a bound. -/
def Bound.code : Bound → String
  | minLength => "minLength"
  | maxLength => "maxLength"
  | length => "length"
  | pattern => "pattern"
  | fixed => "fixed"
  | oneOf => "in"
  | min => "min"
  | max => "max"
  | maxOccurs => "maxOccurs"

/-- The constraints without a bound. -/
def Constraints.without (c : Constraints) : Bound → Constraints
  | .minLength => { c with minLength := none }
  | .maxLength => { c with maxLength := none }
  | .length => { c with length := none }
  | .pattern => { c with pattern := none }
  | .fixed => { c with fixed := none }
  | .oneOf => { c with oneOf := none }
  | .min => { c with min := none }
  | .max => { c with max := none }
  | .maxOccurs => { c with maxOccurs := none }

/-- Changes the value that a name is looked up to. -/
def alter {α : Type} (name : String) (change : α → α) : List (String × α) → List (String × α)
  | [] => []
  | (n, value) :: rest =>
    if n = name then (n, change value) :: rest else (n, value) :: alter name change rest

/-- The rule with a bound dropped at the rule inside it that tags lead to. -/
def Rule.without (k : Bound) : List String → Rule → Rule
  | [], .mk type constraints children => .mk type (constraints.without k) children
  | name :: place, .mk type constraints children =>
    .mk type constraints (alter name (Rule.without k place) children)

/-- The model with a bound dropped at the rule that tags lead to from its root. -/
def Model.without (m : Model) (k : Bound) (place : List String) : Model :=
  { m with root := m.root.without k place }

/-- Changing a value leaves all names in their places. -/
theorem map_fst_alter {α : Type} (name : String) (change : α → α) (entries : List (String × α)) :
    (alter name change entries).map Prod.fst = entries.map Prod.fst := by
  induction entries with
  | nil => rfl
  | cons e rest ih =>
    rw [alter]
    split
    · rfl
    · rw [List.map_cons, List.map_cons, ih]

/-- A name is looked up to its changed value. The other names are looked up as before. -/
theorem lookup_alter {α : Type} (name : String) (change : α → α) (entries : List (String × α))
    (key : String) :
    (alter name change entries).lookup key =
      if key = name then (entries.lookup key).map change else entries.lookup key := by
  induction entries with
  | nil => simp [alter]
  | cons e rest ih =>
    rw [alter, Markup.Node.lookup_cons_eq_ite]
    split
    · next hName =>
      subst hName
      rw [Markup.Node.lookup_cons_eq_ite]
      by_cases hKey : key = e.1
      · simp [hKey]
      · simp [hKey]
    · next hName =>
      rw [Markup.Node.lookup_cons_eq_ite, ih]
      by_cases hKey : key = e.1
      · simp [hKey, hName]
      · simp [hKey]

namespace Rule

variable (k : Bound) (place : List String) (rule : Rule)

@[simp] theorem type_without : (rule.without k place).type = rule.type := by
  cases rule
  cases place <;> rfl

@[simp] theorem names_without :
    (rule.without k place).children.map Prod.fst = rule.children.map Prod.fst := by
  cases rule
  cases place with
  | nil => rfl
  | cons name place => exact map_fst_alter name _ _

theorem constraints_without_here :
    (rule.without k []).constraints = rule.constraints.without k := by
  cases rule
  rfl

theorem constraints_without_inside (name : String) :
    (rule.without k (name :: place)).constraints = rule.constraints := by
  cases rule
  rfl

@[simp] theorem isRepeatable_without : (rule.without k place).isRepeatable = rule.isRepeatable := by
  cases rule
  cases place with
  | nil => cases k <;> rfl
  | cons name place => rfl

@[simp] theorem isRequired_without : (rule.without k place).isRequired = rule.isRequired := by
  cases rule
  cases place with
  | nil => cases k <;> rfl
  | cons name place => rfl

@[simp] theorem checkBy_without :
    (rule.without k place).constraints.checkBy = rule.constraints.checkBy := by
  cases rule
  cases place with
  | nil => cases k <;> rfl
  | cons name place => rfl

theorem child?_without_here (key : String) : (rule.without k []).child? key = rule.child? key := by
  cases rule
  rfl

theorem child?_without_inside (name key : String) :
    (rule.without k (name :: place)).child? key =
      if key = name then (rule.child? key).map (without k place) else rule.child? key := by
  cases rule
  exact lookup_alter name _ _ key

@[simp] theorem any_isRequired_without (key : String) :
    ((rule.without k place).child? key).any isRequired = (rule.child? key).any isRequired := by
  cases place with
  | nil => rw [child?_without_here]
  | cons name place =>
    rw [child?_without_inside]
    split
    · rw [Option.any_map]
      congr
      funext child
      exact isRequired_without k place child
    · rfl

end Rule

end MarkupRules.Schema

namespace MarkupRules.Schema.Bound

open Validation

/-- What a bound is held against. -/
inductive Subject where
  | text (s : String)
  | number (x : Number.Double)
  /-- How often a tag comes. -/
  | count (n : Nat)

/-- The failures of a bound. There are none if there is no such bound, or if it is not on what it is
held against. -/
def turnsDown (c : Constraints) (path : String) : Subject → Bound → List Failure
  | .text s, minLength =>
    violation "minLength" path (.string s) c.minLength (Predicate.minLength · s) .ofNat
  | .text s, maxLength =>
    violation "maxLength" path (.string s) c.maxLength (Predicate.maxLength · s) .ofNat
  | .text s, length => violation "length" path (.string s) c.length (Predicate.length · s) .ofNat
  | .text s, pattern =>
    violation "pattern" path (.string s) c.pattern (Pattern.isMatch · s) (.string ·.source)
  | .text s, fixed => violation "fixed" path (.string s) c.fixed (Predicate.fixed · s) .string
  | .text s, oneOf => violation "in" path (.string s) c.oneOf (Predicate.oneOf · s) .string
  | .number x, min => violation "min" path (.ofDouble x) c.min (Predicate.min · x) .ofDouble
  | .number x, max => violation "max" path (.ofDouble x) c.max (Predicate.max · x) .ofDouble
  | .count n, maxOccurs =>
    violation "maxOccurs" path (.ofNat n) c.maxOccurs (Predicate.maxOccurs · n) .ofNat
  | _, _ => []

/-- What the bounds of a rule are held against in a text: the text itself or the number that it is
read as. -/
def subject? (rule : Rule) (text : String) : Option Subject :=
  match rule.type with
  | .map | .date | .boolean => none
  | .string => some (.text text)
  | t => ((Number.read? text).filter t.acceptsNumber).map .number

/-- The failures of a bound of the rule of a visit there. -/
def failures (k : Bound) (v : Visit) : List Failure :=
  (v.count?.elim [] fun n => k.turnsDown v.rule.constraints v.path (.count n)) ++
    (v.node.scalar?.bind (subject? v.rule)).elim [] fun subject =>
      k.turnsDown v.rule.constraints v.path subject

/-- Without a bound everything is turned down as before, except by this bound. It turns nothing down
any more. -/
theorem turnsDown_without (j k : Bound) (c : Constraints) (path : String) (subject : Subject) :
    j.turnsDown (c.without k) path subject = if j = k then [] else j.turnsDown c path subject := by
  cases subject <;> cases k <;> cases j <;> rfl

theorem code_of_mem_turnsDown {k : Bound} {c : Constraints} {path : String} {subject : Subject}
    {f : Failure} (h : f ∈ k.turnsDown c path subject) : f.code = k.code := by
  cases subject <;> cases k <;> first | exact (eq_of_mem_violation h).1 | cases h

/-- A text of the wrong type is not held against bounds, and the codes for it are others. No type
has the name of a bound. -/
theorem code_ne_notA (k : Bound) (t : ValueType) (path text : String) :
    (Failure.notA t.name path text).code ≠ k.code := by
  have hClosed : (Failure.notA t.name "" "").code ≠ k.code := by
    cases k <;> cases t <;> decide
  exact hClosed

/-- The codes of what is no fault of a text. -/
def otherCodes : List String :=
  ["missing", "unknown", "unexpected sequence", "unexpected value in a map", "minOccurs"]

theorem code_notMem_otherCodes (k : Bound) : k.code ∉ otherCodes := by
  cases k <;> decide

theorem code_inj {j k : Bound} : j.code = k.code ↔ j = k := by
  cases j <;> cases k <;> decide

end MarkupRules.Schema.Bound

namespace MarkupRules.Validation

open Markup (Node)
open Schema (Rule Constraints Bound)

/-- Of the failures `whole`, those with a code are `part` and the others are `rest`. -/
structure Drops (code : String) (whole part rest : List Failure) : Prop where
  part : whole.filter (·.code == code) = part
  rest : whole.filter (·.code != code) = rest

namespace Drops

variable {code : String} {whole part rest : List Failure}

theorem append {whole' part' rest' : List Failure} (h : Drops code whole part rest)
    (h' : Drops code whole' part' rest') :
    Drops code (whole ++ whole') (part ++ part') (rest ++ rest') where
  part := by rw [List.filter_append, h.part, h'.part]
  rest := by rw [List.filter_append, h.rest, h'.rest]

theorem all (h : ∀ f ∈ whole, f.code = code) : Drops code whole whole [] where
  part := List.filter_eq_self.mpr fun f hMem => by simp [h f hMem]
  rest := List.filter_eq_nil_iff.mpr fun f hMem => by simp [h f hMem]

theorem others (h : ∀ f ∈ whole, f.code ≠ code) : Drops code whole [] whole where
  part := List.filter_eq_nil_iff.mpr fun f hMem => by simp [h f hMem]
  rest := List.filter_eq_self.mpr fun f hMem => by simp [h f hMem]

/-- What no bound raises is reported with a bound or without it. -/
theorem foreign {k : Bound} (h : ∀ f ∈ whole, f.code ∈ Bound.otherCodes) :
    Drops k.code whole [] whole :=
  .others fun f hMem hCode => k.code_notMem_otherCodes (hCode ▸ h f hMem)

/-- What bounds report one after the other falls apart into what one of them reports and what is
reported without it. Each bound stands in the list once. -/
theorem bounds {bounds : List Bound} {k : Bound} {c : Constraints} {path : String}
    {subject : Bound.Subject} (hNodup : bounds.Nodup)
    (hAbsent : k ∉ bounds → k.turnsDown c path subject = []) :
    Drops k.code (bounds.flatMap (Bound.turnsDown c path subject)) (k.turnsDown c path subject)
      (bounds.flatMap (Bound.turnsDown (c.without k) path subject)) := by
  have hOne (j : Bound) : Drops k.code (j.turnsDown c path subject)
      (if j = k then j.turnsDown c path subject else [])
      (j.turnsDown (c.without k) path subject) := by
    rw [Bound.turnsDown_without]
    split
    · next hSame => exact .all fun f hMem => hSame ▸ Bound.code_of_mem_turnsDown hMem
    · next hOther =>
      refine .others fun f hMem hEq => hOther ?_
      exact Bound.code_inj.mp ((Bound.code_of_mem_turnsDown hMem).symm.trans hEq)
  have hNone {js : List Bound} (h : k ∉ js) :
      js.flatMap (fun j => if j = k then j.turnsDown c path subject else []) = [] :=
    List.flatMap_eq_nil_iff.mpr fun j hMem => if_neg (ne_of_mem_of_not_mem hMem h)
  constructor
  case rest =>
    rw [List.filter_flatMap]
    simp only [(hOne _).rest]
  case part =>
    rw [List.filter_flatMap]
    simp only [(hOne _).part]
    by_cases hMem : k ∈ bounds
    · obtain ⟨front, back, rfl⟩ := List.append_of_mem hMem
      obtain ⟨-, hBack, hFront⟩ := List.nodup_append.mp hNodup
      have hFront : k ∉ front := fun h => hFront k h k (.head _) rfl
      rw [List.flatMap_append, List.flatMap_cons, hNone hFront,
        hNone (List.nodup_cons.mp hBack).1, if_pos rfl, List.append_nil, List.nil_append]
    · rw [hNone hMem, hAbsent hMem]

end Drops

section Parts

variable (k : Bound) (c : Constraints) (path : String)

/-- The bounds on a string report as before without one of them, but for its failure. -/
theorem stringFailures_drops (text : String) :
    Drops k.code (stringFailures c text path) (k.turnsDown c path (.text text))
      (stringFailures (c.without k) text path) := by
  have hBounds (c : Constraints) : stringFailures c text path =
      [.minLength, .maxLength, .length, .pattern, .fixed, .oneOf].flatMap
        (Bound.turnsDown c path (.text text)) := by
    simp [stringFailures, Bound.turnsDown]
  rw [hBounds, hBounds]
  refine .bounds (by decide) fun hAbsent => ?_
  cases k <;> first | rfl | exact absurd (by decide) hAbsent

/-- The same for the bounds on a number. -/
theorem numberFailures_drops (x : Number.Double) :
    Drops k.code (numberFailures c x path) (k.turnsDown c path (.number x))
      (numberFailures (c.without k) x path) := by
  have hBounds (c : Constraints) : numberFailures c x path =
      [.min, .max].flatMap (Bound.turnsDown c path (.number x)) := by
    simp [numberFailures, Bound.turnsDown]
  rw [hBounds, hBounds]
  refine .bounds (by decide) fun hAbsent => ?_
  cases k <;> first | rfl | exact absurd (by decide) hAbsent

/-- The same for those on the occurrences of a tag. -/
theorem occurrenceFailures_drops (n : Nat) :
    Drops k.code (occurrenceFailures c n path) (k.turnsDown c path (.count n))
      (occurrenceFailures (c.without k) n path) := by
  have hBounds (c : Constraints) : occurrenceFailures c n path =
      violation "minOccurs" path (.ofNat n) c.minOccurs (Predicate.minOccurs · n) .ofNat ++
        [Bound.maxOccurs].flatMap (Bound.turnsDown c path (.count n)) := by
    simp [occurrenceFailures, Bound.turnsDown]
  have hMin : (c.without k).minOccurs = c.minOccurs := by cases k <;> rfl
  rw [hBounds, hBounds, hMin]
  apply (Drops.foreign fun f hMem => ?_).append (.bounds (by decide) fun hAbsent => ?_)
  · rw [(eq_of_mem_violation hMem).1]
    decide
  · cases k <;> first | rfl | exact absurd (by decide) hAbsent

/-- A text under a rule that is no map is held against the bounds of its type. Without one, the rest
is reported as before. -/
theorem textFailures_drops (s : Setting) {rule : Rule} (hType : rule.type ≠ .map)
    (text : String) :
    Drops k.code (textFailures s rule text path)
      ((Bound.subject? rule text).elim [] fun subject => k.turnsDown rule.constraints path subject)
      (textFailures s (rule.without k []) text path) := by
  have hNotA (t : Schema.ValueType) :
      Drops k.code [.notA t.name path text] [] [.notA t.name path text] :=
    .others fun f hMem => List.mem_singleton.mp hMem ▸ k.code_ne_notA t path text
  unfold textFailures Bound.subject?
  rw [Rule.type_without, Rule.constraints_without_here]
  cases hRule : rule.type with
  | map => exact absurd hRule hType
  | string => exact stringFailures_drops k _ path text
  | date =>
    dsimp only
    split
    · exact .others nofun
    · exact hNotA .date
  | boolean =>
    dsimp only
    split
    · exact .others nofun
    · exact hNotA .boolean
  | _ =>
    dsimp only
    generalize Option.filter _ (Number.read? text) = read
    cases read with
    | none => exact hNotA _
    | some x => exact numberFailures_drops k _ path x

end Parts

/-- The visit with a bound dropped at the rule that tags lead to from its own. -/
def Visit.without (k : Bound) (place : List String) (v : Visit) : Visit :=
  { v with rule := v.rule.without k place }

namespace Visit

variable (s : Setting) (k : Bound) (v : Visit)

theorem count?_without (place : List String) : (v.without k place).count? = v.count? := by
  simp [count?, without]

/-- Tags are absent or required with a bound or without it. None of these bounds makes its tag
required. -/
theorem missingFailures_without (place : List String) :
    missingFailures (v.without k place).rule (v.without k place).absentTags v.path =
      missingFailures v.rule v.absentTags v.path := by
  simp [missingFailures, absentTags, without]

/-- What a check says does not depend on bounds, since it sees the node only. -/
theorem customFailures_without (place : List String) :
    (v.without k place).customFailures s = v.customFailures s := by
  simp [customFailures, without, checkFailures]

/-- The bounds on the occurrences of a visit report as before, but for one of them. -/
theorem boundFailures_drops : Drops k.code v.boundFailures
    (v.count?.elim [] fun n => k.turnsDown v.rule.constraints v.path (.count n))
    (v.without k []).boundFailures := by
  unfold boundFailures
  rw [count?_without]
  cases v.count? with
  | none => exact .others nofun
  | some n =>
    show Drops _ _ _ (occurrenceFailures (v.rule.without k []).constraints n v.path)
    rw [Rule.constraints_without_here]
    exact occurrenceFailures_drops k _ v.path n

/-- What is reported of a node stays as well, but for what the bound turned down in its text. -/
theorem nodeFailures_drops : Drops k.code (v.nodeFailures s)
    ((v.node.scalar?.bind (Bound.subject? v.rule)).elim [] fun subject =>
      k.turnsDown v.rule.constraints v.path subject)
    ((v.without k []).nodeFailures s) := by
  obtain ⟨node, rule, path, lone⟩ := v
  cases node with
  | sequence items =>
    simp only [nodeFailures, without, Rule.isRepeatable_without]
    refine .foreign fun f hMem => ?_
    split at hMem
    · cases hMem
    · rw [List.mem_singleton.mp hMem]
      simp [Failure.unexpectedSequence, Bound.otherCodes]
  | mapping entries =>
    simp only [nodeFailures, without, Rule.names_without]
    refine .foreign fun f hMem => ?_
    split at hMem
    · cases hMem
    · obtain ⟨key, -, rfl⟩ := List.mem_map.mp hMem
      simp [Failure.unknown, Bound.otherCodes]
  | scalar text =>
    simp only [nodeFailures, without, Rule.type_without]
    split
    · next hType =>
      have hNothing : Bound.subject? rule text = none := by
        unfold Bound.subject?
        rw [hType]
      rw [Node.scalar?, Option.bind_some, hNothing]
      refine .foreign fun f hMem => ?_
      split at hMem
      · cases hMem
      · rw [List.mem_singleton.mp hMem]
        simp [Failure.unexpectedValueInMap, Bound.otherCodes]
    · next hType => exact textFailures_drops k path s hType text

/-- Without a bound of its rule a visit reports the same, but for the failures of the bound. These
are all that it reports under the bound's code. -/
theorem ownFailures_drops :
    Drops k.code (v.ownFailures s) (k.failures v) ((v.without k []).ownFailures s) := by
  have hMissing : Drops k.code (missingFailures v.rule v.absentTags v.path) []
      (missingFailures (v.without k []).rule (v.without k []).absentTags v.path) := by
    rw [missingFailures_without]
    refine .foreign fun f hMem => ?_
    obtain ⟨key, child, -, -, rfl⟩ := eq_of_mem_missingFailures hMem
    simp [Failure.missing, Bound.otherCodes]
  have hAll := ((v.boundFailures_drops k).append (v.nodeFailures_drops s k)).append hMissing
  rw [List.append_nil] at hAll
  exact hAll

/-- What is reported at a visit does not depend on the bounds of the rules further inside. -/
theorem ownFailures_without_inside (name : String) (place : List String) :
    (v.without k (name :: place)).ownFailures s = v.ownFailures s := by
  have hBound : (v.without k (name :: place)).boundFailures = v.boundFailures := by
    rw [boundFailures, boundFailures, count?_without]
    simp only [without, Rule.constraints_without_inside]
  have hNode : (v.without k (name :: place)).nodeFailures s = v.nodeFailures s := by
    obtain ⟨node, rule, path, lone⟩ := v
    cases node with
    | sequence items => simp [nodeFailures, without]
    | mapping entries => simp [nodeFailures, without]
    | scalar text =>
      simp only [nodeFailures, without, textFailures, missingFailures, Rule.type_without,
        Rule.constraints_without_inside, Rule.names_without, Rule.any_isRequired_without]
  rw [ownFailures, hBound, hNode]
  exact congrArg _ (v.missingFailures_without k _)

end Visit

/-- A visit at a place, with a bound dropped at the rule that the tags `place` lead to from where
the walk started. -/
def withoutAt (k : Bound) (place : List String) (w : List Step × Visit) : List Step × Visit :=
  (w.1, ((place.dropPrefix? (tagsOf w.1)).elim id (Visit.without k)) w.2)

section Walk

variable (k : Bound)

theorem withoutAt_start (place : List String) (v : Visit) :
    withoutAt k place ([], v) = ([], v.without k place) := by
  cases place <;> rfl

theorem withoutAt_item (place : List String) (index : Nat) (visits : List (List Step × Visit)) :
    (under (.item index) visits).map (withoutAt k place) =
      under (.item index) (visits.map (withoutAt k place)) := by
  rw [under, List.map_map, under, List.map_map]
  rfl

theorem withoutAt_tag_here (key : String) (visits : List (List Step × Visit)) :
    (under (.tag key) visits).map (withoutAt k []) = under (.tag key) visits := by
  rw [under, List.map_map]
  rfl

theorem withoutAt_tag_inside (name : String) (place : List String)
    (visits : List (List Step × Visit)) :
    (under (.tag name) visits).map (withoutAt k (name :: place)) =
      under (.tag name) (visits.map (withoutAt k place)) := by
  have hPrefix (tags : List String) :
      (name :: place).dropPrefix? (name :: tags) = place.dropPrefix? tags := by
    simp [List.dropPrefix?]
  rw [under, List.map_map, under, List.map_map]
  refine List.map_congr_left fun w _ => ?_
  show (_, ((List.dropPrefix? _ (name :: tagsOf w.1)).elim id _) w.2) = _
  rw [hPrefix]
  rfl

theorem withoutAt_tag_beside {name key : String} (hName : key ≠ name) (place : List String)
    (visits : List (List Step × Visit)) :
    (under (.tag key) visits).map (withoutAt k (name :: place)) = under (.tag key) visits := by
  have hPrefix (tags : List String) : (name :: place).dropPrefix? (key :: tags) = none := by
    simp [List.dropPrefix?, hName.symm]
  rw [under, List.map_map]
  refine List.map_congr_left fun w _ => ?_
  show (_, ((List.dropPrefix? _ (key :: tagsOf w.1)).elim id _) w.2) = _
  rw [hPrefix]
  rfl

/-- The items of a sequence are walked under the changed rule as before, if each of them is. -/
theorem sitedItemVisits_without {place : List String} {rule : Rule} {items : List Node}
    (h : ∀ item ∈ items, ∀ path, sitedVisits (rule.without k place) path false item =
      (sitedVisits rule path false item).map (withoutAt k place)) (path : String) (index : Nat) :
    sitedItemVisits (rule.without k place) path index items =
      (sitedItemVisits rule path index items).map (withoutAt k place) := by
  induction items generalizing index with
  | nil => rfl
  | cons item rest ih =>
    rw [sitedItemVisits, sitedItemVisits, List.map_append, withoutAt_item, h item (.head _),
      ih fun other hOther => h other (.tail _ hOther)]

/-- So are the entries of a mapping. Only those under the key that the place leads through are
changed. -/
theorem sitedEntryVisits_without {entries : List (String × Node)}
    (h : ∀ e ∈ entries, ∀ place rule path, sitedVisits (rule.without k place) path true e.2 =
      (sitedVisits rule path true e.2).map (withoutAt k place))
    (place : List String) (rule : Rule) (path : String) :
    sitedEntryVisits (rule.without k place) path entries =
      (sitedEntryVisits rule path entries).map (withoutAt k place) := by
  induction entries with
  | nil => rfl
  | cons e rest ih =>
    obtain ⟨key, node⟩ := e
    have hRest := ih fun other hOther => h other (.tail _ hOther)
    cases place with
    | nil =>
      simp only [sitedEntryVisits, Rule.child?_without_here]
      cases rule.child? key with
      | none => exact hRest
      | some child => rw [List.map_append, withoutAt_tag_here, hRest]
    | cons name place =>
      simp only [sitedEntryVisits, Rule.child?_without_inside]
      cases rule.child? key with
      | none =>
        rw [Option.map_none, ite_self]
        exact hRest
      | some child =>
        by_cases hName : key = name
        · subst hName
          simp only [if_true, Option.map_some]
          rw [List.map_append, withoutAt_tag_inside, ← h (key, node) (.head _), hRest]
        · simp only [if_neg hName]
          rw [List.map_append, withoutAt_tag_beside k hName, hRest]

/-- The walk under the changed model goes to the same places. Each visit has its rule with the bound
dropped where the place says. -/
theorem sitedVisits_without (place : List String) (rule : Rule) (path : String) (lone : Bool)
    (node : Node) : sitedVisits (rule.without k place) path lone node =
      (sitedVisits rule path lone node).map (withoutAt k place) := by
  induction node generalizing place rule path lone with
  | scalar text => rw [sitedVisits, sitedVisits, List.map_singleton, withoutAt_start, Visit.without]
  | sequence items ih =>
    rw [sitedVisits, sitedVisits, Rule.isRepeatable_without, List.map_cons, withoutAt_start,
      Visit.without]
    congr 1
    split
    · exact sitedItemVisits_without k (fun item hItem path => ih item hItem place rule path false)
        path 0
    · rfl
  | mapping entries ih =>
    rw [sitedVisits, sitedVisits, List.map_cons, withoutAt_start, Visit.without,
      sitedEntryVisits_without k fun e hEntry place rule path => ih e hEntry place rule path true]

end Walk

/-- Where a place is that of the rule itself, its failures of the bound are dropped. Elsewhere none
are. -/
theorem failures_withoutAt (s : Setting) (k : Bound) (place : List String)
    (w : List Step × Visit) :
    (withoutAt k place w).2.failures s =
      (if tagsOf w.1 = place then (w.2.ownFailures s).filter (·.code != k.code)
        else w.2.ownFailures s) ++ w.2.customFailures s := by
  unfold withoutAt
  cases hRest : place.dropPrefix? (tagsOf w.1) with
  | none =>
    have hOther : tagsOf w.1 ≠ place := by
      rintro rfl
      have hSelf := List.dropPrefix?_eq_some_iff.mpr
        ⟨tagsOf w.1, (List.append_nil _).symm, beq_self_eq_true _⟩
      cases hRest.symm.trans hSelf
    rw [if_neg hOther]
    exact w.2.failures_eq_append s
  | some rest =>
    obtain ⟨tags, rfl, hTags⟩ := List.dropPrefix?_eq_some_iff.mp hRest
    obtain rfl := eq_of_beq hTags
    dsimp only [Option.elim_some]
    rw [Visit.failures_eq_append, Visit.customFailures_without]
    cases rest with
    | nil => rw [if_pos (List.append_nil _).symm, (w.2.ownFailures_drops s k).rest]
    | cons name rest => rw [if_neg (by simp), Visit.ownFailures_without_inside]

theorem top_without (model : Schema.Model) (k : Bound) (place : List String) :
    (model.without k place).top = model.top.without k (model.rootName :: place) := by
  simp [Schema.Model.top, Schema.Model.without, Rule.without, Schema.alter]

/-- Without a bound of one rule, the report is the same but for the failures of that bound at the
places of that rule, which are those with its code there that no custom check has answered. -/
theorem traverse_without {model : Schema.Model} (s : Setting)
    (hCovers : s.registry.ensureCovers model = .ok ()) (k : Bound) (place : List String)
    (tree : Node) :
    ∃ walk, ListsWalk (.start tree model) walk ∧
      traverse s tree model =
        .ok (walk.flatMap fun w => w.2.ownFailures s ++ w.2.customFailures s) ∧
      traverse s tree (model.without k place) = .ok (walk.flatMap fun w =>
        (if tagsOf w.1 = model.rootName :: place then
          (w.2.ownFailures s).filter (·.code != k.code) else w.2.ownFailures s) ++
          w.2.customFailures s) ∧
      ∀ w ∈ walk, (w.2.ownFailures s).filter (·.code == k.code) = k.failures w.2 := by
  refine ⟨_, listsWalk_sited _, ?_, ?_, fun w _ => (w.2.ownFailures_drops s k).part⟩
  · rw [traverse_eq_flatMap hCovers]
    simp only [Visit.failures_eq_append]
  · have hCovers' : s.registry.ensureCovers (model.without k place) = .ok () := hCovers
    have hSited : (Visit.start tree (model.without k place)).sited =
        (Visit.start tree model).sited.map (withoutAt k (model.rootName :: place)) := by
      show sitedVisits (model.without k place).top "" true tree = _
      rw [top_without, sitedVisits_without]
      rfl
    rw [traverse_eq_flatMap hCovers', hSited, List.flatMap_map]
    simp only [failures_withoutAt]

/-- Labels of one letter, of which there may be several, and an empty note. -/
def labelModel : Schema.Model where
  rootName := "r"
  root :=
    let label : Constraints :=
      { maxLength := some 1, fixed := some "x", repeatable := true, checkBy := some "size" }
    .mk .map {} [("a", .mk .string label []), ("b", .mk .string { maxLength := some 0 } [])]
  checks := [⟨"size", "r.a"⟩]
  size := 3

/-- The check turns down every label, with the code of a bound. -/
def labelChecks : Registry := ⟨[("size", refuseAll "maxLength")]⟩

def labelTree : Node :=
  .mapping [("r", .mapping [("a", .sequence [.scalar "x", .scalar "yy"]), ("b", .scalar "z")])]

/-- A label and the note are too long. Without the bound on labels the note's failure stays, and so
does what the check says under the same code. -/
theorem traverse_label_without :
    labelChecks.ensureCovers labelModel = .ok () ∧
      ∃ walk, ListsWalk (.start labelTree labelModel) walk ∧
        traverse ⟨{}, labelChecks⟩ labelTree labelModel =
          .ok [{ code := "maxLength", path := "r.a[0]" },
            .constraint "maxLength" "r.a[1]" (.string "yy") (.ofNat 1),
            .constraint "fixed" "r.a[1]" (.string "yy") (.string "x"),
            { code := "maxLength", path := "r.a[1]" },
            .constraint "maxLength" "r.b" (.string "z") (.ofNat 0)] ∧
        traverse ⟨{}, labelChecks⟩ labelTree (labelModel.without .maxLength ["a"]) =
          .ok [{ code := "maxLength", path := "r.a[0]" },
            .constraint "fixed" "r.a[1]" (.string "yy") (.string "x"),
            { code := "maxLength", path := "r.a[1]" },
            .constraint "maxLength" "r.b" (.string "z") (.ofNat 0)] ∧
        ∀ w ∈ walk, (w.2.ownFailures ⟨{}, labelChecks⟩).filter (·.code == Bound.maxLength.code) =
          Bound.maxLength.failures w.2 := by
  have hCovers : labelChecks.ensureCovers labelModel = .ok () := rfl
  obtain ⟨walk, hWalk, -, -, hDropped⟩ :=
    traverse_without ⟨{}, labelChecks⟩ hCovers .maxLength ["a"] labelTree
  refine ⟨hCovers, walk, hWalk, ?_, ?_, hDropped⟩
  · rw [traverse_of_covers hCovers]
    rfl
  · rw [traverse_of_covers rfl]
    rfl

end MarkupRules.Validation
