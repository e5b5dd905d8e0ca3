import MarkupRules.Proofs.Schema.Soundness
import Mathlib.Data.List.Perm.Basic
import Mathlib.Logic.Function.Basic

/-!
What a list of attributes declares, without the order in which it is read.

Each attribute has a place of its own in what is read, which its name decides; the pattern is the
one place that several names share, and may be taken once. So attributes can be read just if each
can be read alone and no two of them declare a pattern.
-/
namespace MarkupRules.Schema

open Markup (Attribute)

/-- What attributes say, by their names. -/
abbrev Values := String → Option String

namespace Values

/-- What attributes say together with one more. -/
def set (v : Values) (a : Attribute) : Values := Function.update v a.name (some a.value)

end Values

namespace Constraints

/-- The names of attributes that stand for one constraint each. -/
def names : List String :=
  ["type", "minLength", "maxLength", "length", "fixed", "in", "min", "max", "minOccurs",
    "maxOccurs", "repeatable", "nillable", "checkBy"]

/-- The constraints that stand under these names. The pattern is not among them, as it may stand
under several. -/
def ofValues (v : Values) : Constraints where
  declared := (v "type").bind ValueType.ofName?
  minLength := (v "minLength").bind count?
  maxLength := (v "maxLength").bind count?
  length := (v "length").bind count?
  fixed := v "fixed"
  oneOf := v "in"
  min := (v "min").bind Number.read?
  max := (v "max").bind Number.read?
  minOccurs := (v "minOccurs").bind count?
  maxOccurs := (v "maxOccurs").bind count?
  repeatable := ((v "repeatable").bind Draft.presence?).getD false
  nillable := (v "nillable").bind Draft.truthValue?
  checkBy := (v "checkBy").bind fun name =>
    if Text.isAllBlank name.toList then none else some name

/-- Constraints depend only on what stands under the names that stand for one each. -/
theorem ofValues_congr {v w : Values} (h : ∀ name ∈ names, v name = w name) :
    ofValues v = ofValues w := by
  simp only [names, List.forall_mem_cons] at h
  simp only [ofValues, h]

end Constraints

namespace Draft

/-- What is read of attributes that say `v`. -/
def ofValues (v : Values) (pattern : Option PatternDeclaration) : Draft :=
  ⟨.ofValues v, pattern, v "flags"⟩

/-- The pattern that an attribute declares. -/
def declaration? (a : Attribute) : Option PatternDeclaration :=
  if a.name = "pattern" then some ⟨a.name, a.value, ""⟩
  else (flagsInName? a.name).map fun flags => ⟨a.name, a.value, flags⟩

theorem declaration?_of_mem {name : String} (h : name ∈ "flags" :: Constraints.names)
    (value : String) : declaration? ⟨name, value⟩ = none := by
  have hPlain : ∀ name ∈ "flags" :: Constraints.names,
      name ≠ "pattern" ∧ flagsInName? name = none := by decide
  rw [declaration?, if_neg (hPlain name h).1, (hPlain name h).2, Option.map_none]

/-- An attribute that can be read on its own. -/
def Readable (a : Attribute) : Prop := ∃ d, read "" {} a = .ok d

variable {path : String} {v : Values} {pattern : Option PatternDeclaration} {a : Attribute}
  {d : Draft}

/-- An attribute that declares a pattern is read by noting the pattern and in no other way, under
whatever name it does so. -/
theorem read_of_declaration? {p : PatternDeclaration} (h : declaration? a = some p) :
    d.read path a = declarePattern path d p := by
  obtain ⟨name, value⟩ := a
  unfold read
  dsimp only
  split
  case h_15 =>
    obtain rfl := Option.some.inj h
    rfl
  case h_16 hPattern =>
    rw [declaration?, if_neg hPattern, Option.map_eq_some_iff] at h
    obtain ⟨flags, hFlags, rfl⟩ := h
    dsimp only at hFlags
    rw [hFlags]
  all_goals cases h.symm.trans (declaration?_of_mem (by decide) value)

/-- An attribute that declares no pattern sets what stands under its own name, whatever the others
say. -/
theorem read_ofValues_of_none (h : declaration? a = none) :
    (ofValues v pattern).read path a = .ok d ↔ Readable a ∧ d = ofValues (v.set a) pattern := by
  have hRead : ((ofValues v pattern).read path a).toOption =
      (read "" {} a).toOption.map fun _ => ofValues (v.set a) pattern := by
    obtain ⟨name, value⟩ := a
    unfold read
    dsimp only
    split
    case h_15 => cases h
    case h_16 hPattern =>
      rw [declaration?, if_neg hPattern, Option.map_eq_none_iff] at h
      dsimp only at h
      rw [h]
      rfl
    -- One goal for each name: what stands there is read of the value again.
    all_goals simp only [ofValues, Constraints.ofValues, Values.set, Function.update_apply]
    case h_13 =>
      cases hBlank : Text.isAllBlank value.toList <;> simp [Except.toOption, hBlank]
    all_goals split <;> simp_all [Except.toOption]
  rw [← toOption_eq_some_iff, hRead, Option.map_eq_some_iff]
  simp only [toOption_eq_some_iff, Readable, exists_and_right]
  exact and_congr_right fun _ => eq_comm

/-- An attribute that declares a pattern is read if it is the first to do so. -/
theorem read_ofValues_of_some {p : PatternDeclaration} (h : declaration? a = some p) :
    (ofValues v pattern).read path a = .ok d ↔
      pattern = none ∧ d = ofValues (v.set a) (some p) := by
  have hOther (name : String) (hMem : name ∈ "flags" :: Constraints.names) :
      v.set a name = v name := by
    refine Function.update_of_ne (fun hName => ?_) _ _
    cases h.symm.trans (declaration?_of_mem (hName ▸ hMem) a.value)
  have hSame : ofValues (v.set a) (some p) = ofValues v (some p) := by
    rw [ofValues, ofValues, hOther "flags" (.head _),
      Constraints.ofValues_congr fun name hMem => hOther name (.tail _ hMem)]
  rw [read_of_declaration? h, declarePattern, hSame]
  cases pattern with
  | some earlier => simp [ofValues]
  | none => simp [ofValues, eq_comm]

/-- Attributes are read just if each can be read and no two declare a pattern, in whatever order
they stand. -/
theorem foldlM_read_ofValues_eq_ok_iff {attributes : List Attribute} :
    attributes.foldlM (read path) (ofValues v pattern) = .ok d ↔
      (∀ a ∈ attributes, Readable a) ∧
        pattern.toList ++ attributes.filterMap declaration? = d.pattern.toList ∧
        d = ofValues (attributes.foldl Values.set v) d.pattern := by
  induction attributes generalizing v pattern with
  | nil =>
    constructor
    · rintro ⟨⟩
      exact ⟨nofun, by simp [ofValues], rfl⟩
    · rintro ⟨-, hPattern, hSame⟩
      obtain rfl : pattern = d.pattern := by
        cases pattern <;> cases hNew : d.pattern <;> simp_all
      exact congrArg Except.ok hSame.symm
  | cons a rest ih =>
    rw [List.foldlM_cons, bind_eq_ok_iff, List.forall_mem_cons, List.foldl_cons]
    cases hDeclares : declaration? a with
    | none =>
      rw [List.filterMap_cons_none hDeclares]
      constructor
      · rintro ⟨_, hFirst, hRest⟩
        obtain ⟨hReadable, rfl⟩ := (read_ofValues_of_none hDeclares).mp hFirst
        obtain ⟨hOthers, hPattern, hSame⟩ := ih.mp hRest
        exact ⟨⟨hReadable, hOthers⟩, hPattern, hSame⟩
      · rintro ⟨⟨hReadable, hOthers⟩, hPattern, hSame⟩
        exact ⟨_, (read_ofValues_of_none hDeclares).mpr ⟨hReadable, rfl⟩,
          ih.mpr ⟨hOthers, hPattern, hSame⟩⟩
    | some p =>
      rw [List.filterMap_cons_some hDeclares]
      constructor
      · rintro ⟨_, hFirst, hRest⟩
        obtain ⟨rfl, rfl⟩ := (read_ofValues_of_some hDeclares).mp hFirst
        obtain ⟨hOthers, hPattern, hSame⟩ := ih.mp hRest
        exact ⟨⟨⟨_, read_of_declaration? hDeclares⟩, hOthers⟩, hPattern, hSame⟩
      · rintro ⟨⟨-, hOthers⟩, hPattern, hSame⟩
        have hFirst : pattern = none := by
          have hLength := congrArg List.length hPattern
          have hOne : d.pattern.toList.length ≤ 1 := by cases d.pattern <;> simp
          cases pattern with
          | none => rfl
          | some earlier =>
            simp only [Option.toList_some, List.length_append, List.length_cons,
              List.length_nil] at hLength
            omega
        subst hFirst
        exact ⟨_, (read_ofValues_of_some hDeclares).mpr ⟨rfl, rfl⟩,
          ih.mpr ⟨hOthers, hPattern, hSame⟩⟩

/-- Attributes that can be read each are turned down at the second that declares a pattern. The
flags are not looked at before all of them are read, so they play no part in it. -/
theorem foldlM_read_ofValues_of_two {attributes : List Attribute}
    {first second : PatternDeclaration} {more : List PatternDeclaration}
    (hReadable : ∀ a ∈ attributes, Readable a)
    (hDeclared : pattern.toList ++ attributes.filterMap declaration? = first :: second :: more) :
    attributes.foldlM (read path) (ofValues v pattern) =
      .error (.ambiguousPattern path (.declaredTwice first.key second.key)) := by
  induction attributes generalizing v pattern with
  | nil => cases pattern <;> simp at hDeclared
  | cons a rest ih =>
    obtain ⟨hFirst, hRest⟩ := List.forall_mem_cons.mp hReadable
    rw [List.foldlM_cons]
    cases hDeclares : declaration? a with
    | none =>
      rw [List.filterMap_cons_none hDeclares] at hDeclared
      rw [(read_ofValues_of_none hDeclares).mpr ⟨hFirst, rfl⟩]
      exact ih hRest hDeclared
    | some p =>
      rw [List.filterMap_cons_some hDeclares] at hDeclared
      cases pattern with
      | none =>
        rw [(read_ofValues_of_some hDeclares).mpr ⟨rfl, rfl⟩]
        exact ih hRest hDeclared
      | some earlier =>
        obtain ⟨rfl, hSecond⟩ := List.cons.inj hDeclared
        obtain ⟨rfl, -⟩ := List.cons.inj hSecond
        rw [read_of_declaration? hDeclares]
        rfl

end Draft

namespace Values

/-- What attributes say, all of them together. -/
def ofAttributes (attributes : List Attribute) : Values := attributes.foldl set fun _ => none

/-- Where names are distinct, each attribute says what stands under its name. -/
theorem ofAttributes_eq_some_iff {attributes : List Attribute}
    (hNames : (attributes.map Attribute.name).Nodup) {name value : String} :
    ofAttributes attributes name = some value ↔ ⟨name, value⟩ ∈ attributes := by
  have hFold (v : Values) : attributes.foldl set v name = some value ↔
      ⟨name, value⟩ ∈ attributes ∨ name ∉ attributes.map Attribute.name ∧ v name = some value := by
    induction attributes generalizing v with
    | nil => simp
    | cons a rest ih =>
      obtain ⟨hFirst, hRest⟩ := List.nodup_cons.mp hNames
      rw [List.foldl_cons, ih hRest, set, Function.update_apply]
      by_cases hSame : name = a.name
      · subst hSame
        have hOther : ⟨a.name, value⟩ ∉ rest := fun hMem =>
          hFirst (List.mem_map.mpr ⟨_, hMem, rfl⟩)
        have hSelf : ⟨a.name, value⟩ = a ↔ a.value = value := by
          obtain ⟨_, _⟩ := a
          simp [eq_comm]
        simp [hOther, hFirst, hSelf]
      · have hOther : ⟨name, value⟩ ≠ a := fun hEq => hSame (hEq ▸ rfl)
        simp [hSame, hOther]
  rw [ofAttributes, hFold]
  simp

theorem ofAttributes_eq_none {attributes : List Attribute}
    (hNames : (attributes.map Attribute.name).Nodup) {name : String}
    (h : name ∉ attributes.map Attribute.name) : ofAttributes attributes name = none := by
  refine Option.eq_none_iff_forall_ne_some.mpr fun value hValue => h ?_
  exact List.mem_map.mpr ⟨_, (ofAttributes_eq_some_iff hNames).mp hValue, rfl⟩

end Values

namespace Constraints

variable {path : String} {attributes attributes' : List Attribute} {c : Constraints}

/-- Attributes are read from the start just if each can be read and at most one declares a pattern.
-/
theorem foldlM_read_eq_ok_iff {d : Draft} :
    attributes.foldlM (Draft.read path) {} = .ok d ↔
      (∀ a ∈ attributes, Draft.Readable a) ∧
        attributes.filterMap Draft.declaration? = d.pattern.toList ∧
        d = .ofValues (.ofAttributes attributes) d.pattern :=
  @Draft.foldlM_read_ofValues_eq_ok_iff path (fun _ => none) none d attributes

/-- Attributes that can be read declare what stands under their names, and the pattern if that can
be compiled. -/
theorem ofAttributes_eq_map {declared : Option PatternDeclaration}
    (hReadable : ∀ a ∈ attributes, Draft.Readable a)
    (hDeclared : attributes.filterMap Draft.declaration? = declared.toList) :
    ofAttributes path attributes =
      ((Draft.ofValues (.ofAttributes attributes) declared).pattern? path).map fun pattern =>
        { ofValues (.ofAttributes attributes) with pattern } := by
  have hRead : attributes.foldlM (Draft.read path) {} =
      .ok (.ofValues (.ofAttributes attributes) declared) :=
    foldlM_read_eq_ok_iff.mpr ⟨hReadable, hDeclared, rfl⟩
  rw [ofAttributes, hRead]
  dsimp only
  cases (Draft.ofValues (.ofAttributes attributes) declared).pattern? path <;> rfl

/-- Two patterns in one tag are an error that names both attributes in the order in which they come.
-/
theorem ofAttributes_of_two {first second : PatternDeclaration}
    (hReadable : ∀ a ∈ attributes, Draft.Readable a)
    (hDeclared : attributes.filterMap Draft.declaration? = [first, second]) :
    ofAttributes path attributes =
      .error (.ambiguousPattern path (.declaredTwice first.key second.key)) := by
  have hRead : attributes.foldlM (Draft.read path) {} =
      .error (.ambiguousPattern path (.declaredTwice first.key second.key)) :=
    @Draft.foldlM_read_ofValues_of_two path (fun _ => none) none attributes first second []
      hReadable hDeclared
  rw [ofAttributes, hRead]

/-- What a list of attributes has to be for it to declare constraints, and which these are. Nothing
in it depends on the order. -/
theorem ofAttributes_eq_ok_iff :
    ofAttributes path attributes = .ok c ↔
      (∀ a ∈ attributes, Draft.Readable a) ∧ ∃ declared pattern,
        attributes.filterMap Draft.declaration? = Option.toList declared ∧
        (Draft.ofValues (.ofAttributes attributes) declared).pattern? path = .ok pattern ∧
        c = { ofValues (.ofAttributes attributes) with pattern } := by
  constructor
  · intro h
    rw [ofAttributes_eq_bind, bind_eq_ok_iff] at h
    obtain ⟨d, hRead, h⟩ := h
    obtain ⟨pattern, hPattern, hSame⟩ := bind_eq_ok_iff.mp h
    obtain ⟨hReadable, hDeclared, hValues⟩ := foldlM_read_eq_ok_iff.mp hRead
    rw [hValues] at hPattern hSame
    exact ⟨hReadable, d.pattern, pattern, hDeclared, hPattern, (Except.ok.inj hSame).symm⟩
  · rintro ⟨hReadable, declared, pattern, hDeclared, hPattern, rfl⟩
    rw [ofAttributes_eq_map hReadable hDeclared, hPattern]
    rfl

end Constraints

theorem ValueType.ofName?_name (t : ValueType) : ofName? t.name = some t := by
  cases t <;> rfl

namespace Mirrors

variable {path : String} {e : Markup.Element} {r : Rule} (h : Mirrors path e r)
include h

/-- The constraints of a rule are what stands under their names in its element. -/
theorem exists_constraints_eq : ∃ pattern,
    r.constraints = { Constraints.ofValues (.ofAttributes e.tag.attributes) with pattern } := by
  cases h with
  | mk hConstraints =>
    obtain ⟨-, -, pattern, -, -, hSame⟩ := Constraints.ofAttributes_eq_ok_iff.mp hConstraints
    exact ⟨pattern, hSame⟩

/-- The type of a rule is the one that its element declares, if it does. -/
theorem type_eq {t : ValueType}
    (hType : Values.ofAttributes e.tag.attributes "type" = some t.name) : r.type = t := by
  obtain ⟨pattern, hConstraints⟩ := h.exists_constraints_eq
  have hDeclared : r.constraints.declared = some t := by
    rw [hConstraints]
    simp [Constraints.ofValues, hType, ValueType.ofName?_name]
  cases h with
  | mk _ hResolved =>
    rw [Rule.constraints] at hDeclared
    rw [Rule.type, hResolved, hDeclared, Option.getD_some]

end Mirrors

section Order

variable {attributes attributes' : List Attribute}
  (hNames : (attributes.map Attribute.name).Nodup) (hPerm : attributes.Perm attributes')
include hNames hPerm

/-- What stands under a name does not depend on the order of the attributes, as long as names are
distinct. -/
theorem Values.ofAttributes_perm : ofAttributes attributes = ofAttributes attributes' := by
  have hNames' := (hPerm.map Attribute.name).nodup_iff.mp hNames
  ext name value
  rw [ofAttributes_eq_some_iff hNames, ofAttributes_eq_some_iff hNames', hPerm.mem_iff]

/-- Attributes that declare constraints declare the same ones in every other order. -/
theorem Constraints.ofAttributes_of_perm {path : String} {c : Constraints}
    (h : ofAttributes path attributes = .ok c) : ofAttributes path attributes' = .ok c := by
  obtain ⟨hReadable, declared, pattern, hDeclared, hPattern, hSame⟩ := ofAttributes_eq_ok_iff.mp h
  have hDeclared' : attributes'.filterMap Draft.declaration? = declared.toList := by
    have hOthers := hPerm.filterMap Draft.declaration?
    rw [hDeclared] at hOthers
    cases declared with
    | none => exact List.nil_perm.mp hOthers
    | some p => exact List.singleton_perm.mp hOthers |>.symm
  rw [Values.ofAttributes_perm hNames hPerm] at hPattern hSame
  exact ofAttributes_eq_ok_iff.mpr ⟨fun a hMem => hReadable a (hPerm.mem_iff.mpr hMem), declared,
    pattern, hDeclared', hPattern, hSame⟩

/-- What attributes declare, if anything, does not depend on their order. -/
theorem Constraints.ofAttributes_eq_ok_iff_of_perm (path : String) (c : Constraints) :
    ofAttributes path attributes = .ok c ↔ ofAttributes path attributes' = .ok c :=
  ⟨ofAttributes_of_perm hNames hPerm,
    ofAttributes_of_perm ((hPerm.map Attribute.name).nodup_iff.mp hNames) hPerm.symm⟩

end Order

end MarkupRules.Schema
