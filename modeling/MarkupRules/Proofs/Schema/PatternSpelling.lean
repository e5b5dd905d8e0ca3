import MarkupRules.Proofs.Schema.Draft

/-!
The two spellings of a pattern with flags.

A tag may have the letters of a pattern's flags in the attribute's name or beside it, in an
attribute of their own. What the other attributes declare is the same either way, and so is what
becomes of the expression; only the key that an error names is that of the spelling.
-/
namespace MarkupRules

namespace Pattern

/-- The letters that flags are made of. -/
def flagLetters : List Char := ['i', 'm', 's', 'x', 'u', 'g']

/-- Two flags of known letters that set the same options. -/
structure SameOptions (flags flags' : List Char) : Prop where
  known : ∀ c ∈ flags, c ∈ flagLetters
  known' : ∀ c ∈ flags', c ∈ flagLetters
  options : ∀ c ∈ ['i', 'm', 's', 'x'], c ∈ flags ↔ c ∈ flags'

variable {flags flags' : List Char}

theorem SameOptions.symm (h : SameOptions flags flags') : SameOptions flags' flags :=
  ⟨h.known', h.known, fun c hMem => (h.options c hMem).symm⟩

/-- Letters that are known set an option each, or nothing. Their order and how often they come do
not matter. -/
theorem readLetters_of_known {f : Flags} (hKnown : ∀ c ∈ flags, c ∈ flagLetters) :
    readLetters f flags = .ok { f with
      ignoreCase := f.ignoreCase || flags.contains 'i'
      multiLine := f.multiLine || flags.contains 'm'
      dotAll := f.dotAll || flags.contains 's'
      verbose := f.verbose || flags.contains 'x' } := by
  induction flags generalizing f with
  | nil => simp [readLetters]
  | cons c rest ih =>
    obtain ⟨hFirst, hRest⟩ := List.forall_mem_cons.mp hKnown
    simp only [flagLetters, List.mem_cons, List.not_mem_nil, or_false] at hFirst
    rcases hFirst with rfl | rfl | rfl | rfl | rfl | rfl <;>
      simp [readLetters, ih hRest]

/-- The first letter that is not known is refused, whatever stands behind it. -/
theorem readLetters_append_cons {f : Flags} {known : List Char}
    (hKnown : ∀ c ∈ known, c ∈ flagLetters) {letter : Char} (hLetter : letter ∉ flagLetters)
    (rest : List Char) :
    readLetters f (known ++ letter :: rest) = .error (.unknownFlag letter) := by
  induction known generalizing f with
  | nil =>
    simp only [flagLetters, List.mem_cons, List.not_mem_nil, or_false, not_or] at hLetter
    simp [readLetters, hLetter]
  | cons c known ih =>
    obtain ⟨hFirst, hRest⟩ := List.forall_mem_cons.mp hKnown
    simp only [flagLetters, List.mem_cons, List.not_mem_nil, or_false] at hFirst
    rcases hFirst with rfl | rfl | rfl | rfl | rfl | rfl <;>
      exact ih hRest

/-- Letters that set the same options are read alike, in whatever order they come. -/
theorem SameOptions.readLetters_eq (h : SameOptions flags flags') (f : Flags) :
    readLetters f flags = readLetters f flags' := by
  have hSame (c : Char) (hMem : c ∈ ['i', 'm', 's', 'x']) :
      flags.contains c = flags'.contains c := by
    rw [Bool.eq_iff_iff, List.contains_iff_mem, List.contains_iff_mem, h.options c hMem]
  rw [readLetters_of_known h.known, readLetters_of_known h.known', hSame 'i' (by decide),
    hSame 'm' (by decide), hSame 's' (by decide), hSame 'x' (by decide)]

/-- A pattern without the letters it was written with. -/
def unflagged (p : Pattern) : Pattern := { p with flags := "" }

/-- What is compiled depends on the letters only through the options they set. -/
theorem compile_sameOptions {source flags flags' : String}
    (h : SameOptions flags.toList flags'.toList) {p : Pattern}
    (hCompile : compile source flags = .ok p) :
    ∃ p', compile source flags' = .ok p' ∧ p'.unflagged = p.unflagged := by
  unfold compile at hCompile ⊢
  rw [← h.readLetters_eq]
  split at hCompile
  · cases hCompile
  next f hFlags =>
    split at hCompile
    · cases hCompile
    next expr hParse =>
      split at hCompile
      next hFits =>
        obtain rfl := Except.ok.inj hCompile
        exact ⟨⟨source, flags', expr⟩, by simp only [hFits, if_true], rfl⟩
      · cases hCompile

end Pattern

namespace Schema

open Markup (Attribute)

namespace Draft

/-- Attributes that can be read and say nothing about a pattern. -/
structure Unpatterned (others : List Attribute) : Prop where
  readable : ∀ a ∈ others, Readable a
  declares : ∀ a ∈ others, declaration? a = none
  flags : ∀ a ∈ others, a.name ≠ "flags"

/-- Attributes that say all there is about a pattern. -/
structure Patterned (extra : List Attribute) (p : PatternDeclaration) : Prop where
  readable : ∀ a ∈ extra, Readable a
  declares : extra.filterMap declaration? = [p]
  names : ∀ a ∈ extra, (declaration? a).isSome ∨ a.name = "flags"
  nodup : (extra.map Attribute.name).Nodup
  flags : p.key ≠ "pattern" ∨ "flags" ∈ extra.map Attribute.name

theorem isSome_declaration?_eq {a b : Attribute} (h : a.name = b.name) :
    (declaration? a).isSome = (declaration? b).isSome := by
  unfold declaration?
  rw [h]
  split
  · rfl
  · rw [Option.isSome_map, Option.isSome_map]

variable {extra others : List Attribute} {p : PatternDeclaration}

/-- Attributes of a pattern are never attributes of another constraint. -/
theorem Patterned.notMem_names (h : Patterned extra p) {a : Attribute} (hMem : a ∈ extra) :
    a.name ∉ Constraints.names := by
  intro hName
  rcases h.names a hMem with hDeclares | hFlags
  · rw [declaration?_of_mem (.tail _ hName) a.value] at hDeclares
    cases hDeclares
  · rw [hFlags] at hName
    exact absurd hName (by decide)

/-- Attributes of a pattern do not meet the names of others. -/
theorem Patterned.nodup_append (h : Patterned extra p) (hOthers : Unpatterned others)
    (hNames : (others.map Attribute.name).Nodup) :
    ((extra ++ others).map Attribute.name).Nodup := by
  rw [List.map_append, List.nodup_append']
  refine ⟨h.nodup, hNames, fun name hExtra hOther => ?_⟩
  obtain ⟨a, hMem, rfl⟩ := List.mem_map.mp hExtra
  obtain ⟨b, hMem', hSame⟩ := List.mem_map.mp hOther
  rcases h.names a hMem with hDeclares | hFlags
  · rw [← isSome_declaration?_eq hSame, hOthers.declares b hMem'] at hDeclares
    cases hDeclares
  · exact hOthers.flags b hMem' (hSame.trans hFlags)

end Draft

section Together

open Draft

variable {path : String} {extra others attributes : List Attribute} {p : PatternDeclaration}
  {c : Constraints} (hPatterned : Patterned extra p)
  (hNames : (attributes.map Attribute.name).Nodup) (hPerm : attributes.Perm (extra ++ others))
include hPatterned hNames hPerm

omit hPatterned in
/-- A value is looked up among all attributes. It is found in the one part or in the other, since
names are distinct. -/
theorem ofAttributes_eq_some_iff_or {name value : String} :
    Values.ofAttributes attributes name = some value ↔
      ⟨name, value⟩ ∈ extra ∨ ⟨name, value⟩ ∈ others := by
  rw [Values.ofAttributes_eq_some_iff hNames, hPerm.mem_iff, List.mem_append]

omit hPatterned in
theorem nodup_parts : (extra.map Attribute.name).Nodup ∧ (others.map Attribute.name).Nodup ∧
    (extra.map Attribute.name).Disjoint (others.map Attribute.name) := by
  have hBoth := (hPerm.map Attribute.name).nodup_iff.mp hNames
  rwa [List.map_append, List.nodup_append'] at hBoth

/-- What attributes declare of which some say all about a pattern: that pattern, if it compiles,
beside what the others declare on their own. -/
theorem ofAttributes_of_unpatterned (hOthers : Unpatterned others) :
    Constraints.ofAttributes path attributes =
      ((Draft.mk (.ofValues (.ofAttributes others)) (some p)
        (Values.ofAttributes extra "flags")).pattern? path).map fun pattern =>
          { Constraints.ofValues (.ofAttributes others) with pattern } := by
  obtain ⟨hExtraNames, hOtherNames, -⟩ := nodup_parts hNames hPerm
  have hReadable : ∀ a ∈ attributes, Readable a := by
    intro a hMem
    rcases List.mem_append.mp (hPerm.mem_iff.mp hMem) with hExtra | hOther
    · exact hPatterned.readable a hExtra
    · exact hOthers.readable a hOther
  have hDeclared : attributes.filterMap declaration? = (some p).toList := by
    have hDeclares := hPerm.filterMap declaration?
    rw [List.filterMap_append, hPatterned.declares,
      List.filterMap_eq_nil_iff.mpr hOthers.declares] at hDeclares
    exact List.perm_singleton.mp hDeclares
  have hConstraints : Constraints.ofValues (.ofAttributes attributes) =
      .ofValues (.ofAttributes others) := by
    refine Constraints.ofValues_congr fun name hMem => Option.ext fun value => ?_
    rw [ofAttributes_eq_some_iff_or hNames hPerm, Values.ofAttributes_eq_some_iff hOtherNames]
    exact or_iff_right fun hExtra => hPatterned.notMem_names hExtra hMem
  have hFlags : Values.ofAttributes attributes "flags" = Values.ofAttributes extra "flags" := by
    refine Option.ext fun value => ?_
    rw [ofAttributes_eq_some_iff_or hNames hPerm, Values.ofAttributes_eq_some_iff hExtraNames]
    exact or_iff_left fun hOther => hOthers.flags _ hOther rfl
  rw [Constraints.ofAttributes_eq_map hReadable hDeclared, ofValues, hConstraints, hFlags]

/-- Nothing more about a pattern stands beside them. -/
theorem unpatterned_of_ofAttributes
    (h : Constraints.ofAttributes path attributes = .ok c) : Unpatterned others := by
  obtain ⟨hReadable, declared, pattern, hDeclared, hPattern, -⟩ :=
    Constraints.ofAttributes_eq_ok_iff.mp h
  have hNone : others.filterMap declaration? = [] ∧ declared = some p := by
    have hDeclares := hPerm.filterMap declaration?
    rw [List.filterMap_append, hPatterned.declares, hDeclared] at hDeclares
    cases declared with
    | none => exact absurd hDeclares.length_eq (by simp)
    | some q =>
      obtain ⟨rfl, hRest⟩ := List.cons.inj (List.singleton_perm.mp hDeclares)
      exact ⟨hRest.symm, rfl⟩
  refine ⟨fun a hMem => hReadable a (hPerm.mem_iff.mpr (List.mem_append_right _ hMem)),
    List.filterMap_eq_nil_iff.mp hNone.1, fun a hMem hFlags => ?_⟩
  rcases hPatterned.flags with hKey | hExtra
  · have hValue : Values.ofAttributes attributes "flags" = some a.value := by
      rw [ofAttributes_eq_some_iff_or hNames hPerm, ← hFlags]
      exact .inr hMem
    rw [hNone.2, ofValues, hValue] at hPattern
    simp [pattern?, hKey] at hPattern
  · exact (nodup_parts hNames hPerm).2.2 hExtra (List.mem_map.mpr ⟨a, hMem, hFlags⟩)

end Together

/-- The attributes that spell a pattern with flags, and the key that errors name. -/
inductive Spelled (source flags : String) : String → List Attribute → Prop where
  | inName : Spelled source flags ("pattern_" ++ flags) [⟨"pattern_" ++ flags, source⟩]
  | beside : Spelled source flags "pattern" [⟨"pattern", source⟩, ⟨"flags", flags⟩]

/-- What becomes of a pattern that cannot be compiled. -/
def patternError (path key : String) : Pattern.Error → Error
  | .unknownFlag letter => .invalidAttribute path key (.unknownPatternFlag letter)
  | .badSource defect => .invalidPattern path defect

namespace Draft

theorem flagsInName?_append (flags : String) :
    flagsInName? ("pattern_" ++ flags) = some flags := by
  simp [flagsInName?]

theorem append_ne_of_flagsInName? {name : String} (h : flagsInName? name = none) (flags : String) :
    "pattern_" ++ flags ≠ name := by
  intro hName
  rw [← hName, flagsInName?_append] at h
  cases h

theorem declaration?_append (source flags : String) :
    declaration? ⟨"pattern_" ++ flags, source⟩ = some ⟨"pattern_" ++ flags, source, flags⟩ := by
  have hName := append_ne_of_flagsInName? (by decide : flagsInName? "pattern" = none) flags
  simp only [declaration?, if_neg hName, flagsInName?_append, Option.map_some]

theorem readable_of_declaration? {a : Attribute} {p : PatternDeclaration}
    (h : declaration? a = some p) : Readable a :=
  ⟨_, read_of_declaration? h⟩

/-- The pattern is compiled with the flags of the `flags` attribute, or with those in its name if
there is none. -/
theorem pattern?_of_some {path : String} {d : Draft} {p : PatternDeclaration}
    (hPattern : d.pattern = some p) (hFlags : d.flags = none ∨ p.key = "pattern") :
    d.pattern? path = ((Pattern.compile p.source (d.flags.getD p.flags)).mapError
      (patternError path p.key)).map some := by
  have hClear : (d.flags.isSome && p.key != "pattern") = false := by
    rcases hFlags with hNone | hKey
    · simp [hNone]
    · simp [hKey]
  unfold pattern?
  rw [hPattern]
  dsimp only
  rw [hClear]
  cases Pattern.compile p.source (d.flags.getD p.flags) with
  | ok pattern => rfl
  | error e => cases e <;> rfl

end Draft

/-- Constraints without the letters that the flags of the pattern were written with. -/
def Constraints.unflagged (c : Constraints) : Constraints :=
  { c with pattern := c.pattern.map Pattern.unflagged }

/-- Attributes that declare constraints without a pattern say nothing about one. A `flags` attribute
alone would be refused. -/
theorem unpatterned_of_pattern_eq_none {path : String} {others : List Attribute}
    {c : Constraints} (hNames : (others.map Attribute.name).Nodup)
    (hValid : Constraints.ofAttributes path others = .ok c) (hNone : c.pattern = none) :
    Draft.Unpatterned others := by
  obtain ⟨hReadable, declared, pattern, hDeclared, hPattern, rfl⟩ :=
    Constraints.ofAttributes_eq_ok_iff.mp hValid
  obtain rfl : pattern = none := hNone
  have hClear : declared = none ∧ Values.ofAttributes others "flags" = none := by
    unfold Draft.pattern? at hPattern
    split at hPattern
    next hDeclares hFlags => exact ⟨hDeclares, hFlags⟩
    · cases hPattern
    · split at hPattern
      · cases hPattern
      · split at hPattern <;> cases hPattern
  rw [hClear.1] at hDeclared
  refine ⟨hReadable, List.filterMap_eq_nil_iff.mp hDeclared, fun a hMem hFlags => ?_⟩
  have hValue : Values.ofAttributes others "flags" = some a.value := by
    rw [Values.ofAttributes_eq_some_iff hNames, ← hFlags]
    exact hMem
  rw [hClear.2] at hValue
  cases hValue

namespace Spelled

variable {path source flags key : String} {extra others attributes : List Attribute}

/-- Either spelling says all there is about its pattern, and comes to the same source and flags. -/
theorem exists_patterned (h : Spelled source flags key extra) :
    ∃ inName, Draft.Patterned extra ⟨key, source, inName⟩ ∧
      (Values.ofAttributes extra "flags" = none ∨ key = "pattern") ∧
      (Values.ofAttributes extra "flags").getD inName = flags := by
  cases h with
  | inName =>
    have hDeclares := Draft.declaration?_append source flags
    have hPattern := Draft.append_ne_of_flagsInName?
      (by decide : Draft.flagsInName? "pattern" = none) flags
    have hFlags := Draft.append_ne_of_flagsInName?
      (by decide : Draft.flagsInName? "flags" = none) flags
    have hNone : Values.ofAttributes [⟨"pattern_" ++ flags, source⟩] "flags" = none := by
      simp [Values.ofAttributes, Values.set, hFlags.symm]
    refine ⟨flags, ⟨?_, ?_, ?_, ?_, .inl hPattern⟩, .inl hNone, by rw [hNone]; rfl⟩
    · simpa using Draft.readable_of_declaration? hDeclares
    · simp [hDeclares]
    · simp [hDeclares]
    · simp
  | beside =>
    have hValue : Values.ofAttributes [⟨"pattern", source⟩, ⟨"flags", flags⟩] "flags" =
        some flags := by
      simp [Values.ofAttributes, Values.set]
    have hDeclares : Draft.declaration? ⟨"pattern", source⟩ = some ⟨"pattern", source, ""⟩ := rfl
    have hPlain : Draft.declaration? ⟨"flags", flags⟩ = none :=
      Draft.declaration?_of_mem (.head _) flags
    refine ⟨"", ⟨?_, ?_, ?_, ?_, .inr (by simp)⟩, .inr rfl, by rw [hValue]; rfl⟩
    · have hFlags : Draft.Readable ⟨"flags", flags⟩ := ⟨_, rfl⟩
      simpa [hFlags] using Draft.readable_of_declaration? hDeclares
    · simp [hDeclares, hPlain]
    · simp [hDeclares]
    · simp

/-- What attributes declare that spell a pattern: in the one spelling the same as in the other, but
for the key that an error names. -/
theorem ofAttributes_eq (h : Spelled source flags key extra)
    (hNames : (attributes.map Attribute.name).Nodup) (hPerm : attributes.Perm (extra ++ others))
    (hOthers : Draft.Unpatterned others) :
    Constraints.ofAttributes path attributes =
      ((Pattern.compile source flags).mapError (patternError path key)).map fun p =>
        { Constraints.ofValues (.ofAttributes others) with pattern := some p } := by
  obtain ⟨inName, hPatterned, hClear, hFlags⟩ := h.exists_patterned
  rw [ofAttributes_of_unpatterned hPatterned hNames hPerm hOthers,
    Draft.pattern?_of_some rfl hClear, hFlags]
  cases (Pattern.compile source flags).mapError (patternError path key) <;> rfl

/-- If a tag with a spelled pattern is valid, its other attributes say nothing more about a pattern.
-/
theorem unpatterned (h : Spelled source flags key extra)
    (hNames : (attributes.map Attribute.name).Nodup) (hPerm : attributes.Perm (extra ++ others))
    {c : Constraints} (hOk : Constraints.ofAttributes path attributes = .ok c) :
    Draft.Unpatterned others := by
  obtain ⟨inName, hPatterned, -, -⟩ := h.exists_patterned
  exact unpatterned_of_ofAttributes hPatterned hNames hPerm hOk

/-- Another spelling with the same options, beside the same attributes, declares the same but for
the letters of the flags. -/
theorem exists_ofAttributes {flags' key' : String} {extra' attributes' : List Attribute}
    (h : Spelled source flags key extra) (h' : Spelled source flags' key' extra')
    (hSame : Pattern.SameOptions flags.toList flags'.toList)
    (hNames : (attributes.map Attribute.name).Nodup) (hPerm : attributes.Perm (extra ++ others))
    (hPerm' : attributes'.Perm (extra' ++ others)) {c : Constraints}
    (hOk : Constraints.ofAttributes path attributes = .ok c) :
    (attributes'.map Attribute.name).Nodup ∧ ∃ c', Constraints.ofAttributes path attributes' =
      .ok c' ∧ c'.unflagged = c.unflagged := by
  have hOthers := h.unpatterned hNames hPerm hOk
  have hNames' : (attributes'.map Attribute.name).Nodup := by
    obtain ⟨inName, hPatterned, -, -⟩ := h'.exists_patterned
    have hParts := hPatterned.nodup_append hOthers (nodup_parts hNames hPerm).2.1
    exact (hPerm'.map Attribute.name).nodup_iff.mpr hParts
  rw [h.ofAttributes_eq hNames hPerm hOthers, map_eq_ok_iff] at hOk
  obtain ⟨p, hCompile, rfl⟩ := hOk
  obtain ⟨p', hCompile', hPattern⟩ :=
    Pattern.compile_sameOptions hSame (mapError_eq_ok_iff.mp hCompile)
  refine ⟨hNames', { Constraints.ofValues (.ofAttributes others) with pattern := some p' }, ?_, ?_⟩
  · rw [h'.ofAttributes_eq hNames' hPerm' hOthers, hCompile']
    rfl
  · simp [Constraints.unflagged, hPattern]

/-- A letter of the flags that is not known is refused before the expression is looked at, if the
other attributes are valid. The error names the key of the spelling. -/
theorem ofAttributes_unknown_letter (h : Spelled source flags key extra)
    (hNames : (attributes.map Attribute.name).Nodup) (hPerm : attributes.Perm (extra ++ others))
    {c : Constraints} (hValid : Constraints.ofAttributes path others = .ok c)
    (hNone : c.pattern = none) {known rest : List Char} {letter : Char}
    (hFlags : flags.toList = known ++ letter :: rest)
    (hKnown : ∀ c ∈ known, c ∈ Pattern.flagLetters) (hLetter : letter ∉ Pattern.flagLetters) :
    Constraints.ofAttributes path attributes =
      .error (.invalidAttribute path key (.unknownPatternFlag letter)) := by
  have hOthers := unpatterned_of_pattern_eq_none (nodup_parts hNames hPerm).2.1 hValid hNone
  have hRefused : Pattern.compile source flags = .error (.unknownFlag letter) := by
    rw [Pattern.compile, hFlags, Pattern.readLetters_append_cons hKnown hLetter]
  rw [h.ofAttributes_eq hNames hPerm hOthers, hRefused]
  rfl

/-- Beside other attributes that are valid and declare a pattern themselves, either spelling is one
pattern too many. No letter of its flags is looked at then. -/
theorem ofAttributes_second_pattern (h : Spelled source flags key extra)
    (hPerm : attributes.Perm (extra ++ others)) {c : Constraints}
    (hValid : Constraints.ofAttributes path others = .ok c) (hSome : c.pattern ≠ none) :
    ∃ first second, (key = first ∨ key = second) ∧ Constraints.ofAttributes path attributes =
      .error (.ambiguousPattern path (.declaredTwice first second)) := by
  obtain ⟨inName, hPatterned, -, -⟩ := h.exists_patterned
  obtain ⟨hOthers, declared, pattern, hDeclared, hPattern, rfl⟩ :=
    Constraints.ofAttributes_eq_ok_iff.mp hValid
  have hReadable : ∀ a ∈ attributes, Draft.Readable a := by
    intro a hMem
    rcases List.mem_append.mp (hPerm.mem_iff.mp hMem) with hExtra | hOther
    · exact hPatterned.readable a hExtra
    · exact hOthers a hOther
  cases declared with
  | none =>
    rw [Draft.pattern?, Draft.ofValues] at hPattern
    dsimp only at hPattern
    cases hFlags : Values.ofAttributes others "flags" with
    | none =>
      rw [hFlags] at hPattern
      exact absurd (Except.ok.inj hPattern).symm hSome
    | some alone =>
      rw [hFlags] at hPattern
      cases hPattern
  | some other =>
    have hBoth : (attributes.filterMap Draft.declaration?).Perm [⟨key, source, inName⟩, other] := by
      have hDeclares := hPerm.filterMap Draft.declaration?
      rwa [List.filterMap_append, hPatterned.declares, hDeclared] at hDeclares
    obtain ⟨first, second, hTwo⟩ := List.length_eq_two.mp hBoth.length_eq
    refine ⟨first.key, second.key, ?_, Constraints.ofAttributes_of_two hReadable hTwo⟩
    have hMem : (⟨key, source, inName⟩ : PatternDeclaration) ∈ [first, second] := by
      rw [← hTwo]
      exact hBoth.mem_iff.mpr (.head _)
    rcases List.mem_pair.mp hMem with rfl | rfl
    · exact .inl rfl
    · exact .inr rfl

end Spelled

end Schema

end MarkupRules
