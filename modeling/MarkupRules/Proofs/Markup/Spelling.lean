import MarkupRules.Proofs.Markup.Attribute
import Mathlib.Data.List.Perm.Basic

/-!
How the attributes of a tag are spelled.

A tag spells a list of keys with their values as they are written, whether or not a key comes
twice and whatever references the values hold. The attributes can be read just if the keys are
distinct and the references can be resolved, so tags that spell the same can be read alike.
-/
namespace MarkupRules.Markup.Attribute

/-- A key and its value as written. -/
abbrev Raw := List Char × List Char

/-- The text `s` spells `raws`, one after the other. -/
inductive Spells (mode : AttributeMode) : Located → List Raw → Prop where
  | nil {s : Located} (hCut : cutAttribute mode [] s = .ok none) : Spells mode s []
  | cons {s rest : Located} {key : Key} {value : List Char} {seen : Seen} {raws : List Raw}
      (hCut : cutAttribute mode [] s = .ok (some ((key, value), seen, rest)))
      (hRest : Spells mode rest raws) : Spells mode s ((key.chars, value) :: raws)

/-- The tag with this content spells `raws` behind its name. -/
def SpellsTag (mode : AttributeMode) (content : List Char) (raws : List Raw) : Prop :=
  Spells mode ⟨Text.byteLength (tagName content), content.drop (tagName content).length⟩ raws

/-- What a text spells that can be cut into at most `fuel` attributes. -/
def spelled? (mode : AttributeMode) : Nat → Located → Option (List Raw)
  | 0, _ => none
  | fuel + 1, s =>
    match cutAttribute mode [] s with
    | .ok (some ((key, value), _, rest)) => (spelled? mode fuel rest).map ((key.chars, value) :: ·)
    | .ok none => some []
    | .error _ => none

/-- What is computed to be spelled is spelled. This is how examples show what their tags say. -/
theorem spells_of_spelled? {mode : AttributeMode} (fuel : Nat) {s : Located} {raws : List Raw}
    (h : spelled? mode fuel s = some raws) : Spells mode s raws := by
  induction fuel generalizing s raws with
  | zero => cases h
  | succ fuel ih =>
    rw [spelled?] at h
    split at h
    next hCut =>
      obtain ⟨others, hOthers, rfl⟩ := Option.map_eq_some_iff.mp h
      exact .cons hCut (ih hOthers)
    next hCut =>
      cases h
      exact .nil hCut
    · cases h

/-- What a spelled attribute stands for, if its references can be resolved. -/
inductive StandsFor : Raw → Attribute → Prop where
  | mk (key : List Char) {raw value : List Char} (hValue : Reference.resolve raw = .ok value) :
      StandsFor (key, raw) ⟨String.ofList key, String.ofList value⟩

theorem rightUnique_standsFor : Relator.RightUnique StandsFor := by
  rintro _ _ _ ⟨key, hValue⟩ ⟨_, hOther⟩
  rw [Except.ok.inj (hValue.symm.trans hOther)]

theorem Located.length_dropWhile_le (p : Char → Bool) (s : Located) :
    (s.dropWhile p).chars.length ≤ s.chars.length :=
  (List.dropWhile_sublist p).length_le

/-- Cutting a value off never makes the text longer. -/
theorem cutValue_length {mode : AttributeMode} {s rest : Located} {value : List Char}
    (h : cutValue mode s = .ok (value, rest)) : rest.chars.length ≤ s.chars.length := by
  have hBlanks := s.length_dropWhile_le isTagBlank
  unfold cutValue at h
  dsimp only at h
  split at h
  · cases h
  next c more hChars =>
    rw [hChars, List.length_cons] at hBlanks
    split at h
    · have hTail := Located.length_dropWhile_le (· != c) ⟨(s.dropWhile isTagBlank).offset + 1, more⟩
      split at h
      · cases h
      next hQuote =>
        cases h
        rw [hQuote, List.length_cons] at hTail
        simp only at hTail ⊢
        omega
    · split at h
      · cases h
      · cases h
        have hTail := (s.dropWhile isTagBlank).length_dropWhile_le (!isTagBlank ·)
        rw [hChars, List.length_cons] at hTail
        omega

/-- What stands behind a key and blanks: a value behind `=`, or in boolean mode nothing that
belongs to the key. -/
def cutBehindKey (mode : AttributeMode) (next : Located) :
    Except AttributeDefect (List Char × Located) :=
  match next.chars, mode with
  | '=' :: rest, _ => cutValue mode ⟨next.offset + 1, rest⟩
  | _, .strict => .error (.expectedEquals next.offset)
  | _, .boolean => .ok ([], next)

theorem cutBehindKey_of_equals {mode : AttributeMode} {next : Located} {behind : List Char}
    (h : next.chars = '=' :: behind) :
    cutBehindKey mode next = cutValue mode ⟨next.offset + 1, behind⟩ := by
  unfold cutBehindKey
  rw [h]
  rfl

/-- Without an equals sign a key has no value, which only boolean mode allows. -/
theorem cutBehindKey_of_not_equals {mode : AttributeMode} {next : Located}
    (h : ∀ behind, next.chars = '=' :: behind → False) :
    cutBehindKey mode next = match mode with
      | .strict => .error (.expectedEquals next.offset)
      | .boolean => .ok ([], next) := by
  unfold cutBehindKey
  split
  next behind hEquals => exact (h behind hEquals).elim
  · rfl
  · rfl

/-- What is left behind a key and its value is no longer than what stood behind the key. -/
theorem cutBehindKey_length {mode : AttributeMode} {next rest : Located} {value : List Char}
    (h : cutBehindKey mode next = .ok (value, rest)) :
    rest.chars.length ≤ next.chars.length := by
  unfold cutBehindKey at h
  split at h
  next more hEquals =>
    rw [hEquals, List.length_cons]
    exact (cutValue_length h).trans (Nat.le_succ _)
  · cases h
  · cases h
    exact le_rfl

section Cut

variable {mode : AttributeMode} {seen seen' : Seen} {s rest : Located} {key : Key}
  {value : List Char}

/-- An attribute is cut off just if its key is fresh and what stands behind the key can be cut off.
-/
theorem cutAttribute_of_cons {first : Char} {more : List Char}
    (hChars : (s.dropWhile isTagBlank).chars = first :: more)
    {cut : Option ((Key × List Char) × Seen × Located)} :
    cutAttribute mode seen s = .ok cut ↔ ∃ seen' value rest,
      noteKey seen (cutKey first (s.dropWhile isTagBlank).offset more).1 = .ok seen' ∧
      cutBehindKey mode ((cutKey first (s.dropWhile isTagBlank).offset more).2.dropWhile
        isTagBlank) = .ok (value, rest) ∧
      cut = some (((cutKey first (s.dropWhile isTagBlank).offset more).1, value), seen', rest) := by
  unfold cutAttribute
  dsimp only
  rw [hChars]
  dsimp only
  generalize cutKey first (s.dropWhile isTagBlank).offset more = cutOff
  split
  next behind hEquals =>
    rw [cutBehindKey_of_equals hEquals]
    simp only [bind_eq_ok_iff, Prod.exists]
    constructor
    · rintro ⟨seen', hFresh, value, rest, hValue, hCut⟩
      exact ⟨seen', value, rest, hFresh, hValue, (Except.ok.inj hCut).symm⟩
    · rintro ⟨seen', value, rest, hFresh, hValue, rfl⟩
      exact ⟨seen', hFresh, value, rest, hValue, rfl⟩
  next hNone =>
    simp [cutBehindKey_of_not_equals hNone]
  next hNone =>
    rw [cutBehindKey_of_not_equals hNone]
    simp only [bind_eq_ok_iff]
    constructor
    · rintro ⟨seen', hFresh, hCut⟩
      exact ⟨seen', _, _, hFresh, rfl, (Except.ok.inj hCut).symm⟩
    · rintro ⟨seen', value, rest, hFresh, hValue, rfl⟩
      obtain ⟨rfl, rfl⟩ := Prod.mk.inj (Except.ok.inj hValue)
      exact ⟨seen', hFresh, rfl⟩

theorem cutAttribute_of_nil (hChars : (s.dropWhile isTagBlank).chars = []) :
    cutAttribute mode seen s = .ok none := by
  unfold cutAttribute
  dsimp only
  rw [hChars]

/-- Cutting an attribute off takes at least one character, so that the reader comes to an end. -/
theorem cutAttribute_length
    (h : cutAttribute mode seen s = .ok (some ((key, value), seen', rest))) :
    rest.chars.length < s.chars.length := by
  have hBlanks := s.length_dropWhile_le isTagBlank
  cases hChars : (s.dropWhile isTagBlank).chars with
  | nil =>
    rw [cutAttribute_of_nil hChars] at h
    cases h
  | cons first more =>
    obtain ⟨_, _, _, -, hBehind, hCut⟩ := (cutAttribute_of_cons hChars).mp h
    cases hCut
    have hValue := cutBehindKey_length hBehind
    have hNext := Located.length_dropWhile_le isTagBlank
      (cutKey first (s.dropWhile isTagBlank).offset more).2
    have hKey : (cutKey first (s.dropWhile isTagBlank).offset more).2.chars.length ≤ more.length :=
      Located.length_dropWhile_le _ ⟨_, more⟩
    rw [hChars, List.length_cons] at hBlanks
    omega

/-- The keys that came before decide only whether the key is refused, not what is cut off. -/
theorem cutAttribute_eq_some_iff :
    cutAttribute mode seen s = .ok (some ((key, value), seen', rest)) ↔
      (∃ alone, cutAttribute mode [] s = .ok (some ((key, value), alone, rest))) ∧
        noteKey seen key = .ok seen' := by
  cases hChars : (s.dropWhile isTagBlank).chars with
  | nil => simp [cutAttribute_of_nil hChars]
  | cons first more =>
    simp only [cutAttribute_of_cons hChars]
    constructor
    · rintro ⟨_, _, _, hFresh, hBehind, hCut⟩
      cases hCut
      exact ⟨⟨_, _, _, _, rfl, hBehind, rfl⟩, hFresh⟩
    · rintro ⟨⟨_, _, _, _, -, hBehind, hCut⟩, hFresh⟩
      cases hCut
      exact ⟨_, _, _, hFresh, hBehind, rfl⟩

theorem cutAttribute_eq_none_iff :
    cutAttribute mode seen s = .ok none ↔ cutAttribute mode [] s = .ok none := by
  cases hChars : (s.dropWhile isTagBlank).chars with
  | nil => simp [cutAttribute_of_nil hChars]
  | cons first more => simp [cutAttribute_of_cons hChars]

/-- A key is noted just if it has not come before, and then it joins those seen. -/
theorem noteKey_eq_ok_iff :
    noteKey seen key = .ok seen' ↔ (∀ k ∈ seen, k.chars ≠ key.chars) ∧ seen' = seen ++ [key] := by
  constructor
  · intro h
    obtain ⟨hSeen, hFresh⟩ := noteKey_eq_ok h
    exact ⟨hFresh, hSeen⟩
  · rintro ⟨hFresh, rfl⟩
    have hNone : seen.find? (·.chars == key.chars) = none := by simpa using hFresh
    rw [noteKey, hNone]

end Cut

variable {mode : AttributeMode} {raws : List Raw} {attributes : List Attribute}

/-- An attribute that can be cut off is read if its key is fresh and stands for something. -/
theorem readFrom_succ_eq_ok_iff {s rest : Located} {key : Key} {value : List Char}
    {alone seen : Seen} {fuel : Nat}
    (hCut : cutAttribute mode [] s = .ok (some ((key, value), alone, rest))) :
    readFrom mode (fuel + 1) seen s = .ok attributes ↔ (∀ k ∈ seen, k.chars ≠ key.chars) ∧
      ∃ a others, StandsFor (key.chars, value) a ∧
        readFrom mode fuel (seen ++ [key]) rest = .ok others ∧ attributes = a :: others := by
  rw [readFrom, bind_eq_ok_iff]
  constructor
  · rintro ⟨cut, hFirst, hBehind⟩
    rw [mapError_eq_ok_iff] at hFirst
    cases cut with
    | none =>
      rw [cutAttribute_eq_none_iff, hCut] at hFirst
      cases hFirst
    | some cut =>
      obtain ⟨⟨key', value'⟩, seen', rest'⟩ := cut
      obtain ⟨⟨alone', hAlone⟩, hNoted⟩ := cutAttribute_eq_some_iff.mp hFirst
      cases hCut.symm.trans hAlone
      obtain ⟨hFresh, rfl⟩ := noteKey_eq_ok_iff.mp hNoted
      obtain ⟨resolved, hValue, hBehind⟩ := bind_eq_ok_iff.mp hBehind
      obtain ⟨others, hOthers, hAll⟩ := bind_eq_ok_iff.mp hBehind
      exact ⟨hFresh, _, others, .mk _ (mapError_eq_ok_iff.mp hValue), hOthers,
        (Except.ok.inj hAll).symm⟩
  · rintro ⟨hFresh, _, others, ⟨_, hValue⟩, hOthers, rfl⟩
    have hNoted : noteKey seen key = .ok (seen ++ [key]) := noteKey_eq_ok_iff.mpr ⟨hFresh, rfl⟩
    refine ⟨_, mapError_eq_ok_iff.mpr (cutAttribute_eq_some_iff.mpr ⟨⟨_, hCut⟩, hNoted⟩), ?_⟩
    exact bind_eq_ok_iff.mpr ⟨_, mapError_eq_ok_iff.mpr hValue,
      bind_eq_ok_iff.mpr ⟨others, hOthers, rfl⟩⟩

/-- What is spelled can be read just if no key comes twice and all references can be resolved. -/
theorem Spells.readFrom_eq_ok_iff {s : Located} (h : Spells mode s raws) {fuel : Nat} {seen : Seen}
    (hFuel : s.chars.length ≤ fuel) :
    readFrom mode fuel seen s = .ok attributes ↔
      (raws.map Prod.fst).Nodup ∧ (∀ k ∈ seen, k.chars ∉ raws.map Prod.fst) ∧
        List.Forall₂ StandsFor raws attributes := by
  induction h generalizing fuel seen attributes with
  | @nil s hCut =>
    cases fuel with
    | zero => simp [readFrom, eq_comm]
    | succ fuel =>
      rw [readFrom, cutAttribute_eq_none_iff.mpr hCut]
      simp [bind, Except.bind, pure, Except.pure, Except.mapError, eq_comm]
  | @cons s rest key value alone raws hCut _ ih =>
    have hShorter := cutAttribute_length hCut
    obtain ⟨fuel, rfl⟩ : ∃ n, fuel = n + 1 := ⟨fuel - 1, by omega⟩
    have hEnough : rest.chars.length ≤ fuel := by omega
    simp only [readFrom_succ_eq_ok_iff hCut, ih hEnough, List.forall_mem_append,
      List.forall_mem_singleton]
    simp only [List.map_cons, List.nodup_cons, List.mem_cons, not_or, List.forall₂_cons_left_iff]
    constructor
    · rintro ⟨hFresh, a, others, hFirst, ⟨hDistinct, ⟨hSeen, hKey⟩, hOthers⟩, rfl⟩
      exact ⟨⟨hKey, hDistinct⟩, fun k hMem => ⟨hFresh k hMem, hSeen k hMem⟩, a, others, hFirst,
        hOthers, rfl⟩
    · rintro ⟨⟨hKey, hDistinct⟩, hFresh, a, others, hFirst, hOthers, rfl⟩
      exact ⟨fun k hMem => (hFresh k hMem).1, a, others, hFirst,
        ⟨hDistinct, ⟨fun k hMem => (hFresh k hMem).2, hKey⟩, hOthers⟩, rfl⟩

/-- The names of attributes are the keys that they were written with. -/
theorem map_name_of_forall₂ (h : List.Forall₂ StandsFor raws attributes) :
    attributes.map Attribute.name = (raws.map Prod.fst).map String.ofList := by
  induction h with
  | nil => rfl
  | cons hFirst _ ih =>
    cases hFirst with
    | mk key hValue => simp only [List.map_cons, ih]

/-- A tag that spells `raws` has the attributes that these stand for just if their names are
distinct. In which order they come is part of what is spelled. -/
theorem SpellsTag.ofTag_eq_ok_iff {content : List Char} (h : SpellsTag mode content raws) :
    ofTag mode content = .ok attributes ↔
      (attributes.map Attribute.name).Nodup ∧ List.Forall₂ StandsFor raws attributes := by
  rw [ofTag, Spells.readFrom_eq_ok_iff h (by simp)]
  simp only [List.not_mem_nil, false_implies, implies_true, true_and]
  refine and_congr_left fun hStands => ?_
  rw [map_name_of_forall₂ hStands, List.nodup_map_iff fun _ _ => String.ofList_injective]

theorem exists_forall₂_of_perm {raws' : List Raw} (hStands : List.Forall₂ StandsFor raws attributes)
    (hPerm : raws.Perm raws') :
    ∃ attributes', List.Forall₂ StandsFor raws' attributes' ∧ attributes.Perm attributes' := by
  obtain ⟨attributes', hStands', hPerm'⟩ := List.perm_comp_forall₂ hPerm.symm hStands
  exact ⟨attributes', hStands', hPerm'.symm⟩

end MarkupRules.Markup.Attribute
