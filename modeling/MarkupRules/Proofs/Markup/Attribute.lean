import MarkupRules.Markup.Attribute
import MarkupRules.Proofs.Except
import Mathlib.Data.List.Nodup
import Mathlib.Data.List.TakeWhile

/-!
The attributes of a tag: they have distinct names, and they stand behind the tag's own name.
-/
namespace MarkupRules.Markup.Attribute

/-- A key is noted only if it did not come before, and then it is the last of those seen. -/
theorem noteKey_eq_ok {seen seen' : Seen} {key : Key} (h : noteKey seen key = .ok seen') :
    seen' = seen ++ [key] ∧ ∀ k ∈ seen, k.chars ≠ key.chars := by
  unfold noteKey at h
  split at h
  · cases h
  · next hFind =>
    obtain rfl := Except.ok.inj h
    refine ⟨rfl, fun k hk hEq => ?_⟩
    have hNone := List.find?_eq_none.mp hFind k hk
    simp [hEq] at hNone

/-- The key of an attribute that was cut off has been noted. -/
theorem noteKey_of_cutAttribute {mode : AttributeMode} {seen seen' : Seen} {s rest : Located}
    {key : Key} {raw : List Char}
    (h : cutAttribute mode seen s = .ok (some ((key, raw), seen', rest))) :
    noteKey seen key = .ok seen' := by
  unfold cutAttribute at h
  dsimp only at h
  split at h
  · cases h
  · split at h
    · obtain ⟨noted, hNote, h⟩ := bind_eq_ok_iff.mp h
      obtain ⟨value, -, h⟩ := bind_eq_ok_iff.mp h
      obtain ⟨⟨rfl, -⟩, rfl, -⟩ := by simpa [pure, Except.pure] using h
      exact hNote
    · cases h
    · obtain ⟨noted, hNote, h⟩ := bind_eq_ok_iff.mp h
      obtain ⟨⟨rfl, -⟩, rfl, -⟩ := by simpa [pure, Except.pure] using h
      exact hNote

/-- The names that are read are distinct, and none of them is the name of a key that came before. -/
theorem nodup_names_readFrom {mode : AttributeMode} {fuel : Nat} {seen : Seen} {s : Located}
    {attributes : List Attribute} (h : readFrom mode fuel seen s = .ok attributes) :
    (attributes.map Attribute.name).Nodup ∧
      ∀ k ∈ seen, String.ofList k.chars ∉ attributes.map Attribute.name := by
  induction fuel generalizing seen s attributes with
  | zero =>
    obtain rfl := Except.ok.inj h
    simp
  | succ fuel ih =>
    rw [readFrom] at h
    obtain ⟨cut, hCut, h⟩ := bind_eq_ok_iff.mp h
    rw [mapError_eq_ok_iff] at hCut
    cases cut with
    | none =>
      obtain rfl := Except.ok.inj h
      simp
    | some cut =>
      obtain ⟨⟨key, raw⟩, seen', rest⟩ := cut
      obtain ⟨rfl, hFresh⟩ := noteKey_eq_ok (noteKey_of_cutAttribute hCut)
      obtain ⟨value, -, h⟩ := bind_eq_ok_iff.mp h
      obtain ⟨others, hOthers, h⟩ := bind_eq_ok_iff.mp h
      obtain rfl := Except.ok.inj h
      obtain ⟨hNodup, hSeen⟩ := ih hOthers
      refine ⟨List.nodup_cons.mpr ⟨hSeen key (by simp), hNodup⟩, fun k hk hMem => ?_⟩
      rcases List.mem_cons.mp hMem with hHead | hTail
      · exact hFresh k hk (String.ofList_injective hHead)
      · exact hSeen k (List.mem_append_left _ hk) hTail

/-- The attributes of a tag have distinct names, in either mode. A tag where a name comes twice is
refused as a whole. -/
theorem nodup_names_ofTag {mode : AttributeMode} {content : List Char}
    {attributes : List Attribute} (h : ofTag mode content = .ok attributes) :
    (attributes.map Attribute.name).Nodup :=
  (nodup_names_readFrom h).1

/-- The name of a tag goes up to the first blank. -/
theorem tagName_append {name : List Char} (hName : ∀ c ∈ name, isTagBlank c = false)
    {rest : List Char} (hRest : ∀ c, rest.head? = some c → isTagBlank c = true) :
    tagName (name ++ rest) = name := by
  have hStop : rest.takeWhile (!isTagBlank ·) = [] := by
    cases rest with
    | nil => rfl
    | cons c rest => simp [hRest c rfl]
  rw [tagName, List.takeWhile_append_of_pos (by simpa using hName), hStop, List.append_nil]

/-- The attributes of a tag are those of what stands behind its name. -/
theorem ofTag_append (mode : AttributeMode) {name : List Char}
    (hName : ∀ c ∈ name, isTagBlank c = false) {rest : List Char}
    (hRest : ∀ c, rest.head? = some c → isTagBlank c = true) :
    ofTag mode (name ++ rest) =
      readFrom mode (name ++ rest).length [] ⟨Text.byteLength name, rest⟩ := by
  simp only [ofTag, tagName_append hName hRest, List.drop_left]

/-- Blanks hold no attributes. -/
theorem readFrom_of_blank (mode : AttributeMode) (fuel : Nat) (seen : Seen) {s : Located}
    (hBlank : ∀ c ∈ s.chars, isTagBlank c = true) : readFrom mode fuel seen s = .ok [] := by
  cases fuel with
  | zero => rfl
  | succ fuel =>
    have hNone : (s.dropWhile isTagBlank).chars = [] := List.dropWhile_eq_nil_iff.mpr hBlank
    have hCut : cutAttribute mode seen s = .ok none := by
      unfold cutAttribute
      dsimp only
      rw [hNone]
    rw [readFrom, hCut]
    rfl

end MarkupRules.Markup.Attribute
