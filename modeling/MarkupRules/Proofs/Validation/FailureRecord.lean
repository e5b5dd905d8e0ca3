import MarkupRules.Proofs.Json.ReadBack
import MarkupRules.Validation.FailureReader

/-!
Failures as records.

A record gives its failure back, as an object or as an array of its fields. Only a field that is
`null` is lost, since it reads as one that is absent; a failure that was read has none.
-/
namespace MarkupRules.Failure

open Json (WellFormed ReadsBack maxNesting)

/-- The JSON values in a failure: what was compared, and with what. -/
def values (f : Failure) : List Json := f.actual.toList ++ f.expected.toList

/-- The failure with absent fields in place of those that are `null`. -/
def withoutNulls (f : Failure) : Failure :=
  { f with actual := presentField f.actual, expected := presentField f.expected }

/-- The members of the record of a failure. -/
def members (f : Failure) : List (String × Json) :=
  [("code", .string f.code), ("path", .string f.path)] ++
    (f.actual.map ("actual", ·)).toList ++ (f.expected.map ("expected", ·)).toList ++
    ((f.value.map Json.string).map ("value", ·)).toList

/-- All fields of a failure in order, `null` if it does not have them. -/
def items (f : Failure) : List Json :=
  [.string f.code, .string f.path, f.actual.getD .null, f.expected.getD .null,
    (f.value.map .string).getD .null]

theorem toJson_eq (f : Failure) : f.toJson = .object f.members := rfl

theorem presentField_eq_self_iff (field : Option Json) :
    presentField field = field ↔ field ≠ some .null := by
  unfold presentField
  split <;> simp_all

theorem withoutNulls_eq_self_iff (f : Failure) :
    f.withoutNulls = f ↔ f.actual ≠ some .null ∧ f.expected ≠ some .null := by
  obtain ⟨code, path, actual, expected, value⟩ := f
  simp only [withoutNulls, mk.injEq, presentField_eq_self_iff, true_and, and_true]

/-- No member of a record comes twice. A record with one twice would not be read. -/
theorem nodup_members (f : Failure) : (f.members.map Prod.fst).Nodup := by
  obtain ⟨code, path, actual, expected, value⟩ := f
  cases actual <;> cases expected <;> cases value <;> simp [members]

/-- The members of a failure are put together to the failure again, but for what is `null`. -/
theorem ofObject?_members (f : Failure) : ofObject? f.members = some f.withoutNulls := by
  rw [ofObject?, if_pos f.nodup_members]
  obtain ⟨code, path, actual, expected, value⟩ := f
  cases actual <;> cases expected <;> cases value <;> rfl

/-- The same for the items of a failure. An absent field is written as `null` here, so the two
cannot be told apart. -/
theorem ofArray?_items (f : Failure) : ofArray? f.items = some f.withoutNulls := by
  obtain ⟨code, path, actual, expected, value⟩ := f
  cases actual <;> cases expected <;> cases value <;> rfl

/-- A failure whose values a program holds, with no doubles in them and nested at most `depth`
deep. -/
def Plain (depth : Nat) (f : Failure) : Prop :=
  ∀ v ∈ f.values, WellFormed depth v ∧ ¬ v.HasDouble

section Fields

variable {f : Failure}

/-- The values in the record of a plain failure read back, one level inside the record. -/
theorem Plain.readsBack (h : f.Plain (maxNesting - 1)) {v : Json}
    (hMem : (∃ s, v = .string s) ∨ v = .null ∨ v ∈ f.values) :
    ReadsBack (maxNesting - 1) v := by
  rcases hMem with ⟨s, rfl⟩ | rfl | hMem
  · exact Json.readsBack (.string s) nofun
  · exact Json.readsBack .null nofun
  · exact Json.readsBack (h v hMem).1 (h v hMem).2

/-- So do all members of the record, and each has the name of a field. -/
theorem Plain.members (h : f.Plain (maxNesting - 1)) :
    ∀ m ∈ f.members, m.1 ∈ fieldNames ∧ ReadsBack (maxNesting - 1) m.2 := by
  intro m hMem
  simp only [Failure.members, List.mem_append, List.mem_cons, List.not_mem_nil, or_false,
    Option.mem_toList, Option.map_eq_some_iff] at hMem
  rcases hMem with
    (((rfl | rfl) | ⟨v, hField, rfl⟩) | ⟨v, hField, rfl⟩) | ⟨_, ⟨s, hField, rfl⟩, rfl⟩
  · exact ⟨by simp [fieldNames], h.readsBack (.inl ⟨_, rfl⟩)⟩
  · exact ⟨by simp [fieldNames], h.readsBack (.inl ⟨_, rfl⟩)⟩
  · exact ⟨by simp [fieldNames], h.readsBack (.inr (.inr (by simp [values, hField])))⟩
  · exact ⟨by simp [fieldNames], h.readsBack (.inr (.inr (by simp [values, hField])))⟩
  · exact ⟨by simp [fieldNames], h.readsBack (.inl ⟨_, rfl⟩)⟩

/-- So do all items of the array. -/
theorem Plain.items (h : f.Plain (maxNesting - 1)) :
    ∀ v ∈ f.items, ReadsBack (maxNesting - 1) v := by
  have hField (field : Option Json)
      (hSub : ∀ v, field = some v → (∃ s, v = .string s) ∨ v ∈ f.values) :
      ReadsBack (maxNesting - 1) (field.getD .null) := by
    cases field with
    | none => exact h.readsBack (.inr (.inl rfl))
    | some v => exact h.readsBack ((hSub v rfl).imp_right .inr)
  intro v hMem
  simp only [Failure.items, List.mem_cons, List.not_mem_nil, or_false] at hMem
  rcases hMem with rfl | rfl | rfl | rfl | rfl
  · exact h.readsBack (.inl ⟨_, rfl⟩)
  · exact h.readsBack (.inl ⟨_, rfl⟩)
  · exact hField _ fun v hEq => .inr (by simp [values, hEq])
  · exact hField _ fun v hEq => .inr (by simp [values, hEq])
  · refine hField _ fun v hEq => .inl ?_
    obtain ⟨s, -, rfl⟩ := Option.map_eq_some_iff.mp hEq
    exact ⟨s, rfl⟩

end Fields

section Steps

variable {key : String} {value : Json} {behind : List Char}

/-- The steps that a record takes for one of its values. -/
theorem value?_member (h : ReadsBack (maxNesting - 1) value)
    (hEnd : Json.EndsNumber behind) :
    Json.value? .checked (Json.enoughFuel (Json.stringChars key ++ ':' :: value.prepend behind))
      (maxNesting - 1) (value.prepend behind) = some (value, behind) := by
  have hShorter := Json.length_lt_member key (value.prepend behind)
  apply h _ _ hEnd
  rw [Json.enoughFuel]
  omega

/-- The last member of a record is read together with the brace behind it. -/
theorem recordMembers?_last (hKey : key ∈ fieldNames)
    (h : ReadsBack (maxNesting - 1) value) (fuel : Nat) :
    recordMembers? (fuel + 1)
        (Json.stringChars key ++ ':' :: value.prepend ('\x7d' :: behind)) =
      some ([(key, value)], behind) := by
  have hKnown : fieldNames.contains key = true := List.contains_iff_mem.mpr hKey
  have hEnd : Json.EndsNumber ('\x7d' :: behind) := Json.endsNumber_cons (by decide) _
  rw [recordMembers?, Json.key?_stringChars]
  simp only [Option.bind_eq_bind, Option.bind_some, hKnown, if_true, value?_member h hEnd]
  rfl

/-- A member with others behind it is read, and then they are. -/
theorem recordMembers?_more (hKey : key ∈ fieldNames)
    (h : ReadsBack (maxNesting - 1) value) (fuel : Nat) :
    recordMembers? (fuel + 1) (Json.stringChars key ++ ':' :: value.prepend (',' :: behind)) =
      (recordMembers? fuel behind).map fun (members, rest) => ((key, value) :: members, rest) := by
  have hKnown : fieldNames.contains key = true := List.contains_iff_mem.mpr hKey
  have hEnd : Json.EndsNumber (',' :: behind) := Json.endsNumber_cons (by decide) _
  rw [recordMembers?, Json.key?_stringChars]
  simp only [Option.bind_eq_bind, Option.bind_some, hKnown, if_true, value?_member h hEnd]
  rfl

end Steps

/-- The members of a record are read back, each in one step. The fuel has to be enough for their
number only. -/
theorem recordMembers?_prependMembers {members : List (String × Json)}
    (h : ∀ m ∈ members, m.1 ∈ fieldNames ∧ ReadsBack (maxNesting - 1) m.2)
    (hSome : members ≠ []) {fuel : Nat} (hFuel : members.length ≤ fuel) {rest : List Char} :
    recordMembers? fuel (Json.prependMembers ('\x7d' :: rest) members) = some (members, rest) := by
  induction members generalizing fuel with
  | nil => exact absurd rfl hSome
  | cons m members ih =>
    obtain ⟨key, value⟩ := m
    obtain ⟨hKey, hValue⟩ := h (key, value) (.head _)
    obtain ⟨fuel, rfl⟩ := Nat.exists_eq_succ_of_ne_zero (Nat.ne_zero_of_lt hFuel)
    cases members with
    | nil => exact recordMembers?_last hKey hValue fuel
    | cons next more =>
      have hMore := ih (fun x hMem => h x (.tail _ hMem)) (by simp) (Nat.le_of_succ_le_succ hFuel)
      exact (recordMembers?_more hKey hValue fuel).trans (by rw [hMore]; rfl)

/-- The object of a plain failure reads as the failure, but for what is `null` in it. -/
theorem read?_toJson {f : Failure} (h : f.Plain (maxNesting - 1)) :
    read? f.toJson.text = some f.withoutNulls := by
  have hMembers : recordMembers? (Json.enoughFuel (Json.prependMembers ['\x7d'] f.members))
      (Json.prependMembers ['\x7d'] f.members) = some (f.members, []) := by
    refine recordMembers?_prependMembers h.members (by simp [Failure.members]) ?_
    have hFew := Json.length_le_prependMembers f.members ['\x7d']
    rw [Json.enoughFuel]
    omega
  have hRecord : record? f.toJson.text.toList = some (f.withoutNulls, []) := by
    rw [toJson_eq, Json.text, String.toList_ofList]
    show record? ('\x7b' :: Json.prependMembers ['\x7d'] f.members) = _
    obtain ⟨cs, hText⟩ : ∃ cs, Json.prependMembers ['\x7d'] f.members = '"' :: cs := ⟨_, rfl⟩
    rw [hText] at hMembers ⊢
    show ((recordMembers? (Json.enoughFuel ('"' :: cs)) ('"' :: cs)).bind fun read =>
      (ofObject? read.1).map (·, read.2)) = _
    rw [hMembers, Option.bind_some, ofObject?_members]
    rfl
  rw [read?, hRecord]
  rfl

/-- So does the array of its items. -/
theorem read?_array {f : Failure} (h : f.Plain (maxNesting - 1)) :
    read? (Json.array f.items).text = some f.withoutNulls := by
  have hItems : Json.items? .checked (Json.enoughFuel (Json.prependItems [']'] f.items))
      (maxNesting - 1) (Json.prependItems [']'] f.items) = some (f.items, []) := by
    refine Json.items?_prependItems h.items (by simp [Failure.items]) ?_
    rw [Json.enoughFuel]
    omega
  have hRecord : record? (Json.array f.items).text.toList = some (f.withoutNulls, []) := by
    rw [Json.text, String.toList_ofList]
    show record? ('[' :: Json.prependItems [']'] f.items) = _
    obtain ⟨cs, hText⟩ : ∃ cs, Json.prependItems [']'] f.items = '"' :: cs := ⟨_, rfl⟩
    rw [hText] at hItems ⊢
    show ((Json.items? .checked (Json.enoughFuel ('"' :: cs)) (maxNesting - 1)
      ('"' :: cs)).bind fun read => (ofArray? read.1).map (·, read.2)) = _
    rw [hItems, Option.bind_some, ofArray?_items]
    rfl
  rw [read?, hRecord]
  rfl

theorem eq_some_of_presentField {field : Option Json} {v : Json} (h : presentField field = some v) :
    v ≠ .null ∧ field = some v := by
  unfold presentField at h
  split at h
  · cases h
  · next hNull => exact ⟨fun hEq => hNull (hEq ▸ h), h⟩

/-- The values of a failure come from its fields, and none of them is `null`. -/
theorem exists_field_of_mem_values {field : String → Option Json} {f : Failure}
    (h : ofFields? field = some f) {v : Json} (hMem : v ∈ f.values) :
    v ≠ .null ∧ ∃ name, field name = some v := by
  obtain ⟨code, -, h⟩ := Option.bind_eq_some_iff.mp h
  obtain ⟨path, -, h⟩ := Option.bind_eq_some_iff.mp h
  have hFields : f.actual = presentField (field "actual") ∧
      f.expected = presentField (field "expected") := by
    dsimp only at h
    split at h
    · obtain rfl := Option.some.inj h
      exact ⟨rfl, rfl⟩
    · obtain rfl := Option.some.inj h
      exact ⟨rfl, rfl⟩
    · cases h
  rw [values, hFields.1, hFields.2, List.mem_append, Option.mem_toList, Option.mem_toList] at hMem
  rcases hMem with hField | hField
  · exact (eq_some_of_presentField hField).imp_right fun h => ⟨_, h⟩
  · exact (eq_some_of_presentField hField).imp_right fun h => ⟨_, h⟩

/-- The values that are read as members nest less deep than the reader follows them. -/
theorem wellFormed_recordMembers? {fuel : Nat} {cs rest : List Char}
    {members : List (String × Json)} (h : recordMembers? fuel cs = some (members, rest)) :
    ∀ m ∈ members, WellFormed (maxNesting - 1) m.2 := by
  induction fuel generalizing cs rest members with
  | zero => cases h
  | succ fuel ih =>
    rw [recordMembers?] at h
    obtain ⟨⟨key, behind⟩, -, h⟩ := Option.bind_eq_some_iff.mp h
    dsimp only at h
    by_cases hKnown : fieldNames.contains key = true
    · simp only [if_pos hKnown] at h
      obtain ⟨⟨value, behind⟩, hValue, h⟩ := Option.bind_eq_some_iff.mp h
      have hKept := (Json.readsWellFormed _ _).value hValue
      split at h
      · obtain ⟨rfl, -⟩ := Prod.mk.inj (Option.some.inj h)
        exact List.forall_mem_singleton.mpr hKept
      · obtain ⟨⟨more, _⟩, hMore, hEq⟩ := Option.map_eq_some_iff.mp h
        obtain ⟨rfl, -⟩ := Prod.mk.inj hEq
        exact List.forall_mem_cons.mpr ⟨hKept, ih hMore⟩
      · cases h
    · -- a member that is no field is read without care, but it is not kept
      simp only [if_neg hKnown] at h
      obtain ⟨⟨value, behind⟩, -, h⟩ := Option.bind_eq_some_iff.mp h
      split at h
      · obtain ⟨rfl, -⟩ := Prod.mk.inj (Option.some.inj h)
        simp
      · obtain ⟨⟨more, _⟩, hMore, hEq⟩ := Option.map_eq_some_iff.mp h
        obtain ⟨rfl, -⟩ := Prod.mk.inj hEq
        exact ih hMore
      · cases h

/-- A failure made of members has their values, those that are `null` left out. -/
theorem wellFormed_ofObject? {members : List (String × Json)} {f : Failure}
    (h : ofObject? members = some f)
    (hMembers : ∀ m ∈ members, WellFormed (maxNesting - 1) m.2) :
    ∀ v ∈ f.values, v ≠ .null ∧ WellFormed (maxNesting - 1) v := by
  rw [ofObject?] at h
  split at h
  · intro v hMem
    obtain ⟨hNull, name, hField⟩ := exists_field_of_mem_values h hMem
    obtain ⟨front, back, rfl, -⟩ := List.lookup_eq_some_iff.mp hField
    exact ⟨hNull, hMembers (name, v) (by simp)⟩
  · cases h

/-- The same for a failure made of items. -/
theorem wellFormed_ofArray? {items : List Json} {f : Failure} (h : ofArray? items = some f)
    (hItems : ∀ item ∈ items, WellFormed (maxNesting - 1) item) :
    ∀ v ∈ f.values, v ≠ .null ∧ WellFormed (maxNesting - 1) v := by
  rw [ofArray?] at h
  split at h
  · intro v hMem
    obtain ⟨hNull, name, hField⟩ := exists_field_of_mem_values h hMem
    obtain ⟨front, back, hZip, -⟩ := List.lookup_eq_some_iff.mp hField
    have hIn : (name, v) ∈ fieldNames.zip items := by simp [hZip]
    exact ⟨hNull, hItems v (List.of_mem_zip hIn).2⟩
  · cases h

/-- Whatever a failure is read from, its values are not `null` and nest no deeper than the reader
follows them. -/
theorem wellFormed_record? {cs rest : List Char} {f : Failure} (h : record? cs = some (f, rest)) :
    ∀ v ∈ f.values, v ≠ .null ∧ WellFormed (maxNesting - 1) v := by
  have hFirst {found : Option Failure} {behind : List Char}
      (h : found.map (·, behind) = some (f, rest)) : found = some f := by
    obtain ⟨f', hFound, hEq⟩ := Option.map_eq_some_iff.mp h
    rw [hFound, (Prod.mk.inj hEq).1]
  rw [record?] at h
  dsimp only at h
  split at h
  · split at h
    · rw [Option.bind_eq_bind, Option.bind_some] at h
      exact wellFormed_ofArray? (hFirst h) (by simp)
    · obtain ⟨_, hItems, h⟩ := Option.bind_eq_some_iff.mp h
      exact wellFormed_ofArray? (hFirst h) ((Json.readsWellFormed _ _).items hItems)
  · split at h
    · rw [Option.bind_eq_bind, Option.bind_some] at h
      exact wellFormed_ofObject? (hFirst h) (by simp)
    · obtain ⟨_, hMembers, h⟩ := Option.bind_eq_some_iff.mp h
      exact wellFormed_ofObject? (hFirst h) (wellFormed_recordMembers? hMembers)
  · cases h

/-- So this holds of every failure that was read from a text. -/
theorem wellFormed_read? {text : String} {f : Failure} (h : read? text = some f) :
    ∀ v ∈ f.values, v ≠ .null ∧ WellFormed (maxNesting - 1) v := by
  rw [read?] at h
  split at h
  · next hRecord =>
    split at h
    · obtain rfl := Option.some.inj h
      exact wellFormed_record? hRecord
    · cases h
  · cases h

/-- Failures survive as records, if a program holds their values and no doubles are in them: the
object reads as the failure without what is `null` in it, and so does the array of its fields. What
was read from any text is written so that it reads the same again. -/
theorem record_roundtrip :
    (∀ depth < maxNesting, ∀ f : Failure, f.Plain depth →
      read? f.toJson.text = some f.withoutNulls ∧
      (read? f.toJson.text = some f ↔ f.actual ≠ some .null ∧ f.expected ≠ some .null) ∧
      read? (Json.array f.items).text = read? f.toJson.text) ∧
    ∀ text f, read? text = some f → (∀ v ∈ f.values, ¬ v.HasDouble) →
      read? f.toJson.text = some f := by
  constructor
  · intro depth hDepth f h
    have hPlain : f.Plain (maxNesting - 1) := fun v hMem =>
      ⟨(h v hMem).1.mono (Nat.le_of_lt_succ hDepth), (h v hMem).2⟩
    refine ⟨read?_toJson hPlain, ?_, by rw [read?_toJson hPlain, read?_array hPlain]⟩
    rw [read?_toJson hPlain, Option.some_inj, withoutNulls_eq_self_iff]
  · intro text f hRead hFree
    have hValues := wellFormed_read? hRead
    rw [read?_toJson fun v hMem => ⟨(hValues v hMem).2, hFree v hMem⟩,
      Option.some_inj, withoutNulls_eq_self_iff]
    constructor
    · exact fun hNull => (hValues .null (by simp [values, hNull])).1 rfl
    · exact fun hNull => (hValues .null (by simp [values, hNull])).1 rfl

/-- A list inside a list, with a quote and a line break, held against a bound that is `null`. -/
def quoted : Failure where
  code := "fixed"
  path := "r.\"a\""
  actual := some (.array [.array [.integer (-3), .null], .string "é\n"])
  expected := some .null

/-- The failure of the example is plain. Its deepest value is a list inside a list. -/
theorem plain_quoted : quoted.Plain 100 := by
  have hInner : WellFormed 99 (.array [.integer (-3), .null]) ∧
      ¬ (Json.array [.integer (-3), .null]).HasDouble := by
    constructor
    · refine .array (List.forall_mem_cons.mpr ⟨.integer (by simp [Json.IsWord]), ?_⟩)
      exact List.forall_mem_singleton.mpr .null
    · rintro (_ | ⟨hMem, hBelow⟩)
      rcases List.mem_pair.mp hMem with rfl | rfl <;> cases hBelow
  intro v hMem
  rcases List.mem_pair.mp hMem with rfl | rfl
  · constructor
    · refine .array (List.forall_mem_cons.mpr ⟨hInner.1, ?_⟩)
      exact List.forall_mem_singleton.mpr (.string _)
    · rintro (_ | ⟨hMem, hBelow⟩)
      rcases List.mem_pair.mp hMem with rfl | rfl
      · exact hInner.2 hBelow
      · cases hBelow
  · exact ⟨.null, nofun⟩

/-- The bound that is `null` is lost in both forms. Quote, line break and the letter beyond ASCII
come back. -/
theorem record_roundtrip_quoted :
    read? quoted.toJson.text = some { quoted with expected := none } ∧
      read? quoted.toJson.text ≠ some quoted ∧
      read? (Json.array quoted.items).text = some { quoted with expected := none } ∧
      read? (toJson { quoted with expected := none }).text =
        some { quoted with expected := none } := by
  obtain ⟨hObject, hSame, hArray⟩ := record_roundtrip.1 100 (by decide) quoted plain_quoted
  have hRead : read? (Json.array quoted.items).text = some { quoted with expected := none } :=
    hArray.trans hObject
  refine ⟨hObject, fun h => (hSame.mp h).2 rfl, hRead, record_roundtrip.2 _ _ hRead ?_⟩
  intro v hMem
  obtain rfl := List.mem_singleton.mp hMem
  exact (plain_quoted _ (.head _)).2

end MarkupRules.Failure
