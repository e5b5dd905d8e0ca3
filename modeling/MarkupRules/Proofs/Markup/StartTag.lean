import MarkupRules.Proofs.Markup.Attribute
import MarkupRules.Proofs.Markup.Escape
import MarkupRules.Proofs.Markup.Name

/-!
Start tags with attributes, as they are written and as they are read.
-/
namespace MarkupRules.Markup

/-- What stands behind the name in a start tag: the attributes, each behind blanks and with its
value between double quotes, and blanks. -/
inductive WrittenAttributes : List (String × String) → List Char → Prop where
  | nil {blanks : List Char} (hBlanks : Blanks blanks) : WrittenAttributes [] blanks
  | cons {blanks : List Char} (hSome : blanks ≠ []) (hBlanks : Blanks blanks) {name : String}
      (hName : IsName name) (value : String) {others : List (String × String)}
      {written : List Char} (hOthers : WrittenAttributes others written) :
      WrittenAttributes ((name, value) :: others)
        (blanks ++
          (name.toList ++ '=' :: ('"' :: Reference.escape value.toList ++ ['"']) ++ written))

namespace Attribute

/-- What is dropped from the front moves the offset on by its bytes. -/
theorem Located.dropWhile_append {p : Char → Bool} {xs ys : List Char}
    (hDrop : ∀ c ∈ xs, p c = true) (hKeep : ∀ c, ys.head? = some c → p c = false) (offset : Nat) :
    Located.dropWhile p ⟨offset, xs ++ ys⟩ = ⟨offset + Text.byteLength xs, ys⟩ := by
  have hTake : (xs ++ ys).takeWhile p = xs := by
    rw [List.takeWhile_append_of_pos hDrop]
    cases ys with
    | nil => simp
    | cons c rest => simp [hKeep c rfl]
  have hRest : (xs ++ ys).dropWhile p = ys := by
    rw [List.dropWhile_append_of_pos hDrop]
    cases ys with
    | nil => rfl
    | cons c rest => simp [hKeep c rfl]
  simp [Located.dropWhile, hTake, hRest]

theorem Located.takeWhile_append {p : Char → Bool} {xs ys : List Char}
    (hTake : ∀ c ∈ xs, p c = true) (hStop : ∀ c, ys.head? = some c → p c = false) (offset : Nat) :
    Located.takeWhile p ⟨offset, xs ++ ys⟩ = xs := by
  rw [Located.takeWhile, List.takeWhile_append_of_pos hTake]
  cases ys with
  | nil => simp
  | cons c rest => simp [hStop c rfl]

/-- A key of letters is cut off up to its equals sign. Where the rest stands depends on its bytes
only. -/
theorem cutKey_letters (first : Char) {more : List Char} (hLetters : ∀ c ∈ more, c.isAlpha = true)
    (offset : Nat) (rest : List Char) :
    ∃ next, cutKey first offset (more ++ '=' :: rest) =
      (⟨offset, first :: more⟩, ⟨next, '=' :: rest⟩) := by
  have hInKey : ∀ c ∈ more, (c != '=' && !isTagBlank c) = true := by
    intro c hMem
    simp [ne_of_isAlpha (hLetters c hMem), isTagBlank_of_isAlpha (hLetters c hMem)]
  have hStop : ∀ c, ('=' :: rest).head? = some c → (c != '=' && !isTagBlank c) = false := by
    rintro c ⟨⟩
    rfl
  refine ⟨offset + first.utf8Size + Text.byteLength more, ?_⟩
  simp only [cutKey]
  rw [Located.takeWhile_append hInKey hStop, Located.dropWhile_append hInKey hStop]

/-- A value between double quotes is cut off with nothing of it read as markup, in either mode. -/
theorem cutValue_quoted (mode : AttributeMode) {value : List Char} (hQuote : ∀ c ∈ value, c ≠ '"')
    (offset : Nat) (rest : List Char) :
    ∃ next, cutValue mode ⟨offset, '"' :: value ++ ['"'] ++ rest⟩ = .ok (value, ⟨next, rest⟩) := by
  have hNoBlank : Located.dropWhile isTagBlank ⟨offset, '"' :: value ++ ['"'] ++ rest⟩ =
      ⟨offset, '"' :: (value ++ '"' :: rest)⟩ := by
    simp [Located.dropWhile, isTagBlank, Text.byteLength]
  have hTake : ∀ c ∈ value, (c != '"') = true := by simpa using hQuote
  have hStop : ∀ c, ('"' :: rest).head? = some c → (c != '"') = false := by
    rintro c ⟨⟩
    rfl
  refine ⟨offset + 1 + Text.byteLength value + 1, ?_⟩
  simp only [cutValue, hNoBlank, true_or, Bool.or_eq_true, decide_true, if_true]
  rw [Located.takeWhile_append hTake hStop, Located.dropWhile_append hTake hStop]

/-- An attribute behind blanks is cut off as it was written, and its name joins those seen. -/
theorem cutAttribute_written {blanks : List Char} (hBlanks : Blanks blanks) {name : String}
    (hName : IsName name) {value : List Char} (hQuote : ∀ c ∈ value, c ≠ '"') {seen : Seen}
    (hFresh : ∀ k ∈ seen, k.chars ≠ name.toList) (mode : AttributeMode) (offset : Nat)
    (rest : List Char) :
    ∃ start next, cutAttribute mode seen
        ⟨offset, blanks ++ (name.toList ++ '=' :: ('"' :: value ++ ['"']) ++ rest)⟩ =
      .ok (some ((⟨start, name.toList⟩, value), seen ++ [⟨start, name.toList⟩], ⟨next, rest⟩)) := by
  obtain ⟨first, more, hCons, hFirst, hMore⟩ := hName.exists_cons
  have hHead : ∀ c, (name.toList ++ '=' :: ('"' :: value ++ ['"']) ++ rest).head? = some c →
      isTagBlank c = false := by
    rw [hCons]
    rintro c ⟨⟩
    exact isTagBlank_of_isAlpha hFirst
  have hStart := Located.dropWhile_append hBlanks hHead offset
  generalize offset + Text.byteLength blanks = start at hStart
  obtain ⟨behind, hKey⟩ := cutKey_letters first hMore start (('"' :: value ++ ['"']) ++ rest)
  have hEquals : Located.dropWhile isTagBlank ⟨behind, '=' :: (('"' :: value ++ ['"']) ++ rest)⟩ =
      ⟨behind, '=' :: (('"' :: value ++ ['"']) ++ rest)⟩ := by
    simp [Located.dropWhile, isTagBlank, Text.byteLength]
  have hNote : noteKey seen ⟨start, name.toList⟩ = .ok (seen ++ [⟨start, name.toList⟩]) := by
    have hNone : seen.find? (·.chars == name.toList) = none := by simpa using hFresh
    rw [noteKey, hNone]
  obtain ⟨next, hValue⟩ := cutValue_quoted mode hQuote (behind + 1) rest
  refine ⟨start, next, ?_⟩
  rw [cutAttribute]
  dsimp only
  rw [hStart, hCons]
  simp only [List.cons_append, List.append_assoc] at hKey hEquals hValue ⊢
  simp only [hKey, hEquals, ← hCons, hNote, hValue]
  rfl

/-- Attributes that were written are read back in their order, if their names are distinct and none
was seen before. -/
theorem readFrom_written {attributes : List (String × String)} {written : List Char}
    (h : WrittenAttributes attributes written) (mode : AttributeMode) {fuel : Nat}
    (hFuel : attributes.length ≤ fuel) (hDistinct : (attributes.map Prod.fst).Nodup) (seen : Seen)
    (hFresh : ∀ k ∈ seen, ∀ a ∈ attributes, k.chars ≠ a.1.toList) (offset : Nat) :
    readFrom mode fuel seen ⟨offset, written⟩ = .ok (attributes.map fun a => ⟨a.1, a.2⟩) := by
  -- Every attribute that is read joins the keys seen, so the rest has to be fresh for these too.
  induction h generalizing fuel seen offset with
  | nil hBlanks => exact readFrom_of_blank mode fuel seen hBlanks
  | @cons blanks hSome hBlanks name hName value others written hOthers ih =>
    obtain ⟨fuel, rfl⟩ := Nat.exists_eq_add_of_le' (Nat.le_of_add_left_le hFuel)
    obtain ⟨hNew, hDistinct⟩ := List.nodup_cons.mp hDistinct
    obtain ⟨start, next, hCut⟩ := cutAttribute_written hBlanks hName
      (Reference.ne_quote_of_mem_escape value.toList)
      (fun k hMem => hFresh k hMem _ (.head _)) mode offset written
    have hFreshRest : ∀ k ∈ seen ++ [⟨start, name.toList⟩], ∀ a ∈ others,
        k.chars ≠ a.1.toList := by
      intro k hMem a hAttribute
      rcases List.mem_append.mp hMem with hOld | hLast
      · exact hFresh k hOld a (.tail _ hAttribute)
      · rw [List.mem_singleton.mp hLast]
        intro hSame
        have hEq : name = a.1 := String.toList_injective hSame
        exact hNew (List.mem_map.mpr ⟨a, hAttribute, hEq.symm⟩)
    have hRest := ih (by simpa using hFuel) hDistinct _ hFreshRest next
    rw [readFrom, hCut]
    simp only [Except.mapError, Reference.resolve_escape, bind, Except.bind, hRest]
    simp [pure, Except.pure]

end Attribute

namespace WrittenAttributes

variable {attributes : List (String × String)} {written : List Char} {name : String}

theorem bare : WrittenAttributes [] [] := .nil (by decide)

/-- What stands behind a name in a tag begins with a blank, if there is anything. So the name ends
where it should. -/
theorem isTagBlank_head (h : WrittenAttributes attributes written) :
    ∀ c, written.head? = some c → isTagBlank c = true := by
  intro c hHead
  cases h with
  | nil hBlanks => exact hBlanks c (List.mem_of_head? hHead)
  | @cons blanks hSome hBlanks =>
    obtain ⟨b, rest, rfl⟩ := List.exists_cons_of_ne_nil hSome
    obtain rfl : b = c := by simpa using hHead
    exact hBlanks b (.head _)

/-- No attributes end in a slash, since they end in a quote or a blank. A tag is therefore not taken
for one that closes at once. -/
theorem getLast?_append (h : WrittenAttributes attributes written) {front : List Char}
    (hFront : front.getLast? ≠ some '/') : (front ++ written).getLast? ≠ some '/' := by
  induction h generalizing front with
  | @nil blanks hBlanks =>
    intro hLast
    rw [List.getLast?_append] at hLast
    cases hBlank : blanks.getLast? with
    | none => exact hFront (by simpa [hBlank] using hLast)
    | some c =>
      obtain rfl : c = '/' := by simpa [hBlank] using hLast
      exact absurd (hBlanks _ (List.mem_of_getLast? hBlank)) (by decide)
  | @cons blanks hSome hBlanks name hName value others written hOthers ih =>
    have hQuote : ((front ++ blanks ++ name.toList ++ '=' :: '"' ::
        Reference.escape value.toList) ++ ['"']).getLast? ≠ some '/' := by
      rw [List.getLast?_concat]
      decide
    simpa using ih hQuote

/-- Each attribute takes at least one character, which is what bounds the reader. -/
theorem length_le (h : WrittenAttributes attributes written) :
    attributes.length ≤ written.length := by
  induction h with
  | nil hBlanks => exact Nat.zero_le _
  | cons hSome hBlanks hName value hOthers ih =>
    simp only [List.length_append, List.length_cons]
    omega

theorem tagName (h : WrittenAttributes attributes written) (hName : IsName name) :
    Attribute.tagName (name.toList ++ written) = name.toList :=
  Attribute.tagName_append hName.not_blank h.isTagBlank_head

/-- The attributes of a start tag are read back, if their names are distinct, with the values that
were written as references. -/
theorem ofTag (h : WrittenAttributes attributes written) (hName : IsName name)
    (hDistinct : (attributes.map Prod.fst).Nodup) (mode : AttributeMode) :
    Attribute.ofTag mode (name.toList ++ written) =
      .ok (attributes.map fun a => ⟨a.1, a.2⟩) := by
  have hFuel : attributes.length ≤ (name.toList ++ written).length := by
    rw [List.length_append]
    exact Nat.le_add_left_of_le h.length_le
  rw [Attribute.ofTag_append mode hName.not_blank h.isTagBlank_head]
  exact Attribute.readFrom_written h mode hFuel hDistinct [] (by simp) _

end WrittenAttributes

theorem IsName.tagName {name : String} (h : IsName name) :
    Attribute.tagName name.toList = name.toList := by
  simpa using WrittenAttributes.bare.tagName h

theorem IsName.ofTag {name : String} (h : IsName name) (mode : AttributeMode) :
    Attribute.ofTag mode name.toList = .ok [] := by
  simpa using WrittenAttributes.bare.ofTag h (by simp) mode

namespace WrittenAttributes

variable {attributes : List (String × String)} {written : List Char} {name : String}
  {s : Lexer} {held : List Char} {kinds : List Token.Kind}

/-- The attributes of a tag keep the lexer inside the tag. A bracket in a value stands between
quotes and ends nothing. -/
theorem inside (h : WrittenAttributes attributes written)
    (hAt : Lexer.At (.tag none) held kinds s) :
    Lexer.At (.tag none) (written.reverse ++ held) kinds (written.foldl Lexer.step s) := by
  induction h generalizing s held with
  | nil hBlanks => exact hAt.tagPlain (Lexer.isPlain_of_blanks hBlanks)
  | @cons blanks hSome hBlanks name hName value others written hOthers ih =>
    have hKey : ∀ c ∈ blanks ++ name.toList ++ ['='], Lexer.isPlain c = true := by
      simp only [List.forall_mem_append, List.forall_mem_singleton]
      exact ⟨⟨Lexer.isPlain_of_blanks hBlanks, hName.isPlain⟩, by decide⟩
    simpa using ih ((hAt.tagPlain hKey).quoted (Reference.ne_quote_of_mem_escape value.toList))

/-- A start tag up to its end is held in the lexer, name and attributes, and what was held before is
a token. -/
theorem opened (h : WrittenAttributes attributes written) (hName : IsName name)
    (hAt : Lexer.At .text held kinds s) :
    Lexer.At (.tag none) (name.toList ++ written).reverse (Lexer.textKinds held ++ kinds)
      (('<' :: (name.toList ++ written)).foldl Lexer.step s) := by
  obtain ⟨c, rest, hCons, hHead, hRest⟩ := hName.exists_cons
  have hStart := hAt.opened.tagStart (isPlain_of_isAlpha hHead) (ne_of_isAlpha hHead rfl)
    (ne_of_isAlpha hHead rfl)
  have hLetters := hStart.tagPlain fun d hMem => isPlain_of_isAlpha (hRest d hMem)
  rw [hCons]
  simpa using h.inside hLetters

/-- A start tag with attributes is one token, with all that stands between its brackets for its
content. -/
theorem startTag (h : WrittenAttributes attributes written) (hName : IsName name)
    (hAt : Lexer.At .text held kinds s) :
    Lexer.At .text [] (.opening (name.toList ++ written) false :: (Lexer.textKinds held ++ kinds))
      (('<' :: (name.toList ++ written) ++ ['>']).foldl Lexer.step s) := by
  have hLast : (name.toList ++ written).getLast? ≠ some '/' := by
    refine h.getLast?_append fun hSlash => ?_
    exact ne_of_isAlpha (hName.letters _ (List.mem_of_getLast? hSlash)) rfl rfl
  rw [← Lexer.tagKind_opening (hName.head?_append_ne_slash written) hLast, List.foldl_append]
  exact (h.opened hName hAt).tagEnd

/-- A tag that closes at once is one token as well, and its slash does not get into the content. -/
theorem emptyTag (h : WrittenAttributes attributes written) (hName : IsName name)
    (hAt : Lexer.At .text held kinds s) :
    Lexer.At .text [] (.opening (name.toList ++ written) true :: (Lexer.textKinds held ++ kinds))
      (('<' :: (name.toList ++ written ++ ['/']) ++ ['>']).foldl Lexer.step s) := by
  have hSome : name.toList ++ written ≠ [] := by simp [hName.toList_ne_nil]
  have hSlash : ∀ c ∈ ['/'], Lexer.isPlain c = true := by simp [Lexer.isPlain]
  have hInside := ((h.opened hName hAt).tagPlain hSlash).tagEnd
  rw [← Lexer.tagKind_empty hSome (hName.head?_append_ne_slash written)]
  simpa using hInside

end WrittenAttributes

end MarkupRules.Markup
