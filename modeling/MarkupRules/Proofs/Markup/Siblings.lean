import MarkupRules.Proofs.Markup.Outline
import MarkupRules.Proofs.Markup.Rearranged
import MarkupRules.Proofs.Markup.Splice

/-!
Sibling elements that change places in a text.

What stands between and around the two stays where it is. Nothing but the order of the two changes
in what the text describes, and a text that is well-formed stays so.
-/
namespace MarkupRules.Markup

/-- The text of one element. It begins with a tag or the like, and no text stands behind it. -/
structure IsElementText (mode : AttributeMode) (text : String) : Prop where
  first : text.toList.head? = some '<'
  last : ∀ raw, (kindsOf text).getLast? ≠ some (.text raw)
  wellFormed : checkWellFormed text mode {} = .ok ()

/-- What may stand between two neighbours: it holds no tag, whole or in part. -/
def IsGap (text : String) : Prop :=
  ∃ held kinds, Lexer.At .text held kinds (text.toList.foldl Lexer.step {}) ∧
    ∀ kind ∈ kinds, kind.isTag = false

/-- The text comes to its end inside an element. -/
def EndsInside (mode : AttributeMode) (text : String) : Prop :=
  ∃ name line, checkWellFormed text mode {} = .error (.unclosed name line)

/-- Two neighbours among the elements inside another one change places. -/
inductive SiblingsSwapped (mode : AttributeMode) : String → String → Prop where
  | mk {before first between second : String} (after : String) (hBefore : EndsInside mode before)
      (hFirst : IsElementText mode first) (hBetween : IsGap between)
      (hSecond : IsElementText mode second) :
      SiblingsSwapped mode (before ++ first ++ between ++ second ++ after)
        (before ++ second ++ between ++ first ++ after)

/-- A text without a fault leaves the lexer outside of tags, and its tokens are those that were made
and one for the text at hand. -/
theorem exists_at_of_tokenize {text : String} (h : (tokenize text.toList).fault = none) :
    ∃ held kinds, Lexer.At .text held kinds
        ((dropByteOrderMark text.toList).foldl Lexer.step {}) ∧
      kindsOf text = (Lexer.textKinds held ++ kinds).reverse := by
  obtain ⟨held, kinds, hAt⟩ := Lexer.At.of_finish h
  refine ⟨held, kinds, hAt, ?_⟩
  rw [kindsOf, tokenize, ← hAt.finish.2]
  exact List.map_reverse

/-- Markup that nothing but whole tokens make up. -/
structure IsMarkup (text : String) (kinds : List Token.Kind) : Prop where
  first : text.toList.head? = some '<'
  ends : Lexer.At .text [] kinds.reverse (text.toList.foldl Lexer.step {})

/-- The tokens of a text in which two neighbours stand are those of its parts. Each neighbour begins
and ends with a tag, which keeps the parts from running into each other. -/
theorem tokenize_parts {before first between second : String} {held held' : List Char}
    {kinds kinds' kindsFirst kindsSecond : List Token.Kind}
    (hBefore : Lexer.At .text held kinds ((dropByteOrderMark before.toList).foldl Lexer.step {}))
    (hFirst : IsMarkup first kindsFirst)
    (hBetween : Lexer.At .text held' kinds' (between.toList.foldl Lexer.step {}))
    (hSecond : IsMarkup second kindsSecond) (after : String) :
    (tokenize (before ++ first ++ between ++ second ++ after).toList).fault.isSome =
        (after.toList.foldl Lexer.step {}).finish.fault.isSome ∧
      kindsOf (before ++ first ++ between ++ second ++ after) =
        (Lexer.textKinds held ++ kinds).reverse ++ (kindsFirst ++
          ((Lexer.textKinds held' ++ kinds').reverse ++ (kindsSecond ++
            ((after.toList.foldl Lexer.step {}).finish.tokens.map Token.kind).reverse))) := by
  have hDrop : dropByteOrderMark (before ++ first ++ between ++ second ++ after).toList =
      dropByteOrderMark before.toList ++ first.toList ++ between.toList ++ second.toList ++
        after.toList := by
    obtain ⟨rest, hRest⟩ := List.head?_eq_some_iff.mp hFirst.first
    simp only [String.toList_append, hRest]
    cases before.toList with
    | nil => rfl
    | cons c cs =>
      by_cases hMark : c = '\ufeff'
      · subst hMark
        rfl
      · rw [dropByteOrderMark_of_head? (by simpa using hMark)]
        rw [dropByteOrderMark_of_head? (by simpa using hMark)]
  have hEnd := ((hBefore.appendMarkup hFirst.first hFirst.ends).append hBetween).appendMarkup
    hSecond.first hSecond.ends
  have hAfter := ((Lexer.At.start.beside (by simpa using hEnd)).foldl_step after.toList).finish
  simp only [kindsOf, tokenize, hDrop, List.foldl_append]
  refine ⟨hAfter.fault, ?_⟩
  rw [List.map_reverse, hAfter.kinds]
  simp

section Parts

variable {mode : AttributeMode} {options : Options} {text text' : String}

theorem exists_describes_of_run {kinds : List Token.Kind} {events : List Event}
    (h : Outline.run mode options {} kinds = some (⟨[], true⟩, events)) :
    ∃ e, Describes events e := by
  obtain ⟨e, -, hDescribes⟩ := (Outline.consistent_of_run h).describes rfl rfl
  exact ⟨e, hDescribes⟩

/-- A text of one element is markup: no fault in it, and a tag at either end. -/
theorem IsElementText.isMarkup (h : IsElementText mode text) : IsMarkup text (kindsOf text) := by
  have hError := checkWellFormed_eq_ok_iff.mp h.wellFormed
  obtain ⟨held, kinds, hAt, hKinds⟩ := exists_at_of_tokenize (run_of_scan hError).1
  have hFirst := h.first
  rw [dropByteOrderMark_of_head? (by simp [hFirst])] at hAt
  cases held with
  | nil =>
    rw [hKinds]
    exact ⟨hFirst, by simpa [Lexer.textKinds] using hAt⟩
  | cons c rest =>
    have hText : (kindsOf text).getLast? = some (.text (c :: rest).reverse) := by
      simp [hKinds, Lexer.textKinds]
    exact absurd hText (h.last _)

/-- A text of one element is read as that element, wherever it stands. -/
theorem IsElementText.exists_run (h : IsElementText mode text) :
    ∃ events e, Outline.run mode {} {} (kindsOf text) = some (⟨[], true⟩, events) ∧
      Describes events e := by
  have hRun := (run_of_scan (checkWellFormed_eq_ok_iff.mp h.wellFormed)).2
  obtain ⟨e, hDescribes⟩ := exists_describes_of_run hRun
  exact ⟨_, e, hRun, hDescribes⟩

/-- An element inside another one leaves what is open as it was, and delivers the events that it
delivers alone. -/
theorem run_element {names : List String} {seenRoot : Bool} {kinds : List Token.Kind}
    {last : Outline} {events events' : List Event}
    (hAlone : Outline.run mode {} {} kinds = some (⟨[], true⟩, events))
    (hInside : Outline.run mode options ⟨names, seenRoot⟩ kinds = some (last, events')) :
    last = ⟨names, true⟩ ∧ events' = events := by
  have hStart : Outline.Within names {} ⟨names, seenRoot⟩ := ⟨rfl, nofun⟩
  obtain ⟨hLast, hEvents⟩ := Outline.run_within hStart hAlone hInside
  obtain ⟨names', seenRoot'⟩ := last
  obtain rfl : names' = names := hLast.names
  obtain rfl : seenRoot' = true := hLast.seenRoot rfl
  exact ⟨rfl, hEvents⟩

/-- Tokens of two elements change places inside an open one, and what they deliver changes places
too. Between them may stand texts. -/
theorem run_swap {before first between second after : List Token.Kind} {name : String}
    {outer : List String} {seenRoot : Bool} {last : Outline}
    {eventsBefore eventsFirst eventsSecond events : List Event}
    (hBefore : Outline.run mode {} {} before = some (⟨name :: outer, seenRoot⟩, eventsBefore))
    (hFirst : Outline.run mode {} {} first = some (⟨[], true⟩, eventsFirst))
    (hTags : ∀ kind ∈ between, kind.isTag = false)
    (hSecond : Outline.run mode {} {} second = some (⟨[], true⟩, eventsSecond))
    (hRun : Outline.run mode options {} (before ++ (first ++ (between ++ (second ++ after)))) =
      some (last, events)) :
    ∃ (lead : List Event) (texts : List String) (trail : List Event),
      (lead.foldl Element.Builder.step {}).frames ≠ [] ∧
      events = lead ++ (eventsFirst ++ (texts.map .text ++ (eventsSecond ++ trail))) ∧
      Outline.run mode options {} (before ++ (second ++ (between ++ (first ++ after)))) =
        some (last, lead ++ (eventsSecond ++ (texts.map .text ++ (eventsFirst ++ trail)))) := by
  obtain ⟨o, lead, _, hLead, hBehind, rfl⟩ := Outline.run_append_eq_some_iff.mp hRun
  obtain ⟨o₁, _, _, hInside, hBehind₁, rfl⟩ := Outline.run_append_eq_some_iff.mp hBehind
  obtain ⟨o₂, _, _, hGap, hBehind₂, rfl⟩ := Outline.run_append_eq_some_iff.mp hBehind₁
  obtain ⟨o₃, _, trail, hInside', hTrail, rfl⟩ := Outline.run_append_eq_some_iff.mp hBehind₂
  have hNames : o.names = name :: outer := by
    have hStart : Outline.Within [] {} {} := ⟨rfl, nofun⟩
    simpa using (Outline.run_within hStart hBefore hLead).1.names
  have hConsistent : Consistent lead o.openElements o.seenRoot :=
    Outline.consistent_of_run hLead
  have hOpen : o.openElements ≠ [] := by simp [Outline.openElements, hNames]
  obtain ⟨names, seen⟩ := o
  obtain rfl : seen = true := hConsistent.seenRoot_iff.mpr (.inl hOpen)
  obtain ⟨rfl, rfl⟩ := run_element hFirst hInside
  obtain ⟨rfl, texts, rfl⟩ := Outline.run_of_not_isTag hTags hGap
  obtain ⟨rfl, rfl⟩ := run_element hSecond hInside'
  refine ⟨lead, texts, trail, hConsistent.frames_ne_nil hOpen, rfl, ?_⟩
  simp only [Outline.run_append_eq_some_iff]
  exact ⟨_, lead, _, hLead, ⟨_, _, _, hInside', ⟨_, _, _, hGap, ⟨_, _, trail, hInside, hTrail, rfl⟩,
    rfl⟩, rfl⟩, rfl⟩

/-- A well-formed text in which two siblings change places is well-formed, and what it describes is
the same but for the order of siblings. -/
theorem scan_of_siblingsSwapped (h : SiblingsSwapped mode text text')
    (hError : (scan text mode options).error = none) :
    (scan text' mode options).error = none ∧ ∃ e e',
      Describes ((scan text mode options).events.map Event.bare) e ∧
      Describes ((scan text' mode options).events.map Event.bare) e' ∧ e.Rearranged e' := by
  cases h with
  | @mk before first between second after hBefore hFirst hBetween hSecond =>
    obtain ⟨name, line, hUnclosed⟩ := hBefore
    obtain ⟨hFaultBefore, outer, seenRoot, eventsBefore, hRunBefore⟩ :=
      run_of_unclosed (checkWellFormed_eq_error_iff.mp hUnclosed)
    obtain ⟨held, kinds, hAtBefore, hKindsBefore⟩ := exists_at_of_tokenize hFaultBefore
    obtain ⟨held', kinds', hAtBetween, hTags⟩ := hBetween
    obtain ⟨eventsFirst, a, hRunFirst, hDescribesFirst⟩ := hFirst.exists_run
    obtain ⟨eventsSecond, b, hRunSecond, hDescribesSecond⟩ := hSecond.exists_run
    obtain ⟨hFault, hKinds⟩ :=
      tokenize_parts hAtBefore hFirst.isMarkup hAtBetween hSecond.isMarkup after
    obtain ⟨hFault', hKinds'⟩ :=
      tokenize_parts hAtBefore hSecond.isMarkup hAtBetween hFirst.isMarkup after
    have hTags' : ∀ kind ∈ (Lexer.textKinds held' ++ kinds').reverse, kind.isTag = false := by
      intro kind hMem
      rcases List.mem_append.mp (List.mem_reverse.mp hMem) with hText | hKind
      · cases held' with
        | nil => cases hText
        | cons c rest =>
          rw [List.mem_singleton.mp hText]
          rfl
      · exact hTags kind hKind
    obtain ⟨hNoFault, hRun⟩ := run_of_scan hError
    rw [hKinds, ← hKindsBefore] at hRun
    rw [← hKindsBefore] at hKinds'
    obtain ⟨lead, texts, trail, hFrames, hEvents, hRun'⟩ :=
      run_swap hRunBefore hRunFirst hTags' hRunSecond hRun
    rw [← hKinds'] at hRun'
    have hNoFault' : (tokenize (before ++ second ++ between ++ first ++ after).toList).fault =
        none := by
      rw [hNoFault, ← hFault'] at hFault
      exact Option.isNone_iff_eq_none.mp (by simpa using hFault.symm)
    have hBlank : Text.isAllBlank (before ++ second ++ between ++ first ++ after).toList =
        false := by
      refine List.all_eq_false.mpr ⟨'<', ?_, by decide⟩
      have hMem : '<' ∈ first.toList := List.mem_of_head? hFirst.first
      simp [hMem]
    obtain ⟨hError', hEvents'⟩ := scan_of_run hBlank hNoFault' hRun'
    obtain ⟨e, hDescribes⟩ := exists_describes_of_run hRun
    obtain ⟨e', hDescribes'⟩ := exists_describes_of_run hRun'
    rw [hEvents] at hDescribes
    refine ⟨hError', e, e', hEvents ▸ hDescribes, hEvents' ▸ hDescribes', ?_⟩
    exact Element.rearranged_of_swap hFrames hDescribesFirst hDescribesSecond hDescribes hDescribes'

end Parts

end MarkupRules.Markup
