import MarkupRules.Proofs.Markup.Siblings

/-!
One start tag in the place of another.

Where a start tag is replaced by one of the same name, nothing changes in what a text delivers but
the attributes of that tag.
-/
namespace MarkupRules.Markup

instance Lexer.At.decidable (mode : Lexer.Mode) (held : List Char) (kinds : List Token.Kind)
    (s : Lexer) : Decidable (Lexer.At mode held kinds s) :=
  decidable_of_iff
    (s.fault = none ∧ s.mode = mode ∧ s.held = held ∧ s.tokens.map Token.kind = kinds)
    ⟨fun h => ⟨h.1, h.2.1, h.2.2.1, h.2.2.2⟩, fun h => ⟨h.fault, h.mode, h.held, h.kinds⟩⟩

instance IsMarkup.decidable (text : String) (kinds : List Token.Kind) :
    Decidable (IsMarkup text kinds) :=
  decidable_of_iff (text.toList.head? = some '<' ∧
      Lexer.At .text [] kinds.reverse (text.toList.foldl Lexer.step {}))
    ⟨fun h => ⟨h.1, h.2⟩, fun h => ⟨h.first, h.ends⟩⟩

/-- The text leads up to a place between two tokens. -/
def EndsBetweenTokens (text : String) : Prop :=
  ∃ held kinds, Lexer.At .text held kinds ((dropByteOrderMark text.toList).foldl Lexer.step {})

/-- A start tag is replaced by one of the same name, whose content is related to that of the first;
what stands before and behind the tag stays. -/
inductive TagReplaced (related : List Char → List Char → Prop) : String → String → Prop where
  | mk {before tag tag' : String} {content content' : List Char} {isEmpty : Bool}
      (after : String) (hBefore : EndsBetweenTokens before)
      (hTag : IsMarkup tag [.opening content isEmpty])
      (hTag' : IsMarkup tag' [.opening content' isEmpty])
      (hName : Attribute.tagName content' = Attribute.tagName content)
      (hRelated : related content content') :
      TagReplaced related (before ++ tag ++ after) (before ++ tag' ++ after)

theorem TagReplaced.symm {related related' : List Char → List Char → Prop} {text text' : String}
    (h : TagReplaced related text text')
    (hBack : ∀ content content', related content content' → related' content' content) :
    TagReplaced related' text' text := by
  cases h with
  | mk after hBefore hTag hTag' hName hRelated =>
    exact .mk after hBefore hTag' hTag hName.symm (hBack _ _ hRelated)

/-- The tokens of a text in which markup stands are those of its parts, one after the other, as no
part reaches into the next. -/
theorem tokenize_around {before tag : String} {held : List Char} {kinds kindsTag : List Token.Kind}
    (hBefore : Lexer.At .text held kinds ((dropByteOrderMark before.toList).foldl Lexer.step {}))
    (hTag : IsMarkup tag kindsTag) (after : String) :
    (tokenize (before ++ tag ++ after).toList).fault.isSome =
        (after.toList.foldl Lexer.step {}).finish.fault.isSome ∧
      kindsOf (before ++ tag ++ after) = (Lexer.textKinds held ++ kinds).reverse ++ (kindsTag ++
        ((after.toList.foldl Lexer.step {}).finish.tokens.map Token.kind).reverse) := by
  have hDrop : dropByteOrderMark (before ++ tag ++ after).toList =
      dropByteOrderMark before.toList ++ tag.toList ++ after.toList := by
    obtain ⟨rest, hRest⟩ := List.head?_eq_some_iff.mp hTag.first
    simp only [String.toList_append, hRest]
    cases before.toList with
    | nil => rfl
    | cons c cs =>
      by_cases hMark : c = '\ufeff'
      · subst hMark
        rfl
      · rw [dropByteOrderMark_of_head? (by simpa using hMark)]
        rw [dropByteOrderMark_of_head? (by simpa using hMark)]
  have hEnd := hBefore.appendMarkup hTag.first hTag.ends
  have hAfter := ((Lexer.At.start.beside (by simpa using hEnd)).foldl_step after.toList).finish
  simp only [kindsOf, tokenize, hDrop, List.foldl_append]
  refine ⟨hAfter.fault, ?_⟩
  rw [List.map_reverse, hAfter.kinds]
  simp

/-- A start tag of the same name whose attributes can be read leads to the same outline, and
delivers the same but for the attributes. -/
theorem Outline.stepOpening_replaced {mode : AttributeMode} {options : Options}
    {o next : Outline} {new : List Event} {content content' : List Char} {isEmpty : Bool}
    (hStep : o.stepOpening mode options content isEmpty = some (next, new))
    (hName : Attribute.tagName content' = Attribute.tagName content)
    {attributes' : List Attribute} (hRead : Attribute.ofTag mode content' = .ok attributes') :
    o.stepOpening mode options content' isEmpty = some (next,
      .opening ⟨String.ofList (Attribute.tagName content), attributes', 0⟩ ::
        if isEmpty then [.closing] else []) := by
  obtain ⟨attributes, hAttributes, hRoot, rfl, rfl⟩ := stepOpening_eq_some hStep
  unfold stepOpening at hStep ⊢
  rw [hAttributes] at hStep
  rw [hRead, hName]
  split at hStep
  · cases hStep
  next hOpen =>
    rw [if_neg hOpen]
    dsimp only at hStep ⊢
    split at hStep
    next hDepth =>
      rw [if_pos hDepth]
      cases isEmpty <;> rfl
    · cases hStep

section Scan

variable {mode : AttributeMode} {options : Options} {before tag tag' : String}
  {content content' : List Char} {isEmpty : Bool}

/-- What a text delivers in which a start tag is replaced: the same but for the attributes of that
tag. If the one text is well-formed, so is the other. -/
theorem scan_of_tagReplaced (after : String) (hBefore : EndsBetweenTokens before)
    (hTag : IsMarkup tag [.opening content isEmpty])
    (hTag' : IsMarkup tag' [.opening content' isEmpty])
    (hName : Attribute.tagName content' = Attribute.tagName content)
    (hError : (scan (before ++ tag ++ after) mode options).error = none) :
    ∃ lead name attributes trail, Attribute.ofTag mode content = .ok attributes ∧
      (scan (before ++ tag ++ after) mode options).events.map Event.bare =
        lead ++ .opening ⟨name, attributes, 0⟩ :: trail ∧
      ∀ attributes', Attribute.ofTag mode content' = .ok attributes' →
        (scan (before ++ tag' ++ after) mode options).error = none ∧
        (scan (before ++ tag' ++ after) mode options).events.map Event.bare =
          lead ++ .opening ⟨name, attributes', 0⟩ :: trail := by
  obtain ⟨held, kinds, hAt⟩ := hBefore
  obtain ⟨hFault, hKinds⟩ := tokenize_around hAt hTag after
  obtain ⟨hFault', hKinds'⟩ := tokenize_around hAt hTag' after
  obtain ⟨hNoFault, hRun⟩ := run_of_scan hError
  rw [hKinds, List.singleton_append] at hRun
  obtain ⟨o, lead, _, hLead, hBehind, hEvents⟩ := Outline.run_append_eq_some_iff.mp hRun
  obtain ⟨next, new, trail, hStep, hTrail, rfl⟩ := Outline.run_cons_eq_some_iff.mp hBehind
  obtain ⟨attributes, hAttributes, -, -, rfl⟩ := Outline.stepOpening_eq_some hStep
  refine ⟨lead, _, attributes, _, hAttributes, hEvents, fun attributes' hRead => ?_⟩
  have hRun' : Outline.run mode options {} (kindsOf (before ++ tag' ++ after)) =
      some (⟨[], true⟩, lead ++ (.opening ⟨String.ofList (Attribute.tagName content), attributes',
        0⟩ :: ((if isEmpty then [.closing] else []) ++ trail))) := by
    rw [hKinds', List.singleton_append]
    exact Outline.run_append_eq_some_iff.mpr ⟨o, lead, _, hLead, Outline.run_cons_eq_some_iff.mpr
      ⟨next, _, trail, Outline.stepOpening_replaced hStep hName hRead, hTrail, rfl⟩, rfl⟩
  have hNoFault' : (tokenize (before ++ tag' ++ after).toList).fault = none := by
    rw [hNoFault, ← hFault'] at hFault
    exact Option.isNone_iff_eq_none.mp (by simpa using hFault.symm)
  have hBlank : Text.isAllBlank (before ++ tag' ++ after).toList = false := by
    refine List.all_eq_false.mpr ⟨'<', ?_, by decide⟩
    have hMem : '<' ∈ tag'.toList := List.mem_of_head? hTag'.first
    simp [hMem]
  exact scan_of_run hBlank hNoFault' hRun'

end Scan

end MarkupRules.Markup
