import MarkupRules.Proofs.Markup.Line
import MarkupRules.Proofs.Markup.Scan
import MarkupRules.Proofs.Markup.TokenPlaces
import Mathlib.Data.List.Forall2

/-!
The lines of start tags.

A scan puts a start tag on the line that its cursor finds for the start of the token. Tokens are
placed in what comes behind a byte order mark and lines are counted from the start of the text, so
the line is that of the `<` in every text without such a mark.
-/
namespace MarkupRules.Markup

/-- The mark that a text begins with, if it does. -/
def byteOrderMark : List Char → List Char
  | '\ufeff' :: _ => ['\ufeff']
  | _ => []

theorem byteOrderMark_append (cs : List Char) : byteOrderMark cs ++ dropByteOrderMark cs = cs := by
  unfold byteOrderMark dropByteOrderMark
  split <;> simp

/-- `OnLine text front line`: scans put what stands behind `front` on this line. It is one more than
the number of line ends in `front`; in a text that begins with a byte order mark it is the line of
the place three bytes, the length of the mark, before that. -/
structure OnLine (text front : List Char) (line : Nat) : Prop where
  line_eq : text.head? ≠ some '\ufeff' → line = 1 + front.count '\n'
  behindMark : text.head? = some '\ufeff' → line = lineAt text (Text.byteLength front - 3)

/-- A place behind the mark is on the line that the whole text has at its offset. The offsets of
tokens are counted without the mark. -/
theorem onLine_byteOrderMark {text front back : List Char}
    (h : dropByteOrderMark text = front ++ back) :
    OnLine text (byteOrderMark text ++ front) (lineAt text (Text.byteLength front)) := by
  unfold dropByteOrderMark at h
  split at h
  · next rest =>
    refine ⟨fun hNone => absurd rfl hNone, fun _ => ?_⟩
    have hMark : '\ufeff'.utf8Size = 3 := rfl
    have hLength : Text.byteLength ('\ufeff' :: front) - 3 = Text.byteLength front := by
      rw [Text.byteLength_cons, hMark, Nat.add_sub_cancel_left]
    rw [byteOrderMark, List.singleton_append, hLength]
  · next hNone =>
    have hMark : byteOrderMark text = [] := by
      unfold byteOrderMark
      split
      · next rest => exact absurd rfl (hNone rest)
      · rfl
    refine ⟨fun _ => ?_, fun hHead => ?_⟩
    · rw [hMark, h]
      exact lineAt_append_byteLength front back
    · obtain ⟨rest, hText⟩ := List.head?_eq_some_iff.mp hHead
      exact absurd hText (hNone rest)

/-- A start tag among the tokens of a text stands in the text with its content behind `<`, as many
bytes behind the byte order mark as the token says, on the line that the text has there. -/
theorem exists_front_of_mem_tokenize {text : List Char} {start : Nat} {content : List Char}
    {isEmpty : Bool} (h : ⟨start, .opening content isEmpty⟩ ∈ (tokenize text).tokens) :
    ∃ front back, text = front ++ '<' :: (content ++ back) ∧
      Text.byteLength front = Text.byteLength (byteOrderMark text) + start ∧
      OnLine text front (lineAt text start) := by
  obtain ⟨cut, ⟨rest, hText⟩, hCuts⟩ := exists_cuts_tokenize text
  obtain ⟨front, back, rfl, rfl⟩ := hCuts.exists_front (List.mem_reverse.mpr h)
  have hBehind : dropByteOrderMark text = front ++ ('<' :: (content ++ (back ++ rest))) := by
    rw [← hText]
    simp
  refine ⟨byteOrderMark text ++ front, back ++ rest, ?_, Text.byteLength_append _ _,
    onLine_byteOrderMark hBehind⟩
  rw [List.append_assoc, ← hBehind, byteOrderMark_append]

/-- The start tag of an event that is one. -/
def Event.tag? : Event → Option OpenTag
  | .opening tag => some tag
  | _ => none

/-- The start tags of some events. -/
def openTags (events : List Event) : List OpenTag := events.filterMap Event.tag?

/-- The token is a start tag and `tag` is what a scan delivers for it, but for the attributes. -/
structure OpenTag.Announces (text : List Char) (tag : OpenTag) (token : Token) : Prop where
  kind : ∃ content isEmpty, token.kind = .opening content isEmpty ∧
    tag.name = String.ofList (Attribute.tagName content)
  line : tag.line = lineAt text token.start

namespace Scanner

variable {mode : AttributeMode} {options : Options} {s : Scanner} {text : List Char}

/-- A start tag is delivered with the line of the cursor, or it is an error and nothing is
delivered. -/
theorem openTags_stepOpening (content : List Char) (isEmpty : Bool) :
    openTags (s.stepOpening mode options content isEmpty).events = openTags s.events ∨
      ∃ attributes, openTags (s.stepOpening mode options content isEmpty).events =
        ⟨String.ofList (Attribute.tagName content), attributes, s.cursor.line⟩ ::
          openTags s.events := by
  unfold stepOpening
  dsimp only
  split
  · exact .inl rfl
  · split
    · exact .inl rfl
    · next attributes _ =>
      split
      · exact .inl rfl
      · cases isEmpty <;> exact .inr ⟨attributes, rfl⟩

theorem openTags_stepClosing (found : String) :
    openTags (s.stepClosing found).events = openTags s.events := by
  unfold stepClosing
  split
  · rfl
  · split <;> rfl

/-- A text delivers no start tag. -/
theorem openTags_stepText (raw : List Char) :
    openTags (s.stepText raw).events = openTags s.events := by
  unfold stepText
  dsimp only
  split
  · rfl
  · split <;> rfl

/-- Reading a token delivers no start tag or the one that the token is, on the line that the cursor
finds for it. -/
theorem openTags_step (hCursor : s.cursor.StandsIn text) (token : Token) :
    openTags (s.step mode options token).events = openTags s.events ∨
      ∃ tag : OpenTag, tag.Announces text token ∧
        openTags (s.step mode options token).events = tag :: openTags s.events := by
  obtain ⟨start, kind⟩ := token
  unfold step
  split
  · exact .inl rfl
  · cases kind with
    | opening content isEmpty =>
      rcases openTags_stepOpening (s := { s with cursor := s.cursor.seek start }) content isEmpty
        with hSame | ⟨attributes, hTag⟩
      · exact .inl hSame
      · exact .inr ⟨_, ⟨⟨content, isEmpty, rfl, rfl⟩, hCursor.line_seek start⟩, hTag⟩
    | closing name => exact .inl (openTags_stepClosing _)
    | text raw =>
      dsimp only
      cases Reference.resolve raw with
      | ok resolved => exact .inl (openTags_stepText resolved)
      | error defect => exact .inl rfl
    | characterData content => exact .inl (openTags_stepText content)
    | skipped => exact .inl rfl

/-- The start tags that are delivered, last first, are some of the start tags that are read, in the
same order. -/
theorem openTags_foldl_step (hCursor : s.cursor.StandsIn text) {done : List Token}
    (hDone : List.SublistForall₂ (OpenTag.Announces text) (openTags s.events) done)
    (tokens : List Token) :
    List.SublistForall₂ (OpenTag.Announces text)
      (openTags (tokens.foldl (step mode options) s).events) (tokens.reverse ++ done) := by
  induction tokens generalizing s done with
  | nil => exact hDone
  | cons token rest ih =>
    have hNext : List.SublistForall₂ (OpenTag.Announces text)
        (openTags (s.step mode options token).events) (token :: done) := by
      rcases openTags_step hCursor token with hSame | ⟨tag, hTag, hMore⟩
      · rw [hSame]
        exact .cons_right hDone
      · rw [hMore]
        exact .cons hTag hDone
    have hRest := ih (standsIn_step hCursor token) hNext
    rw [List.reverse_cons, List.append_assoc]
    exact hRest

theorem openTags_start (mode : AttributeMode) (options : Options) (text : List Char)
    (tokens : List Token) :
    List.SublistForall₂ (OpenTag.Announces text)
      (openTags (tokens.foldl (step mode options) { cursor := .start text }).events)
      tokens.reverse := by
  have hNone : List.SublistForall₂ (OpenTag.Announces text)
      (openTags ({ cursor := .start text } : Scanner).events) [] := .nil
  simpa using openTags_foldl_step (LineCursor.standsIn_start text) hNone tokens

end Scanner

/-- The start tag stands in the text: so many bytes in there is `<` with the tag's name right behind
it, and the tag has the line of that place. -/
def OpenTag.StandsAt (text : List Char) (place : Nat) (tag : OpenTag) : Prop :=
  ∃ front back, text = front ++ '<' :: (tag.name.toList ++ back) ∧
    Text.byteLength front = place ∧ OnLine text front tag.line

/-- A start tag that a token announces stands in the text where the token starts, moved on by the
byte order mark. -/
theorem OpenTag.Announces.standsAt {text : List Char} {tag : OpenTag} {token : Token}
    (h : tag.Announces text token) (hMem : token ∈ (tokenize text).tokens) :
    tag.StandsAt text (Text.byteLength (byteOrderMark text) + token.start) := by
  obtain ⟨⟨content, isEmpty, hKind, hName⟩, hLine⟩ := h
  obtain ⟨start, kind⟩ := token
  obtain rfl : kind = .opening content isEmpty := hKind
  obtain ⟨front, back, hText, hLength, hOnLine⟩ := exists_front_of_mem_tokenize hMem
  -- The name is the front of the content, so it comes right behind the bracket.
  have hContent : content = tag.name.toList ++ content.dropWhile (!isTagBlank ·) := by
    rw [hName, String.toList_ofList, Attribute.tagName, List.takeWhile_append_dropWhile]
  refine ⟨front, content.dropWhile (!isTagBlank ·) ++ back, ?_, hLength, hLine ▸ hOnLine⟩
  rw [← List.append_assoc, ← hContent]
  exact hText

/-- The start tags that a scan delivers stand in the text one behind the other, each on its line. -/
theorem standsAt_scan (text : String) (mode : AttributeMode) (options : Options) :
    ∃ places : List Nat, places.Pairwise (· < ·) ∧
      List.Forall₂ (OpenTag.StandsAt text.toList) places
        (openTags (scan text mode options).events) := by
  cases hBlank : Text.isAllBlank text.toList with
  | true =>
    have hScan : scan text mode options = ⟨[], some .empty⟩ := by simp [scan, hBlank]
    rw [hScan]
    exact ⟨[], .nil, .nil⟩
  | false =>
    obtain ⟨cut, -, hCuts⟩ := exists_cuts_tokenize text.toList
    obtain ⟨announced, hTags, hSublist⟩ := List.sublistForall₂_iff.mp
      (Scanner.openTags_start mode options text.toList (tokenize text.toList).tokens)
    refine ⟨(announced.map fun token =>
      Text.byteLength (byteOrderMark text.toList) + token.start).reverse, ?_, ?_⟩
    · have hLater := hCuts.pairwise_start.sublist hSublist
      rw [List.pairwise_reverse, List.pairwise_map]
      exact hLater.imp fun hLt => Nat.add_lt_add_left hLt _
    · have hMem (token : Token) (h : token ∈ announced) :
          token ∈ (tokenize text.toList).tokens := List.mem_reverse.mp (hSublist.subset h)
      have hPairs := (List.forall₂_and_left _ _).mpr ⟨hMem, hTags.flip⟩
      rw [scan_events text mode options hBlank, openTags, List.filterMap_reverse,
        List.forall₂_reverse_iff, List.forall₂_map_left_iff]
      exact hPairs.imp fun token tag hPair => hPair.2.standsAt hPair.1

/-- In a text that begins with a byte order mark and a line end no tag is on the first line, since
the line end comes before all of them. -/
theorem count_pos_of_behind_mark {rest front back : List Char}
    (h : '\ufeff' :: '\n' :: rest = front ++ '<' :: back) : 0 < front.count '\n' := by
  match front, h with
  | [], h => cases h
  | [_], h => cases h
  | _ :: c :: _, h =>
    obtain ⟨-, rfl, -⟩ : _ ∧ '\n' = c ∧ _ := by simpa using h
    exact List.count_pos_iff.mpr (by simp)

/-- Behind a byte order mark a start tag can be given a line too far up: here the one `<` is on the
second line, and the tag is said to be on the first. -/
theorem line_missed_behind_mark :
    ¬ ∃ places : List Nat, places.Pairwise (· < ·) ∧
      List.Forall₂ (fun place tag => ∃ front back,
          "\ufeff\n<r/>".toList = front ++ '<' :: ((OpenTag.name tag).toList ++ back) ∧
          Text.byteLength front = place ∧ tag.line = 1 + front.count '\n')
        places (openTags (scan "\ufeff\n<r/>" .boolean {}).events) := by
  rintro ⟨places, -, hTags⟩
  have hScan : openTags (scan "\ufeff\n<r/>" .boolean {}).events = [⟨"r", [], 1⟩] := by
    decide +kernel
  rw [hScan] at hTags
  obtain ⟨place, -, ⟨front, back, hText, -, hLine⟩, -, -⟩ := List.forall₂_cons_right_iff.mp hTags
  have hBelow := count_pos_of_behind_mark hText
  dsimp only at hLine
  omega

end MarkupRules.Markup
