import MarkupRules.Proofs.Markup.Reading
import MarkupRules.Proofs.Markup.Rendering
import MarkupRules.Proofs.Text.Blank

/-!
What is written is read back.

`Inside` says what the lexer and the scanner have made of the content of an element so far. A
text may still be on hold in the lexer then, since only the next tag ends it.
-/
namespace MarkupRules.Markup

/-- A text, if it is one at all. -/
def chunk (content : List Char) : List String :=
  if content = [] then [] else [String.ofList content]

@[simp]
theorem chunk_nil : chunk [] = [] := rfl

theorem chunk_eq_nil_iff {content : List Char} : chunk content = [] ↔ content = [] := by
  simp [chunk]

/-- The characters on hold, last first, are a trimmed text with blanks around it. -/
inductive OnHold : List Char → List Char → Prop where
  | mk {lead content trail : List Char} (hLead : Blanks lead)
      (hTrimmed : Text.trim content = content) (hTrail : Blanks trail) :
      OnHold (lead ++ Reference.escape content ++ trail).reverse content

namespace OnHold

variable {held content : List Char}

theorem nil : OnHold [] [] := by
  have hTrimmed : Text.trim [] = [] := rfl
  simpa [Reference.escape] using OnHold.mk Blanks.nil hTrimmed Blanks.nil

/-- What is on hold is resolved to a text that is trimmed to the content. The blanks around it are
not part of what was written. -/
theorem resolve (h : OnHold held content) :
    ∃ text, Reference.resolve held.reverse = .ok text ∧ Text.trim text = content := by
  cases h with
  | @mk lead content trail hLead hTrimmed hTrail =>
    refine ⟨lead ++ content ++ trail, ?_, ?_⟩
    · rw [List.reverse_reverse]
      exact Reference.resolve_append_escape_append (hLead.ne_of_mem rfl) (hTrail.ne_of_mem rfl) _
    · rw [Text.trim_append hLead.isBlank hTrail.isBlank, hTrimmed]

/-- Blanks may come to what is on hold at any time and change nothing about the content. -/
theorem blanks (h : OnHold held content) {blanks : List Char} (hBlanks : Blanks blanks) :
    OnHold (blanks.reverse ++ held) content := by
  cases h with
  | mk hLead hTrimmed hTrail => simpa using OnHold.mk hLead hTrimmed (hTrail.append hBlanks)

theorem text (h : OnHold held []) (hTrimmed : Text.trim content = content) :
    OnHold ((Reference.escape content).reverse ++ held) content := by
  cases h with
  | mk hLead hNil hTrail =>
    simpa [Reference.escape] using OnHold.mk (hLead.append hTrail) hTrimmed Blanks.nil

/-- The tag behind a text delivers it, and only then, since more of it might have come before. -/
theorem reads (h : OnHold held content) {s s' : Scanner}
    (hReads : Scanner.Reads .boolean {} (Lexer.textKinds held) s s') (hError : s.error = none)
    (hInside : content ≠ [] → s.openElements ≠ []) :
    ∃ cursor, s' = { s with
      cursor := cursor
      events := ((chunk content).map Event.text).reverse ++ s.events } := by
  obtain ⟨text, hResolve, hTrim⟩ := h.resolve
  cases held with
  | nil =>
    obtain rfl : [] = text := Except.ok.inj hResolve
    obtain rfl : [] = content := hTrim
    cases hReads
    exact ⟨s.cursor, rfl⟩
  | cons c rest =>
    cases hReads with
    | cons start hRest =>
      cases hRest
      refine ⟨s.cursor.seek start, ?_⟩
      by_cases hNone : content = []
      · subst hNone
        rw [Scanner.step_blankText hError start hResolve hTrim]
        rfl
      · rw [Scanner.step_text hError start hResolve (hTrim ▸ hNone) (hInside hNone), hTrim, chunk,
          if_neg hNone]
        rfl

end OnHold

/-- The scanner has taken in these events since it was `s`, and the same elements are open. -/
structure Delivered (s : Scanner) (events : List Event) (s' : Scanner) : Prop where
  error : s'.error = none
  openElements : s'.openElements = s.openElements
  seenRoot : s'.seenRoot = true
  events : s'.events = events.reverse ++ s.events

theorem Delivered.append {s t u : Scanner} {events more : List Event} (h : Delivered s events t)
    (hMore : Delivered t more u) : Delivered s (events ++ more) u :=
  ⟨hMore.error, hMore.openElements.trans h.openElements, hMore.seenRoot,
    by rw [hMore.events, h.events, List.reverse_append, List.append_assoc]⟩

/-- Pieces with these texts and with children of these names and data. -/
structure Holding (texts : List String) (entries : List (String × Node)) (pieces : List Piece) :
    Prop where
  inside : ∀ events e, .element events e ∈ pieces → Describes events e
  texts : pieces.filterMap Piece.text? = texts
  entries : Element.namedNodes {} (pieces.filterMap Piece.element?) = entries

/-- Two lists of pieces have the texts and children of both, in their order. -/
theorem Holding.append {texts more : List String} {entries others : List (String × Node)}
    {pieces rest : List Piece} (h : Holding texts entries pieces)
    (hRest : Holding more others rest) :
    Holding (texts ++ more) (entries ++ others) (pieces ++ rest) where
  inside events e hMem := by
    rcases List.mem_append.mp hMem with hMem | hMem
    · exact h.inside events e hMem
    · exact hRest.inside events e hMem
  texts := by rw [List.filterMap_append, h.texts, hRest.texts]
  entries := by
    rw [List.filterMap_append, Element.namedNodes_eq_map, List.map_append,
      ← Element.namedNodes_eq_map, ← Element.namedNodes_eq_map, h.entries, hRest.entries]

/-- A text alone is a list of pieces without children, and none at all if it is empty. -/
theorem holding_chunk (content : List Char) :
    Holding (chunk content) [] ((chunk content).map Piece.text) := by
  unfold chunk
  split
  · exact ⟨by simp, rfl, rfl⟩
  · exact ⟨by simp, rfl, rfl⟩

/-- Inside an element, tokens of these kinds deliver these texts and children. -/
def Collects (kinds : List Token.Kind) (texts : List String) (entries : List (String × Node)) :
    Prop :=
  ∀ s s', Scanner.Reads .boolean {} kinds s s' → s.error = none → s.openElements ≠ [] →
    s.seenRoot = true →
    ∃ pieces, Holding texts entries pieces ∧ Delivered s (pieces.flatMap Piece.events) s'

/-- Tokens of these kinds deliver an element of this name and with these data, inside another one
or as the root. -/
def Delivers (kinds : List Token.Kind) (name : String) (node : Node) : Prop :=
  ∀ s s', Scanner.Reads .boolean {} kinds s s' → s.error = none →
    (s.openElements = [] → s.seenRoot = false) →
    ∃ events e, Describes events e ∧ e.name = name ∧ e.node {} = node ∧ Delivered s events s'

namespace Collects

variable {kinds more : List Token.Kind} {texts : List String} {entries : List (String × Node)}

theorem nil : Collects [] [] [] := by
  intro s s' hReads hError hOpen hSeen
  cases hReads
  exact ⟨[], ⟨by simp, rfl, rfl⟩, hError, rfl, hSeen, rfl⟩

/-- Tokens one behind the other deliver what each of the two lists delivers. It is in this form that
the content of an element is put together. -/
theorem append {others : List String} {rest : List (String × Node)}
    (h : Collects kinds texts entries) (hMore : Collects more others rest) :
    Collects (kinds ++ more) (texts ++ others) (entries ++ rest) := by
  intro s s' hReads hError hOpen hSeen
  obtain ⟨t, hBefore, hAfter⟩ := hReads.split
  obtain ⟨pieces, hHolding, hDelivered⟩ := h s t hBefore hError hOpen hSeen
  obtain ⟨behind, hOthers, hRest⟩ := hMore t s' hAfter hDelivered.error
    (hDelivered.openElements ▸ hOpen) hDelivered.seenRoot
  refine ⟨pieces ++ behind, hHolding.append hOthers, ?_⟩
  rw [List.flatMap_append]
  exact hDelivered.append hRest

/-- What is on hold becomes a token that delivers the content and no child. -/
theorem onHold {held content : List Char} (h : OnHold held content) :
    Collects (Lexer.textKinds held) (chunk content) [] := by
  intro s s' hReads hError hOpen hSeen
  have hEvents : ((chunk content).map Piece.text).flatMap Piece.events =
      (chunk content).map Event.text := by
    rw [List.flatMap_map, List.map_eq_flatMap]
    rfl
  obtain ⟨cursor, rfl⟩ := h.reads hReads hError fun _ => hOpen
  exact ⟨_, holding_chunk content, hError, rfl, hSeen, by rw [hEvents]⟩

/-- Tokens that deliver an element deliver it as a child where there is an element around them. -/
theorem child {name : String} {node : Node} (h : Delivers kinds name node) :
    Collects kinds [] [(name, node)] := by
  intro s s' hReads hError hOpen hSeen
  obtain ⟨events, e, hDescribes, rfl, rfl, hDelivered⟩ :=
    h s s' hReads hError fun hNone => absurd hNone hOpen
  refine ⟨[.element events e], ⟨?_, rfl, rfl⟩, by simpa [Piece.events] using hDelivered⟩
  rintro events' e' hMem
  obtain ⟨rfl, rfl⟩ : events' = events ∧ e' = e := by simpa using hMem
  exact hDescribes

end Collects

/-- The one text of an element is its text as a whole, with nothing joined to it. -/
theorem intercalate_chunk (s : String) : " ".intercalate (chunk s.toList) = s := by
  unfold chunk
  split
  · next hNone => simpa using (String.toList_eq_nil_iff.mp hNone).symm
  · simp

/-- The start tag of an element that is made of the parts. -/
def Parts.tag (p : Parts) (name : String) (line : Nat) : OpenTag :=
  ⟨name, p.attributes.map fun a => ⟨a.1, a.2⟩, line⟩

namespace Delivers

variable {name : String} {p : Parts} {start : List Char}

/-- An element between two tags is delivered with its attributes, the texts and the children that
its content delivers. -/
theorem element (hName : IsName name) (hParts : p.Valid)
    (hStart : WrittenAttributes p.attributes start) {kinds : List Token.Kind}
    (h : Collects kinds (chunk p.text.toList) p.children) :
    Delivers (.opening (name.toList ++ start) false :: (kinds ++ [.closing name.toList])) name
      p.node := by
  intro s s' hReads hError hRoot
  have hAttributes := hStart.ofTag hName hParts.attributesDistinct .boolean
  cases hReads with
  | cons first hRest =>
    rw [Scanner.step_opening hError first hRoot hAttributes rfl, hStart.tagName hName,
      String.ofList_toList] at hRest
    obtain ⟨t, hInside, hEnd⟩ := hRest.split
    obtain ⟨pieces, hHolding, hDelivered⟩ := h _ t hInside hError (by simp) rfl
    cases hEnd with
    | cons last hNil =>
      cases hNil
      have hOpen : t.openElements =
          (String.ofList name.toList, (s.cursor.seek first).line) :: s.openElements := by
        rw [hDelivered.openElements, String.ofList_toList, Scanner.openElements_push]
      have hClosed : t.openElements.tail = s.openElements := by rw [hOpen, List.tail_cons]
      refine ⟨_, _, .mk (p.tag name (s.cursor.seek first).line) pieces hHolding.inside, rfl, ?_, ?_⟩
      · rw [Element.node, hHolding.texts, hHolding.entries, intercalate_chunk]
        exact hParts.assemble_eq
      · rw [Scanner.step_closing hDelivered.error last hOpen]
        exact ⟨hDelivered.error, hClosed, hDelivered.seenRoot,
          by simp [hDelivered.events, Parts.tag]⟩

/-- An element in one tag is delivered like one that has nothing between two tags. -/
theorem empty (hName : IsName name) (hParts : p.Valid)
    (hStart : WrittenAttributes p.attributes start) (hChildless : p.groups = [])
    (hText : p.text = "") :
    Delivers [.opening (name.toList ++ start) true] name p.node := by
  intro s s' hReads hError hRoot
  have hAttributes := hStart.ofTag hName hParts.attributesDistinct .boolean
  have hChildren : p.children = [] := hParts.children_eq_nil_iff.mpr hChildless
  cases hReads with
  | cons first hNil =>
    cases hNil
    rw [Scanner.step_empty hError first hRoot hAttributes rfl, hStart.tagName hName,
      String.ofList_toList]
    refine ⟨_, _, .mk (p.tag name (s.cursor.seek first).line) [] (by simp), rfl, ?_,
      ⟨hError, rfl, rfl, rfl⟩⟩
    have hNode := hParts.assemble_eq
    rw [hText, hChildren] at hNode
    exact hNode

end Delivers

/-- The characters are read as an element of this name and with these data, whatever came before
them. -/
def ReadAs (name : String) (node : Node) (chars : List Char) : Prop :=
  ∀ l held kinds, Lexer.At .text held kinds l →
    ∃ more, Lexer.At .text [] (more.reverse ++ (Lexer.textKinds held ++ kinds))
        (chars.foldl Lexer.step l) ∧ Delivers more name node

/-- Behind the tokens `base` the lexer has met these texts and children, the last text perhaps
still on hold. -/
inductive Inside (base : List Token.Kind) (l : Lexer) :
    List String → List (String × Node) → Prop where
  | mk {kinds : List Token.Kind} {held content : List Char} {texts : List String}
      {entries : List (String × Node)} (hAt : Lexer.At .text held (kinds.reverse ++ base) l)
      (hOnHold : OnHold held content) (hCollects : Collects kinds texts entries) :
      Inside base l (texts ++ chunk content) entries

theorem Lexer.reverse_textKinds (held : List Char) : (textKinds held).reverse = textKinds held := by
  cases held <;> rfl

namespace Inside

variable {base : List Token.Kind} {l : Lexer} {texts : List String}
  {entries : List (String × Node)}

theorem start (hAt : Lexer.At .text [] base l) : Inside base l [] [] :=
  .mk hAt OnHold.nil Collects.nil

theorem blanks (h : Inside base l texts entries) {blanks : List Char} (hBlanks : Blanks blanks) :
    Inside base (blanks.foldl Lexer.step l) texts entries := by
  cases h with
  | mk hAt hOnHold hCollects =>
    exact .mk (hAt.text (hBlanks.ne_of_mem rfl)) (hOnHold.blanks hBlanks) hCollects

/-- The only text of an element may come at any place between its children. It is on hold until the
next tag. -/
theorem text (h : Inside base l [] entries) {content : List Char}
    (hTrimmed : Text.trim content = content) :
    Inside base ((Reference.escape content).foldl Lexer.step l) (chunk content) entries := by
  -- No text has come yet, so what is on hold is blank.
  generalize hNone : ([] : List String) = before at h
  cases h with
  | @mk kinds held blank texts _ hAt hOnHold hCollects =>
    obtain ⟨rfl, hBlank⟩ := List.append_eq_nil_iff.mp hNone.symm
    obtain rfl := chunk_eq_nil_iff.mp hBlank
    have hText := hAt.text (Reference.ne_bracket_of_mem_escape content)
    exact .mk hText (hOnHold.text hTrimmed) hCollects

/-- One more child comes to what is inside, and ends a text that was on hold. -/
theorem child (h : Inside base l texts entries) {name : String} {node : Node} {chars : List Char}
    (hChild : ReadAs name node chars) :
    Inside base (chars.foldl Lexer.step l) texts (entries ++ [(name, node)]) := by
  cases h with
  | @mk kinds held content texts _ hAt hOnHold hCollects =>
    obtain ⟨more, hMore, hDelivers⟩ := hChild l held _ hAt
    have hAll := (hCollects.append (.onHold hOnHold)).append (.child hDelivers)
    have hAfter : Lexer.At .text [] ((kinds ++ Lexer.textKinds held ++ more).reverse ++ base)
        (chars.foldl Lexer.step l) := by
      simpa [Lexer.reverse_textKinds] using hMore
    simpa using Inside.mk hAfter OnHold.nil hAll

/-- All children with the blanks in front of them come to what is inside, by induction on their
list. -/
theorem slots (h : Inside base l texts entries) {slots : List Slot}
    (hBlanks : ∀ slot ∈ slots, Blanks slot.blanks)
    (hRead : ∀ slot ∈ slots, ReadAs slot.name slot.node slot.chars) :
    Inside base ((slots.flatMap Slot.written).foldl Lexer.step l) texts
      (entries ++ slots.map Slot.entry) := by
  induction slots generalizing l entries with
  | nil => simpa using h
  | cons slot rest ih =>
    obtain ⟨hBlank, hBlanks⟩ := List.forall_mem_cons.mp hBlanks
    obtain ⟨hSlot, hRead⟩ := List.forall_mem_cons.mp hRead
    have hRest := ih ((h.blanks hBlank).child hSlot) hBlanks hRead
    simpa [Slot.written, Slot.entry] using hRest

/-- The end tag ends the text that may still be on hold, and closes the element with all that came.
-/
theorem closing (h : Inside base l texts entries) {name : String} (hName : IsName name)
    {stop : List Char} (hStop : Blanks stop) :
    ∃ kinds, Collects kinds texts entries ∧
      Lexer.At .text [] (.closing name.toList :: (kinds.reverse ++ base))
        (('<' :: '/' :: (name.toList ++ stop) ++ ['>']).foldl Lexer.step l) := by
  cases h with
  | @mk kinds held content texts _ hAt hOnHold hCollects =>
    refine ⟨kinds ++ Lexer.textKinds held, ?_, ?_⟩
    · simpa using hCollects.append (.onHold hOnHold)
    · simpa [Lexer.reverse_textKinds] using hName.endTag hAt hStop

end Inside

/-- What is written is read, by induction on how it is written. The lexer may have been anywhere in
a text before. -/
theorem Written.readAs {name : String} {node : Node} {chars : List Char}
    (h : Written name node chars) : ReadAs name node chars := by
  induction h with
  | @tags name hName p hParts start hStart before after hChildren hBlanks hWritten lead last stop
      hLead hLast hStop ih =>
    intro l held kinds hAt
    obtain ⟨hBlanksBefore, hBlanksAfter⟩ := List.forall_mem_append.mp hBlanks
    obtain ⟨hBefore, hAfter⟩ := List.forall_mem_append.mp ih
    have hTrimmed : Text.trim p.text.toList = p.text.toList := by
      simpa [Text.trimmed] using congrArg String.toList hParts.text
    -- Start tag, children, text, children, end tag: each takes up where the one before it stopped.
    have hStarted := Inside.start (hStart.startTag hName hAt)
    have hText := ((hStarted.slots hBlanksBefore hBefore).blanks hLead).text hTrimmed
    have hContent := (hText.slots hBlanksAfter hAfter).blanks hLast
    obtain ⟨inside, hCollects, hClosed⟩ := hContent.closing hName hStop
    rw [List.nil_append, ← List.map_append, hChildren] at hCollects
    refine ⟨_, ?_, .element hName hParts hStart hCollects⟩
    simpa using hClosed
  | @empty name hName p hParts hChildless hText start hStart =>
    intro l held kinds hAt
    refine ⟨[.opening (name.toList ++ start) true], hStart.emptyTag hName hAt, ?_⟩
    exact .empty hName hParts hStart hChildless hText

theorem reads_blanks {blanks : List Char} (hBlanks : Blanks blanks) {s s' : Scanner}
    (hReads : Scanner.Reads .boolean {} (Lexer.textKinds blanks.reverse) s s')
    (hError : s.error = none) : ∃ cursor, s' = { s with cursor := cursor } := by
  have hOnHold : OnHold blanks.reverse [] := by simpa using OnHold.nil.blanks hBlanks
  exact hOnHold.reads hReads hError fun hSome => absurd rfl hSome

theorem Written.exists_cons {name : String} {node : Node} {chars : List Char}
    (h : Written name node chars) : ∃ rest, chars = '<' :: rest := by
  cases h with
  | tags => exact ⟨_, by simp only [List.cons_append]; rfl⟩
  | empty => exact ⟨_, rfl⟩

/-- What is written is scanned without an error, whatever blanks are around it. -/
theorem Written.scan_eq {name : String} {node : Node} {written : List Char}
    (h : Written name node written) {lead trail : List Char} (hLead : Blanks lead)
    (hTrail : Blanks trail) :
    ∃ events e, Describes events e ∧ e.name = name ∧ e.node {} = node ∧
      scan (String.ofList (lead ++ written ++ trail)) .boolean {} = ⟨events, none⟩ := by
  have hBefore : Lexer.At .text lead.reverse [] (lead.foldl Lexer.step {}) := by
    simpa using Lexer.At.start.text (hLead.ne_of_mem rfl)
  obtain ⟨kinds, hInside, hDelivers⟩ := h.readAs _ _ _ hBefore
  have hAt : Lexer.At .text trail.reverse (kinds.reverse ++ Lexer.textKinds lead.reverse)
      ((String.ofList (lead ++ written ++ trail)).toList.foldl Lexer.step {}) := by
    simpa using hInside.text (hTrail.ne_of_mem rfl)
  obtain ⟨rest, rfl⟩ := h.exists_cons
  have hSome : Text.isAllBlank (String.ofList (lead ++ '<' :: rest ++ trail)).toList = false := by
    have hBracket : Text.isBlank '<' = false := by decide
    simp [Text.isAllBlank, hBracket]
  have hMark : (String.ofList (lead ++ '<' :: rest ++ trail)).toList.head? ≠ some '\ufeff' := by
    cases lead with
    | nil => simp
    | cons c blanks => simpa using hLead.ne_of_mem rfl c (.head _)
  obtain ⟨s', hReads, hScan⟩ := exists_reads_scan _ .boolean {} hSome hMark hAt
  have hKinds : (Lexer.textKinds trail.reverse ++
      (kinds.reverse ++ Lexer.textKinds lead.reverse)).reverse =
      Lexer.textKinds lead.reverse ++ (kinds ++ Lexer.textKinds trail.reverse) := by
    simp [Lexer.reverse_textKinds]
  rw [hKinds] at hReads
  obtain ⟨s, hFront, hReads⟩ := hReads.split
  obtain ⟨t, hRoot, hBack⟩ := hReads.split
  obtain ⟨first, rfl⟩ := reads_blanks hLead hFront rfl
  obtain ⟨events, e, hDescribes, hName, hNode, hDelivered⟩ :=
    hDelivers _ t hRoot rfl fun _ => rfl
  obtain ⟨last, rfl⟩ := reads_blanks hTrail hBack hDelivered.error
  have hDone : Scanner.finish none { t with cursor := last } = { t with cursor := last } :=
    Scanner.finish_of_closed hDelivered.error hDelivered.openElements hDelivered.seenRoot
  refine ⟨events, e, hDescribes, hName, hNode, ?_⟩
  rw [hScan, hDone]
  simp [hDelivered.error, hDelivered.events]

/-- A canonical tree can be written, and in whatever way it is written, it is read back. -/
theorem Document.parse_written {name : String} (hName : IsName name) {node : Node}
    (hCanonical : IsCanonical node) :
    (∃ written, Written name node written) ∧
      ∀ lead written trail, Blanks lead → Written name node written → Blanks trail →
        (Document.parse (String.ofList (lead ++ written ++ trail)) {}).map Document.tree =
          .ok (.mapping [(name, node)]) := by
  refine ⟨hCanonical.exists_written hName, fun lead written trail hLead hWritten hTrail => ?_⟩
  obtain ⟨events, e, hDescribes, rfl, rfl, hScan⟩ := hWritten.scan_eq hLead hTrail
  rw [Document.parse_of_scan hScan (Element.ofEvents?_of_describes hDescribes)]
  rfl

/-- Attributes, children of two names, and a text. -/
def mixedParts : Parts where
  attributes := [("x", "1 < 2"), ("y", "\"")]
  groups := [("b", [.scalar "1", .scalar "2"]), ("c", [.scalar ""])]
  text := "a & d"

/-- One way to write them. -/
def mixedWritten : List Char :=
  "<r x=\"1 &lt; 2\"\n y=\"&quot;\"><b>1</b> a &amp; d\n<b>\t2</b ><c/>\r\n</r>".toList

theorem valid_mixedParts : mixedParts.Valid :=
  ⟨by decide, by decide, by decide, by decide, by simp [mixedParts], by decide⟩

theorem isCanonical_mixedParts : IsCanonical mixedParts.node := by
  refine .node valid_mixedParts ?_
  simp only [Parts.children, mixedParts, List.flatMap_cons, List.flatMap_nil, List.map_cons,
    List.map_nil, List.cons_append, List.nil_append, List.forall_mem_cons]
  exact ⟨.scalar (by decide), .scalar (by decide), .scalar (by decide), by simp⟩

/-- One way to write them, with blanks between the tags and the text behind the first child. -/
theorem written_mixedParts : Written "r" mixedParts.node mixedWritten := by
  have hName : ∀ name ∈ ["r", "x", "y", "b", "c"], IsName name := by decide
  simp only [List.forall_mem_cons] at hName
  obtain ⟨hr, hx, hy, hb, hc, -⟩ := hName
  have hSpace : Blanks [' '] := by decide
  have hLine : Blanks ['\n'] := by decide
  have hLineSpace : Blanks ['\n', ' '] := by decide
  have hTab : Blanks ['\t'] := by decide
  have hLast : Blanks ['\r', '\n'] := by decide
  have hStart := WrittenAttributes.cons (by decide) hSpace hx "1 < 2"
    (.cons (by decide) hLineSpace hy "\"" .bare)
  have hFirst : Written "b" (.scalar "1") "<b>1</b>".toList :=
    .scalar hb (by decide) Blanks.nil Blanks.nil
  have hSecond : Written "b" (.scalar "2") "<b>\t2</b >".toList :=
    .scalar hb (by decide) hTab hSpace
  have hThird : Written "c" (.scalar "") "<c/>".toList :=
    .empty hc (Parts.valid_text (by decide)) rfl rfl .bare
  have hChildren : ([Slot.mk [] "b" (.scalar "1") "<b>1</b>".toList] ++
      [Slot.mk ['\n'] "b" (.scalar "2") "<b>\t2</b >".toList,
        Slot.mk [] "c" (.scalar "") "<c/>".toList]).map Slot.entry = mixedParts.children := rfl
  have hWritten := Written.tags hr valid_mixedParts hStart hChildren
    (by simpa using ⟨Blanks.nil, hLine, Blanks.nil⟩) (by simpa using ⟨hFirst, hSecond, hThird⟩)
    hSpace hLast Blanks.nil
  refine (congrArg (Written "r" mixedParts.node) ?_).mpr hWritten
  decide +kernel

/-- A canonical node with attributes, children of two names and a text, in one of the ways to write
it, with blanks around the root. -/
theorem parse_written_mixedParts :
    IsName "r" ∧ IsCanonical mixedParts.node ∧
      (∃ written, Written "r" mixedParts.node written) ∧
      (Document.parse (String.ofList (['\n'] ++ mixedWritten ++ [' '])) {}).map Document.tree =
        .ok (.mapping [("r", mixedParts.node)]) := by
  have hName : IsName "r" := by decide
  obtain ⟨hSome, hAll⟩ := Document.parse_written hName isCanonical_mixedParts
  exact ⟨hName, isCanonical_mixedParts, hSome,
    hAll _ _ _ (by decide) written_mixedParts (by decide)⟩

end MarkupRules.Markup
