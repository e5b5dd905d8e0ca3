import MarkupRules.Proofs.Markup.Reading
import MarkupRules.Proofs.Markup.Scan
import MarkupRules.Proofs.Markup.StartTag
import Mathlib.Data.List.Induction

/-!
Texts of bare tags, and which of them are well-formed.

A grammar says which sequences of tags are one element, and `Refused` says what is wrong
with any other: its first tag that cannot stand where it does, or what it leaves open. The
scanner decides by a stack what the grammar says without one.
-/
namespace MarkupRules.Markup

/-- A tag with nothing but a name in it. -/
inductive Tag where
  | opening (name : String)
  | closing (name : String)
  /-- A whole element in one tag. -/
  | empty (name : String)
  deriving Repr, DecidableEq

namespace Tag

def name : Tag → String
  | opening name | closing name | empty name => name

def isClosing : Tag → Bool
  | closing _ => true
  | opening _ | empty _ => false

/-- How a tag is written. -/
def written : Tag → List Char
  | opening name => '<' :: name.toList ++ ['>']
  | closing name => '<' :: '/' :: name.toList ++ ['>']
  | empty name => '<' :: (name.toList ++ ['/']) ++ ['>']

/-- Tags written one after the other, with nothing between them. -/
def text (tags : List Tag) : String := String.ofList (tags.flatMap written)

/-- The kind of token that a tag is. -/
def kind : Tag → Token.Kind
  | opening name => .opening name.toList false
  | closing name => .closing name.toList
  | empty name => .opening name.toList true

end Tag

/-- Any number of elements side by side. -/
inductive IsContent : List Tag → Prop where
  | nil : IsContent []
  | empty (name : String) {rest : List Tag} (hRest : IsContent rest) :
      IsContent (.empty name :: rest)
  | element (name : String) {inside rest : List Tag} (hInside : IsContent inside)
      (hRest : IsContent rest) :
      IsContent (.opening name :: (inside ++ .closing name :: rest))

/-- One element: a tag for all of it, or a start and an end tag of one name around elements. -/
inductive IsElement : List Tag → Prop where
  | empty (name : String) : IsElement [.empty name]
  | element (name : String) {inside : List Tag} (hInside : IsContent inside) :
      IsElement (.opening name :: (inside ++ [.closing name]))

/-- The beginning of an element in which elements of these names are still open, innermost first:
behind the start tag of each stand whole elements. -/
inductive LeavesOpen : List Tag → List String → Prop where
  | nil : LeavesOpen [] []
  | cons {before : List Tag} {outer : List String} (hOuter : LeavesOpen before outer)
      (name : String) {inside : List Tag} (hInside : IsContent inside) :
      LeavesOpen (before ++ .opening name :: inside) (name :: outer)

/-- The first tag that cannot stand where it does, and the error that it makes. -/
inductive Offends : List Tag → Error → Prop where
  | unmatchedEnd {before : List Tag} (hBefore : before = [] ∨ IsElement before) (found : String)
      (after : List Tag) :
      Offends (before ++ .closing found :: after) (.malformed 1 (.unmatchedEnd found))
  | mismatchedEnd {before : List Tag} {name : String} {outer : List String}
      (hBefore : LeavesOpen before (name :: outer)) {found : String} (hName : found ≠ name)
      (after : List Tag) :
      Offends (before ++ .closing found :: after) (.malformed 1 (.mismatchedEnd name found))
  | secondRoot {before : List Tag} (hBefore : IsElement before) {tag : Tag}
      (hTag : tag.isClosing = false) (after : List Tag) :
      Offends (before ++ tag :: after) (.multipleRoots 1)

/-- What is wrong with tags that are not one element. -/
inductive Refused : List Tag → Error → Prop where
  | nothing : Refused [] .empty
  | offends {tags : List Tag} {e : Error} (hOffends : Offends tags e) : Refused tags e
  | unclosed {tags : List Tag} {name : String} {outer : List String}
      (hOpen : LeavesOpen tags (name :: outer)) : Refused tags (.unclosed name 1)

theorem IsContent.append {tags more : List Tag} (h : IsContent tags) (hMore : IsContent more) :
    IsContent (tags ++ more) := by
  induction h with
  | nil => exact hMore
  | empty name hRest ih => exact .empty name ih
  | element name hInside hRest ihInside ih => simpa using IsContent.element name hInside ih

theorem IsElement.isContent {tags : List Tag} (h : IsElement tags) : IsContent tags := by
  cases h with
  | empty name => exact .empty name .nil
  | element name hInside => exact .element name hInside .nil

theorem IsElement.ne_nil {tags : List Tag} (h : IsElement tags) : tags ≠ [] := by
  cases h <;> simp

theorem Offends.ne_nil {tags : List Tag} {e : Error} (h : Offends tags e) : tags ≠ [] := by
  cases h <;> simp

/-- A tag that offends goes on offending, whatever tags come behind it. -/
theorem Offends.append {tags : List Tag} {e : Error} (h : Offends tags e) (more : List Tag) :
    Offends (tags ++ more) e := by
  cases h with
  | unmatchedEnd hBefore found after => simpa using Offends.unmatchedEnd hBefore found _
  | mismatchedEnd hBefore hName after => simpa using Offends.mismatchedEnd hBefore hName _
  | secondRoot hBefore hTag after => simpa using Offends.secondRoot hBefore hTag _

namespace LeavesOpen

variable {tags : List Tag} {name : String} {outer : List String}

theorem ne_nil (h : LeavesOpen tags (name :: outer)) : tags ≠ [] := by
  cases h
  simp

/-- Whole elements go into the innermost open one and leave the same names open. -/
theorem content (h : LeavesOpen tags (name :: outer)) {more : List Tag} (hMore : IsContent more) :
    LeavesOpen (tags ++ more) (name :: outer) := by
  cases h with
  | cons hOuter _ hInside => simpa using LeavesOpen.cons hOuter name (hInside.append hMore)

/-- The end tag of the innermost open element completes it: the tags are one element then, or it is
one more whole element inside the next open one. -/
theorem close (h : LeavesOpen tags (name :: outer)) :
    outer = [] ∧ IsElement (tags ++ [.closing name]) ∨
      outer ≠ [] ∧ LeavesOpen (tags ++ [.closing name]) outer := by
  cases h with
  | @cons before _ hOuter _ inside hInside =>
    have hElement := IsElement.element name hInside
    cases outer with
    | nil =>
      cases hOuter
      exact .inl ⟨rfl, by simpa using hElement⟩
    | cons parent outer =>
      exact .inr ⟨by simp, by simpa using hOuter.content hElement.isContent⟩

end LeavesOpen

/-- Tags are one element, or the beginning of one, or have a first tag that offends. No stack is
used to tell: it goes by induction on the tags from behind. -/
theorem isElement_or_leavesOpen_or_offends (tags : List Tag) :
    IsElement tags ∨ (∃ names, LeavesOpen tags names) ∨ ∃ e, Offends tags e := by
  -- Whether a tag may stand somewhere depends on what is open before it: the last one goes first.
  induction tags using List.reverseRecOn with
  | nil => exact .inr (.inl ⟨[], .nil⟩)
  | append_singleton tags tag ih =>
    rcases ih with hElement | ⟨names, hOpen⟩ | ⟨e, hOffends⟩
    · refine .inr (.inr ?_)
      cases tag with
      | closing found => exact ⟨_, .unmatchedEnd (.inr hElement) found []⟩
      | opening name => exact ⟨_, .secondRoot hElement rfl []⟩
      | empty name => exact ⟨_, .secondRoot hElement rfl []⟩
    · cases tag with
      | opening name => exact .inr (.inl ⟨_, .cons hOpen name .nil⟩)
      | empty name =>
        cases names with
        | nil =>
          cases hOpen
          exact .inl (.empty name)
        | cons parent outer => exact .inr (.inl ⟨_, hOpen.content (.empty name .nil)⟩)
      | closing found =>
        cases names with
        | nil =>
          cases hOpen
          exact .inr (.inr ⟨_, .unmatchedEnd (.inl rfl) found []⟩)
        | cons name outer =>
          by_cases hName : found = name
          · subst hName
            rcases hOpen.close with ⟨-, hElement⟩ | ⟨-, hOuter⟩
            · exact .inl hElement
            · exact .inr (.inl ⟨_, hOuter⟩)
          · exact .inr (.inr ⟨_, .mismatchedEnd hOpen hName []⟩)
    · exact .inr (.inr ⟨e, hOffends.append _⟩)

/-- Any sequence of tags is one element, or the grammar finds something wrong with it. -/
theorem isElement_or_refused (tags : List Tag) : IsElement tags ∨ ∃ e, Refused tags e := by
  rcases isElement_or_leavesOpen_or_offends tags with hElement | ⟨names, hOpen⟩ | ⟨e, hOffends⟩
  · exact .inl hElement
  · cases names with
    | nil =>
      cases hOpen
      exact .inr ⟨_, .nothing⟩
    | cons name outer => exact .inr ⟨_, .unclosed hOpen⟩
  · exact .inr ⟨e, .offends hOffends⟩

/-- The names in tags are names of letters. -/
def Named (tags : List Tag) : Prop := ∀ tag ∈ tags, IsName tag.name

instance (tags : List Tag) : Decidable (Named tags) :=
  inferInstanceAs (Decidable (∀ tag ∈ tags, IsName tag.name))

theorem named_append {before after : List Tag} :
    Named (before ++ after) ↔ Named before ∧ Named after := List.forall_mem_append

theorem named_cons {tag : Tag} {rest : List Tag} :
    Named (tag :: rest) ↔ IsName tag.name ∧ Named rest := List.forall_mem_cons

/-- Tags that are written one after the other are cut into these tags again, since nothing stands
between them. -/
theorem Lexer.At.written {s : Lexer} {kinds : List Token.Kind} (h : At .text [] kinds s)
    {tags : List Tag} (hNamed : Named tags) :
    At .text [] ((tags.map Tag.kind).reverse ++ kinds)
      ((tags.flatMap Tag.written).foldl step s) := by
  induction tags generalizing s kinds with
  | nil => exact h
  | cons tag rest ih =>
    obtain ⟨hName, hRest⟩ := named_cons.mp hNamed
    have hTag : At .text [] (tag.kind :: kinds) (tag.written.foldl step s) := by
      cases tag with
      | opening name =>
        have hStart := WrittenAttributes.bare.startTag hName h
        rwa [List.append_nil] at hStart
      | closing name =>
        have hEnd := IsName.endTag hName h Blanks.nil
        rwa [List.append_nil] at hEnd
      | empty name =>
        have hEmpty := WrittenAttributes.bare.emptyTag hName h
        rwa [List.append_nil] at hEmpty
    rw [List.flatMap_cons, List.foldl_append]
    simpa using ih hTag hRest

namespace Scanner

variable {mode : AttributeMode} {options : Options} {s s' : Scanner} {names : List String}
  {name : String} {seen : Bool} {tags : List Tag}

/-- The scanner has met no error and no line end, elements of these names are open, innermost
first, and the root has been seen or not. -/
structure Holds (names : List String) (seen : Bool) (s : Scanner) : Prop where
  error : s.error = none
  openElements : s.openElements = names.map (·, 1)
  seenRoot : s.seenRoot = seen
  cursor : s.cursor.OnFirstLine

namespace Holds

theorem root (h : Holds names seen s) (hFirst : names = [] → seen = false) :
    s.openElements = [] → s.seenRoot = false := by
  intro hOpen
  rw [h.openElements, List.map_eq_nil_iff] at hOpen
  rw [h.seenRoot, hFirst hOpen]

theorem opening (h : Holds names seen s) (hName : IsName name)
    (hFirst : names = [] → seen = false) (hDepth : options.maxDepth = none) (start : Nat) :
    Holds (name :: names) true (s.step mode options ⟨start, .opening name.toList false⟩) := by
  rw [step_opening h.error start (h.root hFirst) (hName.ofTag mode) hDepth, hName.tagName]
  have hCursor := h.cursor.seek start
  exact ⟨h.error, by simp [h.openElements, hCursor.line], rfl, hCursor⟩

/-- An empty tag leaves the names that are held open as they are. The root has been seen behind it.
-/
theorem empty (h : Holds names seen s) (hName : IsName name)
    (hFirst : names = [] → seen = false) (hDepth : options.maxDepth = none) (start : Nat) :
    Holds names true (s.step mode options ⟨start, .opening name.toList true⟩) := by
  rw [step_empty h.error start (h.root hFirst) (hName.ofTag mode) hDepth]
  exact ⟨h.error, h.openElements, rfl, h.cursor.seek start⟩

/-- The end tag of the innermost name takes that name away. -/
theorem closing (h : Holds (name :: names) seen s) (start : Nat) :
    Holds names seen (s.step mode options ⟨start, .closing name.toList⟩) := by
  have hOpen : s.openElements = (String.ofList name.toList, 1) :: names.map (·, 1) := by
    simp [h.openElements]
  have hClosed : s.openElements.tail = names.map (·, 1) := by rw [hOpen, List.tail_cons]
  rw [step_closing h.error start hOpen]
  exact ⟨h.error, hClosed, h.seenRoot, h.cursor.seek start⟩

/-- An end tag where nothing is held open makes the error that the grammar says. -/
theorem unmatchedEnd (h : Holds [] seen s) (found : String) (start : Nat) :
    (s.step mode options ⟨start, (Tag.closing found).kind⟩).error =
      some (.malformed 1 (.unmatchedEnd found)) := by
  rw [Tag.kind, step_unmatchedEnd h.error start h.openElements, (h.cursor.seek start).line,
    String.ofList_toList]

/-- An end tag with another name than the innermost makes the error that the grammar says, with both
names. -/
theorem mismatchedEnd (h : Holds (name :: names) seen s) {found : String} (hName : found ≠ name)
    (start : Nat) :
    (s.step mode options ⟨start, (Tag.closing found).kind⟩).error =
      some (.malformed 1 (.mismatchedEnd name found)) := by
  rw [Tag.kind, step_mismatchedEnd h.error start h.openElements (by simpa using hName),
    (h.cursor.seek start).line, String.ofList_toList]

/-- A tag behind the root makes the error that the grammar says. All tags are on the first line. -/
theorem secondRoot (h : Holds [] true s) {tag : Tag} (hTag : tag.isClosing = false)
    (start : Nat) :
    (s.step mode options ⟨start, tag.kind⟩).error = some (.multipleRoots 1) := by
  rw [← (h.cursor.seek start).line]
  cases tag with
  | opening name => exact step_secondRoot h.error start h.openElements h.seenRoot
  | closing name => cases hTag
  | empty name => exact step_secondRoot h.error start h.openElements h.seenRoot

end Holds

variable (hDepth : options.maxDepth = none)

include hDepth

/-- Whole elements inside an open one leave open what was open. -/
theorem Holds.content {outer : List String} (hContent : IsContent tags) (hNamed : Named tags)
    (hReads : Reads mode options (tags.map Tag.kind) s s')
    (h : Holds (name :: outer) true s) : Holds (name :: outer) true s' := by
  induction hContent generalizing s s' name outer with
  | nil =>
    cases hReads
    exact h
  | empty child hRest ih =>
    obtain ⟨hChild, hNamed⟩ := named_cons.mp hNamed
    cases hReads with
    | cons start hReads => exact ih hNamed hReads (h.empty hChild (by simp) hDepth start)
  | element child hInside hRest ihInside ih =>
    obtain ⟨hChild, hNamed⟩ := named_cons.mp hNamed
    obtain ⟨hNamedInside, hNamed⟩ := named_append.mp hNamed
    rw [List.map_cons, List.map_append, List.map_cons] at hReads
    cases hReads with
    | cons start hReads =>
      obtain ⟨middle, hReadsInside, hReads⟩ := hReads.split
      have hMiddle := ihInside hNamedInside hReadsInside (h.opening hChild (by simp) hDepth start)
      cases hReads with
      | cons stop hReads =>
        exact ih (named_cons.mp hNamed).2 hReads (hMiddle.closing stop)

/-- One whole element leads from the start to the end of the root. -/
theorem Holds.element (hElement : IsElement tags) (hNamed : Named tags)
    (hReads : Reads mode options (tags.map Tag.kind) s s') (h : Holds [] false s) :
    Holds [] true s' := by
  cases hElement with
  | empty name =>
    cases hReads with
    | cons start hReads =>
      cases hReads
      exact h.empty (named_cons.mp hNamed).1 (by simp) hDepth start
  | element name hInside =>
    obtain ⟨hName, hNamed⟩ := named_cons.mp hNamed
    rw [List.map_cons, List.map_append] at hReads
    cases hReads with
    | cons start hReads =>
      obtain ⟨middle, hReadsInside, hReads⟩ := hReads.split
      have hMiddle := (h.opening hName (by simp) hDepth start).content hDepth hInside
        (named_append.mp hNamed).1 hReadsInside
      cases hReads with
      | cons stop hReads =>
        cases hReads
        exact hMiddle.closing stop

/-- What the grammar says is open is what the scanner holds open, names and order alike. This is the
invariant by which the stack of the scanner is told without one. -/
theorem Holds.leavesOpen (hOpen : LeavesOpen tags names) (hNamed : Named tags)
    (hReads : Reads mode options (tags.map Tag.kind) s s') (h : Holds [] false s) :
    Holds names (!names.isEmpty) s' := by
  -- The start tags that have no end tag split the text; between them stand whole elements.
  induction hOpen generalizing s' with
  | nil =>
    cases hReads
    exact h
  | cons hOuter name hInside ih =>
    obtain ⟨hNamedBefore, hNamed⟩ := named_append.mp hNamed
    obtain ⟨hName, hNamedInside⟩ := named_cons.mp hNamed
    rw [List.map_append, List.map_cons] at hReads
    obtain ⟨middle, hReadsBefore, hReads⟩ := hReads.split
    have hMiddle := ih hNamedBefore hReadsBefore
    cases hReads with
    | cons start hReads =>
      exact (hMiddle.opening hName (by simp +contextual) hDepth start).content hDepth hInside
        hNamedInside hReads

/-- The tag that offends makes its error, and what comes behind it is not read, so it is the error
of the whole. -/
theorem error_of_offends {e : Error} (hOffends : Offends tags e) (hNamed : Named tags)
    (hReads : Reads mode options (tags.map Tag.kind) s s') (h : Holds [] false s) :
    s'.error = some e := by
  cases hOffends with
  | unmatchedEnd hBefore found after =>
    rw [List.map_append, List.map_cons] at hReads
    obtain ⟨middle, start, hReadsBefore, hError⟩ := hReads.error_at
    rcases hBefore with rfl | hElement
    · cases hReadsBefore
      exact hError _ (h.unmatchedEnd found start)
    · have hMiddle := h.element hDepth hElement (named_append.mp hNamed).1 hReadsBefore
      exact hError _ (hMiddle.unmatchedEnd found start)
  | mismatchedEnd hBefore hName after =>
    rw [List.map_append, List.map_cons] at hReads
    obtain ⟨middle, start, hReadsBefore, hError⟩ := hReads.error_at
    have hMiddle := h.leavesOpen hDepth hBefore (named_append.mp hNamed).1 hReadsBefore
    exact hError _ (hMiddle.mismatchedEnd hName start)
  | secondRoot hBefore hTag after =>
    rw [List.map_append, List.map_cons] at hReads
    obtain ⟨middle, start, hReadsBefore, hError⟩ := hReads.error_at
    have hMiddle := h.element hDepth hBefore (named_append.mp hNamed).1 hReadsBefore
    exact hError _ (hMiddle.secondRoot hTag start)

end Scanner

section Verdict

variable {tags : List Tag} (hNamed : Named tags) (mode : AttributeMode) (options : Options)

/-- A bare tag with a name of letters has no line end in it. That is why all errors are on the first
line. -/
theorem newline_notMem_written {tag : Tag} (hName : IsName tag.name) : '\n' ∉ tag.written := by
  have hLetters : '\n' ∉ tag.name.toList := by
    intro hMem
    exact ne_of_isAlpha (hName.letters _ hMem) rfl rfl
  cases tag <;> simpa [Tag.written, Tag.name] using hLetters

include hNamed

/-- The scan of tags reads their kinds one after the other from the first line on. -/
theorem exists_reads_tags (hSome : tags ≠ []) :
    ∃ start s, Scanner.Holds [] false start ∧
      Scanner.Reads mode options (tags.map Tag.kind) start s ∧
      (scan (Tag.text tags) mode options).error = (s.finish none).error := by
  have hHead : (tags.flatMap Tag.written).head? = some '<' := by
    cases tags with
    | nil => exact absurd rfl hSome
    | cons tag rest => cases tag <;> rfl
  have hLess : '<' ∈ tags.flatMap Tag.written := List.mem_of_head? hHead
  have hLines : '\n' ∉ tags.flatMap Tag.written := by
    intro hMem
    obtain ⟨tag, hTag, hLine⟩ := List.mem_flatMap.mp hMem
    exact newline_notMem_written (hNamed tag hTag) hLine
  have hBlank : Text.isAllBlank (tags.flatMap Tag.written) = false :=
    List.all_eq_false.mpr ⟨'<', hLess, by decide⟩
  have hAt := Lexer.At.start.written hNamed
  obtain ⟨s, hReads, hScan⟩ := exists_reads_scan (Tag.text tags) mode options
    (by simpa [Tag.text] using hBlank) (by simp [Tag.text, hHead]) (by simpa [Tag.text] using hAt)
  refine ⟨_, s, ⟨rfl, rfl, rfl, ?_⟩, by simpa [Lexer.textKinds] using hReads, by rw [hScan]⟩
  simp only [Tag.text, String.toList_ofList]
  exact ⟨hLines, hLines, rfl⟩

variable {options} (hDepth : options.maxDepth = none)

include hDepth

/-- Tags that are one element are scanned without an error. -/
theorem error_scan_of_isElement (h : IsElement tags) :
    (scan (Tag.text tags) mode options).error = none := by
  obtain ⟨start, s, hStart, hReads, hError⟩ :=
    exists_reads_tags hNamed mode options h.ne_nil
  have hEnd := hStart.element hDepth h hNamed hReads
  rw [hError, Scanner.finish_of_closed hEnd.error hEnd.openElements hEnd.seenRoot]
  exact hEnd.error

/-- Tags that are refused are scanned with the error that they are refused for. -/
theorem error_scan_of_refused {e : Error} (h : Refused tags e) :
    (scan (Tag.text tags) mode options).error = some e := by
  cases h with
  | nothing => rfl
  | offends hOffends =>
    obtain ⟨start, s, hStart, hReads, hError⟩ :=
      exists_reads_tags hNamed mode options hOffends.ne_nil
    have hEnd := Scanner.error_of_offends hDepth hOffends hNamed hReads hStart
    rw [hError]
    simp [Scanner.finish, hEnd]
  | unclosed hOpen =>
    obtain ⟨start, s, hStart, hReads, hError⟩ :=
      exists_reads_tags hNamed mode options hOpen.ne_nil
    have hEnd := hStart.leavesOpen hDepth hOpen hNamed hReads
    rw [hError]
    simp [Scanner.finish, hEnd.error, hEnd.openElements, Scanner.fail]

end Verdict

/-- Bare tags of any number and depth are accepted if they are one element by the grammar, and
turned down for what the grammar finds wrong with them. Since the grammar always finds one or the
other, this says for every sequence of tags what becomes of it. -/
theorem checkWellFormed_tags {tags : List Tag} (hNamed : Named tags) (mode : AttributeMode)
    {options : Options} (hDepth : options.maxDepth = none) :
    (checkWellFormed (Tag.text tags) mode options = .ok () ↔ IsElement tags) ∧
      ∀ e, checkWellFormed (Tag.text tags) mode options = .error e ↔ Refused tags e := by
  rw [checkWellFormed_eq_ok_iff]
  simp only [checkWellFormed_eq_error_iff]
  rcases isElement_or_refused tags with hElement | ⟨e, hRefused⟩
  · have hNone := error_scan_of_isElement hNamed mode hDepth hElement
    refine ⟨iff_of_true hNone hElement, fun e => iff_of_false (by simp [hNone]) fun h => ?_⟩
    rw [error_scan_of_refused hNamed mode hDepth h] at hNone
    cases hNone
  · have hSome := error_scan_of_refused hNamed mode hDepth hRefused
    constructor
    · refine iff_of_false (by simp [hSome]) fun h => ?_
      rw [error_scan_of_isElement hNamed mode hDepth h] at hSome
      cases hSome
    · intro e'
      constructor
      · intro hError
        obtain rfl := Option.some.inj (hSome.symm.trans hError)
        exact hRefused
      · exact error_scan_of_refused hNamed mode hDepth

/-- Two elements inside a third, whose end tags cross. -/
def crossedTags : List Tag :=
  [.opening "r", .empty "x", .opening "a", .opening "b", .closing "a", .closing "b", .closing "r"]

/-- Two elements whose end tags cross are turned down at the first of the two, though each tag has a
partner. -/
theorem checkWellFormed_crossedTags :
    Named crossedTags ∧ ({} : Options).maxDepth = none ∧
      checkWellFormed (Tag.text crossedTags) .strict {} =
        .error (.malformed 1 (.mismatchedEnd "b" "a")) := by
  have hNamed : Named crossedTags := by decide
  have hOpen : LeavesOpen [.opening "r", .empty "x", .opening "a", .opening "b"] ["b", "a", "r"] :=
    .cons (.cons (.cons .nil "r" (.empty "x" .nil)) "a" .nil) "b" .nil
  have hRefused : Refused crossedTags (.malformed 1 (.mismatchedEnd "b" "a")) :=
    .offends (.mismatchedEnd hOpen (by decide) [.closing "b", .closing "r"])
  exact ⟨hNamed, rfl, ((checkWellFormed_tags hNamed .strict rfl).2 _).mpr hRefused⟩

end MarkupRules.Markup
