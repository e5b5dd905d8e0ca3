import MarkupRules.Proofs.Markup.Canonical
import MarkupRules.Proofs.Markup.StartTag

/-!
The texts in which a canonical node can be written.

Between tags and around the text there may be any blanks, the text may stand in front of,
between or behind the children, and an element without content may be one tag.
-/
namespace MarkupRules.Markup

/-- A child where it is written, with the blanks in front of it. -/
structure Slot where
  blanks : List Char
  name : String
  node : Node
  chars : List Char

namespace Slot

def entry (slot : Slot) : String × Node := (slot.name, slot.node)

def written (slot : Slot) : List Char := slot.blanks ++ slot.chars

end Slot

/-- `Written name node cs`: the characters are an element of this name and with these data. -/
inductive Written : String → Node → List Char → Prop where
  | tags {name : String} (hName : IsName name) {p : Parts} (hParts : p.Valid) {start : List Char}
      (hStart : WrittenAttributes p.attributes start) {before after : List Slot}
      (hChildren : (before ++ after).map Slot.entry = p.children)
      (hBlanks : ∀ slot ∈ before ++ after, Blanks slot.blanks)
      (hWritten : ∀ slot ∈ before ++ after, Written slot.name slot.node slot.chars)
      {lead last stop : List Char} (hLead : Blanks lead) (hLast : Blanks last)
      (hStop : Blanks stop) :
      Written name p.node
        (('<' :: (name.toList ++ start) ++ ['>']) ++ before.flatMap Slot.written ++
          lead ++ Reference.escape p.text.toList ++ after.flatMap Slot.written ++ last ++
          ('<' :: '/' :: (name.toList ++ stop) ++ ['>']))
  | empty {name : String} (hName : IsName name) {p : Parts} (hParts : p.Valid)
      (hChildless : p.groups = []) (hText : p.text = "") {start : List Char}
      (hStart : WrittenAttributes p.attributes start) :
      Written name p.node ('<' :: (name.toList ++ start ++ ['/']) ++ ['>'])

/-- A text between two tags and nothing else is how an element that is a text alone can be written.
-/
theorem Written.scalar {name : String} (hName : IsName name) {text : String}
    (hTrimmed : Text.trimmed text = text) {lead stop : List Char} (hLead : Blanks lead)
    (hStop : Blanks stop) :
    Written name (.scalar text)
      (('<' :: name.toList ++ ['>']) ++ lead ++ Reference.escape text.toList ++
        ('<' :: '/' :: (name.toList ++ stop) ++ ['>'])) := by
  have hNone : (([] : List Slot) ++ []).map Slot.entry = Parts.children ⟨[], [], text⟩ := rfl
  have hWritten := Written.tags hName (Parts.valid_text hTrimmed) .bare hNone (by simp) (by simp)
    hLead Blanks.nil hStop
  simpa [Parts.node] using hWritten

/-- Attributes whose names are names of letters can be written, whatever is in their values: what
markup takes for its own is written as references. -/
theorem exists_writtenAttributes {attributes : List (String × String)}
    (hNames : ∀ a ∈ attributes, IsName a.1) : ∃ written, WrittenAttributes attributes written := by
  induction attributes with
  | nil => exact ⟨[], .bare⟩
  | cons a rest ih =>
    obtain ⟨others, hOthers⟩ := ih fun b hMem => hNames b (.tail _ hMem)
    have hBlank : Blanks [' '] := by decide
    exact ⟨_, .cons (by decide) hBlank (hNames a (.head _)) a.2 hOthers⟩

/-- Children that can each be written can be written one after the other. Here no blanks are put in
front of them, though there may be any. -/
theorem exists_slots {entries : List (String × Node)}
    (h : ∀ e ∈ entries, ∃ chars, Written e.1 e.2 chars) :
    ∃ slots : List Slot, slots.map Slot.entry = entries ∧
      (∀ slot ∈ slots, Blanks slot.blanks) ∧
      ∀ slot ∈ slots, Written slot.name slot.node slot.chars := by
  induction entries with
  | nil => exact ⟨[], by simp⟩
  | cons e rest ih =>
    obtain ⟨chars, hChars⟩ := h e (.head _)
    obtain ⟨slots, hEntries, hBlanks, hWritten⟩ := ih fun e' hMem => h e' (.tail _ hMem)
    refine ⟨⟨[], e.1, e.2, chars⟩ :: slots, by rw [List.map_cons, hEntries]; rfl, ?_, ?_⟩
    · exact List.forall_mem_cons.mpr ⟨Blanks.nil, hBlanks⟩
    · exact List.forall_mem_cons.mpr ⟨hChars, hWritten⟩

theorem Parts.Valid.isName_of_mem_children {p : Parts} (h : p.Valid) :
    ∀ c ∈ p.children, IsName c.1 := by
  intro c hChild
  obtain ⟨g, hGroup, hMem⟩ := List.mem_flatMap.mp hChild
  obtain ⟨node, -, rfl⟩ := List.mem_map.mp hMem
  exact h.childNames g hGroup

/-- A canonical node can be written under any name of letters. So the statement that all that is
written is read back says something about every canonical node. -/
theorem IsCanonical.exists_written {node : Node} (h : IsCanonical node) {name : String}
    (hName : IsName name) : ∃ written, Written name node written := by
  induction h generalizing name with
  | @node p hParts hChildren ih =>
    obtain ⟨start, hStart⟩ := exists_writtenAttributes hParts.attributeNames
    obtain ⟨slots, hEntries, hBlanks, hWritten⟩ := exists_slots fun c hMem =>
      ih c hMem (hParts.isName_of_mem_children c hMem)
    rw [← List.append_nil slots] at hEntries hBlanks hWritten
    exact ⟨_, .tags hName hParts hStart hEntries hBlanks hWritten Blanks.nil Blanks.nil Blanks.nil⟩

end MarkupRules.Markup
