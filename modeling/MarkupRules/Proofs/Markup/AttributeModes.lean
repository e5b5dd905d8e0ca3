import MarkupRules.Proofs.Markup.Attribute
import MarkupRules.Proofs.Markup.TagLines
import MarkupRules.Proofs.Markup.Trailing

/-!
Strict reading of attributes against boolean reading.

What strict reading makes of a tag boolean reading makes of it too, so the two scans of a text
differ only where strict reading refuses the attributes of a start tag.
-/
namespace MarkupRules.Markup

namespace Attribute

/-- A value that strict reading cuts off is cut off alike by boolean reading. The modes differ on
values without quotes only. -/
theorem cutValue_boolean_of_strict {s : Located} {cut : List Char × Located}
    (h : cutValue .strict s = .ok cut) : cutValue .boolean s = .ok cut := by
  unfold cutValue at h ⊢
  dsimp only at h ⊢
  split at h
  · cases h
  · split at h
    · next hQuote =>
      rw [if_pos hQuote]
      exact h
    · cases h

/-- An attribute that strict reading cuts off is cut off alike by boolean reading. The modes differ
on keys without values only. -/
theorem cutAttribute_boolean_of_strict {seen : Seen} {s : Located}
    {cut : Option ((Key × List Char) × Seen × Located)}
    (h : cutAttribute .strict seen s = .ok cut) : cutAttribute .boolean seen s = .ok cut := by
  unfold cutAttribute at h ⊢
  dsimp only at h ⊢
  split at h
  · exact h
  · next first rest _ =>
    split at h
    · next behind hEquals =>
      rw [hEquals]
      obtain ⟨noted, hNote, h⟩ := bind_eq_ok_iff.mp h
      obtain ⟨value, hValue, h⟩ := bind_eq_ok_iff.mp h
      exact bind_eq_ok_iff.mpr ⟨noted, hNote, bind_eq_ok_iff.mpr
        ⟨value, cutValue_boolean_of_strict hValue, h⟩⟩
    · cases h
    · next hMode _ => cases hMode

/-- The two ways of reading agree on every list of attributes that strict reading accepts. -/
theorem readFrom_boolean_of_strict {fuel : Nat} {seen : Seen} {s : Located}
    {attributes : List Attribute} (h : readFrom .strict fuel seen s = .ok attributes) :
    readFrom .boolean fuel seen s = .ok attributes := by
  induction fuel generalizing seen s attributes with
  | zero => exact h
  | succ fuel ih =>
    rw [readFrom] at h ⊢
    obtain ⟨cut, hCut, h⟩ := bind_eq_ok_iff.mp h
    have hBoolean := cutAttribute_boolean_of_strict (mapError_eq_ok_iff.mp hCut)
    refine bind_eq_ok_iff.mpr ⟨cut, mapError_eq_ok_iff.mpr hBoolean, ?_⟩
    cases cut with
    | none => exact h
    | some cut =>
      obtain ⟨⟨key, raw⟩, seen', rest⟩ := cut
      obtain ⟨value, hValue, h⟩ := bind_eq_ok_iff.mp h
      obtain ⟨others, hOthers, h⟩ := bind_eq_ok_iff.mp h
      exact bind_eq_ok_iff.mpr ⟨value, hValue, bind_eq_ok_iff.mpr ⟨others, ih hOthers, h⟩⟩

/-- A tag that strict reading accepts has the same attributes in boolean reading. -/
theorem ofTag_boolean_of_strict {content : List Char} {attributes : List Attribute}
    (h : ofTag .strict content = .ok attributes) : ofTag .boolean content = .ok attributes :=
  readFrom_boolean_of_strict h

end Attribute

/-- Strict reading refuses the attributes of a start tag of the text, which is on this line. -/
inductive RefusedTag (text : List Char) (line : Nat) (defect : Defect) : Prop where
  | mk {start : Nat} {content : List Char} {isEmpty : Bool} {front back : List Char}
      (hToken : ⟨start, .opening content isEmpty⟩ ∈ (tokenize text).tokens)
      (hText : text = front ++ '<' :: (content ++ back))
      (hPlace : Text.byteLength front = Text.byteLength (byteOrderMark text) + start)
      (hLine : OnLine text front line)
      (hRefused : Attribute.ofTag .strict content = .error defect)

/-- `boolean.StrictTo text strict`: the strict scan of the text is the boolean one, or it delivers
the beginning of what the boolean one does and ends at a start tag whose attributes it refuses. -/
inductive Scan.StrictTo (text : List Char) (boolean : Scan) : Scan → Prop where
  | same : StrictTo text boolean boolean
  | refused {before later : List Event} {line : Nat} {defect : Defect}
      (hEvents : boolean.events = before ++ later) (hTag : RefusedTag text line defect) :
      StrictTo text boolean ⟨before, some (.malformed line defect)⟩

/-- The attributes of a tag are refused, whatever has been delivered before and is delivered
otherwise. -/
inductive Scanner.StopsAtTag (text : List Char) (_ _ : List Event) : Error → Prop where
  | mk {line : Nat} {defect : Defect} (hTag : RefusedTag text line defect) :
      StopsAtTag text _ _ (.malformed line defect)

namespace Scanner

variable {options : Options} {s : Scanner} {text : List Char}

/-- What strict reading makes of a start tag boolean reading makes of it too, unless strict reading
refuses its attributes. -/
theorem trails_stepOpening_strict {content : List Char} (isEmpty : Bool)
    (hRefused : ∀ defect, Attribute.ofTag .strict content = .error defect →
      RefusedTag text s.cursor.line defect) :
    Trails (StopsAtTag text) (s.stepOpening .strict options content isEmpty)
      (s.stepOpening .boolean options content isEmpty) := by
  cases hStrict : Attribute.ofTag .strict content with
  | ok attributes =>
    have hBoolean := Attribute.ofTag_boolean_of_strict hStrict
    have hSame : s.stepOpening .strict options content isEmpty =
        s.stepOpening .boolean options content isEmpty := by
      rw [stepOpening, stepOpening, hStrict, hBoolean]
    exact .level hSame
  | error defect =>
    by_cases hRoot : (s.openElements.isEmpty && s.seenRoot) = true
    · have hSecond (mode : AttributeMode) : s.stepOpening mode options content isEmpty =
          s.fail (.multipleRoots s.cursor.line) := by simp [stepOpening, hRoot]
      exact .level (by rw [hSecond, hSecond])
    · have hStop : s.stepOpening .strict options content isEmpty =
          s.fail (.malformed s.cursor.line defect) := by simp [stepOpening, hRoot, hStrict]
      have hMove : Move .boolean options s (s.stepOpening .boolean options content isEmpty) :=
        move_stepOpening s content isEmpty
      obtain ⟨later, hLater⟩ := hMove.exists_events
      rw [hStop]
      exact .stopped rfl hLater (.mk (hRefused defect hStrict))

/-- The modes differ only where strict reading refuses the attributes of a start tag. All other
tokens are read alike. -/
theorem trails_step_strict (options : Options) (hError : s.error = none) (h : s.InStep text)
    {token : Token} (hMem : token ∈ (tokenize text).tokens) :
    Trails (StopsAtTag text) (s.step .strict options token) (s.step .boolean options token) := by
  refine trails_step hError token fun start content isEmpty hToken =>
    trails_stepOpening_strict isEmpty fun defect hRefused => ?_
  rw [hToken] at hMem
  obtain ⟨front, back, hText, hPlace, hLine⟩ := exists_front_of_mem_tokenize hMem
  rw [← h.cursor.line_seek] at hLine
  exact .mk hMem hText hPlace hLine hRefused

end Scanner

/-- A strict scan only refuses more. It delivers what the boolean scan does, up to the first start
tag whose attributes it refuses, and ends there with an error on the line of that tag, unless a byte
order mark moves the line. -/
theorem strictTo_scan (text : String) (options : Options) :
    (scan text .boolean options).StrictTo text.toList (scan text .strict options) ∧
      ((scan text .strict options).error = none →
        scan text .boolean options = scan text .strict options) := by
  have hGrows (before later more : List Event) (e : Error)
      (h : Scanner.StopsAtTag text.toList before later e) :
      Scanner.StopsAtTag text.toList before (later ++ more) e := by
    cases h with
    | mk hTag => exact .mk hTag
  rcases scan_trails hGrows fun _ _ hMem hError h =>
      Scanner.trails_step_strict options hError h hMem with
    hSame | ⟨before, later, e, hStrict, hEvents, hStop⟩
  · rw [hSame]
    exact ⟨.same, fun _ => rfl⟩
  · rw [hStrict]
    cases hStop with
    | mk hTag => exact ⟨.refused hEvents hTag, by simp⟩

/-- Behind a byte order mark a refused tag can be reported a line too far up: the two scans differ,
and the line in the error is not that of any `<`. -/
theorem refusal_misplaced_behind_mark :
    ¬ (scan "\ufeff\n<r a/>" .strict {} = scan "\ufeff\n<r a/>" .boolean {} ∨
      ∃ line defect front back,
        (scan "\ufeff\n<r a/>" .strict {}).error = some (.malformed line defect) ∧
        (scan "\ufeff\n<r a/>" .strict {}).events <+:
          (scan "\ufeff\n<r a/>" .boolean {}).events ∧
        "\ufeff\n<r a/>".toList = front ++ '<' :: back ∧ line = 1 + front.count '\n') := by
  have hStrict : (scan "\ufeff\n<r a/>" .strict {}).error =
      some (.malformed 1 (.badAttribute (.expectedEquals 3))) := by decide +kernel
  have hBoolean : (scan "\ufeff\n<r a/>" .boolean {}).error = none := by decide +kernel
  rintro (hSame | ⟨line, defect, front, back, hError, -, hText, hLine⟩)
  · rw [hSame, hBoolean] at hStrict
    cases hStrict
  · obtain ⟨rfl, -⟩ : 1 = line ∧ _ = defect := by simpa [hStrict] using hError
    have hBelow := count_pos_of_behind_mark hText
    omega

end MarkupRules.Markup
