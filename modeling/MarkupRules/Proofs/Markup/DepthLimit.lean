import MarkupRules.Proofs.Markup.Depth
import MarkupRules.Proofs.Markup.Trailing

/-!
What a depth limit makes of a scan.

The limit is looked at last, when all else about a start tag is in order. So it tells only where a
scan without it delivers a start tag, and a scan under the limit is the other one cut off in front
of the first start tag that opens one element too many.
-/
namespace MarkupRules.Markup

/-- `whole.LimitedTo limit limited`: `limited` is the scan `whole`, in which no start tag opens more
than `limit` elements at once, or it ends in front of the first one that does. -/
inductive Scan.LimitedTo (limit : Nat) (whole : Scan) : Scan → Prop where
  | within (hAll : OpenAtMost limit whole.events) : LimitedTo limit whole whole
  | beyond {before : List Event} {tag : OpenTag} {after : List Event}
      (hEvents : whole.events = before ++ .opening tag :: after)
      (hBefore : OpenAtMost limit before)
      (hDeep : closings before + limit < openings (before ++ [.opening tag])) :
      LimitedTo limit whole ⟨before, some (.tooDeep tag.line limit)⟩

/-- The limit is met at the start tag that comes next. -/
inductive Scanner.StopsAtLimit (limit : Nat) (before : List Event) :
    List Event → Error → Prop where
  | mk (tag : OpenTag) (after : List Event)
      (hDeep : closings before + limit < openings (before ++ [.opening tag])) :
      StopsAtLimit limit before (.opening tag :: after) (.tooDeep tag.line limit)

namespace Scanner

variable {mode : AttributeMode} {options : Options} {limit : Nat} {s : Scanner}

/-- A start tag is read alike under a limit and without one, or the limit is reached and the tag is
what goes beyond it. -/
theorem trails_stepOpening_limit
    (hOpen : Consistent s.events.reverse s.openElements s.seenRoot) (content : List Char)
    (isEmpty : Bool) :
    Trails (StopsAtLimit limit)
      (s.stepOpening mode { options with maxDepth := some limit } content isEmpty)
      (s.stepOpening mode { options with maxDepth := none } content isEmpty) := by
  unfold stepOpening
  dsimp only
  split
  · exact .level rfl
  · cases Attribute.ofTag mode content with
    | error defect => exact .level rfl
    | ok attributes =>
      have hFree : s.mayOpen { options with maxDepth := none } = true := rfl
      by_cases hRoom : s.mayOpen { options with maxDepth := some limit } = true
      · rw [hRoom, hFree]
        exact .level rfl
      · have hFull : limit ≤ s.openElements.length := by simpa [mayOpen] using hRoom
        have hDeep (tag : OpenTag) : closings s.events.reverse + limit <
            openings (s.events.reverse ++ [.opening tag]) := by
          rw [openings_append, hOpen.openings_eq]
          simp [Event.isOpening]
          omega
        rw [Bool.not_eq_true] at hRoom
        rw [hRoom, hFree]
        let tag : OpenTag := ⟨String.ofList (Attribute.tagName content), attributes, s.cursor.line⟩
        have hStop (after : List Event) : StopsAtLimit limit s.events.reverse
            (.opening tag :: after) (.tooDeep s.cursor.line limit) := .mk tag after (hDeep tag)
        cases isEmpty with
        | false => exact .stopped rfl (by simp [fail, deliver, tag]) (hStop [])
        | true => exact .stopped rfl (by simp [fail, deliver, tag]) (hStop [.closing])

/-- Under a limit and without one a token is read alike, unless it is a start tag that opens one
element too many. That tag is an error under the limit. -/
theorem trails_step_limit (mode : AttributeMode) (options : Options) (limit : Nat)
    {text : List Char} (hError : s.error = none) (h : s.InStep text) (token : Token) :
    Trails (StopsAtLimit limit) (s.step mode { options with maxDepth := some limit } token)
      (s.step mode { options with maxDepth := none } token) := by
  exact trails_step hError token fun start content isEmpty _ =>
    trails_stepOpening_limit (s := { s with cursor := s.cursor.seek start }) h.openElements
      content isEmpty

end Scanner

/-- The scan under a limit is the scan without one, up to the first start tag that lies too deep,
and ends there with the error that says so. -/
theorem limitedTo_scan (text : String) (mode : AttributeMode) (options : Options) (limit : Nat) :
    (scan text mode { options with maxDepth := none }).LimitedTo limit
      (scan text mode { options with maxDepth := some limit }) := by
  have hAtMost : OpenAtMost limit
      (scan text mode { options with maxDepth := some limit }).events :=
    openAtMost_scan text mode rfl
  have hGrows (before later more : List Event) (e : Error)
      (h : Scanner.StopsAtLimit limit before later e) :
      Scanner.StopsAtLimit limit before (later ++ more) e := by
    cases h with
    | mk tag after hDeep => exact .mk tag (after ++ more) hDeep
  rcases scan_trails hGrows fun _ token _ hError h =>
      Scanner.trails_step_limit mode options limit hError h token with
    hSame | ⟨before, later, e, hLimited, hEvents, hStop⟩
  · rw [← hSame]
    exact .within hAtMost
  · rw [hLimited] at hAtMost ⊢
    cases hStop with
    | mk tag after hDeep => exact .beyond hEvents hAtMost hDeep

/-- A scan under a limit ends well just when the one without it does and no start tag in there lies
too deep. -/
theorem Scan.LimitedTo.error_eq_none_iff {limit : Nat} {whole limited : Scan}
    (h : whole.LimitedTo limit limited) :
    limited.error = none ↔ whole.error = none ∧ OpenAtMost limit whole.events := by
  cases h with
  | within hAll => simp [hAll]
  | @beyond before tag after hEvents hBefore hDeep =>
    have hTooDeep : ¬ OpenAtMost limit whole.events := by
      intro hAll
      have hCut := hAll (before ++ [.opening tag]) ⟨after, by rw [hEvents]; simp⟩
      simp [Event.isClosing] at hCut hDeep
      omega
    simp [hTooDeep]

theorem OpenAtMost.mono {limit deeper : Nat} {events : List Event} (h : OpenAtMost limit events)
    (hLe : limit ≤ deeper) : OpenAtMost deeper events := by
  intro before hPrefix
  have hBefore := h before hPrefix
  omega

/-- What the scans of a text under depth limits, `limited`, are to the one without, `whole`. Each is
cut off in front of the first start tag that lies too deep, ends well when the whole scan does and
nothing in it lies too deep, and refuses no more than one under a lower limit. -/
structure DepthLimited (whole : Scan) (limited : Nat → Scan) : Prop where
  cut : ∀ limit, whole.LimitedTo limit (limited limit)
  accepted_iff : ∀ limit,
    (limited limit).error = none ↔ whole.error = none ∧ OpenAtMost limit whole.events
  mono : ∀ limit deeper, limit ≤ deeper → (limited limit).error = none →
    (limited deeper).error = none

/-- A depth limit is exact. A text is read under it as without it up to the first tag that lies too
deep, it is accepted just if it would be accepted and keeps to the limit, and a higher limit accepts
no less. -/
theorem depthLimited_scan (text : String) (mode : AttributeMode) (options : Options) :
    DepthLimited (scan text mode { options with maxDepth := none })
      fun limit => scan text mode { options with maxDepth := some limit } := by
  have hIff (limit : Nat) := (limitedTo_scan text mode options limit).error_eq_none_iff
  constructor
  case cut => exact limitedTo_scan text mode options
  case accepted_iff => exact hIff
  case mono =>
    intro limit deeper hLe hOk
    obtain ⟨hWhole, hDepth⟩ := (hIff limit).mp hOk
    exact (hIff deeper).mpr ⟨hWhole, hDepth.mono hLe⟩

end MarkupRules.Markup
