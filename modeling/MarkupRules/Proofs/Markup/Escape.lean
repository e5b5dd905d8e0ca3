import MarkupRules.Markup.Reference
import MarkupRules.Proofs.Markup.Token

/-!
Writing characters as references, and reading them back.
-/
namespace MarkupRules.Markup.Reference

/-- A character as it may stand in a text or between double quotes. -/
def escapeChar (c : Char) : List Char :=
  if c = '&' then "&amp;".toList
  else if c = '<' then "&lt;".toList
  else if c = '>' then "&gt;".toList
  else if c = '"' then "&quot;".toList
  else [c]

/-- A text with the characters that markup takes for its own written as references. -/
def escape (cs : List Char) : List Char := cs.flatMap escapeChar

/-- A character is one of the four that are written as references, or it stands for itself. Proofs
about what is written split here and nowhere else. -/
theorem escapeChar_cases {motive : Char → List Char → Prop} (amp : motive '&' "&amp;".toList)
    (lt : motive '<' "&lt;".toList) (gt : motive '>' "&gt;".toList)
    (quot : motive '"' "&quot;".toList)
    (other : ∀ c, c ≠ '&' → c ≠ '<' → c ≠ '>' → c ≠ '"' → motive c [c]) (c : Char) :
    motive c (escapeChar c) := by
  unfold escapeChar
  split
  · next h => exact h ▸ amp
  · next hAmp =>
    split
    · next h => exact h ▸ lt
    · next hLt =>
      split
      · next h => exact h ▸ gt
      · next hGt =>
        split
        · next h => exact h ▸ quot
        · next hQuot => exact other c hAmp hLt hGt hQuot

/-- No character is written with a bracket or a quote in it, since both are written as references.
-/
theorem ne_of_mem_escapeChar (c : Char) : ∀ d ∈ escapeChar c, d ≠ '<' ∧ d ≠ '"' := by
  refine escapeChar_cases (motive := fun _ written => ∀ d ∈ written, d ≠ '<' ∧ d ≠ '"')
    ?amp ?lt ?gt ?quot ?other c
  case other =>
    intro c hAmp hLt hGt hQuot d hMem
    rw [List.mem_singleton.mp hMem]
    exact ⟨hLt, hQuot⟩
  all_goals simp

/-- What is written begins no tag, because it has no opening bracket in it. -/
theorem ne_bracket_of_mem_escape (cs : List Char) : ∀ d ∈ escape cs, d ≠ '<' := by
  intro d hMem
  obtain ⟨c, -, hChar⟩ := List.mem_flatMap.mp hMem
  exact (ne_of_mem_escapeChar c d hChar).1

/-- What is written ends no value in double quotes, because it has no such quote in it. -/
theorem ne_quote_of_mem_escape (cs : List Char) : ∀ d ∈ escape cs, d ≠ '"' := by
  intro d hMem
  obtain ⟨c, -, hChar⟩ := List.mem_flatMap.mp hMem
  exact (ne_of_mem_escapeChar c d hChar).2

/-- A character that begins no reference stands for itself, and only the offset goes on by its
bytes. -/
theorem resolveFrom_cons_of_ne {c : Char} (hAmp : c ≠ '&') (length offset : Nat)
    (done rest : List Char) :
    resolveFrom length offset none done (c :: rest) =
      resolveFrom length (offset + c.utf8Size) none (c :: done) rest := by
  rw [resolveFrom]
  simp [hAmp]

/-- Characters without a reference among them stand for themselves, and what follows them is
resolved behind them. -/
theorem resolveFrom_append {cs : List Char} (hAmp : ∀ c ∈ cs, c ≠ '&') (length offset : Nat)
    (done rest : List Char) :
    ∃ next, resolveFrom length offset none done (cs ++ rest) =
      resolveFrom length next none (cs.reverse ++ done) rest := by
  induction cs generalizing offset done with
  | nil => exact ⟨offset, rfl⟩
  | cons c cs ih =>
    obtain ⟨next, hRest⟩ :=
      ih (fun d hMem => hAmp d (.tail _ hMem)) (offset + c.utf8Size) (c :: done)
    refine ⟨next, ?_⟩
    rw [List.cons_append, resolveFrom_cons_of_ne (hAmp c (.head _)), hRest]
    simp

/-- The character that was written is the one that is read, be it by a reference or by itself. Where
the reader then stands depends on which it was. -/
theorem resolveFrom_escapeChar (c : Char) (length offset : Nat) (done rest : List Char) :
    ∃ next, resolveFrom length offset none done (escapeChar c ++ rest) =
      resolveFrom length next none (c :: done) rest := by
  refine escapeChar_cases (motive := fun c written =>
    ∃ next, resolveFrom length offset none done (written ++ rest) =
      resolveFrom length next none (c :: done) rest) ?amp ?lt ?gt ?quot ?other c
  case other =>
    intro c hAmp hLt hGt hQuot
    exact ⟨_, resolveFrom_cons_of_ne hAmp length offset done rest⟩
  all_goals exact ⟨_, rfl⟩

/-- A text that was written comes back character by character, in front of what follows it. -/
theorem resolveFrom_escape (cs : List Char) (length offset : Nat) (done rest : List Char) :
    ∃ next, resolveFrom length offset none done (escape cs ++ rest) =
      resolveFrom length next none (cs.reverse ++ done) rest := by
  induction cs generalizing offset done with
  | nil => exact ⟨offset, rfl⟩
  | cons c cs ih =>
    obtain ⟨middle, hHead⟩ := resolveFrom_escapeChar c length offset done (escape cs ++ rest)
    obtain ⟨next, hRest⟩ := ih middle (c :: done)
    have hSplit : escape (c :: cs) ++ rest = escapeChar c ++ (escape cs ++ rest) := by
      simp [escape]
    refine ⟨next, ?_⟩
    rw [hSplit, hHead, hRest]
    simp

/-- What was written as references comes back, and characters around it stay as they are. -/
theorem resolve_append_escape_append {lead trail : List Char} (hLead : ∀ c ∈ lead, c ≠ '&')
    (hTrail : ∀ c ∈ trail, c ≠ '&') (cs : List Char) :
    resolve (lead ++ escape cs ++ trail) = .ok (lead ++ cs ++ trail) := by
  rw [resolve, List.append_assoc]
  generalize Text.byteLength (lead ++ (escape cs ++ trail)) = length
  obtain ⟨first, hFirst⟩ := resolveFrom_append hLead length 0 [] (escape cs ++ trail)
  obtain ⟨second, hSecond⟩ := resolveFrom_escape cs length first (lead.reverse ++ []) trail
  obtain ⟨third, hThird⟩ :=
    resolveFrom_append hTrail length second (cs.reverse ++ (lead.reverse ++ [])) []
  rw [List.append_nil trail] at hThird
  rw [hFirst, hSecond, hThird, resolveFrom]
  simp

/-- What was written as references comes back as it was. This holds of every text, also of one that
looks like a reference itself. -/
theorem resolve_escape (cs : List Char) : resolve (escape cs) = .ok cs := by
  have hNone : ∀ c ∈ ([] : List Char), c ≠ '&' := by simp
  simpa using resolve_append_escape_append hNone hNone cs

end MarkupRules.Markup.Reference
