import Mathlib.Algebra.Order.Ring.Int
import MarkupRules.Json.Reader

/-!
The values that a program holds.

Whatever the text, the reader makes such a value of it: its integers have 64 bits, its objects are
sorted, and it nests no deeper than allowed.
-/
namespace MarkupRules.Json

/-- A whole number of 64 bits. -/
def IsWord (n : Int) : Prop := -2 ^ 63 ≤ n ∧ n < 2 ^ 64

/-- A value as a program holds it: its integers have 64 bits, the keys of its objects ascend, and
its containers nest at most `depth` deep. -/
inductive WellFormed : Nat → Json → Prop where
  | null {depth : Nat} : WellFormed depth .null
  | bool {depth : Nat} (b : Bool) : WellFormed depth (.bool b)
  | integer {depth : Nat} {n : Int} (hWord : IsWord n) : WellFormed depth (.integer n)
  | double {depth : Nat} (x : Number.Double) : WellFormed depth (.double x)
  | string {depth : Nat} (s : String) : WellFormed depth (.string s)
  | array {depth : Nat} {items : List Json} (hItems : ∀ item ∈ items, WellFormed depth item) :
      WellFormed (depth + 1) (.array items)
  | object {depth : Nat} {members : List (String × Json)}
      (hKeys : members.Pairwise fun m n => m.1 < n.1)
      (hValues : ∀ m ∈ members, WellFormed depth m.2) : WellFormed (depth + 1) (.object members)

/-- A value that is well-formed at one depth is so at every greater one. The depth is a limit and
not the depth that is reached. -/
theorem WellFormed.mono {low high : Nat} {value : Json} (h : WellFormed low value)
    (hLe : low ≤ high) : WellFormed high value := by
  induction h generalizing high with
  | null => exact .null
  | bool b => exact .bool b
  | integer hWord => exact .integer hWord
  | double x => exact .double x
  | string s => exact .string s
  | array _ ih =>
    obtain ⟨high, rfl⟩ := Nat.exists_eq_succ_of_ne_zero (Nat.ne_zero_of_lt hLe)
    exact .array fun item hMem => ih item hMem (Nat.le_of_succ_le_succ hLe)
  | object hKeys _ ih =>
    obtain ⟨high, rfl⟩ := Nat.exists_eq_succ_of_ne_zero (Nat.ne_zero_of_lt hLe)
    exact .object hKeys fun m hMem => ih m hMem (Nat.le_of_succ_le_succ hLe)

/-- A double stands somewhere in a value. -/
inductive HasDouble : Json → Prop where
  | here (x : Number.Double) : HasDouble (.double x)
  | item {items : List Json} {item : Json} (hMem : item ∈ items) (below : HasDouble item) :
      HasDouble (.array items)
  | member {members : List (String × Json)} {m : String × Json} (hMem : m ∈ members)
      (below : HasDouble m.2) : HasDouble (.object members)

/-- The number that digits are taken into keeps within 64 bits. Where one more digit would lead
beyond them, it is left with the rest. -/
theorem absorb_lt {n : Nat} (h : n < 2 ^ 64) (digits : List Char) :
    (absorb n digits).1 < 2 ^ 64 := by
  induction digits generalizing n with
  | nil => exact h
  | cons c digits ih =>
    rw [absorb]
    dsimp only
    split
    · next hNext => exact ih hNext
    · exact h

/-- A numeral is read as an integer of 64 bits or as a double, so it is well-formed at every depth.
-/
theorem wellFormed_numeral {numeral : Numeral} {value : Json} (h : numeral.value? = some value)
    (depth : Nat) : WellFormed depth value := by
  have hBound : (absorb 0 numeral.whole).1 < 2 ^ 64 := absorb_lt (by decide) _
  unfold Numeral.value? at h
  dsimp only at h
  split at h
  · split at h
    · obtain rfl := Option.some.inj h
      exact .integer ⟨by omega, by omega⟩
    · split at h
      · next hMagnitude =>
        obtain rfl := Option.some.inj h
        have hHigh : (absorb 0 numeral.whole).1 ≤ 2 ^ 63 :=
          of_decide_eq_true (Bool.and_eq_true_iff.mp hMagnitude).2
        exact .integer ⟨by omega, by omega⟩
      · obtain ⟨x, -, rfl⟩ := Option.map_eq_some_iff.mp h
        exact .double _
  · obtain ⟨x, -, rfl⟩ := Option.map_eq_some_iff.mp h
    exact .double _

/-- A number that was read is well-formed at every depth, with however much care it was read. -/
theorem wellFormed_number? {care : Care} {cs rest : List Char} {value : Json}
    (h : number? care cs = some (value, rest)) (depth : Nat) : WellFormed depth value := by
  obtain ⟨⟨numeral, behind⟩, -, h⟩ := Option.bind_eq_some_iff.mp h
  cases care with
  | checked =>
    obtain ⟨value', hValue, hEq⟩ := Option.map_eq_some_iff.mp h
    obtain ⟨rfl, -⟩ := Prod.mk.inj hEq
    exact wellFormed_numeral hValue depth
  | skipped =>
    obtain ⟨rfl, -⟩ := Prod.mk.inj (Option.some.inj h)
    exact .null

section Objects

variable {key : String} {value : Json} {sorted : List (String × Json)}

/-- Putting a member into an object adds that member and nothing else. A member with the same key
may be gone. -/
theorem mem_insertMember {m : String × Json} (h : m ∈ insertMember key value sorted) :
    m = (key, value) ∨ m ∈ sorted := by
  induction sorted with
  | nil => exact .inl (List.mem_singleton.mp h)
  | cons first rest ih =>
    obtain ⟨k, v⟩ := first
    rw [insertMember] at h
    split at h
    · exact List.mem_cons.mp h
    · split at h
      · exact (List.mem_cons.mp h).imp_right (.tail _)
      · rcases List.mem_cons.mp h with rfl | hRest
        · exact .inr (.head _)
        · exact (ih hRest).imp_right (.tail _)

/-- Members stay in the order of their keys when one more is put among them, and no key comes twice.
-/
theorem pairwise_insertMember (h : sorted.Pairwise fun m n => m.1 < n.1) :
    (insertMember key value sorted).Pairwise fun m n => m.1 < n.1 := by
  induction sorted with
  | nil => exact List.pairwise_singleton _ _
  | cons first rest ih =>
    obtain ⟨k, v⟩ := first
    obtain ⟨hFirst, hRest⟩ := List.pairwise_cons.mp h
    rw [insertMember]
    split
    · next hLess =>
      refine .cons (fun m hMem => ?_) h
      rcases List.mem_cons.mp hMem with rfl | hBehind
      · exact hLess
      · exact String.lt_trans hLess (hFirst m hBehind)
    · next hNotLess =>
      split
      · next hEq => exact .cons (hEq ▸ hFirst) hRest
      · next hOther =>
        have hGreater : k < key := String.not_le.mp fun hLe =>
          hOther (String.le_antisymm hLe (String.not_lt.mp hNotLess))
        refine .cons (fun m hMem => ?_) (ih hRest)
        rcases mem_insertMember hMem with rfl | hBehind
        · exact hGreater
        · exact hFirst m hBehind

/-- Members with well-formed values make a well-formed object, whatever their order was and even if
keys repeat. -/
theorem wellFormed_ofMembers {depth : Nat} {members : List (String × Json)}
    (h : ∀ m ∈ members, WellFormed depth m.2) : WellFormed (depth + 1) (ofMembers members) := by
  obtain ⟨hKeys, hValues⟩ :
      (members.foldl (fun sorted m => insertMember m.1 m.2 sorted) []).Pairwise
          (fun m n => m.1 < n.1) ∧
        ∀ m ∈ members.foldl (fun sorted m => insertMember m.1 m.2 sorted) [],
          WellFormed depth m.2 := by
    apply List.foldlRecOn (motive := fun sorted : List (String × Json) =>
      sorted.Pairwise (fun m n => m.1 < n.1) ∧ ∀ m ∈ sorted, WellFormed depth m.2)
    · exact ⟨.nil, by simp⟩
    intro done hDone m hMem
    refine ⟨pairwise_insertMember hDone.1, fun n hIn => ?_⟩
    rcases mem_insertMember hIn with rfl | hBefore
    · exact h m hMem
    · exact hDone.2 n hBefore
  exact .object hKeys hValues

end Objects

/-- What the reader makes of a text in so many steps is well-formed. -/
structure ReadsWellFormed (care : Care) (fuel : Nat) : Prop where
  value {depth : Nat} {cs rest : List Char} {value : Json} :
    value? care fuel depth cs = some (value, rest) → WellFormed depth value
  items {depth : Nat} {cs rest : List Char} {items : List Json} :
    items? care fuel depth cs = some (items, rest) → ∀ item ∈ items, WellFormed depth item
  members {depth : Nat} {cs rest : List Char} {members : List (String × Json)} :
    members? care fuel depth cs = some (members, rest) → ∀ m ∈ members, WellFormed depth m.2

namespace ReadsWellFormed

variable {care : Care} {fuel depth : Nat} {cs rest : List Char}

/-- With one more unit of fuel a value is well-formed if items and members are with what was there.
The depth goes down by one inside. -/
theorem value_succ (h : ReadsWellFormed care fuel) {value : Json}
    (hRead : value? care (fuel + 1) depth cs = some (value, rest)) : WellFormed depth value := by
  rw [value?] at hRead
  split at hRead
  · cases hRead
  · obtain ⟨⟨s, _⟩, -, hEq⟩ := Option.map_eq_some_iff.mp hRead
    obtain ⟨rfl, -⟩ := Prod.mk.inj hEq
    exact .string s
  · split at hRead
    · cases hRead
    · cases hRead
      exact .array (by simp)
    · obtain ⟨⟨items, _⟩, hItems, hEq⟩ := Option.map_eq_some_iff.mp hRead
      obtain ⟨rfl, -⟩ := Prod.mk.inj hEq
      exact .array (h.items hItems)
  · split at hRead
    · cases hRead
    · cases hRead
      exact .object .nil (by simp)
    · obtain ⟨⟨members, _⟩, hMembers, hEq⟩ := Option.map_eq_some_iff.mp hRead
      obtain ⟨rfl, -⟩ := Prod.mk.inj hEq
      exact wellFormed_ofMembers (h.members hMembers)
  · obtain ⟨_, -, hEq⟩ := Option.map_eq_some_iff.mp hRead
    obtain ⟨rfl, -⟩ := Prod.mk.inj hEq
    exact .null
  · obtain ⟨_, -, hEq⟩ := Option.map_eq_some_iff.mp hRead
    obtain ⟨rfl, -⟩ := Prod.mk.inj hEq
    exact .bool true
  · obtain ⟨_, -, hEq⟩ := Option.map_eq_some_iff.mp hRead
    obtain ⟨rfl, -⟩ := Prod.mk.inj hEq
    exact .bool false
  · exact wellFormed_number? hRead depth

/-- With one more unit of fuel every item that is read is well-formed at the depth of the list. -/
theorem items_succ (h : ReadsWellFormed care fuel) {items : List Json}
    (hRead : items? care (fuel + 1) depth cs = some (items, rest)) :
    ∀ item ∈ items, WellFormed depth item := by
  rw [items?] at hRead
  obtain ⟨⟨first, behind⟩, hFirst, hRead⟩ := Option.bind_eq_some_iff.mp hRead
  have hFirst := h.value hFirst
  dsimp only at hRead
  split at hRead
  · cases hRead
    simpa using hFirst
  · obtain ⟨⟨more, _⟩, hMore, hEq⟩ := Option.map_eq_some_iff.mp hRead
    obtain ⟨rfl, -⟩ := Prod.mk.inj hEq
    exact List.forall_mem_cons.mpr ⟨hFirst, h.items hMore⟩
  · cases hRead

/-- With one more unit of fuel every value of a member that is read is well-formed at the depth of
the list. -/
theorem members_succ (h : ReadsWellFormed care fuel) {members : List (String × Json)}
    (hRead : members? care (fuel + 1) depth cs = some (members, rest)) :
    ∀ m ∈ members, WellFormed depth m.2 := by
  rw [members?] at hRead
  obtain ⟨⟨key, behind⟩, -, hRead⟩ := Option.bind_eq_some_iff.mp hRead
  obtain ⟨⟨value, behind⟩, hValue, hRead⟩ := Option.bind_eq_some_iff.mp hRead
  have hValue := h.value hValue
  dsimp only at hRead
  split at hRead
  · cases hRead
    simpa using hValue
  · obtain ⟨⟨more, _⟩, hMore, hEq⟩ := Option.map_eq_some_iff.mp hRead
    obtain ⟨rfl, -⟩ := Prod.mk.inj hEq
    exact List.forall_mem_cons.mpr ⟨hValue, h.members hMore⟩
  · cases hRead

end ReadsWellFormed

/-- Whatever is read is well-formed at the depth it was read at, by induction on the fuel. The three
readers call each other and go together. -/
theorem readsWellFormed (care : Care) (fuel : Nat) : ReadsWellFormed care fuel := by
  induction fuel with
  | zero => constructor <;> intro _ _ _ _ hRead <;> cases hRead
  | succ fuel ih => exact ⟨ih.value_succ, ih.items_succ, ih.members_succ⟩

end MarkupRules.Json
