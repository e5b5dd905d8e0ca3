import MarkupRules.Proofs.Markup.Node
import Mathlib.Data.List.Forall2
import Mathlib.Data.List.Perm.Basic

/-!
Lists whose members come in another order.

`Reordered same xs ys` pairs the members of two lists off, whatever their order. What a list makes
of its members one by one is then the same but for the order, and a list with distinct keys has the
partner of every value under the same key.
-/
namespace MarkupRules

/-- The members of `ys` are, in whatever order, partners of those of `xs`. -/
def Reordered {α β : Type} (same : α → β → Prop) (xs : List α) (ys : List β) : Prop :=
  ∃ middle, List.Forall₂ same xs middle ∧ middle.Perm ys

/-- Two values under one key. -/
inductive Keyed {α β : Type} (same : α → β → Prop) : String × α → String × β → Prop where
  | mk (key : String) {x : α} {y : β} (hSame : same x y) : Keyed same (key, x) (key, y)

namespace Reordered

variable {α β γ : Type} {same : α → β → Prop} {xs : List α} {ys : List β}

theorem of_perm {same : α → α → Prop} {ys : List α} (h : xs.Perm ys) (hRefl : ∀ x ∈ xs, same x x) :
    Reordered same xs ys :=
  ⟨xs, List.forall₂_same.mpr hRefl, h⟩

theorem cons {x : α} {y : β} (hHead : same x y) (h : Reordered same xs ys) :
    Reordered same (x :: xs) (y :: ys) := by
  obtain ⟨middle, hSame, hOrder⟩ := h
  exact ⟨y :: middle, .cons hHead hSame, hOrder.cons y⟩

/-- Lists that are reorderings of each other are still so when both are read from behind. -/
theorem reverse (h : Reordered same xs ys) : Reordered same xs.reverse ys.reverse := by
  obtain ⟨middle, hSame, hOrder⟩ := h
  have hReverse : middle.reverse.Perm ys.reverse :=
    (List.reverse_perm middle).trans (hOrder.trans (List.reverse_perm ys).symm)
  exact ⟨middle.reverse, List.rel_reverse hSame, hReverse⟩

/-- Partners contribute the same but for the order, and so the lists do as a whole, wherever the
partners stand in them. -/
theorem flatMap_perm (h : Reordered same xs ys) {f : α → List γ} {g : β → List γ}
    (hParts : ∀ x ∈ xs, ∀ y, same x y → (f x).Perm (g y)) :
    (xs.flatMap f).Perm (ys.flatMap g) := by
  obtain ⟨middle, hSame, hOrder⟩ := h
  have hMiddle : (xs.flatMap f).Perm (middle.flatMap g) := by
    clear hOrder
    induction hSame with
    | nil => exact .refl _
    | @cons x y xs middle hHead _ ih =>
      exact (hParts x (.head _) y hHead).append (ih fun x hMem => hParts x (.tail _ hMem))
  exact hMiddle.trans (hOrder.flatMap_right g)

/-- What stands for the members of a list one by one can be put in the order of another. -/
theorem exists_forall₂ {stands : γ → α → Prop} {stands' : γ → β → Prop} {again : γ → γ → Prop}
    {zs : List γ} (h : Reordered same xs ys) (hStands : List.Forall₂ stands zs xs)
    (hAgain : ∀ z x, x ∈ xs → stands z x → ∀ y, same x y → ∃ z', stands' z' y ∧ again z z') :
    ∃ zs', List.Forall₂ stands' zs' ys ∧ Reordered again zs zs' := by
  obtain ⟨middle, hSame, hOrder⟩ := h
  have hMiddle : ∃ zs', List.Forall₂ stands' zs' middle ∧ List.Forall₂ again zs zs' := by
    clear hOrder
    induction hStands generalizing middle with
    | nil =>
      cases hSame
      exact ⟨[], .nil, .nil⟩
    | @cons z x zs xs hHead _ ih =>
      cases hSame with
      | @cons _ y _ middle hPair hRest =>
        obtain ⟨z', hStands', hAgain'⟩ := hAgain z x (.head _) hHead y hPair
        obtain ⟨zs', hAll, hAgainAll⟩ := ih (fun z x hMem => hAgain z x (.tail _ hMem)) _ hRest
        exact ⟨z' :: zs', .cons hStands' hAll, .cons hAgain' hAgainAll⟩
  obtain ⟨zs', hAll, hAgainAll⟩ := hMiddle
  obtain ⟨zs'', hPerm, hAll'⟩ : ∃ zs'', zs'.Perm zs'' ∧ List.Forall₂ stands' zs'' ys := by
    have hComp : Relation.Comp (List.Forall₂ stands') List.Perm zs' ys := ⟨middle, hAll, hOrder⟩
    rwa [List.forall₂_comp_perm_eq_perm_comp_forall₂] at hComp
  exact ⟨zs'', hAll', zs', hAgainAll, hPerm⟩

section Keys

variable {xs : List (String × α)} {ys : List (String × β)}

/-- Lists of entries that are reorderings of each other have the same keys, in another order
perhaps. -/
theorem keys_perm (h : Reordered (Keyed same) xs ys) :
    (xs.map Prod.fst).Perm (ys.map Prod.fst) := by
  obtain ⟨middle, hSame, hOrder⟩ := h
  have hKeys : xs.map Prod.fst = middle.map Prod.fst := by
    clear hOrder
    induction hSame with
    | nil => rfl
    | cons hHead _ ih =>
      cases hHead
      rw [List.map_cons, List.map_cons, ih]
  rw [hKeys]
  exact hOrder.map Prod.fst

/-- A key has partners in both lists or a value in neither. -/
theorem lookup_cases (h : Reordered (Keyed same) xs ys) (hKeys : (xs.map Prod.fst).Nodup)
    (key : String) :
    xs.lookup key = none ∧ ys.lookup key = none ∨
      ∃ x y, xs.lookup key = some x ∧ ys.lookup key = some y ∧ same x y := by
  have hKeys' : (ys.map Prod.fst).Nodup := h.keys_perm.nodup_iff.mp hKeys
  obtain ⟨middle, hSame, hOrder⟩ := h
  have hLookup : middle.lookup key = ys.lookup key := by
    have hMiddle : (middle.map Prod.fst).Nodup := (hOrder.map Prod.fst).nodup_iff.mpr hKeys'
    ext value
    constructor
    · intro h
      exact Markup.Node.lookup_of_mem hKeys' (hOrder.mem_iff.mp (Markup.Node.mem_of_lookup h))
    · intro h
      exact Markup.Node.lookup_of_mem hMiddle (hOrder.mem_iff.mpr (Markup.Node.mem_of_lookup h))
  rw [← hLookup]
  clear hOrder hLookup hKeys
  induction hSame with
  | nil => exact .inl ⟨rfl, rfl⟩
  | cons hHead _ ih =>
    cases hHead with
    | @mk key' x y hSame =>
      rw [Markup.Node.lookup_cons_eq_ite, Markup.Node.lookup_cons_eq_ite]
      split
      · exact .inr ⟨x, y, rfl, rfl, hSame⟩
      · exact ih

end Keys

end Reordered

end MarkupRules
