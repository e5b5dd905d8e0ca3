import MarkupRules.Proofs.Validation.Visits

/-!
The order of a walk.

`Precedes` compares two places of a data tree without walking it: a place comes before all that
lies below it, and an item or entry, with all below it, before those behind it. A walk lists
the visits that steps lead to in this order, and no other list of them does.
-/
namespace MarkupRules.Validation

open Markup (Node)
open Schema (Rule)

/-- `Precedes node a b`: inside `node`, the place `a` comes before the place `b`. -/
inductive Precedes : Node → List Step → List Step → Prop where
  | above (node : Node) (step : Step) (rest : List Step) : Precedes node [] (step :: rest)
  | items {items : List Node} {i j : Nat} {a b : List Step} (hLt : i < j) :
      Precedes (.sequence items) (.item i :: a) (.item j :: b)
  | entries {before after : List (String × Node)} {key key' : String} {a b : List Step}
      (hFirst : key ∈ before.map Prod.fst) (hSecond : key' ∈ after.map Prod.fst) :
      Precedes (.mapping (before ++ after)) (.tag key :: a) (.tag key' :: b)
  | inItem {items : List Node} {i : Nat} {item : Node} {a b : List Step}
      (hItem : items[i]? = some item) (below : Precedes item a b) :
      Precedes (.sequence items) (.item i :: a) (.item i :: b)
  | inEntry {entries : List (String × Node)} {key : String} {node : Node} {a b : List Step}
      (hEntry : (key, node) ∈ entries) (below : Precedes node a b) :
      Precedes (.mapping entries) (.tag key :: a) (.tag key :: b)

theorem notMem_keys_of_nodup {before after : List (String × Node)} {key : String}
    (h : ((before ++ after).map Prod.fst).Nodup) (hFirst : key ∈ before.map Prod.fst) :
    key ∉ after.map Prod.fst := by
  rw [List.map_append] at h
  exact fun hSecond => (List.nodup_append.mp h).2.2 key hFirst key hSecond rfl

/-- Where keys are distinct, two places come in one order only. With a key twice, each of its
entries would come before and behind the other. -/
theorem Precedes.asymm {node : Node} {a b : List Step} (hKeys : node.KeysDistinct)
    (h : Precedes node a b) : ¬ Precedes node b a := by
  induction h with
  | above => nofun
  | items hLt =>
    intro hBack
    cases hBack with
    | items hGt => omega
    | inItem => omega
  | @entries before after key key' a b hFirst hSecond =>
    cases hKeys with
    | mapping hNodup =>
      have hKey := notMem_keys_of_nodup hNodup hFirst
      generalize hEntries : before ++ after = entries at hNodup
      intro hBack
      cases hBack with
      | @entries before' after' _ _ _ _ hFirst' hSecond' =>
        -- Of two ways to cut the entries one keeps more of them in front.
        rcases List.append_eq_append_iff.mp hEntries with ⟨more, -, rfl⟩ | ⟨more, -, rfl⟩
        · exact hKey (by simp [hSecond'])
        · exact notMem_keys_of_nodup hNodup hFirst' (by simp [hSecond])
      | inEntry => exact hKey hSecond
  | inItem hItem _ ih =>
    cases hKeys with
    | sequence hItems =>
      intro hBack
      cases hBack with
      | items hLt => exact Nat.lt_irrefl _ hLt
      | inItem hItem' below' =>
        obtain rfl := Option.some.inj (hItem.symm.trans hItem')
        exact ih (hItems _ (List.mem_of_getElem? hItem)) below'
  | inEntry hEntry _ ih =>
    cases hKeys with
    | mapping hNodup hValues =>
      intro hBack
      cases hBack with
      | entries hFirst hSecond => exact notMem_keys_of_nodup hNodup hFirst hSecond
      | inEntry hEntry' below' =>
        have hLookup := Markup.Node.lookup_of_mem hNodup hEntry
        rw [Markup.Node.lookup_of_mem hNodup hEntry'] at hLookup
        obtain rfl := Option.some.inj hLookup
        exact ih (hValues _ hEntry) below'

/-- An order of places below a step is kept by putting the step in front of all of them. -/
theorem pairwise_under {before : List Step → List Step → Prop} {step : Step}
    {visits : List (List Step × Visit)}
    (h : visits.Pairwise fun a b => before (step :: a.1) (step :: b.1)) :
    (under step visits).Pairwise fun a b => before a.1 b.1 :=
  List.pairwise_map.mpr h

/-- Items are walked in the order of their indices, each with all that lies below it before the next
one. -/
theorem pairwise_sitedItemVisits {all : List Node} (rule : Rule) (path : String) {items : List Node}
    (h : ∀ item ∈ items, ∀ path,
      (sitedVisits rule path false item).Pairwise fun a b => Precedes item a.1 b.1)
    {index : Nat} (hItems : ∀ i item, items[i]? = some item → all[index + i]? = some item) :
    (sitedItemVisits rule path index items).Pairwise
      fun a b => Precedes (.sequence all) a.1 b.1 := by
  induction items generalizing index with
  | nil => exact List.Pairwise.nil
  | cons item rest ih =>
    rw [sitedItemVisits, List.pairwise_append]
    refine ⟨?_, ?_, ?_⟩
    · apply pairwise_under
      exact (h item (.head _) _).imp (.inItem (hItems 0 item rfl))
    · refine ih (fun other hOther => h other (.tail _ hOther)) fun i other hOther => ?_
      rw [Nat.add_assoc, Nat.add_comm 1]
      exact hItems (i + 1) other hOther
    · intro a ha b hb
      obtain ⟨below, hSite, -⟩ := mem_under.mp ha
      obtain ⟨i, other, below', hSite', -, -⟩ := mem_sitedItemVisits.mp hb
      rw [hSite, hSite']
      exact .items (by omega)

/-- Entries are walked in the order of the data. What comes before them in the mapping does not
matter. -/
theorem pairwise_sitedEntryVisits (rule : Rule) (path : String)
    (before : List (String × Node)) {entries : List (String × Node)}
    (h : ∀ e ∈ entries, ∀ rule path,
      (sitedVisits rule path true e.2).Pairwise fun a b => Precedes e.2 a.1 b.1) :
    (sitedEntryVisits rule path entries).Pairwise
      fun a b => Precedes (.mapping (before ++ entries)) a.1 b.1 := by
  induction entries generalizing before with
  | nil => exact List.Pairwise.nil
  | cons e rest ih =>
    obtain ⟨key, node⟩ := e
    have hSplit : before ++ (key, node) :: rest = (before ++ [(key, node)]) ++ rest := by simp
    have hRest := ih (before ++ [(key, node)]) fun e hEntry => h e (.tail _ hEntry)
    rw [← hSplit] at hRest
    cases hChild : rule.child? key with
    | none => simpa only [sitedEntryVisits, hChild] using hRest
    | some child =>
      simp only [sitedEntryVisits, hChild, List.pairwise_append]
      refine ⟨?_, hRest, ?_⟩
      · apply pairwise_under
        exact (h (key, node) (.head _) child _).imp (.inEntry (by simp))
      · intro a ha b hb
        obtain ⟨below, hSite, -⟩ := mem_under.mp ha
        obtain ⟨key', node', child', below', hSite', hEntry, -, -⟩ := mem_sitedEntryVisits.mp hb
        rw [hSite, hSite', hSplit]
        exact .entries (by simp) (List.mem_map.mpr ⟨_, hEntry, rfl⟩)

/-- The listed visits stand in the order of their places, from the node itself down. -/
theorem pairwise_sitedVisits (rule : Rule) (path : String) (lone : Bool) (node : Node) :
    (sitedVisits rule path lone node).Pairwise fun a b => Precedes node a.1 b.1 := by
  have hAbove {node : Node} {site : List Step} (hSite : site ≠ []) : Precedes node [] site := by
    obtain ⟨step, rest, rfl⟩ := List.exists_cons_of_ne_nil hSite
    exact .above node step rest
  induction node generalizing rule path lone with
  | scalar text => exact List.pairwise_singleton _ _
  | sequence items ih =>
    rw [sitedVisits, List.pairwise_cons]
    split
    · refine ⟨fun b hb => ?_, ?_⟩
      · obtain ⟨i, item, below, hSite, -, -⟩ := mem_sitedItemVisits.mp hb
        exact hAbove (by simp [hSite])
      · exact pairwise_sitedItemVisits rule path
          (fun item hItem path => ih item hItem rule path false) (by simp)
    · simp
  | mapping entries ih =>
    rw [sitedVisits, List.pairwise_cons]
    refine ⟨fun b hb => ?_, ?_⟩
    · obtain ⟨key, node, child, below, hSite, -, -, -⟩ := mem_sitedEntryVisits.mp hb
      exact hAbove (by simp [hSite])
    · exact pairwise_sitedEntryVisits rule path []
        fun e hEntry rule path => ih e hEntry rule path true

/-- The visits that steps lead to from a visit, each behind its steps: those that going through
pending visits makes, in the same order, which is that of their places. -/
structure ListsWalk (v : Visit) (visits : List (List Step × Visit)) : Prop where
  mem_iff : ∀ site w, (site, w) ∈ visits ↔ Reached v site w
  order : visits.Pairwise fun a b => Precedes v.node a.1 b.1
  made : visits.map Prod.snd = visitsMade [v]

/-- The recursion on the tree lists a walk. It is the one that `ListsWalk` describes without a
recursion. -/
theorem listsWalk_sited (v : Visit) : ListsWalk v v.sited where
  mem_iff _ _ := Visit.mem_sited
  order := pairwise_sitedVisits v.rule v.path v.lone v.node
  made := by
    rw [visitsMade_eq, List.flatMap_singleton]
    rfl

/-- Where keys are distinct there is one walk only, since the order leaves no choice. So what is
said of any walk is said of the recursion. -/
theorem ListsWalk.eq_sited {v : Visit} {visits : List (List Step × Visit)}
    (hKeys : v.node.KeysDistinct) (h : ListsWalk v visits) : visits = v.sited := by
  have hNodup {visits : List (List Step × Visit)} (h : ListsWalk v visits) : visits.Nodup := by
    refine h.order.imp fun hOrder hEq => ?_
    rw [hEq] at hOrder
    exact hOrder.asymm hKeys hOrder
  have hPerm : visits.Perm v.sited := by
    refine (List.perm_ext_iff_of_nodup (hNodup h) (hNodup (listsWalk_sited v))).mpr ?_
    rintro ⟨site, w⟩
    rw [h.mem_iff, Visit.mem_sited]
  refine hPerm.eq_of_pairwise (fun a b _ _ hOrder hBack => ?_) h.order (listsWalk_sited v).order
  exact absurd hBack (hOrder.asymm hKeys)

end MarkupRules.Validation
