import MarkupRules.Proofs.Markup.Node
import MarkupRules.Validation.Traversal

/-!
What a traversal visits, and in which order.

`Reached` says which visits a visit leads to and by which steps, and `sitedVisits` lists
them by recursion on the tree. The list of pending visits is only a way to go through
that list: `work_eq_foldl` holds for every account that is kept on the way, whatever is
still pending, so the failures and the visits themselves come out in the same order.
-/
namespace MarkupRules.Validation

open Markup (Node)
open Schema (Rule)

/-- One step down a data tree: to the value of a key or to an item of a sequence. -/
inductive Step where
  | tag (name : String)
  | item (index : Nat)
  deriving Repr, DecidableEq

/-- `Reached v site w`: the steps `site` lead from the visit `v` to the visit `w`. They go through
the keys that the rule of a mapping declares and into the sequences whose rule may repeat. -/
inductive Reached : Visit → List Step → Visit → Prop where
  | here (v : Visit) : Reached v [] v
  | item {items : List Node} {rule : Rule} {path : String} {lone : Bool} {index : Nat}
      {item : Node} {site : List Step} {w : Visit}
      (hRepeatable : rule.isRepeatable = true) (hItem : items[index]? = some item)
      (below : Reached ⟨item, rule, itemPath path index, false⟩ site w) :
      Reached ⟨.sequence items, rule, path, lone⟩ (.item index :: site) w
  | tag {entries : List (String × Node)} {rule child : Rule} {path key : String} {lone : Bool}
      {node : Node} {site : List Step} {w : Visit}
      (hEntry : (key, node) ∈ entries) (hChild : rule.child? key = some child)
      (below : Reached ⟨node, child, keyPath path key, true⟩ site w) :
      Reached ⟨.mapping entries, rule, path, lone⟩ (.tag key :: site) w

/-- Steps compose: what is reached from a reached visit is reached by the steps in a row. -/
theorem Reached.trans {u v w : Visit} {first second : List Step} (upper : Reached u first v)
    (lower : Reached v second w) : Reached u (first ++ second) w := by
  induction upper with
  | here => exact lower
  | item hRepeatable hItem _ ih => exact .item hRepeatable hItem (ih lower)
  | tag hEntry hChild _ ih => exact .tag hEntry hChild (ih lower)

/-- Steps come apart: wherever a way is cut, there is a visit at the cut. -/
theorem Reached.split {u w : Visit} {first second : List Step}
    (h : Reached u (first ++ second) w) : ∃ v, Reached u first v ∧ Reached v second w := by
  induction first generalizing u with
  | nil => exact ⟨u, .here u, h⟩
  | cons step rest ih =>
    cases h with
    | item hRepeatable hItem below =>
      obtain ⟨v, hUpper, hLower⟩ := ih below
      exact ⟨v, .item hRepeatable hItem hUpper, hLower⟩
    | tag hEntry hChild below =>
      obtain ⟨v, hUpper, hLower⟩ := ih below
      exact ⟨v, .tag hEntry hChild hUpper, hLower⟩

/-- Puts one more step in front of what was found below it. -/
def under (step : Step) (visits : List (List Step × Visit)) : List (List Step × Visit) :=
  visits.map fun v => (step :: v.1, v.2)

theorem map_snd_under (step : Step) (visits : List (List Step × Visit)) :
    (under step visits).map Prod.snd = visits.map Prod.snd := by
  simp [under, Function.comp_def]

theorem mem_under {step : Step} {visits : List (List Step × Visit)} {site : List Step}
    {w : Visit} :
    (site, w) ∈ under step visits ↔ ∃ below, site = step :: below ∧ (below, w) ∈ visits := by
  simp only [under, List.mem_map, Prod.mk.injEq, Prod.exists]
  constructor
  · rintro ⟨below, _, hMem, rfl, rfl⟩
    exact ⟨below, rfl, hMem⟩
  · rintro ⟨below, rfl, hMem⟩
    exact ⟨below, w, hMem, rfl, rfl⟩

mutual
/-- The visits of a node and of all that it leads to, each behind the steps to it. The node itself
comes first and what lies below it follows in the order of the data. -/
def sitedVisits (rule : Rule) (path : String) (lone : Bool) : Node → List (List Step × Visit)
  | .scalar text => [([], ⟨.scalar text, rule, path, lone⟩)]
  | .sequence items =>
    ([], ⟨.sequence items, rule, path, lone⟩) ::
      if rule.isRepeatable then sitedItemVisits rule path 0 items else []
  | .mapping entries =>
    ([], ⟨.mapping entries, rule, path, lone⟩) :: sitedEntryVisits rule path entries

/-- The same for the items of a sequence, from the item `index` on. -/
def sitedItemVisits (rule : Rule) (path : String) (index : Nat) :
    List Node → List (List Step × Visit)
  | [] => []
  | item :: rest =>
    under (.item index) (sitedVisits rule (itemPath path index) false item) ++
      sitedItemVisits rule path (index + 1) rest

/-- The same for the entries of a mapping that the rules declare. -/
def sitedEntryVisits (rule : Rule) (path : String) :
    List (String × Node) → List (List Step × Visit)
  | [] => []
  | (key, node) :: rest =>
    match rule.child? key with
    | some child =>
      under (.tag key) (sitedVisits child (keyPath path key) true node) ++
        sitedEntryVisits rule path rest
    | none => sitedEntryVisits rule path rest
end

/-- A visit and all that it leads to, each behind the steps to it. -/
def Visit.sited (v : Visit) : List (List Step × Visit) := sitedVisits v.rule v.path v.lone v.node

/-- The same without the steps, in the order of the data. -/
def Visit.all (v : Visit) : List Visit := v.sited.map Prod.snd

/-- Without the steps, the visits of the items are those that the traversal puts off, each with all
that it leads to. -/
theorem map_snd_sitedItemVisits (rule : Rule) (path : String) (index : Nat)
    (items : List Node) :
    (sitedItemVisits rule path index items).map Prod.snd =
      (itemVisits rule path index items).flatMap Visit.all := by
  induction items generalizing index with
  | nil => rfl
  | cons item rest ih =>
    simp [sitedItemVisits, itemVisits, map_snd_under, ih, Visit.all, Visit.sited]

/-- The same for the entries of a mapping. Those that no rule declares are in neither list. -/
theorem map_snd_sitedEntryVisits (rule : Rule) (path : String)
    (entries : List (String × Node)) :
    (sitedEntryVisits rule path entries).map Prod.snd =
      (entryVisits rule path entries).flatMap Visit.all := by
  induction entries with
  | nil => rfl
  | cons e rest ih =>
    obtain ⟨key, node⟩ := e
    simp only [sitedEntryVisits, entryVisits]
    cases rule.child? key with
    | none => exact ih
    | some child => simp [map_snd_under, ih, Visit.all, Visit.sited]

/-- A visit comes before all that it leads to. What it leads to comes in the order in which the
traversal puts it off. -/
theorem Visit.all_eq (v : Visit) : v.all = v :: v.next.flatMap Visit.all := by
  obtain ⟨node, rule, path, lone⟩ := v
  cases node with
  | scalar text => simp [Visit.all, Visit.sited, Visit.next, sitedVisits]
  | sequence items =>
    simp only [Visit.all, Visit.sited, Visit.next, sitedVisits, List.map_cons]
    split
    · rw [map_snd_sitedItemVisits]
    · rfl
  | mapping entries =>
    simp only [Visit.all, Visit.sited, Visit.next, sitedVisits, List.map_cons,
      map_snd_sitedEntryVisits]

/-- Going through pending visits takes each of them, with all that it leads to, before the next
one. The account is arbitrary and so is what is pending. -/
theorem work_eq_foldl {σ : Type} (take : σ → Visit → σ) (account : σ) (pending : List Visit) :
    work take account pending = (pending.flatMap Visit.all).foldl take account := by
  induction account, pending using work.induct take with
  | case1 account => simp [work]
  | case2 account v rest ih =>
    rw [work, ih, List.flatMap_append, List.flatMap_cons, Visit.all_eq v, List.cons_append,
      List.foldl_cons]

/-- The account of a traversal grows in front, so it comes out with the last failure first. -/
theorem foldl_report (s : Setting) (done : List Failure) (visits : List Visit) :
    visits.foldl (Visit.report s) done = (visits.flatMap (Visit.failures s)).reverse ++ done := by
  induction visits generalizing done with
  | nil => rfl
  | cons v rest ih => simp [ih, Visit.report, List.reverseAux_eq]

/-- The failures of a run are those of the visits that it makes, in their order. -/
theorem run_eq_flatMap (s : Setting) (pending : List Visit) :
    run s pending = (pending.flatMap Visit.all).flatMap (Visit.failures s) := by
  simp [run, work_eq_foldl, foldl_report]

/-- The visits that going through pending visits makes, in the order in which it makes them. -/
def visitsMade (pending : List Visit) : List Visit :=
  (work (fun made v => v :: made) [] pending).reverse

/-- The visits that are made are the pending ones, each with all that it leads to. -/
theorem visitsMade_eq (pending : List Visit) : visitsMade pending = pending.flatMap Visit.all := by
  have hFold (made visits : List Visit) :
      visits.foldl (fun made v => v :: made) made = visits.reverse ++ made := by
    induction visits generalizing made with
    | nil => rfl
    | cons v rest ih => simp [ih]
  simp [visitsMade, work_eq_foldl, hFold]

/-- A visit inside a sequence lies in the item that its first step is the index of. -/
theorem mem_sitedItemVisits {rule : Rule} {path : String} {index : Nat} {items : List Node}
    {site : List Step} {w : Visit} :
    (site, w) ∈ sitedItemVisits rule path index items ↔
      ∃ i item below, site = .item (index + i) :: below ∧ items[i]? = some item ∧
        (below, w) ∈ sitedVisits rule (itemPath path (index + i)) false item := by
  induction items generalizing index with
  | nil => simp [sitedItemVisits]
  | cons first rest ih =>
    simp only [sitedItemVisits, List.mem_append, mem_under, ih]
    constructor
    · rintro (⟨below, rfl, hBelow⟩ | ⟨i, item, below, rfl, hItem, hBelow⟩)
      · exact ⟨0, first, below, rfl, rfl, hBelow⟩
      · have hIndex : index + 1 + i = index + (i + 1) := by omega
        exact ⟨i + 1, item, below, by rw [hIndex], hItem, hIndex ▸ hBelow⟩
    · rintro ⟨i, item, below, rfl, hItem, hBelow⟩
      cases i with
      | zero =>
        obtain rfl : first = item := by simpa using hItem
        exact .inl ⟨below, rfl, hBelow⟩
      | succ i =>
        have hIndex : index + (i + 1) = index + 1 + i := by omega
        exact .inr ⟨i, item, below, by rw [hIndex], hItem, hIndex ▸ hBelow⟩

/-- A visit inside a mapping lies under a key that a rule declares, which is its first step. -/
theorem mem_sitedEntryVisits {rule : Rule} {path : String} {entries : List (String × Node)}
    {site : List Step} {w : Visit} :
    (site, w) ∈ sitedEntryVisits rule path entries ↔
      ∃ key node child below, site = .tag key :: below ∧ (key, node) ∈ entries ∧
        rule.child? key = some child ∧
        (below, w) ∈ sitedVisits child (keyPath path key) true node := by
  induction entries with
  | nil => simp [sitedEntryVisits]
  | cons e rest ih =>
    obtain ⟨key, node⟩ := e
    have hRest : (∃ key node child below, site = .tag key :: below ∧ (key, node) ∈ rest ∧
          rule.child? key = some child ∧
          (below, w) ∈ sitedVisits child (keyPath path key) true node) →
        ∃ key' node' child below, site = .tag key' :: below ∧ (key', node') ∈ (key, node) :: rest ∧
          rule.child? key' = some child ∧
          (below, w) ∈ sitedVisits child (keyPath path key') true node' := by
      rintro ⟨key', node', child, below, hSite, hEntry, hFound⟩
      exact ⟨key', node', child, below, hSite, .tail _ hEntry, hFound⟩
    cases hChild : rule.child? key with
    | none =>
      simp only [sitedEntryVisits, hChild, ih]
      refine ⟨hRest, ?_⟩
      rintro ⟨key', node', child, below, hSite, hEntry, hFound⟩
      rcases List.mem_cons.mp hEntry with hHead | hTail
      · obtain ⟨rfl, rfl⟩ := Prod.mk.inj hHead
        rw [hChild] at hFound
        cases hFound.1
      · exact ⟨key', node', child, below, hSite, hTail, hFound⟩
    | some child =>
      simp only [sitedEntryVisits, hChild, List.mem_append, mem_under, ih]
      constructor
      · rintro (⟨below, hSite, hBelow⟩ | h)
        · exact ⟨key, node, child, below, hSite, .head _, hChild, hBelow⟩
        · exact hRest h
      · rintro ⟨key', node', child', below, hSite, hEntry, hChild', hBelow⟩
        rcases List.mem_cons.mp hEntry with hHead | hTail
        · obtain ⟨rfl, rfl⟩ := Prod.mk.inj hHead
          obtain rfl : child = child' := by rw [hChild] at hChild'; exact Option.some.inj hChild'
          exact .inl ⟨below, hSite, hBelow⟩
        · exact .inr ⟨key', node', child', below, hSite, hTail, hChild', hBelow⟩

/-- The listed visits are those that steps lead to. The list is made by recursion on the tree, the
steps are not. -/
theorem mem_sitedVisits_iff {rule : Rule} {path : String} {lone : Bool} {node : Node}
    {site : List Step} {w : Visit} :
    (site, w) ∈ sitedVisits rule path lone node ↔ Reached ⟨node, rule, path, lone⟩ site w := by
  induction node generalizing rule path lone site w with
  | scalar text =>
    simp only [sitedVisits, List.mem_singleton, Prod.mk.injEq]
    constructor
    · rintro ⟨rfl, rfl⟩
      exact .here _
    · intro h
      cases h
      exact ⟨rfl, rfl⟩
  | sequence items ih =>
    simp only [sitedVisits, List.mem_cons, Prod.mk.injEq]
    constructor
    · rintro (⟨rfl, rfl⟩ | hBelow)
      · exact .here _
      · split at hBelow
        · next hRepeatable =>
          obtain ⟨i, item, below, rfl, hItem, hMem⟩ := mem_sitedItemVisits.mp hBelow
          rw [Nat.zero_add] at hMem ⊢
          exact .item hRepeatable hItem ((ih item (List.mem_of_getElem? hItem)).mp hMem)
        · cases hBelow
    · intro h
      cases h with
      | here => exact .inl ⟨rfl, rfl⟩
      | @item _ _ _ _ index item below _ hRepeatable hItem hReached =>
        rw [if_pos hRepeatable]
        have hMem := (ih item (List.mem_of_getElem? hItem)).mpr hReached
        exact .inr (mem_sitedItemVisits.mpr ⟨index, item, below, by rw [Nat.zero_add], hItem,
          by rwa [Nat.zero_add]⟩)
  | mapping entries ih =>
    simp only [sitedVisits, List.mem_cons, Prod.mk.injEq]
    constructor
    · rintro (⟨rfl, rfl⟩ | hBelow)
      · exact .here _
      · obtain ⟨key, node, child, below, rfl, hEntry, hChild, hMem⟩ :=
          mem_sitedEntryVisits.mp hBelow
        exact .tag hEntry hChild ((ih (key, node) hEntry).mp hMem)
    · intro h
      cases h with
      | here => exact .inl ⟨rfl, rfl⟩
      | tag hEntry hChild hReached =>
        exact .inr (mem_sitedEntryVisits.mpr
          ⟨_, _, _, _, rfl, hEntry, hChild, (ih _ hEntry).mpr hReached⟩)

theorem Visit.mem_sited {v w : Visit} {site : List Step} :
    (site, w) ∈ v.sited ↔ Reached v site w := mem_sitedVisits_iff

theorem Reached.mem_all {v w : Visit} {site : List Step} (h : Reached v site w) : w ∈ v.all :=
  List.mem_map.mpr ⟨(site, w), Visit.mem_sited.mpr h, rfl⟩

/-- The places of listed visits. -/
def sites (visits : List (List Step × Visit)) : List (List Step) := visits.map Prod.fst

theorem sites_under (step : Step) (visits : List (List Step × Visit)) :
    sites (under step visits) = (sites visits).map (step :: ·) := by
  simp [sites, under, Function.comp_def]

theorem nodup_sites_under {step : Step} {visits : List (List Step × Visit)}
    (h : (sites visits).Nodup) : (sites (under step visits)).Nodup := by
  rw [sites_under]
  exact h.map fun _ _ hEq => (List.cons.inj hEq).2

theorem mem_sites {site : List Step} {visits : List (List Step × Visit)} :
    site ∈ sites visits ↔ ∃ w, (site, w) ∈ visits := by
  simp [sites]

/-- No two visits of a sequence share a place, since those in different items differ by the index.
-/
theorem nodup_sites_sitedItemVisits (rule : Rule) (path : String) (index : Nat)
    {items : List Node}
    (h : ∀ item ∈ items, ∀ path, (sites (sitedVisits rule path false item)).Nodup) :
    (sites (sitedItemVisits rule path index items)).Nodup := by
  induction items generalizing index with
  | nil => exact List.nodup_nil
  | cons item rest ih =>
    simp only [sitedItemVisits, sites, List.map_append]
    refine List.Nodup.append (nodup_sites_under (h item (.head _) _))
      (ih _ fun other hOther => h other (.tail _ hOther)) fun site hHead hTail => ?_
    obtain ⟨w, hHead⟩ := mem_sites.mp hHead
    obtain ⟨w', hTail⟩ := mem_sites.mp hTail
    obtain ⟨below, rfl, -⟩ := mem_under.mp hHead
    obtain ⟨i, other, below', hEq, -, -⟩ := mem_sitedItemVisits.mp hTail
    have hIndex : index = index + 1 + i := Step.item.inj (List.cons.inj hEq).1
    omega

/-- No two visits of a mapping share a place, if it has each key once. -/
theorem nodup_sites_sitedEntryVisits (rule : Rule) (path : String)
    {entries : List (String × Node)} (hKeys : (entries.map Prod.fst).Nodup)
    (h : ∀ e ∈ entries, ∀ rule path, (sites (sitedVisits rule path true e.2)).Nodup) :
    (sites (sitedEntryVisits rule path entries)).Nodup := by
  induction entries with
  | nil => exact List.nodup_nil
  | cons e rest ih =>
    obtain ⟨key, node⟩ := e
    rw [List.map_cons, List.nodup_cons] at hKeys
    have hRest := ih hKeys.2 fun other hOther => h other (.tail _ hOther)
    cases hChild : rule.child? key with
    | none => simpa only [sitedEntryVisits, hChild] using hRest
    | some child =>
      simp only [sitedEntryVisits, hChild, sites, List.map_append]
      refine List.Nodup.append (nodup_sites_under (h (key, node) (.head _) _ _)) hRest
        fun site hHead hTail => ?_
      obtain ⟨w, hHead⟩ := mem_sites.mp hHead
      obtain ⟨w', hTail⟩ := mem_sites.mp hTail
      obtain ⟨below, rfl, -⟩ := mem_under.mp hHead
      obtain ⟨key', node', child', below', hEq, hEntry, -, -⟩ := mem_sitedEntryVisits.mp hTail
      obtain rfl : key = key' := Step.tag.inj (List.cons.inj hEq).1
      exact hKeys.1 (List.mem_map.mpr ⟨(key, node'), hEntry, rfl⟩)

/-- In a tree whose mappings have each key once no two visits share a place. -/
theorem nodup_sites_sitedVisits {node : Node} (hKeys : node.KeysDistinct) (rule : Rule)
    (path : String) (lone : Bool) : (sites (sitedVisits rule path lone node)).Nodup := by
  have hBelow {visits : List (List Step × Visit)} (v : Visit) (hNodup : (sites visits).Nodup)
      (hCons : ∀ site ∈ sites visits, site ≠ []) : (sites (([], v) :: visits)).Nodup :=
    List.nodup_cons.mpr ⟨fun h => hCons [] h rfl, hNodup⟩
  induction node generalizing rule path lone with
  | scalar text => simp [sites, sitedVisits]
  | sequence items ih =>
    cases hKeys with
    | sequence hItems =>
      rw [sitedVisits]
      split
      · refine hBelow _ (nodup_sites_sitedItemVisits rule path 0
          fun item hItem path => ih item hItem (hItems item hItem) rule path false) ?_
        intro site hSite
        obtain ⟨w, hMem⟩ := mem_sites.mp hSite
        obtain ⟨i, item, below, rfl, -⟩ := mem_sitedItemVisits.mp hMem
        simp
      · simp [sites]
  | mapping entries ih =>
    cases hKeys with
    | mapping hEntries hValues =>
      rw [sitedVisits]
      refine hBelow _ (nodup_sites_sitedEntryVisits rule path hEntries
        fun e hEntry rule path => ih e hEntry (hValues e hEntry) rule path true) ?_
      intro site hSite
      obtain ⟨w, hMem⟩ := mem_sites.mp hSite
      obtain ⟨key, node, child, below, rfl, -⟩ := mem_sitedEntryVisits.mp hMem
      simp

theorem Visit.nodup_sites_sited {v : Visit} (h : v.node.KeysDistinct) : (sites v.sited).Nodup :=
  nodup_sites_sitedVisits h v.rule v.path v.lone

theorem eq_of_nodup_sites {visits : List (List Step × Visit)} (hNodup : (sites visits).Nodup)
    {site : List Step} {v w : Visit} (hv : (site, v) ∈ visits) (hw : (site, w) ∈ visits) :
    v = w :=
  (Prod.mk.inj (List.inj_on_of_nodup_map hNodup hv hw rfl)).2

/-- In a tree whose mappings have each key once, further steps from a place start at the one visit
that is made there. -/
theorem Reached.of_append {u v w : Visit} (hKeys : u.node.KeysDistinct) {first second : List Step}
    (hUpper : Reached u first v) (h : Reached u (first ++ second) w) : Reached v second w := by
  obtain ⟨v', hUpper', hLower⟩ := h.split
  have hEq := eq_of_nodup_sites (Visit.nodup_sites_sited hKeys) (Visit.mem_sited.mpr hUpper)
    (Visit.mem_sited.mpr hUpper')
  rwa [hEq]

end MarkupRules.Validation
