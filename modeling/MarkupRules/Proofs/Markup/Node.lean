import MarkupRules.Markup.Node
import Mathlib.Data.List.Nodup

/-!
Data trees: induction, and how entries are looked up.

A mapping that was built by giving keys their values holds each key once, in the place
where it first came and with the value that came last.
-/
namespace MarkupRules.Markup.Node

/-- Induction on a data tree: a sequence follows its items and a mapping follows its values. -/
@[elab_as_elim, induction_eliminator]
theorem induction {motive : Node → Prop} (scalar : ∀ text, motive (.scalar text))
    (sequence : ∀ items, (∀ item ∈ items, motive item) → motive (.sequence items))
    (mapping : ∀ entries, (∀ e ∈ entries, motive e.2) → motive (.mapping entries))
    (node : Node) : motive node :=
  Node.rec (motive_1 := motive) (motive_2 := fun items => ∀ item ∈ items, motive item)
    (motive_3 := fun entries => ∀ e ∈ entries, motive e.2) (motive_4 := fun e => motive e.2)
    scalar sequence mapping
    (by simp) (fun item rest hItem hRest => by simpa using ⟨hItem, by simpa using hRest⟩)
    (by simp) (fun e rest hEntry hRest => by
      simp only [List.mem_cons, forall_eq_or_imp]
      exact ⟨hEntry, hRest⟩)
    (fun _ _ hNode => hNode) node

section Lookup

variable {α : Type}

/-- A key is looked up at the front first and then behind. The equation is by the equality of keys
and not by their comparison. -/
theorem lookup_cons_eq_ite (key : String) (e : String × α) (rest : List (String × α)) :
    (e :: rest).lookup key = if key = e.1 then some e.2 else rest.lookup key := by
  obtain ⟨k, value⟩ := e
  by_cases h : key = k
  · simp [h]
  · rw [List.lookup_cons, beq_false_of_ne h, if_neg h]

theorem mem_of_lookup {key : String} {value : α} {entries : List (String × α)}
    (h : entries.lookup key = some value) : (key, value) ∈ entries := by
  induction entries with
  | nil => cases h
  | cons e rest ih =>
    rw [lookup_cons_eq_ite] at h
    split at h
    · next hKey =>
      obtain rfl := Option.some.inj h
      rw [hKey]
      exact .head _
    · exact .tail _ (ih h)

/-- Nothing is found under a key just if no entry has it. -/
theorem lookup_eq_none_iff {key : String} {entries : List (String × α)} :
    entries.lookup key = none ↔ key ∉ entries.map Prod.fst := by
  induction entries with
  | nil => simp
  | cons e rest ih =>
    rw [lookup_cons_eq_ite, List.map_cons, List.mem_cons, not_or, ← ih]
    split <;> simp_all

/-- Where keys are distinct, an entry is found under its key. -/
theorem lookup_of_mem {key : String} {value : α} {entries : List (String × α)}
    (hKeys : (entries.map Prod.fst).Nodup) (h : (key, value) ∈ entries) :
    entries.lookup key = some value := by
  induction entries with
  | nil => cases h
  | cons e rest ih =>
    rw [List.map_cons, List.nodup_cons] at hKeys
    rw [lookup_cons_eq_ite]
    rcases List.mem_cons.mp h with rfl | hRest
    · rw [if_pos rfl]
    · have hNe : key ≠ e.1 := by
        rintro rfl
        exact hKeys.1 (List.mem_map.mpr ⟨_, hRest, rfl⟩)
      rw [if_neg hNe]
      exact ih hKeys.2 hRest

/-- Where keys are distinct it does not matter from which end a key is looked up. -/
theorem lookup_reverse {entries : List (String × α)} (hKeys : (entries.map Prod.fst).Nodup)
    (key : String) : entries.reverse.lookup key = entries.lookup key := by
  have hReverse : (entries.reverse.map Prod.fst).Nodup := by
    rw [List.map_reverse]
    exact List.nodup_reverse.mpr hKeys
  ext value
  constructor
  · intro h
    exact lookup_of_mem hKeys (List.mem_reverse.mp (mem_of_lookup h))
  · intro h
    exact lookup_of_mem hReverse (List.mem_reverse.mpr (mem_of_lookup h))

/-- Looking a key up and changing what is found is the same as changing all values first. -/
theorem lookup_map {β : Type} (f : α → β) (entries : List (String × α)) (key : String) :
    (entries.map fun (k, value) => (k, f value)).lookup key = (entries.lookup key).map f := by
  induction entries with
  | nil => rfl
  | cons e rest ih =>
    obtain ⟨k, value⟩ := e
    rw [List.map_cons, lookup_cons_eq_ite, lookup_cons_eq_ite, ih, apply_ite (Option.map f)]
    rfl

end Lookup

/-- After a value is put under a key it is found there, and under all other keys is found what was
there. -/
theorem lookup_insertEntry (key k : String) (value : Node) (entries : List (String × Node)) :
    (insertEntry key value entries).lookup k =
      if k = key then some value else entries.lookup k := by
  induction entries with
  | nil => simp [insertEntry, lookup_cons_eq_ite]
  | cons e rest ih =>
    obtain ⟨k', v⟩ := e
    by_cases hKey : k' = key
    · subst hKey
      by_cases h : k = k' <;> simp [insertEntry, lookup_cons_eq_ite, h]
    · simp only [insertEntry, if_neg hKey, lookup_cons_eq_ite, ih]
      by_cases h : k = key
      · subst h
        simp [Ne.symm hKey]
      · simp [h]

theorem mem_insertEntry {key : String} {value : Node} {entries : List (String × Node)}
    {e : String × Node} (h : e ∈ insertEntry key value entries) :
    e = (key, value) ∨ e ∈ entries := by
  induction entries with
  | nil => exact .inl (by simpa [insertEntry] using h)
  | cons e' rest ih =>
    obtain ⟨k, v⟩ := e'
    simp only [insertEntry] at h
    split at h
    · rcases List.mem_cons.mp h with rfl | hRest
      · exact .inl rfl
      · exact .inr (.tail _ hRest)
    · rcases List.mem_cons.mp h with rfl | hRest
      · exact .inr (.head _)
      · exact (ih hRest).imp_right (.tail _)

/-- The keys after a value is put under one of them are those from before and this one. -/
theorem mem_keys_insertEntry {key k : String} {value : Node} {entries : List (String × Node)} :
    k ∈ (insertEntry key value entries).map Prod.fst ↔ k = key ∨ k ∈ entries.map Prod.fst := by
  induction entries with
  | nil => simp [insertEntry]
  | cons e rest ih =>
    obtain ⟨k', v⟩ := e
    by_cases hKey : k' = key
    · simp [insertEntry, hKey]
    · simp only [insertEntry, if_neg hKey, List.map_cons, List.mem_cons, ih]
      exact or_left_comm

/-- No key comes twice after a value is put under one, because an entry that has the key is
replaced. -/
theorem nodup_keys_insertEntry (key : String) (value : Node) {entries : List (String × Node)}
    (h : (entries.map Prod.fst).Nodup) :
    ((insertEntry key value entries).map Prod.fst).Nodup := by
  induction entries with
  | nil => simp [insertEntry]
  | cons e rest ih =>
    obtain ⟨k, v⟩ := e
    simp only [List.map_cons, List.nodup_cons] at h
    by_cases hKey : k = key
    · subst hKey
      simpa [insertEntry] using h
    · simp only [insertEntry, if_neg hKey, List.map_cons, List.nodup_cons, mem_keys_insertEntry]
      exact ⟨fun hMem => hMem.elim hKey h.1, ih h.2⟩

/-- The entries after keys were given their values, in order, on top of what was there. -/
def give (before entries : List (String × Node)) : List (String × Node) :=
  entries.foldl (fun m e => insertEntry e.1 e.2 m) before

theorem ofEntries_eq_give (entries : List (String × Node)) :
    ofEntries entries = .mapping (give [] entries) := rfl

/-- Under a key is found the last value that it was given, or what was there before if it was given
none. -/
theorem lookup_give (before entries : List (String × Node)) (key : String) :
    (give before entries).lookup key = (entries.reverse.lookup key).or (before.lookup key) := by
  induction entries generalizing before with
  | nil => rfl
  | cons e rest ih =>
    have hStep : give before (e :: rest) = give (insertEntry e.1 e.2 before) rest := rfl
    rw [hStep, ih, lookup_insertEntry, List.reverse_cons, List.lookup_append, Option.or_assoc,
      lookup_cons_eq_ite]
    split <;> rfl

theorem nodup_keys_give {before : List (String × Node)} (h : (before.map Prod.fst).Nodup)
    (entries : List (String × Node)) : ((give before entries).map Prod.fst).Nodup := by
  induction entries generalizing before with
  | nil => exact h
  | cons e rest ih => exact ih (nodup_keys_insertEntry e.1 e.2 h)

/-- What is there in the end was there before or was given. Not all that was given is still there.
-/
theorem mem_give {before entries : List (String × Node)} {e : String × Node}
    (h : e ∈ give before entries) : e ∈ before ∨ e ∈ entries := by
  induction entries generalizing before with
  | nil => exact .inl h
  | cons e' rest ih =>
    rcases ih h with hInsert | hRest
    · rcases mem_insertEntry hInsert with rfl | hBefore
      · exact .inr (.head _)
      · exact .inl hBefore
    · exact .inr (.tail _ hRest)

/-- A key that once has a value keeps one, though perhaps not the first. -/
theorem mem_keys_give {before entries : List (String × Node)} {key : String} :
    key ∈ (give before entries).map Prod.fst ↔
      key ∈ before.map Prod.fst ∨ key ∈ entries.map Prod.fst := by
  induction entries generalizing before with
  | nil => simp [give]
  | cons e rest ih =>
    have hStep : give before (e :: rest) = give (insertEntry e.1 e.2 before) rest := rfl
    rw [hStep, ih, mem_keys_insertEntry, List.map_cons, List.mem_cons, or_assoc]
    exact or_left_comm

theorem give_ne_nil {before entries : List (String × Node)} (h : entries ≠ []) :
    give before entries ≠ [] := by
  obtain ⟨e, hEntry⟩ := List.exists_mem_of_ne_nil _ h
  have hKey : e.1 ∈ (give before entries).map Prod.fst :=
    mem_keys_give.mpr (.inr (List.mem_map_of_mem hEntry))
  intro hNil
  simp [hNil] at hKey

theorem get?_ofEntries (entries : List (String × Node)) (key : String) :
    (ofEntries entries).get? key = entries.reverse.lookup key := by
  simp [ofEntries_eq_give, get?, entries?, lookup_give]

/-- A key that is new is put at the end. -/
theorem insertEntry_of_notMem {key : String} {value : Node} {entries : List (String × Node)}
    (h : key ∉ entries.map Prod.fst) :
    insertEntry key value entries = entries ++ [(key, value)] := by
  induction entries with
  | nil => rfl
  | cons e rest ih =>
    obtain ⟨k, v⟩ := e
    simp only [List.map_cons, List.mem_cons, not_or] at h
    simp [insertEntry, Ne.symm h.1, ih h.2]

/-- Entries whose keys are new and distinct are put at the end in their order, none of them lost. -/
theorem give_of_nodup {before entries : List (String × Node)}
    (h : ((before ++ entries).map Prod.fst).Nodup) : give before entries = before ++ entries := by
  induction entries generalizing before with
  | nil => simp [give]
  | cons e rest ih =>
    have hStep : give before (e :: rest) = give (insertEntry e.1 e.2 before) rest := rfl
    have hFresh : e.1 ∉ before.map Prod.fst := by
      rw [List.map_append, List.nodup_append] at h
      intro hMem
      exact h.2.2 _ hMem e.1 (by simp) rfl
    rw [hStep, insertEntry_of_notMem hFresh, ih (by simpa using h)]
    simp

/-- Entries whose keys are distinct stay as they are when a mapping is made from them, with their
order. -/
theorem ofEntries_of_nodup {entries : List (String × Node)} (h : (entries.map Prod.fst).Nodup) :
    ofEntries entries = .mapping entries := by
  rw [ofEntries_eq_give, give_of_nodup (by simpa using h), List.nil_append]

theorem eq_mapping_of_get? {node value : Node} {key : String} (h : node.get? key = some value) :
    ∃ entries, node = .mapping entries ∧ entries.lookup key = some value := by
  cases node with
  | scalar text => cases h
  | sequence items => cases h
  | mapping entries => exact ⟨entries, rfl, h⟩

/-- No mapping of a tree has a key twice. -/
inductive KeysDistinct : Node → Prop where
  | scalar (text : String) : KeysDistinct (.scalar text)
  | sequence {items : List Node} (hItems : ∀ item ∈ items, KeysDistinct item) :
      KeysDistinct (.sequence items)
  | mapping {entries : List (String × Node)} (hKeys : (entries.map Prod.fst).Nodup)
      (hValues : ∀ e ∈ entries, KeysDistinct e.2) : KeysDistinct (.mapping entries)

/-- A mapping that is made from entries has no key twice, at whatever depth, if this holds of the
values. -/
theorem keysDistinct_ofEntries {entries : List (String × Node)}
    (h : ∀ e ∈ entries, KeysDistinct e.2) : KeysDistinct (ofEntries entries) := by
  refine .mapping (nodup_keys_give (by simp) entries) fun e hMem => ?_
  rcases mem_give hMem with hNil | hEntry
  · cases hNil
  · exact h e hEntry

end MarkupRules.Markup.Node
