import StaticNet.Dict

/-! # Names and entries of finite maps

What an insertion does to the names of a map, what its names are in order, and where the entries of
a map made from pairs come from.
-/

namespace StaticNet

namespace Dict

variable {α : Type}

theorem mem_keys_insert (dict : Dict α) (name other : String) (value : α) :
    other ∈ (dict.insert name value).keys ↔ other = name ∨ other ∈ dict.keys := by
  obtain ⟨entries⟩ := dict
  simp only [insert, keys]
  induction entries with
  | nil => simp [insertEntry]
  | cons entry rest ih =>
    rw [insertEntry]
    split
    · next same => simp [same]
    · simp only [List.map_cons, List.mem_cons, ih]
      exact or_left_comm

/-- Inserting keeps the names distinct. -/
theorem nodup_keys_insert (dict : Dict α) (name : String) (value : α)
    (distinct : dict.keys.Nodup) : (dict.insert name value).keys.Nodup := by
  obtain ⟨entries⟩ := dict
  simp only [insert, keys] at distinct ⊢
  induction entries with
  | nil => simp [insertEntry]
  | cons entry rest ih =>
    rw [List.map_cons, List.nodup_cons] at distinct
    rw [insertEntry]
    split
    · next same => exact List.nodup_cons.mpr ⟨same ▸ distinct.1, distinct.2⟩
    · next different =>
      refine List.nodup_cons.mpr ⟨fun member => ?_, ih distinct.2⟩
      rcases (mem_keys_insert ⟨rest⟩ name entry.1 value).mp member with same | earlier
      · exact different same
      · exact distinct.1 earlier

theorem insert_insert (dict : Dict α) (name : String) (value : α) :
    (dict.insert name value).insert name value = dict.insert name value := by
  obtain ⟨entries⟩ := dict
  simp only [insert, Dict.mk.injEq]
  induction entries with
  | nil => simp [insertEntry]
  | cons entry rest ih =>
    obtain ⟨key, old⟩ := entry
    by_cases same : key = name
    · simp [insertEntry, same]
    · simp [insertEntry, same, ih]

theorem mem_keys_of_get? {dict : Dict α} {name : String} {value : α}
    (found : dict.get? name = some value) : name ∈ dict.keys := by
  obtain ⟨before, after, same, -⟩ := List.lookup_eq_some_iff.mp found
  rw [keys, same, List.map_append, List.map_cons]
  exact List.mem_append_right _ (List.mem_cons_self ..)

theorem mem_keys_iff {dict : Dict α} {name : String} :
    name ∈ dict.keys ↔ ∃ value, dict.get? name = some value := by
  refine ⟨fun member => ?_, fun ⟨value, found⟩ => mem_keys_of_get? found⟩
  refine Option.ne_none_iff_exists'.mp fun absent => ?_
  obtain ⟨entry, listed, rfl⟩ := List.mem_map.mp member
  exact absurd rfl (bne_iff_ne.mp (List.lookup_eq_none_iff.mp absent entry listed))

/-- The names in order are those that have a value. -/
theorem mem_sortedKeys_iff {dict : Dict α} {name : String} :
    name ∈ dict.sortedKeys ↔ ∃ value, dict.get? name = some value := by
  rw [sortedKeys, Std.TreeSet.mem_toList, Std.TreeSet.mem_ofList, List.contains_iff_mem,
    mem_keys_iff]

theorem pairwise_sortedKeys (dict : Dict α) : dict.sortedKeys.Pairwise (· < ·) := by
  refine List.Pairwise.imp (fun {first second} before => ?_) Std.TreeSet.ordered_toList
  exact compareOfLessAndEq_eq_lt.mp before

/-- Inserting a value that is there already changes nothing. -/
theorem insert_of_get? {dict : Dict α} {name : String} {value : α}
    (found : dict.get? name = some value) : dict.insert name value = dict := by
  obtain ⟨entries⟩ := dict
  rw [insert, Dict.mk.injEq]
  rw [get?] at found
  induction entries with
  | nil => cases found
  | cons entry rest ih =>
    obtain ⟨key, old⟩ := entry
    rw [insertEntry]
    by_cases same : key = name
    · subst same
      rw [List.lookup_cons_self] at found
      cases found
      rw [if_pos rfl]
    · rw [List.lookup_cons, beq_eq_false_iff_ne.mpr (Ne.symm same)] at found
      rw [if_neg same, ih found]

private theorem mem_of_get?_foldl_insert {pairs : List (String × α)}
    {dict : Dict α} {name : String} {value : α}
    (found : (pairs.foldl (fun dict pair => dict.insert pair.1 pair.2) dict).get? name =
      some value) : (name, value) ∈ pairs ∨ dict.get? name = some value := by
  induction pairs generalizing dict with
  | nil => exact .inr found
  | cons pair rest ih =>
    rcases ih found with later | here
    · exact .inl (List.mem_cons_of_mem _ later)
    · rw [get?_insert] at here
      split at here
      · next same =>
        cases here
        exact .inl (same ▸ List.mem_cons_self ..)
      · exact .inr here

/-- What a map made from pairs holds is one of the pairs. -/
theorem mem_of_get?_ofList {pairs : List (String × α)} {name : String} {value : α}
    (found : (ofList pairs).get? name = some value) : (name, value) ∈ pairs := by
  rcases mem_of_get?_foldl_insert found with member | absent
  · exact member
  · cases absent

private theorem get?_foldl_insert (pairs : List (String × α)) (dict : Dict α) (name : String) :
    (pairs.foldl (fun dict pair => dict.insert pair.1 pair.2) dict).get? name =
      ((ofList pairs).get? name).or (dict.get? name) := by
  rw [ofList]
  induction pairs generalizing dict with
  | nil => rfl
  | cons pair rest ih =>
    rw [List.foldl_cons, List.foldl_cons, ih, ih (empty.insert pair.1 pair.2), Option.or_assoc,
      get?_insert, get?_insert]
    split
    · rfl
    · rw [get?_empty, Option.none_or]

/-- Later pairs win. -/
theorem get?_ofList_append (first second : List (String × α)) (name : String) :
    (ofList (first ++ second)).get? name =
      ((ofList second).get? name).or ((ofList first).get? name) := by
  rw [ofList, List.foldl_append, get?_foldl_insert]
  rfl

/-- A map with distinct names can be made anew from its entries, with other values. -/
theorem get?_ofList_map {β : Type} {dict : Dict α} (distinct : dict.keys.Nodup) (change : α → β)
    (name : String) :
    (ofList (dict.entries.map fun entry => (entry.1, change entry.2))).get? name =
      (dict.get? name).map change := by
  obtain ⟨entries⟩ := dict
  induction entries with
  | nil => rfl
  | cons entry rest ih =>
    obtain ⟨key, value⟩ := entry
    rw [keys, List.map_cons, List.nodup_cons] at distinct
    rw [List.map_cons, ofList, List.foldl_cons, get?_foldl_insert, ih distinct.2, get?_insert,
      get?_empty]
    simp only [get?, List.lookup_cons]
    by_cases same : name = key
    · subst same
      have absent : rest.lookup name = none := by
        refine List.lookup_eq_none_iff.mpr fun other listed => bne_iff_ne.mpr ?_
        rintro rfl
        exact distinct.1 (List.mem_map.mpr ⟨other, listed, rfl⟩)
      simp [absent]
    · simp [beq_eq_false_iff_ne.mpr same, same]

end Dict

end StaticNet
