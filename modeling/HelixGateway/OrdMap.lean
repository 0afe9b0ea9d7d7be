/-!
# Maps in the order of their keys' arrival

JSON objects, property lists, query strings and catalogues are maps whose order can be seen. `Entries` is the raw list of
pairs, and `OrdMap` one in which no key repeats. Writing to a key that is there changes its value and keeps its place; a
new key goes to the end.

Main statements: `Entries.keys_insert` and `Entries.get?_insert`, which say together what an insertion does, and
`OrdMap.keys_ofEntries` and `OrdMap.get?_ofEntries`, by which a key counts at its first place and with its last value.
-/

namespace HelixGateway

/-- Keys with their values, in order. -/
abbrev Entries (α : Type) := List (String × α)

namespace Entries

variable {α β : Type}

/-- The keys, in order. -/
def keys (es : Entries α) : List String := es.map Prod.fst

/-- The value of a key, the first one if the key repeats. -/
def get? (es : Entries α) (k : String) : Option α :=
  match es with
  | [] => none
  | (k', v) :: es => if k' = k then some v else get? es k

/-- Whether a key is present. -/
def has (es : Entries α) (k : String) : Bool := (es.get? k).isSome

/-- Writes a value: in place when the key is present, at the end otherwise. -/
def insert (es : Entries α) (k : String) (v : α) : Entries α :=
  match es with
  | [] => [(k, v)]
  | (k', v') :: es => if k' = k then (k, v) :: es else (k', v') :: insert es k v

/-- Writes entries one after the other. -/
def insertAll (es : Entries α) (new : Entries α) : Entries α :=
  new.foldl (fun m e => m.insert e.1 e.2) es

/-- The entries as a map holds them: each key at its first place, with its last value. -/
def collapse (es : Entries α) : Entries α := insertAll [] es

@[simp] theorem keys_nil : keys ([] : Entries α) = [] := rfl

@[simp] theorem keys_cons (k : String) (v : α) (es : Entries α) : keys ((k, v) :: es) = k :: keys es := rfl

/-- A key has no value exactly if it is not there. -/
theorem get?_eq_none_iff {es : Entries α} {k : String} : es.get? k = none ↔ k ∉ es.keys := by
  induction es with
  | nil => simp [get?]
  | cons e es ih =>
    obtain ⟨k', v⟩ := e
    by_cases h : k' = k
    · simp [get?, h]
    · simp [get?, h, ih, Ne.symm h]

/-- A key is present exactly if it is among the keys. -/
theorem has_iff {es : Entries α} {k : String} : es.has k = true ↔ k ∈ es.keys := by
  rw [has, Option.isSome_iff_ne_none, ne_eq, get?_eq_none_iff, Decidable.not_not]

/-- The value of a key is that of the first entry under it. -/
theorem get?_eq_find? (es : Entries α) (k : String) : es.get? k = (es.find? (·.1 = k)).map Prod.snd := by
  induction es with
  | nil => rfl
  | cons e es ih =>
    obtain ⟨k', v⟩ := e
    by_cases h : k' = k
    · simp [get?, h]
    · simp [get?, h, ih]

theorem mem_of_get?_eq_some {es : Entries α} {k : String} {v : α} (h : es.get? k = some v) : (k, v) ∈ es := by
  rw [get?_eq_find?, Option.map_eq_some_iff] at h
  obtain ⟨⟨k', v'⟩, hf, rfl⟩ := h
  have hk : k' = k := by simpa using List.find?_some hf
  exact hk ▸ List.mem_of_find?_eq_some hf

/-- Where no key repeats, each entry is found under its key. -/
theorem get?_eq_some_iff_mem {es : Entries α} (h : es.keys.Nodup) {k : String} {v : α} :
    es.get? k = some v ↔ (k, v) ∈ es := by
  refine ⟨mem_of_get?_eq_some, fun hm => ?_⟩
  induction es with
  | nil => cases hm
  | cons e es ih =>
    obtain ⟨k', v'⟩ := e
    rw [keys_cons, List.nodup_cons] at h
    rcases List.mem_cons.1 hm with he | hm
    · cases he
      simp [get?]
    · have hk : k' ≠ k := fun hk => h.1 (hk ▸ List.mem_map_of_mem hm)
      rw [get?, if_neg hk, ih h.2 hm]

/-- Entries are found again under their keys, and so are determined by these, where no key repeats. -/
theorem filterMap_get?_keys {es fs : Entries α} (h : es.keys.Nodup) (hf : ∀ e ∈ fs, e ∈ es) :
    fs.keys.filterMap (fun k => (es.get? k).map (k, ·)) = fs := by
  induction fs with
  | nil => rfl
  | cons e fs ih =>
    obtain ⟨k, v⟩ := e
    have hg : es.get? k = some v := (get?_eq_some_iff_mem h).2 (hf (k, v) List.mem_cons_self)
    rw [keys_cons, List.filterMap_cons_some (by rw [hg]; rfl), ih fun d hd => hf d (List.mem_cons_of_mem _ hd)]

theorem keys_mapValues (es : Entries α) (f : α → β) : keys (es.map fun e => (e.1, f e.2)) = es.keys := by
  rw [keys, keys, List.map_map]
  rfl

theorem get?_mapValues (es : Entries α) (f : α → β) (k : String) :
    get? (es.map fun e => (e.1, f e.2)) k = (es.get? k).map f := by
  rw [get?_eq_find?, get?_eq_find?, List.find?_map, Option.map_map, Option.map_map]
  rfl

theorem keys_filter (es : Entries α) (p : String → Bool) : keys (es.filter fun e => p e.1) = es.keys.filter p := by
  rw [keys, keys, List.filter_map]
  rfl

/-- A key that is kept has its value still. -/
theorem get?_filter (es : Entries α) {p : String → Bool} {k : String} (h : p k = true) :
    get? (es.filter fun e => p e.1) k = es.get? k := by
  induction es with
  | nil => rfl
  | cons e es ih =>
    obtain ⟨k', v⟩ := e
    by_cases hk : k' = k
    · subst hk
      simp [get?, h]
    · by_cases hp : p k' = true
      · simp [get?, hp, hk, ih]
      · simp [get?, hp, hk, ih]

/-- Where no key repeats, the order of the entries does not count. -/
theorem get?_of_perm {es fs : Entries α} (h : fs.Perm es) (hd : es.keys.Nodup) (k : String) : fs.get? k = es.get? k := by
  have hf : fs.keys.Nodup := (h.map Prod.fst).nodup_iff.2 hd
  refine Option.ext fun v => ?_
  rw [get?_eq_some_iff_mem hf, get?_eq_some_iff_mem hd, h.mem_iff]

/-- The entries in front count first. -/
theorem get?_append (es fs : Entries α) (k : String) : get? (es ++ fs) k = (es.get? k).or (fs.get? k) := by
  rw [get?_eq_find?, List.find?_append, Option.map_or, ← get?_eq_find?, ← get?_eq_find?]

/-- Looked up from the end, an entry counts if no later one has its key. -/
theorem get?_reverse_of_last {before after : Entries α} {k : String} {v : α} (h : k ∉ after.keys) :
    get? (before ++ (k, v) :: after).reverse k = some v := by
  have hn : get? after.reverse k = none := by
    rw [get?_eq_none_iff, keys, List.map_reverse, List.mem_reverse]
    exact h
  rw [List.reverse_append, List.reverse_cons, List.append_assoc, get?_append, hn, Option.none_or, List.singleton_append,
    get?]
  simp

/-- An insertion adds its key at the end, or no key at all. -/
theorem keys_insert (es : Entries α) (k : String) (v : α) :
    (es.insert k v).keys = if k ∈ es.keys then es.keys else es.keys ++ [k] := by
  induction es with
  | nil => rfl
  | cons e es ih =>
    obtain ⟨k', v'⟩ := e
    by_cases h : k' = k
    · simp [insert, h]
    · by_cases hm : k ∈ keys es
      · simp [insert, h, ih, hm]
      · simp [insert, h, ih, hm, Ne.symm h]

/-- The new keys of some insertions go behind the others, each at its first place. -/
theorem keys_insertAll (es new : Entries α) :
    (es.insertAll new).keys = es.keys ++ ((keys new).removeAll es.keys).eraseDups := by
  induction new generalizing es with
  | nil => simp [insertAll, List.removeAll]
  | cons e new ih =>
    obtain ⟨k, v⟩ := e
    have hstep : es.insertAll ((k, v) :: new) = (es.insert k v).insertAll new := rfl
    rw [hstep, ih, keys_insert, keys_cons]
    by_cases hk : k ∈ es.keys
    · have hcons : (k :: keys new).removeAll es.keys = (keys new).removeAll es.keys := by simp [List.removeAll, hk]
      rw [if_pos hk, hcons]
    · have hcons : (k :: keys new).removeAll es.keys = k :: (keys new).removeAll es.keys := by simp [List.removeAll, hk]
      have hmore : (keys new).removeAll (es.keys ++ [k]) = ((keys new).removeAll es.keys).filter fun b => !b == k := by
        simp only [List.removeAll, List.filter_filter]
        refine List.filter_congr fun j _ => ?_
        by_cases hj : j = k
        · simp [hj]
        · simp [hj]
      rw [if_neg hk, hcons, hmore, List.eraseDups_cons, List.append_assoc, List.singleton_append]

/-- After an insertion its key has its value, and every other key the value it had. -/
theorem get?_insert (es : Entries α) (k : String) (v : α) (j : String) :
    (es.insert k v).get? j = if k = j then some v else es.get? j := by
  induction es with
  | nil => simp [insert, get?]
  | cons e es ih =>
    obtain ⟨k', v'⟩ := e
    by_cases h : k' = k
    · subst h
      by_cases hj : k' = j <;> simp [insert, get?, hj]
    · by_cases hj : k' = j
      · subst hj
        simp [insert, get?, h, Ne.symm h]
      · simp [insert, get?, h, hj, ih]

/-- After some insertions each of their keys has the last value written to it, and every other key the value it had. -/
theorem get?_insertAll (es new : Entries α) (k : String) :
    (es.insertAll new).get? k = (get? new.reverse k).or (es.get? k) := by
  induction new generalizing es with
  | nil => rfl
  | cons e new ih =>
    obtain ⟨j, v⟩ := e
    have hstep : es.insertAll ((j, v) :: new) = (es.insert j v).insertAll new := rfl
    have hone : get? [(j, v)] k = if j = k then some v else none := rfl
    rw [hstep, ih, get?_insert, List.reverse_cons, get?_append, Option.or_assoc, hone]
    split
    · rfl
    · rfl

/-- Writing a value makes no key repeat. -/
theorem nodup_keys_insert {es : Entries α} (h : es.keys.Nodup) (k : String) (v : α) : (es.insert k v).keys.Nodup := by
  rw [keys_insert]
  split
  · exact h
  · rename_i hk
    rw [List.nodup_append]
    refine ⟨h, by simp, ?_⟩
    rintro a ha b hb rfl
    rw [List.mem_singleton] at hb
    exact hk (hb ▸ ha)

theorem nodup_keys_insertAll {es : Entries α} (h : es.keys.Nodup) (new : Entries α) :
    (es.insertAll new).keys.Nodup := by
  induction new generalizing es with
  | nil => exact h
  | cons e new ih => exact ih (nodup_keys_insert h e.1 e.2)

/-- No key repeats in a map. -/
theorem nodup_keys_collapse (es : Entries α) : es.collapse.keys.Nodup :=
  nodup_keys_insertAll (show (keys ([] : Entries α)).Nodup from List.nodup_nil) es

/-- The keys after some insertions are those before and those of the new entries. -/
theorem mem_keys_insertAll {es new : Entries α} {k : String} :
    k ∈ (es.insertAll new).keys ↔ k ∈ es.keys ∨ k ∈ new.keys := by
  induction new generalizing es with
  | nil => simp [insertAll]
  | cons e new ih =>
    obtain ⟨j, v⟩ := e
    have hstep : es.insertAll ((j, v) :: new) = (es.insert j v).insertAll new := rfl
    rw [hstep, ih, keys_insert, keys_cons, List.mem_cons]
    by_cases hj : j ∈ es.keys
    · rw [if_pos hj]
      constructor
      · rintro (h | h)
        · exact .inl h
        · exact .inr (.inr h)
      · rintro (h | rfl | h)
        · exact .inl h
        · exact .inl hj
        · exact .inr h
    · rw [if_neg hj, List.mem_append, List.mem_singleton, or_assoc]

/-- Behind an insertion, an entry is the one written or was there before. -/
theorem of_mem_insert {es : Entries α} {k : String} {v : α} {e : String × α} (h : e ∈ es.insert k v) :
    e = (k, v) ∨ e ∈ es := by
  induction es with
  | nil => exact .inl (List.mem_singleton.1 h)
  | cons d es ih =>
    obtain ⟨k', v'⟩ := d
    rw [insert] at h
    split at h
    · exact (List.mem_cons.1 h).imp id (List.mem_cons_of_mem _)
    · rcases List.mem_cons.1 h with rfl | h
      · exact .inr List.mem_cons_self
      · exact (ih h).imp id (List.mem_cons_of_mem _)

/-- Insertions make up no entries. -/
theorem of_mem_insertAll {es new : Entries α} {e : String × α} (h : e ∈ es.insertAll new) : e ∈ es ∨ e ∈ new := by
  induction new generalizing es with
  | nil => exact .inl h
  | cons d new ih =>
    rcases ih h with h | h
    · rcases of_mem_insert h with rfl | h
      · exact .inr List.mem_cons_self
      · exact .inl h
    · exact .inr (List.mem_cons_of_mem _ h)

/-- A new key goes to the end. -/
theorem insert_of_not_mem {es : Entries α} {k : String} (h : k ∉ es.keys) (v : α) : es.insert k v = es ++ [(k, v)] := by
  induction es with
  | nil => rfl
  | cons e es ih =>
    obtain ⟨k', v'⟩ := e
    simp only [keys_cons, List.mem_cons, not_or] at h
    simp [insert, Ne.symm h.1, ih h.2]

/-- Entries whose keys are all new are put behind the others. -/
theorem insertAll_of_nodup {es new : Entries α} (h : (es ++ new).keys.Nodup) : es.insertAll new = es ++ new := by
  induction new generalizing es with
  | nil => simp [insertAll]
  | cons e new ih =>
    obtain ⟨k, v⟩ := e
    have hk : k ∉ es.keys := by
      simp only [keys, List.map_append, List.nodup_append] at h
      exact fun hm => h.2.2 k hm k (by simp) rfl
    have hstep : es.insertAll ((k, v) :: new) = (es.insert k v).insertAll new := rfl
    rw [hstep, insert_of_not_mem hk, ih (by simpa using h)]
    simp

/-- What is made of the values of distinct keys, for those of which anything is made. -/
theorem get?_filterMap_of_nodup {es : Entries α} (h : es.keys.Nodup) (f : α → Option β) (k : String) :
    get? (es.filterMap fun e => (f e.2).map (e.1, ·)) k = (es.get? k).bind f := by
  induction es with
  | nil => rfl
  | cons e es ih =>
    obtain ⟨k', v⟩ := e
    rw [keys_cons, List.nodup_cons] at h
    have ih := ih h.2
    by_cases hk : k' = k
    · subst hk
      have hn : get? es k' = none := get?_eq_none_iff.2 h.1
      cases hf : f v with
      | none => simp [get?, hf, ih, hn]
      | some w => simp [get?, hf]
    · cases hf : f v with
      | none => simp [get?, hf, ih, hk]
      | some w => simp [get?, hf, ih, hk]

/-- Entries whose keys are distinct are held as they are. -/
theorem collapse_of_nodup {es : Entries α} (h : es.keys.Nodup) : collapse es = es :=
  insertAll_of_nodup (show (keys (([] : Entries α) ++ es)).Nodup from h)

end Entries

/-- A map that remembers the order in which its keys arrived. -/
structure OrdMap (α : Type) where
  entries : Entries α
  nodup : entries.keys.Nodup

namespace OrdMap

variable {α β : Type}

@[ext] theorem ext {m n : OrdMap α} (h : m.entries = n.entries) : m = n := by
  cases m
  cases n
  simp only at h
  subst h
  rfl

instance [DecidableEq α] : DecidableEq (OrdMap α) := fun m n =>
  decidable_of_iff (m.entries = n.entries) ⟨ext, fun h => h ▸ rfl⟩

/-- The map without keys. -/
def empty : OrdMap α := ⟨[], List.nodup_nil⟩

instance : Inhabited (OrdMap α) := ⟨empty⟩

/-- The keys, in order. -/
def keys (m : OrdMap α) : List String := m.entries.keys

/-- The value of a key. -/
def get? (m : OrdMap α) (k : String) : Option α := m.entries.get? k

/-- Writes a value: in place when the key is present, at the end otherwise. -/
def insert (m : OrdMap α) (k : String) (v : α) : OrdMap α :=
  ⟨m.entries.insert k v, Entries.nodup_keys_insert m.nodup k v⟩

/-- The map of a list of entries: each key at its first place, with its last value. -/
def ofEntries (es : Entries α) : OrdMap α := ⟨es.collapse, Entries.nodup_keys_collapse es⟩

/-- Writes the entries of another map over this one. -/
def insertAll (m n : OrdMap α) : OrdMap α :=
  ⟨m.entries.insertAll n.entries, Entries.nodup_keys_insertAll m.nodup n.entries⟩

@[simp] theorem entries_empty : (empty : OrdMap α).entries = [] := rfl

@[simp] theorem entries_insert (m : OrdMap α) (k : String) (v : α) :
    (m.insert k v).entries = m.entries.insert k v := rfl

/-- A key that is written has its new value, and every other key the value it had. -/
theorem get?_insert (m : OrdMap α) (k : String) (v : α) (j : String) :
    (m.insert k v).get? j = if k = j then some v else m.get? j := Entries.get?_insert m.entries k v j

/-- The entries written over a map count before its own. -/
theorem get?_insertAll (m n : OrdMap α) (k : String) : (m.insertAll n).get? k = (n.get? k).or (m.get? k) := by
  have h : (m.insertAll n).get? k = (Entries.get? n.entries.reverse k).or (m.get? k) :=
    Entries.get?_insertAll m.entries n.entries k
  rw [h, Entries.get?_of_perm (List.reverse_perm n.entries) n.nodup]
  rfl

/-- Of a key that repeats the last value counts. -/
theorem get?_ofEntries (es : Entries α) (k : String) : (ofEntries es).get? k = Entries.get? es.reverse k := by
  have h : (ofEntries es).get? k = (Entries.get? es.reverse k).or none := Entries.get?_insertAll [] es k
  rw [h, Option.or_none]

/-- The keys of a list of entries, each at its first place. -/
theorem keys_ofEntries (es : Entries α) : (ofEntries es).keys = es.keys.eraseDups := by
  have h : (ofEntries es).keys = [] ++ (es.keys.removeAll []).eraseDups := Entries.keys_insertAll [] es
  have hall : es.keys.removeAll [] = es.keys := List.filter_eq_self.2 fun _ _ => rfl
  rw [h, hall, List.nil_append]

/-- Only no entries at all make the empty map. -/
theorem ofEntries_eq_empty_iff {es : Entries α} : ofEntries es = empty ↔ es = [] := by
  constructor
  · intro h
    cases es with
    | nil => rfl
    | cons e es =>
      have hk := keys_ofEntries (e :: es)
      rw [h] at hk
      have hm : e.1 ∈ (Entries.keys (e :: es)).eraseDups := List.mem_eraseDups.2 (by simp [Entries.keys])
      rw [← hk] at hm
      cases hm
  · rintro rfl
    rfl

/-- The last of the entries is written last. -/
theorem ofEntries_concat (es : Entries α) (k : String) (v : α) : ofEntries (es ++ [(k, v)]) = (ofEntries es).insert k v := by
  refine ext ?_
  show Entries.insertAll [] (es ++ [(k, v)]) = (Entries.insertAll [] es).insert k v
  simp [Entries.insertAll, List.foldl_append]

theorem get?_ofEntries_of_nodup {es : Entries α} (h : es.keys.Nodup) (k : String) : (ofEntries es).get? k = es.get? k :=
  congrArg (Entries.get? · k) (Entries.collapse_of_nodup h)

/-- A map of what is made of the entries finds under a key what is made of its value, if anything is. -/
theorem get?_ofEntries_filterMap {es : Entries α} (h : es.keys.Nodup) (f : α → Option β) (k : String) :
    (ofEntries (es.filterMap fun e => (f e.2).map (e.1, ·))).get? k = (es.get? k).bind f := by
  have hr : (Entries.keys es.reverse).Nodup := ((List.reverse_perm es).map Prod.fst).nodup_iff.2 h
  rw [get?_ofEntries, ← List.filterMap_reverse, Entries.get?_filterMap_of_nodup hr, ← get?_ofEntries,
    get?_ofEntries_of_nodup h]

/-- A map is rebuilt from its own entries. -/
theorem ofEntries_entries (m : OrdMap α) : ofEntries m.entries = m := ext (Entries.collapse_of_nodup m.nodup)

end OrdMap

end HelixGateway
