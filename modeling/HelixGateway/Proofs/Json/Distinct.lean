import HelixGateway.Json.Reader
import HelixGateway.Proofs.Results

/-!
# Keys of values that are read

The text of an object may repeat a key. In what is read from it no object does, at any depth.

Main statement: `distinct_of_readBytes`.
-/

namespace HelixGateway.Json

/-! ## Words and numbers -/

/-- Whether a value is neither an array nor an object. -/
def isSingle : Json → Bool
  | .arr _ | .obj _ => false
  | _ => true

variable {s r : List Char} {v : Json}

/-- A number behind its sign is a scalar. -/
theorem isSingle_of_readUnsigned {negative : Bool} (h : readUnsigned negative s = some (.ok v, r)) : v.isSingle = true := by
  rw [readUnsigned, Option.map_eq_some_iff] at h
  obtain ⟨⟨whole, s⟩, -, h⟩ := h
  simp only at h
  split at h
  · split at h
    · cases h
      rfl
    · cases h
      rfl
  · split at h
    · cases h
      rfl
    · obtain ⟨n, -, rfl⟩ := map_eq_ok (Prod.mk.inj h).1
      rfl

theorem isSingle_of_readNumber (h : readNumber s = .ok (v, r)) : v.isSingle = true := by
  simp only [readNumber] at h
  split at h
  · cases h
  · cases h
  · rename_i w rest hr
    cases h
    split at hr
    · exact isSingle_of_readUnsigned hr
    · exact isSingle_of_readUnsigned hr

theorem isSingle_of_readScalar (h : readScalar s = .ok (v, r)) : v.isSingle = true := by
  unfold readScalar at h
  split at h
  · rename_i found hf
    cases h
    obtain ⟨⟨w, u⟩, hm, hu⟩ := List.exists_of_findSome?_eq_some hf
    obtain ⟨r', -, he⟩ := Option.map_eq_some_iff.1 hu
    have hw : ∀ e ∈ words, e.2.isSingle = true := by decide
    rw [← (Prod.mk.inj he).1]
    exact hw _ hm
  · exact isSingle_of_readNumber h

/-! ## Distinct keys -/

mutual

/-- Whether no object in a value repeats a key. -/
def distinct : Json → Bool
  | .arr items => itemsDistinct items
  | .obj fields => decide (Entries.keys fields).Nodup && fieldsDistinct fields
  | _ => true

def itemsDistinct : List Json → Bool
  | [] => true
  | v :: vs => v.distinct && itemsDistinct vs

def fieldsDistinct : List (String × Json) → Bool
  | [] => true
  | (_, v) :: es => v.distinct && fieldsDistinct es

end

theorem itemsDistinct_iff {vs : List Json} : itemsDistinct vs = true ↔ ∀ v ∈ vs, v.distinct = true := by
  induction vs with
  | nil => simp [itemsDistinct]
  | cons v vs ih => rw [itemsDistinct, Bool.and_eq_true, ih, List.forall_mem_cons]

theorem fieldsDistinct_iff {es : Entries Json} : fieldsDistinct es = true ↔ ∀ e ∈ es, e.2.distinct = true := by
  induction es with
  | nil => simp [fieldsDistinct]
  | cons e es ih => rw [fieldsDistinct, Bool.and_eq_true, ih, List.forall_mem_cons]

/-- No key repeats in an array exactly if none does in any item. -/
theorem distinct_arr_iff {vs : List Json} : distinct (.arr vs) = true ↔ ∀ v ∈ vs, v.distinct = true := by
  rw [distinct, itemsDistinct_iff]

/-- No key repeats in an object exactly if its own keys do not, and none does in any value. -/
theorem distinct_obj_iff {es : Entries Json} :
    distinct (.obj es) = true ↔ (Entries.keys es).Nodup ∧ ∀ e ∈ es, e.2.distinct = true := by
  rw [distinct, Bool.and_eq_true, decide_eq_true_eq, fieldsDistinct_iff]

/-- A scalar has no keys to repeat. -/
theorem distinct_of_isSingle (h : v.isSingle = true) : v.distinct = true := by
  cases v with
  | arr items => cases h
  | obj fields => cases h
  | null => rfl
  | bool b => rfl
  | int n => rfl
  | real x => rfl
  | str s => rfl

/-- An array of distinct items is distinct. -/
theorem distinct_arrayOf {items : List (Shown Json)} (h : ∀ v ∈ items, v.value.distinct = true) :
    (arrayOf items).value.distinct = true :=
  distinct_arr_iff.2 (List.forall_mem_map.2 h)

/-- An object is read with its members collapsed, so that the last value of a key is left alone. -/
theorem distinct_objectOf {members : List (Shown String × Shown Json)} (h : ∀ e ∈ members, e.2.value.distinct = true) :
    (objectOf members).value.distinct = true := by
  refine distinct_obj_iff.2 ⟨?_, List.forall_mem_map.2 fun e he => ?_⟩
  · rw [Entries.keys_mapValues]
    exact Entries.nodup_keys_collapse _
  · have hm := (Entries.of_mem_insertAll he).resolve_left List.not_mem_nil
    obtain ⟨d, hd, rfl⟩ := List.mem_map.1 hm
    exact h d hd

/-- What the three readers call each other for is distinct. The induction is on the fuel that they share. -/
theorem distinct_of_readers (strays : List Nat) (fuel : Nat) :
    (∀ {s r : List Char} {v : Shown Json}, readValue strays fuel s = .ok (v, r) → v.value.distinct = true) ∧
      (∀ {s r : List Char} {vs : List (Shown Json)}, readItems strays fuel s = .ok (vs, r) →
        ∀ v ∈ vs, v.value.distinct = true) ∧
      ∀ {s r : List Char} {es : List (Shown String × Shown Json)}, readMembers strays fuel s = .ok (es, r) →
        ∀ e ∈ es, e.2.value.distinct = true := by
  induction fuel with
  | zero =>
    refine ⟨?_, ?_, ?_⟩ <;>
    · intro s r x h
      cases h
  | succ fuel ih =>
    obtain ⟨hvalue, hitems, hmembers⟩ := ih
    refine ⟨?value, ?items, ?members⟩
    case value =>
      intro s r v h
      unfold readValue at h
      split at h
      · obtain ⟨x, -, hx⟩ := map_eq_ok h
        cases hx
        rfl
      · split at h
        · cases h
          rfl
        · obtain ⟨x, hr, hx⟩ := map_eq_ok h
          cases hx
          exact distinct_arrayOf (hitems hr)
      · split at h
        · cases h
          rfl
        · obtain ⟨x, hr, hx⟩ := map_eq_ok h
          cases hx
          exact distinct_objectOf (hmembers hr)
      · obtain ⟨x, hr, hx⟩ := map_eq_ok h
        cases hx
        exact distinct_of_isSingle (isSingle_of_readScalar hr)
    case items =>
      intro s r vs h
      unfold readItems at h
      split at h
      · cases h
      · rename_i v s' hv
        have hd := hvalue hv
        split at h
        · cases h
          simpa using hd
        · obtain ⟨x, hr, hx⟩ := map_eq_ok h
          cases hx
          exact List.forall_mem_cons.2 ⟨hd, hitems hr⟩
        · cases h
    case members =>
      intro s r es h
      unfold readMembers at h
      split at h
      · split at h
        · cases h
        · split at h
          · split at h
            · cases h
            · rename_i v s' hv
              have hd := hvalue hv
              split at h
              · cases h
                simpa using hd
              · obtain ⟨x, hr, hx⟩ := map_eq_ok h
                cases hx
                exact List.forall_mem_cons.2 ⟨hd, hmembers hr⟩
              · cases h
          · cases h
      · cases h

/-- No object in what a text is read as repeats a key. -/
theorem distinct_of_readDecoded {text : Text.Shown} {v : Shown Json} (h : readDecoded text = .ok v) :
    v.value.distinct = true := by
  obtain ⟨r, hr⟩ := of_readDecoded_eq_ok h
  exact (distinct_of_readers _ _).1 hr

/-- **No object in what bytes are read as repeats a key.** -/
theorem distinct_of_readBytes {bs : Text.Bytes} {v : Shown Json} (h : readBytes bs = .ok v) : v.value.distinct = true := by
  unfold readBytes at h
  split at h
  · cases h
  · exact distinct_of_readDecoded h

end HelixGateway.Json
