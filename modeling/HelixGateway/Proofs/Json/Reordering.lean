import HelixGateway.Json.Canonical
import HelixGateway.Proofs.Results

/-!
# Canonical order as a reordering

Putting keys in canonical order moves entries of objects and changes nothing else. It succeeds for every value whose keys
of digits are short enough to be read as numbers, and what is in order already stays as it is.

Main statements: `reordered_of_canonicalize`, `canonicalize_eq_ok_iff`, `arrange_of_other`, `finiteOrNull_of_isFinite`.
-/

namespace HelixGateway.Json

/-! ## Reorderings -/

mutual

/-- The second value is the first one with the entries of its objects in some order. -/
inductive Reordered : Json → Json → Prop where
  | same (v : Json) : Reordered v v
  | arr {vs ws : List Json} : ItemsReordered vs ws → Reordered (.arr vs) (.arr ws)
  | obj {es fs gs : Entries Json} : FieldsReordered es fs → gs.Perm fs → Reordered (.obj es) (.obj gs)

/-- Each item is a reordering of the one at its place. -/
inductive ItemsReordered : List Json → List Json → Prop where
  | nil : ItemsReordered [] []
  | cons {v w : Json} {vs ws : List Json} : Reordered v w → ItemsReordered vs ws → ItemsReordered (v :: vs) (w :: ws)

/-- The keys are the same, and each value is a reordering of the one at its place. -/
inductive FieldsReordered : Entries Json → Entries Json → Prop where
  | nil : FieldsReordered [] []
  | cons {v w : Json} {es fs : Entries Json} (k : String) :
    Reordered v w → FieldsReordered es fs → FieldsReordered ((k, v) :: es) ((k, w) :: fs)

end

theorem ItemsReordered.refl : ∀ vs : List Json, ItemsReordered vs vs
  | [] => .nil
  | v :: vs => .cons (.same v) (refl vs)

theorem FieldsReordered.refl : ∀ es : Entries Json, FieldsReordered es es
  | [] => .nil
  | (k, v) :: es => .cons k (.same v) (refl es)

section OfReordered

variable {w : Json}

/-- Only the same text is a reordering of a text. -/
theorem Reordered.of_str {s : String} (h : Reordered (.str s) w) : w = .str s := by
  cases h
  rfl

/-- A reordering of an array is an array, its items reordered at their places. -/
theorem Reordered.of_arr {vs : List Json} (h : Reordered (.arr vs) w) : ∃ ws, ItemsReordered vs ws ∧ w = .arr ws := by
  cases h with
  | same => exact ⟨vs, .refl vs, rfl⟩
  | arr hi => exact ⟨_, hi, rfl⟩

/-- A reordering of an object is an object: its values are reordered, and then its entries are moved. -/
theorem Reordered.of_obj {es : Entries Json} (h : Reordered (.obj es) w) :
    ∃ fs gs, FieldsReordered es fs ∧ gs.Perm fs ∧ w = .obj gs := by
  cases h with
  | same => exact ⟨es, es, .refl es, .rfl, rfl⟩
  | obj hf hp => exact ⟨_, _, hf, hp, rfl⟩

end OfReordered

/-- Numbers that are not finite are taken out of each item. -/
theorem itemsFiniteOrNull_eq_map (vs : List Json) : itemsFiniteOrNull vs = vs.map finiteOrNull := by
  induction vs with
  | nil => rfl
  | cons v vs ih => rw [itemsFiniteOrNull, ih, List.map_cons]

theorem fieldsFiniteOrNull_eq_map (es : Entries Json) :
    fieldsFiniteOrNull es = es.map fun e => (e.1, e.2.finiteOrNull) := by
  induction es with
  | nil => rfl
  | cons e es ih =>
    obtain ⟨k, v⟩ := e
    rw [fieldsFiniteOrNull, ih]
    rfl

mutual

/-- Numbers that are not finite may be taken out before or after. -/
theorem Reordered.finiteOrNull {v w : Json} : Reordered v w → Reordered v.finiteOrNull w.finiteOrNull
  | .same v => .same _
  | .arr h => .arr h.finiteOrNull
  | .obj h hp => by
    refine .obj h.finiteOrNull ?_
    rw [fieldsFiniteOrNull_eq_map, fieldsFiniteOrNull_eq_map]
    exact hp.map _

/-- Items stay reorderings when numbers that are not finite are taken out. -/
theorem ItemsReordered.finiteOrNull {vs ws : List Json} :
    ItemsReordered vs ws → ItemsReordered (itemsFiniteOrNull vs) (itemsFiniteOrNull ws)
  | .nil => .nil
  | .cons h ht => .cons h.finiteOrNull ht.finiteOrNull

theorem FieldsReordered.finiteOrNull {es fs : Entries Json} :
    FieldsReordered es fs → FieldsReordered (fieldsFiniteOrNull es) (fieldsFiniteOrNull fs)
  | .nil => .nil
  | .cons k h ht => .cons k h.finiteOrNull ht.finiteOrNull

end

/-! ## Canonical order -/

section Inversion

variable {vs ws : List Json} {es fs : Entries Json} {v w : Json}

/-- An array is put in order by putting its items in order. -/
theorem canonicalize_arr_ok (h : (arr vs).canonicalize = .ok w) : ∃ ws, canonicalizeItems vs = .ok ws ∧ w = .arr ws := by
  rw [canonicalize] at h
  obtain ⟨ws, hc, rfl⟩ := map_eq_ok h
  exact ⟨ws, hc, rfl⟩

/-- An object is put in order by putting its values in order and then arranging its entries. -/
theorem canonicalize_obj_ok (h : (obj es).canonicalize = .ok w) :
    ∃ fs gs, canonicalizeFields es = .ok fs ∧ arrange fs = .ok gs ∧ w = .obj gs := by
  rw [canonicalize] at h
  split at h
  · cases h
  · rename_i fs hc
    obtain ⟨gs, ha, rfl⟩ := map_eq_ok h
    exact ⟨fs, gs, hc, ha, rfl⟩

/-- Items are put in order from the first one on. -/
theorem canonicalizeItems_cons_ok (h : canonicalizeItems (v :: vs) = .ok ws) :
    ∃ x xs, v.canonicalize = .ok x ∧ canonicalizeItems vs = .ok xs ∧ ws = x :: xs := by
  rw [canonicalizeItems] at h
  split at h
  · cases h
  · rename_i x hv
    obtain ⟨xs, hc, rfl⟩ := map_eq_ok h
    exact ⟨x, xs, hv, hc, rfl⟩

theorem canonicalizeFields_cons_ok {k : String} (h : canonicalizeFields ((k, v) :: es) = .ok fs) :
    ∃ x gs, v.canonicalize = .ok x ∧ canonicalizeFields es = .ok gs ∧ fs = (k, x) :: gs := by
  rw [canonicalizeFields] at h
  split at h
  · cases h
  · rename_i x hv
    obtain ⟨gs, hc, rfl⟩ := map_eq_ok h
    exact ⟨x, gs, hv, hc, rfl⟩

end Inversion

mutual

/-- Canonical order is a reordering. -/
theorem reordered_of_canonicalize : ∀ {v w : Json}, v.canonicalize = .ok w → Reordered v w
  | .arr vs, w, h => by
    obtain ⟨ws, hc, rfl⟩ := canonicalize_arr_ok h
    exact .arr (itemsReordered_of_canonicalize hc)
  | .obj es, w, h => by
    obtain ⟨fs, gs, hc, ha, rfl⟩ := canonicalize_obj_ok h
    exact .obj (fieldsReordered_of_canonicalize hc) (arrange_perm ha)
  | .null, w, h => by
    cases h
    exact .same _
  | .bool b, w, h => by
    cases h
    exact .same _
  | .int n, w, h => by
    cases h
    exact .same _
  | .real x, w, h => by
    cases h
    exact .same _
  | .str s, w, h => by
    cases h
    exact .same _

/-- Items that are put in order are reordered at their places. -/
theorem itemsReordered_of_canonicalize : ∀ {vs ws : List Json}, canonicalizeItems vs = .ok ws → ItemsReordered vs ws
  | [], ws, h => by
    cases h
    exact .nil
  | v :: vs, ws, h => by
    obtain ⟨x, xs, hv, hc, rfl⟩ := canonicalizeItems_cons_ok h
    exact .cons (reordered_of_canonicalize hv) (itemsReordered_of_canonicalize hc)

theorem fieldsReordered_of_canonicalize :
    ∀ {es fs : Entries Json}, canonicalizeFields es = .ok fs → FieldsReordered es fs
  | [], fs, h => by
    cases h
    exact .nil
  | (k, v) :: es, fs, h => by
    obtain ⟨x, gs, hv, hc, rfl⟩ := canonicalizeFields_cons_ok h
    exact .cons k (reordered_of_canonicalize hv) (fieldsReordered_of_canonicalize hc)

end

/-! ## Keys of digits -/

/-- A key that is read as a number if it is one of digits. -/
def isShortKey (k : String) : Bool := !isNumericKey k || k.toList.length ≤ Decimal.maxDigits

mutual

/-- Whether every key of digits in a value is short enough to be read as a number. -/
def hasShortKeys : Json → Bool
  | .arr items => itemsHaveShortKeys items
  | .obj fields => (Entries.keys fields).all isShortKey && fieldsHaveShortKeys fields
  | _ => true

def itemsHaveShortKeys : List Json → Bool
  | [] => true
  | v :: vs => v.hasShortKeys && itemsHaveShortKeys vs

def fieldsHaveShortKeys : Entries Json → Bool
  | [] => true
  | (_, v) :: es => v.hasShortKeys && fieldsHaveShortKeys es

end

theorem itemsHaveShortKeys_iff {vs : List Json} : itemsHaveShortKeys vs = true ↔ ∀ v ∈ vs, v.hasShortKeys = true := by
  induction vs with
  | nil => simp [itemsHaveShortKeys]
  | cons v vs ih => rw [itemsHaveShortKeys, Bool.and_eq_true, ih, List.forall_mem_cons]

theorem fieldsHaveShortKeys_iff {es : Entries Json} : fieldsHaveShortKeys es = true ↔ ∀ e ∈ es, e.2.hasShortKeys = true := by
  induction es with
  | nil => simp [fieldsHaveShortKeys]
  | cons e es ih => rw [fieldsHaveShortKeys, Bool.and_eq_true, ih, List.forall_mem_cons]

/-- Entries can be numbered exactly if none of the keys is too long. -/
theorem isOk_numbered (es : Entries Json) : (numbered es).isOk = es.all fun e => e.1.toList.length ≤ Decimal.maxDigits := by
  induction es with
  | nil => rfl
  | cons e es ih =>
    rw [numbered, List.all_cons, Decimal.ofDigits, ← ih]
    split
    · rename_i err h
      split at h
      · cases h
      · rename_i hl
        simp [hl, Except.isOk, Except.toBool]
    · rename_i n h
      split at h
      · rename_i hl
        simp [hl, isOk_map]
      · cases h

/-- Entries can be arranged exactly if their keys are short. -/
theorem isOk_arrange (es : Entries Json) : (arrange es).isOk = (Entries.keys es).all isShortKey := by
  rw [arrange, isOk_map, isOk_numbered, inPlace, Entries.keys, List.all_filter, List.all_map]
  congr 1
  funext e
  simp only [keyPlace, isShortKey, Function.comp_apply]
  by_cases hn : isNumericKey e.1 = true
  · simp [hn]
  · by_cases hk : e.1 = "id" <;> simp [hn, hk]

/-- Reordering the values keeps the keys where they are. -/
theorem FieldsReordered.keys_eq {es fs : Entries Json} (h : FieldsReordered es fs) : Entries.keys fs = Entries.keys es := by
  induction es generalizing fs with
  | nil =>
    cases h
    rfl
  | cons e es ih =>
    cases h with
    | cons k _ ht => rw [Entries.keys_cons, Entries.keys_cons, ih ht]

mutual

/-- A value has a canonical order if and only if its keys of digits are short. -/
theorem isOk_canonicalize : ∀ v : Json, v.canonicalize.isOk = v.hasShortKeys
  | .arr vs => by rw [canonicalize, isOk_map, isOk_canonicalizeItems vs, hasShortKeys]
  | .obj es => by
    have hf := isOk_canonicalizeFields es
    rw [hasShortKeys, ← hf, canonicalize]
    cases hc : canonicalizeFields es with
    | error e => simp [Except.isOk, Except.toBool]
    | ok fs =>
      simp only [isOk_map, isOk_arrange, (fieldsReordered_of_canonicalize hc).keys_eq]
      exact (Bool.and_true _).symm
  | .null => rfl
  | .bool _ => rfl
  | .int _ => rfl
  | .real _ => rfl
  | .str _ => rfl

theorem isOk_canonicalizeItems : ∀ vs : List Json, (canonicalizeItems vs).isOk = itemsHaveShortKeys vs
  | [] => rfl
  | v :: vs => by
    have hv := isOk_canonicalize v
    have ht := isOk_canonicalizeItems vs
    rw [canonicalizeItems, itemsHaveShortKeys, ← hv, ← ht]
    cases v.canonicalize with
    | error e => rfl
    | ok w => simp only [isOk_map]; rfl

theorem isOk_canonicalizeFields : ∀ es : Entries Json, (canonicalizeFields es).isOk = fieldsHaveShortKeys es
  | [] => rfl
  | (k, v) :: es => by
    have hv := isOk_canonicalize v
    have ht := isOk_canonicalizeFields es
    rw [canonicalizeFields, fieldsHaveShortKeys, ← hv, ← ht]
    cases v.canonicalize with
    | error e => rfl
    | ok w => simp only [isOk_map]; rfl

end

/-- A value has a canonical order, which is a reordering of it, if and only if its keys of digits are short. -/
theorem canonicalize_eq_ok_iff {v : Json} : (∃ w, v.canonicalize = .ok w) ↔ v.hasShortKeys = true := by
  rw [← isOk_canonicalize]
  cases v.canonicalize with
  | error e => exact ⟨nofun, nofun⟩
  | ok w => exact ⟨fun _ => rfl, fun _ => ⟨w, rfl⟩⟩

/-! ## What is in order -/

/-- Entries stay in order if their keys are neither of digits nor `id`. -/
theorem arrange_of_other {es : Entries Json} (h : ∀ k ∈ Entries.keys es, keyPlace k = .other) : arrange es = .ok es := by
  have hk : ∀ e ∈ es, keyPlace e.1 = .other := fun e he => h e.1 (List.mem_map_of_mem he)
  have hn : inPlace .numeric es = [] := List.filter_eq_nil_iff.2 fun e he => by simp [hk e he]
  have hi : inPlace .identity es = [] := List.filter_eq_nil_iff.2 fun e he => by simp [hk e he]
  have ho : inPlace .other es = es := List.filter_eq_self.2 fun e he => by simp [hk e he]
  simp [arrange, hn, hi, ho, numbered, byNumber, Except.map]

/-- Items that are in order stay as they are. -/
theorem canonicalizeItems_eq_self {vs : List Json} (h : ∀ v ∈ vs, v.canonicalize = .ok v) : canonicalizeItems vs = .ok vs := by
  induction vs with
  | nil => rfl
  | cons v vs ih =>
    obtain ⟨hv, hvs⟩ := List.forall_mem_cons.1 h
    rw [canonicalizeItems, hv]
    simp only [ih hvs]
    rfl

theorem canonicalizeFields_eq_self {es : Entries Json} (h : ∀ e ∈ es, e.2.canonicalize = .ok e.2) :
    canonicalizeFields es = .ok es := by
  induction es with
  | nil => rfl
  | cons e es ih =>
    obtain ⟨k, v⟩ := e
    obtain ⟨hv, hes⟩ := List.forall_mem_cons.1 h
    rw [canonicalizeFields, hv]
    simp only [ih hes]
    rfl

/-- A value that is sent as it is: its keys are in canonical order, and its numbers are finite. -/
structure Settled (v : Json) : Prop where
  canonical : v.canonicalize = .ok v
  finite : v.finiteOrNull = v

namespace Settled

theorem str (s : String) : Settled (.str s) := ⟨rfl, rfl⟩

theorem arr {vs : List Json} (h : ∀ v ∈ vs, Settled v) : Settled (.arr vs) where
  canonical := by
    rw [canonicalize, canonicalizeItems_eq_self fun v hv => (h v hv).canonical]
    rfl
  finite := by
    rw [finiteOrNull, itemsFiniteOrNull_eq_map, List.map_congr_left fun v hv => (h v hv).finite, List.map_id']

/-- An object is sent as it is if its values are and its keys are all named. -/
theorem obj {es : Entries Json} (h : ∀ e ∈ es, Settled e.2) (hk : ∀ k ∈ Entries.keys es, keyPlace k = .other) :
    Settled (.obj es) where
  canonical := by
    rw [canonicalize, canonicalizeFields_eq_self fun e he => (h e he).canonical]
    simp only [arrange_of_other hk]
    rfl
  finite := by
    have hf : ∀ e ∈ es, (e.1, e.2.finiteOrNull) = e := fun e he => Prod.ext rfl (h e he).finite
    rw [finiteOrNull, fieldsFiniteOrNull_eq_map, List.map_congr_left hf, List.map_id']

end Settled

mutual

/-- A value with finite numbers alone is left as it is. -/
theorem finiteOrNull_of_isFinite : ∀ {v : Json}, v.isFinite = true → v.finiteOrNull = v
  | .real x, h => by
    rw [isFinite] at h
    rw [finiteOrNull, if_pos h]
  | .arr vs, h => by rw [finiteOrNull, itemsFiniteOrNull_of_allFinite h]
  | .obj es, h => by rw [finiteOrNull, fieldsFiniteOrNull_of_fieldsFinite h]
  | .null, _ => rfl
  | .bool _, _ => rfl
  | .int _, _ => rfl
  | .str _, _ => rfl

/-- From finite items nothing is taken out. -/
theorem itemsFiniteOrNull_of_allFinite : ∀ {vs : List Json}, allFinite vs = true → itemsFiniteOrNull vs = vs
  | [], _ => rfl
  | v :: vs, h => by
    rw [allFinite, Bool.and_eq_true] at h
    rw [itemsFiniteOrNull, finiteOrNull_of_isFinite h.1, itemsFiniteOrNull_of_allFinite h.2]

theorem fieldsFiniteOrNull_of_fieldsFinite :
    ∀ {es : Entries Json}, fieldsFinite es = true → fieldsFiniteOrNull es = es
  | [], _ => rfl
  | (k, v) :: es, h => by
    rw [fieldsFinite, Bool.and_eq_true] at h
    rw [fieldsFiniteOrNull, finiteOrNull_of_isFinite h.1, fieldsFiniteOrNull_of_fieldsFinite h.2]

end

end HelixGateway.Json
