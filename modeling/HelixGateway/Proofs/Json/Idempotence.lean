import HelixGateway.Proofs.Json.Rank

/-!
# Values in canonical order

What is in canonical order stays as it is when it is put in order once more. It also stays in order when null takes the place
of the numbers that are not finite, since neither keys nor their places depend on numbers. So whatever is put in order and
then sent has both properties for good.

Main statements: `canonicalize_idempotent`, `canonicalize_finiteOrNull`, `settled_of_canonicalize`.
-/

namespace HelixGateway.Json

variable {es fs : Entries Json}

/-! ## One object -/

/-- Entries that can be arranged have short keys. -/
theorem all_isShortKey_of_arrange (h : arrange es = .ok fs) : (Entries.keys es).all isShortKey = true := by
  rw [← isOk_arrange, h]
  rfl

/-- Sorting a second time changes nothing. -/
theorem sortByRank_sortByRank (es : Entries Json) : sortByRank (sortByRank es) = sortByRank es :=
  (pairwise_sortByRank es).insertionSort_eq

/-- Entries that were arranged are arranged. -/
theorem arrange_idempotent (h : arrange es = .ok fs) : arrange fs = .ok fs := by
  have hshort : ∀ k ∈ Entries.keys fs, isShortKey k = true := by
    intro k hk
    exact List.all_eq_true.1 (all_isShortKey_of_arrange h) k ((keys_arrange h).mem_iff.1 hk)
  rw [arrange_eq_sortByRank hshort, eq_sortByRank_of_arrange h, sortByRank_sortByRank]

/-- The place of an entry does not depend on its value. -/
theorem arrange_mapValues (f : Json → Json) (h : arrange es = .ok fs) :
    arrange (es.map fun e => (e.1, f e.2)) = .ok (fs.map fun e => (e.1, f e.2)) := by
  have hshort := List.all_eq_true.1 (all_isShortKey_of_arrange h)
  rw [← Entries.keys_mapValues es f] at hshort
  have hsort : (sortByRank es).map (fun e => (e.1, f e.2)) = sortByRank (es.map fun e => (e.1, f e.2)) :=
    List.map_insertionSort _ _ _ es fun _ _ _ _ => Iff.rfl
  rw [arrange_eq_sortByRank hshort, eq_sortByRank_of_arrange h, hsort]

/-! ## Once more -/

mutual

/-- Canonical order is final: what was put in order is in order. -/
theorem canonicalize_idempotent : ∀ {v w : Json}, v.canonicalize = .ok w → w.canonicalize = .ok w
  | .arr vs, w, h => by
    obtain ⟨ws, hc, rfl⟩ := canonicalize_arr_ok h
    rw [canonicalize, canonicalizeItems_eq_self (canonicalizeItems_idempotent hc)]
    rfl
  | .obj es, w, h => by
    obtain ⟨fs, gs, hc, ha, rfl⟩ := canonicalize_obj_ok h
    -- arranging moves the values, each of which is in order
    have hgs : ∀ e ∈ gs, e.2.canonicalize = .ok e.2 :=
      fun e he => canonicalizeFields_idempotent hc e ((arrange_perm ha).mem_iff.1 he)
    rw [canonicalize, canonicalizeFields_eq_self hgs]
    simp only [arrange_idempotent ha]
    rfl
  | .null, w, h | .bool _, w, h | .int _, w, h | .real _, w, h | .str _, w, h => by
    cases h
    rfl

/-- Items that were put in order are in order. -/
theorem canonicalizeItems_idempotent :
    ∀ {vs ws : List Json}, canonicalizeItems vs = .ok ws → ∀ w ∈ ws, w.canonicalize = .ok w
  | [], ws, h => by
    cases h
    exact List.forall_mem_nil _
  | v :: vs, ws, h => by
    obtain ⟨x, xs, hv, hc, rfl⟩ := canonicalizeItems_cons_ok h
    exact List.forall_mem_cons.2 ⟨canonicalize_idempotent hv, canonicalizeItems_idempotent hc⟩

theorem canonicalizeFields_idempotent :
    ∀ {es fs : Entries Json}, canonicalizeFields es = .ok fs → ∀ e ∈ fs, e.2.canonicalize = .ok e.2
  | [], fs, h => by
    cases h
    exact List.forall_mem_nil _
  | (k, v) :: es, fs, h => by
    obtain ⟨x, gs, hv, hc, rfl⟩ := canonicalizeFields_cons_ok h
    exact List.forall_mem_cons.2 ⟨canonicalize_idempotent hv, canonicalizeFields_idempotent hc⟩

end

/-! ## Numbers that are not finite -/

mutual

/-- Numbers that are not finite may be taken out before a value is put in order or after that. -/
theorem canonicalize_finiteOrNull :
    ∀ {v w : Json}, v.canonicalize = .ok w → v.finiteOrNull.canonicalize = .ok w.finiteOrNull
  | .arr vs, w, h => by
    obtain ⟨ws, hc, rfl⟩ := canonicalize_arr_ok h
    rw [finiteOrNull, canonicalize, canonicalizeItems_finiteOrNull hc]
    rfl
  | .obj es, w, h => by
    obtain ⟨fs, gs, hc, ha, rfl⟩ := canonicalize_obj_ok h
    have ha' := arrange_mapValues finiteOrNull ha
    rw [← fieldsFiniteOrNull_eq_map, ← fieldsFiniteOrNull_eq_map] at ha'
    rw [finiteOrNull, canonicalize, canonicalizeFields_finiteOrNull hc]
    simp only [ha']
    rfl
  | .real x, w, h => by
    cases h
    rw [finiteOrNull]
    split <;> rfl
  | .null, w, h | .bool _, w, h | .int _, w, h | .str _, w, h => by
    cases h
    rfl

theorem canonicalizeItems_finiteOrNull : ∀ {vs ws : List Json}, canonicalizeItems vs = .ok ws →
    canonicalizeItems (itemsFiniteOrNull vs) = .ok (itemsFiniteOrNull ws)
  | [], ws, h => by
    cases h
    rfl
  | v :: vs, ws, h => by
    obtain ⟨x, xs, hv, hc, rfl⟩ := canonicalizeItems_cons_ok h
    rw [itemsFiniteOrNull, canonicalizeItems, canonicalize_finiteOrNull hv]
    simp only [canonicalizeItems_finiteOrNull hc]
    rfl

theorem canonicalizeFields_finiteOrNull : ∀ {es fs : Entries Json}, canonicalizeFields es = .ok fs →
    canonicalizeFields (fieldsFiniteOrNull es) = .ok (fieldsFiniteOrNull fs)
  | [], fs, h => by
    cases h
    rfl
  | (k, v) :: es, fs, h => by
    obtain ⟨x, gs, hv, hc, rfl⟩ := canonicalizeFields_cons_ok h
    rw [fieldsFiniteOrNull, canonicalizeFields, canonicalize_finiteOrNull hv]
    simp only [canonicalizeFields_finiteOrNull hc]
    rfl

end

mutual

/-- With null in the place of the others, all numbers of a value are finite. -/
theorem isFinite_finiteOrNull : ∀ v : Json, v.finiteOrNull.isFinite = true
  | .arr vs => by rw [finiteOrNull, isFinite, allFinite_itemsFiniteOrNull vs]
  | .obj es => by rw [finiteOrNull, isFinite, fieldsFinite_fieldsFiniteOrNull es]
  | .real x => by
    rw [finiteOrNull]
    split
    · assumption
    · rfl
  | .null | .bool _ | .int _ | .str _ => rfl

theorem allFinite_itemsFiniteOrNull : ∀ vs : List Json, allFinite (itemsFiniteOrNull vs) = true
  | [] => rfl
  | v :: vs => by rw [itemsFiniteOrNull, allFinite, isFinite_finiteOrNull v, allFinite_itemsFiniteOrNull vs, Bool.and_self]

theorem fieldsFinite_fieldsFiniteOrNull : ∀ es : Entries Json, fieldsFinite (fieldsFiniteOrNull es) = true
  | [] => rfl
  | (k, v) :: es => by
    rw [fieldsFiniteOrNull, fieldsFinite, isFinite_finiteOrNull v, fieldsFinite_fieldsFiniteOrNull es, Bool.and_self]

end

/-- What is put in order and then made finite is sent as it is. -/
theorem settled_of_canonicalize {v w : Json} (h : v.canonicalize = .ok w) : Settled w.finiteOrNull :=
  ⟨canonicalize_finiteOrNull (canonicalize_idempotent h), finiteOrNull_of_isFinite (isFinite_finiteOrNull w)⟩

end HelixGateway.Json
