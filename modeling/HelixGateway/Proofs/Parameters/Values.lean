import HelixGateway.Proofs.HelixType.Numbers

/-!
# Values and their types

What is read of a text as a value of a type is a value of the type: a text, an integer in range, a double or an array of
doubles. The doubles are all finite, however a text may spell a number that is not, and so what a request is given can be sent
as JSON. Of the array types only that of floating-point numbers has values.

Main statements: `inhabits_of_coerce`, `exists_coerce_iff`, `coerceQueryValue_inhabits`.
-/

namespace HelixGateway

namespace HelixType

/-- The values of a type that a text can be read as. -/
inductive Inhabits (value : String) : HelixType → Json → Prop where
  | string : Inhabits value (.scalar .string) (.str value)
  | id : Inhabits value (.scalar .id) (.str value)
  | integer {t : ScalarType} {range : IntegerRange} {n : ℤ} (ht : t.range? = some range) (hl : range.least ≤ n)
      (hg : n ≤ range.greatest) : Inhabits value (.scalar t) (.int n)
  | wide {x : FiniteDouble} (hx : x.negative = false) : Inhabits value (.scalar .u128) (.real (.finite x))
  | float (x : FiniteDouble) : Inhabits value (.scalar .f64) (.real (.finite x))
  | floats (xs : List FiniteDouble) : Inhabits value floats (.arr (xs.map fun x => .real (.finite x)))

variable {value : String}

/-- The values of a type hold no number that is not finite. -/
theorem Inhabits.isFinite {t : HelixType} {v : Json} (h : Inhabits value t v) : v.isFinite = true := by
  cases h with
  | string | id | integer | wide | float => rfl
  | floats xs =>
    rw [show xs.map (fun x => Json.real (.finite x)) = (xs.map .finite).map .real by rw [List.map_map]; rfl]
    refine allFinite_map_real fun x hx => ?_
    obtain ⟨y, -, rfl⟩ := List.mem_map.1 hx
    rfl

/-- A finite value that a text stands for is of the type. -/
theorem inhabits_of_denotes {t : ScalarType} {u : List Char} {v : Json} (h : Denotes t u v) (hf : v.isFinite = true) :
    Inhabits value (.scalar t) v := by
  cases h with
  | integer ht h => exact .integer ht h.least h.greatest
  | wide h =>
    obtain ⟨x, hx⟩ := Binary64.exists_finite hf
    rw [← hx]
    exact .wide (Binary64.negative_of_ofRatio hx.symm)
  | float h hx =>
    obtain ⟨x, rfl⟩ := Binary64.exists_finite hx
    exact .float x

/-- **What is read is a value of the type.** -/
theorem inhabits_of_coerce {t : HelixType} {v : Json} (h : coerce value t = .ok v) : Inhabits value t v := by
  have hf := isFinite_of_coerce h
  unfold coerce at h
  split at h
  · rename_i t
    have hs := mapError_eq_ok h
    by_cases ht : t = .string ∨ t = .id
    · rcases ht with rfl | rfl
      · cases hs
        rw [String.ofList_toList]
        exact .string
      · cases hs
        rw [String.ofList_toList]
        exact .id
    · rw [not_or] at ht
      exact inhabits_of_denotes ((coerceScalar_eq_ok_iff ht.1 ht.2).1 hs) hf
  · obtain ⟨xs, hx, rfl⟩ := map_eq_ok h
    have hxs : xs ∈ Set.range (List.map Binary64.finite) := by
      rw [Set.range_list_map]
      exact fun x hm => Binary64.exists_finite (isFinite_of_mem_finiteNumbers hx x hm)
    obtain ⟨ys, rfl⟩ := hxs
    rw [List.map_map]
    exact .floats ys
  · cases h

/-- The types with values are the scalar ones and arrays of floating-point numbers. -/
theorem exists_coerce_iff {t : HelixType} : (∃ value v, coerce value t = .ok v) ↔ t.isArray = false ∨ t = floats := by
  constructor
  · rintro ⟨value, v, h⟩
    cases inhabits_of_coerce h with
    | string | id | integer | wide | float => exact Or.inl rfl
    | floats => exact Or.inr rfl
  · rintro (h | rfl)
    · cases t with
      | scalar s =>
        -- every scalar type has a value with this text
        refine ⟨"0", ?_⟩
        cases s <;> exact ⟨_, rfl⟩
      | array element => cases h
    · exact ⟨"", .arr [], rfl⟩

end HelixType

namespace Parameters

open HelixType (Inhabits coerce floats)

/-- For every text and every type: what is read is a value of the type, and what a value of a query string becomes is the text
itself or a value of its type. No number in it is infinite or undefined. Only the scalar types and arrays of floating-point
numbers have values. -/
theorem coerceQueryValue_inhabits :
    (∀ value t v, coerce value t = .ok v → Inhabits value t v) ∧
    (∀ t, (∃ value v, coerce value t = .ok v) ↔ t.isArray = false ∨ t = floats) ∧
    ∀ value type? v, coerceQueryValue value type? = .ok v →
      (v = .str value ∨ ∃ type t, type? = some type ∧ HelixType.parse type = .ok t ∧ Inhabits value t v) ∧
      v.isFinite = true := by
  refine ⟨fun value t v h => HelixType.inhabits_of_coerce h, fun t => HelixType.exists_coerce_iff, fun value type? v h => ?_⟩
  have hv : v = .str value ∨ ∃ type t, type? = some type ∧ HelixType.parse type = .ok t ∧ Inhabits value t v := by
    unfold coerceQueryValue at h
    split at h
    · cases h
      exact Or.inl rfl
    · rename_i type
      split at h
      · cases h
        exact Or.inl rfl
      · rename_i t ht
        split at h
        · rename_i w hw
          cases h
          exact Or.inr ⟨type, t, rfl, ht, HelixType.inhabits_of_coerce hw⟩
        · cases h
          exact Or.inl rfl
        · cases h
  refine ⟨hv, ?_⟩
  rcases hv with rfl | ⟨_, _, _, _, hi⟩
  · rfl
  · exact hi.isFinite

/-- An infinity that is spelled out is left out of an array, and so is a number that is too large for a double. -/
theorem inhabits_spelledInfinity :
    coerce "inf, 2, 1e999" floats = .ok (.arr [.real (.finite ⟨false, 2 ^ 52, -51, by decide⟩)]) ∧
      Inhabits "inf, 2, 1e999" floats (.arr [.real (.finite ⟨false, 2 ^ 52, -51, by decide⟩)]) := by
  have h : coerce "inf, 2, 1e999" floats = .ok (.arr [.real (.finite ⟨false, 2 ^ 52, -51, by decide⟩)]) := by
    have hx : HelixType.finiteNumbers "inf, 2, 1e999".toList = .ok [.finite ⟨false, 2 ^ 52, -51, by decide⟩] := by
      decide +kernel
    rw [floats, coerce, hx]
    rfl
  exact ⟨h, coerceQueryValue_inhabits.1 _ _ _ h⟩

end Parameters

end HelixGateway
