import HelixGateway.Proofs.Parameters.Typing
import HelixGateway.Proofs.Json.Distinct

/-!
# Values of path parameters

What typing yields can always be sent: every number in it is finite. A value of letters and digits, which a segment of a
path may be, is moreover typed without a fault, since only a text with a bracket in front is read as a JSON array.

Main statements: `merge_of_not_overflows`, `fieldsFinite_readings`, `not_overflows_of_alphanumeric`.
-/

namespace HelixGateway

/-! ## Arrays -/

namespace Json

/-- Only a text that starts with a bracket is read as an array. -/
theorem head?_of_readValue_arr {strays : List Nat} {fuel : Nat} {s r : List Char} {items : List Json} {isWellFormed : Bool}
    (h : readValue strays fuel s = .ok (⟨.arr items, isWellFormed⟩, r)) : s.head? = some '[' := by
  cases fuel with
  | zero => cases h
  | succ fuel =>
    unfold readValue at h
    split at h
    · obtain ⟨x, -, hx⟩ := map_eq_ok h
      cases hx
    · rfl
    · split at h
      · cases h
      · obtain ⟨x, -, hx⟩ := map_eq_ok h
        cases hx
    · obtain ⟨⟨v, r'⟩, hr, hx⟩ := map_eq_ok h
      cases hx
      cases isSingle_of_readScalar hr

/-- Only a text with a bracket behind its first gap is read as an array. -/
theorem head?_of_read_arr {s : List Char} {items : List Json} (h : read s = .ok (.arr items)) :
    (skipGap s).head? = some '[' := by
  obtain ⟨isWellFormed, hd⟩ := readDecoded_of_read h
  obtain ⟨r, hr⟩ := of_readDecoded_eq_ok hd
  exact head?_of_readValue_arr hr

end Json

/-! ## Finite numbers -/

namespace HelixType

/-- A value of a scalar type is no number that is not finite. -/
theorem isFinite_of_coerceScalar {s : List Char} {t : ScalarType} {v : Json} (h : coerceScalar s t = .ok v) :
    v.isFinite = true := by
  cases t with
  | string =>
    cases h
    rfl
  | id =>
    cases h
    rfl
  | f64 =>
    simp only [coerceScalar] at h
    split at h
    · cases h
    · split at h
      · rename_i hx
        cases h
        exact hx
      · cases h
  | u128 =>
    obtain ⟨n, hn, rfl⟩ := map_eq_ok h
    have hr := (inRange_of_readInteger hn).2
    have hlt : n.toNat < 2 ^ 128 := by
      simp only [unsignedRange] at hr
      omega
    exact Binary64.isFinite_ofRatio_one_of_lt_two_pow (by decide) hlt
  | i32 | i64 | u32 | u64 =>
    obtain ⟨n, -, rfl⟩ := map_eq_ok h
    rfl

/-- Doubles that are finite make values that are. -/
theorem allFinite_map_real {xs : List Binary64} (h : ∀ x ∈ xs, x.isFinite = true) :
    Json.allFinite (xs.map .real) = true := by
  induction xs with
  | nil => rfl
  | cons x xs ih =>
    rw [List.map_cons, Json.allFinite, Json.isFinite, h x (by simp), ih fun y hy => h y (List.mem_cons_of_mem _ hy)]
    rfl

/-- A value of a type holds no number that is not finite. -/
theorem isFinite_of_coerce {value : String} {t : HelixType} {v : Json} (h : coerce value t = .ok v) :
    v.isFinite = true := by
  unfold coerce at h
  split at h
  · exact isFinite_of_coerceScalar (mapError_eq_ok h)
  · obtain ⟨xs, hx, rfl⟩ := map_eq_ok h
    exact allFinite_map_real (isFinite_of_mem_finiteNumbers hx)
  · cases h

end HelixType

namespace Parameters

open HelixType (ListsLarge floats listed)

/-- What is read from a value is finite, whatever its type. -/
theorem isFinite_reading (value : String) (type? : Option String) : (reading value type?).isFinite = true := by
  unfold reading
  split
  · split
    · exact HelixType.allFinite_map_real fun x hx => (List.mem_filter.1 hx).2
    · split
      · rename_i hc
        exact HelixType.isFinite_of_coerce hc
      · rfl
  · rfl

/-- Values, each read as its type says. -/
def readings (values : OrdMap String) (catalogue : OrdMap String) : Entries Json :=
  values.entries.map fun e => (e.1, reading e.2 (catalogue.get? e.1))

theorem keys_readings (values catalogue : OrdMap String) : Entries.keys (readings values catalogue) = values.keys := by
  rw [readings, Entries.keys, List.map_map]
  rfl

/-- All that is read from values is finite. -/
theorem fieldsFinite_readings (values catalogue : OrdMap String) : Json.fieldsFinite (readings values catalogue) = true := by
  unfold readings
  induction values.entries with
  | nil => rfl
  | cons e es ih =>
    rw [List.map_cons, Json.fieldsFinite, isFinite_reading, ih]
    rfl

/-- The parameters of a request are its values, each read as its type says, if nothing comes with them. -/
theorem merge_of_not_overflows {values catalogue : OrdMap String}
    (h : ∀ e ∈ values.entries, ¬ Overflows e.2 (catalogue.get? e.1)) :
    merge values none catalogue = .ok (readings values catalogue) := by
  have hu : undecided (ofBody none) values = values.entries := List.filter_eq_self.2 fun e _ => rfl
  rw [merge, hu, typed_of_not_overflows h]
  rfl

/-! ## Letters and digits -/

/-- A text of letters and digits that is not empty; any character beyond ASCII passes for a letter. -/
structure Alphanumeric (s : String) : Prop where
  nonempty : s.toList ≠ []
  chars : ∀ c ∈ s.toList, c.isAlphanum = true ∨ Text.isAscii c = false

/-- A text of letters and digits holds no other ASCII character. -/
theorem Alphanumeric.not_mem {s : String} (h : Alphanumeric s) {c : Char} (ha : c.isAlphanum = false)
    (hs : Text.isAscii c = true) : c ∉ s.toList := by
  intro hm
  rcases h.chars c hm with hc | hc
  · rw [ha] at hc
    cases hc
  · rw [hs] at hc
    cases hc

/-- Letters and digits are no JSON array. -/
theorem not_listsLarge_of_alphanumeric {s : String} (h : Alphanumeric s) : ¬ ListsLarge s.toList := by
  rintro ⟨items, n, hr, -, -⟩
  have hd := Json.head?_of_read_arr hr
  have hm : '[' ∈ Json.skipGap s.toList := List.mem_of_head? hd
  exact h.not_mem (by decide) (by decide) ((List.dropWhile_sublist _).subset hm)

theorem not_overflows_of_alphanumeric {s : String} (h : Alphanumeric s) (type? : Option String) : ¬ Overflows s type? :=
  fun ho => not_listsLarge_of_alphanumeric h ho.2

end Parameters

end HelixGateway
