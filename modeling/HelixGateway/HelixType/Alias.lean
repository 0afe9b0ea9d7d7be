import HelixGateway.HelixType
import HelixGateway.OrdMap

/-!
# Names of types as queries declare them

A query may spell a type in lower case or in the style of other languages. `normalize` gives the text of the type that a
name stands for, and leaves a name alone that stands for none.

Main statements: `parse_normalize`, `normalize_of_alias`.
-/

namespace HelixGateway.HelixType

/-- Other spellings of types. -/
def aliases : Entries String := [
  ("string", "String"), ("str", "String"), ("i32", "I32"), ("i64", "I64"), ("u32", "U32"), ("u64", "U64"),
  ("u128", "U128"), ("f64", "F64"), ("id", "ID"), ("Vec<f64>", "[F64]"), ("Array<F64>", "[F64]")]

/-- The spelling that an alias stands for; another name stands for itself. -/
def resolveAlias (name : String) : String := (aliases.get? name).getD name

/-- The text of the type that a name stands for. -/
def normalize (name : String) : String :=
  match parse (resolveAlias name) with
  | .ok t => t.text
  | .error _ => resolveAlias name

/-- A text that is a type and no alias is normalized to the text of that type. -/
theorem normalize_of_parse {s : String} {t : HelixType} (ha : aliases.get? s = none) (h : parse s = .ok t) :
    normalize s = t.text := by
  rw [normalize, resolveAlias, ha]
  simp [h]

/-- What is no alias is read as the same type, or refused as before, once it is normalized. -/
theorem parse_normalize {s : String} (ha : aliases.get? s = none) : parse (normalize s) = parse s := by
  cases h : parse s with
  | ok t => rw [normalize_of_parse ha h, parse_text]
  | error e =>
    rw [normalize, resolveAlias, ha]
    simp [h]

/-- An alias of a type is normalized to the text of the type. -/
theorem normalize_of_alias {s : String} {t : HelixType} (ha : aliases.get? s = some t.text) : normalize s = t.text := by
  rw [normalize, resolveAlias, ha]
  simp [parse_text]

/-- Every alias stands for a type. -/
theorem eq_text_of_alias {s u : String} (ha : aliases.get? s = some u) : ∃ t : HelixType, u = t.text := by
  have h : ∀ e ∈ aliases, ∃ t ∈ .array (.scalar .f64) :: ScalarType.all.map .scalar, e.2 = HelixType.text t := by decide
  obtain ⟨t, -, ht⟩ := h _ (Entries.mem_of_get?_eq_some ha)
  exact ⟨t, ht⟩

/-- No alias is a type as it is written. -/
theorem parse_of_alias {s u : String} (ha : aliases.get? s = some u) : parse s = .error ⟨s⟩ := by
  have h : ∀ e ∈ aliases, ScalarType.ofName? e.1.toList = none ∧ element? e.1.toList = none := by decide
  obtain ⟨hn, he⟩ := h _ (Entries.mem_of_get?_eq_some ha)
  rw [parse, parseChars_of_none hn he, String.ofList_toList]

end HelixGateway.HelixType
