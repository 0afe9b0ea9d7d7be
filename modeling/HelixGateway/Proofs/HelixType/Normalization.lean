import HelixGateway.HelixType.Alias
import HelixGateway.Proofs.Parameters.Typing

/-!
# Normalized names of types

A name of a type is normalized at most once: the text of a type stands for that type and is no alias, at whatever depth its
arrays are nested, and a name that stands for no type is left alone. So a listed name says of a value what the declared one
does, unless the declared one is an alias, which is no type until it is normalized.

Main statement: `normalize_settles`.
-/

namespace HelixGateway.HelixType

open Parameters (coerceQueryValue)

variable {name : String} {t : HelixType}

/-- A name stands for a type: it is written as one, or it is an alias of a text that is. -/
def StandsFor (name : String) (t : HelixType) : Prop := parse (resolveAlias name) = .ok t

theorem resolveAlias_of_not_alias (ha : aliases.get? name = none) : resolveAlias name = name := by
  rw [resolveAlias, ha]
  rfl

/-- The text of a type is no alias, because no alias is read as a type. -/
theorem get?_aliases_text (t : HelixType) : aliases.get? t.text = none := by
  cases ha : aliases.get? t.text with
  | none => rfl
  | some u =>
    have hp := parse_of_alias ha
    rw [parse_text] at hp
    cases hp

/-- The text of a type is normalized already. -/
theorem normalize_text (t : HelixType) : normalize t.text = t.text := normalize_of_parse (get?_aliases_text t) (parse_text t)

/-- A name is normalized to the text of the type it stands for. -/
theorem normalize_of_standsFor (h : StandsFor name t) : normalize name = t.text := by
  have hp : parse (resolveAlias name) = .ok t := h
  rw [normalize, hp]

/-- A name that stands for no type is neither a type nor an alias. -/
theorem refused_of_not_standsFor (h : ∀ t, ¬ StandsFor name t) :
    aliases.get? name = none ∧ (∃ e, parse name = .error e) ∧ normalize name = name := by
  have ha : aliases.get? name = none := by
    cases ha : aliases.get? name with
    | none => rfl
    | some u =>
      obtain ⟨t, rfl⟩ := eq_text_of_alias ha
      have hs : StandsFor name t := by
        rw [StandsFor, resolveAlias, ha]
        exact parse_text t
      exact absurd hs (h t)
  cases hp : parse name with
  | ok t =>
    have hs : StandsFor name t := by rw [StandsFor, resolveAlias_of_not_alias ha, hp]
    exact absurd hs (h t)
  | error e =>
    refine ⟨ha, ⟨e, rfl⟩, ?_⟩
    rw [normalize, resolveAlias_of_not_alias ha, hp]

/-- Normalizing a second time changes nothing. -/
theorem normalize_normalize (name : String) : normalize (normalize name) = normalize name := by
  by_cases h : ∃ t, StandsFor name t
  · obtain ⟨t, ht⟩ := h
    rw [normalize_of_standsFor ht, normalize_text]
  · obtain ⟨-, -, hn⟩ := refused_of_not_standsFor (not_exists.1 h)
    rw [hn, hn]

/-- For every name of a type:

1. Normalizing it a second time changes nothing.
2. It is normalized to the text of the type it stands for, which is read as that type; or it stands for none, is neither a
   type nor an alias, and is left alone.
3. Unless it is an alias, every value is read, or refused as a fault, under the normalized name as under the name itself. -/
theorem normalize_settles (name : String) :
    normalize (normalize name) = normalize name ∧
    ((∃ t, StandsFor name t ∧ normalize name = t.text ∧ parse (normalize name) = .ok t) ∨
      (aliases.get? name = none ∧ (∃ e, parse name = .error e) ∧ normalize name = name)) ∧
    (aliases.get? name = none →
      ∀ value, coerceQueryValue value (some (normalize name)) = coerceQueryValue value (some name)) := by
  refine ⟨normalize_normalize name, ?_, fun ha value => ?_⟩
  · by_cases h : ∃ t, StandsFor name t
    · obtain ⟨t, ht⟩ := h
      have hn := normalize_of_standsFor ht
      exact .inl ⟨t, ht, hn, by rw [hn, parse_text]⟩
    · exact .inr (refused_of_not_standsFor (not_exists.1 h))
  · exact Parameters.coerceQueryValue_congr (parse_normalize ha)

/-- An array in an array, both written with their names, and an alias. -/
theorem normalize_settles_nested :
    aliases.get? "Array(Array(F64))" = none ∧ normalize "Array(Array(F64))" = "[[F64]]" ∧
      normalize "Vec<f64>" = "[F64]" ∧
      ∀ value, coerceQueryValue value (some "[[F64]]") = coerceQueryValue value (some "Array(Array(F64))") := by
  have hn : normalize "Array(Array(F64))" = "[[F64]]" := by decide +kernel
  obtain ⟨-, -, h⟩ := normalize_settles "Array(Array(F64))"
  rw [hn] at h
  exact ⟨by decide, hn, by decide +kernel, h (by decide)⟩

end HelixGateway.HelixType
