import HelixGateway.Proofs.HelixType.Integers

/-!
# Texts of numbers

The text of a floating-point number is a sign, which may be missing, and a literal or one of the names of the numbers that are
not finite, in capitals or not. Like the text of an integer it has no blank in it. A text is read as a value of a type of
numbers just if it is a text of that value, a line feed at its end not being looked at.

Main statements: `readFloat_eq_ok_iff`, `coerceScalar_eq_ok_iff`, `Denotes.not_isBlank`.
-/

namespace HelixGateway.HelixType

open Decimal
open Text (dropFinalNewline isBlank isDigit)

/-- The texts of a floating-point number. -/
inductive Spells : List Char → Binary64 → Prop where
  | literal {s body : List Char} {negative : Bool} {l : Literal} (hs : readSign s = (negative, body))
      (hl : literal? negative body = some l) : Spells s l.toBinary64
  | name {s body : List Char} {negative : Bool} {x : Binary64} (hs : readSign s = (negative, body))
      (hl : literal? negative body = none) (hn : namedNumber? negative body = some x) (ha : body.all Text.isAscii = true) :
      Spells s x

/-- A floating-point number is read exactly from its texts, one final line feed aside. -/
theorem readFloat_eq_ok_iff {s : List Char} {x : Binary64} : readFloat s = .ok x ↔ Spells (dropFinalNewline s) x := by
  obtain ⟨negative, body, hs⟩ : ∃ negative body, readSign (dropFinalNewline s) = (negative, body) := ⟨_, _, rfl⟩
  constructor
  · intro h
    simp only [readFloat, hs] at h
    split at h
    · rename_i l hl
      cases h
      exact .literal hs hl
    · rename_i hl
      split at h
      · cases h
      · rename_i y hn
        split at h
        · rename_i ha
          cases h
          exact .name hs hl hn ha
        · cases h
  · rintro (⟨hs', hl⟩ | ⟨hs', hl, hn, ha⟩)
    · rw [hs] at hs'
      cases hs'
      simp only [readFloat, hs, hl]
    · rw [hs] at hs'
      cases hs'
      simp only [readFloat, hs, hl, hn, ha, if_true]

/-! ## Blanks

A part that is read takes no blank with it: a blank of the text stands in what is left over. -/

section Blanks

variable {c : Char} {s : List Char}

/-- A blank stands behind the digits in front. -/
theorem mem_dropWhile_of_isBlank (hb : isBlank c = true) (hc : c ∈ s) : c ∈ s.dropWhile isDigit := by
  rw [← List.takeWhile_append_dropWhile (p := isDigit) (l := s)] at hc
  refine (List.mem_append.1 hc).resolve_left fun ht => ?_
  rw [Text.not_isBlank_of_isDigit (List.all_eq_true.1 List.all_takeWhile c ht)] at hb
  cases hb

/-- A blank stands behind a first character that is none. -/
theorem mem_of_mem_cons_of_isBlank {d : Char} (hb : isBlank c = true) (hd : isBlank d = false) (hc : c ∈ d :: s) : c ∈ s := by
  refine (List.mem_cons.1 hc).resolve_left ?_
  rintro rfl
  rw [hd] at hb
  cases hb

/-- A blank stands behind the sign. -/
theorem mem_of_readSign {negative : Bool} {r : List Char} (h : readSign s = (negative, r)) (hb : isBlank c = true)
    (hc : c ∈ s) : c ∈ r := by
  unfold readSign at h
  split at h
  · cases h
    exact mem_of_mem_cons_of_isBlank hb (by decide) hc
  · cases h
    exact mem_of_mem_cons_of_isBlank hb (by decide) hc
  · cases h
    exact hc

/-- A blank stands behind the mantissa. -/
theorem mem_of_readMantissa? {whole fraction r : List Char} (h : readMantissa? s = some (whole, fraction, r))
    (hb : isBlank c = true) (hc : c ∈ s) : c ∈ r := by
  have hd := mem_dropWhile_of_isBlank hb hc
  simp only [readMantissa?, Option.ite_none_left_eq_some] at h
  split at h
  · rename_i r' hr
    rw [hr] at hd
    cases h.2
    exact mem_dropWhile_of_isBlank hb (mem_of_mem_cons_of_isBlank hb (by decide) hd)
  · cases h.2
    exact hd

/-- A blank stands behind the exponent. -/
theorem mem_of_readExponent? {e : ℤ} {r : List Char} (h : readExponent? s = some (e, r))
    (hb : isBlank c = true) (hc : c ∈ s) : c ∈ r := by
  cases s with
  | nil => cases h
  | cons d s =>
    rw [readExponent?, Option.ite_none_right_eq_some] at h
    obtain ⟨hd, h⟩ := h
    have hm : c ∈ (readSign s).2 := by
      refine mem_of_readSign rfl hb (mem_of_mem_cons_of_isBlank hb ?_ hc)
      rcases hd with rfl | rfl <;> decide
    have hr := mem_dropWhile_of_isBlank hb hm
    simp only at h
    split at h
    · cases h
    · cases h
      exact hr

/-- There is no blank in a literal. -/
theorem not_isBlank_of_literal? {negative : Bool} {l : Literal} (h : literal? negative s = some l) (hc : c ∈ s) :
    isBlank c = false := by
  rw [← Bool.not_eq_true]
  intro hb
  unfold literal? at h
  split at h
  · cases h
  · rename_i hm
    cases mem_of_readMantissa? hm hb hc
  · rename_i hm
    split at h
    · rename_i he
      cases mem_of_readExponent? he hb (mem_of_readMantissa? hm hb hc)
    · cases h

/-- A blank stays one where a name is looked up. -/
theorem foldName_of_isBlank (hb : isBlank c = true) : foldName c = c := by
  have hn : ¬ (c.toNat = 0x130 ∨ c.toNat = 0x131) ∧ ¬ (65 ≤ c.toNat ∧ c.toNat ≤ 90) := by
    simp only [isBlank, Bool.or_eq_true, Bool.and_eq_true, decide_eq_true_eq, beq_iff_eq] at hb
    omega
  rw [foldName, if_neg hn.1]
  exact dif_neg hn.2

/-- No name of a number has a blank in it. -/
theorem not_isBlank_of_namedNumber? {negative : Bool} {x : Binary64} (h : namedNumber? negative s = some x) (hc : c ∈ s) :
    isBlank c = false := by
  rw [← Bool.not_eq_true]
  intro hb
  have hm : c ∈ s.map foldName := by
    rw [← foldName_of_isBlank hb]
    exact List.mem_map_of_mem hc
  have hnames : ∀ name ∈ ["inf".toList, "infinity".toList, "nan".toList], ∀ d ∈ name, isBlank d = false := by decide
  have hname : s.map foldName ∈ ["inf".toList, "infinity".toList, "nan".toList] := by
    simp only [namedNumber?] at h
    split at h
    · rename_i he
      rcases he with he | he <;> simp [he]
    · split at h
      · rename_i he
        simp [he]
      · cases h
  rw [hnames _ hname c hm] at hb
  cases hb

/-- There is no blank in the text of a number. -/
theorem Spells.not_isBlank {x : Binary64} (h : Spells s x) (hc : c ∈ s) : isBlank c = false := by
  rw [← Bool.not_eq_true]
  intro hb
  cases h with
  | literal hs hl =>
    rw [not_isBlank_of_literal? hl (mem_of_readSign hs hb hc)] at hb
    cases hb
  | name hs hl hn =>
    rw [not_isBlank_of_namedNumber? hn (mem_of_readSign hs hb hc)] at hb
    cases hb

end Blanks

/-! ## Types of numbers -/

/-- The texts of the values of a type of numbers. -/
inductive Denotes : ScalarType → List Char → Json → Prop where
  | integer {t : ScalarType} {range : IntegerRange} {u : List Char} {n : ℤ} (ht : t.range? = some range)
      (h : range.Holds u n) : Denotes t u (.int n)
  | wide {u : List Char} {n : ℤ} (h : (unsignedRange 128).Holds u n) : Denotes .u128 u (.real (.ofRatio false n.toNat 1))
  | float {u : List Char} {x : Binary64} (h : Spells u x) (hf : x.isFinite = true) : Denotes .f64 u (.real x)

/-- No text that stands for a value has a blank in it. -/
theorem Denotes.not_isBlank {t : ScalarType} {u : List Char} {v : Json} (h : Denotes t u v) : ∀ c ∈ u, isBlank c = false := by
  cases h with
  | integer ht h => exact h.writes.not_isBlank
  | wide h => exact h.writes.not_isBlank
  | float h => exact fun c hc => h.not_isBlank hc

variable {t : ScalarType}

/-- A floating-point type takes the texts of the finite numbers. -/
theorem coerceScalar_f64_eq_ok_iff {s : List Char} {v : Json} :
    coerceScalar s .f64 = .ok v ↔ ∃ x, readFloat s = .ok x ∧ x.isFinite = true ∧ v = .real x := by
  rw [coerceScalar]
  constructor
  · intro h
    split at h
    · cases h
    · rename_i x hx
      split at h
      · rename_i hf
        cases h
        exact ⟨x, hx, hf, rfl⟩
      · cases h
  · rintro ⟨x, hx, hf, rfl⟩
    simp only [hx, hf, if_true]

/-- Numbers are read from their texts, a line feed at the end not being looked at. -/
theorem coerceScalar_eq_ok_iff (hs : t ≠ .string) (hi : t ≠ .id) {s : List Char} {v : Json} :
    coerceScalar s t = .ok v ↔ Denotes t (dropFinalNewline s) v := by
  constructor
  · intro h
    cases hr : t.range? with
    | some range =>
      rw [coerceScalar_of_range? hr] at h
      obtain ⟨n, hn, rfl⟩ := map_eq_ok h
      exact .integer hr (readInteger_eq_ok_iff.1 hn)
    | none =>
      cases t with
      | string => exact absurd rfl hs
      | id => exact absurd rfl hi
      | u128 =>
        obtain ⟨n, hn, rfl⟩ := map_eq_ok h
        exact .wide (readInteger_eq_ok_iff.1 hn)
      | f64 =>
        obtain ⟨x, hx, hf, rfl⟩ := coerceScalar_f64_eq_ok_iff.1 h
        exact .float (readFloat_eq_ok_iff.1 hx) hf
      | i32 | i64 | u32 | u64 => cases hr
  · rintro (⟨hr, h⟩ | h | ⟨h, hf⟩)
    · rw [coerceScalar_of_range? hr, readInteger_eq_ok_iff.2 h]
      rfl
    · rw [coerceScalar, readInteger_eq_ok_iff.2 h]
      rfl
    · exact coerceScalar_f64_eq_ok_iff.2 ⟨_, readFloat_eq_ok_iff.2 h, hf, rfl⟩

end HelixGateway.HelixType
