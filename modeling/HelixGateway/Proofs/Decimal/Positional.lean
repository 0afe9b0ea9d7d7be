import HelixGateway.Decimal.Literal
import HelixGateway.Text.Blank
import Mathlib.Data.List.Induction
import Mathlib.Data.Nat.Digits.Defs

/-!
# What digits stand for

A digit counts for itself times a power of ten, which its distance from the end of the number gives. Reading the digits from
the front, each one making ten of what stands before it, comes to the same number, and the decimal digits of a number stand for
it. At the start of a text they are taken off as far as they reach.

An integer is printed as its decimal digits, behind a minus sign if it is negative. Different integers have different texts.

Main statements: `digitsValue_eq_placeValue`, `placeValue_toDigits`, `toList_toString`, `toString_injective`.
-/

namespace HelixGateway.Decimal

open Text (isDigit digitValue)

/-- Decimal digits, at least one. -/
structure IsDigits (ds : List Char) : Prop where
  nonempty : ds ≠ []
  digits : ∀ c ∈ ds, '0' ≤ c ∧ c ≤ '9'

/-- The number that decimal digits stand for by their places: the last one counts once, the one before it ten times, and so
on. -/
def placeValue (ds : List Char) : Nat := Nat.ofDigits 10 (ds.map digitValue).reverse

theorem isDigit_iff {c : Char} : isDigit c = true ↔ '0' ≤ c ∧ c ≤ '9' := by
  rw [isDigit, Char.isDigit, Bool.and_eq_true, decide_eq_true_eq, decide_eq_true_eq]
  rfl

/-- Whether a text is made of digits can be decided. -/
theorem isDigits_iff {ds : List Char} : IsDigits ds ↔ ds.isEmpty = false ∧ ds.all isDigit = true := by
  rw [List.isEmpty_eq_false_iff, List.all_eq_true]
  constructor
  · intro h
    exact ⟨h.nonempty, fun c hc => isDigit_iff.2 (h.digits c hc)⟩
  · intro h
    exact ⟨h.1, fun c hc => isDigit_iff.1 (h.2 c hc)⟩

theorem IsDigits.isDigit {ds : List Char} (h : IsDigits ds) : ∀ c ∈ ds, isDigit c = true :=
  fun c hc => isDigit_iff.2 (h.digits c hc)

theorem IsDigits.ne {ds : List Char} (h : IsDigits ds) {c : Char} (hc : Text.isDigit c = false) : ∀ x ∈ ds, x ≠ c := by
  rintro x hx rfl
  rw [h.isDigit x hx] at hc
  cases hc

/-! ## Digits at the start of a text -/

section Start

variable {ds r : List Char}

/-- The digits at the start of a text end where no digit follows. -/
theorem takeWhile_digits (h : IsDigits ds) (hr : ∀ c ∈ r.head?, isDigit c = false) : (ds ++ r).takeWhile isDigit = ds := by
  rw [List.takeWhile_append_of_pos h.isDigit]
  cases r with
  | nil => simp
  | cons c r => rw [List.takeWhile_cons_of_neg (by simp [hr c rfl]), List.append_nil]

/-- What follows the digits is what is left when they are dropped. -/
theorem dropWhile_digits (h : IsDigits ds) (hr : ∀ c ∈ r.head?, isDigit c = false) : (ds ++ r).dropWhile isDigit = r := by
  rw [List.dropWhile_append_of_pos h.isDigit, Text.dropWhile_eq_self_iff]
  exact hr

/-- A digit is no sign. -/
theorem readSign_digits (h : IsDigits ds) (r : List Char) : readSign (ds ++ r) = (false, ds ++ r) := by
  cases ds with
  | nil => exact absurd rfl h.nonempty
  | cons c ds =>
    have hc := h.digits c List.mem_cons_self
    unfold readSign
    split
    · rename_i he
      cases he
      exact absurd hc (by decide)
    · rename_i he
      cases he
      exact absurd hc (by decide)
    · rfl

end Start

/-! ## Places -/

/-- A further digit counts once and all before it ten times. -/
theorem digitsValue_append_singleton (ds : List Char) (c : Char) :
    digitsValue (ds ++ [c]) = digitsValue ds * 10 + digitValue c := by
  rw [digitsValue, List.foldl_append]
  rfl

/-- Reading digits from the front adds up what they count for by their places. -/
theorem digitsValue_eq_placeValue (ds : List Char) : digitsValue ds = placeValue ds := by
  induction ds using List.reverseRecOn with
  | nil => rfl
  | append_singleton ds c ih =>
    rw [digitsValue_append_singleton, ih, placeValue, placeValue, List.map_append, List.reverse_append]
    show _ = Nat.ofDigits 10 (digitValue c :: (ds.map digitValue).reverse)
    rw [Nat.ofDigits_cons]
    omega

/-! ## The digits of a number -/

/-- The character of a digit has its value. -/
theorem digitValue_digitChar {d : Nat} (h : d < 10) : digitValue d.digitChar = d := by
  rw [digitValue, Nat.toNat_digitChar_of_lt_ten h]
  show 48 + d - 48 = d
  omega

/-- A number is what its decimal digits stand for. -/
theorem placeValue_toDigits (n : Nat) : placeValue (Nat.toDigits 10 n) = n := by
  rw [← digitsValue_eq_placeValue]
  induction n using Nat.strong_induction_on with
  | _ n ih =>
    by_cases h : n < 10
    · rw [Nat.toDigits_of_lt_base h]
      show 0 * 10 + digitValue n.digitChar = n
      rw [digitValue_digitChar h]
      omega
    · rw [Nat.toDigits_of_base_le (by decide) (Nat.le_of_not_lt h), digitsValue_append_singleton, ih (n / 10) (by omega),
        digitValue_digitChar (Nat.mod_lt _ (by decide))]
      omega

/-- A number is written with digits. -/
theorem isDigits_toDigits (n : Nat) : IsDigits (Nat.toDigits 10 n) :=
  ⟨List.length_pos_iff.1 Nat.length_toDigits_pos, fun _ hc =>
    isDigit_iff.1 (Nat.isDigit_of_mem_toDigits (by decide) (by decide) hc)⟩

/-! ## The text of an integer -/

/-- An integer is written with a minus sign, if it is negative, and then its digits. -/
theorem toList_toString (n : ℤ) :
    (toString n).toList = (if n < 0 then ['-'] else []) ++ Nat.toDigits 10 n.natAbs := by
  cases n with
  | ofNat k =>
    have h : ¬Int.ofNat k < 0 := Int.not_lt.2 (Int.natCast_nonneg k)
    rw [if_neg h]
    exact Nat.toList_repr
  | negSucc k =>
    rw [if_pos (Int.negSucc_lt_zero k)]
    show ("-" ++ (k + 1).repr).toList = _
    rw [String.toList_append, Nat.toList_repr]
    rfl

/-- In front of an integer that is written out, its sign is read. -/
theorem readSign_toString (n : ℤ) : readSign (toString n).toList = (decide (n < 0), Nat.toDigits 10 n.natAbs) := by
  rw [toList_toString]
  by_cases h : n < 0
  · simp [h, readSign]
  · have hd := readSign_digits (isDigits_toDigits n.natAbs) []
    rw [List.append_nil] at hd
    simp [h, hd]

theorem signed_natAbs (n : ℤ) : signed (decide (n < 0)) n.natAbs = n := by
  unfold signed
  by_cases h : n < 0
  · rw [if_pos (decide_eq_true h)]
    omega
  · rw [if_neg (by simpa using h)]
    omega

/-- Integers with the same text are the same. -/
theorem toString_injective : Function.Injective (toString : ℤ → String) := by
  -- sign and digits are read back
  refine Function.LeftInverse.injective (g := fun s =>
    signed (readSign s.toList).1 (placeValue (readSign s.toList).2)) fun n => ?_
  show signed (readSign (toString n).toList).1 (placeValue (readSign (toString n).toList).2) = n
  rw [readSign_toString, placeValue_toDigits, signed_natAbs]

end HelixGateway.Decimal
