import HelixGateway.Proofs.Decimal.Rounding

/-!
# Doubles of whole numbers

A whole number is rounded to 53 bits, and the result is a finite double unless it needs an exponent above the greatest one.
The greatest finite double is 2^1024 - 2^971, and the numbers up to half its last place above it still round down to it.

Main statement: `ofInt?_eq_none_iff`.
-/

namespace HelixGateway.Binary64

open Decimal

/-- A whole number of at most 970 bits is a finite double. -/
theorem isFinite_ofRatio_one_of_lt_two_pow {negative : Bool} {n k : Nat} (hk : k ≤ 970) (h : n < 2 ^ k) :
    (ofRatio negative n 1).isFinite = true := by
  have hn : (n : ℚ) < 2 ^ k := by exact_mod_cast h
  refine (roundsTo_ofRatio negative n Nat.one_ne_zero).isFinite_iff.2 ?_
  rw [abs_withSign, Nat.cast_one, div_one, Nat.abs_cast]
  exact hn.trans_le (two_pow_le_bound hk)

/-- A bound that is a difference of powers of two can be checked with natural numbers. -/
theorem abs_lt_sub_iff {n : Int} {p q : Nat} : |(n : ℚ)| < 2 ^ q - 2 ^ p ↔ n.natAbs + 2 ^ p < 2 ^ q := by
  rw [lt_sub_iff_add_lt, ← Int.cast_abs, ← Int.natCast_natAbs, Int.cast_natCast]
  exact_mod_cast Iff.rfl

/-- An integer that no double holds: its distance from zero is half a place above the greatest finite double, or more. -/
def IsLarge (n : Int) : Prop := 2 ^ 1024 ≤ n.natAbs + 2 ^ 970

instance (n : Int) : Decidable (IsLarge n) := inferInstanceAs (Decidable (_ ≤ _))

/-- The large integers are those without a double. -/
theorem ofInt?_eq_none_iff {n : Int} : ofInt? n = none ↔ IsLarge n := by
  rw [ofInt?]
  simp only [ite_eq_right_iff, reduceCtorEq, imp_false]
  exact (not_congr ((roundsTo_ofInt n).isFinite_iff.trans abs_lt_sub_iff)).trans Nat.not_lt

end HelixGateway.Binary64
