import HelixGateway.Decimal.Literal
import Mathlib.Algebra.Order.Field.Power
import Mathlib.Algebra.Order.Ring.Rat
import Mathlib.Tactic.Linarith
import Mathlib.Tactic.NormNum
import Mathlib.Tactic.Positivity
import Mathlib.Tactic.Ring

/-!
# The nearest double

A finite double is a number, and different doubles are different numbers but for the two zeros. A number is rounded to the
double that no other one is nearer to, and to the one with the even mantissa if two are equally near. That makes one double of
it: between two even ones there is always an odd one, which is nearer than both to what lies half-way. Numbers that are half a
place or more beyond the greatest finite double are infinite.

Main statements: `value_eq_value_iff`, `IsNearest.unique`.
-/

namespace HelixGateway

open Decimal

namespace Decimal

/-- A number with a sign. -/
def withSign (negative : Bool) (q : ℚ) : ℚ := if negative then -q else q

/-- As rationals, the two ways to give a number its sign agree. -/
theorem cast_signed (negative : Bool) (n : ℕ) : (signed negative n : ℚ) = withSign negative n := by
  cases negative with
  | false => rfl
  | true => exact Int.cast_neg (n : ℤ)

theorem abs_withSign (negative : Bool) (q : ℚ) : |withSign negative q| = |q| := by
  cases negative with
  | false => rfl
  | true => exact abs_neg q

theorem abs_signed (negative : Bool) (n : ℕ) : |signed negative n| = n := by
  cases negative with
  | false => exact Nat.abs_cast n
  | true => exact (abs_neg (n : ℤ)).trans (Nat.abs_cast n)

theorem withSign_mul (negative : Bool) (p q : ℚ) : withSign negative p * q = withSign negative (p * q) := by
  cases negative with
  | false => rfl
  | true => exact neg_mul p q

theorem withSign_not (negative : Bool) (q : ℚ) : withSign (!negative) q = -withSign negative q := by
  cases negative with
  | false => rfl
  | true => exact (neg_neg q).symm

end Decimal

namespace FiniteDouble

/-- The number that a finite double is. -/
def value (x : FiniteDouble) : ℚ := withSign x.negative (x.mantissa * 2 ^ x.exponent)

/-- No double is nearer to a number, and of two that are equally near this is the one with the even mantissa. -/
structure IsNearest (x : FiniteDouble) (q : ℚ) : Prop where
  nearest : ∀ y : FiniteDouble, |x.value - q| ≤ |y.value - q|
  even : ∀ y : FiniteDouble, y.value ≠ x.value → |y.value - q| = |x.value - q| → x.mantissa % 2 = 0

/-- The double with the other sign. -/
def opposite (x : FiniteDouble) : FiniteDouble := ⟨!x.negative, x.mantissa, x.exponent, x.normal⟩

theorem value_opposite (x : FiniteDouble) : x.opposite.value = -x.value := withSign_not _ _

/-- Its mantissa and exponent say how far a double is from zero. -/
theorem abs_value (x : FiniteDouble) : |x.value| = x.mantissa * 2 ^ x.exponent := by
  rw [value, abs_withSign]
  exact abs_of_nonneg (by positivity)

/-- A double is zero exactly if its mantissa is. -/
theorem value_eq_zero_iff {x : FiniteDouble} : x.value = 0 ↔ x.mantissa = 0 := by
  rw [← abs_eq_zero, abs_value, mul_eq_zero, Nat.cast_eq_zero, or_iff_left (zpow_ne_zero _ (by norm_num))]

/-! ## Doubles in order -/

/-- Below an exponent, mantissas of 53 bits do not reach the numbers that have them at that exponent. -/
theorem lt_of_exponent_lt {k : ℕ} {e f : ℤ} (hk : k < 2 ^ 53) (hf : f < e) : (k * 2 ^ f : ℚ) < 2 ^ 52 * 2 ^ e := by
  have hk' : (k : ℚ) < 2 ^ 53 := by exact_mod_cast hk
  calc (k * 2 ^ f : ℚ) < 2 ^ 53 * 2 ^ f := by gcongr
    _ ≤ 2 ^ 53 * 2 ^ (e - 1) := by
      gcongr
      · norm_num
      · omega
    _ = 2 ^ 52 * 2 ^ e := by
      rw [zpow_sub_one₀ (by norm_num)]
      ring

/-- A double that is nearer to zero has no greater exponent. -/
theorem exponent_le_of_le {x y : FiniteDouble} (h : |x.value| ≤ |y.value|) : x.exponent ≤ y.exponent := by
  by_contra hlt
  have hlt' : y.exponent < x.exponent := by omega
  have hx : (2 ^ 52 : ℚ) ≤ x.mantissa := by
    have hy := y.normal.2.1
    exact_mod_cast x.normal.2.2.2.resolve_right (by omega)
  rw [abs_value, abs_value] at h
  have hle : (2 ^ 52 : ℚ) * 2 ^ x.exponent ≤ x.mantissa * 2 ^ x.exponent := by gcongr
  exact absurd (hle.trans h) (not_le.2 (lt_of_exponent_lt y.normal.1 hlt'))

/-- Two doubles are the same number only if they are the same double or both are zero. -/
theorem value_eq_value_iff {x y : FiniteDouble} : x.value = y.value ↔ x = y ∨ (x.mantissa = 0 ∧ y.mantissa = 0) := by
  constructor
  · intro h
    by_cases h0 : x.value = 0
    · exact Or.inr ⟨value_eq_zero_iff.1 h0, value_eq_zero_iff.1 (h ▸ h0)⟩
    · have habs := congrArg abs h
      have he : x.exponent = y.exponent := le_antisymm (exponent_le_of_le habs.le) (exponent_le_of_le habs.ge)
      have hm : x.mantissa = y.mantissa := by
        rw [abs_value, abs_value, he] at habs
        exact_mod_cast mul_right_cancel₀ (zpow_ne_zero _ (by norm_num)) habs
      have hs : x.negative = y.negative := by
        by_contra hne
        have hopposite : x.value = -y.value := by rw [value, value, he, hm, Bool.eq_not.2 hne, withSign_not]
        exact h0 (by linarith)
      cases x
      cases y
      cases hs
      cases hm
      cases he
      exact Or.inl rfl
  · rintro (rfl | ⟨hx, hy⟩)
    · rfl
    · rw [value_eq_zero_iff.2 hx, value_eq_zero_iff.2 hy]

/-- Between two doubles of even mantissa that are not negative there is a third. -/
theorem exists_between_of_nonneg {x y : FiniteDouble} (h0 : 0 ≤ x.value) (h : x.value < y.value)
    (hx : x.mantissa % 2 = 0) (hy : y.mantissa % 2 = 0) :
    ∃ z : FiniteDouble, x.value < z.value ∧ z.value < y.value := by
  have hxv : x.value = x.mantissa * 2 ^ x.exponent := by rw [← abs_value, abs_of_nonneg h0]
  have hyv : y.value = y.mantissa * 2 ^ y.exponent := by rw [← abs_value, abs_of_nonneg (h0.trans h.le)]
  have hle : |x.value| ≤ |y.value| := by
    rw [abs_of_nonneg h0, abs_of_nonneg (h0.trans h.le)]
    exact h.le
  obtain ⟨n, hn⟩ := Int.eq_ofNat_of_zero_le (sub_nonneg.2 (exponent_le_of_le hle))
  have hp : (0 : ℚ) < 2 ^ x.exponent := by positivity
  have hyn : y.value = (y.mantissa * 2 ^ n : ℕ) * 2 ^ x.exponent := by
    rw [hyv, show y.exponent = n + x.exponent by omega, zpow_add₀ (by norm_num), zpow_natCast]
    push_cast
    ring
  -- the next mantissa is odd, so it has no more bits, and the other double, even in these units, lies beyond it
  have hnext : x.mantissa + 1 < y.mantissa * 2 ^ n := by
    rw [hxv, hyn] at h
    have hlt : x.mantissa < y.mantissa * 2 ^ n := by exact_mod_cast lt_of_mul_lt_mul_right h hp.le
    have heven : y.mantissa * 2 ^ n % 2 = 0 := by rw [Nat.mul_mod, hy, Nat.zero_mul, Nat.zero_mod]
    omega
  have hnormal : IsNormalForm (x.mantissa + 1) x.exponent := by
    have := x.normal
    rw [IsNormalForm] at *
    omega
  have hz : value ⟨false, x.mantissa + 1, x.exponent, hnormal⟩ = (x.mantissa + 1 : ℕ) * 2 ^ x.exponent := rfl
  refine ⟨⟨false, x.mantissa + 1, x.exponent, hnormal⟩, ?_, ?_⟩
  · rw [hz, hxv]
    gcongr
    exact Nat.lt_succ_self _
  · rw [hz, hyn]
    gcongr

/-- Between two different doubles with even mantissas there is another one. -/
theorem exists_between_of_even {x y : FiniteDouble} (h : x.value < y.value) (hx : x.mantissa % 2 = 0)
    (hy : y.mantissa % 2 = 0) : ∃ z : FiniteDouble, x.value < z.value ∧ z.value < y.value := by
  rcases le_or_gt 0 x.value with h0 | h0
  · exact exists_between_of_nonneg h0 h hx hy
  rcases le_or_gt y.value 0 with h1 | h1
  · obtain ⟨z, hz1, hz2⟩ := exists_between_of_nonneg (x := y.opposite) (y := x.opposite)
      (by rw [value_opposite]; linarith) (by rw [value_opposite, value_opposite]; linarith) hy hx
    rw [value_opposite] at hz1 hz2
    exact ⟨z.opposite, by rw [value_opposite]; linarith, by rw [value_opposite]; linarith⟩
  · have hz : value ⟨false, 0, -1074, by decide⟩ = 0 := value_eq_zero_iff.2 rfl
    exact ⟨_, by rw [hz]; exact h0, by rw [hz]; exact h1⟩

/-- Of two doubles of even mantissa that are equally near to a number, neither is below the other. -/
theorem IsNearest.not_lt {x y : FiniteDouble} {q : ℚ} (hx : x.IsNearest q) (hd : |x.value - q| = |y.value - q|)
    (hxe : x.mantissa % 2 = 0) (hye : y.mantissa % 2 = 0) : ¬ x.value < y.value := by
  intro hlt
  obtain ⟨z, hz1, hz2⟩ := exists_between_of_even hlt hxe hye
  have hz := hx.nearest z
  rcases abs_eq_abs.1 hd with h | h
  · linarith
  · -- the number is half-way between the two
    rw [abs_of_nonpos (by linarith)] at hz
    have hnearer : |z.value - q| < -(x.value - q) := abs_lt.2 ⟨by linarith, by linarith⟩
    linarith

/-- A number has no two nearest doubles. -/
theorem IsNearest.unique {x y : FiniteDouble} {q : ℚ} (hx : x.IsNearest q) (hy : y.IsNearest q) : x.value = y.value := by
  by_contra hne
  have hd : |x.value - q| = |y.value - q| := le_antisymm (hx.nearest y) (hy.nearest x)
  have hxe := hx.even y (Ne.symm hne) hd.symm
  have hye := hy.even x hne hd
  rcases lt_or_gt_of_ne hne with h | h
  · exact hx.not_lt hd hxe hye h
  · exact hy.not_lt hd.symm hye hxe h

end FiniteDouble

namespace Binary64

/-- What is finite is a finite double. -/
theorem exists_finite {x : Binary64} (h : x.isFinite = true) : ∃ y : FiniteDouble, .finite y = x := by
  cases x with
  | finite y => exact ⟨y, rfl⟩
  | infinite negative => cases h
  | undefined => cases h

/-- What a number is as a double: the nearest one, or an infinity from half a place above the greatest finite double on. -/
inductive RoundsTo (q : ℚ) : Binary64 → Prop where
  | finite {x : FiniteDouble} (hq : |q| < 2 ^ 1024 - 2 ^ 970) (hx : x.IsNearest q) : RoundsTo q (.finite x)
  | infinite {negative : Bool} (hq : 2 ^ 1024 - 2 ^ 970 ≤ |q|) (hs : negative = decide (q < 0)) :
      RoundsTo q (.infinite negative)

/-- A number is a finite double exactly if it is less than half a place above the greatest of them. -/
theorem RoundsTo.isFinite_iff {q : ℚ} {x : Binary64} (h : RoundsTo q x) :
    x.isFinite = true ↔ |q| < 2 ^ 1024 - 2 ^ 970 := by
  cases h with
  | finite hq => exact ⟨fun _ => hq, fun _ => rfl⟩
  | infinite hq => exact ⟨nofun, fun hlt => absurd hlt (not_lt.2 hq)⟩

/-- The finite double that a number is rounded to is the nearest one. -/
theorem RoundsTo.isNearest {q : ℚ} {x : FiniteDouble} (h : RoundsTo q (.finite x)) : x.IsNearest q := by
  cases h with
  | finite _ hx => exact hx

end Binary64

end HelixGateway
