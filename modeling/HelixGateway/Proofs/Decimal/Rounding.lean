import HelixGateway.Proofs.Decimal.LastPlace
import HelixGateway.Proofs.Decimal.Nearest
import HelixGateway.Proofs.Decimal.Positional

/-!
# Numbers become the nearest doubles

Quotients, integers and decimal literals are all rounded correctly, to the nearest double or to an infinity. The sign plays no
part in it, and neither do the bounds beyond which powers of ten are not computed: what lies above them is infinite anyway,
and what lies below them is zero.

Main statements: `roundsTo_ofRatio`, `roundsTo_ofInt`, `roundsTo_toBinary64`.
-/

namespace HelixGateway

open Decimal

namespace Binary64

/-- The double of a rounded number, if it is finite. -/
theorem ofParts_cases {q : ℚ} {m : ℕ} {e : ℤ} (h : Rounded q m e) (negative : Bool) :
    ((971 < e ∨ (e = 971 ∧ m = 2 ^ 53)) ∧ ofParts negative m e = .infinite negative) ∨
      (¬ (971 < e ∨ (e = 971 ∧ m = 2 ^ 53)) ∧ ∃ x : FiniteDouble, ofParts negative m e = .finite x ∧
        x.negative = negative ∧ (x.mantissa * 2 ^ x.exponent : ℚ) = m * 2 ^ e ∧ (m % 2 = 0 → x.mantissa % 2 = 0)) := by
  have hle := h.mantissa_le
  have hge := h.le_mantissa
  have hleast := h.least
  by_cases hm : m = 2 ^ 53
  · subst hm
    by_cases he : IsNormalForm (2 ^ 52) (e + 1)
    · refine Or.inr ⟨?_, ⟨negative, 2 ^ 52, e + 1, he⟩, ?_, rfl, ?_, fun _ => show 2 ^ 52 % 2 = 0 by decide⟩
      · have := he.2.2.1
        omega
      · rw [ofParts]
        simp only [if_true, dif_pos he]
      · rw [zpow_add_one₀ (by norm_num)]
        push_cast
        ring
    · refine Or.inl ⟨?_, ?_⟩
      · rw [IsNormalForm] at he
        omega
      · rw [ofParts]
        simp only [if_true, dif_neg he]
  · by_cases he : IsNormalForm m e
    · refine Or.inr ⟨?_, ⟨negative, m, e, he⟩, isFinite_ofParts he, rfl, rfl, id⟩
      have := he.2.2.1
      omega
    · refine Or.inl ⟨?_, ?_⟩
      · rw [IsNormalForm] at he
        omega
      · rw [ofParts]
        simp only [if_neg hm, dif_neg he]

/-- A double with the value of a rounding is the nearest one, if it is even where the rounding is. -/
theorem isNearest_of_rounded {q : ℚ} {m : ℕ} {e : ℤ} (h : Rounded q m e) {x : FiniteDouble}
    (hx : (x.mantissa * 2 ^ x.exponent : ℚ) = m * 2 ^ e) (heven : m % 2 = 0 → x.mantissa % 2 = 0) :
    x.IsNearest (withSign x.negative q) := by
  have hv : x.value = withSign x.negative (m * 2 ^ e) := by rw [FiniteDouble.value, hx]
  -- the other double, taken with the sign of this one, is a whole number of units of its own last place
  have hy : ∀ y : FiniteDouble, ∃ k : ℤ, |k| < 2 ^ 53 ∧ y.value = withSign x.negative (k * 2 ^ y.exponent) := by
    intro y
    refine ⟨signed (x.negative != y.negative) y.mantissa, ?_, ?_⟩
    · rw [abs_signed]
      exact_mod_cast y.normal.1
    · rw [cast_signed, withSign_mul, FiniteDouble.value]
      cases x.negative with
      | false =>
        rw [Bool.false_bne]
        rfl
      | true =>
        rw [Bool.true_bne, withSign_not]
        exact (neg_neg _).symm
  have hdist : ∀ a : ℚ, |withSign x.negative a - withSign x.negative q| = |a - q| := by
    intro a
    cases x.negative with
    | false => rfl
    | true => rw [abs_sub_comm a q]; exact congrArg abs (neg_sub_neg a q)
  refine ⟨fun y => ?_, fun y hne heq => heven ?_⟩
  · obtain ⟨k, hk, hyv⟩ := hy y
    rw [hv, hyv, hdist, hdist]
    exact (h.nearest hk y.normal.2.1).1
  · obtain ⟨k, hk, hyv⟩ := hy y
    rw [hv, hyv] at hne
    rw [hv, hyv, hdist, hdist] at heq
    exact (h.nearest hk y.normal.2.1).2 (fun he => hne (congrArg _ he)) heq

/-! ## Quotients and integers -/

/-- Numbers of at most half the least positive double are zero. -/
theorem isNearest_zero {q : ℚ} (hq : |q| ≤ 2 ^ (-1075 : ℤ)) (negative : Bool) :
    FiniteDouble.IsNearest ⟨negative, 0, -1074, by decide⟩ q := by
  have h0 : FiniteDouble.value ⟨negative, 0, -1074, by decide⟩ = 0 := FiniteDouble.value_eq_zero_iff.2 rfl
  refine ⟨fun y => ?_, fun _ _ _ => rfl⟩
  rw [h0, zero_sub, abs_neg]
  by_cases hy : y.value = 0
  · rw [hy, zero_sub, abs_neg]
  · have hm : (1 : ℚ) ≤ y.mantissa := by
      have := Nat.one_le_iff_ne_zero.2 (mt FiniteDouble.value_eq_zero_iff.2 hy)
      exact_mod_cast this
    have hleast : 2 * 2 ^ (-1075 : ℤ) ≤ |y.value| := by
      calc (2 : ℚ) * 2 ^ (-1075 : ℤ) = 2 ^ (-1074 : ℤ) := by
            rw [← zpow_one_add₀ (by norm_num)]
            rfl
        _ ≤ 2 ^ y.exponent := zpow_le_zpow_right₀ (by norm_num) y.normal.2.1
        _ ≤ y.mantissa * 2 ^ y.exponent := le_mul_of_one_le_left (by positivity) hm
        _ = |y.value| := (FiniteDouble.abs_value y).symm
    have hd := abs_sub_abs_le_abs_sub y.value q
    generalize (2 : ℚ) ^ (-1075 : ℤ) = b at hq hleast
    linarith

/-- Powers of two up to the 970th are far from the infinities. -/
theorem two_pow_le_bound {k : ℕ} (hk : k ≤ 970) : (2 : ℚ) ^ k ≤ 2 ^ 1024 - 2 ^ 970 := by
  have hpos : (0 : ℚ) < 2 ^ 970 := by positivity
  calc (2 : ℚ) ^ k ≤ 2 ^ 970 := pow_le_pow_right₀ one_le_two hk
    _ ≤ (2 ^ 54 - 1) * 2 ^ 970 := le_mul_of_one_le_left hpos.le (by norm_num)
    _ = 2 ^ 1024 - 2 ^ 970 := by rw [sub_one_mul, ← pow_add]

theorem one_lt_bound : (1 : ℚ) < 2 ^ 1024 - 2 ^ 970 :=
  lt_of_lt_of_le (by norm_num) (two_pow_le_bound (Nat.one_le_ofNat (n := 970)))

theorem roundsTo_zero (negative : Bool) : RoundsTo (withSign negative 0) (zero negative) := by
  have h0 : withSign negative 0 = 0 := by rw [withSign, neg_zero, ite_self]
  rw [h0]
  refine .finite ?_ (isNearest_zero ?_ negative)
  · rw [abs_zero]
    exact zero_lt_one.trans one_lt_bound
  · rw [abs_zero]
    positivity

/-- From half a place above the greatest finite double on, a number is an infinity. -/
theorem roundsTo_infinite {negative : Bool} {q : ℚ} (hq : 2 ^ 1024 - 2 ^ 970 ≤ q) :
    RoundsTo (withSign negative q) (.infinite negative) := by
  have hpos : 0 < q := zero_lt_one.trans (one_lt_bound.trans_le hq)
  refine .infinite ?_ ?_
  · rwa [abs_withSign, abs_of_pos hpos]
  · cases negative with
    | false => exact (decide_eq_false (not_lt.2 hpos.le)).symm
    | true => exact (decide_eq_true (neg_lt_zero.2 hpos)).symm

/-- **Quotients are rounded correctly.** -/
theorem roundsTo_ofRatio (negative : Bool) (num : ℕ) {den : ℕ} (hd : den ≠ 0) :
    RoundsTo (withSign negative (num / den)) (ofRatio negative num den) := by
  by_cases hn : num = 0
  · rw [hn, ofRatio, if_pos rfl, Nat.cast_zero, zero_div]
    exact roundsTo_zero negative
  obtain ⟨m, e, hr, he⟩ := exists_rounded hn hd
  have hnonneg : (0 : ℚ) ≤ num / den := by positivity
  rw [he]
  rcases ofParts_cases hr negative with ⟨ho, hx⟩ | ⟨ho, x, hx, hs, hv, heven⟩
  · rw [hx]
    exact roundsTo_infinite (hr.overflow_iff.1 ho)
  · rw [hx]
    refine .finite ?_ ?_
    · rw [abs_withSign, abs_of_nonneg hnonneg]
      exact lt_of_not_ge (mt hr.overflow_iff.2 ho)
    · rw [← hs]
      exact isNearest_of_rounded hr hv heven

/-- Integers are rounded correctly. -/
theorem roundsTo_ofInt (n : ℤ) : RoundsTo n (ofRatio (n < 0) n.natAbs 1) := by
  have h := roundsTo_ofRatio (n < 0) n.natAbs Nat.one_ne_zero
  have hn : withSign (n < 0) (n.natAbs / (1 : ℕ)) = n := by
    rw [Nat.cast_one, div_one, Nat.cast_natAbs, withSign]
    by_cases h0 : n < 0
    · rw [if_pos (decide_eq_true h0), abs_of_neg h0, Int.cast_neg, neg_neg]
    · rw [if_neg (by rwa [decide_eq_true_eq]), abs_of_nonneg (not_lt.1 h0)]
  rwa [hn] at h

/-- A finite double that is made of parts has the sign it is given. -/
theorem negative_of_ofParts {negative : Bool} {m : ℕ} {e : ℤ} {x : FiniteDouble} (h : ofParts negative m e = .finite x) :
    x.negative = negative := by
  rw [ofParts] at h
  generalize (if m = 2 ^ 53 then (2 ^ 52, e + 1) else (m, e)) = p at h
  simp only at h
  split at h
  · cases h
    rfl
  · cases h

/-- A double has the sign of the quotient, zero included. -/
theorem negative_of_ofRatio {negative : Bool} {num den : ℕ} {x : FiniteDouble} (h : ofRatio negative num den = .finite x) :
    x.negative = negative := by
  rw [ofRatio] at h
  split at h
  · cases h
    rfl
  · exact negative_of_ofParts h

/-! ## Decimal literals -/

/-- The number of its digits gives a number up to a factor of ten. -/
theorem digitCount_bounds {n : ℕ} (hn : n ≠ 0) : 10 ^ (digitCount n - 1) ≤ n ∧ n < 10 ^ digitCount n := by
  have hpos : 0 < digitCount n := Nat.length_toDigits_pos
  have hle : ∀ {k}, 0 < k → (digitCount n ≤ k ↔ n < 10 ^ k) := fun hk => Nat.length_toDigits_le_iff (by decide) hk
  refine ⟨?_, (hle hpos).1 (Nat.le_refl _)⟩
  by_cases h : digitCount n = 1
  · rw [h]
    exact Nat.one_le_iff_ne_zero.2 hn
  · exact Nat.le_of_not_lt (mt (hle (by omega)).2 (by omega))

/-- A decimal number lies between two powers of ten, which the number of its digits and its exponent give. -/
theorem scaled_bounds {digits : ℕ} (hn : digits ≠ 0) (exponent : ℤ) :
    (10 : ℚ) ^ (digitCount digits + exponent - 1) ≤ digits * 10 ^ exponent ∧
      (digits * 10 ^ exponent : ℚ) < 10 ^ (digitCount digits + exponent) := by
  obtain ⟨hlow, hhigh⟩ := digitCount_bounds hn
  have hpos : 0 < digitCount digits := Nat.length_toDigits_pos
  have hlow' : (10 : ℚ) ^ (digitCount digits - 1) ≤ digits := by exact_mod_cast hlow
  have hhigh' : (digits : ℚ) < 10 ^ digitCount digits := by exact_mod_cast hhigh
  constructor
  · rw [show (digitCount digits + exponent - 1 : ℤ) = ((digitCount digits - 1 : ℕ) : ℤ) + exponent by omega,
      zpow_add₀ (by norm_num), zpow_natCast]
    gcongr
  · rw [zpow_add₀ (by norm_num), zpow_natCast]
    gcongr

theorem two_pow_le_ten_pow {m n : ℕ} (h : 2 ^ m ≤ 10 ^ n) : (2 : ℚ) ^ m ≤ 10 ^ n := by
  exact_mod_cast h

/-- **Decimal numbers are rounded correctly**, those whose powers of ten are not computed included. -/
theorem roundsTo_ofDecimal (negative : Bool) (digits : ℕ) (exponent : ℤ) :
    RoundsTo (withSign negative (digits * 10 ^ exponent)) (ofDecimal negative digits exponent) := by
  by_cases hn : digits = 0
  · rw [hn, ofDecimal, if_pos rfl, Nat.cast_zero, zero_mul]
    exact roundsTo_zero negative
  obtain ⟨hlow, hhigh⟩ := scaled_bounds hn exponent
  have hnonneg : (0 : ℚ) ≤ digits * 10 ^ exponent := by positivity
  simp only [ofDecimal, if_neg hn]
  split
  · have hbig : (2 : ℚ) ^ 1024 ≤ 10 ^ 310 := two_pow_le_ten_pow (by decide +kernel)
    have hten : (10 : ℚ) ^ 310 ≤ 10 ^ (digitCount digits + exponent - 1) := by
      rw [← zpow_natCast]
      exact zpow_le_zpow_right₀ (by norm_num) (by omega)
    have hpos : (0 : ℚ) ≤ 2 ^ 970 := by positivity
    exact roundsTo_infinite ((sub_le_self _ hpos).trans (hbig.trans (hten.trans hlow)))
  · split
    · have hsmall : (10 : ℚ) ^ (-331 : ℤ) ≤ 2 ^ (-1075 : ℤ) := by
        rw [zpow_neg, zpow_neg, zpow_ofNat, zpow_ofNat]
        exact inv_anti₀ (by positivity) (two_pow_le_ten_pow (by decide +kernel))
      have hten : (10 : ℚ) ^ (digitCount digits + exponent) ≤ 10 ^ (-331 : ℤ) :=
        zpow_le_zpow_right₀ (by norm_num) (by omega)
      have hq : |withSign negative (digits * 10 ^ exponent)| ≤ 2 ^ (-1075 : ℤ) := by
        rw [abs_withSign, abs_of_nonneg hnonneg]
        exact hhigh.le.trans (hten.trans hsmall)
      have hone : (2 : ℚ) ^ (-1075 : ℤ) ≤ 1 := zpow_le_one_of_nonpos₀ (by norm_num) (by norm_num)
      exact .finite (hq.trans_lt (hone.trans_lt one_lt_bound)) (isNearest_zero hq negative)
    · split
      · rename_i he
        obtain ⟨n, rfl⟩ := Int.eq_ofNat_of_zero_le he
        have h := roundsTo_ofRatio negative (digits * 10 ^ n) Nat.one_ne_zero
        have hv : ((digits * 10 ^ n : ℕ) / (1 : ℕ) : ℚ) = digits * 10 ^ (n : ℤ) := by
          push_cast
          rw [div_one, zpow_natCast]
        rwa [hv] at h
      · rename_i he
        obtain ⟨n, hn'⟩ := Int.eq_ofNat_of_zero_le (show 0 ≤ -exponent by omega)
        obtain rfl : exponent = -n := by omega
        have h := roundsTo_ofRatio negative digits (show 10 ^ n ≠ 0 by positivity)
        have hv : (digits / (10 ^ n : ℕ) : ℚ) = digits * 10 ^ (-n : ℤ) := by
          push_cast
          rw [zpow_neg, zpow_natCast, div_eq_mul_inv]
        rw [neg_neg, Int.toNat_natCast]
        rwa [hv] at h

end Binary64

/-- The number that a literal is. -/
def Decimal.Literal.value (l : Literal) : ℚ :=
  withSign l.negative (placeValue (l.whole ++ l.fraction) * 10 ^ (l.exponent - l.fraction.length))

/-- A literal is read as the double that its number is rounded to. -/
theorem Decimal.Literal.roundsTo_toBinary64 (l : Literal) : Binary64.RoundsTo l.value l.toBinary64 := by
  rw [value, ← digitsValue_eq_placeValue]
  exact Binary64.roundsTo_ofDecimal _ _ _

end HelixGateway
