import HelixGateway.Decimal.Binary64
import Mathlib.Algebra.Order.Field.Power
import Mathlib.Algebra.Order.Ring.Rat
import Mathlib.Tactic.FieldSimp
import Mathlib.Tactic.Linarith
import Mathlib.Tactic.NormNum
import Mathlib.Tactic.Positivity
import Mathlib.Tactic.Ring

/-!
# The last place of a number

A positive quotient is measured in units of the last place that its double keeps, so that it has 53 bits before the point, or
fewer at the least exponent. The nearest whole number of units becomes the mantissa. No number with 53 bits at any exponent is
nearer: on a coarser grid it is a whole number of units too, and on a finer one it is too small. The numbers that need an
exponent above the greatest one are those from half a place above the greatest finite double on.

Main statements: `exists_rounded`, `Rounded.nearest`, `Rounded.overflow_iff`.
-/

namespace HelixGateway

open Decimal

namespace Decimal

/-- A number lies between two different whole numbers, or beyond them. -/
theorem one_le_abs_sub_add {m z : ℤ} (h : z ≠ m) (u : ℚ) : 1 ≤ |z - u| + |m - u| := by
  have h1 : (1 : ℚ) ≤ |(z : ℚ) - m| := by
    have : 1 ≤ |z - m| := Int.one_le_abs (sub_ne_zero.2 h)
    exact_mod_cast this
  have h2 : |(z : ℚ) - m| ≤ |z - u| + |m - u| := by
    rw [abs_sub_comm (m : ℚ) u]
    exact abs_sub_le _ _ _
  exact h1.trans h2

/-- A whole number at most one half away is a nearest one. -/
theorem abs_round_sub_le {m : ℤ} {u : ℚ} (h : |m - u| ≤ 1 / 2) (z : ℤ) : |m - u| ≤ |z - u| := by
  by_cases hz : z = m
  · rw [hz]
  · have := one_le_abs_sub_add hz u
    linarith

/-- Rounding leaves a number at most one half away, and half-way between two numbers it takes the even one. -/
theorem roundHalfEven_close (num : ℕ) {den : ℕ} (hd : 0 < den) :
    |(roundHalfEven num den : ℚ) - num / den| ≤ 1 / 2 ∧
      (|(roundHalfEven num den : ℚ) - num / den| = 1 / 2 → roundHalfEven num den % 2 = 0) := by
  have hdiv : den * (num / den) + num % den = num := Nat.div_add_mod num den
  have hmod : num % den < den := Nat.mod_lt _ hd
  have hden : (0 : ℚ) < den := by exact_mod_cast hd
  simp only [roundHalfEven]
  generalize num / den = k at hdiv
  generalize num % den = r at hdiv hmod
  have hq : (num : ℚ) / den = k + r / den := by
    rw [← hdiv]
    push_cast
    field_simp
  have hr0 : (0 : ℚ) ≤ r / den := by positivity
  rw [hq]
  rcases Nat.lt_trichotomy (2 * r) den with h | h | h
  · have hr : (r : ℚ) / den < 1 / 2 := by
      rw [div_lt_div_iff₀ hden (by norm_num)]
      have : (2 * r : ℚ) < den := by exact_mod_cast h
      linarith
    have he : |(k : ℚ) - (k + r / den)| = r / den := by
      rw [abs_sub_comm, add_sub_cancel_left, abs_of_nonneg hr0]
    rw [if_pos h, he]
    exact ⟨hr.le, fun h' => absurd h' hr.ne⟩
  · have hr : (r : ℚ) / den = 1 / 2 := by
      rw [div_eq_div_iff hden.ne' (by norm_num)]
      have : (2 * r : ℚ) = den := by exact_mod_cast h
      linarith
    rw [if_neg (by omega), if_neg (by omega), hr]
    refine ⟨?_, fun _ => by omega⟩
    rcases Nat.mod_two_eq_zero_or_one k with hk | hk
    · rw [hk]
      norm_num
    · rw [hk]
      push_cast
      norm_num
  · have hr : 1 / 2 < (r : ℚ) / den := by
      rw [div_lt_div_iff₀ (by norm_num) hden]
      have : (den : ℚ) < 2 * r := by exact_mod_cast h
      linarith
    have hr1 : (r : ℚ) / den < 1 := by
      rw [div_lt_one hden]
      exact_mod_cast hmod
    have he : |((k + 1 : ℕ) : ℚ) - (k + r / den)| = 1 - r / den := by
      push_cast
      rw [abs_of_nonneg (by linarith)]
      ring
    rw [if_neg (by omega), if_pos h, he]
    exact ⟨by linarith, fun h' => by linarith⟩

end Decimal

namespace Binary64

/-! ## The last place -/

/-- A quotient, compared with a power of two in whole numbers. -/
theorem two_zpow_le_div_iff (num : ℕ) {den : ℕ} (hd : 0 < den) (k : ℤ) :
    (2 : ℚ) ^ k ≤ num / den ↔ if 0 ≤ k then den * 2 ^ k.toNat ≤ num else den ≤ num * 2 ^ (-k).toNat := by
  have hden : (0 : ℚ) < den := by exact_mod_cast hd
  rw [le_div_iff₀ hden]
  split
  · rename_i hk
    obtain ⟨n, rfl⟩ := Int.eq_ofNat_of_zero_le hk
    rw [zpow_natCast, Int.toNat_natCast, mul_comm]
    exact_mod_cast Iff.rfl
  · rename_i hk
    obtain ⟨n, hn⟩ := Int.eq_ofNat_of_zero_le (show 0 ≤ -k by omega)
    obtain rfl : k = -n := by omega
    have hp : (0 : ℚ) < 2 ^ n := by positivity
    rw [neg_neg, Int.toNat_natCast, zpow_neg, zpow_natCast, inv_mul_le_iff₀ hp, mul_comm]
    exact_mod_cast Iff.rfl

/-- The leading bits of numerator and denominator give a quotient up to a factor of two on either side. -/
theorem leading_bounds {num den : ℕ} (hn : num ≠ 0) (hd : den ≠ 0) :
    (2 : ℚ) ^ ((num.log2 : ℤ) - den.log2 - 1) ≤ num / den ∧
      (num / den : ℚ) < 2 ^ ((num.log2 : ℤ) - den.log2 + 1) := by
  have hden : (0 : ℚ) < den := by exact_mod_cast Nat.pos_of_ne_zero hd
  have h1 : ((2 : ℚ) ^ num.log2) ≤ num := by exact_mod_cast Nat.log2_self_le hn
  have h2 : (num : ℚ) < 2 ^ (num.log2 + 1) := by exact_mod_cast Nat.lt_log2_self
  have h3 : ((2 : ℚ) ^ den.log2) ≤ den := by exact_mod_cast Nat.log2_self_le hd
  have h4 : (den : ℚ) < 2 ^ (den.log2 + 1) := by exact_mod_cast Nat.lt_log2_self
  constructor
  · rw [le_div_iff₀ hden]
    calc (2 : ℚ) ^ ((num.log2 : ℤ) - den.log2 - 1) * den
        ≤ 2 ^ ((num.log2 : ℤ) - den.log2 - 1) * 2 ^ (den.log2 + 1) := by gcongr
      _ = 2 ^ num.log2 := by
        rw [← zpow_natCast, ← zpow_natCast, ← zpow_add₀ (by norm_num)]
        congr 1
        push_cast
        ring
      _ ≤ num := h1
  · rw [div_lt_iff₀ hden]
    calc (num : ℚ) < 2 ^ (num.log2 + 1) := h2
      _ = 2 ^ ((num.log2 : ℤ) - den.log2 + 1) * 2 ^ den.log2 := by
        rw [← zpow_natCast, ← zpow_natCast, ← zpow_add₀ (by norm_num)]
        congr 1
        push_cast
        ring
      _ ≤ 2 ^ ((num.log2 : ℤ) - den.log2 + 1) * den := by gcongr

/-- The last place of a quotient is fine enough for 53 bits and no finer than needed. -/
theorem placeOf_bounds {num den : ℕ} (hn : num ≠ 0) (hd : den ≠ 0) :
    -1074 ≤ placeOf num den ∧ (num / den : ℚ) < 2 ^ (placeOf num den + 53) ∧
      (placeOf num den = -1074 ∨ (2 : ℚ) ^ (placeOf num den + 52) ≤ num / den) := by
  obtain ⟨hlow, hhigh⟩ := leading_bounds hn hd
  have hreach := two_zpow_le_div_iff num (Nat.pos_of_ne_zero hd) ((num.log2 : ℤ) - den.log2)
  simp only [placeOf]
  generalize ((num.log2 : ℤ) - den.log2) = k at *
  obtain ⟨j, hj, hjlow, hjhigh⟩ : ∃ j : ℤ,
      (if (if 0 ≤ k then decide (den * 2 ^ k.toNat ≤ num) else decide (den ≤ num * 2 ^ (-k).toNat)) = true then k
        else k - 1) = j ∧ (2 : ℚ) ^ j ≤ num / den ∧ (num / den : ℚ) < 2 ^ (j + 1) := by
    by_cases hr : (2 : ℚ) ^ k ≤ num / den
    · have hk := hreach.1 hr
      refine ⟨k, if_pos ?_, hr, hhigh⟩
      split at hk
      · rename_i h0
        rw [if_pos h0, decide_eq_true hk]
      · rename_i h0
        rw [if_neg h0, decide_eq_true hk]
    · have hk := mt hreach.2 hr
      refine ⟨k - 1, if_neg ?_, hlow, by rw [sub_add_cancel]; exact lt_of_not_ge hr⟩
      split at hk
      · rename_i h0
        rwa [if_pos h0, decide_eq_true_eq]
      · rename_i h0
        rwa [if_neg h0, decide_eq_true_eq]
  rw [hj]
  refine ⟨by omega, ?_, ?_⟩
  · exact hjhigh.trans_le (zpow_le_zpow_right₀ (by norm_num) (by omega))
  · by_cases h : max (-1074) (j - 52) = -1074
    · exact Or.inl h
    · refine Or.inr ?_
      rwa [show max (-1074) (j - 52) + 52 = j by omega]

/-! ## Rounding -/

/-- What a positive number is rounded to: `mantissa` times two to the `exponent`, before the exponent is looked at. -/
structure Rounded (q : ℚ) (mantissa : ℕ) (exponent : ℤ) : Prop where
  least : -1074 ≤ exponent
  upper : q < 2 ^ (exponent + 53)
  lower : exponent = -1074 ∨ (2 : ℚ) ^ (exponent + 52) ≤ q
  close : |mantissa - q / 2 ^ exponent| ≤ 1 / 2
  tie : |mantissa - q / 2 ^ exponent| = 1 / 2 → mantissa % 2 = 0

/-- A positive quotient has a rounding, of which the double is made with either sign. -/
theorem exists_rounded {num den : ℕ} (hn : num ≠ 0) (hd : den ≠ 0) :
    ∃ m e, Rounded (num / den) m e ∧ ∀ negative, ofRatio negative num den = ofParts negative m e := by
  obtain ⟨hleast, hupper, hlower⟩ := placeOf_bounds hn hd
  have hden : 0 < den := Nat.pos_of_ne_zero hd
  have hval : ∀ negative, ofRatio negative num den = ofParts negative
      (if 0 ≤ placeOf num den then roundHalfEven num (den * 2 ^ (placeOf num den).toNat)
        else roundHalfEven (num * 2 ^ (-placeOf num den).toNat) den) (placeOf num den) := by
    intro negative
    rw [ofRatio, if_neg hn]
  generalize placeOf num den = e at *
  refine ⟨_, e, ?_, hval⟩
  split
  · rename_i he
    obtain ⟨n, rfl⟩ := Int.eq_ofNat_of_zero_le he
    have hq : (num / den / 2 ^ (n : ℤ) : ℚ) = num / (den * 2 ^ n : ℕ) := by
      rw [zpow_natCast, div_div]
      push_cast
      rfl
    have hc := roundHalfEven_close num (show 0 < den * 2 ^ n by positivity)
    rw [← hq] at hc
    exact ⟨hleast, hupper, hlower, hc.1, hc.2⟩
  · rename_i he
    obtain ⟨n, hn⟩ := Int.eq_ofNat_of_zero_le (show 0 ≤ -e by omega)
    obtain rfl : e = -n := by omega
    have hq : (num / den / 2 ^ (-n : ℤ) : ℚ) = (num * 2 ^ n : ℕ) / den := by
      rw [zpow_neg, zpow_natCast, div_inv_eq_mul]
      push_cast
      rw [div_mul_eq_mul_div]
    have hc := roundHalfEven_close (num * 2 ^ n) hden
    rw [← hq] at hc
    rw [neg_neg, Int.toNat_natCast]
    exact ⟨hleast, hupper, hlower, hc.1, hc.2⟩

namespace Rounded

variable {q : ℚ} {m : ℕ} {e : ℤ}

/-- The number in units of the last place. -/
theorem scaled (q : ℚ) (e : ℤ) : q / 2 ^ e * 2 ^ e = q := div_mul_cancel₀ q (zpow_ne_zero e (by norm_num))

/-- Counted in its last place, a number stays below the mantissas that are too large. -/
theorem scaled_lt (h : Rounded q m e) : q / 2 ^ e < 2 ^ 53 := by
  have hp : (0 : ℚ) < 2 ^ e := by positivity
  rw [div_lt_iff₀ hp, ← zpow_natCast, ← zpow_add₀ (by norm_num), add_comm]
  exact h.upper

/-- Counted in its last place, a number fills the mantissa, unless the exponent is the least one. -/
theorem le_scaled (h : Rounded q m e) : e = -1074 ∨ 2 ^ 52 ≤ q / 2 ^ e := by
  refine h.lower.imp_right fun hl => ?_
  have hp : (0 : ℚ) < 2 ^ e := by positivity
  rw [le_div_iff₀ hp, ← zpow_natCast, ← zpow_add₀ (by norm_num), add_comm]
  exact hl

/-- A mantissa has at most 53 bits, but for the one that is carried. -/
theorem mantissa_le (h : Rounded q m e) : m ≤ 2 ^ 53 := by
  have hs := h.scaled_lt
  have hc := (abs_le.1 h.close).2
  have : (m : ℚ) < (2 ^ 53 + 1 : ℕ) := by
    push_cast
    linarith
  exact Nat.lt_succ_iff.1 (by exact_mod_cast this)

theorem le_mantissa (h : Rounded q m e) : e = -1074 ∨ 2 ^ 52 ≤ m := by
  refine h.le_scaled.imp_right fun hl => ?_
  have hc := (abs_le.1 h.close).1
  have : ((2 ^ 52 - 1 : ℕ) : ℚ) < m := by
    push_cast
    linarith
  have : 2 ^ 52 - 1 < m := by exact_mod_cast this
  omega

/-- No number with a mantissa of 53 bits is nearer. The ones on a finer grid lie below the first multiple of the last place
that has 53 bits, and that one is no further away from the number. -/
theorem nearest (h : Rounded q m e) {k f : ℤ} (hk : |k| < 2 ^ 53) (hf : -1074 ≤ f) :
    |m * 2 ^ e - q| ≤ |k * 2 ^ f - q| ∧
      ((k * 2 ^ f : ℚ) ≠ m * 2 ^ e → |k * 2 ^ f - q| = |m * 2 ^ e - q| → m % 2 = 0) := by
  have hp : (0 : ℚ) < 2 ^ e := by positivity
  have hscale : ∀ z : ℤ, |z * 2 ^ e - q| = |z - q / 2 ^ e| * 2 ^ e := by
    intro z
    rw [← abs_of_pos hp, ← abs_mul, abs_of_pos hp, sub_mul, scaled]
  have hround : ∀ z : ℤ, |m * 2 ^ e - q| ≤ |z * 2 ^ e - q| := by
    intro z
    have hm := hscale m
    rw [Int.cast_natCast] at hm
    rw [hm, hscale z]
    exact mul_le_mul_of_nonneg_right (abs_round_sub_le (m := m) h.close z) hp.le
  rcases le_or_gt e f with hef | hef
  · obtain ⟨n, hn⟩ := Int.eq_ofNat_of_zero_le (show 0 ≤ f - e by omega)
    have hz : (k * 2 ^ f : ℚ) = (k * 2 ^ n : ℤ) * 2 ^ e := by
      rw [show f = n + e by omega, zpow_add₀ (by norm_num), zpow_natCast]
      push_cast
      ring
    rw [hz]
    refine ⟨hround _, fun hne heq => h.tie (le_antisymm h.close ?_)⟩
    have hne' : k * 2 ^ n ≠ (m : ℤ) := by
      intro he
      rw [he] at hne
      exact hne rfl
    have hm := hscale m
    rw [Int.cast_natCast] at hm
    rw [hscale, hm] at heq
    have hgap := one_le_abs_sub_add hne' (q / 2 ^ e)
    rw [mul_right_cancel₀ hp.ne' heq, Int.cast_natCast] at hgap
    linarith
  · have hu : 2 ^ 52 ≤ q / 2 ^ e := h.le_scaled.resolve_left (by omega)
    have hq : 2 ^ 52 * 2 ^ e ≤ q := (le_div_iff₀ hp).1 hu
    have hlt : (k * 2 ^ f : ℚ) < 2 ^ 52 * 2 ^ e := by
      calc (k * 2 ^ f : ℚ) ≤ (2 ^ 53 - 1 : ℤ) * 2 ^ f := by
            gcongr
            have := (abs_lt.1 hk).2
            omega
        _ < 2 ^ 53 * 2 ^ f := by
            gcongr
            norm_num
        _ ≤ 2 ^ 53 * 2 ^ (e - 1) := by
            gcongr
            · norm_num
            · omega
        _ = 2 ^ 52 * 2 ^ e := by
            rw [zpow_sub_one₀ (by norm_num)]
            ring
    have hfar : |m * 2 ^ e - q| < |k * 2 ^ f - q| := by
      have h52 := hround (2 ^ 52)
      rw [Int.cast_pow, Int.cast_ofNat] at h52
      rw [abs_sub_comm (2 ^ 52 * 2 ^ e) q, abs_of_nonneg (sub_nonneg.2 hq)] at h52
      rw [abs_sub_comm (k * 2 ^ f : ℚ) q, abs_of_nonneg (sub_nonneg.2 (hlt.le.trans hq))]
      linarith
    exact ⟨hfar.le, fun _ heq => absurd heq hfar.ne'⟩

end Rounded

/-- The mantissa is carried beyond the greatest exponent, or the exponent is beyond it already, from half a place above the
greatest finite double on. -/
theorem Rounded.overflow_iff {q : ℚ} {m : ℕ} {e : ℤ} (h : Rounded q m e) :
    971 < e ∨ (e = 971 ∧ m = 2 ^ 53) ↔ 2 ^ 1024 - 2 ^ 970 ≤ q := by
  obtain ⟨b, hb⟩ : ∃ b : ℚ, 2 ^ 970 = b := ⟨_, rfl⟩
  have hpos : 0 < b := by
    rw [← hb]
    positivity
  have htop : (2 : ℚ) ^ 1024 = 2 ^ 54 * b := by rw [← hb, ← pow_add]
  rw [hb, htop]
  rcases lt_trichotomy e 971 with he | rfl | he
  · have hq : q < 2 ^ 53 * b := by
      calc q < 2 ^ (e + 53) := h.upper
        _ ≤ 2 ^ ((53 + 970 : ℕ) : ℤ) := zpow_le_zpow_right₀ (by norm_num) (by omega)
        _ = 2 ^ 53 * b := by rw [zpow_natCast, pow_add, hb]
    constructor
    · omega
    · intro h'
      linarith only [hq, h', hpos]
  · have hp : (2 : ℚ) ^ (971 : ℤ) = 2 * b := by
      rw [show (971 : ℤ) = ((1 + 970 : ℕ) : ℤ) from rfl, zpow_natCast, pow_add, pow_one, hb]
    have hq := scaled q 971
    have hclose := abs_le.1 h.close
    have htie := h.tie
    have hm := h.mantissa_le
    rw [hp] at hq hclose htie
    generalize q / (2 * b) = u at hq hclose htie
    constructor
    · rintro (h' | ⟨-, rfl⟩)
      · omega
      · have hu : (2 : ℚ) ^ 53 - 1 / 2 ≤ u := by
          have := hclose.2
          push_cast at this
          linarith
        calc (2 : ℚ) ^ 54 * b - b = (2 ^ 53 - 1 / 2) * (2 * b) := by ring
          _ ≤ u * (2 * b) := by gcongr
          _ = q := hq
    · intro h'
      have hu : (2 : ℚ) ^ 53 - 1 / 2 ≤ u := by
        refine le_of_mul_le_mul_right ?_ (show 0 < 2 * b by linarith only [hpos])
        rw [hq]
        linarith only [h']
      have hlow : ((2 ^ 53 - 2 : ℕ) : ℚ) < m := by
        push_cast
        linarith
      have hlow' : 2 ^ 53 - 2 < m := by exact_mod_cast hlow
      refine Or.inr ⟨rfl, ?_⟩
      by_contra hne
      -- the only mantissa left is odd, and a tie does not go to it
      obtain rfl : m = 2 ^ 53 - 1 := by omega
      push_cast at hclose htie
      have hhalf : u = 2 ^ 53 - 1 / 2 := by linarith
      have := htie (by rw [hhalf]; norm_num)
      omega
  · have hq : 2 ^ 54 * b ≤ q := by
      calc 2 ^ 54 * b = 2 ^ ((54 + 970 : ℕ) : ℤ) := by rw [zpow_natCast, pow_add, hb]
        _ ≤ 2 ^ (e + 52) := zpow_le_zpow_right₀ (by norm_num) (by omega)
        _ ≤ q := h.lower.resolve_left (by omega)
    constructor
    · intro
      linarith only [hq, hpos]
    · exact fun _ => Or.inl he

end Binary64

end HelixGateway
