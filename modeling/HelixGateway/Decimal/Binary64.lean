/-!
# Double-precision numbers

A finite double is a sign, a mantissa below 2^53 and an exponent, in the one normal form of its value; infinities and the
undefined number stand beside the finite ones. All arithmetic is exact arithmetic on natural numbers: a quotient is rounded
to the nearest double, a tie to the even mantissa, and what rounds to 2^1024 or beyond is infinite. Decimal numbers and
integers are read through that one rounding.

Main statement: `isFinite_ofParts`.
-/

namespace HelixGateway

-- a power is that of the core library, also in a module that knows the powers of a monoid
attribute [instance(20000), default_instance 20000] instPowNat

namespace Decimal

/-- The quotient of two numbers, rounded to the nearest whole number, a tie to the even one. -/
def roundHalfEven (num den : Nat) : Nat :=
  let q := num / den
  let r := num % den
  if 2 * r < den then q else if den < 2 * r then q + 1 else q + q % 2

/-- The number of decimal digits; zero has one. -/
def digitCount (n : Nat) : Nat := (Nat.toDigits 10 n).length

end Decimal

/-- The mantissas and exponents that finite doubles have: a mantissa of 53 bits, or a smaller one at the least exponent. -/
def IsNormalForm (mantissa : Nat) (exponent : Int) : Prop :=
  mantissa < 2 ^ 53 ∧ -1074 ≤ exponent ∧ exponent ≤ 971 ∧ (2 ^ 52 ≤ mantissa ∨ exponent = -1074)

instance (m : Nat) (e : Int) : Decidable (IsNormalForm m e) := by
  unfold IsNormalForm
  infer_instance

/-- A finite double: `mantissa` times two to the `exponent`, with a sign that zero has too. -/
structure FiniteDouble where
  negative : Bool
  mantissa : Nat
  exponent : Int
  normal : IsNormalForm mantissa exponent
  deriving DecidableEq

/-- A double-precision number. -/
inductive Binary64 where
  | finite (x : FiniteDouble)
  | infinite (negative : Bool)
  | undefined
  deriving DecidableEq

namespace Binary64

open Decimal

/-- Zero with a sign. -/
def zero (negative : Bool) : Binary64 := .finite ⟨negative, 0, -1074, by decide⟩

def isFinite : Binary64 → Bool
  | .finite _ => true
  | _ => false

/-- The double with the given parts, infinite where the exponent is too large for a finite one. A mantissa of 2^53, which
rounding up can yield, is carried into the exponent. -/
def ofParts (negative : Bool) (mantissa : Nat) (exponent : Int) : Binary64 :=
  let (m, e) := if mantissa = 2 ^ 53 then (2 ^ 52, exponent + 1) else (mantissa, exponent)
  if h : IsNormalForm m e then .finite ⟨negative, m, e, h⟩ else .infinite negative

/-- The exponent of the last place that a positive quotient keeps: 52 below that of its leading bit, and never below
-1074. -/
def placeOf (num den : Nat) : Int :=
  let k : Int := (num.log2 : Int) - den.log2
  let reaches : Bool := if 0 ≤ k then den * 2 ^ k.toNat ≤ num else den ≤ num * 2 ^ (-k).toNat
  max (-1074) ((if reaches then k else k - 1) - 52)

/-- The double nearest to a quotient of natural numbers, with a sign. -/
def ofRatio (negative : Bool) (num den : Nat) : Binary64 :=
  if num = 0 then zero negative
  else
    let e := placeOf num den
    let m := if 0 ≤ e then roundHalfEven num (den * 2 ^ e.toNat) else roundHalfEven (num * 2 ^ (-e).toNat) den
    ofParts negative m e

/-- The double nearest to `digits` times ten to the `exponent`, with a sign. Numbers from 10^310 on are infinite and those
below 10^-330 are zero before any power is computed, as they would be after. -/
def ofDecimal (negative : Bool) (digits : Nat) (exponent : Int) : Binary64 :=
  if digits = 0 then zero negative
  else
    let leading := digitCount digits + exponent
    if 310 < leading then .infinite negative
    else if leading < -330 then zero negative
    else if 0 ≤ exponent then ofRatio negative (digits * 10 ^ exponent.toNat) 1
    else ofRatio negative digits (10 ^ (-exponent).toNat)

/-- The double nearest to an integer, when there is a finite one. -/
def ofInt? (n : Int) : Option Binary64 :=
  let x := ofRatio (n < 0) n.natAbs 1
  if x.isFinite then some x else none

/-- The integer that a finite double is, if it is one. -/
def toInt? : Binary64 → Option Int
  | .finite x =>
    let n : Option Nat :=
      if 0 ≤ x.exponent then some (x.mantissa * 2 ^ x.exponent.toNat)
      else
        let unit := 2 ^ (-x.exponent).toNat
        if x.mantissa % unit = 0 then some (x.mantissa / unit) else none
    n.map fun k => if x.negative then -(k : Int) else k
  | _ => none

/-- Parts in normal form are those of the double that is made of them. -/
theorem isFinite_ofParts {negative : Bool} {m : Nat} {e : Int} (h : IsNormalForm m e) :
    ofParts negative m e = .finite ⟨negative, m, e, h⟩ := by
  have hm : m ≠ 2 ^ 53 := Nat.ne_of_lt h.1
  simp only [ofParts, if_neg hm, dif_pos h]

end Binary64

end HelixGateway
