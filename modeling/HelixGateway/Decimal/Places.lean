import HelixGateway.Decimal.Shortest

/-!
# Decimals of given length

A double can be written with a given number of digits behind the point, of significant digits with an exponent, or in
whichever of these two forms suits its size. The digits are those of the nearest such decimal to the exact value, a tie
going to the even digit.
-/

namespace HelixGateway

namespace FiniteDouble

/-- The size of a finite double as a quotient. -/
def ratio (x : FiniteDouble) : Nat × Nat :=
  if 0 ≤ x.exponent then (x.mantissa * 2 ^ x.exponent.toNat, 1) else (x.mantissa, 2 ^ (-x.exponent).toNat)

end FiniteDouble

namespace Decimal

/-- A fraction behind its point. Without digits there is a point only if it is asked for. -/
def pointed (always : Bool) (fraction : List Char) : List Char :=
  if fraction.isEmpty && !always then [] else '.' :: fraction

/-- No double has more digits than this behind its first one or behind its point; what follows them are zeros. -/
def mostPlaces : Nat := 1100

/-- A quotient with `places` digits behind the point. -/
def fixed (always : Bool) (places num den : Nat) : List Char :=
  let kept := min places mostPlaces
  let ds := Nat.toDigits 10 (roundHalfEven (num * 10 ^ kept) den)
  let ds := List.replicate (kept + 1 - ds.length) '0' ++ ds
  ds.take (ds.length - kept) ++
    pointed always (ds.drop (ds.length - kept) ++ List.replicate (places - kept) '0')

/-- The first `places + 1` digits of a quotient, and the exponent of the first one. Rounding may carry into a new digit. -/
def scientificDigits (places num den : Nat) : List Char × Int :=
  if num = 0 then (List.replicate (places + 1) '0', 0)
  else
    let kept := min places mostPlaces
    let point := pointOf num den
    let shift := kept + 1 - point
    let scaled :=
      if 0 ≤ shift then roundHalfEven (num * 10 ^ shift.toNat) den else roundHalfEven num (den * 10 ^ (-shift).toNat)
    let ds := Nat.toDigits 10 scaled
    (ds.take (kept + 1) ++ List.replicate (places - kept) '0', if ds.length = kept + 1 then point - 1 else point)

/-- An exponent, with its sign and at least two digits. -/
def exponentText (e : Int) : List Char := 'e' :: (if e < 0 then '-' else '+') :: twoDigits e.natAbs

/-- A quotient with one digit before the point and `places` behind it, and an exponent. -/
def scientific (always : Bool) (places num den : Nat) : List Char :=
  let (ds, e) := scientificDigits places num den
  ds.take 1 ++ (pointed always (ds.drop 1) ++ exponentText e)

/-- A text without the zeros at the end of its fraction, and without a point behind which nothing is left. -/
def dropZeros (s : List Char) : List Char :=
  if s.contains '.' then ((s.reverse.dropWhile (· == '0')).dropWhile (· == '.')).reverse else s

/-- A quotient with `digits` significant digits, at least one: with an exponent if that is below -4 or at least `digits`.
Zeros at the end of the fraction stay only if they are asked for. -/
def general (zeros : Bool) (digits num den : Nat) : List Char :=
  let digits := max 1 digits
  let (ds, e) := scientificDigits (digits - 1) num den
  let trim (s : List Char) : List Char := if zeros then s else dropZeros s
  if e < -4 ∨ digits ≤ e then trim (ds.take 1 ++ pointed zeros (ds.drop 1)) ++ exponentText e
  else trim (fixed zeros (digits - 1 - e).toNat num den)

end Decimal

end HelixGateway
