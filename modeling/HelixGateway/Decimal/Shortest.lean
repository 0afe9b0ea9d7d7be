import HelixGateway.Decimal.Binary64

/-!
# The shortest decimal of a double

The doubles divide the numbers into intervals: each is the nearest one to the numbers between its two half-way points, and
to those points themselves when its mantissa is even. `shortest` finds the fewest significant digits of which some number
lies in the interval, and of those numbers the nearest. `text` writes them: with a point and at least one digit on either
side of it while the exponent is at least -4 and below 16, with an exponent of at least two digits and its sign beyond.
-/

namespace HelixGateway

namespace Decimal

/-- A positive decimal number: the digits, read as a fraction `0.digits`, times ten to the `point`. -/
structure Digits where
  digits : List Char
  point : Int
  deriving DecidableEq, Repr

/-- The interval of the numbers that round to a positive double, in quarters of its last place, and the double itself:
with the common denominator `den` the numbers from `low` to `high` over `den` round to `mid` over `den`. -/
structure Interval where
  low : Nat
  mid : Nat
  high : Nat
  den : Nat
  closed : Bool

/-- The interval of a positive finite double. The lower half-way point is nearer when the double is a power of two. -/
def Interval.of (x : FiniteDouble) : Interval :=
  let e := x.exponent - 2
  let scale := if 0 ≤ e then 2 ^ e.toNat else 1
  let den := if 0 ≤ e then 1 else 2 ^ (-e).toNat
  let below := if x.mantissa = 2 ^ 52 ∧ x.exponent ≠ -1074 then 1 else 2
  ⟨(4 * x.mantissa - below) * scale, 4 * x.mantissa * scale, (4 * x.mantissa + 2) * scale, den, x.mantissa % 2 == 0⟩

/-- Whether `num / den` lies in the interval. -/
def Interval.holds (i : Interval) (num den : Nat) : Bool :=
  if i.closed then i.low * den ≤ num * i.den && num * i.den ≤ i.high * den
  else i.low * den < num * i.den && num * i.den < i.high * den

/-- The power of ten just above a positive quotient: the exponent `k` with `10^(k-1) ≤ num / den < 10^k`. -/
def pointOf (num den : Nat) : Int :=
  if den ≤ num then digitCount (num / den)
  else
    let d := digitCount (den / num)
    if den ≤ num * 10 ^ (d - 1) then 2 - (d : Int) else 1 - (d : Int)

/-- The multiple of `10^(point - places)` in the interval that is nearest to the double, if the interval holds one: it can
only be one of the two multiples around the double. -/
def Interval.onGrid? (i : Interval) (point : Int) (places : Nat) : Option Nat :=
  let shift := point - places
  let num := if 0 ≤ shift then i.mid else i.mid * 10 ^ (-shift).toNat
  let den := if 0 ≤ shift then i.den * 10 ^ shift.toNat else i.den
  let inside (c : Nat) : Bool :=
    if 0 ≤ shift then i.holds (c * 10 ^ shift.toNat) 1 else i.holds c (10 ^ (-shift).toNat)
  let down := num / den
  let up := down + 1
  match inside down, inside up with
  | true, true => some (roundHalfEven num den)
  | true, false => some down
  | false, true => some up
  | false, false => none

/-- The first grid with a hit, tried from `places` digits on. -/
def Interval.search (i : Interval) (point : Int) : Nat → Nat → Digits
  | 0, _ => ⟨['0'], point⟩
  | fuel + 1, places =>
    match i.onGrid? point places with
    | none => i.search point fuel (places + 1)
    | some c =>
      let ds := Nat.toDigits 10 c
      ⟨(ds.reverse.dropWhile (· == '0')).reverse, point + (ds.length - places)⟩

/-- The shortest digits that read back as a positive finite double. Seventeen always do. -/
def shortest (x : FiniteDouble) : Digits :=
  let i := Interval.of x
  i.search (pointOf i.mid i.den) 17 1

/-- A whole number in decimal, with at least two digits. -/
def twoDigits (n : Nat) : List Char :=
  let ds := Nat.toDigits 10 n
  if ds.length < 2 then '0' :: ds else ds

/-- Digits with a point or an exponent. -/
def Digits.layout (d : Digits) : List Char :=
  if -4 < d.point ∧ d.point ≤ 16 then
    if d.point ≤ 0 then '0' :: '.' :: (List.replicate (-d.point).toNat '0' ++ d.digits)
    else
      let whole := d.digits.take d.point.toNat
      let rest := d.digits.drop d.point.toNat
      whole ++ (List.replicate (d.point.toNat - whole.length) '0' ++ '.' :: (if rest.isEmpty then ['0'] else rest))
  else
    let fraction := d.digits.drop 1
    let e := d.point - 1
    d.digits.take 1 ++ ((if fraction.isEmpty then [] else '.' :: fraction) ++
      'e' :: (if e < 0 then '-' else '+') :: twoDigits e.natAbs)

end Decimal

namespace Binary64

/-- A double as text; the names of the infinities and of the undefined number are given. -/
def textWith (infinity undefinedName : String) : Binary64 → String
  | .finite x =>
    let magnitude := if x.mantissa = 0 then ['0', '.', '0'] else (Decimal.shortest x).layout
    String.ofList (if x.negative then '-' :: magnitude else magnitude)
  | .infinite negative => if negative then "-" ++ infinity else infinity
  | .undefined => undefinedName

/-- A double as a JSON text has it. -/
def text (x : Binary64) : String := textWith "Infinity" "NaN" x

end Binary64

end HelixGateway
