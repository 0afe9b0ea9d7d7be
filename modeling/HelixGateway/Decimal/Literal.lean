import HelixGateway.Decimal.Binary64
import HelixGateway.Text.Case

/-!
# Numbers in decimal notation

A decimal literal is a sign, digits before and after the point, and a power of ten. Its value as a double is the nearest
one. Whole numbers are read exactly, but only up to `maxDigits` digits, leading zeros counted: a longer one is refused
whatever its value. A number that would take more digits is not written either.

Main statement: `ofDigits_eq_ok_iff`.
-/

namespace HelixGateway.Decimal

open Text (isDigit digitValue)

/-- The number that decimal digits stand for. -/
def digitsValue (ds : List Char) : Nat := ds.foldl (fun n c => n * 10 + digitValue c) 0

/-- The number of digits beyond which a whole number is neither read nor written. -/
def maxDigits : Nat := 4300

/-- The refusal of a whole number for its number of digits, which is told where the digits are given. -/
structure TooManyDigits where
  count : Option Nat
  deriving DecidableEq, Repr

def TooManyDigits.message (e : TooManyDigits) : String :=
  "Exceeds the limit (4300 digits) for integer string conversion" ++
    (match e.count with
    | some n => ": value has " ++ toString n ++ " digits"
    | none => "") ++
    "; use sys.set_int_max_str_digits() to increase the limit"

/-- Reads digits as a whole number. -/
def ofDigits (ds : List Char) : Except TooManyDigits Nat :=
  if ds.length ≤ maxDigits then .ok (digitsValue ds) else .error ⟨some ds.length⟩

/-- Whether a whole number has few enough digits to be written. -/
def isWritable (n : Int) : Bool := n.natAbs < 10 ^ maxDigits

/-- A number with a sign. -/
def signed (negative : Bool) (n : Nat) : Int := if negative then -(n : Int) else n

/-- A sign in front of a number, none being positive. -/
def readSign : List Char → Bool × List Char
  | '-' :: s => (true, s)
  | '+' :: s => (false, s)
  | s => (false, s)

/-- A number as it is written: `whole.fraction` times ten to the `exponent`. -/
structure Literal where
  negative : Bool
  whole : List Char
  fraction : List Char
  exponent : Int
  deriving DecidableEq, Repr

/-- The double nearest to a literal. -/
def Literal.toBinary64 (l : Literal) : Binary64 :=
  .ofDecimal l.negative (digitsValue (l.whole ++ l.fraction)) (l.exponent - l.fraction.length)

/-- Reads the exponent of a literal, if one stands here: the letter, an optional sign, and at least one digit. -/
def readExponent? : List Char → Option (Int × List Char)
  | [] => none
  | c :: s =>
    if c = 'e' ∨ c = 'E' then
      let (negative, s) := readSign s
      match s.takeWhile isDigit with
      | [] => none
      | ds => some (signed negative (digitsValue ds), s.dropWhile isDigit)
    else none

/-- Digits are read exactly if there are not too many of them. -/
theorem ofDigits_eq_ok_iff {ds : List Char} {n : Nat} :
    ofDigits ds = .ok n ↔ ds.length ≤ maxDigits ∧ digitsValue ds = n := by
  rw [ofDigits]
  split
  · simp_all
  · simp_all only [reduceCtorEq, false_and]

end HelixGateway.Decimal
