import HelixGateway.HelixType
import HelixGateway.Json.Reader
import HelixGateway.Text.Quoted

/-!
# Values of a declared type

A value comes as text and is read as its declared type says: texts and ids are kept, integers have to fit their width,
128-bit integers become doubles, and floating-point numbers have to be finite. Of arrays only those of floating-point
numbers can be read, either as a JSON array or separated by commas; there, what is no finite number is left out. One
line feed at the end of a number is not looked at.

Main statements: `inRange_of_readInteger`, `isFinite_of_mem_finiteNumbers`.
-/

namespace HelixGateway

namespace HelixType

open Decimal (Literal TooManyDigits readSign readExponent?)
open Text (dropFinalNewline isDigit)

/-- Why a text is no value of a type. -/
inductive ConversionCause where
  | emptyInteger
  | invalidDigit
  | tooManyDigits (e : TooManyDigits)
  | tooLarge
  | tooSmall
  | invalidFloat
  | unreadableFloat (text : String)
  | notFinite
  | unsupportedArray
  | unsupportedType
  deriving DecidableEq, Repr

def ConversionCause.text : ConversionCause → String
  | .emptyInteger => "cannot parse integer from empty string"
  | .invalidDigit => "invalid digit found in string"
  | .tooManyDigits e => e.message
  | .tooLarge => "number too large to fit in target type"
  | .tooSmall => "number too small to fit in target type"
  | .invalidFloat => "invalid float literal"
  | .unreadableFloat text => "could not convert string to float: " ++ String.ofList (Text.quoted text.toList)
  | .notFinite => "Invalid float value for JSON"
  | .unsupportedArray => "Array type not yet supported"
  | .unsupportedType => "Unsupported type"

/-- The refusal of a text as a value of the type with the text `expected`. -/
structure ConversionError where
  value : String
  expected : String
  cause : ConversionCause
  deriving DecidableEq, Repr

def ConversionError.message (e : ConversionError) : String :=
  "Failed to convert '" ++ e.value ++ "' to " ++ e.expected ++ ": " ++ e.cause.text

/-- A failure to read a value. A JSON array may hold an integer beyond the range of doubles: it is not left out like other
numbers that are not finite but stops the reading, whatever its type. -/
inductive CoercionError where
  | conversion (e : ConversionError)
  | integerOverflow
  deriving DecidableEq, Repr

/-- A failure to read a value of a type that is given by its name alone. The name of arrays says nothing of their elements,
and so there is no text for the type that was expected. -/
inductive NamedCoercionError where
  | coercion (e : CoercionError)
  | noElement
  deriving DecidableEq, Repr

/-- What is said of an array type without elements. -/
def noElementMessage : String := "'NoneType' object has no attribute 'is_array'"

/-! ## Integers -/

/-- The values of an integer type; the unsigned types read no minus sign, not even that of zero. -/
structure IntegerRange where
  minusAllowed : Bool
  least : Int
  greatest : Int
  deriving DecidableEq, Repr

/-- The integers of a width in two's complement. -/
def signedRange (bits : Nat) : IntegerRange := ⟨true, -2 ^ (bits - 1), 2 ^ (bits - 1) - 1⟩

/-- The natural numbers of a width. -/
def unsignedRange (bits : Nat) : IntegerRange := ⟨false, 0, 2 ^ bits - 1⟩

/-- The sign and the digits of an integer. -/
def integerParts? (minusAllowed : Bool) (s : List Char) : Option (Bool × List Char) :=
  let (negative, ds) := readSign (dropFinalNewline s)
  if (negative && !minusAllowed) || ds.isEmpty || !ds.all isDigit then none else some (negative, ds)

/-- Reads an integer of a range. -/
def readInteger (range : IntegerRange) (s : List Char) : Except ConversionCause Int :=
  if s.isEmpty then .error .emptyInteger
  else
    match integerParts? range.minusAllowed s with
    | none => .error .invalidDigit
    | some (negative, ds) =>
      match Decimal.ofDigits ds with
      | .error e => .error (.tooManyDigits e)
      | .ok magnitude =>
        let n := Decimal.signed negative magnitude
        if range.greatest < n then .error .tooLarge
        else if n < range.least then .error .tooSmall
        else .ok n

/-! ## Floating-point numbers -/

/-- The digits of a literal around its point, of which at least one is there, and what follows. -/
def readMantissa? (s : List Char) : Option (List Char × List Char × List Char) :=
  let whole := s.takeWhile isDigit
  let parts :=
    match s.dropWhile isDigit with
    | '.' :: r => (whole, r.takeWhile isDigit, r.dropWhile isDigit)
    | r => (whole, [], r)
  if parts.1.isEmpty && parts.2.1.isEmpty then none else some parts

/-- The literal that a whole text is, its sign being read. -/
def literal? (negative : Bool) (s : List Char) : Option Literal :=
  match readMantissa? s with
  | none => none
  | some (whole, fraction, []) => some ⟨negative, whole, fraction, 0⟩
  | some (whole, fraction, r) =>
    match readExponent? r with
    | some (e, []) => some ⟨negative, whole, fraction, e⟩
    | _ => none

/-- The lower-case form in which a name is looked up. The capital I with a dot and the small i without one count as the
letter i here, although no number can be read from them afterwards. -/
def foldName (c : Char) : Char := if c.toNat = 0x130 ∨ c.toNat = 0x131 then 'i' else c.toLower

/-- The name of a number that is not finite. -/
def namedNumber? (negative : Bool) (s : List Char) : Option Binary64 :=
  let name := s.map foldName
  if name = "inf".toList ∨ name = "infinity".toList then some (.infinite negative)
  else if name = "nan".toList then some .undefined
  else none

/-- Reads a floating-point number, the ones that are not finite among them. -/
def readFloat (s : List Char) : Except ConversionCause Binary64 :=
  let (negative, body) := readSign (dropFinalNewline s)
  match literal? negative body with
  | some l => .ok l.toBinary64
  | none =>
    match namedNumber? negative body with
    | none => .error .invalidFloat
    | some x => if body.all Text.isAscii then .ok x else .error (.unreadableFloat (String.ofList s))

/-! ## Arrays of floating-point numbers -/

/-- The numbers among the items of an array. -/
def numbersOf : List Json → Except CoercionError (List Binary64)
  | [] => .ok []
  | .int n :: vs =>
    match Binary64.ofInt? n with
    | none => .error .integerOverflow
    | some x => (numbersOf vs).map (x :: ·)
  | .real x :: vs => (numbersOf vs).map (x :: ·)
  | _ :: vs => numbersOf vs

/-- The numbers between the commas of a text. -/
def commaNumbers (s : List Char) : List Binary64 :=
  (Text.pieces (· == ',') s).filterMap fun part =>
    match readFloat (Text.trim part) with
    | .ok x => some x
    | .error _ => none

/-- The numbers that a text lists: the items of a JSON array, or else the parts between commas. -/
def listedNumbers (s : List Char) : Except CoercionError (List Binary64) :=
  match Json.read s with
  | .ok (.arr items) => numbersOf items
  | _ => .ok (commaNumbers s)

/-- The finite numbers that a text lists. -/
def finiteNumbers (s : List Char) : Except CoercionError (List Binary64) :=
  (listedNumbers s).map fun xs => xs.filter (·.isFinite)

/-! ## All types -/

/-- Reads a value of a scalar type. -/
def coerceScalar (s : List Char) (t : ScalarType) : Except ConversionCause Json :=
  match t with
  | .string | .id => .ok (.str (String.ofList s))
  | .f64 =>
    match readFloat s with
    | .error e => .error e
    | .ok x => if x.isFinite then .ok (.real x) else .error .notFinite
  | .u128 => (readInteger (unsignedRange 128) s).map fun n => .real (.ofRatio false n.toNat 1)
  | .i32 => (readInteger (signedRange 32) s).map .int
  | .i64 => (readInteger (signedRange 64) s).map .int
  | .u32 => (readInteger (unsignedRange 32) s).map .int
  | .u64 => (readInteger (unsignedRange 64) s).map .int

/-- Reads a value of a type. -/
def coerce (value : String) (t : HelixType) : Except CoercionError Json :=
  let refuse (cause : ConversionCause) : CoercionError := .conversion ⟨value, t.text, cause⟩
  match t with
  | .scalar s => (coerceScalar value.toList s).mapError refuse
  | .array (.scalar .f64) => (finiteNumbers value.toList).map fun xs => .arr (xs.map .real)
  | .array _ => .error (refuse .unsupportedArray)

/-- The name that all array types have. -/
def arrayName : String := "Array"

/-- Reads a value of the scalar type with a name; a name of no scalar type has no values. -/
def coerceNamed (value name : String) : Except NamedCoercionError Json :=
  match ScalarType.ofName? name.toList with
  | some s => (coerce value (.scalar s)).mapError .coercion
  | none =>
    if name = arrayName then .error .noElement
    else .error (.coercion (.conversion ⟨value, name, .unsupportedType⟩))

/-- An integer that is read lies in its range. -/
theorem inRange_of_readInteger {range : IntegerRange} {s : List Char} {n : Int} (h : readInteger range s = .ok n) :
    range.least ≤ n ∧ n ≤ range.greatest := by
  rw [readInteger] at h
  split at h
  · cases h
  · split at h
    · cases h
    · split at h
      · cases h
      · simp only at h
        split at h
        · cases h
        · split at h
          · cases h
          · cases h
            omega

/-- A list of numbers that is read holds neither what is no number nor an infinity. -/
theorem isFinite_of_mem_finiteNumbers {s : List Char} {xs : List Binary64} (h : finiteNumbers s = .ok xs) :
    ∀ x ∈ xs, x.isFinite = true := by
  rw [finiteNumbers] at h
  cases hl : listedNumbers s with
  | error e => simp [hl, Except.map] at h
  | ok ys =>
    simp only [hl, Except.map, Except.ok.injEq] at h
    subst h
    intro x hx
    exact (List.mem_filter.1 hx).2

end HelixType

end HelixGateway
