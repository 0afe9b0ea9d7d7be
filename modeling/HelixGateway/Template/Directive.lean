import HelixGateway.Decimal.Places
import HelixGateway.Json.Plain
import HelixGateway.Text.Case

/-!
# Directives

A directive says how a value is written: as text, as a whole number, as a decimal or as a single character, and how much
room it takes. `Directive.write` writes a value so, or tells why it cannot be.
-/

namespace HelixGateway

namespace Template

/-- Why a template cannot be filled. -/
inductive TemplateError where
  | tooFewArguments
  | tooManyArguments
  | noMapping
  | missingKey (key : List Char)
  | incompleteKey
  | incomplete
  | amountNotInteger
  | widthTooLarge
  | precisionTooLarge
  | widthOverflow
  | precisionOverflow
  | unknownDirective (mark : Char) (offset : Nat)
  | notInteger (mark : Char) (kind : String)
  | notNumber (mark : Char) (kind : String)
  | notReal (kind : String)
  | undefinedInteger
  | infiniteInteger
  | integerOverflow
  | notCharacter
  | characterOverflow
  deriving DecidableEq, Repr

/-- A character as messages show it: itself if it is a visible one of ASCII. -/
def shownMark (c : Char) : Char := if 0x1F ≤ c.toNat ∧ c.toNat < 0x7F then c else '?'

def TemplateError.message : TemplateError → String
  | .tooFewArguments => "not enough arguments for format string"
  | .tooManyArguments => "not all arguments converted during string formatting"
  | .noMapping => "format requires a mapping"
  | .missingKey key => String.ofList (Text.quoted key)
  | .incompleteKey => "incomplete format key"
  | .incomplete => "incomplete format"
  | .amountNotInteger => "* wants int"
  | .widthTooLarge => "width too big"
  | .precisionTooLarge => "precision too big"
  | .widthOverflow => "Python int too large to convert to C ssize_t"
  | .precisionOverflow => "Python int too large to convert to C int"
  | .unknownDirective mark offset =>
    "unsupported format character '" ++ String.singleton (shownMark mark) ++ "' (0x" ++
      String.ofList (Nat.toDigits 16 mark.toNat) ++ ") at index " ++ toString offset
  | .notInteger mark kind => "%" ++ String.singleton mark ++ " format: an integer is required, not " ++ kind
  | .notNumber mark kind => "%" ++ String.singleton mark ++ " format: a real number is required, not " ++ kind
  | .notReal kind => "must be real number, not " ++ kind
  | .undefinedInteger => "cannot convert float NaN to integer"
  | .infiniteInteger => "cannot convert float infinity to integer"
  | .integerOverflow => "int too large to convert to float"
  | .notCharacter => "%c requires int or char"
  | .characterOverflow => "%c arg not in range(0x110000)"

/-- The kind of a value, as messages name it. -/
def kindName : Json → String
  | .null => "NoneType"
  | .bool _ => "bool"
  | .int _ => "int"
  | .real _ => "float"
  | .str _ => "str"
  | .arr _ => "list"
  | .obj _ => "dict"

/-- The flags of a directive: the value stands at the left of its room, has a sign or a blank for one, has a marked form,
or fills its room with zeros. -/
structure Flags where
  left : Bool
  plus : Bool
  blank : Bool
  marked : Bool
  zeros : Bool
  deriving DecidableEq, Repr

/-- What a value is written as. -/
inductive Conversion where
  | plain
  | shown
  | ascii
  | integer
  | octal
  | hexadecimal
  | fixed
  | scientific
  | general
  | character
  deriving DecidableEq, Repr

/-- The conversion with a letter; an upper-case letter makes the written form upper-case. -/
def Conversion.ofChar? : Char → Option Conversion
  | 's' => some .plain
  | 'r' => some .shown
  | 'a' => some .ascii
  | 'd' | 'i' | 'u' => some .integer
  | 'o' => some .octal
  | 'x' | 'X' => some .hexadecimal
  | 'f' | 'F' => some .fixed
  | 'e' | 'E' => some .scientific
  | 'g' | 'G' => some .general
  | 'c' => some .character
  | _ => none

/-- How a value is written. `mark` is the letter of the conversion. -/
structure Directive where
  flags : Flags
  width : Nat
  precision : Option Nat
  conversion : Conversion
  mark : Char
  deriving DecidableEq, Repr

/-- A written value: its sign, what marks its base, and the rest. What is no number is filled up by blanks only. -/
structure Written where
  isNumber : Bool
  sign : List Char
  base : List Char
  body : List Char
  deriving DecidableEq, Repr

/-- A text that is no number. -/
def Written.ofText (s : List Char) : Written := ⟨false, [], [], s⟩

/-- A written value in its room. -/
def Written.pad (flags : Flags) (width : Nat) (w : Written) : List Char :=
  let text := w.sign ++ (w.base ++ w.body)
  let room := width - text.length
  if flags.left then text ++ List.replicate room ' '
  else if w.isNumber && flags.zeros then w.sign ++ (w.base ++ (List.replicate room '0' ++ w.body))
  else List.replicate room ' ' ++ text

namespace Directive

/-- The sign of a number. -/
def sign (d : Directive) (negative : Bool) : List Char :=
  if negative then ['-'] else if d.flags.plus then ['+'] else if d.flags.blank then [' '] else []

/-- The part of a text that the precision leaves. -/
def writeText (d : Directive) (s : List Char) : Written :=
  .ofText (match d.precision with
    | some n => s.take n
    | none => s)

/-- A whole number, with as many digits as the precision says at least. -/
def writeInteger (d : Directive) (base : Nat) (baseMark : List Char) (n : Int) : Written :=
  let ds := Nat.toDigits base n.natAbs
  ⟨true, d.sign (n < 0), if d.flags.marked then baseMark else [],
    List.replicate (d.precision.getD 0 - ds.length) '0' ++ ds⟩

/-- The precision of decimals for which none is given. -/
def defaultPrecision : Nat := 6

/-- A double, by one of the three ways to write its size. -/
def writeReal (d : Directive) (size : Bool → Nat → Nat → Nat → List Char) : Binary64 → Written
  | .finite x =>
    ⟨true, d.sign x.negative, [], size d.flags.marked (d.precision.getD defaultPrecision) x.ratio.1 x.ratio.2⟩
  | .infinite negative => ⟨true, d.sign negative, [], "inf".toList⟩
  | .undefined => ⟨true, d.sign false, [], "nan".toList⟩

/-- The whole number that a value is, or that is left of it without its fraction. -/
def wholeNumber (d : Directive) : Json → Except TemplateError Int
  | .bool b => .ok (if b then 1 else 0)
  | .int n => .ok n
  | .real (.finite x) =>
    let n : Int := (x.ratio.1 / x.ratio.2 : Nat)
    .ok (if x.negative then -n else n)
  | .real (.infinite _) => .error .infiniteInteger
  | .real .undefined => .error .undefinedInteger
  | v => .error (.notNumber d.mark (kindName v))

/-- The whole number that a value is. -/
def exactInteger (d : Directive) : Json → Except TemplateError Int
  | .bool b => .ok (if b then 1 else 0)
  | .int n => .ok n
  | v => .error (.notInteger d.mark (kindName v))

/-- The double that a value is. -/
def real : Json → Except TemplateError Binary64
  | .bool b => .ok (.ofRatio false (if b then 1 else 0) 1)
  | .int n =>
    match Binary64.ofInt? n with
    | some x => .ok x
    | none => .error .integerOverflow
  | .real x => .ok x
  | v => .error (.notReal (kindName v))

/-- The character that a value is, by its number or as a text. -/
def character : Json → Except TemplateError Char
  | .bool b => .ok (Char.ofNat (if b then 1 else 0))
  | .int n => if 0 ≤ n ∧ n < 0x110000 then .ok (Char.ofNat n.toNat) else .error .characterOverflow
  | .str s =>
    match s.toList with
    | [c] => .ok c
    | _ => .error .notCharacter
  | _ => .error .notCharacter

/-- A text with numbers for the characters beyond ASCII. -/
def asciiOnly (s : List Char) : List Char := s.flatMap fun c => if Text.isAscii c then [c] else Text.numberEscape c

/-- Writes a value without looking at its room. -/
def convert (d : Directive) (v : Json) : Except TemplateError Written :=
  match d.conversion with
  | .plain => .ok (d.writeText v.plain)
  | .shown => .ok (d.writeText v.shownChars)
  | .ascii => .ok (d.writeText (asciiOnly v.shownChars))
  | .integer => (d.wholeNumber v).map (d.writeInteger 10 [])
  | .octal => (d.exactInteger v).map (d.writeInteger 8 "0o".toList)
  | .hexadecimal => (d.exactInteger v).map (d.writeInteger 16 "0x".toList)
  | .fixed => (real v).map (d.writeReal Decimal.fixed)
  | .scientific => (real v).map (d.writeReal Decimal.scientific)
  | .general => (real v).map (d.writeReal Decimal.general)
  | .character => (character v).map fun c => .ofText [c]

/-- Writes a value. -/
def write (d : Directive) (v : Json) : Except TemplateError (List Char) :=
  (d.convert v).map fun w =>
    let text := w.pad d.flags d.width
    if d.mark.isUpper then text.map Char.toUpper else text

end Directive

end Template

end HelixGateway
