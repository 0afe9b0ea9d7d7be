import HelixGateway.Text.Utf8
import HelixGateway.Text.Split
import HelixGateway.Text.Case

/-!
# Percent-encoding and form data

A percent sign with two digits of base sixteen stands for a byte. `encodeWith` writes the bytes of all characters outside a
class in that form; `decode` reads them back, leniently: a percent sign without two digits stands for itself, and bytes
that encode no text become replacement characters. Form data is a list of pairs written `name=value` and joined by
ampersands, in which a space is a plus sign.

Main statement: `encodeWith_of_all`.
-/

namespace HelixGateway.Text.Percent

/-- A digit of base sixteen, in upper case. -/
def upperHexDigit (n : Nat) : Char := if n < 10 then Char.ofNat (48 + n) else Char.ofNat (55 + n)

/-- A byte as a percent sign and two digits. -/
def encodeByte (b : UInt8) : List Char := ['%', upperHexDigit (b.toNat / 16), upperHexDigit (b.toNat % 16)]

/-- A character as its encoded bytes. -/
def encodeChar (c : Char) : List Char := (String.utf8EncodeChar c).flatMap encodeByte

/-- Encodes the characters outside the class `safe`. -/
def encodeWith (safe : Char → Bool) (s : List Char) : List Char :=
  s.flatMap fun c => if safe c then [c] else encodeChar c

/-- Letters, digits and the four marks that never need encoding. -/
def isUnreserved (c : Char) : Bool := c.isAlphanum || c == '-' || c == '.' || c == '_' || c == '~'

/-- The byte that two digits stand for. -/
def hexPair? (a b : Char) : Option UInt8 :=
  match hexValue? a, hexValue? b with
  | some x, some y => some (UInt8.ofNat (x * 16 + y))
  | _, _ => none

/-- Reads a text, the bytes read from the run of ASCII characters before it held back in `pending`, last first. A
character beyond ASCII ends the run, and so the bytes are decoded run by run. -/
def decodeFrom (pending : Bytes) : List Char → List Char
  | [] => Utf8.repair pending.reverse
  | '%' :: a :: b :: s =>
    match hexPair? a b with
    | some byte => decodeFrom (byte :: pending) s
    | none => decodeFrom (0x25 :: pending) (a :: b :: s)
  | c :: s =>
    if isAscii c then decodeFrom (UInt8.ofNat c.toNat :: pending) s
    else Utf8.repair pending.reverse ++ c :: decodeFrom [] s
termination_by s => s.length

/-- The text that a percent-encoded text stands for. -/
def decode (s : List Char) : List Char := decodeFrom [] s

/-! ## Form data -/

/-- A text as a name or a value of form data. -/
def encodeForm (s : List Char) : List Char :=
  s.flatMap fun c => if c = ' ' then ['+'] else if isUnreserved c then [c] else encodeChar c

/-- The text that a name or a value of form data stands for. -/
def decodeForm (s : List Char) : List Char := decode (s.map fun c => if c = '+' then ' ' else c)

/-- Pairs as form data. -/
def encodePairs (ps : List (List Char × List Char)) : List Char :=
  join ['&'] (ps.map fun p => encodeForm p.1 ++ '=' :: encodeForm p.2)

/-- The pairs of form data: empty pieces count for nothing, and a piece without an equals sign has the empty value. -/
def decodePairs (s : List Char) : List (List Char × List Char) :=
  ((pieces (· == '&') s).filter (!·.isEmpty)).map fun piece =>
    match cut ['='] piece with
    | some (name, value) => (decodeForm name, decodeForm value)
    | none => (decodeForm piece, [])

/-- A text whose characters are all safe is written as it is. -/
theorem encodeWith_of_all {safe : Char → Bool} {s : List Char} (h : ∀ c ∈ s, safe c = true) :
    encodeWith safe s = s := by
  induction s with
  | nil => rfl
  | cons c s ih =>
    rw [encodeWith, List.flatMap_cons, if_pos (h c (by simp))]
    have := ih fun d hd => h d (by simp [hd])
    rw [encodeWith] at this
    rw [this]
    rfl

end HelixGateway.Text.Percent
