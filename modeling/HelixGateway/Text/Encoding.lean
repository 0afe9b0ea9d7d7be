import HelixGateway.Text.Utf8

/-!
# Which encoding bytes are in

A JSON text may come in UTF-8, UTF-16 or UTF-32. `Encoding.detect` tells them apart by a byte-order mark, or by where the
zero bytes stand among the first four: a JSON text starts with an ASCII character. `decodeDetected` reads the bytes so, as
code points: a surrogate without its partner passes, though it stands for no character. Where a text is shown, the
replacement character stands in its place.

Main statement: `Shown.ofCodes_toNat`.
-/

namespace HelixGateway.Text

/-- An encoding of text, with the number of bytes that its mark takes at the start. -/
inductive Encoding where
  | utf8 (mark : Nat)
  | utf16 (bigEndian : Bool) (mark : Nat)
  | utf32 (bigEndian : Bool) (mark : Nat)
  deriving DecidableEq, Repr

/-- Recognizes the encoding of a JSON text. The mark of UTF-32 starts like that of UTF-16 and is looked for first. -/
def Encoding.detect : Bytes → Encoding
  | 0x00 :: 0x00 :: 0xFE :: 0xFF :: _ => .utf32 true 4
  | 0xFF :: 0xFE :: 0x00 :: 0x00 :: _ => .utf32 false 4
  | 0xFE :: 0xFF :: _ => .utf16 true 2
  | 0xFF :: 0xFE :: _ => .utf16 false 2
  | 0xEF :: 0xBB :: 0xBF :: _ => .utf8 3
  | a :: b :: c :: d :: _ =>
    if a = 0 then (if b = 0 then .utf32 true 0 else .utf16 true 0)
    else if b = 0 then (if c = 0 ∧ d = 0 then .utf32 false 0 else .utf16 false 0)
    else .utf8 0
  | [a, b] => if a = 0 then .utf16 true 0 else if b = 0 then .utf16 false 0 else .utf8 0
  | _ => .utf8 0

def isHighSurrogate (n : Nat) : Bool := 0xD800 ≤ n && n ≤ 0xDBFF

def isLowSurrogate (n : Nat) : Bool := 0xDC00 ≤ n && n ≤ 0xDFFF

def isSurrogate (n : Nat) : Bool := isHighSurrogate n || isLowSurrogate n

/-- The code point of two surrogates. -/
def joinSurrogates (high low : Nat) : Nat := 0x10000 + (high - 0xD800) * 0x400 + (low - 0xDC00)

/-- The code points that the units of UTF-16 stand for. A surrogate without its partner stays. -/
def codesOfUnits : List Nat → List Nat
  | [] => []
  | [u] => [u]
  | u :: v :: us =>
    if isHighSurrogate u && isLowSurrogate v then joinSurrogates u v :: codesOfUnits us
    else u :: codesOfUnits (v :: us)

/-- The character of a code point; a surrogate has none of its own. -/
def charOrReplacement (n : Nat) : Char := if isSurrogate n then Char.ofNat 0xFFFD else Char.ofNat n

/-- A text as it can be shown. `strays` tells where in it a surrogate stands alone, each place by the number of characters
from there to the end. -/
structure Shown where
  chars : List Char
  strays : List Nat
  deriving DecidableEq, Repr

/-- Shows a text of code points. -/
def Shown.ofCodes : List Nat → Shown
  | [] => ⟨[], []⟩
  | n :: ns =>
    let rest := ofCodes ns
    ⟨charOrReplacement n :: rest.chars,
      if isSurrogate n then (rest.chars.length + 1) :: rest.strays else rest.strays⟩

/-- A number from its bytes. -/
def unitOf (bigEndian : Bool) (bs : Bytes) : Nat :=
  (if bigEndian then bs else bs.reverse).foldl (fun n b => n * 256 + b.toNat) 0

/-- The name of an encoding with its byte order. -/
def wideName (width : String) (bigEndian : Bool) : String := width ++ (if bigEndian then "-be" else "-le")

/-- The units of UTF-16, from the offset `pos` on. -/
def units16 (bigEndian : Bool) (pos : Nat) : Bytes → Except DecodeError (List Nat)
  | [] => .ok []
  | [a] => .error ⟨wideName "utf-16" bigEndian, pos, [a], .truncated⟩
  | a :: b :: bs => (units16 bigEndian (pos + 2) bs).map (unitOf bigEndian [a, b] :: ·)

/-- The code points of UTF-32, from the offset `pos` on. -/
def codes32 (bigEndian : Bool) (pos : Nat) : Bytes → Except DecodeError (List Nat)
  | [] => .ok []
  | a :: b :: c :: d :: bs =>
    let n := unitOf bigEndian [a, b, c, d]
    if n < 0x110000 then (codes32 bigEndian (pos + 4) bs).map (n :: ·)
    else .error ⟨wideName "utf-32" bigEndian, pos, [a, b, c, d], .outOfRange⟩
  | bs => .error ⟨wideName "utf-32" bigEndian, pos, bs, .truncated⟩

/-- Reads bytes in an encoding; the mark is no part of the text. Offsets in a refusal count from the first byte, in UTF-8
from the first byte behind the mark. -/
def decodeIn (encoding : Encoding) (bs : Bytes) : Except DecodeError (List Nat) :=
  match encoding with
  | .utf8 mark => Utf8.codes (bs.drop mark)
  | .utf16 bigEndian mark => (units16 bigEndian mark (bs.drop mark)).map codesOfUnits
  | .utf32 bigEndian mark => codes32 bigEndian mark (bs.drop mark)

/-- Reads the bytes of a JSON text in the encoding they show. -/
def decodeDetected (bs : Bytes) : Except DecodeError (List Nat) := decodeIn (Encoding.detect bs) bs

/-- No character is a surrogate. -/
theorem isSurrogate_toNat (c : Char) : isSurrogate c.toNat = false := by
  have hv : c.toNat < 0xD800 ∨ 0xDFFF < c.toNat ∧ c.toNat < 0x110000 := c.valid
  have hn : ¬ (0xD800 ≤ c.toNat ∧ c.toNat ≤ 0xDFFF) := by omega
  simp only [isSurrogate, isHighSurrogate, isLowSurrogate, Bool.or_eq_false_iff, Bool.and_eq_false_iff,
    decide_eq_false_iff_not]
  omega

/-- A text of characters is shown as it is. -/
theorem Shown.ofCodes_toNat (s : List Char) : ofCodes (s.map Char.toNat) = ⟨s, []⟩ := by
  induction s with
  | nil => rfl
  | cons c s ih => simp [ofCodes, ih, charOrReplacement, isSurrogate_toNat, Char.ofNat_toNat]

end HelixGateway.Text
