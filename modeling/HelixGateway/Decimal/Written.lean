import HelixGateway.Decimal.Literal
import HelixGateway.Text.Blank

/-!
# Integers as they are written by hand

An integer may have white space around it, a sign, single low lines between its digits, and digits of any script.
-/

namespace HelixGateway.Decimal

/-- The zeros of the scripts, each the first of ten digits in a row. -/
def zeros : List Nat := [
  0x30, 0x660, 0x6F0, 0x7C0, 0x966, 0x9E6, 0xA66, 0xAE6, 0xB66, 0xBE6, 0xC66, 0xCE6, 0xD66, 0xDE6, 0xE50, 0xED0, 0xF20,
  0x1040, 0x1090, 0x17E0, 0x1810, 0x1946, 0x19D0, 0x1A80, 0x1A90, 0x1B50, 0x1BB0, 0x1C40, 0x1C50, 0xA620, 0xA8D0, 0xA900,
  0xA9D0, 0xA9F0, 0xAA50, 0xABF0, 0xFF10, 0x104A0, 0x10D30, 0x11066, 0x110F0, 0x11136, 0x111D0, 0x112F0, 0x11450,
  0x114D0, 0x11650, 0x116C0, 0x11730, 0x118E0, 0x11950, 0x11C50, 0x11D50, 0x11DA0, 0x16A60, 0x16AC0, 0x16B50, 0x1D7CE,
  0x1D7D8, 0x1D7E2, 0x1D7EC, 0x1D7F6, 0x1E140, 0x1E2F0, 0x1E950, 0x1FBF0]

/-- The value of a digit of any script. -/
def scriptDigit? (c : Char) : Option Nat :=
  (zeros.find? fun z => z ≤ c.toNat && c.toNat < z + 10).map (c.toNat - ·)

/-- White space around a written number, which the information separators are not. -/
def isSpace (c : Char) : Bool := Text.isBlank c && !(0x1C ≤ c.toNat && c.toNat ≤ 0x1F)

/-- A text without the white space around it. -/
def trimSpace (s : List Char) : List Char := Text.dropEndWhile isSpace (s.dropWhile isSpace)

/-- The digits of a number, with single low lines between them; `inside` tells that a digit stands right before. -/
def digitRun? (inside : Bool) : List Char → Option (List Nat)
  | [] => if inside then some [] else none
  | c :: s =>
    if c = '_' then (if inside then digitRun? false s else none)
    else
      match scriptDigit? c with
      | some d => (digitRun? true s).map (d :: ·)
      | none => none

/-- Reads a written integer, if the text is one. -/
def written? (s : List Char) : Option (Except TooManyDigits Int) :=
  let (negative, s) := readSign (trimSpace s)
  (digitRun? false s).map fun ds =>
    if ds.length ≤ maxDigits then .ok (signed negative (ds.foldl (fun n d => n * 10 + d) 0)) else .error ⟨ds.length⟩

end HelixGateway.Decimal
