import HelixGateway.Text.PrintableTable
import HelixGateway.Text.Utf8

/-!
# Texts between quotes, as messages show them

A quoted text stands between single quotes, or between double quotes when it holds single ones and no double ones. The
quote in use and the backslash get a backslash; characters without a visible form are written by their short escapes or by
number.
-/

namespace HelixGateway.Text

/-- Whether a character has a visible form, the space among them. -/
def isPrintable (c : Char) : Bool :=
  let n := c.toNat
  0x20 ≤ n && (n < 0x7F || !PrintableTable.hiddenRanges.any fun r => r.1 ≤ n && n ≤ r.2)

/-- The lowest `width` digits of a number in base sixteen. -/
def hexDigits : Nat → Nat → List Char
  | 0, _ => []
  | width + 1, n => hexDigits width (n / 16) ++ [hexDigit (n % 16)]

/-- The escape of a character by its number, of the least of the three widths that holds it. -/
def numberEscape (c : Char) : List Char :=
  let n := c.toNat
  if n < 0x100 then '\\' :: 'x' :: hexDigits 2 n
  else if n < 0x10000 then '\\' :: 'u' :: hexDigits 4 n
  else '\\' :: 'U' :: hexDigits 8 n

/-- A character between quotes of the kind `mark`. -/
def quotedChar (mark c : Char) : List Char :=
  if c = mark ∨ c = '\\' then ['\\', c]
  else if c = '\n' then ['\\', 'n']
  else if c = '\r' then ['\\', 'r']
  else if c = '\t' then ['\\', 't']
  else if isPrintable c then [c]
  else numberEscape c

/-- The quote that a text is put between. -/
def quoteMark (s : List Char) : Char := if s.contains '\'' && !s.contains '"' then '"' else '\''

/-- A text between quotes. -/
def quoted (s : List Char) : List Char :=
  quoteMark s :: (s.flatMap (quotedChar (quoteMark s)) ++ [quoteMark s])

end HelixGateway.Text
