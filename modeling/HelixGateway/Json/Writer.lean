import HelixGateway.Json.Value
import HelixGateway.Text.Utf8

/-!
# Writing JSON

Two layouts of the same value. The compact one has no blanks and leaves every character beyond the control characters as it
is; the indented one starts each member on a line of its own and escapes all that is not printable ASCII, a character beyond
U+FFFF as its two surrogates. Both keep the order of keys.
-/

namespace HelixGateway.Json

/-- Four digits of base sixteen, in lower case. -/
def hex4 (n : Nat) : List Char :=
  [Text.hexDigit (n / 4096 % 16), Text.hexDigit (n / 256 % 16), Text.hexDigit (n / 16 % 16), Text.hexDigit (n % 16)]

/-- The numeric escape of a character: one unit, or two surrogates. -/
def unicodeEscape (c : Char) : List Char :=
  let n := c.toNat
  if n < 0x10000 then '\\' :: 'u' :: hex4 n
  else
    let m := n - 0x10000
    '\\' :: 'u' :: (hex4 (0xD800 + m / 1024) ++ '\\' :: 'u' :: hex4 (0xDC00 + m % 1024))

/-- A character inside quotes, as it is when it belongs to the class `plain` and has no short escape. -/
def quoteChar (plain : Char → Bool) (c : Char) : List Char :=
  if c = '"' then ['\\', '"']
  else if c = '\\' then ['\\', '\\']
  else if c = '\n' then ['\\', 'n']
  else if c = '\r' then ['\\', 'r']
  else if c = '\t' then ['\\', 't']
  else if c.toNat = 8 then ['\\', 'b']
  else if c.toNat = 12 then ['\\', 'f']
  else if plain c then [c]
  else unicodeEscape c

/-- A quoted text. -/
def quote (plain : Char → Bool) (s : String) : List Char :=
  '"' :: (s.toList.flatMap (quoteChar plain) ++ ['"'])

/-- All but the control characters of ASCII. -/
def isNoControl (c : Char) : Bool := 0x20 ≤ c.toNat

/-- The printable characters of ASCII. -/
def isPrintableAscii (c : Char) : Bool := 0x20 ≤ c.toNat && c.toNat < 0x7F

/-- A scalar value; arrays and objects have their own layouts. -/
def scalarText (plain : Char → Bool) : Json → List Char
  | .null => "null".toList
  | .bool b => (if b then "true" else "false").toList
  | .int n => (toString n).toList
  | .real x => x.text.toList
  | .str s => quote plain s
  | .arr _ => ['[', ']']
  | .obj _ => ['{', '}']

mutual

/-- The compact layout. -/
def compactChars : Json → List Char
  | .arr items => '[' :: (compactItems items ++ [']'])
  | .obj fields => '{' :: (compactFields fields ++ ['}'])
  | v => scalarText isNoControl v

def compactItems : List Json → List Char
  | [] => []
  | [v] => compactChars v
  | v :: vs => compactChars v ++ ',' :: compactItems vs

def compactFields : List (String × Json) → List Char
  | [] => []
  | [(k, v)] => quote isNoControl k ++ ':' :: compactChars v
  | (k, v) :: es => quote isNoControl k ++ ':' :: (compactChars v ++ ',' :: compactFields es)

end

/-- A value in the compact layout. -/
def compact (v : Json) : String := String.ofList (compactChars v)

/-- A line break and the indentation of a nesting depth, two blanks for each level. -/
def newline (depth : Nat) : List Char := '\n' :: List.replicate (2 * depth) ' '

mutual

/-- The indented layout at a nesting depth. Empty arrays and objects stay on their line. -/
def indentedChars (depth : Nat) : Json → List Char
  | .arr (v :: vs) => '[' :: (indentedItems (depth + 1) (v :: vs) ++ (newline depth ++ [']']))
  | .obj (e :: es) => '{' :: (indentedFields (depth + 1) (e :: es) ++ (newline depth ++ ['}']))
  | v => scalarText isPrintableAscii v

def indentedItems (depth : Nat) : List Json → List Char
  | [] => []
  | [v] => newline depth ++ indentedChars depth v
  | v :: vs => newline depth ++ (indentedChars depth v ++ ',' :: indentedItems depth vs)

def indentedFields (depth : Nat) : List (String × Json) → List Char
  | [] => []
  | [(k, v)] => newline depth ++ (quote isPrintableAscii k ++ ':' :: ' ' :: indentedChars depth v)
  | (k, v) :: es =>
    newline depth ++ (quote isPrintableAscii k ++ ':' :: ' ' :: (indentedChars depth v ++ ',' :: indentedFields depth es))

end

/-- A value in the indented layout. -/
def indented (v : Json) : String := String.ofList (indentedChars 0 v)

end HelixGateway.Json
