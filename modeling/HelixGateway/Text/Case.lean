import HelixGateway.Text.CaseTable

/-!
# Upper and lower case

`isUpper` holds of the characters with the Uppercase property of the standard, and `lower` and `upper` are its default
mappings to lower and upper case, character by character and without context. Below U+0080 all three are the familiar
ones; beyond, they read the tables of `HelixGateway.Text.CaseTable`. The property and the mappings do not determine each
other: the title-case letters change under `lower` and are not upper case, the mathematical capitals are upper case and do
not change.

Main statement: `lower_of_ascii`.
-/

namespace HelixGateway.Text

/-- The characters of the seven-bit range. -/
def isAscii (c : Char) : Bool := c.toNat < 0x80

/-- The ASCII digits, the only characters that count as digits here. -/
def isDigit (c : Char) : Bool := c.isDigit

/-- The value of an ASCII digit. -/
def digitValue (c : Char) : Nat := c.toNat - '0'.toNat

/-- The distance between a character and its form in the other case, if it is in one of the runs. -/
def shiftIn? (runs : List CaseTable.Run) (n : Nat) : Option Int :=
  (runs.find? fun r => r.first ≤ n && n ≤ r.last && (n - r.first) % r.step == 0).map (·.shift)

/-- The difference between a character and its lower-case form, for the characters that have one of a single character. -/
def lowerShift? (n : Nat) : Option Int := shiftIn? CaseTable.lowerRuns n

/-- Whether a character has the Uppercase property. -/
def isUpper (c : Char) : Bool :=
  if isAscii c then c.isUpper
  else
    let n := c.toNat
    if CaseTable.titleRanges.any fun r => r.1 ≤ n && n ≤ r.2 then false
    else (lowerShift? n).isSome || n == 0x130 || CaseTable.uncasedUpperRanges.any fun r => r.1 ≤ n && n ≤ r.2

/-- The lower-case form of a character: one character, but for the capital I with a dot, which keeps its dot as a second
one. -/
def lower (c : Char) : List Char :=
  if isAscii c then [c.toLower]
  else if c.toNat = 0x130 then ['i', Char.ofNat 0x307]
  else
    match lowerShift? c.toNat with
    | none => [c]
    | some d => [Char.ofNat (c.toNat + d).toNat]

/-- The upper-case form of a character, which may have several characters. -/
def upper (c : Char) : List Char :=
  if isAscii c then [c.toUpper]
  else
    match CaseTable.longUppers.find? fun u => u.1 == c.toNat with
    | some (_, form) => form.map Char.ofNat
    | none =>
      match shiftIn? CaseTable.upperRuns c.toNat with
      | none => [c]
      | some d => [Char.ofNat (c.toNat + d).toNat]

/-- An ASCII character has one lower-case form. -/
theorem lower_of_ascii {c : Char} (h : isAscii c = true) : lower c = [c.toLower] := by
  simp [lower, h]

end HelixGateway.Text
