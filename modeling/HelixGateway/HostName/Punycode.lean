import HelixGateway.Text.Case

/-!
# Punycode

A text as letters, digits and hyphens: its ASCII characters first, a hyphen behind them, and then the others as insertions.
The insertions go up by character and, for one character, by place; each is told by the number of the places passed over
since the one before it, in digits of base thirty-six whose weights adapt to the numbers told so far.

Main statements: `threshold_pos`, `length_of_readNumber`.
-/

namespace HelixGateway.HostName.Punycode

/-- A digit of base thirty-six, letters before figures. -/
def digit (d : Nat) : Char := if d < 26 then Char.ofNat (97 + d) else Char.ofNat (22 + d)

/-- The value of a digit. -/
def digitValue? (c : Char) : Option Nat :=
  if 'a' ≤ c ∧ c ≤ 'z' then some (c.toNat - 97)
  else if '0' ≤ c ∧ c ≤ '9' then some (c.toNat - 22)
  else none

/-! ## Weights -/

/-- The threshold of a digit: one below it ends its number. `position` goes up in steps of 36. -/
def threshold (position bias : Nat) : Nat := min 26 (max 1 (position - bias))

theorem threshold_pos (position bias : Nat) : 1 ≤ threshold position bias := by
  rw [threshold]
  omega

/-- Brings a number below 456 by divisions, of which each raises the bias. -/
def scale (delta bias : Nat) : Nat :=
  if 455 < delta then scale (delta / 35) (bias + 36) else bias + 36 * delta / (delta + 38)
termination_by delta

/-- The bias after a number, `count` being the length of the text with its insertion. -/
def adapt (delta count : Nat) (first : Bool) : Nat :=
  let delta := if first then delta / 700 else delta / 2
  scale (delta + delta / count) 0

/-- The bias before the first number. -/
def initialBias : Nat := 72

/-! ## Writing -/

/-- A number in digits. -/
def writeNumber (bias position n : Nat) : List Char :=
  let t := threshold position bias
  if n < t then [digit n]
  else digit (t + (n - t) % (36 - t)) :: writeNumber bias (position + 36) ((n - t) / (36 - t))
termination_by n
decreasing_by
  have h1 := threshold_pos position bias
  have h2 : (n - threshold position bias) / (36 - threshold position bias) ≤ n - threshold position bias :=
    Nat.div_le_self _ _
  omega

/-- What has been written of a text: the digits, the number of the places passed over, the bias, and the length of the text
that has been told. -/
structure Writing where
  digits : List Char
  delta : Nat
  bias : Nat
  count : Nat
  first : Bool

/-- Passes over a place of the text while the insertions of the character `m` are written. -/
def Writing.pass (m : Nat) (w : Writing) (c : Char) : Writing :=
  if c.toNat < m then { w with delta := w.delta + 1 }
  else if c.toNat = m then
    ⟨w.digits ++ writeNumber w.bias 36 w.delta, 0, adapt w.delta (w.count + 1) w.first, w.count + 1, false⟩
  else w

/-- Writes the insertions of the given characters, which go up from `next`. -/
def writeInsertions (s : List Char) (next : Nat) (w : Writing) : List Nat → List Char
  | [] => w.digits
  | m :: ms =>
    let w := s.foldl (Writing.pass m) { w with delta := w.delta + (m - next) * (w.count + 1) }
    writeInsertions s (m + 1) { w with delta := w.delta + 1 } ms

/-- The characters beyond ASCII in a text, each once, in order. -/
def insertedChars (s : List Char) : List Nat :=
  (((s.filter (!Text.isAscii ·)).map Char.toNat).mergeSort (· ≤ ·)).eraseDups

/-- The text in letters, digits and hyphens. -/
def encode (s : List Char) : List Char :=
  let basic := s.filter Text.isAscii
  (if basic.isEmpty then [] else basic ++ ['-']) ++
    writeInsertions s 0x80 ⟨[], 0, initialBias, basic.length, true⟩ (insertedChars s)

/-! ## Reading -/

/-- Reads a number, `weight` being that of its next digit, and adds it to `sum`. -/
def readNumber (bias position weight sum : Nat) : List Char → Option (Nat × List Char)
  | [] => none
  | c :: s =>
    match digitValue? c with
    | none => none
    | some d =>
      let t := threshold position bias
      if d < t then some (sum + d * weight, s)
      else readNumber bias (position + 36) (weight * (36 - t)) (sum + d * weight) s

/-- Reading a number takes at least one digit off the text. -/
theorem length_of_readNumber {bias position weight sum n : Nat} {s r : List Char}
    (h : readNumber bias position weight sum s = some (n, r)) : r.length < s.length := by
  induction s generalizing position weight sum with
  | nil => simp [readNumber] at h
  | cons c s ih =>
    rw [readNumber] at h
    split at h
    · simp at h
    · dsimp only at h
      split at h
      · simp only [Option.some.injEq, Prod.mk.injEq] at h
        simp [h.2]
      · have := ih h
        simp only [List.length_cons]
        omega

/-- Reads the insertions into a text, the next of which is at the earliest the character `m` at `place`. -/
def readInsertions (text : List Char) (m place bias : Nat) (first : Bool) (s : List Char) : Option (List Char) :=
  match s with
  | [] => some text
  | c :: s' =>
    match h : readNumber bias 36 1 0 (c :: s') with
    | none => none
    | some (delta, r) =>
      let count := text.length + 1
      let m := m + (place + delta) / count
      let place := (place + delta) % count
      if m.isValidChar then
        readInsertions (text.insertIdx place (Char.ofNat m)) m (place + 1) (adapt delta count first) false r
      else none
termination_by s.length
decreasing_by
  have := length_of_readNumber h
  simpa using this

/-- The text that letters, digits and hyphens stand for: the last hyphen ends its ASCII characters. -/
def decode? (s : List Char) : Option (List Char) :=
  let behind := (s.reverse.takeWhile (· != '-')).reverse
  readInsertions (s.take (s.length - behind.length - 1)) 0x80 0 initialBias true behind

end HelixGateway.HostName.Punycode
