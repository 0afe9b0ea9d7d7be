import HelixGateway.HostName.Character
import HelixGateway.HostName.CompositionTable

/-!
# Composed form

A letter with marks can be written in several ways. Its composed form is found in three steps: every composite is taken
apart, the marks behind a letter are put into the order of their classes, and what makes up a composite is put together
again. A text is composed if that does not change it and no character in it stands for another one.
-/

namespace HelixGateway.HostName

/-- The two parts of a composite. -/
def parts? (c : Char) : Option (Char × Char) :=
  (CompositionTable.composites.find? fun t => t.1 == c.toNat).map fun t => (Char.ofNat t.2.1, Char.ofNat t.2.2)

/-- The most marks that a composite holds. -/
def maxMarks : Nat := 3

/-- Takes a composite of at most `n` marks apart. -/
def decompose : Nat → Char → List Char
  | 0, c => [c]
  | n + 1, c =>
    match parts? c with
    | some (a, b) => decompose n a ++ [b]
    | none => [c]

/-! ## Korean -/

/-- The first syllable; the others follow in the order of their first consonants, vowels and last consonants. -/
def firstSyllable : Nat := 0xAC00

def firstConsonants : Nat := 0x1100

def vowels : Nat := 0x1161

/-- The place before the last consonants. -/
def lastConsonants : Nat := 0x11A7

/-- The syllable that a first consonant and a vowel, or a syllable without a last consonant and one, make up. -/
def syllable? (a b : Char) : Option Char :=
  let (m, n) := (a.toNat, b.toNat)
  if firstConsonants ≤ m ∧ m < firstConsonants + 19 ∧ vowels ≤ n ∧ n < vowels + 21 then
    some (Char.ofNat (firstSyllable + ((m - firstConsonants) * 21 + (n - vowels)) * 28))
  else if firstSyllable ≤ m ∧ m < firstSyllable + 19 * 21 * 28 ∧ (m - firstSyllable) % 28 = 0 ∧
      lastConsonants < n ∧ n < lastConsonants + 28 then
    some (Char.ofNat (m + (n - lastConsonants)))
  else none

/-! ## The form of a text -/

/-- The composite of two parts. -/
def composite? (a b : Char) : Option Char :=
  ((CompositionTable.composites.find? fun t => t.2.1 == a.toNat && t.2.2 == b.toNat).map fun t => Char.ofNat t.1).or
    (syllable? a b)

/-- Puts a character in front of an ordered text: a mark goes behind those of lower classes. -/
def orderInto (c : Char) : List Char → List Char
  | [] => [c]
  | d :: s =>
    if combiningClass d ≠ 0 ∧ combiningClass d < combiningClass c then d :: orderInto c s else c :: d :: s

/-- Puts the marks behind each letter into the order of their classes, those of one class staying as they are. -/
def orderMarks (s : List Char) : List Char := s.foldr orderInto []

/-- Puts composites together again. `base` takes the marks of `s` that make up a composite with it; the others are kept in
`marks`, last first, and each keeps out those of its class and below. -/
def compose (base : Char) (marks : List Char) : List Char → List Char
  | [] => base :: marks.reverse
  | c :: s =>
    match (if marks.all fun m => combiningClass m < combiningClass c then composite? base c else none) with
    | some joined => compose joined marks s
    | none =>
      if combiningClass c = 0 then base :: (marks.reverse ++ compose c [] s) else compose base (c :: marks) s

/-- The composed form of a text in which no character stands for another one. -/
def composed (s : List Char) : List Char :=
  match orderMarks (s.flatMap (decompose maxMarks)) with
  | [] => []
  | c :: r => compose c [] r

/-- Whether a text is in composed form. -/
def isComposed (s : List Char) : Bool := !s.any (inRanges CompositionTable.replacedRanges) && composed s == s

end HelixGateway.HostName
