import HelixGateway.HostName.ContextTable
import HelixGateway.HostName.LetterTable
import HelixGateway.HostName.MarkTable
import HelixGateway.Text.Case

/-!
# Characters of host names

What a character of a host name is: a letter that stands anywhere, a mark, a character of one direction or another, one that
joins its neighbours. The tables hold what is so beyond the rules here; a character that no host name may hold can be of
any kind.
-/

namespace HelixGateway.HostName

/-- Whether a character lies in one of the ranges. -/
def inRanges (ranges : List (Nat × Nat)) (c : Char) : Bool := ranges.any fun r => r.1 ≤ c.toNat && c.toNat ≤ r.2

/-- Letters, digits, marks and the hyphen, which stand anywhere. -/
def isLetter (c : Char) : Bool :=
  inRanges LetterTable.ranges c ||
    LetterTable.alternatingRanges.any fun r => r.1 ≤ c.toNat && c.toNat ≤ r.2 && (c.toNat - r.1) % 2 == 0

/-- The marks that take the direction of what they stand on. -/
def isNonspacing (c : Char) : Bool := inRanges MarkTable.nonspacingRanges c

/-- The combining marks. -/
def isMark (c : Char) : Bool := isNonspacing c || inRanges MarkTable.spacingRanges c

/-- The combining class, zero for what marks stand on. -/
def combiningClass (c : Char) : Nat :=
  ((MarkTable.combiningClasses.find? fun k => inRanges k.2 c).map Prod.fst).getD 0

/-- The class of the marks that silence a vowel. -/
def isVirama (c : Char) : Bool := combiningClass c == 9

/-! ## Direction -/

/-- What a character does to the direction of a text. -/
inductive Direction where
  | left
  | right
  | digit
  | arabicDigit
  | neutral
  | mark
  deriving DecidableEq, Repr

def isRight (c : Char) : Bool := inRanges ContextTable.rightRanges c

/-- The direction of a character. What is in no table is written from left to right. -/
def direction (c : Char) : Direction :=
  if isRight c then .right
  else if inRanges ContextTable.arabicDigitRanges c then .arabicDigit
  else if inRanges ContextTable.digitRanges c then .digit
  else if inRanges ContextTable.neutralRanges c then .neutral
  else if isNonspacing c then .mark
  else .left

/-! ## Joining -/

/-- Characters that join what follows them. -/
def joinsForward (c : Char) : Bool :=
  inRanges ContextTable.dualJoiningRanges c || inRanges ContextTable.leftJoiningRanges c

/-- Characters that join what stands before them. -/
def joinsBackward (c : Char) : Bool :=
  inRanges ContextTable.dualJoiningRanges c || inRanges ContextTable.rightJoiningRanges c

/-- Characters that others join across. -/
def isTransparent (c : Char) : Bool :=
  (isNonspacing c && c.toNat != 0x1171E) || inRanges ContextTable.transparentRanges c

/-! ## Script and case -/

def isGreek (c : Char) : Bool := inRanges ContextTable.greekRanges c

def isHebrew (c : Char) : Bool := inRanges ContextTable.hebrewRanges c

/-- The three scripts of Japanese. -/
def isJapanese (c : Char) : Bool := inRanges ContextTable.japaneseRanges c

/-- Letters with case. -/
def isCased (c : Char) : Bool := inRanges ContextTable.casedRanges c

/-- Characters that do not end a word. -/
def isCaseIgnorable (c : Char) : Bool := isNonspacing c || inRanges ContextTable.caseIgnorableRanges c

end HelixGateway.HostName
