import HelixGateway.HostName.Composed
import HelixGateway.HostName.Punycode
import HelixGateway.Text.Quoted
import HelixGateway.Text.Split

/-!
# Labels

A label is what stands between the dots of a host name. It is in composed form, has its hyphens and marks in their places,
holds nothing but letters and, between the right neighbours, a few other characters, and is written in one direction. On
the wire a label has at most 63 characters of ASCII; one with other characters is encoded behind a mark of its own.
-/

namespace HelixGateway.HostName

/-- Why a text is no label. A position counts from one. -/
inductive LabelError where
  | empty
  | tooLong
  | notComposed
  | innerHyphens
  | outerHyphen
  | leadingMark
  | forbidden (c : Char) (position : Nat) (label : List Char)
  | loneJoiner (c : Char) (position : Nat) (label : List Char)
  | misplaced (c : Char) (position : Nat) (label : List Char)
  | undirectedStart (label : List Char)
  | againstRight (position : Nat)
  | againstLeft (position : Nat)
  | mixedDigits
  | undirectedEnd
  | nothingEncoded
  | encodedHyphen
  | undecodable
  deriving DecidableEq, Repr

/-- A character by its number, in base sixteen with at least four digits. -/
def codePoint (c : Char) : String :=
  let ds := (Nat.toDigits 16 c.toNat).map Char.toUpper
  "U+" ++ String.ofList (List.replicate (4 - ds.length) '0' ++ ds)

def LabelError.message : LabelError → String
  | .empty => "Empty Label"
  | .tooLong => "Label too long"
  | .notComposed => "Label must be in Normalization Form C"
  | .innerHyphens => "Label has disallowed hyphens in 3rd and 4th position"
  | .outerHyphen => "Label must not start or end with a hyphen"
  | .leadingMark => "Label begins with an illegal combining character"
  | .forbidden c position label =>
    "Codepoint " ++ codePoint c ++ " at position " ++ toString position ++ " of " ++ String.ofList (Text.quoted label) ++
      " not allowed"
  | .loneJoiner c position label =>
    "Unknown codepoint adjacent to joiner " ++ codePoint c ++ " at position " ++ toString position ++ " in " ++
      String.ofList (Text.quoted label)
  | .misplaced c position label =>
    "Codepoint " ++ codePoint c ++ " not allowed at position " ++ toString position ++ " in " ++
      String.ofList (Text.quoted label)
  | .undirectedStart label =>
    "First codepoint in label " ++ String.ofList (Text.quoted label) ++ " must be directionality L, R or AL"
  | .againstRight position =>
    "Invalid direction for codepoint at position " ++ toString position ++ " in a right-to-left label"
  | .againstLeft position =>
    "Invalid direction for codepoint at position " ++ toString position ++ " in a left-to-right label"
  | .mixedDigits => "Can not mix numeral types in a right-to-left label"
  | .undirectedEnd => "Label ends with illegal codepoint directionality"
  | .nothingEncoded => "Malformed A-label, no Punycode eligible content found"
  | .encodedHyphen => "A-label must not end with a hyphen"
  | .undecodable => "Invalid A-label"

/-! ## Characters between the right neighbours -/

/-- Whether a character that separates joined letters may stand between `before`, last first, and `after`. -/
def separatesJoined (before after : List Char) : Bool :=
  before.head?.any isVirama ||
    ((before.dropWhile isTransparent).head?.any joinsForward && (after.dropWhile isTransparent).head?.any joinsBackward)

def isArabicDigit (c : Char) : Bool := inRanges [(0x660, 0x669)] c

def isEasternDigit (c : Char) : Bool := inRanges [(0x6F0, 0x6F9)] c

/-- The characters that join letters, or keep them from joining. -/
def isJoiner (c : Char) : Bool := inRanges [(0x200C, 0x200D)] c

/-- Whether a joiner may stand between `before`, last first, and `after`. -/
def joinsInPlace (before : List Char) (c : Char) (after : List Char) : Bool :=
  if c.toNat = 0x200C then separatesJoined before after else before.head?.any isVirama

/-- Whether a character that is no letter may stand between `before`, last first, and `after`; nothing, if it stands
nowhere. -/
def isInPlace? (before : List Char) (c : Char) (after : List Char) : Option Bool :=
  if c.toNat = 0xB7 then some (before.head? == some 'l' && after.head? == some 'l')
  else if c.toNat = 0x375 then some (after.head?.any isGreek)
  else if c.toNat = 0x5F3 ∨ c.toNat = 0x5F4 then some (before.head?.any isHebrew)
  else if c.toNat = 0x30FB then some (before.any isJapanese || after.any isJapanese)
  else if isArabicDigit c then some !(before.any isEasternDigit || after.any isEasternDigit)
  else if isEasternDigit c then some !(before.any isArabicDigit || after.any isArabicDigit)
  else none

/-- Checks that the characters of a text may stand where they do in a label, behind `before`, last first. -/
def checkPlaces (label before : List Char) : List Char → Except LabelError Unit
  | [] => .ok ()
  | c :: s =>
    let position := before.length + 1
    if isLetter c then checkPlaces label (c :: before) s
    else if isJoiner c then
      if joinsInPlace before c s then checkPlaces label (c :: before) s else .error (.loneJoiner c position label)
    else
      match isInPlace? before c s with
      | none => .error (.forbidden c position label)
      | some true => checkPlaces label (c :: before) s
      | some false => .error (.misplaced c position label)

/-! ## Direction -/

/-- Whether a direction makes a label one that has to keep to a direction. -/
def Direction.isBackward (d : Direction) : Bool := d == .right || d == .arabicDigit

/-- Checks a label from right to left: nothing is against its direction, its digits are of one kind, and but for marks
something with a direction or a digit stands last. `digits` is the kind of the digits before, and `ended` tells whether the
label may end here. -/
def checkBackward (position : Nat) (digits : Option Direction) (ended : Bool) : List Direction → Except LabelError Unit
  | [] => if ended then .ok () else .error .undirectedEnd
  | d :: ds =>
    match d with
    | .left => .error (.againstRight position)
    | .mark => checkBackward (position + 1) digits ended ds
    | .neutral => checkBackward (position + 1) digits false ds
    | .right => checkBackward (position + 1) digits true ds
    | d =>
      if (digits.getD d) = d then checkBackward (position + 1) (some d) true ds else .error .mixedDigits

/-- Checks that the directions in a label go together. One without anything from right to left may hold anything else. -/
def checkDirection (label : List Char) (ds : List Direction) : Except LabelError Unit :=
  match ds.findIdx? Direction.isBackward with
  | none => .ok ()
  | some i =>
    match ds.head? with
    | some .right => checkBackward 1 none false ds
    | some .left => .error (.againstLeft (i + 1))
    | _ => .error (.undirectedStart label)

/-! ## Labels -/

/-- The greatest length of a host name before it is encoded. -/
def maxNameLength : Nat := 254

/-- Checks that a text is a label. The third and the fourth character are not both hyphens, which is left to encoded
labels. -/
def checkLabel (s : List Char) : Except LabelError Unit :=
  if s.isEmpty then .error .empty
  else if maxNameLength < s.length then .error .tooLong
  else if !isComposed s then .error .notComposed
  else if (s.drop 2).take 2 = ['-', '-'] then .error .innerHyphens
  else if s.head? = some '-' ∨ s.getLast? = some '-' then .error .outerHyphen
  else if s.head?.any isMark then .error .leadingMark
  else
    match checkPlaces s [] s with
    | .error e => .error e
    | .ok () => checkDirection s (s.map direction)

/-- What encoded labels start with. -/
def encodedMark : List Char := "xn--".toList

/-- Checks that a text of ASCII characters in lower case is a label, or encodes one. -/
def checkEncoded (s : List Char) : Except LabelError Unit :=
  match Text.afterPrefix? encodedMark s with
  | none => checkLabel s
  | some r =>
    if r.isEmpty then .error .nothingEncoded
    else if r.getLast? = some '-' then .error .encodedHyphen
    else
      match Punycode.decode? r with
      | none => .error .undecodable
      | some label => checkLabel label

/-- The greatest length of a label on the wire. -/
def maxLabelLength : Nat := 63

/-- A label as it is on the wire. -/
def encodeLabel (s : List Char) : Except LabelError (List Char) :=
  let isAscii := s.all Text.isAscii
  match (if isAscii then checkEncoded s else checkLabel s) with
  | .error e => .error e
  | .ok () =>
    let encoded := if isAscii then s else encodedMark ++ Punycode.encode s
    if encoded.length ≤ maxLabelLength then .ok encoded else .error .tooLong

end HelixGateway.HostName
