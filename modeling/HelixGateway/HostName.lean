import HelixGateway.HostName.Label

/-!
# Host names

A host name with characters beyond ASCII has a form on the wire that is ASCII: it is put into lower case, and each of its
labels is encoded. A name that has a text for a label that is none has no such form. A name on the wire whose first label
is an encoded one is readable if all of its labels are labels or encode them.
-/

namespace HelixGateway.HostName

/-- Why a text is no host name. -/
inductive NameError where
  | tooLong
  | badLabel (e : LabelError)
  deriving DecidableEq, Repr

def NameError.message : NameError → String
  | .tooLong => "Domain too long"
  | .badLabel e => e.message

/-! ## Lower case -/

/-- Whether a word with a letter before it ends here; `before` is the text before, last first. -/
def endsWord (before after : List Char) : Bool :=
  (before.dropWhile isCaseIgnorable).head?.any isCased && !(after.dropWhile isCaseIgnorable).head?.any isCased

/-- A text in lower case, `before` being the text before it, last first. The capital sigma has a form of its own at the end
of a word. -/
def lowercaseFrom (before : List Char) : List Char → List Char
  | [] => []
  | c :: s =>
    (if c.toNat = 0x3A3 then [if endsWord before s then Char.ofNat 0x3C2 else Char.ofNat 0x3C3] else Text.lower c) ++
      lowercaseFrom (c :: before) s

/-- A text in lower case. -/
def lowercase (s : List Char) : List Char := lowercaseFrom [] s

/-! ## Names and labels -/

/-- The dots that separate labels. -/
def isDot (c : Char) : Bool := c == '.' || c.toNat == 0x3002 || c.toNat == 0xFF0E || c.toNat == 0xFF61

/-- The labels of a name, and the dot that may stand behind the last one. -/
def labels (s : List Char) : List (List Char) × List Char :=
  let ls := Text.pieces isDot s
  if ls.getLast? = some [] then (ls.dropLast, ['.']) else (ls, [])

/-- The greatest length of a host name on the wire, its last dot apart. -/
def maxEncodedLength : Nat := 253

/-- The form of a host name on the wire. A dot at the end stays. -/
def encode (s : List Char) : Except NameError (List Char) :=
  let s := lowercase s
  if maxNameLength < s.length then .error .tooLong
  else
    let (ls, dot) := labels s
    match ls.mapM encodeLabel with
    | .error e => .error (.badLabel e)
    | .ok ls =>
      let name := Text.join ['.'] ls
      if name.length ≤ maxEncodedLength then .ok (name ++ dot) else .error .tooLong

/-- Checks that a name in lower case on the wire is readable. One whose first label is not encoded is not looked at. -/
def checkReadable (s : List Char) : Except NameError Unit :=
  if !encodedMark.isPrefixOf s then .ok ()
  else if maxNameLength < s.length then .error .tooLong
  else ((labels s).1.forM checkEncoded).mapError .badLabel

end HelixGateway.HostName
