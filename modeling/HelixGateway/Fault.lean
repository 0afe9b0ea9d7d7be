import HelixGateway.Decimal.Literal
import HelixGateway.Url

/-!
# Faults

The conditions that no answer has a place for. They come from values that cannot be carried on: an integer too large for a
double, a number with too many digits, a number that JSON has no text for, a text that is no address, an address without a
host or with one that nobody can read, a text beyond ASCII that an encoding has no bytes for, and a path that is too long.
Whoever asked for the operation sees the fault itself.
-/

namespace HelixGateway

/-- Why a text has no bytes: it is to stand in a header, which holds ASCII alone, or a surrogate stands alone in it. -/
inductive EncodeError where
  | header (text : List Char)
  | surrogate
  deriving DecidableEq, Repr

/-- A condition that ends an operation without an answer. -/
inductive Fault where
  | integerOverflow
  | tooManyDigits (e : Decimal.TooManyDigits)
  | notJson
  | badUrl (e : UrlError)
  | relativeUrl (url : String)
  | badHost (e : HostName.NameError)
  | notAscii (e : EncodeError)
  | longPath (path : String)
  deriving DecidableEq, Repr

/-- The refusal of a text of other than ASCII characters: the first of them, or the places of the first run. -/
def notAsciiMessage (s : List Char) : String :=
  let place := (s.takeWhile Text.isAscii).length
  let run := (s.dropWhile Text.isAscii).takeWhile (!Text.isAscii ·)
  let what :=
    match run with
    | [c] => "character '" ++ String.ofList (Text.numberEscape c) ++ "' in position " ++ toString place
    | _ => "characters in position " ++ toString place ++ "-" ++ toString (place + run.length - 1)
  "'ascii' codec can't encode " ++ what ++ ": ordinal not in range(128)"

def EncodeError.message : EncodeError → String
  | .header text => notAsciiMessage text
  | .surrogate => "surrogates not allowed"

def Fault.message : Fault → String
  | .integerOverflow => "int too large to convert to float"
  | .tooManyDigits e => e.message
  | .notJson => "Out of range float values are not JSON compliant"
  | .badUrl e => e.message
  | .relativeUrl url => "unknown url type: " ++ String.ofList (Text.quoted url.toList)
  | .badHost e => e.message
  | .notAscii e => e.message
  | .longPath path => "[Errno 36] File name too long: " ++ String.ofList (Text.quoted path.toList)

end HelixGateway
