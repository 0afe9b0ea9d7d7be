import HelixGateway.Decimal.Literal
import HelixGateway.Json.Value
import HelixGateway.Text.Quoted

/-!
# Values as plain text

The text of a value in a query string. A text stands for itself; everything else is written with capitalized words, blanks
behind commas and colons, and inner texts between quotes. A value has a text unless some integer in it has too many digits.
-/

namespace HelixGateway.Json

/-- A double, the names of the non-finite ones in lower case. -/
def plainReal (x : Binary64) : List Char := (x.textWith "inf" "nan").toList

mutual

/-- A value inside another one. -/
def shownChars : Json → List Char
  | .null => "None".toList
  | .bool b => (if b then "True" else "False").toList
  | .int n => (toString n).toList
  | .real x => plainReal x
  | .str s => Text.quoted s.toList
  | .arr items => '[' :: (shownItems items ++ [']'])
  | .obj fields => '{' :: (shownFields fields ++ ['}'])

def shownItems : List Json → List Char
  | [] => []
  | [v] => shownChars v
  | v :: vs => shownChars v ++ ',' :: ' ' :: shownItems vs

def shownFields : List (String × Json) → List Char
  | [] => []
  | [(k, v)] => Text.quoted k.toList ++ ':' :: ' ' :: shownChars v
  | (k, v) :: es => Text.quoted k.toList ++ ':' :: ' ' :: (shownChars v ++ ',' :: ' ' :: shownFields es)

end

/-- A value as plain text. -/
def plain : Json → List Char
  | .str s => s.toList
  | v => shownChars v

mutual

/-- Whether every integer in a value can be written. -/
def isWritable : Json → Bool
  | .int n => Decimal.isWritable n
  | .arr items => allWritable items
  | .obj fields => fieldsWritable fields
  | _ => true

def allWritable : List Json → Bool
  | [] => true
  | v :: vs => v.isWritable && allWritable vs

def fieldsWritable : List (String × Json) → Bool
  | [] => true
  | (_, v) :: es => v.isWritable && fieldsWritable es

end

end HelixGateway.Json
