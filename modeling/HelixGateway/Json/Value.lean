import HelixGateway.Decimal.Shortest
import HelixGateway.OrdMap

/-!
# JSON values

A JSON value keeps what its text shows and equality of values would forget: the order of an object's keys, and whether a
number was written as an integer. Integers have any size; other numbers are doubles, the non-finite ones among them.
-/

namespace HelixGateway

/-- A JSON value. An object holds each key once where it was read or built here. -/
inductive Json where
  | null
  | bool (b : Bool)
  | int (n : Int)
  | real (x : Binary64)
  | str (s : String)
  | arr (items : List Json)
  | obj (fields : List (String × Json))

namespace Json

instance : Inhabited Json := ⟨null⟩

/-- An object of texts. -/
def ofTexts (es : Entries String) : Json := .obj (es.map fun e => (e.1, .str e.2))

mutual

/-- Whether every number in a value is finite. -/
def isFinite : Json → Bool
  | .real x => x.isFinite
  | .arr items => allFinite items
  | .obj fields => fieldsFinite fields
  | _ => true

def allFinite : List Json → Bool
  | [] => true
  | v :: vs => v.isFinite && allFinite vs

def fieldsFinite : List (String × Json) → Bool
  | [] => true
  | (_, v) :: es => v.isFinite && fieldsFinite es

end

mutual

/-- The value with `null` in the place of each number that is not finite. -/
def finiteOrNull : Json → Json
  | .real x => if x.isFinite then .real x else .null
  | .arr items => .arr (itemsFiniteOrNull items)
  | .obj fields => .obj (fieldsFiniteOrNull fields)
  | v => v

def itemsFiniteOrNull : List Json → List Json
  | [] => []
  | v :: vs => v.finiteOrNull :: itemsFiniteOrNull vs

def fieldsFiniteOrNull : List (String × Json) → List (String × Json)
  | [] => []
  | (k, v) :: es => (k, v.finiteOrNull) :: fieldsFiniteOrNull es

end

end Json

end HelixGateway
