import HelixGateway.Json.Value
import HelixGateway.Decimal.Written
import HelixGateway.Text.Split

/-!
# Checking values against a shape

A value from outside is checked field by field. Every field that does not fit is an issue, with the keys and indexes that
lead to it; a check that finds several reports them in the order of the fields that it looks for, items and entries in
their own order.

Main statement: `both_eq_ok_iff`.
-/

namespace HelixGateway

/-- A step into a value. -/
inductive Key where
  | name (k : String)
  | index (i : Nat)
  deriving DecidableEq, Repr

/-- What is wrong with a field. -/
inductive IssueKind where
  | missing
  | notObject
  | notList
  | notMap
  | notText
  | notListed
  | unreadableInteger
  | tooLongInteger
  | fractional
  | notInteger
  | tooSmall
  | notFinite
  deriving DecidableEq, Repr

def IssueKind.code : IssueKind → String
  | .missing => "missing"
  | .notObject => "model_type"
  | .notList => "list_type"
  | .notMap => "dict_type"
  | .notText => "string_type"
  | .notListed => "literal_error"
  | .unreadableInteger => "int_parsing"
  | .tooLongInteger => "int_parsing_size"
  | .fractional => "int_from_float"
  | .notInteger => "int_type"
  | .tooSmall => "greater_than_equal"
  | .notFinite => "finite_number"

/-- A field that does not fit, and where it is. -/
structure Issue where
  path : List Key
  kind : IssueKind
  deriving DecidableEq, Repr

def Key.text : Key → String
  | .name k => k
  | .index i => toString i

/-- Where the issue is, and what is wrong there. -/
def Issue.text (i : Issue) : String := ".".intercalate (i.path.map Key.text) ++ ": " ++ i.kind.code

/-- The issue as seen from the value that holds the field's value. -/
def Issue.under (k : Key) (i : Issue) : Issue := { i with path := k :: i.path }

/-- The outcome of a check: a value of the shape, or all issues. -/
abbrev Checked (α : Type) := Except (List Issue) α

namespace Checked

variable {α β : Type}

/-- A value with one issue. -/
def fail (kind : IssueKind) : Checked α := .error [⟨[], kind⟩]

/-- The outcome as seen from the holder of the value. -/
def under (k : Key) (c : Checked α) : Checked α := c.mapError (List.map (Issue.under k))

/-- Two checks of which neither keeps the other from reporting. -/
def both (a : Checked α) (b : Checked β) : Checked (α × β) :=
  match a, b with
  | .ok x, .ok y => .ok (x, y)
  | .error e, .ok _ => .error e
  | .ok _, .error f => .error f
  | .error e, .error f => .error (e ++ f)

/-- Two checks pass together exactly if each of them passes. -/
theorem both_eq_ok_iff {a : Checked α} {b : Checked β} {x : α} {y : β} :
    both a b = .ok (x, y) ↔ a = .ok x ∧ b = .ok y := by
  cases a <;> cases b <;> simp [both]

end Checked

namespace Json

variable {α : Type}

def checkText : Json → Checked String
  | .str s => .ok s
  | _ => .fail .notText

/-- Checks the items of a list, the first of which has the index `i`. -/
def checkItems (check : Json → Checked α) (i : Nat) : List Json → Checked (List α)
  | [] => .ok []
  | v :: vs => (((check v).under (.index i)).both (checkItems check (i + 1) vs)).map fun (x, xs) => x :: xs

def checkList (check : Json → Checked α) : Json → Checked (List α)
  | .arr items => checkItems check 0 items
  | _ => .fail .notList

/-- Checks the values of a map. -/
def checkEntries (check : Json → Checked α) : Entries Json → Checked (Entries α)
  | [] => .ok []
  | (k, v) :: es => (((check v).under (.name k)).both (checkEntries check es)).map fun (x, xs) => (k, x) :: xs

/-- Checks a map of texts. -/
def checkTexts : Json → Checked (OrdMap String)
  | .obj fields => (checkEntries checkText fields).map .ofEntries
  | _ => .fail .notMap

/-- Checks a field that has to be there. -/
def required (check : Json → Checked α) (fields : Entries Json) (k : String) : Checked α :=
  match fields.get? k with
  | some v => (check v).under (.name k)
  | none => .error [⟨[.name k], .missing⟩]

/-- Checks the field under the first of its keys that is there. -/
def optional (check : Json → Checked α) (fields : Entries Json) (keys : List String) (absent : α) : Checked α :=
  match keys.find? fields.has with
  | some k => required check fields k
  | none => .ok absent

/-- Checks a value that may be null. -/
def nullable (check : Json → Checked α) : Json → Checked (Option α)
  | .null => .ok none
  | v => (check v).map some

/-! ## Integers -/

/-- A digit that a number starts with, or the sign in front of one. -/
def isLeading (c : Char) : Bool := (Text.isDigit c && c != '0') || c == '-'

/-- The text without the zeros in front of a number and the low lines between them; `last` is the character before. Of
nothing but zeros the last one stays, and so does the one before a point. -/
def dropZerosFrom? (last : Char) : List Char → Option (List Char)
  | [] => some [last]
  | c :: s =>
    if c = '0' ∨ c = '_' then dropZerosFrom? c s
    else if isLeading c then some (c :: s)
    else if c = '.' then some (last :: c :: s)
    else none

/-- A number without the zeros in front of it. -/
def dropZeros? : List Char → Option (List Char)
  | [] => none
  | c :: s => if c = '0' then dropZerosFrom? c s else if isLeading c then some (c :: s) else none

/-- A number without its fraction, if that is all zeros. -/
def dropZeroFraction (s : List Char) : List Char :=
  match s.dropWhile (· != '.') with
  | _ :: zeros => if zeros.all (· == '0') && !zeros.isEmpty then s.takeWhile (· != '.') else s
  | [] => s

/-- A number without the low lines between its digits, which are single. -/
def joinGroups? (s : List Char) : Option (List Char) :=
  if s.head? = some '_' ∨ s.getLast? = some '_' ∨ Text.occurs ['_', '_'] s then none else some (s.filter (· != '_'))

/-- The integer with a minus sign or without one. What is no integer has none, and neither has one with too many
characters. -/
def plainInteger? (s : List Char) : Option Int :=
  let (negative, ds) :=
    match s with
    | '-' :: ds => (true, ds)
    | ds => (false, ds)
  if ds.isEmpty || !ds.all Text.isDigit || (ds.head? == some '0' && ds.length != 1) || Decimal.maxDigits < s.length then
    none
  else some (Decimal.signed negative (Decimal.digitsValue ds))

/-- Reads an integer in text: blanks around it, a sign, zeros in front, low lines between digits, and a fraction of zeros
may be there. A minus sign may also follow the zeros. -/
def writtenInteger? (s : List Char) : Option Int :=
  let s := Decimal.trimSpace s
  let (negative, digits) := Decimal.readSign s
  if digits.head? = some '-' then none
  else
    (dropZeros? digits).bind fun ds =>
      (joinGroups? (dropZeroFraction ds)).bind fun ds => plainInteger? (if negative then '-' :: ds else ds)

/-- Whether a text starts with an integer of too many characters. -/
def startsTooLong (s : List Char) : Bool :=
  let ds :=
    match s with
    | '-' :: ds => ds
    | ds => ds
  ds.head?.any (fun c => Text.isDigit c && c != '0') &&
    Decimal.maxDigits < s.length - (ds.dropWhile Text.isDigit).length

/-- The whole doubles that count as integers lie between the two ends of this range. -/
def wholeLimit : Int := 2 ^ 63

/-- Checks an integer. Truth values count as one and zero, and doubles and texts may stand for integers. -/
def checkInteger : Json → Checked Int
  | .int n => .ok n
  | .bool b => .ok (if b then 1 else 0)
  | .real x =>
    match x.toInt? with
    | some n => if -wholeLimit < n ∧ n < wholeLimit then .ok n else .fail .tooLongInteger
    | none => .fail (if x.isFinite then .fractional else .notFinite)
  | .str s =>
    if startsTooLong s.toList then .fail .tooLongInteger
    else
      match writtenInteger? s.toList with
      | some n => .ok n
      | none => .fail .unreadableInteger
  | _ => .fail .notInteger

end Json

end HelixGateway
