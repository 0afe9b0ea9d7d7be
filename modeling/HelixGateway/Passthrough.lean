import HelixGateway.Fault
import HelixGateway.Validation
import HelixGateway.Json.Plain
import HelixGateway.Text.Percent

/-!
# Query strings that are passed on

A request for an inspection endpoint may carry a limit, a search text and further parameters. `url` appends them to a base
as form data, limit and search text first, and leaves out what has no value. It fails if a number among them has too many
digits to be written; `toUrl` is the address that there would be with numbers of any size.

Main statements: `toUrl_of_pairs_eq_nil`, `url_eq_ok_iff`, `url_of_not_isWritable`.
-/

namespace HelixGateway

/-- The parameters of an inspection request. -/
structure Passthrough where
  limit : Option Int
  search : Option String
  extra : Entries Json

namespace Passthrough

/-- The greatest limit that is passed on. -/
def maxLimit : Int := 300

/-- A limit, unless it is beyond the greatest. -/
def validLimit (limit : Option Int) : Option Int := limit.filter (· ≤ maxLimit)

/-- Checks the parameters in an object. -/
def check (fields : Entries Json) : Checked Passthrough :=
  ((Json.optional (Json.nullable Json.checkInteger) fields ["limit"] none).both
    (Json.optional (Json.nullable Json.checkText) fields ["q"] none)).map fun (limit, search) =>
      ⟨limit, search, fields.filter fun e => e.1 != "limit" && e.1 != "q"⟩

/-- The parameters with their texts, those without a value left out. -/
def pairs (p : Passthrough) : List (List Char × List Char) :=
  (p.limit.map fun n => ("limit".toList, (toString n).toList)).toList ++
    ((p.search.map fun q => ("q".toList, q.toList)).toList ++
      p.extra.filterMap fun (k, v) =>
        match v with
        | .null => none
        | v => some (k.toList, v.plain))

/-- The base with the parameters behind it, numbers of any size among them. -/
def toUrl (p : Passthrough) (base : String) : String :=
  if p.pairs.isEmpty then base else base ++ "?" ++ String.ofList (Text.Percent.encodePairs p.pairs)

/-- Whether every number among the parameters can be written. -/
def isWritable (p : Passthrough) : Bool := p.limit.all Decimal.isWritable && Json.fieldsWritable p.extra

/-- The address of an inspection: the base with the parameters behind it. -/
def url (p : Passthrough) (base : String) : Except Fault String :=
  if p.isWritable then .ok (p.toUrl base) else .error (.tooManyDigits ⟨none⟩)

/-- Without a parameter that has a value, the address is the base. -/
theorem toUrl_of_pairs_eq_nil {p : Passthrough} (h : p.pairs = []) (base : String) : p.toUrl base = base := by
  simp [toUrl, h]

/-- There is an address if every number can be written. -/
theorem url_of_isWritable {p : Passthrough} (h : p.isWritable = true) (base : String) : p.url base = .ok (p.toUrl base) := by
  rw [url, if_pos h]

/-- There is none if some number cannot. -/
theorem url_of_not_isWritable {p : Passthrough} (h : p.isWritable = false) (base : String) :
    p.url base = .error (.tooManyDigits ⟨none⟩) := by
  rw [url, if_neg (by rw [h]; exact Bool.false_ne_true)]

/-- An address holds the parameters as they are. -/
theorem url_eq_ok_iff {p : Passthrough} {base address : String} :
    p.url base = .ok address ↔ p.isWritable = true ∧ p.toUrl base = address := by
  rw [url]
  split
  · rename_i h
    simp [h]
  · rename_i h
    simp [h]

end Passthrough

end HelixGateway
