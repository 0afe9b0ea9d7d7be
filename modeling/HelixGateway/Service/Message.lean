import HelixGateway.Json.Value
import HelixGateway.Text.Percent
import HelixGateway.Validation

/-!
# Requests and responses

A request names a target, which is a path and a query string; the path is decoded before anything looks at it. A response
has a status, the headers that matter here, and a payload.

Main statements: `parameters_of_query_nil`, `sentQuery_of_ascii`.
-/

namespace HelixGateway

/-- A request to the service. -/
structure WebRequest where
  method : String
  host : String
  path : List Char
  query : List Char
  headers : Entries String
  body : Text.Bytes

/-- What a response carries. -/
inductive Payload where
  | json (v : Json)
  | text (s : String)
  | issues (is : List Issue)

/-- A response of the service. -/
structure WebResponse where
  status : Nat
  headers : Entries String
  payload : Payload

namespace WebRequest

/-- A request for a target: what precedes the first question mark is the encoded path. -/
def ofTarget (method host target : String) (headers : Entries String) (body : Text.Bytes) : WebRequest :=
  match Text.cut ['?'] target.toList with
  | some (path, query) => ⟨method, host, Text.Percent.decode path, query, headers, body⟩
  | none => ⟨method, host, Text.Percent.decode target.toList, [], headers, body⟩

/-- The first header of a name, in any case. -/
def header? (r : WebRequest) (name : String) : Option String :=
  (r.headers.find? fun h => h.1.toList.map Char.toLower = name.toList).map Prod.snd

/-- The query string as form data is read from it: byte by byte, so that a character beyond ASCII that is not
percent-encoded comes as one character for each byte of its encoding. -/
def sentQuery (r : WebRequest) : List Char :=
  (r.query.flatMap String.utf8EncodeChar).map fun b => Char.ofNat b.toNat

/-- The parameters of the query string. Of a parameter that repeats the last value counts, at the place of the first. -/
def parameters (r : WebRequest) : OrdMap String :=
  .ofEntries ((Text.Percent.decodePairs r.sentQuery).map fun p => (String.ofList p.1, String.ofList p.2))

/-- The parameters of the query string as an object to be checked. -/
def parameterFields (r : WebRequest) : Entries Json := r.parameters.entries.map fun e => (e.1, .str e.2)

/-- The path as the log shows it: up to a question mark or a number sign, without line breaks and tabs. -/
def loggedPath (r : WebRequest) : String :=
  String.ofList ((r.path.filter fun c => c != '\t' && c != '\r' && c != '\n').takeWhile fun c => c != '?' && c != '#')

/-- The characters that a location keeps. -/
def isLocationChar (c : Char) : Bool := Text.Percent.isUnreserved c || ":/%#?=@[]!$&'()*+,;".toList.contains c

/-- The address of the request with another path. -/
def locationAt (r : WebRequest) (path : List Char) : String :=
  String.ofList (Text.Percent.encodeWith isLocationChar
    ("http://".toList ++ (r.host.toList ++ (path ++ if r.query.isEmpty then [] else '?' :: r.query))))

/-- Without a query string there are no parameters. -/
theorem parameters_of_query_nil {r : WebRequest} (h : r.query = []) : r.parameters = .empty := by
  rw [parameters, sentQuery, h]
  rfl

/-- The byte of an ASCII character is read as that character. -/
theorem sentQuery_of_ascii {r : WebRequest} (h : ∀ c ∈ r.query, c.toNat < 0x80) : r.sentQuery = r.query := by
  rw [sentQuery]
  generalize r.query = q at h ⊢
  induction q with
  | nil => rfl
  | cons c q ih =>
    have hc : c.toNat < 0x80 := h c (by simp)
    have hv : String.utf8EncodeChar c = [UInt8.ofNat c.toNat] := by
      simp [String.utf8EncodeChar]
      omega
    rw [List.flatMap_cons, List.map_append, ih fun d hd => h d (by simp [hd]), hv]
    simp
    rw [Nat.mod_eq_of_lt (by omega)]
    simp

end WebRequest

end HelixGateway
