import HelixGateway.OrdMap
import HelixGateway.Text.Kebab
import HelixGateway.Text.Split

/-!
# Queries and their endpoints

A query has a name and parameters with declared types, and is served by a method at a path. Both follow from its name: what
creates is posted, and the path is the name in kebab case, with one placeholder for each parameter that identifies
something. A path is resolved back to the first query that it fits.

Main statements: `resolve_eq_some_iff`, `entries_bind`.
-/

namespace HelixGateway

/-- A method of the endpoints of queries. -/
inductive Method where
  | get
  | post
  | put
  | delete
  deriving DecidableEq, Repr

def Method.text : Method → String
  | .get => "GET"
  | .post => "POST"
  | .put => "PUT"
  | .delete => "DELETE"

/-- A parameter with the name of its type. -/
structure Parameter where
  name : String
  type : String
  deriving DecidableEq, Repr

/-- A parameter that identifies something is part of the path: it is named `id`, or its name ends so. -/
def Parameter.inPath (p : Parameter) : Bool :=
  p.name = "id" || (Text.beforeSuffix? "_id".toList p.name.toList).isSome

/-- A query and where it is served. -/
structure Query where
  name : String
  parameters : List Parameter
  method : Method
  path : String
  deriving DecidableEq, Repr

namespace Query

/-- The beginnings of names that call for another method than reading; the first that fits counts. -/
def methodPrefixes : List (String × Method) := [
  ("create", .post), ("add", .post), ("update", .put), ("delete", .delete), ("remove", .delete)]

/-- The method of a query, from the beginning of its name in any case. -/
def methodFor (name : String) : Method :=
  let lowered := name.toList.flatMap Text.lower
  ((methodPrefixes.find? fun p => p.1.toList.isPrefixOf lowered).map Prod.snd).getD .get

/-- The name of a query as it stands in its path. -/
def slug (name : String) : String := String.ofList (Text.kebab name.toList)

/-- What all paths of queries start with. -/
def pathRoot : String := "/api/query"

/-- The path of a query: its slug, and a placeholder in braces for each identifying parameter. -/
def pathFor (name : String) (parameters : List Parameter) : String :=
  let placeholders := (parameters.filter (·.inPath)).map fun p => "/\x7b" ++ p.name ++ "\x7d"
  pathRoot ++ "/" ++ slug name ++ String.join placeholders

/-- A query served at the place that follows from its name. -/
def derived (name : String) (parameters : List Parameter) : Query :=
  ⟨name, parameters, methodFor name, pathFor name parameters⟩

/-- The parameters that are part of the path. -/
def pathParameters (q : Query) : List Parameter := q.parameters.filter (·.inPath)

/-- Whether a path that names `slug` and has `count` segments behind it fits the query. -/
def fits (q : Query) (slug : String) (count : Nat) : Bool :=
  (Query.slug q.name = slug || q.name = slug) && q.pathParameters.length = count

/-- The values of the path parameters, in order; a parameter that repeats has its last value. -/
def bind (q : Query) (segments : List String) : OrdMap String :=
  .ofEntries ((q.pathParameters.map (·.name)).zip segments)

/-- The first query that a path fits, with the values of its path parameters. -/
def resolve (queries : List Query) (slug : String) (segments : List String) : Option (Query × OrdMap String) :=
  (queries.find? (·.fits slug segments.length)).map fun q => (q, q.bind segments)

/-- The types of a query's parameters; of a parameter that repeats the last one counts. -/
def types (q : Query) : OrdMap String := .ofEntries (q.parameters.map fun p => (p.name, p.type))

/-- The types of the parameters of the first query with a name. -/
def catalogue (queries : List Query) (name : String) : OrdMap String :=
  match queries.find? (·.name = name) with
  | some q => q.types
  | none => .empty

/-- A query fits a path exactly if the path starts with its slug or its name and has as many segments behind that as the query
has path parameters. -/
theorem fits_iff {q : Query} {slug : String} {count : Nat} :
    q.fits slug count = true ↔ (Query.slug q.name = slug ∨ q.name = slug) ∧ q.pathParameters.length = count := by
  rw [fits, Bool.and_eq_true, Bool.or_eq_true, decide_eq_true_eq, decide_eq_true_eq, decide_eq_true_eq]

/-- A path leads to the first query that fits it, with the values of the path bound to its parameters. -/
theorem resolve_eq_some_iff {queries : List Query} {slug : String} {segments : List String} {q : Query}
    {values : OrdMap String} :
    resolve queries slug segments = some (q, values) ↔
      queries.find? (·.fits slug segments.length) = some q ∧ values = q.bind segments := by
  rw [resolve, Option.map_eq_some_iff]
  constructor
  · rintro ⟨q', hq, he⟩
    simp only [Prod.mk.injEq] at he
    obtain ⟨rfl, rfl⟩ := he
    exact ⟨hq, rfl⟩
  · rintro ⟨hq, rfl⟩
    exact ⟨q, hq, rfl⟩

/-- A path leads to one of the queries. -/
theorem mem_of_resolve {queries : List Query} {slug : String} {segments : List String} {q : Query}
    {values : OrdMap String} (h : resolve queries slug segments = some (q, values)) : q ∈ queries :=
  List.mem_of_find?_eq_some (resolve_eq_some_iff.1 h).1

/-- The values are bound to the path parameters, if there are as many of both and no parameter repeats. -/
theorem entries_bind {q : Query} {segments : List String} (hd : (q.pathParameters.map (·.name)).Nodup)
    (hl : q.pathParameters.length = segments.length) :
    (q.bind segments).entries = (q.pathParameters.map (·.name)).zip segments := by
  refine Entries.collapse_of_nodup ?_
  rw [Entries.keys, List.map_fst_zip (by simp [hl])]
  exact hd

end Query

end HelixGateway
