import HelixGateway.Validation
import HelixGateway.Schema
import HelixGateway.Query
import HelixGateway.HelixType.Alias

/-!
# What a database tells about itself

An introspection holds a schema and the queries that the database knows, with the types of their parameters. A query is
listed under its own name, and a parameter whose type is no text counts as a text there but has no type in the catalogue.

Main statement: `types_toQuery`.
-/

namespace HelixGateway

/-- A query that the database knows; the values of its parameters are types when they are texts. -/
structure KnownQuery where
  name : String
  parameters : Entries Json

/-- A schema and queries as a database reports them. -/
structure Introspection where
  schema : Schema
  queries : List KnownQuery

namespace Json

/-- Checks a value of two letters that stand for kinds of vertices. -/
def checkKind : Json → Checked VertexKind
  | .str s => if s = "N" then .ok .node else if s = "V" then .ok .vector else .fail .notListed
  | _ => .fail .notListed

/-- Checks a node or a vector. -/
def checkVertex (kindKey : String) (kind : VertexKind) : Json → Checked Vertex
  | .obj fields =>
    ((required checkText fields "name").both
      ((optional checkKind fields [kindKey] kind).both (optional checkTexts fields ["properties"] .empty))).map
        fun (name, kind, properties) => ⟨name, kind, properties⟩
  | _ => .fail .notObject

/-- Checks an edge. Its ends have two names each, of which the longer one counts if both are there. -/
def checkEdge : Json → Checked Edge
  | .obj fields =>
    ((required checkText fields "name").both
      ((optional checkText fields ["from_node", "from"] "").both
        ((optional checkText fields ["to_node", "to"] "").both
          (optional checkTexts fields ["properties"] .empty)))).map
            fun (name, source, target, properties) => ⟨name, source, target, properties⟩
  | _ => .fail .notObject

/-- Checks a schema document. -/
def checkSchema : Json → Checked Schema
  | .obj fields =>
    ((optional (checkList (checkVertex "node_type" .node)) fields ["nodes"] []).both
      ((optional (checkList checkEdge) fields ["edges"] []).both
        (optional (checkList (checkVertex "vector_type" .vector)) fields ["vectors"] []))).map
          fun (nodes, edges, vectors) => ⟨nodes, edges, vectors⟩
  | _ => .fail .notObject

/-- The entries of an object; other values have none. -/
def entries : Json → Entries Json
  | .obj fields => fields
  | _ => []

/-- Checks a query of an introspection. Anything may stand for its parameters. -/
def checkKnownQuery : Json → Checked KnownQuery
  | .obj fields =>
    ((required checkText fields "name").both
      (optional (fun v => .ok v.entries) fields ["parameters"] [])).map fun (name, parameters) => ⟨name, parameters⟩
  | _ => .fail .notObject

/-- Checks an introspection. -/
def checkIntrospection : Json → Checked Introspection
  | .obj fields =>
    ((optional checkSchema fields ["schema", "schema_"] .empty).both
      (optional (checkList checkKnownQuery) fields ["queries"] [])).map fun (schema, queries) => ⟨schema, queries⟩
  | _ => .fail .notObject

end Json

namespace KnownQuery

/-- The name of the type that a listing shows for a parameter. -/
def listedType : Json → String
  | .str s => HelixType.normalize s
  | _ => "String"

/-- The query as it is served: under its name as it is, by the method that follows from the name. -/
def toQuery (q : KnownQuery) : Query :=
  ⟨q.name, q.parameters.map fun e => ⟨e.1, listedType e.2⟩, Query.methodFor q.name, Query.pathRoot ++ "/" ++ q.name⟩

/-- The declared types, where they are texts. -/
def types (q : KnownQuery) : OrdMap String :=
  .ofEntries (q.parameters.filterMap fun (k, v) =>
    match v with
    | .str s => some (k, s)
    | _ => none)

end KnownQuery

namespace Introspection

/-- The queries as they are served. -/
def served (d : Introspection) : List Query := d.queries.map (·.toQuery)

/-- The declared types of the first query with a name. -/
def catalogue (d : Introspection) (name : String) : OrdMap String :=
  match d.queries.find? (·.name = name) with
  | some q => q.types
  | none => .empty

end Introspection

/-- The listing of a known query keeps its parameters, each with the type that is shown for it. -/
theorem types_toQuery (q : KnownQuery) :
    q.toQuery.types = .ofEntries (q.parameters.map fun e => (e.1, KnownQuery.listedType e.2)) := by
  simp [KnownQuery.toQuery, Query.types, Function.comp_def]

end HelixGateway
