import HelixGateway.Json.Value

/-!
# Schema documents

A schema declares nodes, edges and vectors, each with typed properties. An edge names the types at its two ends; whether
they are declared is a question of its own, which `dangling` answers.

Main statements: `mem_typeNames_iff`, `dangling_append_edges`.
-/

namespace HelixGateway

/-- The two kinds of things that edges join. -/
inductive VertexKind where
  | node
  | vector
  deriving DecidableEq, Repr

/-- The letter of a kind in declarations. -/
def VertexKind.letter : VertexKind → String
  | .node => "N"
  | .vector => "V"

/-- A declared node or vector type. -/
structure Vertex where
  name : String
  kind : VertexKind
  properties : OrdMap String
  deriving DecidableEq

/-- A declared edge type, from `source` to `target`. -/
structure Edge where
  name : String
  source : String
  target : String
  properties : OrdMap String
  deriving DecidableEq

/-- The declarations of a schema, in order. -/
structure Schema where
  nodes : List Vertex
  edges : List Edge
  vectors : List Vertex
  deriving DecidableEq

/-- The two ends of an edge. -/
inductive EdgeEnd where
  | source
  | target
  deriving DecidableEq, Repr

def EdgeEnd.text : EdgeEnd → String
  | .source => "from"
  | .target => "to"

/-- An end of an edge at a type that is not declared. -/
structure Dangling where
  edge : String
  side : EdgeEnd
  target : String
  deriving DecidableEq, Repr

namespace Schema

/-- The schema without declarations. -/
def empty : Schema := ⟨[], [], []⟩

instance : Inhabited Schema := ⟨empty⟩

/-- The declarations of two schemas, one after the other. -/
def append (s t : Schema) : Schema := ⟨s.nodes ++ t.nodes, s.edges ++ t.edges, s.vectors ++ t.vectors⟩

instance : Append Schema := ⟨append⟩

/-- Schemas may be joined in any grouping. -/
theorem append_assoc (s t u : Schema) : s ++ t ++ u = s ++ (t ++ u) := by
  show append (append s t) u = append s (append t u)
  simp [append]

/-- The names that an edge may have at its ends. -/
def typeNames (s : Schema) : List String := (s.nodes ++ s.vectors).map (·.name)

/-- The type names in the order of their characters' numbers, each once. -/
def sortedTypeNames (s : Schema) : List String := (s.typeNames.mergeSort fun a b => a ≤ b).eraseDups

/-- The ends of an edge that are not among the declared names. -/
def danglingEnds (names : List String) (e : Edge) : List Dangling :=
  [(EdgeEnd.source, e.source), (EdgeEnd.target, e.target)].filterMap fun (side, name) =>
    if names.contains name then none else some ⟨e.name, side, name⟩

/-- The ends of edges at types that are not declared. -/
def dangling (s : Schema) : List Dangling := s.edges.flatMap (danglingEnds s.typeNames)

/-- The names of types are those of the nodes and those of the vectors. -/
theorem mem_typeNames_iff {s : Schema} {name : String} :
    name ∈ s.typeNames ↔ (∃ v ∈ s.nodes, v.name = name) ∨ ∃ v ∈ s.vectors, v.name = name := by
  simp only [typeNames, List.mem_map, List.mem_append]
  constructor
  · rintro ⟨v, hv | hv, rfl⟩
    · exact .inl ⟨v, hv, rfl⟩
    · exact .inr ⟨v, hv, rfl⟩
  · rintro (⟨v, hv, rfl⟩ | ⟨v, hv, rfl⟩)
    · exact ⟨v, .inl hv, rfl⟩
    · exact ⟨v, .inr hv, rfl⟩

/-- Edges that come later are looked at on their own. -/
theorem dangling_append_edges (s : Schema) (more : List Edge) :
    dangling { s with edges := s.edges ++ more } = s.dangling ++ more.flatMap (danglingEnds s.typeNames) := by
  simp only [dangling, List.flatMap_append]
  rfl

end Schema

/-! ## Documents as JSON -/

def Vertex.toJson (kindKey : String) (v : Vertex) : Json :=
  .obj [("name", .str v.name), (kindKey, .str v.kind.letter), ("properties", .ofTexts v.properties.entries)]

def Edge.toJson (e : Edge) : Json :=
  .obj [("name", .str e.name), ("from_node", .str e.source), ("to_node", .str e.target),
    ("properties", .ofTexts e.properties.entries)]

/-- A schema as a JSON document. -/
def Schema.toJson (s : Schema) : Json :=
  .obj [("nodes", .arr (s.nodes.map (Vertex.toJson "node_type"))), ("edges", .arr (s.edges.map Edge.toJson)),
    ("vectors", .arr (s.vectors.map (Vertex.toJson "vector_type")))]

def Dangling.toJson (d : Dangling) : Json :=
  .obj [("edge", .str d.edge), ("end", .str d.side.text), ("target", .str d.target)]

end HelixGateway
