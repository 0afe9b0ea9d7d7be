import HelixGateway.Schema.Block

/-!
# Reading schemas

A schema text is read line by line. A line that starts a declaration is read with its block, and every other line is
passed over, so every text is a schema.

Main statements: `suffix_readFirst`, `parseLines_cons_of_skip`.
-/

namespace HelixGateway.Schema

open Block (Lines isComment vertexHeader? edgePrefix)
open Text (trim)

/-- A schema with one declaration of a vertex. -/
def ofVertex (v : Vertex) : Schema :=
  match v.kind with
  | .node => ⟨[v], [], []⟩
  | .vector => ⟨[], [], [v]⟩

/-- A schema with one declaration of an edge. -/
def ofEdge (e : Edge) : Schema := ⟨[], [e], []⟩

/-- Reads the declaration that starts at the first line, if one does, and gives the lines behind it. -/
def readFirst (l : List Char) (ls : Lines) : Schema × Lines :=
  match Block.readVertex .node l ls with
  | .ok (v, rest) => (ofVertex v, rest)
  | .error _ =>
    match Block.readEdge l ls with
    | .ok (e, rest) => (ofEdge e, rest)
    | .error _ => (.empty, ls)

/-- The lines behind a declaration are the last lines of the text. -/
theorem suffix_readFirst (l : List Char) (ls : Lines) : (readFirst l ls).2 <:+ ls := by
  rw [readFirst]
  split
  · rename_i h
    exact Block.suffix_readVertex h
  · split
    · rename_i h
      exact Block.suffix_readEdge h
    · exact List.suffix_rfl

section FirstLine

variable {l s : List Char} {ls left : Lines}

/-- A line with the header of a node or a vector opens its block. -/
theorem readFirst_of_vertexHeader {kind : VertexKind} (h : vertexHeader? (trim l) = some (kind, s))
    {properties : OrdMap String} (hb : Block.readBody Block.vertexStep .empty (trim l) ls = (properties, left)) :
    readFirst l ls = (ofVertex ⟨Block.blockName s, kind, properties⟩, left) := by
  simp only [readFirst, Block.readVertex, h, hb]

/-- A line that starts as an edge does, and with no other header, opens the block of an edge. -/
theorem readFirst_of_edgePrefix (hv : vertexHeader? (trim l) = none) (he : Text.afterPrefix? edgePrefix (trim l) = some s)
    {state : Block.EdgeState} (hb : Block.readBody Block.edgeStep .start (trim l) ls = (state, left)) :
    readFirst l ls = (ofEdge ⟨Block.blockName s, state.source, state.target, state.properties⟩, left) := by
  simp only [readFirst, Block.readVertex, Block.readEdge, hv, he, hb]

/-- A line that starts no declaration is nothing. -/
theorem readFirst_of_skip (hv : vertexHeader? (trim l) = none) (he : Text.afterPrefix? edgePrefix (trim l) = none)
    (ls : Lines) : readFirst l ls = (.empty, ls) := by
  simp only [readFirst, Block.readVertex, Block.readEdge, hv, he]

end FirstLine

/-- Reads the declarations of the lines of a text. -/
def parseLines (ls : Lines) : Schema :=
  match ls with
  | [] => .empty
  | l :: ls => (readFirst l ls).1 ++ parseLines (readFirst l ls).2
termination_by ls.length
decreasing_by exact Nat.lt_succ_of_le (suffix_readFirst l ls).length_le

/-- Reads a schema. -/
def parse (s : List Char) : Schema := parseLines (Text.lines s)

/-- A line that starts no declaration is passed over. -/
theorem parseLines_cons_of_skip {l : List Char} (ls : Lines) (hv : vertexHeader? (trim l) = none)
    (he : Text.afterPrefix? edgePrefix (trim l) = none) : parseLines (l :: ls) = parseLines ls := by
  rw [parseLines, readFirst_of_skip hv he]
  rfl

end HelixGateway.Schema
