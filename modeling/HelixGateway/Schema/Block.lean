import HelixGateway.Schema
import HelixGateway.Text.Split

/-!
# Declaration blocks

A declaration opens with `N::`, `V::` or `E::` and a name, and its block runs from the brace behind the name to the line
that closes it. What stands behind the brace on the first line is cut at braces and commas and read as lines of its own, so
a block may be written on one line. Blank lines and lines that start with two slashes are skipped.

A block reader takes a first line and the lines behind it and gives back the lines behind the block. Only the first line can
be wrong: lines that declare nothing are passed over, and a block that is never closed ends with the text.

Main statements: `suffix_readBody`, `suffix_readVertex`, `suffix_readEdge`.
-/

namespace HelixGateway.Block

open Text

/-- The lines of a text. -/
abbrev Lines := List (List Char)

/-- What a text is expected to declare at some line. -/
inductive Kind where
  | node
  | vector
  | edge
  deriving DecidableEq, Repr

def Kind.text : Kind → String
  | .node => "node"
  | .vector => "vector"
  | .edge => "edge"

/-- Why no block is read at a line. -/
inductive BlockError where
  | invalid (kind : Kind) (line : String)
  | pastEnd
  deriving DecidableEq, Repr

def BlockError.message : BlockError → String
  | .invalid kind _ => "Invalid " ++ kind.text ++ " definition"
  | .pastEnd => "list index out of range"

/-! ## Body lines -/

/-- A line that declares nothing and closes nothing. -/
def isComment (l : List Char) : Bool := "//".toList.isPrefixOf l

/-- The line that closes a block. -/
def closing : List Char := ['\x7d']

/-- Cuts the text behind an opening brace, `current` being read before it, last character first. An inner opening brace
ends its line, a closing brace is a line of its own, and a comma ends a line and is dropped. -/
def cutInline (current : List Char) : List Char → Lines
  | [] => [trim current.reverse]
  | c :: s =>
    if c = '\x7b' then trim (trim current.reverse ++ [' ', '\x7b']) :: cutInline [] s
    else if c = '\x7d' then trim current.reverse :: closing :: cutInline [] s
    else if c = ',' then trim current.reverse :: cutInline [] s
    else cutInline (c :: current) s

/-- The lines that stand behind an opening brace on its line. -/
def inlineLines (s : List Char) : Lines := (cutInline [] s).filter fun l => !l.isEmpty && !isComment l

/-- The text behind the first opening brace, none if there is no brace. -/
def behindBrace (header : List Char) : List Char :=
  match cut ['\x7b'] header with
  | some (_, s) => s
  | none => []

/-- The state after a body line, and whether the line closes the block. -/
structure Outcome (σ : Type) where
  state : σ
  closed : Bool

/-- Takes body lines up to the one that closes the block; the lines behind it are none if no line does. -/
def takeLines {σ : Type} (step : σ → List Char → Outcome σ) (state : σ) : Lines → σ × Option Lines
  | [] => (state, none)
  | l :: ls =>
    let o := step state l
    if o.closed then (o.state, some ls) else takeLines step o.state ls

/-- Takes lines as they stand in a text: trimmed, blank lines and comments skipped. -/
def takeTextLines {σ : Type} (step : σ → List Char → Outcome σ) (state : σ) : Lines → σ × Lines
  | [] => (state, [])
  | l :: ls =>
    let l := trim l
    if l.isEmpty || isComment l then takeTextLines step state ls
    else
      let o := step state l
      if o.closed then (o.state, ls) else takeTextLines step o.state ls

/-- Reads the body of the block that the line `header` opens, and gives the lines behind the block. -/
def readBody {σ : Type} (step : σ → List Char → Outcome σ) (state : σ) (header : List Char) (rest : Lines) : σ × Lines :=
  match takeLines step state (inlineLines (behindBrace header)) with
  | (state, some _) => (state, rest)
  | (state, none) => takeTextLines step state rest

/-! ## Properties -/

/-- The display form of a type: brackets are written as an array of what they hold. -/
def displayType (t : List Char) : List Char :=
  match between? ['['] [']'] t with
  | some element => "Array<".toList ++ (element ++ ['>'])
  | none => t

/-- Reads `name: Type`, with or without commas behind it. -/
def parseProperty? (line : List Char) : Option (String × String) :=
  (cut [':'] (dropEndWhile (· == ',') (trim line))).map fun (name, type) =>
    (String.ofList (trim name), String.ofList (displayType (trim type)))

/-- Adds the property of a line, if it has one. -/
def addProperty (properties : OrdMap String) (line : List Char) : OrdMap String :=
  match parseProperty? line with
  | some (name, type) => properties.insert name type
  | none => properties

/-- A line of a node or a vector. -/
def vertexStep (properties : OrdMap String) (line : List Char) : Outcome (OrdMap String) :=
  if line = closing then ⟨properties, true⟩ else ⟨addProperty properties line, false⟩

/-! ## Edges -/

/-- What is read of an edge so far. -/
structure EdgeState where
  source : String
  target : String
  inProperties : Bool
  properties : OrdMap String

def EdgeState.start : EdgeState := ⟨"", "", false, .empty⟩

/-- The name behind the label of an edge's end, without commas at its end. -/
def endName (s : List Char) : String := String.ofList (trim (dropEndWhile (· == ',') (trim s)))

/-- Whether a line opens the properties of an edge: the word, a colon and a brace, with blanks anywhere between. -/
def opensProperties (line : List Char) : Bool :=
  match afterPrefix? "Properties".toList line with
  | some s =>
    match s.dropWhile isBlank with
    | ':' :: s => s.dropWhile isBlank = ['\x7b']
    | _ => false
  | none => false

/-- A line of an edge. A closing brace closes the properties if they are open, and the block otherwise. -/
def edgeStep (state : EdgeState) (line : List Char) : Outcome EdgeState :=
  if state.inProperties then
    if line = closing then ⟨{ state with inProperties := false }, false⟩
    else ⟨{ state with properties := addProperty state.properties line }, false⟩
  else if line = closing then ⟨state, true⟩
  else
    match afterPrefix? "From:".toList line with
    | some s => ⟨{ state with source := endName s }, false⟩
    | none =>
      match afterPrefix? "To:".toList line with
      | some s => ⟨{ state with target := endName s }, false⟩
      | none => ⟨{ state with inProperties := opensProperties line }, false⟩

/-! ## Blocks -/

/-- What the declarations of nodes, vectors and edges start with. -/
def vertexPrefix : VertexKind → List Char
  | .node => "N::".toList
  | .vector => "V::".toList

def edgePrefix : List Char := "E::".toList

/-- The name behind the start of a declaration, up to the brace. -/
def blockName (s : List Char) : String := String.ofList (trim (before ['\x7b'] s))

/-- The kind of vertex that a line declares, and what follows the start of the declaration. -/
def vertexHeader? (header : List Char) : Option (VertexKind × List Char) :=
  match afterPrefix? (vertexPrefix .node) header with
  | some s => some (.node, s)
  | none => (afterPrefix? (vertexPrefix .vector) header).map (.vector, ·)

/-- Reads the block of a node or a vector; `expected` is named if the first line declares neither. -/
def readVertex (expected : Kind) (first : List Char) (rest : Lines) : Except BlockError (Vertex × Lines) :=
  let header := trim first
  match vertexHeader? header with
  | none => .error (.invalid expected (String.ofList header))
  | some (kind, s) =>
    let (properties, rest) := readBody vertexStep .empty header rest
    .ok (⟨blockName s, kind, properties⟩, rest)

/-- Reads the block of an edge. -/
def readEdge (first : List Char) (rest : Lines) : Except BlockError (Edge × Lines) :=
  let header := trim first
  match afterPrefix? edgePrefix header with
  | none => .error (.invalid .edge (String.ofList header))
  | some s =>
    let (state, rest) := readBody edgeStep .start header rest
    .ok (⟨blockName s, state.source, state.target, state.properties⟩, rest)

/-- The lines from a cursor on. A cursor below zero counts from the end, and the text is read again from its start there. -/
def linesFrom (ls : Lines) (cursor : Int) : Lines :=
  if 0 ≤ cursor then ls.drop cursor.toNat
  else if cursor < -(ls.length : Int) then []
  else ls.drop (ls.length + cursor).toNat ++ ls

/-- Reads a block at a cursor and moves the cursor behind it. -/
def readAt {α : Type} (reader : List Char → Lines → Except BlockError (α × Lines)) (ls : Lines) (cursor : Int) :
    Except BlockError (α × Int) :=
  match linesFrom ls cursor with
  | [] => .error .pastEnd
  | first :: rest =>
    (reader first rest).map fun (block, left) => (block, cursor + (1 + rest.length - left.length))

/-! ## What block readers leave -/

/-- What a body leaves unread is the end of the lines. -/
theorem suffix_takeTextLines {σ : Type} (step : σ → List Char → Outcome σ) (state : σ) (ls : Lines) :
    (takeTextLines step state ls).2 <:+ ls := by
  induction ls generalizing state with
  | nil => exact List.nil_suffix
  | cons l ls ih =>
    rw [takeTextLines]
    simp only
    split
    · exact (ih state).trans (List.suffix_cons l ls)
    · split
      · exact List.suffix_cons l ls
      · exact (ih _).trans (List.suffix_cons l ls)

/-- A block ends at a line behind its first one, and leaves the lines from there on. -/
theorem suffix_readBody {σ : Type} (step : σ → List Char → Outcome σ) (state : σ) (header : List Char) (rest : Lines) :
    (readBody step state header rest).2 <:+ rest := by
  rw [readBody]
  split
  · exact List.suffix_rfl
  · exact suffix_takeTextLines step _ rest

/-- What the block of a node or a vector leaves unread is the end of the lines. -/
theorem suffix_readVertex {expected : Kind} {first : List Char} {rest left : Lines} {v : Vertex}
    (h : readVertex expected first rest = .ok (v, left)) : left <:+ rest := by
  rw [readVertex] at h
  simp only at h
  split at h
  · cases h
  · simp only [Except.ok.injEq, Prod.mk.injEq] at h
    rw [← h.2]
    exact suffix_readBody _ _ _ _

/-- What the block of an edge leaves unread is the end of the lines. -/
theorem suffix_readEdge {first : List Char} {rest left : Lines} {e : Edge}
    (h : readEdge first rest = .ok (e, left)) : left <:+ rest := by
  rw [readEdge] at h
  simp only at h
  split at h
  · cases h
  · simp only [Except.ok.injEq, Prod.mk.injEq] at h
    rw [← h.2]
    exact suffix_readBody _ _ _ _

end HelixGateway.Block
