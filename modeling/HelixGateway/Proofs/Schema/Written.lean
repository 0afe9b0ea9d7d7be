import HelixGateway.Schema.Parser

/-!
# Written schemas

How a schema is written down: each declaration on lines of its own or on a single line, and blank lines and comments
anywhere between the lines. `Declaration.Writable` says which declarations have a written form at all, and
`Declaration.FitsOneLine` which of them have one on a single line, where commas and braces separate what stands between the
braces and so cannot be part of it.
-/

namespace HelixGateway.Schema

open Block (Lines closing edgePrefix isComment vertexPrefix)
open Text (between? between?_eq_some_iff isBlank isLineBreak join trim trim_surrounded)

/-! ## Declarations -/

/-- A declaration of a node or a vector, or of an edge. -/
inductive Declaration where
  | vertex (v : Vertex)
  | edge (e : Edge)
  deriving DecidableEq

namespace Declaration

def node? : Declaration → Option Vertex
  | .vertex v => if v.kind = .node then some v else none
  | .edge _ => none

def edge? : Declaration → Option Edge
  | .vertex _ => none
  | .edge e => some e

def vector? : Declaration → Option Vertex
  | .vertex v => if v.kind = .vector then some v else none
  | .edge _ => none

/-- What the declaration starts with. -/
def lead : Declaration → List Char
  | .vertex v => vertexPrefix v.kind
  | .edge _ => edgePrefix

def name : Declaration → String
  | .vertex v => v.name
  | .edge e => e.name

def properties : Declaration → OrdMap String
  | .vertex v => v.properties
  | .edge e => e.properties

/-- The names at the ends of an edge; a vertex has none. -/
def ends : Declaration → List String
  | .vertex _ => []
  | .edge e => [e.source, e.target]

end Declaration

/-- The schema of some declarations: the nodes, the edges and the vectors among them, each in order. -/
def ofDeclarations (ds : List Declaration) : Schema :=
  ⟨ds.filterMap (·.node?), ds.filterMap (·.edge?), ds.filterMap (·.vector?)⟩

/-! ## The lines of a declaration -/

/-- How a declaration is laid out: on lines of its own, with a comma behind the properties that are named, or on one
line. -/
inductive Layout where
  | block (comma : String → Bool)
  | oneLine

/-- A property, `name: type`. -/
def propertyText (p : String × String) : List Char := p.1.toList ++ ':' :: ' ' :: p.2.toList

/-- A property with a comma behind it, or without one. -/
def propertyLine (comma : String → Bool) (p : String × String) : List Char :=
  propertyText p ++ if comma p.1 then [','] else []

/-- An end of an edge, `From: name` or `To: name`. -/
def endText (label : String) (name : String) : List Char := label.toList ++ ' ' :: name.toList

/-- The line that opens the properties of an edge. -/
def propertiesLine : List Char := "Properties: ".toList ++ ['\x7b']

/-- Items behind an opening brace on its line, with commas between them and the closing brace behind them. -/
def braced : Lines → List Char
  | [] => ['\x7d']
  | items => ' ' :: (join [',', ' '] items ++ [' ', '\x7d'])

namespace Declaration

/-- The text up to the opening brace. -/
def header (d : Declaration) : List Char := d.lead ++ (d.name.toList ++ [' ', '\x7b'])

/-- The lines between the braces of a declaration. -/
def body (comma : String → Bool) : Declaration → Lines
  | .vertex v => v.properties.entries.map (propertyLine comma)
  | .edge e =>
    (endText "From:" e.source ++ [',']) :: (endText "To:" e.target ++ [',']) :: propertiesLine ::
      (e.properties.entries.map (propertyLine comma) ++ [closing])

/-- The items between the braces of a declaration on one line. -/
def items : Declaration → Lines
  | .vertex v => v.properties.entries.map propertyText
  | .edge e =>
    [endText "From:" e.source, endText "To:" e.target,
      propertiesLine ++ braced (e.properties.entries.map propertyText)]

/-- The lines of a declaration. -/
def render (d : Declaration) : Layout → Lines
  | .block comma => d.header :: (d.body comma ++ [closing])
  | .oneLine => [d.header ++ braced d.items]

end Declaration

/-! ## What can be written -/

/-- A text that is no more than one line. -/
def Unbroken (l : List Char) : Prop := ∀ c ∈ l, isLineBreak c = false

instance (l : List Char) : Decidable (Unbroken l) := inferInstanceAs (Decidable (∀ c ∈ l, isLineBreak c = false))

/-- Two texts are on one line together exactly if each of them is. -/
theorem unbroken_append {a b : List Char} : Unbroken (a ++ b) ↔ Unbroken a ∧ Unbroken b := List.forall_mem_append

theorem unbroken_cons {c : Char} {a : List Char} : Unbroken (c :: a) ↔ isLineBreak c = false ∧ Unbroken a :=
  List.forall_mem_cons

/-- Parts on one line are on one line when joined. -/
theorem unbroken_join {sep : List Char} {parts : Lines} (hsep : Unbroken sep) (h : ∀ a ∈ parts, Unbroken a) :
    Unbroken (join sep parts) := by
  induction parts with
  | nil => exact fun c hc => absurd hc List.not_mem_nil
  | cons a parts ih =>
    cases parts with
    | nil => exact h a (by simp)
    | cons b parts =>
      rw [join, unbroken_append, unbroken_append]
      · exact ⟨h a (by simp), hsep, ih fun x hx => h x (List.mem_cons_of_mem _ hx)⟩
      · simp

/-- A text on one line that has no blanks at its ends. -/
structure PlainText (s : String) : Prop where
  trimmed : trim s.toList = s.toList
  unbroken : Unbroken s.toList

/-- A text that is written as a value, with a comma perhaps behind it. -/
structure ValueText (s : String) : Prop extends PlainText s where
  noComma : s.toList.getLast? ≠ some ','

/-- A property that its line says. A type in brackets is not written: it would be shown as an array. -/
structure WritableProperty (p : String × String) : Prop where
  name : PlainText p.1
  noColon : ':' ∉ p.1.toList
  noComment : isComment p.1.toList = false
  type : ValueText p.2
  noBrackets : ∀ element, p.2.toList ≠ '[' :: (element ++ [']'])

/-- A declaration that its lines say. -/
structure Declaration.Writable (d : Declaration) : Prop where
  name : PlainText d.name
  noBrace : '\x7b' ∉ d.name.toList
  ends : ∀ a ∈ d.ends, ValueText a
  properties : ∀ p ∈ d.properties.entries, WritableProperty p

/-- The characters that end an item between braces. -/
def isMark (c : Char) : Bool := c = '\x7b' || c = '\x7d' || c = ','

/-- A declaration whose items can be told apart on one line. -/
structure Declaration.FitsOneLine (d : Declaration) : Prop where
  ends : ∀ a ∈ d.ends, ∀ c ∈ a.toList, isMark c = false
  properties : ∀ p ∈ d.properties.entries, (∀ c ∈ p.1.toList, isMark c = false) ∧ ∀ c ∈ p.2.toList, isMark c = false

/-- What a declaration needs to be written in a layout. -/
def Declaration.Fits (d : Declaration) : Layout → Prop
  | .block _ => True
  | .oneLine => d.FitsOneLine

instance (s : String) : Decidable (PlainText s) :=
  decidable_of_iff (trim s.toList = s.toList ∧ Unbroken s.toList) ⟨fun h => ⟨h.1, h.2⟩, fun h => ⟨h.trimmed, h.unbroken⟩⟩

instance (s : String) : Decidable (ValueText s) :=
  decidable_of_iff (PlainText s ∧ s.toList.getLast? ≠ some ',')
    ⟨fun ⟨hp, hn⟩ => { hp with noComma := hn }, fun h => ⟨h.toPlainText, h.noComma⟩⟩

/-- Whether brackets stand around a text can be decided. -/
theorem noBrackets_iff {l : List Char} : (∀ element, l ≠ '[' :: (element ++ [']'])) ↔ between? ['['] [']'] l = none := by
  rw [Option.eq_none_iff_forall_ne_some]
  refine forall_congr' fun element => not_congr ?_
  rw [between?_eq_some_iff]
  rfl

instance (p : String × String) : Decidable (WritableProperty p) :=
  decidable_of_iff
    (PlainText p.1 ∧ ':' ∉ p.1.toList ∧ isComment p.1.toList = false ∧ ValueText p.2 ∧ between? ['['] [']'] p.2.toList = none)
    ⟨fun h => ⟨h.1, h.2.1, h.2.2.1, h.2.2.2.1, noBrackets_iff.2 h.2.2.2.2⟩,
      fun h => ⟨h.name, h.noColon, h.noComment, h.type, noBrackets_iff.1 h.noBrackets⟩⟩

instance (d : Declaration) : Decidable d.Writable :=
  decidable_of_iff
    (PlainText d.name ∧ '\x7b' ∉ d.name.toList ∧ (∀ a ∈ d.ends, ValueText a) ∧
      ∀ p ∈ d.properties.entries, WritableProperty p)
    ⟨fun h => ⟨h.1, h.2.1, h.2.2.1, h.2.2.2⟩, fun h => ⟨h.name, h.noBrace, h.ends, h.properties⟩⟩

instance (d : Declaration) : Decidable d.FitsOneLine :=
  decidable_of_iff
    ((∀ a ∈ d.ends, ∀ c ∈ a.toList, isMark c = false) ∧
      ∀ p ∈ d.properties.entries, (∀ c ∈ p.1.toList, isMark c = false) ∧ ∀ c ∈ p.2.toList, isMark c = false)
    ⟨fun h => ⟨h.1, h.2⟩, fun h => ⟨h.ends, h.properties⟩⟩

instance (d : Declaration) (layout : Layout) : Decidable (d.Fits layout) :=
  match layout with
  | .block _ => isTrue trivial
  | .oneLine => inferInstanceAs (Decidable d.FitsOneLine)

/-! ## Spacing -/

/-- A blank that does not end a line. -/
def isIndent (c : Char) : Bool := isBlank c && !isLineBreak c

/-- Indentation is trimmed away. -/
theorem trim_indented {before after : List Char} (hb : ∀ c ∈ before, isIndent c = true)
    (ha : ∀ c ∈ after, isIndent c = true) (l : List Char) : trim (before ++ (l ++ after)) = trim l := by
  have hblank : ∀ c, isIndent c = true → isBlank c = true := fun c hc => (Bool.and_eq_true_iff.1 hc).1
  exact trim_surrounded (fun c hc => hblank c (hb c hc)) (fun c hc => hblank c (ha c hc)) l

theorem unbroken_indented {before l after : List Char} (hb : ∀ c ∈ before, isIndent c = true)
    (ha : ∀ c ∈ after, isIndent c = true) (hl : Unbroken l) : Unbroken (before ++ (l ++ after)) := by
  have hindent : ∀ c, isIndent c = true → isLineBreak c = false := by
    intro c hc
    simpa using (Bool.and_eq_true_iff.1 hc).2
  rw [unbroken_append, unbroken_append]
  exact ⟨fun c hc => hindent c (hb c hc), hl, fun c hc => hindent c (ha c hc)⟩

/-- `Spaced ls ms` says that `ms` are the lines `ls`, indented in any way, with any blank lines and comments before,
between and behind them. -/
inductive Spaced : Lines → Lines → Prop where
  | nil : Spaced [] []
  | keep {ls ms : Lines} (before l after : List Char) (hb : ∀ c ∈ before, isIndent c = true)
      (ha : ∀ c ∈ after, isIndent c = true) : Spaced ls ms → Spaced (l :: ls) ((before ++ (l ++ after)) :: ms)
  | skip {ls ms : Lines} (m : List Char) (hm : (∀ c ∈ m, isBlank c = true) ∨ isComment (trim m) = true)
      (hu : Unbroken m) : Spaced ls ms → Spaced ls (m :: ms)

/-- The same line in front of both is no blank line and no comment. -/
theorem Spaced.same {ls ms : Lines} (l : List Char) (h : Spaced ls ms) : Spaced (l :: ls) (l :: ms) := by
  have hk := Spaced.keep [] l [] (fun c hc => absurd hc List.not_mem_nil) (fun c hc => absurd hc List.not_mem_nil) h
  rwa [List.nil_append, List.append_nil] at hk

end HelixGateway.Schema
