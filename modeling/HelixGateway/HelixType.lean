import HelixGateway.Text.Split

/-!
# Types of values

A type is one of eight scalar types, or an array of a type. Its text is the scalar's name, or the element type in brackets;
an array may also be written `Array(T)`. Nothing else is a type, and a text that is none is refused with what remains of it
once all array forms around it are taken off.

Main statement: `parse_text`, by which every type is read back from its text.
-/

namespace HelixGateway

/-- The types of single values. -/
inductive ScalarType where
  | string
  | i32
  | i64
  | u32
  | u64
  | u128
  | f64
  | id
  deriving DecidableEq, Repr

/-- A type of values. -/
inductive HelixType where
  | scalar (s : ScalarType)
  | array (element : HelixType)
  deriving DecidableEq, Repr

namespace ScalarType

def name : ScalarType → String
  | .string => "String"
  | .i32 => "I32"
  | .i64 => "I64"
  | .u32 => "U32"
  | .u64 => "U64"
  | .u128 => "U128"
  | .f64 => "F64"
  | .id => "ID"

def all : List ScalarType := [.string, .i32, .i64, .u32, .u64, .u128, .f64, .id]

/-- The scalar type with a name, upper and lower case being different. -/
def ofName? (s : List Char) : Option ScalarType := all.find? fun t => t.name.toList = s

/-- A scalar type is read from its name and from nothing else. -/
theorem ofName?_eq_some_iff {s : List Char} {t : ScalarType} : ofName? s = some t ↔ s = t.name.toList := by
  constructor
  · intro h
    have := List.find?_some (show List.find? (fun t => decide (t.name.toList = s)) all = some t from h)
    exact (of_decide_eq_true this).symm
  · rintro rfl
    cases t <;> decide

end ScalarType

namespace HelixType

open Text

/-- A text that is no type. -/
structure UnknownType where
  text : String
  deriving DecidableEq, Repr

def UnknownType.message (e : UnknownType) : String := "Parse error: Unknown type: " ++ e.text

def isArray : HelixType → Bool
  | .array _ => true
  | .scalar _ => false

def textChars : HelixType → List Char
  | .scalar s => s.name.toList
  | .array t => '[' :: (textChars t ++ [']'])

/-- The text of a type. Arrays stand in brackets. -/
def text (t : HelixType) : String := String.ofList t.textChars

/-- What stands inside the brackets of an array type. -/
def bracketed? (s : List Char) : Option (List Char) := between? ['['] [']'] s

/-- What stands inside the parentheses of an array type that is written with its name. -/
def parenthesized? (s : List Char) : Option (List Char) := between? "Array(".toList [')'] s

/-- What stands inside an array form, the brackets first. -/
def element? (s : List Char) : Option (List Char) := (bracketed? s).or (parenthesized? s)

/-- The element type of an array stands in a shorter text. -/
theorem length_lt_of_element? {s r : List Char} (h : element? s = some r) : r.length < s.length := by
  rw [element?, Option.or_eq_some_iff] at h
  rcases h with h | ⟨_, h⟩
  · exact length_lt_of_between? (by simp) h
  · exact length_lt_of_between? (by decide) h

def parseChars (s : List Char) : Except UnknownType HelixType :=
  match ScalarType.ofName? s with
  | some t => .ok (.scalar t)
  | none =>
    match _h : element? s with
    | some r => (parseChars r).map .array
    | none => .error ⟨String.ofList s⟩
termination_by s.length
decreasing_by exact length_lt_of_element? _h

/-- Reads a type. -/
def parse (s : String) : Except UnknownType HelixType := parseChars s.toList

/-- The name of a scalar type is read as the type. -/
theorem parseChars_name (t : ScalarType) : parseChars t.name.toList = .ok (.scalar t) := by
  rw [parseChars, ScalarType.ofName?_eq_some_iff.2 rfl]

/-- An array form is no scalar's name, so its element is read. -/
theorem parseChars_of_element? {s r : List Char} (h : element? s = some r) :
    parseChars s = (parseChars r).map .array := by
  have hn : ScalarType.ofName? s = none := by
    cases hs : ScalarType.ofName? s with
    | none => rfl
    | some t =>
      rw [ScalarType.ofName?_eq_some_iff.1 hs] at h
      cases t <;> exact absurd h (by simp [element?, bracketed?, parenthesized?, between?, afterPrefix?, ScalarType.name])
  rw [parseChars, hn]
  simp only
  split
  · rename_i r' h'
    rw [h] at h'
    cases h'
    rfl
  · rename_i h'
    rw [h] at h'
    cases h'

/-- A text that is neither a scalar's name nor an array form is no type. -/
theorem parseChars_of_none {s : List Char} (hn : ScalarType.ofName? s = none) (he : element? s = none) :
    parseChars s = .error ⟨String.ofList s⟩ := by
  rw [parseChars, hn]
  simp only
  split
  · rename_i r h
    rw [he] at h
    cases h
  · rfl

/-- What stands in brackets is the element type. -/
theorem element?_bracketed (r : List Char) : element? ('[' :: (r ++ [']'])) = some r := by
  have h : between? ['['] [']'] ('[' :: (r ++ [']'])) = some r := between?_eq_some_iff.2 rfl
  rw [element?, bracketed?, h]
  rfl

/-- A type is read back from its text. -/
theorem parseChars_textChars (t : HelixType) : parseChars t.textChars = .ok t := by
  induction t with
  | scalar s => exact parseChars_name s
  | array t ih =>
    rw [textChars, parseChars_of_element? (element?_bracketed _), ih]
    rfl

/-- A type is read back from its text. -/
theorem parse_text (t : HelixType) : parse t.text = .ok t := by
  rw [parse, text, String.toList_ofList, parseChars_textChars]

/-- Types with the same text are the same. -/
theorem text_injective {t u : HelixType} (h : t.text = u.text) : t = u := by
  have hp := parse_text t
  rw [h, parse_text] at hp
  exact (Except.ok.inj hp).symm

end HelixType

end HelixGateway
