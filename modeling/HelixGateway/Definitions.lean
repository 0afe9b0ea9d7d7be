import HelixGateway.Disk
import HelixGateway.Fault
import HelixGateway.Text.Blank
import HelixGateway.Schema.Parser
import HelixGateway.Query.Parser

/-!
# Definition files

Schemas and queries are kept in text files. A file that is not there, is no file, or holds bytes that are no text cannot be
loaded; anything else can, since every text is a schema and a list of queries. A path that is too long is a fault.

Main statement: `loadText_eq_ok_iff`.
-/

namespace HelixGateway

/-- Why a file cannot be loaded. -/
inductive LoadFault where
  | notFound
  | notFile
  | undecodable (e : Text.DecodeError)
  deriving DecidableEq, Repr

/-- The refusal to load the file with a path. -/
structure LoadError where
  path : String
  fault : LoadFault
  deriving DecidableEq, Repr

def LoadError.message (e : LoadError) : String :=
  match e.fault with
  | .notFound => "File not found: " ++ e.path
  | .notFile => "Not a file: " ++ e.path
  | .undecodable d => "Cannot read file: " ++ d.message

/-- What comes of loading: a value, or the refusal to load one, if it is no fault. -/
abbrev Loaded (α : Type) := Except Fault (Except LoadError α)

namespace Loaded

variable {α β : Type}

/-- What is made of a value, if one was loaded. -/
def map (f : α → β) (l : Loaded α) : Loaded β := Except.map (Except.map f) l

end Loaded

namespace Disk

/-- Loads a text, its lines ending in line feeds. -/
def loadText (d : Disk) (path : String) : Loaded (List Char) :=
  let path := Path.ofText path
  if d.isTooLong path then .error (.longPath path.text)
  else
    match d.find? path with
    | none => .ok (.error ⟨path.text, .notFound⟩)
    | some .directory => .ok (.error ⟨path.text, .notFile⟩)
    | some (.file content) =>
      match Text.Utf8.decode content with
      | .error e => .ok (.error ⟨path.text, .undecodable e⟩)
      | .ok s => .ok (.ok (Text.unifyNewlines s))

/-- Loads a schema. -/
def loadSchema (d : Disk) (path : String) : Loaded Schema := Loaded.map Schema.parse (d.loadText path)

/-- Loads queries. -/
def loadQueries (d : Disk) (path : String) : Loaded (List Query) := Loaded.map Query.parse (d.loadText path)

/-- What is loaded is the text of a file. -/
theorem loadText_eq_ok_iff {d : Disk} {path : String} {s : List Char} :
    d.loadText path = .ok (.ok s) ↔
      ∃ content t, d.find? (Path.ofText path) = some (.file content) ∧ Text.Utf8.decode content = .ok t ∧
        s = Text.unifyNewlines t := by
  simp only [loadText]
  constructor
  · intro h
    split at h
    · cases h
    · split at h
      · cases h
      · cases h
      · rename_i content hf
        split at h
        · cases h
        · rename_i t ht
          cases h
          exact ⟨content, t, hf, ht, rfl⟩
  · rintro ⟨content, t, hf, ht, rfl⟩
    have hl : d.isTooLong (Path.ofText path) = false := by
      cases hc : d.isTooLong (Path.ofText path) with
      | false => rfl
      | true => simp [find?, hc] at hf
    simp only [hl, hf, ht]
    rfl

end Disk

end HelixGateway
