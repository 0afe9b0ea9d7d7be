import HelixGateway.OrdMap
import HelixGateway.Text.Split
import HelixGateway.Text.Utf8

/-!
# Files and their paths

A disk holds files in directories, and one directory is the working directory, from which a path leads on that does not
start at the root. A path is read part by part: repeated slashes and the part `.` say nothing, and `..` leads to the
directory above, that of the root being the root. A path leads nowhere past what is no directory, nor if it is too long or
meets a part that is.
-/

namespace HelixGateway

open Text (Bytes)

/-- A path: whether it starts at the root, written with one slash or with exactly two, and its parts. -/
structure Path where
  root : String
  parts : List String
  deriving DecidableEq, Repr

namespace Path

/-- The slashes that a path starts with, as far as they matter. -/
def rootOf : List Char → String
  | ['/', '/'] => "//"
  | '/' :: '/' :: c :: _ => if c = '/' then "/" else "//"
  | '/' :: _ => "/"
  | _ => ""

/-- Reads a path. -/
def ofText (s : String) : Path :=
  ⟨rootOf s.toList, ((Text.pieces (· == '/') s.toList).filter fun p => !p.isEmpty && p != ['.']).map String.ofList⟩

/-- A path in its shortest spelling. -/
def text (p : Path) : String :=
  if p.root = "" ∧ p.parts = [] then "." else p.root ++ "/".intercalate p.parts

end Path

/-- What a path leads to. -/
inductive DiskEntry where
  | file (content : Bytes)
  | directory
  deriving DecidableEq

/-- Files and directories by their parts from the root on, and the working directory. -/
structure Disk where
  here : List String
  files : List (List String × Bytes)
  directories : List (List String)
  deriving DecidableEq

namespace Disk

/-- A disk with nothing on it but its working directory. -/
def empty (here : List String) : Disk := ⟨here, [], []⟩

instance : Inhabited Disk := ⟨empty []⟩

/-- The content of the file with the given parts. -/
def file? (d : Disk) (parts : List String) : Option Bytes := (d.files.find? fun f => f.1 = parts).map Prod.snd

/-- Whether parts lead to a directory: the working directory, one above it, or one that was made. -/
def isDirectory (d : Disk) (parts : List String) : Bool := parts.isPrefixOf d.here || d.directories.contains parts

/-- What parts lead to from a directory. -/
def walk (d : Disk) (start : List String) : List String → Option DiskEntry
  | [] => some .directory
  | p :: ps =>
    if p = ".." then d.walk start.dropLast ps
    else if d.isDirectory (start ++ [p]) then d.walk (start ++ [p]) ps
    else if ps.isEmpty then (d.file? (start ++ [p])).map .file
    else none

/-- The directory that a path starts from. -/
def startOf (d : Disk) (path : Path) : List String := if path.root = "" then d.here else []

/-- The greatest size of a name, in bytes. -/
def maxNameSize : Nat := 255

/-- The greatest size of a path, in bytes. -/
def maxPathSize : Nat := 4095

/-- Whether parts lead, through directories, to one with too long a name. -/
def meetsLongName (d : Disk) (start : List String) : List String → Bool
  | [] => false
  | p :: ps =>
    if p = ".." then d.meetsLongName start.dropLast ps
    else maxNameSize < p.utf8ByteSize || (d.isDirectory (start ++ [p]) && d.meetsLongName (start ++ [p]) ps)

/-- Whether a path is too long, or meets too long a name. -/
def isTooLong (d : Disk) (path : Path) : Bool :=
  maxPathSize < path.text.utf8ByteSize || d.meetsLongName (d.startOf path) path.parts

/-- What a path leads to, if to anything. -/
def find? (d : Disk) (path : Path) : Option DiskEntry :=
  if d.isTooLong path then none else d.walk (d.startOf path) path.parts

/-- The place of a path, from the root on. -/
def place (d : Disk) (path : Path) : List String :=
  path.parts.foldl (fun on p => if p = ".." then on.dropLast else on ++ [p]) (d.startOf path)

/-- The directories that lead to a place. -/
def parents (parts : List String) : List (List String) :=
  (List.range parts.length).map fun n => parts.take n

/-- Makes directories, as far as there are none. -/
def makeDirectories (d : Disk) (ps : List (List String)) : Disk :=
  { d with directories := d.directories ++ ps.filter fun p => !d.directories.contains p }

/-- Writes a file, and makes the directories that lead to it. -/
def write (d : Disk) (path : Path) (content : Bytes) : Disk :=
  { d.makeDirectories (parents (d.place path)) with
    files := (d.place path, content) :: d.files.filter (·.1 != d.place path) }

/-- Deletes a file. The directories that lead to it stay. -/
def delete (d : Disk) (path : Path) : Disk := { d with files := d.files.filter (·.1 != d.place path) }

end Disk

end HelixGateway
