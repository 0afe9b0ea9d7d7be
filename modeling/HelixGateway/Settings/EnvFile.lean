import HelixGateway.OrdMap
import HelixGateway.Text.Split

/-!
# Files of variables

A file of variables holds a binding a line, `NAME=value`, with `export` in front or without. A value may stand in quotes,
and then it may run over several lines; a value without quotes ends with its line or with a comment. A line that is no
binding is skipped up to its end. In a value, a name in braces behind a dollar sign stands for the variable of that name,
with an optional default.

Main statement: `bindings_nil`.
-/

namespace HelixGateway.EnvFile

open Text (isBlank)

/-- A part that is read and the text behind it, or the text from which reading could not go on. -/
abbrev Step (α : Type) := Except (List Char) (α × List Char)

/-- The blanks within a line. -/
def isGap (c : Char) : Bool := isBlank c && c != '\n'

def skipGap (s : List Char) : List Char := s.dropWhile isGap

def isLineEnd (c : Char) : Bool := c == '\n'

/-- The text behind the line that goes on here. -/
def dropLine (s : List Char) : List Char := (s.dropWhile (!isLineEnd ·)).drop 1

/-- The text behind the word that may stand in front of a binding. -/
def dropExport (s : List Char) : List Char :=
  match Text.afterPrefix? "export".toList s with
  | some r => if (r.takeWhile isGap).isEmpty then s else skipGap r
  | none => s

/-- Reads a nonempty text of characters of a class. -/
def readRun (p : Char → Bool) (s : List Char) : Step (List Char) :=
  if (s.takeWhile p).isEmpty then .error s else .ok (s.takeWhile p, s.dropWhile p)

/-- Reads the name of a variable. A comment has none. -/
def readName (s : List Char) : Step (Option (List Char)) :=
  match s with
  | '#' :: _ => .ok (none, s)
  | '\'' :: r =>
    match readRun (· != '\'') r with
    | .ok (name, _ :: r) => .ok (some name, r)
    | _ => .error s
  | _ => (readRun (fun c => !(c == '=' || c == '#' || isBlank c)) s).map fun (name, r) => (some name, r)

/-! ## Values -/

/-- The text before the closing quote. A backslash and the character behind it belong together, so that neither of them
closes the value. -/
def untilQuote (quote : Char) : List Char → Option (List Char × List Char)
  | '\\' :: c :: s => (untilQuote quote s).map fun (a, b) => ('\\' :: c :: a, b)
  | c :: s => if c = quote then some ([], s) else (untilQuote quote s).map fun (a, b) => (c :: a, b)
  | [] => none

/-- Replaces backslashes with the character behind them, where the pair is an escape. -/
def unescape (escape? : Char → Option Char) : List Char → List Char
  | '\\' :: c :: s =>
    match escape? c with
    | some d => d :: unescape escape? s
    | none => '\\' :: unescape escape? (c :: s)
  | c :: s => c :: unescape escape? s
  | [] => []
termination_by s => s.length

/-- The escapes between single quotes. -/
def singleEscape? : Char → Option Char
  | '\\' => some '\\'
  | '\'' => some '\''
  | _ => none

/-- The escapes between double quotes. -/
def doubleEscape? : Char → Option Char
  | '\\' => some '\\'
  | '\'' => some '\''
  | '"' => some '"'
  | 'a' => some '\x07'
  | 'b' => some '\x08'
  | 'f' => some '\x0c'
  | 'n' => some '\n'
  | 'r' => some '\r'
  | 't' => some '\t'
  | 'v' => some '\x0b'
  | _ => none

/-- Reads a quoted value behind its opening quote; `opening` is the text from that quote on. -/
def readQuoted (opening : List Char) (quote : Char) (escape? : Char → Option Char) (s : List Char) : Step (List Char) :=
  match untilQuote quote s with
  | some (value, r) => .ok (unescape escape? value, r)
  | none => .error opening

/-- The text before a comment, which has a blank before its number sign. -/
def beforeComment : List Char → List Char
  | [] => []
  | c :: s => if isBlank c && ((c :: s).dropWhile isBlank).head? == some '#' then [] else c :: beforeComment s

/-- The value in a line without quotes: the line without its comment and the blanks around the rest. -/
def plainValue (line : List Char) : List Char := Text.trimEnd (skipGap (beforeComment line))

/-- Reads a value behind the equals sign. The gap there counts as the blank before a comment. -/
def readValue (s : List Char) : Step (List Char) :=
  match skipGap s with
  | '\'' :: r => readQuoted ('\'' :: r) '\'' singleEscape? r
  | '"' :: r => readQuoted ('"' :: r) '"' doubleEscape? r
  | _ => .ok (plainValue (s.takeWhile (!isLineEnd ·)), s.dropWhile (!isLineEnd ·))

/-- Reads the equals sign and the value behind it, if the sign stands here. -/
def readAssignment (s : List Char) : Step (Option (List Char)) :=
  match s with
  | '=' :: r => (readValue r).map fun (value, r) => (some value, r)
  | s => .ok (none, s)

/-! ## Lines -/

/-- The text behind a comment and the end of the line, or the text where something else stands in the line. -/
def readLineEnd (s : List Char) : Except (List Char) (List Char) :=
  let behind := if (skipGap s).head? = some '#' then s.dropWhile (!isLineEnd ·) else s
  match skipGap behind with
  | [] => .ok []
  | c :: r => if isLineEnd c then .ok r else .error behind

/-- Reads a binding that starts here, and its line to the end. -/
def readBinding (s : List Char) : Except (List Char) (Option (List Char × Option (List Char)) × List Char) :=
  match readName (dropExport s) with
  | .error e => .error e
  | .ok (name, s) =>
    match readAssignment (skipGap s) with
    | .error e => .error e
    | .ok (value, s) => (readLineEnd s).map fun r => (name.map (·, value), r)

/-- The bindings of a text as they are written. A binding takes at least one character. -/
def rawBindings (s : List Char) : List (List Char × Option (List Char)) :=
  match s.dropWhile isBlank with
  | [] => []
  | c :: t =>
    let (found, rest) :=
      match readBinding (c :: t) with
      | .ok (b, r) => (b.toList, r)
      | .error e => ([], dropLine e)
    if rest.length < s.length then found ++ rawBindings rest else found
termination_by s.length

/-! ## Variables in values -/

/-- Reads a variable in braces: its name, its default, and the text behind it. -/
def braced? (s : List Char) : Option (List Char × List Char × List Char) :=
  let name := s.takeWhile fun c => c != '\x7d' && c != ':'
  match s.dropWhile fun c => c != '\x7d' && c != ':' with
  | ':' :: '-' :: r =>
    match r.dropWhile (· != '\x7d') with
    | _ :: rest => some (name, r.takeWhile (· != '\x7d'), rest)
    | [] => none
  | '\x7d' :: rest => some (name, [], rest)
  | _ => none

/-- Replaces the variables in a value; `value?` tells a variable's value, which may be missing. -/
def substitute (value? : String → Option (Option String)) (s : List Char) : List Char :=
  match s with
  | [] => []
  | '$' :: '\x7b' :: r =>
    match braced? r with
    | some (name, absent, rest) =>
      let value :=
        match value? (String.ofList name) with
        | some v => (v.getD "").toList
        | none => absent
      if rest.length < r.length then value ++ substitute value? rest else value
    | none => '$' :: substitute value? ('\x7b' :: r)
  | c :: r => c :: substitute value? r
termination_by s.length

/-- The names of the variables in a text. -/
def references : List Char → List String
  | [] => []
  | '$' :: '\x7b' :: r =>
    match braced? r with
    | some (name, _, _) => String.ofList name :: references r
    | none => references r
  | _ :: r => references r

/-- The bindings with their variables replaced, those before a binding counting before the environment. A name that is
bound again keeps its place. -/
def resolve (environment : Entries String) (known : Entries (Option String)) :
    List (List Char × Option (List Char)) → Entries (Option String)
  | [] => known
  | (name, value) :: bs =>
    let value? (k : String) : Option (Option String) := (known.get? k).or ((environment.get? k).map some)
    resolve environment
      (known.insert (String.ofList name) (value.map fun v => String.ofList (substitute value? v))) bs

/-- The text without the byte order mark that may stand in front. -/
def dropMark : List Char → List Char
  | '\ufeff' :: s => s
  | s => s

/-- The variables that a file binds. -/
def bindings (environment : Entries String) (s : List Char) : Entries (Option String) :=
  resolve environment [] (rawBindings (dropMark s))

/-- An empty file binds nothing. -/
theorem bindings_nil (environment : Entries String) : bindings environment [] = [] := by
  rw [bindings, dropMark, rawBindings]
  · rfl
  · simp

end HelixGateway.EnvFile
