import HelixGateway.Decimal.Written
import HelixGateway.Text.Split

/-!
# Arguments

What an argument of the command line is, is told from its spelling alone. A text behind the first `--` is a word, and so is
a text that starts with no dash. An option may be cut short as long as one spelling starts with what is left, and its value
may be attached: behind an equals sign, or right behind a single letter.

Main statements: `classify_append`, `ofText_word`.
-/

namespace HelixGateway.CommandLine

/-- The commands. -/
inductive Command where
  | serve
  | printSchema
  | printEndpoints
  deriving DecidableEq, Repr

namespace Command

def text : Command → String
  | .serve => "serve"
  | .printSchema => "parse-schema"
  | .printEndpoints => "parse-queries"

def all : List Command := [.serve, .printSchema, .printEndpoints]

def ofText? (s : String) : Option Command := all.find? (·.text = s)

end Command

/-- What options are for. -/
inductive Flag where
  | help
  | version
  | databasePort
  | host
  | listenPort
  | logLevel
  deriving DecidableEq, Repr

/-- Where options are looked up: before a command, or behind one. -/
abbrev Scope := Option Command

/-- The options of a scope by their spellings. -/
def spellings : Scope → List (String × Flag)
  | none => [("-h", .help), ("--help", .help), ("--version", .version)]
  | some .serve =>
    [("-h", .help), ("--help", .help), ("--port", .databasePort), ("-p", .databasePort), ("--host", .host),
      ("--listen-port", .listenPort), ("--log-level", .logLevel)]
  | some _ => [("-h", .help), ("--help", .help)]

/-- What is attached to an option: nothing, a text behind an equals sign, or a text right behind the letter. -/
inductive Attached where
  | nothing
  | assigned (text : String)
  | joined (text : String)
  deriving DecidableEq, Repr

def Attached.text? : Attached → Option String
  | .nothing => none
  | .assigned s | .joined s => some s

/-- An argument. -/
inductive Argument where
  | word (text : String)
  | separator
  | option (flag : Flag) (attached : Attached)
  | unknown
  | ambiguous
  deriving DecidableEq, Repr

/-- A negative number, which may end in a line feed. -/
def isNegativeNumber (s : List Char) : Bool :=
  let isDigit (c : Char) : Bool := (Decimal.scriptDigit? c).isSome
  let isNumeral (ds : List Char) : Bool := !ds.isEmpty && ds.all isDigit
  match s with
  | '-' :: s =>
    let s := if s.getLast? = some '\n' then s.dropLast else s
    isNumeral s ||
      match s.dropWhile isDigit with
      | '.' :: ds => isNumeral ds
      | _ => false
  | _ => false

/-- The text before the first equals sign, and what is behind it. -/
def splitValue (s : List Char) : List Char × Attached :=
  match Text.cut ['='] s with
  | some (name, value) => (name, .assigned (String.ofList value))
  | none => (s, .nothing)

/-- The options that a text with a dash in front may mean, none of them in full. -/
def candidates (scope : Scope) (s : List Char) : List Argument :=
  match s with
  | '-' :: '-' :: _ =>
    let (name, attached) := splitValue s
    ((spellings scope).filter fun o => name.isPrefixOf o.1.toList).map fun o => .option o.2 attached
  | '-' :: c :: value =>
    ((spellings scope).filter fun o => o.1.toList = ['-', c]).map fun o => .option o.2 (.joined (String.ofList value))
  | _ => []

namespace Argument

/-- What a text before the first `--` is. -/
def ofText (scope : Scope) (s : String) : Argument :=
  let cs := s.toList
  let flag? (name : List Char) : Option Flag := ((spellings scope).find? (·.1.toList = name)).map Prod.snd
  match cs with
  | '-' :: _ :: _ =>
    match flag? cs, splitValue cs with
    | some flag, _ => .option flag .nothing
    | none, (name, attached) =>
      match flag? name with
      | some flag => .option flag attached
      | none =>
        match candidates scope cs with
        | [o] => o
        | _ :: _ :: _ => .ambiguous
        | [] => if isNegativeNumber cs || cs.contains ' ' then .word s else .unknown
  | _ => .word s

/-- A text without a dash in front is a word. -/
theorem ofText_word (scope : Scope) {s : String} (h : s.toList.head? ≠ some '-') : ofText scope s = .word s := by
  rw [ofText]
  split
  · rename_i hs
    simp [hs] at h
  · rfl

end Argument

/-- What the arguments are, in order. -/
def classify (scope : Scope) : List String → List Argument
  | [] => []
  | s :: rest => if s = "--" then .separator :: rest.map .word else .ofText scope s :: classify scope rest

/-- Arguments before `--` do not depend on what is behind them. -/
theorem classify_append (scope : Scope) {a : List String} (b : List String) (h : "--" ∉ a) :
    classify scope (a ++ b) = classify scope a ++ classify scope b := by
  induction a with
  | nil => rfl
  | cons s a ih =>
    rw [List.mem_cons, not_or] at h
    simp only [List.cons_append, classify, if_neg (Ne.symm h.1), ih h.2]

end HelixGateway.CommandLine
