import HelixGateway.CommandLine.Argument
import HelixGateway.Config

/-!
# Reading the command line

The command stands in front; where none does, the line is that of the server. Options and words may come in any order, but
the first words in a row fill all the places that words have, and places that are still empty stay so. What has no place
makes the line unusable, unless help is asked for before the end is reached.

Main statement: `length_le_of_takeValue`.
-/

namespace HelixGateway.CommandLine

/-- How much is logged. -/
inductive Verbosity where
  | debug
  | info
  | warning
  | error
  deriving DecidableEq, Repr

namespace Verbosity

def text : Verbosity → String
  | .debug => "DEBUG"
  | .info => "INFO"
  | .warning => "WARNING"
  | .error => "ERROR"

/-- The name that the server knows it by. -/
def serverText : Verbosity → String
  | .debug => "debug"
  | .info => "info"
  | .warning => "warning"
  | .error => "error"

def all : List Verbosity := [.debug, .info, .warning, .error]

def ofText? (s : String) : Option Verbosity := all.find? (·.text = s)

end Verbosity

/-- What a server is asked to be. -/
structure ServeRequest where
  source : DataSource := .localDatabase
  cloudUrl : Option String := none
  databasePort : Option Int := none
  host : Option String := none
  listenPort : Option Int := none
  verbosity : Verbosity := .info
  deriving DecidableEq, Repr

/-- What a command line asks for. -/
inductive Request where
  | serve (r : ServeRequest)
  | printSchema (path : String)
  | printEndpoints (path : String)
  deriving DecidableEq, Repr

/-- Why a command line asks for nothing that could be done. -/
inductive Stop where
  | help (scope : Scope)
  | version
  | misuse
  deriving DecidableEq, Repr

/-- What has been read of a command line: the options, the path of a file, whether the places of words have been filled, and
whether there was something that has no place. -/
structure Reading where
  options : ServeRequest := {}
  path : Option String := none
  filled : Bool := false
  surplus : Bool := false
  deriving DecidableEq, Repr

/-! ## Words -/

/-- Takes a word for a place, and the separator in front of it and behind it. The word `--` counts only if the separator
stands at the place too. -/
def takePlace (run : List Argument) : Option String × List Argument :=
  let (before, run) :=
    match run with
    | .separator :: rest => (true, rest)
    | _ => (false, run)
  match run with
  | .word w :: .separator :: rest => (some w, rest)
  | .word w :: rest => (if w = "--" && !before then none else some w, rest)
  | .separator :: rest => (none, rest)
  | _ => (none, run)

/-- Reads words in a row. -/
def takeRun (c : Command) (r : Reading) (run : List Argument) : Except Stop Reading :=
  if r.filled then .ok { r with surplus := true }
  else
    let (first, rest) := takePlace run
    match c with
    | .serve =>
      let (second, rest) := takePlace rest
      let place (source : DataSource) : Reading :=
        { r with
          options := { r.options with source, cloudUrl := second }
          filled := true
          surplus := r.surplus || !rest.isEmpty }
      match first with
      | none => .ok (place .localDatabase)
      | some s =>
        match DataSource.ofText? s with
        | some source => .ok (place source)
        | none => .error .misuse
    | _ =>
      match first with
      | none => .ok { r with surplus := true }
      | some path => .ok { r with path, filled := true, surplus := r.surplus || !rest.isEmpty }

/-! ## Options -/

/-- An integer of an option, if the text is one. -/
def integer? (s : String) : Option Int :=
  match Decimal.written? s.toList with
  | some (.ok n) => some n
  | _ => none

/-- The options with a value set, if it is one of its kind. -/
def set? (r : ServeRequest) (flag : Flag) (value : String) : Option ServeRequest :=
  match flag with
  | .databasePort => (integer? value).map fun n => { r with databasePort := some n }
  | .listenPort => (integer? value).map fun n => { r with listenPort := some n }
  | .host => some { r with host := some value }
  | .logLevel => (Verbosity.ofText? value).map fun v => { r with verbosity := v }
  | .help | .version => none

/-- Whether letters right behind that of help ask for help too. They do unless one is a dash, or one is that of help with an
equals sign behind it, or the last is that of the port with no word behind it for a value. -/
def areLetters (c : Command) (wordFollows : Bool) : List Char → Bool
  | '-' :: _ => false
  | 'h' :: '=' :: _ => false
  | 'h' :: s => s.isEmpty || areLetters c wordFollows s
  | 'p' :: [] => c != .serve || wordFollows
  | _ => true

/-- Whether help is printed, with what is attached to its option. -/
def isHelp (c : Command) (attached : Attached) (wordFollows : Bool) : Bool :=
  match attached with
  | .nothing => true
  | .assigned _ => false
  | .joined s => areLetters c wordFollows s.toList

/-- The value of an option, attached to it or in the next word, and the arguments behind it. -/
def takeValue (attached : Attached) (rest : List Argument) : Option (String × List Argument) :=
  match attached.text?, rest with
  | some value, _ => some (value, rest)
  | none, .word value :: behind => some (value, behind)
  | none, _ => none

/-- Taking the value of an option leaves no more arguments than there were. -/
theorem length_le_of_takeValue {attached : Attached} {rest behind : List Argument} {value : String}
    (h : takeValue attached rest = some (value, behind)) : behind.length ≤ rest.length := by
  rcases attached with _ | t | t <;> rcases rest with _ | ⟨_ | _ | _ | _ | _, rest⟩ <;> cases h <;> simp

/-! ## The line -/

def isWordOrSeparator : Argument → Bool
  | .word _ | .separator => true
  | _ => false

def startsWithWord : List Argument → Bool
  | .word _ :: _ => true
  | _ => false

/-- Reads arguments of a command. -/
def readArguments (c : Command) (r : Reading) (args : List Argument) : Except Stop Reading :=
  match args with
  | [] => .ok r
  | .ambiguous :: _ => .error .misuse
  | .unknown :: rest => readArguments c { r with surplus := true } rest
  | .option .help attached :: rest =>
    .error (if isHelp c attached (startsWithWord rest) then .help (some c) else .misuse)
  | .option flag attached :: rest =>
    match _h : takeValue attached rest with
    | none => .error .misuse
    | some (value, behind) =>
      match set? r.options flag value with
      | some options => readArguments c { r with options } behind
      | none => .error .misuse
  | a :: rest =>
    match takeRun c r (a :: rest.takeWhile isWordOrSeparator) with
    | .error e => .error e
    | .ok r => readArguments c r (rest.dropWhile isWordOrSeparator)
termination_by args.length
decreasing_by
  · simp
  · have := length_le_of_takeValue _h
    simp only [List.length_cons]
    omega
  · have := (List.dropWhile_sublist isWordOrSeparator (l := rest)).length_le
    simp only [List.length_cons]
    omega

/-- What a line asks for once all of it is read. -/
def finish (c : Command) (r : Reading) : Except Stop Request :=
  if r.surplus then .error .misuse
  else
    match c, r.path with
    | .serve, _ => .ok (.serve r.options)
    | .printSchema, some path => .ok (.printSchema path)
    | .printEndpoints, some path => .ok (.printEndpoints path)
    | _, none => .error .misuse

/-- Reads the arguments behind a command. -/
def parseCommand (c : Command) (argv : List String) : Except Stop Request :=
  let args := classify (some c) argv
  if args.contains .ambiguous then .error .misuse else (readArguments c {} args).bind (finish c)

/-- Reads a command line. -/
def parse (argv : List String) : Except Stop Request :=
  if (classify none argv).contains .ambiguous then .error .misuse
  else
    match argv with
    | [] => parseCommand .serve []
    | s :: rest =>
      if s = "-h" ∨ s = "--help" then .error (.help none)
      else if s = "--version" then .error .version
      else
        match Command.ofText? s with
        | some c => parseCommand c rest
        | none => parseCommand .serve (s :: rest)

end HelixGateway.CommandLine
