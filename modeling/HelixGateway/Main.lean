import HelixGateway.CommandLine

/-!
# The program

Runs the command line against the environment and the files of the process. All that is decided is decided before anything
is printed; what is launched is told to the error output, and to listen is left to the host of the service.
-/

namespace HelixGateway.CommandLine

/-- Puts what a path leads to on a disk, with the directories on the way. -/
def survey (disk : Disk) (name : String) : IO Disk := do
  let path := Path.ofText name
  let part (n : Nat) : Path := { path with parts := path.parts.take n }
  let mut disk := disk
  for n in [1 : path.parts.length + 1] do
    if ← ((← IO.currentDir) / (part n).text).isDir then
      disk := disk.makeDirectories [disk.place (part n)]
  try
    return disk.write path (← IO.FS.readBinFile path.text).toList
  catch _ =>
    return disk

/-- The variables of the process that settings can depend on. -/
def environmentOf (disk : Disk) : IO (Entries String) :=
  (Settings.variablesInUse disk).filterMapM fun k => do return (← IO.getEnv k).map (k, ·)

/-- Tells the error output how a command ended, if not by itself, and what it launches. -/
def report (o : Outcome) : IO UInt32 := do
  match o.launched with
  | some l => IO.eprintln ("Launched " ++ l.config.source.text ++ " on " ++ l.host ++ ":" ++ toString l.port)
  | none => pure ()
  match o.ending with
  | .returned code => return code.toUInt32
  | .stopped code => return code.toUInt32
  | .misconfigured e =>
    IO.eprintln e.message
    return 1
  | .broken f =>
    IO.eprintln f.message
    return 1

/-- Runs a command line in the working directory. -/
def runHere (argv : List String) : IO UInt32 := do
  let here := (Path.ofText (← IO.currentDir).toString).parts
  let disk ← (Settings.fileName :: argv).foldlM survey (Disk.empty here)
  let outcome := run (← environmentOf disk) disk argv
  IO.print outcome.output
  report outcome

end HelixGateway.CommandLine

/-- Runs the command line. -/
def main (argv : List String) : IO UInt32 := HelixGateway.CommandLine.runHere argv
