import FormLogic.CommandLine.Run

/-!
# The program

Reads the files that a command names, runs the command, and prints what it answers.
-/

namespace FormLogic.CommandLine

/-- The paths of the files that a command may read. -/
def Command.paths : Command → List String
  | .check configuration _ => [configuration]
  | .describe configuration => [configuration]
  | .visibility configuration data => [configuration, data]
  | .validate configuration data _ => [configuration, data]
  | .cascade configuration _ previous data _ => [configuration, previous, data]
  | .defaults configuration overrides => configuration :: overrides.toList
  | .format => []

/-- The failure behind an error of the system. -/
def ReadFailure.ofError : IO.Error → ReadFailure
  | .noFileOrDirectory _ _ _ => .missing
  | .permissionDenied _ number _ => .system "Permission denied" number.toNat
  | .inappropriateType _ number _ => .system "Is a directory" number.toNat
  | e => .system (toString e) 0

/-- The text of a file. -/
def readText (path : String) : IO (Except ReadFailure String) := do
  try
    let bytes ← IO.FS.readBinFile path
    match String.fromUTF8? bytes with
    | some text => return .ok text
    | none => return .error .notUnicode
  catch e => return .error (.ofError e)

/-- Runs a command on the files of the system. -/
def execute (command : Command) : IO UInt32 := do
  let contents ← command.paths.mapM fun path => do return (path, ← readText path)
  let outcome := run (fun path => (contents.lookup path).getD (.error .missing)) command
  IO.print outcome.output
  match outcome.complaint with
  | some complaint => IO.eprintln ("Error: " ++ Text.quoted complaint.message)
  | none => pure ()
  return outcome.exitCode.toUInt32

/-- The commands and their options. -/
def usage : String :=
  "Declarative form engine\n\n" ++
    "  check --config CONFIG [--component NAME]...\n" ++
    "  describe --config CONFIG\n" ++
    "  visibility --config CONFIG --data DATA\n" ++
    "  validate --config CONFIG --data DATA [--policy skip|validate|warn]\n" ++
    "  cascade --config CONFIG --field FIELD --previous PREVIOUS --data DATA [--apply]\n" ++
    "  defaults --config CONFIG [--overrides OVERRIDES]\n" ++
    "  schema"

end FormLogic.CommandLine

/-- Runs the command that the arguments ask for. -/
def main (args : List String) : IO UInt32 := do
  match FormLogic.CommandLine.readArguments args with
  | .run command => FormLogic.CommandLine.execute command
  | .help =>
      IO.println FormLogic.CommandLine.usage
      return 0
  | .misuse =>
      IO.eprintln FormLogic.CommandLine.usage
      return FormLogic.CommandLine.misuseCode.toUInt32
