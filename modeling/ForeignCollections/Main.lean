import ForeignCollections.Cli.Commands

/-!
The program: reads its environment, runs the command line and prints the outcome.
-/

namespace ForeignCollections.Cli

def readConfigFile (path : String) : IO ConfigFile := do
  try
    return ConfigFile.ofBytes (← IO.FS.readBinFile path)
  catch
    | .noFileOrDirectory .. => return .missing
    | .inappropriateType .. => return .directory
    | e => throw e

def readEnvironment : IO Environment := do
  let home ← IO.getEnv "HOME"
  let named ← IO.getEnv "COLLBRIDGE_CONFIG"
  let disabled ← IO.getEnv "COLLBRIDGE_DISABLED_REGISTRARS"
  let homeFile ←
    match home with
    | some dir => readConfigFile (dir ++ "/.collbridge/config.json")
    | none => pure .missing
  let namedFile ←
    match named with
    | some path => some <$> readConfigFile path
    | none => pure none
  return { homeFile, namedFile, disabledList := disabled }

def usageText : String :=
  "Usage: " ++ programName ++ " types [--json] | classify TYPE | convert TYPE JSON | schema"

end ForeignCollections.Cli

open ForeignCollections.Cli in
def main (args : List String) : IO UInt32 := do
  let outcome := run (← readEnvironment) args
  match outcome with
  | .usage => IO.eprintln usageText
  | .success output => IO.print output
  | .failure reason => IO.eprint reason.text
  return outcome.status.toUInt32
