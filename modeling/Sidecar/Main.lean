/-
**The executable.**

Runs the program in the environment of the process.  What would be served needs a cluster, which
this executable has none of, so serving ends where the cluster comes in.
-/

import Sidecar.Program

set_option autoImplicit false

namespace Sidecar.Executable

/-- The text of the help. -/
def helpText : String :=
  "Usage: " ++ programName ++ " [FLAGS] [serve|dump-config] [FLAGS]\n\nFlags:\n"
    ++ String.join (Flag.all.map fun f => "  --" ++ f.name ++ " [env: " ++ f.variableName ++ "]\n")

/-- The text after a misuse. -/
def misuseText : String := "error: misuse of the command line; try --help\n"

/-- What is found under the name of a file. -/
def findFile (name : String) : IO File := do
  try
    pure (.bytes (← IO.FS.readBinFile name))
  catch
    | .noFileOrDirectory .. => pure .missing
    | _ => pure .unreadable

/-- The variables of the environment that matter. -/
def environment : IO Invocation.Environment := do
  let names := Program.filterVariable :: Flag.all.map Flag.variableName
  let found ← names.mapM fun name => do pure (name, ← IO.getEnv name)
  pure fun name => (found.find? fun entry => entry.1 = name).bind (·.2)

/-- Keys are numbered, and no step fails. -/
def attempt : Attempt Nat where
  caKey := 0
  leafKey := 1
  now := Timestamp.epoch
  fault := fun _ => none

/-- The file of the settings that the command line names. -/
def fileName (env : Invocation.Environment) (args : List String) : String :=
  match Invocation.read env args with
  | some (.run _ values) => (values.find? .configFile).getD Program.settingsFile
  | _ => Program.settingsFile

/-- Runs the program and gives the code with which it ends. -/
def runProgram (args : List String) : IO UInt32 := do
  let env ← environment
  let file ← findFile (fileName env args)
  let outcome := Program.run env (fun _ => file) args 0 attempt
  let stderr ← IO.getStderr
  match outcome with
  | .help => IO.print helpText
  | .printed text => IO.print text
  | .misused => stderr.putStr misuseText
  | .failed message => stderr.putStrLn message
  | .ready _ _ =>
    stderr.putStrLn (Program.report "" (.cluster "no cluster to connect to"))
    return 1
  pure outcome.code

end Sidecar.Executable

/-- Runs the program. -/
def main (args : List String) : IO UInt32 :=
  Sidecar.Executable.runProgram args
