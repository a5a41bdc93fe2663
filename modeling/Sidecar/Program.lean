/-
**The program.**

Asked for help or for its version, the program prints it.  Otherwise it reads its settings, from a
file that may be missing and then from the command line and the environment, and either writes them
as a file that would say the same, or gets ready to serve.

Main definitions:

* `Sidecar.FlagValues.change` — settings with what the command line says;
* `Sidecar.Program.Outcome`, `Sidecar.Program.run` — what comes of the program.

Main result: `Sidecar.FlagValues.change_nil` — without flags and variables the file decides.
-/

import Sidecar.CommandLine.Invocation
import Sidecar.Startup

set_option autoImplicit false

namespace Sidecar

/-- The settings with the values that are given. -/
def FlagValues.change (values : FlagValues) (s : Settings) : Settings :=
  Flag.all.foldl
    (fun s f => ((values.find? f).bind fun value => f.change? value s).getD s)
    s

@[simp] theorem FlagValues.change_nil (s : Settings) : FlagValues.change [] s = s := rfl

namespace Program

/-- The version of the program. -/
def version : String := "0.1.0"

/-- The file of the settings unless another is named. -/
def settingsFile : String := "/etc/kube-sidecar-injector/config.yaml"

/-- The variable of the environment that may hold a filter of the log. -/
def filterVariable : String := "RUST_LOG"

/-- What comes of the program. -/
inductive Outcome (κ : Type) where
  | help
  | printed (text : String)
  | misused
  /-- It stops with a message. -/
  | failed (message : String)
  | ready (settings : Settings) (prepared : Prepared κ)

/-- The code with which the program ends. -/
def Outcome.code {κ : Type} : Outcome κ → UInt32
  | help | printed _ | ready _ _ => 0
  | failed _ => 1
  | misused => 2

/-- The message of an error that ends the program. -/
def report (file : String) (e : StartupError) : String :=
  "Error: " ++ e.message file

/-- Does what a command asks for. -/
def execute {κ : Type} (command : Command) (values : FlagValues) (filter : Option String)
    (files : String → File) (serial : BitVec 128) (t : Attempt κ) : Outcome κ :=
  let file := (values.find? .configFile).getD settingsFile
  match Settings.ofOptionalFile (files file) with
  | .error cause => .failed (report file (.settings cause))
  | .ok s =>
    let s := values.change s
    match command with
    | .dumpConfig => .printed ("---\n" ++ s.toYaml)
    | .serve =>
      match s.prepare filter serial t with
      | .error e => .failed (report file e)
      | .ok prepared => .ready s prepared

/-- Runs the program in an environment with some files. -/
def run {κ : Type} (env : Invocation.Environment) (files : String → File) (args : List String)
    (serial : BitVec 128) (t : Attempt κ) : Outcome κ :=
  match Invocation.read env args with
  | none => .misused
  | some .help => .help
  | some .version => .printed (programName ++ " " ++ version ++ "\n")
  | some (.run command values) => execute command values (env filterVariable) files serial t

end Program

end Sidecar
