/-
**Invocations of the program.**

The arguments of the command line come in one or two levels: flags of the program, and then perhaps
the name of a command with flags of its own, which are the same ones.  In each level a flag may be
given once.  Its value follows an equals sign, or is the next argument, which then must not look
like a flag.

A value comes from the command's flag, or else from the program's, or else from the environment.
The values of the environment are looked at in each level that does not give the flag, so a bad one
does no harm only if both do.

Main definitions:

* `Sidecar.Argument` — what a single argument is;
* `Sidecar.Level.read` — what the arguments of a level say;
* `Sidecar.Invocation.read` — what the arguments and the environment say.
-/

import Sidecar.CommandLine.Flag

set_option autoImplicit false

namespace Sidecar

/-- What the program does. -/
inductive Command where
  | serve
  | dumpConfig
deriving DecidableEq

namespace Command

/-- The name of the command. -/
def name : Command → String
  | serve => "serve"
  | dumpConfig => "dump-config"

/-- The command of a name. -/
def ofName? (name : String) : Option Command :=
  [serve, dumpConfig].find? fun c => c.name = name

end Command

/-! ### Single arguments -/

/-- What an argument is. -/
inductive Argument where
  /-- Two dashes, after which there are no flags. -/
  | escape
  /-- A name after two dashes, and what follows the equals sign after it. -/
  | long (name : String) (value : Option String)
  /-- Letters after a dash. -/
  | short (letters : List Char)
  | word (text : String)
deriving DecidableEq

namespace Argument

/-- What the text is. -/
def ofText (text : String) : Argument :=
  match text.toList with
  | ['-', '-'] => .escape
  | '-' :: '-' :: cs =>
    let name := String.ofList (cs.takeWhile (· ≠ '='))
    match cs.dropWhile (· ≠ '=') with
    | [] => .long name none
    | _ :: value => .long name (some (String.ofList value))
  | '-' :: c :: cs => .short (c :: cs)
  | _ => .word text

/-- Whether the text can be the value of the flag before it. -/
def isValue (text : String) : Bool :=
  match ofText text with
  | .word _ => true
  | _ => false

end Argument

/-! ### Levels -/

/-- The values given to flags in a level. -/
abbrev FlagValues := List (Flag × String)

namespace FlagValues

/-- The value given to a flag. -/
def find? (values : FlagValues) (f : Flag) : Option String :=
  (List.find? (fun entry => entry.1 = f) values).map (·.2)

/-- The values after one more has been given: none if it will not do, or the flag has one. -/
def give? (values : FlagValues) (f : Flag) (value : String) : Option FlagValues :=
  if f.accepts value ∧ values.find? f = none then some ((f, value) :: values) else none

end FlagValues

/-- What the arguments of a level say. -/
inductive Level where
  | help
  | version
  /-- Flags with values, and the command with the arguments after it. -/
  | flags (values : FlagValues) (command : Option (Command × List String))
deriving DecidableEq

namespace Level

/-- What letters after a dash say; only the program has a version. -/
def ofLetters? (isProgram : Bool) : List Char → Option Level
  | 'h' :: _ => some .help
  | 'V' :: _ => if isProgram then some .version else none
  | _ => none

/-- Reads the arguments of a level, the program's or a command's, after some of its flags; none if
they are misused. -/
def read (isProgram : Bool) (values : FlagValues) : List String → Option Level
  | [] => some (.flags values none)
  | arg :: rest =>
    match Argument.ofText arg with
    | .escape => if rest.isEmpty then some (.flags values none) else none
    | .short letters => ofLetters? isProgram letters
    | .word text =>
      if !isProgram then none
      else if text = "help" then
        match rest with
        | [] => some .help
        | [topic] =>
          if (Command.ofName? topic).isSome ∨ topic = "help" then some .help else none
        | _ => none
      else (Command.ofName? text).map fun command => .flags values (some (command, rest))
    | .long name value =>
      match Flag.ofName? name, value with
      | some f, some value =>
        (values.give? f value).bind fun values => read isProgram values rest
      | some f, none =>
        match rest with
        | [] => none
        | value :: rest =>
          if Argument.isValue value then
            (values.give? f value).bind fun values => read isProgram values rest
          else none
      | none, some _ => none
      | none, none =>
        if name = "help" then some .help
        else if name = "version" ∧ isProgram then some .version
        else none

end Level

/-! ### The whole command line -/

/-- What the program is asked for. -/
inductive Invocation where
  | help
  | version
  /-- A command, with the values of all flags that have one. -/
  | run (command : Command) (values : FlagValues)
deriving DecidableEq

namespace Invocation

/-- Variables of the environment. -/
abbrev Environment := String → Option String

/-- The values that the environment gives to the flags that have none; none if one will not do. -/
def fill (env : Environment) (values : FlagValues) : Option FlagValues :=
  Flag.all.foldlM
    (fun values f =>
      match values.find? f, env f.variableName with
      | none, some value => values.give? f value
      | _, _ => some values)
    values

/-- Reads the arguments and the environment; none if they are misused. -/
def read (env : Environment) (args : List String) : Option Invocation := do
  match ← Level.read true [] args with
  | .help => some .help
  | .version => some .version
  | .flags values none => some (.run .serve (← fill env values))
  | .flags values (some (command, args)) =>
    match ← Level.read false [] args with
    | .help => some .help
    | .version => some .version
    | .flags inner _ =>
      let _ ← fill env inner
      let _ ← fill env values
      some (.run command (← fill env (inner ++ values)))

end Invocation

end Sidecar
