import ApiTrial.Command.Run

/-!
The program as a function: from its arguments and what it finds around it to what it writes and the
code that it ends with. The code is 0 if all went well, 1 if a command failed, and 2 if the
arguments name no command.
-/
namespace ApiTrial

/-- The code that the program ends with, what it writes to its output, and what it complains of. -/
structure Ending where
  code : Nat
  output : String := ""
  complaint : String := ""
  deriving DecidableEq, Repr

namespace Program

def version : String := "0.1.0"

/-- The variables of the process that the program looks at. -/
def variableNames : List String :=
  ["XDG_CONFIG_HOME", "HOME"] ++ Config.overriding ++ Text.colourVariables

/-- The path where the configuration usually is. A directory of configurations counts only if it is
named from the top. -/
def usualConfig (process : String → Option String) : Option String :=
  let directory := ((process "XDG_CONFIG_HOME").filter fun d => d.toList.head? == some '/') <|>
    (process "HOME").map (Path.join · ".config")
  directory.map (Path.join · "api-conformance/config.toml")

/-- The paths that the program reads from with some arguments. -/
def paths (usual? : Option String) (arguments : List String) : List String :=
  match Command.parse arguments with
  | .error _ => []
  | .ok command => command.paths ++ usual?.toList

def usageMessage : UsageFault → String
  | .displayHelp page => Console.text page.lines
  | .displayVersion => s!"{programName} {version}\n"
  | .missingCommand => Console.text Command.programPage.lines
  | .invalidCommand => "error: there is no such command\n"
  | .unknownArgument => "error: an argument was not expected\n"
  | .missingArgument => "error: an argument is missing\n"
  | .invalidValue => "error: a value is missing or empty\n"
  | .tooManyValues => "error: a value was not expected\n"
  | .conflict => "error: a switch is given more than once\n"

/-- The end of the program when the arguments name no command. -/
def usageEnding (fault : UsageFault) : Ending :=
  match fault with
  | .displayHelp _ | .displayVersion => { code := 0, output := usageMessage fault }
  | _ => { code := 2, complaint := usageMessage fault }

/-- The end of the program after a command. -/
def ending (outcome : Outcome) : Ending :=
  let output := Console.text outcome.lines
  match outcome.result with
  | .ok () => { code := 0, output }
  | .error e => { code := 1, output, complaint := s!"Error: {e.message}\n" }

def run (around : Surroundings) (colours : Bool) (arguments : List String) : Ending :=
  match Command.parse arguments with
  | .error fault => usageEnding fault
  | .ok command => ending (command.execute around colours)

end Program

end ApiTrial
