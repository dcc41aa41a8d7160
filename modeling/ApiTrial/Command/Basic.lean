import ApiTrial.Command.Arguments

/-!
The commands of the program and the arguments that name them.
-/
namespace ApiTrial

/-- Where a command finds its configuration, server and recipes. -/
structure Connection where
  config : Option String := none
  server : Option String := none
  fixtures : Option String := none
  deriving DecidableEq, Repr

/-- A command: run scenarios, check them, list fixtures, or build one. -/
inductive Command where
  | run (paths : List String) (connection : Connection) (filter : Option String)
      (parallel verbose : Bool)
  | check (paths : List String) (connection : Connection)
  | fixtures (directory : Option String)
  | fixture (name : String) (params : List String) (connection : Connection)
  deriving DecidableEq, Repr

namespace Command

def defaultDirectory : String := "scenarios"

/-- The paths that are named, or else the usual directory. -/
def scenarioPaths (paths : List String) : List String :=
  if paths.isEmpty then [defaultDirectory] else paths

def connectionPaths (connection : Connection) : List String :=
  connection.config.toList ++ connection.fixtures.toList

def paths : Command → List String
  | .run paths connection _ _ _ => scenarioPaths paths ++ connectionPaths connection
  | .check paths connection => scenarioPaths paths ++ connectionPaths connection
  | .fixtures directory => directory.toList
  | .fixture _ _ connection => connectionPaths connection

def helpSwitch : Switch :=
  { long := "help", short := some 'h', kind := .help, about := "Print help" }

def fixturesSwitch : Switch where
  long := "fixtures"
  kind := .once
  isPath := true
  about := "Directory of additional YAML fixture definitions"
  valueName := "FIXTURES"

def configSwitch : Switch where
  long := "config"
  short := some 'c'
  kind := .once
  isPath := true
  about := "Configuration file (default: platform config dir)"
  valueName := "CONFIG"

def serverSwitch : Switch where
  long := "server"
  short := some 's'
  kind := .once
  about := "Base URL of the API under test (overrides config)"
  valueName := "SERVER"

/-- The switches of every command that connects to a server. -/
def connectionSwitches : List Switch := [configSwitch, serverSwitch, fixturesSwitch]

def filterSwitch : Switch where
  long := "filter"
  short := some 'f'
  kind := .once
  about := "Only run scenarios whose name contains this text or that carry this tag"
  valueName := "FILTER"

def parallelSwitch : Switch where
  long := "parallel"
  kind := .flag
  about := "Run scenario groups in concurrent lanes"

def paramSwitch : Switch where
  long := "param"
  short := some 'p'
  kind := .each
  about := "Parameter as key=value; values are parsed as JSON when possible"
  valueName := "PARAMS"

/-- The switch for more to be told, and what that is. -/
def verboseSwitch (about : String) : Switch where
  long := "verbose"
  short := some 'v'
  kind := .flag
  about

def pathsAbout : String := "Scenario files or directories (default: ./scenarios)"

def runGrammar : Grammar where
  command := "run"
  about := "Run scenario files against the API"
  switches := connectionSwitches ++ [filterSwitch, parallelSwitch,
    verboseSwitch "Print every exchange, not only those of failed scenarios", helpSwitch]
  standalone := .paths
  standaloneAbout := pathsAbout

def checkGrammar : Grammar where
  command := "check"
  about := "Validate scenario files without sending requests"
  switches := connectionSwitches ++ [helpSwitch]
  standalone := .paths
  standaloneAbout := pathsAbout

def fixturesGrammar : Grammar where
  command := "fixtures"
  about := "List registered fixtures"
  switches := [fixturesSwitch, helpSwitch]
  standalone := .none

def fixtureGrammar : Grammar where
  command := "fixture"
  about := "Build one fixture and print its outputs"
  switches := paramSwitch :: connectionSwitches ++
    [verboseSwitch "Log every request and response", helpSwitch]
  standalone := .one
  standaloneAbout := "Fixture name"

def grammars : List Grammar := [runGrammar, checkGrammar, fixturesGrammar, fixtureGrammar]

def connection (arguments : Arguments) : Connection where
  config := arguments.value? "config"
  server := arguments.value? "server"
  fixtures := arguments.value? "fixtures"

/-- The command of a name with its arguments, if there is one of that name. -/
def ofName? (name : String) (arguments : List String) : Option (Except UsageFault Command) :=
  if name = "run" then some do
    let a ← runGrammar.read arguments
    return .run a.standalone (connection a) (a.value? "filter") (a.has "parallel") (a.has "verbose")
  else if name = "check" then some do
    let a ← checkGrammar.read arguments
    return .check a.standalone (connection a)
  else if name = "fixtures" then some do
    let a ← fixturesGrammar.read arguments
    return .fixtures (a.value? "fixtures")
  else if name = "fixture" then some do
    let a ← fixtureGrammar.read arguments
    return .fixture (a.standalone.headD "") (a.values "param") (connection a)
  else none

def helpName : String := "help"

def helpAbout : String := "Print this message or the help of the given subcommand(s)"

def programPage : HelpPage where
  about := "Black-box HTTP API conformance harness"
  usage := s!"{programName} <COMMAND>"
  sections := [
    ⟨"Commands", grammars.map (fun g => (g.command, g.about)) ++ [(helpName, helpAbout)]⟩,
    ⟨"Options", [("-h, --help", "Print help"), ("-V, --version", "Print version")]⟩]

def helpPage : HelpPage where
  about := helpAbout
  usage := s!"{programName} {helpName} [COMMAND]..."
  sections := [⟨"Arguments", [("[COMMAND]...", "Print help for the subcommand(s)")]⟩]

def page? (name : String) : Option HelpPage :=
  if name = helpName then some helpPage
  else (grammars.find? fun g => g.command == name).map Grammar.page

/-- Help for a command, or for the program. -/
def helpFor : List String → UsageFault
  | [] => .displayHelp programPage
  | [name] => ((page? name).map UsageFault.displayHelp).getD .invalidCommand
  | _ => .invalidCommand

/-- What switches in front of a command lead to; none of them goes together with one. -/
def programSwitch (text : List Char) : UsageFault :=
  let (name, joined) := Reading.splitValue text
  if name = "help" then (if joined.isSome then .tooManyValues else .displayHelp programPage)
  else if name = "version" then (if joined.isSome then .tooManyValues else .displayVersion)
  else .unknownArgument

/-- What a letter in front of a command leads to. -/
def programLetter (c : Char) : UsageFault :=
  if c = 'h' then .displayHelp programPage
  else if c = 'V' then .displayVersion
  else .unknownArgument

/-- The command that the arguments of the program name. -/
def parse : List String → Except UsageFault Command
  | [] => .error .missingCommand
  | first :: rest =>
    if first = helpName then .error (helpFor rest)
    else
      match ofName? first rest, first.toList with
      | some command, _ => command
      | none, ['-', '-'] =>
        match rest with
        | [] => .error .missingCommand
        | name :: _ => .error (if (page? name).isSome then .unknownArgument else .invalidCommand)
      | none, '-' :: '-' :: text => .error (programSwitch text)
      | none, '-' :: c :: _ => .error (programLetter c)
      | none, _ => .error .invalidCommand

end Command

end ApiTrial
