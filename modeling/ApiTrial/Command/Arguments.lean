import ApiTrial.Command.Help

/-!
Arguments of a command: switches with two dashes and a name or one dash and a letter, values behind
switches, and texts that stand alone. A value may be joined to its switch; otherwise it is taken
when the next argument shows that it is complete, so some mistakes are found later than others.
-/
namespace ApiTrial

/-- Why arguments are refused, or what is told instead of running a command. -/
inductive UsageFault where
  | displayHelp (page : HelpPage)
  | displayVersion
  | missingCommand
  | invalidCommand
  | unknownArgument
  | missingArgument
  | invalidValue
  | tooManyValues
  | conflict
  deriving DecidableEq, Repr

/-- What a switch takes: no value, one value once, or one value each time. -/
inductive SwitchKind where
  | help | flag | once | each
  deriving DecidableEq, Repr

/-- A switch, what it means, and what its value is called. A path may not be empty. -/
structure Switch where
  long : String
  short : Option Char := none
  kind : SwitchKind
  isPath : Bool := false
  about : String
  valueName : String := ""
  deriving DecidableEq, Repr

def Switch.takesValue (switch : Switch) : Bool := switch.kind == .once || switch.kind == .each

/-- A switch as a page of help shows it. -/
def Switch.form (switch : Switch) : String :=
  let short := match switch.short with
    | some c => String.ofList ['-', c, ',']
    | none => "   "
  s!"{short} --{switch.long}" ++ if switch.takesValue then s!" <{switch.valueName}>" else ""

/-- The texts that stand alone: none, one under a name, or any number of paths. -/
inductive Standalone where
  | none | one | paths
  deriving DecidableEq, Repr

/-- The texts that stand alone as a page of help shows them. -/
def Standalone.form? : Standalone → Option String
  | none => Option.none
  | one => some "<NAME>"
  | paths => some "[PATHS]..."

def programName : String := "conformance"

/-- The arguments that a command takes, and what it is for. -/
structure Grammar where
  command : String
  about : String
  switches : List Switch
  standalone : Standalone
  standaloneAbout : String := ""

namespace Grammar

/-- How a command is called. A switch for help is not worth a mention. -/
def usage (grammar : Grammar) : String :=
  " ".intercalate <|
    [programName, grammar.command] ++
      (if grammar.switches.any fun s => s.kind != .help then ["[OPTIONS]"] else []) ++
      grammar.standalone.form?.toList

def page (grammar : Grammar) : HelpPage where
  about := grammar.about
  usage := grammar.usage
  sections := [
    ⟨"Arguments", grammar.standalone.form?.toList.map fun f => (f, grammar.standaloneAbout)⟩,
    ⟨"Options", grammar.switches.map fun s => (s.form, s.about)⟩]

end Grammar

/-- An argument whose values are not yet complete: a switch, or the texts that stand alone. -/
inductive Pending where
  | nothing
  | switch (switch : Switch) (values : List String)
  | standalone (values : List String)

/-- The arguments read so far. -/
structure Arguments where
  switches : List (String × String) := []
  standalone : List String := []
  deriving DecidableEq, Repr

namespace Arguments

def values (arguments : Arguments) (long : String) : List String :=
  arguments.switches.filterMap fun (name, value) => if name = long then some value else none

/-- The value of a switch that is given once. -/
def value? (arguments : Arguments) (long : String) : Option String :=
  (arguments.values long).head?

def has (arguments : Arguments) (long : String) : Bool :=
  arguments.switches.any fun s => s.1 == long

/-- The arguments with a switch and its values, which are complete. -/
def take (arguments : Arguments) (grammar : Grammar) (switch : Switch) (values : List String) :
    Except UsageFault Arguments :=
  match switch.kind with
  | .help => .error (.displayHelp grammar.page)
  | .flag =>
    if arguments.has switch.long then .error .conflict
    else .ok { arguments with switches := arguments.switches ++ [(switch.long, "")] }
  | .once | .each =>
    if values.isEmpty then .error .invalidValue
    else if switch.kind == .once && arguments.has switch.long then .error .conflict
    else if switch.isPath && values.contains "" then .error .invalidValue
    else
      .ok { arguments with switches := arguments.switches ++ values.map fun v => (switch.long, v) }

/-- The arguments with what was pending. -/
def settle (arguments : Arguments) (grammar : Grammar) : Pending → Except UsageFault Arguments
  | .nothing => .ok arguments
  | .switch switch values => arguments.take grammar switch values
  | .standalone values =>
    if grammar.standalone == .paths && values.contains "" then .error .invalidValue
    else .ok { arguments with standalone := arguments.standalone ++ values }

end Arguments

/-- The state of reading arguments. After two dashes alone, `bare` is set and all texts stand
alone. -/
structure Reading where
  arguments : Arguments := {}
  pending : Pending := .nothing
  bare : Bool := false

namespace Reading

variable (grammar : Grammar)

/-- The state with nothing pending. -/
def settle (reading : Reading) : Except UsageFault Reading := do
  return { reading with
    arguments := ← reading.arguments.settle grammar reading.pending
    pending := .nothing }

/-- Reads a switch, with the value that is joined to it if there is one. -/
def readSwitch (reading : Reading) (switch : Switch) (joined : Option String) :
    Except UsageFault Reading := do
  if !switch.takesValue && joined.isSome then throw .tooManyValues
  let reading ← reading.settle grammar
  if switch.takesValue && joined.isNone then return { reading with pending := .switch switch [] }
  else return { reading with arguments := ← reading.arguments.take grammar switch joined.toList }

/-- A name and the value behind an equals sign. -/
def splitValue (text : List Char) : String × Option String :=
  match text.span (· != '=') with
  | (name, _ :: value) => (String.ofList name, some (String.ofList value))
  | (name, []) => (String.ofList name, none)

def readLong (reading : Reading) (text : List Char) : Except UsageFault Reading :=
  let (name, joined) := splitValue text
  match grammar.switches.find? fun s => s.long == name with
  | some switch => reading.readSwitch grammar switch joined
  | none => .error .unknownArgument

/-- The value joined to a letter: what follows it, without an equals sign in front. -/
def joinedValue (text : List Char) : Option String :=
  match text with
  | [] => none
  | '=' :: value => some (String.ofList value)
  | value => some (String.ofList value)

/-- Reads switches written as letters behind one dash. -/
def readShort (reading : Reading) : List Char → Except UsageFault Reading
  | [] => .ok reading
  | c :: rest =>
    match grammar.switches.find? fun s => s.short == some c with
    | none => .error .unknownArgument
    | some switch =>
      if switch.takesValue then
        reading.readSwitch grammar switch (joinedValue rest)
      else do
        readShort (← reading.readSwitch grammar switch none) rest

def readStandalone (reading : Reading) (text : String) : Except UsageFault Reading :=
  match grammar.standalone with
  | .none => .error .unknownArgument
  | .one => do
    let taken := match reading.pending with
      | .standalone _ => true
      | _ => !reading.arguments.standalone.isEmpty
    if taken then throw .unknownArgument
    let reading ← reading.settle grammar
    return { reading with pending := .standalone [text] }
  | .paths =>
    match reading.pending with
    | .standalone values => .ok { reading with pending := .standalone (values ++ [text]) }
    | _ => do
      let reading ← reading.settle grammar
      return { reading with pending := .standalone [text] }

def read (reading : Reading) (argument : String) : Except UsageFault Reading :=
  if reading.bare then reading.readStandalone grammar argument
  else
    match argument.toList with
    | ['-', '-'] => .ok { reading with bare := true }
    | '-' :: '-' :: text => reading.readLong grammar text
    | '-' :: c :: text => reading.readShort grammar (c :: text)
    | _ =>
      match reading.pending with
      | .switch switch [] => .ok { reading with pending := .switch switch [argument] }
      | _ => reading.readStandalone grammar argument

end Reading

def Grammar.read (grammar : Grammar) (arguments : List String) : Except UsageFault Arguments := do
  let reading ← arguments.foldlM (Reading.read grammar) {}
  let reading ← reading.settle grammar
  if grammar.standalone == .one && reading.arguments.standalone.isEmpty then throw .missingArgument
  return reading.arguments

end ApiTrial
