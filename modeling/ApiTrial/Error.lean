/-!
What can go wrong, and the wording of each cause. Only a transport error is worth another attempt
of the same request.
-/
namespace ApiTrial

inductive Error where
  | undefinedVariable (key : String)
  | malformedTemplate (template : String) (offset : Nat) (reason : String)
  | fixtureFailed (name reason : String)
  | dependencyCycle (names : List String)
  | unknownFixture (name : String)
  | transport (reason : String)
  | invalidRequest (reason : String)
  | timeout (milliseconds : Nat)
  | assertionFailure (reason : String)
  | scenarioParse (path reason : String)
  | config (reason : String)
  | configParse (reason : String)
  | io (reason : String)
  | fileRead (path reason : String)
  | json (reason : String)
  | internal (reason : String)
  deriving DecidableEq, Repr

namespace Error

def message : Error → String
  | undefinedVariable key =>
    s!"Undefined variable '{key}'. Seed it in the config [variables] table " ++
      "or produce it from a fixture or capture"
  | malformedTemplate template offset reason =>
    s!"Malformed template at byte {offset}: {reason} (in '{template}')"
  | fixtureFailed name reason => s!"Fixture '{name}' failed: {reason}"
  | dependencyCycle names => "Fixture dependency cycle: " ++ " -> ".intercalate names
  | unknownFixture name =>
    s!"Unknown fixture '{name}'. Use 'conformance fixtures' to list registered fixtures"
  | transport reason => s!"Transport error: {reason}"
  | invalidRequest reason => s!"Invalid request: {reason}"
  | timeout milliseconds => s!"Scenario timed out after {milliseconds} ms"
  | assertionFailure reason => s!"Assertion failed: {reason}"
  | scenarioParse path reason => s!"Invalid scenario '{path}': {reason}"
  | config reason => s!"Configuration error: {reason}"
  | configParse reason => s!"Invalid configuration file: {reason}"
  | io reason => s!"IO error: {reason}"
  | fileRead path reason => s!"Failed to read file '{path}': {reason}"
  | json reason => s!"JSON error: {reason}"
  | internal reason => s!"Internal error: {reason}"

/-- Another attempt of the same request could succeed. -/
def isTransport : Error → Bool
  | transport _ => true
  | _ => false

/-- The reason given for a document that is not readable YAML of the wanted shape. -/
def unreadableYaml : String := "<yaml>"

/-- The reason given for a configuration that is not readable TOML of the wanted shape. -/
def unreadableToml : String := "<toml>"

end Error

end ApiTrial
