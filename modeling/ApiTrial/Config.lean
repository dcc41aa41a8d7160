import ApiTrial.Document.Source
import ApiTrial.Environment.Basic
import ApiTrial.Files.Basic
import ApiTrial.Network.Client
import ApiTrial.Toml.Read

/-!
The configuration: the server, the tokens of roles, variables that are set at the start, and how
scenarios are run. Variables of the process override the server and the tokens of a file.
-/
namespace ApiTrial

structure ServerConfig where
  baseUrl : String := "http://localhost:8088"
  requestTimeoutSecs : Nat := 30
  deriving DecidableEq, Repr

structure Tokens where
  orgMember : Option String := none
  orgBoxoffice : Option String := none
  user : Option String := none
  deriving DecidableEq, Repr

structure RunnerConfig where
  scenarioTimeoutSecs : Nat := 120
  parallel : Bool := false
  transportRetries : Nat := 0
  retryBackoffMs : Nat := 250
  deriving DecidableEq, Repr

structure Config where
  server : ServerConfig := {}
  tokens : Tokens := {}
  presets : Table Json := []
  runner : RunnerConfig := {}

/-- The roles that have tokens, with their tokens. -/
def Tokens.toList (tokens : Tokens) : List (String × String) :=
  [("org_member", tokens.orgMember), ("org_boxoffice", tokens.orgBoxoffice),
    ("user", tokens.user)].filterMap fun (role, token) => token.map fun t => (role, t)

namespace Config

variable {σ : Type} [Source σ]

def decodeServer (source : σ) : Decode ServerConfig := do
  let default : ServerConfig := {}
  let record ← Source.record ["base_url", "request_timeout_secs"] source
  let baseUrl ← record.withDefault "base_url" default.baseUrl Source.text
  let requestTimeoutSecs ←
    record.withDefault "request_timeout_secs" default.requestTimeoutSecs (Source.nat UInt64.size)
  return { baseUrl, requestTimeoutSecs }

def decodeTokens (source : σ) : Decode Tokens := do
  let record ← Source.record ["org_member", "org_boxoffice", "user"] source
  let orgMember ← record.optional "org_member" Source.text
  let orgBoxoffice ← record.optional "org_boxoffice" Source.text
  let user ← record.optional "user" Source.text
  return { orgMember, orgBoxoffice, user }

def decodeRunner (source : σ) : Decode RunnerConfig := do
  let default : RunnerConfig := {}
  let record ← Source.record
    ["scenario_timeout_secs", "parallel", "transport_retries", "retry_backoff_ms"] source
  let scenarioTimeoutSecs ←
    record.withDefault "scenario_timeout_secs" default.scenarioTimeoutSecs (Source.nat UInt64.size)
  let parallel ← record.withDefault "parallel" default.parallel Source.bool
  let transportRetries ←
    record.withDefault "transport_retries" default.transportRetries (Source.nat UInt32.size)
  let retryBackoffMs ←
    record.withDefault "retry_backoff_ms" default.retryBackoffMs (Source.nat UInt64.size)
  return { scenarioTimeoutSecs, parallel, transportRetries, retryBackoffMs }

def decode (source : σ) : Decode Config := do
  let record ← Source.record ["server", "tokens", "variables", "runner"] source
  let server ← record.withDefault "server" {} decodeServer
  let tokens ← record.withDefault "tokens" {} decodeTokens
  let presets ← record.withDefault "variables" [] (Source.tableOf Source.json)
  let runner ← record.withDefault "runner" {} decodeRunner
  return { server, tokens, presets, runner }

def parse (text : String) : Except Error Config :=
  match (Toml.read? text).bind fun data => Decode.run? decode data with
  | some config => .ok config
  | none => .error (.configParse Error.unreadableToml)

def serverVariable : String := "CONFORMANCE_SERVER"

def orgMemberVariable : String := "CONFORMANCE_ORG_MEMBER_TOKEN"

def orgBoxofficeVariable : String := "CONFORMANCE_ORG_BOXOFFICE_TOKEN"

def userVariable : String := "CONFORMANCE_USER_TOKEN"

/-- The variables of the process that override a configuration. -/
def overriding : List String :=
  [serverVariable, orgMemberVariable, orgBoxofficeVariable, userVariable]

/-- The tokens with those that the process gives. -/
def overrideTokens (process : String → Option String) (tokens : Tokens) : Tokens where
  orgMember := process orgMemberVariable <|> tokens.orgMember
  orgBoxoffice := process orgBoxofficeVariable <|> tokens.orgBoxoffice
  user := process userVariable <|> tokens.user

def withServer (config : Config) (baseUrl? : Option String) : Config :=
  { config with
    server := { config.server with baseUrl := baseUrl?.getD config.server.baseUrl } }

/-- A configuration with what the variables of the process override. -/
def override (process : String → Option String) (config : Config) : Config :=
  { config.withServer (process serverVariable) with
    tokens := overrideTokens process config.tokens }

def ofFile (files : Files) (path : String) : Except Error Config := do
  parse (← files.readText path)

/-- The configuration in the file at a given path, or at the usual one if it is there, or else the
default one; always with the overrides of the process. -/
def load (files : Files) (process : String → Option String) (usual? path? : Option String) :
    Except Error Config := do
  let config ← match path? with
    | some path => ofFile files path
    | none =>
      match usual? with
      | some usual => if files.hasPath usual then ofFile files usual else pure {}
      | none => pure {}
  return config.override process

def client (config : Config) : Client :=
  .new config.server.baseUrl (config.server.requestTimeoutSecs * 1000)
    ⟨config.runner.transportRetries, config.runner.retryBackoffMs⟩

/-- The variable that holds the address of the server. -/
def serverKey : String := "server"

/-- The variables that are set at the start, in this order: the server, tokens, others. -/
def seeds (config : Config) : List (String × Json) :=
  (serverKey, .str config.server.baseUrl) ::
    config.tokens.toList.map (fun (role, token) => (tokenKey role, .str token)) ++
    config.presets

/-- A store in which a scope holds the variables that are set at the start. -/
def seed (config : Config) (scope : ScopeId) (store : Store) : Store :=
  config.seeds.foldl (fun store (key, value) => store.set scope key value) store

end Config

end ApiTrial
