import ApiTrial.Document.Source
import ApiTrial.Json.Printer

/-!
Calls of fixtures. Calls of one identity are one build.
-/
namespace ApiTrial.Fixture

/-- The parameters of a build. -/
abbrev Params := Table Json

/-- The values that a build produces. -/
abbrev Outputs := Table Json

/-- A fixture to be built with parameters. -/
structure Call where
  name : String
  params : Params := []

/-- The name, and the parameters as JSON text if there are any. -/
def Call.identity (call : Call) : String :=
  if call.params.isEmpty then call.name else call.name ++ (Json.obj call.params).render

def Outputs.retain (keys : List String) (outputs : Outputs) : Outputs :=
  outputs.filter fun entry => keys.contains entry.1

def Call.decode {σ : Type} [Source σ] (source : σ) : Decode Call := do
  let record ← Source.record ["name", "params"] source
  let name ← record.required "name" Source.text
  let params ← record.withDefault "params" [] (Source.tableOf Source.json)
  return { name, params }

def Call.toJson (call : Call) : Json :=
  .obj [("name", .str call.name), ("params", .obj call.params)]

end ApiTrial.Fixture
