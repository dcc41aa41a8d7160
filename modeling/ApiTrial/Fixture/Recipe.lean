import ApiTrial.Fixture.Basic
import ApiTrial.Request.Decode
import ApiTrial.Response.Decode
import ApiTrial.Yaml.Read

/-!
Recipes: fixtures written down in documents as a list of requests and what to take from their
responses.
-/
namespace ApiTrial

/-- One request of a recipe. -/
structure Recipe.Step where
  name : String
  request : RequestTemplate
  expect : StatusClass := .success
  extract : Table String := []

/-- A recipe. A parameter of a call replaces the default of that name. -/
structure Recipe where
  name : String
  description : Option String := none
  dependsOn : List Fixture.Call := []
  requires : List String := []
  params : Fixture.Params := []
  steps : List Recipe.Step
  outputs : List String

namespace Recipe

variable {σ : Type} [Source σ]

def Step.decode (source : σ) : Decode Step := do
  let record ← Source.record ["name", "request", "expect", "extract"] source
  let name ← record.required "name" Source.text
  let request ← record.required "request" RequestTemplate.decode
  let expect ← record.withDefault "expect" .success StatusClass.decode
  let extract ← record.withDefault "extract" [] (Source.tableOf Source.text)
  return { name, request, expect, extract }

def decode (source : σ) : Decode Recipe := do
  let record ← Source.record
    ["name", "description", "depends_on", "requires", "params", "steps", "outputs"] source
  let name ← record.required "name" Source.text
  let description ← record.withDefault "description" none (Source.optionOf Source.text)
  let dependsOn ← record.withDefault "depends_on" [] (Source.listOf Fixture.Call.decode)
  let requires ← record.withDefault "requires" [] (Source.listOf Source.text)
  let params ← record.withDefault "params" [] (Source.tableOf Source.json)
  let steps ← record.required "steps" (Source.listOf Step.decode)
  let outputs ← record.required "outputs" (Source.listOf Source.text)
  return { name, description, dependsOn, requires, params, steps, outputs }

/-- The recipe of a text, which comes from a named place. -/
def parse (text origin : String) : Except Error Recipe :=
  match Yaml.read? decode text with
  | none => .error (.scenarioParse origin Error.unreadableYaml)
  | some recipe =>
    if recipe.steps.isEmpty then
      .error (.scenarioParse origin s!"fixture '{recipe.name}' has no steps")
    else .ok recipe

/-- Sets each default that the call does not replace. -/
def setDefaults (context : Fixture.Context) (params : Fixture.Params) :
    List (String × Json) → Trial Unit
  | [] => pure ()
  | (key, value) :: rest => do
    -- The call's own parameters are in the scope already.
    if !params.contains key then context.set key value
    setDefaults context params rest

/-- Sets what the response of a step has at each source. -/
def extractAll (context : Fixture.Context) (stage : String) (response : Response) :
    List (String × String) → Trial Unit
  | [] => pure ()
  | (key, source) :: rest => do
    let value ← Trial.ofExcept (context.extract stage response source)
    context.set key value
    extractAll context stage response rest

/-- Carries out steps, one after the other. -/
def runSteps (context : Fixture.Context) : List Step → Trial Unit
  | [] => pure ()
  | step :: rest => do
    let response ← context.request step.name step.request step.expect
    extractAll context step.name response step.extract
    runSteps context rest

def build (recipe : Recipe) (context : Fixture.Context) (params : Fixture.Params) :
    Trial Fixture.Outputs := do
  setDefaults context params recipe.params
  runSteps context recipe.steps
  context.outputs recipe.outputs

def fixture (recipe : Recipe) : Fixture where
  name := recipe.name
  description := recipe.description.getD ""
  dependencies := fun _ => recipe.dependsOn
  requires := recipe.requires
  outputs := recipe.outputs
  build := recipe.build

end Recipe

end ApiTrial
