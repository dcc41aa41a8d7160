import ApiTrial.Request.Decode
import ApiTrial.Response.Decode
import ApiTrial.Scenario.Revalidation
import ApiTrial.Yaml.Read

/-!
Scenarios read from documents.
-/
namespace ApiTrial

variable {σ : Type} [Source σ]

/-- The step that a document gives: what is not a field of the step is taken as data, and the
request is made of that. -/
def RequestStep.decode (source : σ) : Decode RequestStep := do
  let entries ← Source.entries source
  let own ← Record.ofEntries ["id", "expect", "capture"] entries
  let id ← own.optional "id" Source.text
  let expect ← own.optional "expect" StatusExpectation.decode
  let capture ← own.withDefault "capture" [] (Source.tableOf Source.text)
  let rest ← (entries.filter fun e => !(["id", "expect", "capture"].contains e.1)).mapM fun e => do
    return (e.1, ← Source.data e.2)
  let request ← RequestTemplate.ofRecord (← Record.ofEntries RequestTemplate.fieldNames rest)
  return { id, request, expect, capture }

def JsonExpectation.decode (source : σ) : Decode JsonExpectation := do
  let record ← Source.record ["pointer", "equals", "exists", "contains"] source
  let pointer ← record.required "pointer" Source.text
  let equals ← record.optional "equals" Source.json
  let exists? ← record.optional "exists" Source.bool
  let contains ← record.optional "contains" Source.text
  return { pointer, equals, exists?, contains }

def HeaderExpectation.decode (source : σ) : Decode HeaderExpectation := do
  let record ← Source.record ["name", "equals", "present"] source
  let name ← record.required "name" Source.text
  let equals ← record.optional "equals" Source.text
  let present ← record.optional "present" Source.bool
  return { name, equals, present }

def VariableExpectation.decode (source : σ) : Decode VariableExpectation := do
  let record ← Source.record ["key", "equals", "present"] source
  let key ← record.required "key" Source.text
  let equals ← record.optional "equals" Source.json
  let present ← record.optional "present" Source.bool
  return { key, equals, present }

def Assertion.decode (source : σ) : Decode Assertion := do
  let record ← Source.record
    ["name", "response", "status", "status_class", "body_empty", "json", "header", "env"] source
  let name ← record.required "name" Source.text
  let response ← record.optional "response" Source.text
  let status ← record.optional "status" (Source.nat statusLimit)
  let statusClass ← record.optional "status_class" StatusClass.decode
  let bodyEmpty ← record.optional "body_empty" Source.bool
  let json ← record.optional "json" JsonExpectation.decode
  let header ← record.optional "header" HeaderExpectation.decode
  let binding ← record.optional "env" VariableExpectation.decode
  return { name, response, status, statusClass, bodyEmpty, json, header, binding }

def Revalidation.decode (source : σ) : Decode Revalidation := do
  let record ← Source.record ["endpoint", "other_endpoint", "auth"] source
  let endpoint ← record.required "endpoint" Source.text
  let otherEndpoint ← record.required "other_endpoint" Source.text
  let auth ← record.optional "auth" Source.text
  return { endpoint, otherEndpoint, auth }

/-- The ready-made part of a scenario that a document names, which is of one kind. -/
def decodeTemplate (source : σ) : Decode Revalidation := do
  match ← Source.entries (← Source.untagged source) with
  | [("conditional_cache", content)] => Revalidation.decode content
  | _ => Decode.refuse

/-- The scenario that a document gives, with its ready-made part put in. -/
def Scenario.decode (source : σ) : Decode Scenario := do
  let record ← Source.record
    ["name", "description", "tags", "group", "timeout_secs", "retries", "fixtures", "setup",
      "actions", "assertions", "teardown", "template"] source
  let name ← record.required "name" Source.text
  let description ← record.optional "description" Source.text
  let tags ← record.withDefault "tags" [] (Source.listOf Source.text)
  let group ← record.optional "group" Source.text
  let timeoutSecs ← record.optional "timeout_secs" (Source.nat UInt64.size)
  let retries ← record.optional "retries" (Source.nat UInt32.size)
  let fixtures ← record.withDefault "fixtures" [] (Source.listOf Fixture.Call.decode)
  let setup ← record.withDefault "setup" [] (Source.listOf RequestStep.decode)
  let actions ← record.withDefault "actions" [] (Source.listOf RequestStep.decode)
  let assertions ← record.withDefault "assertions" [] (Source.listOf Assertion.decode)
  let teardown ← record.withDefault "teardown" [] (Source.listOf RequestStep.decode)
  let template ← record.withDefault "template" none (Source.optionOf decodeTemplate)
  let scenario : Scenario :=
    { name, description, tags, group, timeoutSecs, retries, fixtures, setup, actions, assertions,
      teardown }
  return match template with
    | some revalidation => revalidation.appendTo scenario
    | none => scenario

/-- The scenario of a text, which comes from a named place. -/
def Scenario.parse (text origin : String) : Except Error Scenario :=
  match Yaml.read? Scenario.decode text with
  | none => .error (.scenarioParse origin Error.unreadableYaml)
  | some scenario =>
    match scenario.fault? with
    | some fault => .error (.scenarioParse origin fault.message)
    | none => .ok scenario

end ApiTrial
