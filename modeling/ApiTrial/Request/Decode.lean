import ApiTrial.Document.Source
import ApiTrial.Request.Basic

/-!
Requests read from documents.
-/
namespace ApiTrial

variable {σ : Type} [Source σ]

def Method.decode (source : σ) : Decode Method := do
  Decode.ofOption (Method.ofWord? (← Source.choice (Method.all.map Method.word) source))

/-- The body that a document gives: a text as it is, anything else as a value. -/
def BodyTemplate.decode (source : σ) : Decode BodyTemplate := do
  match ← Source.data source with
  | .text content => return .text content
  | data => return .json (← Decode.ofOption data.toJson?)

/-- The fields of a request, in the order of a positional document. -/
def RequestTemplate.fieldNames : List String := ["method", "path", "headers", "auth", "body"]

def RequestTemplate.ofRecord (record : Record σ) : Decode RequestTemplate := do
  let method ← record.required "method" Method.decode
  let path ← record.required "path" Source.text
  let headers ← record.withDefault "headers" [] (Source.tableOf Source.text)
  let auth ← record.withDefault "auth" none (Source.optionOf Source.text)
  let body ← record.withDefault "body" none (Source.optionOf BodyTemplate.decode)
  return { method, path, headers, auth, body }

def RequestTemplate.decode (source : σ) : Decode RequestTemplate := do
  ofRecord (← Source.record fieldNames source)

end ApiTrial
