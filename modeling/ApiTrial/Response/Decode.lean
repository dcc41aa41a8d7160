import ApiTrial.Document.Source
import ApiTrial.Response.Status

/-!
Status classes and expectations read from documents.
-/
namespace ApiTrial

variable {σ : Type} [Source σ]

def StatusClass.decode (source : σ) : Decode StatusClass := do
  Decode.ofOption (StatusClass.parse? (← Source.text source))

/-- The number of status codes that a document can give. -/
def statusLimit : Nat := 65536

/-- The expectation that a document gives: a code as a number, a class as a text. -/
def StatusExpectation.decode (source : σ) : Decode StatusExpectation := do
  let data ← Source.data source
  match data with
  | .int _ => return .code (← Source.nat statusLimit data)
  | data => return .oneOf (← StatusClass.decode data)

end ApiTrial
