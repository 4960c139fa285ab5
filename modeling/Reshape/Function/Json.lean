/-
Functions between values and JSON text.
-/
import Reshape.Function.Basic
import Reshape.Value.Json

namespace Reshape.Function

/-- Bytes need not be text for this. -/
def parseJson : Function where
  name := "parse_json"
  parameters := [{ keyword := "value" }]
  body := .plain fun args => do
    let data ←
      match ← args.required 0 with
      | .string s => pure (Text.encode s)
      | .bytes data => pure data
      | other => throw (.ofKind "string" other)
    match Value.readJson data with
    | .ok v => return v
    | .error e => throw (.notConvertible s!"unable to parse json: {e}")

def encodeJson : Function where
  name := "encode_json"
  parameters := [{ keyword := "value" }]
  fallible := false
  body := .plain fun args => .ok (.string (args.value 0).toJson.render)

def jsonFunctions : List Function := [parseJson, encodeJson]

end Reshape.Function
