/-
Functions that encode, digest and identify.
-/
import Reshape.Codec.Base64
import Reshape.Codec.Identifier
import Reshape.Function.Basic
import Reshape.Text.Quoted

namespace Reshape.Function

/-- The bytes of a string or of bytes. -/
def dataOf (args : Arguments) (i : Nat) : Except Failure (List UInt8) := do
  match ← args.required i with
  | .string s => return Text.encode s
  | .bytes data => return data
  | other => throw (.ofKind "string or bytes" other)

def encodeBase64 : Function where
  name := "encode_base64"
  parameters := [{ keyword := "value" }]
  body := .plain fun args => do return .string (String.ofList (Base64.encode (← dataOf args 0)))

/-- A string if the bytes are text, otherwise bytes. -/
def textOrBytes (data : List UInt8) : Value :=
  match Text.decode? data with
  | some s => .string s
  | none => .bytes data

def decodeBase64 : Function where
  name := "decode_base64"
  parameters := [{ keyword := "value" }]
  body := .plain fun args => do
    match Base64.decode (← dataOf args 0) with
    | .ok data => return textOrBytes data
    | .error e => throw (.notConvertible s!"unable to decode base64: {e.message}")

/-- The digest of a variant, if there is one of that name. -/
def digest? : String → Option (List UInt8 → List UInt8)
  | "SHA-224" => some Sha2.sha224
  | "SHA-256" => some Sha2.sha256
  | "SHA-384" => some Sha2.sha384
  | "SHA-512" => some Sha2.sha512
  | _ => none

def sha2 : Function where
  name := "sha2"
  parameters := [{ keyword := "value" }, { keyword := "variant", required := false }]
  body := .plain fun args => do
    let data ← dataOf args 0
    let variant := (← args.optionalString 1).getD "SHA-256"
    match digest? variant with
    | some run => return .string (String.ofList (Sha2.hexText (run data)))
    | none => throw (.invalidArgument s!"unknown sha2 variant {quoted variant}")

def uuid : Function where
  name := "uuid_v4"
  parameters := []
  fallible := false
  body := .outside fun surroundings serial => .string (Identifier.text surroundings.seed serial)

def encodingFunctions : List Function := [encodeBase64, decodeBase64, sha2, uuid]

end Reshape.Function
