/-
Values and JSON documents.

* `Value.ofJson` reads a document as a value: integers of 64 bits with sign stay integers and every other
  number is a float;
* `Value.toJson` is the document of a value, and `Value.writeJson` writes the text of a value without the
  document between. Floats that are no number become null, timestamps and bytes become text.
-/
import Reshape.Json.Reader
import Reshape.Json.Writer
import Reshape.Text.Utf8
import Reshape.Time.Internet
import Reshape.Value.Basic

namespace Reshape.Value

mutual

def ofJson : Json → Value
  | .null => null
  | .boolean b => boolean b
  | .number n =>
    match n.toInt64? with
    | some i => integer i
    | none => float n.toFloat
  | .string s => string s
  | .array items => array (ofJsonItems items)
  | .object members => object (ofJsonMembers members)

def ofJsonItems : List Json → List Value
  | [] => []
  | j :: rest => ofJson j :: ofJsonItems rest

def ofJsonMembers : List (String × Json) → List (String × Value)
  | [] => []
  | (k, j) :: rest => (k, ofJson j) :: ofJsonMembers rest

end

mutual

/-- The document of a value. -/
def toJson : Value → Json
  | null => .null
  | boolean b => .boolean b
  | integer i => .number (.ofInt64 i)
  | float f => if f.isFinite then .number (.float f) else .null
  | string s => .string s
  | timestamp t => .string t.internet
  | bytes data => .string (String.ofList (Text.decodeLossy data))
  | array items => .array (toJsonItems items)
  | object fields => .object (toJsonMembers fields)

def toJsonItems : List Value → List Json
  | [] => []
  | v :: rest => toJson v :: toJsonItems rest

def toJsonMembers : List (String × Value) → List (String × Json)
  | [] => []
  | (k, v) :: rest => (k, toJson v) :: toJsonMembers rest

end

mutual

/-- The JSON text of a value, without blanks. -/
def writeJson : Value → List Char
  | null => ['n', 'u', 'l', 'l']
  | boolean true => ['t', 'r', 'u', 'e']
  | boolean false => ['f', 'a', 'l', 's', 'e']
  | integer i => if i < 0 then '-' :: Nat.toDigits 10 i.toInt.natAbs else Nat.toDigits 10 i.toInt.natAbs
  | float f => if f.isFinite then (Layout.json.write f).toList else ['n', 'u', 'l', 'l']
  | string s => Json.writeString s
  | timestamp t => Json.writeString t.internet
  | bytes data => Json.writeString (String.ofList (Text.decodeLossy data))
  | array items => '[' :: writeJsonItems items ++ [']']
  | object fields => '\x7b' :: writeJsonMembers fields ++ ['\x7d']

def writeJsonItems : List Value → List Char
  | [] => []
  | [v] => writeJson v
  | v :: rest => writeJson v ++ ',' :: writeJsonItems rest

def writeJsonMembers : List (String × Value) → List Char
  | [] => []
  | [(k, v)] => Json.writeString k ++ ':' :: writeJson v
  | (k, v) :: rest => Json.writeString k ++ ':' :: writeJson v ++ ',' :: writeJsonMembers rest

end

/-- The JSON text of a value. -/
def jsonText (v : Value) : String :=
  String.ofList v.writeJson

/-- The value of a JSON document, or the message that says why there is none. -/
def readJson (bytes : List UInt8) : Except String Value :=
  (Json.read bytes).map ofJson

end Reshape.Value
